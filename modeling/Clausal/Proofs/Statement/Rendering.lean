import Clausal.Proofs.Statement.QuotedNames
import Clausal.Proofs.Statement.Simulation

/-!
# Rendering in two phases

The parts of a clause map perform as their marks and pieces say, one case for each constructor.
Hence rendering a map is looking for the first fault among the marks of its traversal and, when
there is none, numbering its pieces: `Clauses.render_eq`.
-/

namespace Clausal

open Clausal.Action (Performs PerformAll)

/-! ## Marks that writing passes by -/

@[simp] theorem Mark.filterMap_ofOperands (tag : ExprTag) (es : List Expr) :
    (ofOperands tag es).filterMap param? = [] := by
  cases es <;> rfl

theorem Mark.firstFault_ofOperands {tag : ExprTag} (h : tag ≠ .caseWhen) (limit : DepthLimit)
    (es : List Expr) : firstFault limit (ofOperands tag es) = none := by
  cases es with
  | nil =>
    cases tag with
    | caseWhen => exact absurd rfl h
    | _ => rfl
  | cons e es => rfl

/-! ## Parts without recursion -/

theorem Value.write_performs (v : Value) : v.write.Performs (fun _ => [v.mark]) [v.piece] := by
  cases v with
  | ident name => exact .putMark _ (fun _ => rfl) rfl
  | param p => exact .bind p
  | raw sql => exact .putMark sql (fun _ => rfl) rfl

theorem aliasSuffix_performs (alias? : Option String) :
    (aliasSuffix alias?).Performs (fun _ => Mark.ofAlias alias?) (Piece.ofAlias alias?) := by
  cases alias? with
  | none => exact .skip
  | some name =>
    exact (PerformAll.cons (.put " ") (.cons (.putMark _ (fun _ => rfl) rfl) .nil)).all

theorem Value.writeAll_performAll (vs : List Value) :
    PerformAll (vs.map Value.write) (fun _ => vs.map Value.mark) (vs.map ([·.piece])) := by
  induction vs with
  | nil => exact .nil
  | cons v vs ih => exact .cons v.write_performs ih

theorem writeRow_performs (row : List Value) :
    (writeRow row).Performs (fun _ => row.map Value.mark) (rowPieces row) := by
  have hvalues := (Value.writeAll_performAll row).separated ", "
  simpa [writeRow, rowPieces] using
    (PerformAll.cons (.put "(") (.cons hvalues (.cons (.put ")") .nil))).all

theorem writeRow_performAll (rows : List (List Value)) :
    PerformAll (rows.map writeRow) (fun _ => rows.flatten.map Value.mark)
      (rows.map rowPieces) := by
  induction rows with
  | nil => exact .nil
  | cons row rows ih => simpa using PerformAll.cons (writeRow_performs row) ih

theorem writeRows_performs (rows : List (List Value)) :
    (writeRows rows).Performs (fun _ => rows.flatten.map Value.mark) (rowsPieces rows) := by
  cases rows with
  | nil => exact .put _
  | cons row rows =>
    have hrows := (writeRow_performAll (row :: rows)).separated ", "
    simpa [writeRows, rowsPieces] using (PerformAll.cons (.put "VALUES ") (.cons hrows .nil)).all

/-- The names of columns are written one by one; together they are one piece. -/
theorem putIdents_performs (names : List String) :
    (Action.putIdents names).Performs (fun _ => names.map .name) [.text (Ident.list names)] := by
  rw [Action.putIdents_eq]
  apply (Performs.put (Ident.list names)).marks_congr
  · intro limit d
    apply List.findSome?_eq_none_iff.mpr
    intro m hm
    obtain ⟨name, -, rfl⟩ := List.mem_map.mp hm
    rfl
  · intro d
    apply List.filterMap_eq_nil_iff.mpr
    intro m hm
    obtain ⟨name, -, rfl⟩ := List.mem_map.mp hm
    rfl

/-! ## Clause maps, given their clauses -/

theorem Clauses.isEmpty_write {ks : List ClauseKind} (m : Clauses ks) :
    m.write.isEmpty = m.isEmpty := by
  cases m with
  | nil => rfl
  | absent rest => exact rest.isEmpty_write
  | present c rest => rfl

variable {ks : List ClauseKind}

theorem Clauses.statement_performs {m : Clauses ks}
    (h : PerformAll m.write (fun d => m.marks d) m.clausePieces) :
    (statement m.write).Performs (fun d => Mark.ofEmptiness m ++ m.marks d)
      (Piece.phrases m.clausePieces) := by
  simpa only [Mark.ofEmptiness, m.isEmpty_write] using h.statement

theorem Clauses.parenthesized_performs {m : Clauses ks}
    (h : PerformAll m.write (fun d => m.marks d) m.clausePieces) :
    (parenthesized m.write).Performs
      (fun d => .enter (d + 1) :: (Mark.ofEmptiness m ++ m.marks (d + 1)))
      ([.text "("] ++ Piece.phrases m.clausePieces ++ [.text ")"]) := by
  have hinner := (PerformAll.cons (.put "(")
    (.cons (statement_performs h) (.cons (.put ")") .nil))).all.nested
  simpa [parenthesized] using hinner

/-! ## The simulation -/

-- By recursion on the part. The marks are those at every depth, because a clause map inside the
-- part is written one level deeper.
mutual

theorem Expr.write_performs : ∀ e : Expr, e.write.Performs (fun d => e.marks d) e.pieces
  | .value v => v.write_performs
  | .binary op l r => by
    have hop := PerformAll.cons (.put op.sql) (.cons (.put " ") (.cons r.write_performs .nil))
    simpa [Expr.write, Expr.marks, Expr.pieces] using
      (PerformAll.cons l.write_performs (.cons (.put " ") hop)).all
  | .and es => by
    have h := (Expr.writeList_performAll es).group " AND " "TRUE"
    refine h.marks_congr (fun limit d => ?_) (fun d => ?_)
    · simp [Expr.marks, Mark.firstFault_ofOperands]
    · simp [Expr.marks]
  | .or es => by
    have h := (Expr.writeList_performAll es).group " OR " "FALSE"
    refine h.marks_congr (fun limit d => ?_) (fun d => ?_)
    · simp [Expr.marks, Mark.firstFault_ofOperands]
    · simp [Expr.marks]
  | .caseWhen [] => .fail _ (fun _ => rfl) rfl rfl
  | .caseWhen (e :: es) => by
    have h := Expr.writeCases_performs (e :: es)
    simpa [Expr.write, Expr.marks, Expr.pieces, Mark.ofOperands] using
      (PerformAll.cons (.put "CASE") (.cons h (.cons (.put " END") .nil))).all
  | .inList negated t es => by
    have hes := PerformAll.cons (Expr.writeMembers_performs es) (.cons (.put ")") .nil)
    simpa [Expr.write, Expr.marks, Expr.pieces] using
      (PerformAll.cons t.write_performs (.cons (.put _) hes)).all
  | .isNull e => by
    simpa [Expr.write, Expr.marks, Expr.pieces] using
      (PerformAll.cons e.write_performs (.cons (.put " IS NULL") .nil)).all
  | .isNotNull e => by
    simpa [Expr.write, Expr.marks, Expr.pieces] using
      (PerformAll.cons e.write_performs (.cons (.put " IS NOT NULL") .nil)).all
  | .not e => by
    simpa [Expr.write, Expr.marks, Expr.pieces] using
      (PerformAll.cons (.put "NOT (") (.cons e.write_performs (.cons (.put ")") .nil))).all
  | .exists_ e => by
    -- A subquery has parentheses of its own, any other operand is given some.
    cases h : e.isSubquery with
    | true =>
      simpa [Expr.write, Expr.marks, Expr.pieces, h] using
        (PerformAll.cons (.put "EXISTS ") (.cons e.write_performs .nil)).all
    | false =>
      have he := PerformAll.cons (.put "(") (.cons e.write_performs (.cons (.put ")") .nil))
      simpa [Expr.write, Expr.marks, Expr.pieces, h] using (he.cons (.put "EXISTS ")).all
  | .call name es => by
    have hname : (Action.put (upperText name)).Performs (fun _ => [.call name])
      [.text (upperText name)] := .putMark _ (fun _ => rfl) rfl
    have hargs := (Expr.writeList_performAll es).separated ", "
    simpa [Expr.write, Expr.marks, Expr.pieces] using
      (PerformAll.cons hname (.cons (.put "(") (.cons hargs (.cons (.put ")") .nil)))).all
  | .subquery m => Clauses.parenthesized_performs (Clauses.write_performAll m)

theorem Expr.writeList_performAll : ∀ es : List Expr,
    PerformAll (Expr.writeList es) (fun d => Expr.listMarks d es) (Expr.listPieces es)
  | [] => .nil
  | e :: es => .cons e.write_performs (Expr.writeList_performAll es)

theorem Expr.writeMembers_performs : ∀ es : List Expr,
    (Expr.writeMembers es).Performs (fun d => Expr.listMarks d es) (Expr.memberPieces es)
  | [] => .put "NULL"
  | [e] => by
    have he := e.write_performs
    -- A lone subquery goes without the parentheses that it has elsewhere.
    cases e with
    | subquery m =>
      simpa [Expr.writeMembers, Expr.listMarks, Expr.marks, Expr.memberPieces] using
        (Clauses.statement_performs (Clauses.write_performAll m)).nested
    | _ => simpa [Expr.writeMembers, Expr.listMarks, Expr.memberPieces] using he
  | e :: e' :: es =>
    (PerformAll.cons e.write_performs (Expr.writeList_performAll (e' :: es))).separated ", "

theorem Expr.writeCases_performs : ∀ es : List Expr,
    (Action.all (Expr.writeCases es)).Performs (fun d => Expr.listMarks d es) (Expr.casePieces es)
  | [] => .skip
  | [e] => by
    have he := (PerformAll.cons (.put " ELSE ") (.cons e.write_performs .nil)).all
    simpa [Expr.writeCases, Expr.listMarks, Expr.casePieces] using (PerformAll.cons he .nil).all
  | c :: r :: es => by
    have hresult := PerformAll.cons (.put " THEN ") (.cons r.write_performs .nil)
    have hbranch := (PerformAll.cons (.put " WHEN ") (.cons c.write_performs hresult)).all
    have hall : (Action.all (_ :: Expr.writeCases es)).Performs _ _ :=
      hbranch.andThen (Expr.writeCases_performs es)
    simpa [Expr.writeCases, Expr.listMarks, Expr.casePieces] using hall

theorem Table.write_performs : ∀ t : Table, t.write.Performs (fun d => t.marks d) t.pieces
  | .named name alias? => by
    have hname : (Action.putIdent name).Performs (fun _ => [.name name])
      [.text (Ident.quote name)] := .putMark _ (fun _ => rfl) rfl
    simpa [Table.write, Table.marks, Table.pieces] using
      (PerformAll.cons hname (.cons (aliasSuffix_performs alias?) .nil)).all
  | .derived m alias? => by
    have hm := Clauses.parenthesized_performs (Clauses.write_performAll m)
    simpa [Table.write, Table.marks, Table.pieces] using
      (PerformAll.cons hm (.cons (aliasSuffix_performs alias?) .nil)).all

theorem Join.write_performs : ∀ j : Join, j.write.Performs (fun d => j.marks d) j.pieces
  | .mk kind t on => by
    have hon := PerformAll.cons (.put " ON ") (.cons on.write_performs .nil)
    simpa [Join.write, Join.marks, Join.pieces] using
      (PerformAll.cons (.put kind.sql) (.cons (.put " JOIN ") (.cons t.write_performs hon))).all

theorem Join.writeList_performAll : ∀ js : List Join,
    PerformAll (Join.writeList js) (fun d => Join.listMarks d js) (Join.listPieces js)
  | [] => .nil
  | j :: js => .cons j.write_performs (Join.writeList_performAll js)

theorem OrderItem.write_performs : ∀ i : OrderItem,
    i.write.Performs (fun d => i.marks d) i.pieces
  | .mk e direction nulls => by
    have hnulls := PerformAll.cons (.put " ") (.cons (.put nulls.sql) .nil)
    simpa [OrderItem.write, OrderItem.marks, OrderItem.pieces] using
      (PerformAll.cons e.write_performs (.cons (.put " ") (.cons (.put direction.sql) hnulls))).all

theorem OrderItem.writeList_performAll : ∀ is : List OrderItem,
    PerformAll (OrderItem.writeList is) (fun d => OrderItem.listMarks d is)
      (OrderItem.listPieces is)
  | [] => .nil
  | i :: is => .cons i.write_performs (OrderItem.writeList_performAll is)

theorem Clause.write_performs : ∀ {k : ClauseKind} (c : Clause k),
    c.write.Performs (fun d => c.marks d) c.pieces
  | _, .select es => (Expr.writeList_performAll es).keywordList "SELECT"
  | _, .selectDistinct on es => by
    have hon := (Expr.writeList_performAll on).separated ", "
    have hes := (Expr.writeList_performAll es).separated ", "
    have hon' := (PerformAll.cons (.put " ON (") (.cons hon (.cons (.put ")") .nil))).all
    have hes' := (PerformAll.cons (.put " ") (.cons hes .nil)).all
    cases on <;> cases es
    · exact (PerformAll.cons (.put "SELECT DISTINCT") (.cons .skip (.cons .skip .nil))).all
    · simpa [Clause.write, Clause.marks, Expr.listMarks, Clause.pieces] using
        (PerformAll.cons (.put "SELECT DISTINCT") (.cons .skip (.cons hes' .nil))).all
    · simpa [Clause.write, Clause.marks, Expr.listMarks, Clause.pieces] using
        (PerformAll.cons (.put "SELECT DISTINCT") (.cons hon' (.cons .skip .nil))).all
    · simpa [Clause.write, Clause.marks, Clause.pieces] using
        (PerformAll.cons (.put "SELECT DISTINCT") (.cons hon' (.cons hes' .nil))).all
  | _, .insertInto t => by
    simpa [Clause.write, Clause.marks, Clause.pieces] using
      (PerformAll.cons (.put "INSERT INTO ") (.cons t.write_performs .nil)).all
  | _, .update t => by
    simpa [Clause.write, Clause.marks, Clause.pieces] using
      (PerformAll.cons (.put "UPDATE ") (.cons t.write_performs .nil)).all
  | _, .columns [] => .skip
  | _, .columns (name :: names) => putIdents_performs (name :: names)
  | _, .values rows => writeRows_performs rows
  | _, .onConflict [] => .put _
  | _, .onConflict (name :: names) => by
    have hnames := putIdents_performs (name :: names)
    simpa [Clause.write, Clause.marks, Clause.pieces] using
      (PerformAll.cons (.put "ON CONFLICT") (.cons (.put " ") (.cons hnames .nil))).all
  | _, .doUpdate es => (Expr.writeList_performAll es).keywordList "DO UPDATE SET"
  | _, .doNothing => .put _
  | _, .set es => (Expr.writeList_performAll es).keywordList "SET"
  | _, .from_ t => by
    simpa [Clause.write, Clause.marks, Clause.pieces] using
      (PerformAll.cons (.put "FROM ") (.cons t.write_performs .nil)).all
  | _, .join js => (Join.writeList_performAll js).separated " "
  | _, .where_ e => by
    simpa [Clause.write, Clause.marks, Clause.pieces] using
      (PerformAll.cons (.put "WHERE ") (.cons e.write_performs .nil)).all
  | _, .groupBy es => (Expr.writeList_performAll es).keywordList "GROUP BY"
  | _, .having e => by
    simpa [Clause.write, Clause.marks, Clause.pieces] using
      (PerformAll.cons (.put "HAVING ") (.cons e.write_performs .nil)).all
  | _, .orderBy is => (OrderItem.writeList_performAll is).keywordList "ORDER BY"
  | _, .limit n => (PerformAll.cons (.put "LIMIT ") (.cons (.put (natText n.toNat)) .nil)).all
  | _, .offset n => (PerformAll.cons (.put "OFFSET ") (.cons (.put (natText n.toNat)) .nil)).all
  | _, .forUpdate => .put _
  | _, .returning es => (Expr.writeList_performAll es).keywordList "RETURNING"

theorem Clauses.write_performAll : ∀ {ks : List ClauseKind} (m : Clauses ks),
    PerformAll m.write (fun d => m.marks d) m.clausePieces
  | _, .nil => .nil
  | _, .absent rest => rest.write_performAll
  | _, .present c rest => .cons c.write_performs rest.write_performAll

end

/-! ## Rendering -/

/-- Rendering a clause map gives the first fault of its traversal, or else the numbered pieces. -/
theorem Clauses.render_eq (limit : DepthLimit) (m : Clauses ks) :
    m.render limit =
      match firstFault limit m.traversal with
      | none => .ok (Statement.ofPieces m.pieces)
      | some e => .error e := by
  have h := Clauses.statement_performs m.write_performAll
  have hf := h.fault (Writer.start limit)
  have hw := h.written (Writer.start limit)
  change _ = firstFault limit m.traversal at hf
  rw [Clauses.render]
  rcases hr : statement m.write (Writer.start limit) with ⟨w, e⟩
  rw [hr] at hf hw
  cases e with
  | none =>
    rw [← hf]
    obtain rfl : w = (Writer.start limit).emit m.pieces := hw rfl
    simp [Writer.emit, Writer.start, Statement.ofPieces]
  | some e => rw [← hf]

theorem Clauses.filterMap_pieces (m : Clauses ks) :
    m.pieces.filterMap Piece.param? = m.params :=
  ((Clauses.statement_performs m.write_performAll).params 0).symm

theorem Clauses.eq_ofPieces {limit : DepthLimit} {m : Clauses ks} {s : Statement}
    (h : m.render limit = .ok s) : s = Statement.ofPieces m.pieces := by
  rw [Clauses.render_eq] at h
  cases hf : firstFault limit m.traversal with
  | none => rw [hf] at h; exact (Except.ok.inj h).symm
  | some e => rw [hf] at h; cases h

theorem Clauses.values_of_render {limit : DepthLimit} {m : Clauses ks} {s : Statement}
    (h : m.render limit = .ok s) : s.values = m.params := by
  rw [Clauses.eq_ofPieces h]
  exact m.filterMap_pieces

theorem Clauses.text_render_mapParams (f : Param → Param) (limit : DepthLimit) (m : Clauses ks) :
    ((m.mapParams f).render limit).map Statement.text = (m.render limit).map Statement.text := by
  rw [Clauses.render_eq, Clauses.render_eq, Clauses.traversal_mapParams, firstFault_map]
  cases firstFault limit m.traversal with
  | some e => rfl
  | none =>
    have htext : (Statement.ofPieces (m.mapParams f).pieces).text
        = (Statement.ofPieces m.pieces).text := by
      simp only [Statement.ofPieces, Clauses.pieces_mapParams, Piece.textFrom_map]
    exact congrArg Except.ok htext

/-- A parameter is the value of the placeholder that stands in its place. -/
theorem Statement.ofPieces_split (ps qs : List Piece) (p : Param) :
    let n := (ps.filterMap Piece.param?).length
    (ofPieces (ps ++ .param p :: qs)).text
        = Piece.textFrom 0 ps ++ Action.placeholder (n + 1) ++ Piece.textFrom (n + 1) qs ∧
      (ofPieces (ps ++ .param p :: qs)).values[n]? = some p := by
  simp [ofPieces, Piece.textFrom_append, Piece.textFrom, Piece.param?, String.append_assoc]

/-- A statement is what the two phases give: its text is the pieces one after the other, with the
`k`-th parameter written as the placeholder with number `k`, and its values are the parameters in
the order of the traversal. -/
theorem Clauses.eq_ofPieces_of_render {limit : DepthLimit} {m : ClauseMap} {s : Statement}
    (h : m.render limit = .ok s) :
    s = Statement.ofPieces m.pieces ∧ s.values = m.params ∧
      ∀ ps p qs, m.pieces = ps ++ .param p :: qs →
        let n := (ps.filterMap Piece.param?).length
        s.text = Piece.textFrom 0 ps ++ Action.placeholder (n + 1) ++ Piece.textFrom (n + 1) qs ∧
          s.values[n]? = some p := by
  have hs := Clauses.eq_ofPieces h
  refine ⟨hs, Clauses.values_of_render h, ?_⟩
  intro ps p qs hsplit
  rw [hs, hsplit]
  exact Statement.ofPieces_split ps qs p

/-- Values are bound before, in and after a subquery, and a clause without text stands between. -/
theorem Clauses.eq_ofPieces_of_render_nested :
    let inner := ClauseMap.ofList
      [⟨_, .select [.param (.int 2)]⟩, ⟨_, .where_ (.binary .eq (.ident "z") (.param (.int 3)))⟩]
    let m := ClauseMap.ofList
      [⟨_, .select [.param (.int 1), .subquery inner]⟩, ⟨_, .columns []⟩,
        ⟨_, .where_ (.inList false (.ident "t.x") [.param (.int 4)])⟩]
    let s : Statement :=
      ⟨"SELECT $1, (SELECT $2 WHERE \"z\" = $3) WHERE \"t\".\"x\" IN($4)",
        [.int 1, .int 2, .int 3, .int 4]⟩
    m.render (some 1) = .ok s ∧ s = Statement.ofPieces m.pieces ∧ s.values = m.params := by
  intro inner m s
  have h : m.render (some 1) = .ok s := by
    rw [Clauses.render_eq]
    rfl
  have hs := Clauses.eq_ofPieces_of_render h
  exact ⟨h, hs.1, hs.2.1⟩

end Clausal
