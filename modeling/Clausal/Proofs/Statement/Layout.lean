import Clausal.Proofs.Statement.Piece
import Mathlib.Data.List.Basic

/-!
# The layout of statements

Which pieces may stand next to one another. A statement is put together of names, raw texts,
function names, numbers and parameters, and no two of these meet: a fixed word stands between them,
or a parenthesis. What a reader of the finished text can rely on follows by induction on the layout,
with no look at the forms of expressions and clauses.
-/

namespace Clausal

/-! ## Names -/

namespace Mark

def name? : Mark → Option String
  | name s => some s
  | _ => none

/-- The names among marks. -/
def names (ms : List Mark) : List String :=
  ms.filterMap name?

@[simp] theorem names_append (ms ns : List Mark) : names (ms ++ ns) = names ms ++ names ns :=
  List.filterMap_append

@[simp] theorem names_name (s : String) (ms : List Mark) : names (name s :: ms) = s :: names ms :=
  rfl

@[simp] theorem names_enter (d : Nat) (ms : List Mark) : names (enter d :: ms) = names ms := rfl

@[simp] theorem names_ofOperands (tag : ExprTag) (es : List Expr) :
    names (ofOperands tag es) = [] := by
  cases es <;> rfl

@[simp] theorem names_ofEmptiness {ks : List ClauseKind} (m : Clauses ks) :
    names (ofEmptiness m) = [] := by
  unfold ofEmptiness
  split <;> rfl

theorem names_map_name (ns : List String) : names (ns.map name) = ns := by
  induction ns with
  | nil => rfl
  | cons s ns ih => rw [List.map_cons, names_name, ih]

end Mark

/-- The names of a clause map, in the order of the traversal. -/
def Clauses.names {ks : List ClauseKind} (m : Clauses ks) : List String :=
  Mark.names m.traversal

/-! ## Quoted texts -/

namespace Ident

theorem quote_ne_empty (s : String) : quote s ≠ "" := by
  intro h
  have hchars : quoteChars s.toList = [] := by
    simpa [quote] using congrArg String.toList h
  unfold quoteChars at hchars
  split at hchars
  · next hquoted => simp [hchars] at hquoted
  · cases hchars

theorem list_ne_empty (ns : List String) : list ns ≠ "" := by
  intro h
  have hchars := congrArg String.toList h
  simp [list] at hchars

end Ident

/-! ## Fixed texts -/

/-- A character that neither begins nor ends anything: no digit, no dollar sign, no quote and no
parenthesis. -/
def isPlainChar (c : Char) : Bool :=
  !c.isDigit && c != '$' && c != '"' && c != '(' && c != ')'

/-- A text that may stand between two others. -/
def isWord (s : String) : Bool :=
  !s.toList.isEmpty && s.toList.all isPlainChar

/-- A text that ends in a parenthesis to be closed. -/
def isOpening (s : String) : Bool :=
  s.toList.getLast? == some '(' && s.toList.dropLast.all isPlainChar

theorem exists_of_isWord {s : String} (h : isWord s = true) :
    ∃ c cs, s.toList = c :: cs ∧ ∀ x ∈ c :: cs, isPlainChar x = true := by
  unfold isWord at h
  obtain ⟨hne, hall⟩ := Bool.and_eq_true_iff.mp h
  cases hs : s.toList with
  | nil => rw [hs] at hne; cases hne
  | cons c cs =>
    refine ⟨c, cs, rfl, ?_⟩
    rw [← hs]
    exact List.all_eq_true.mp hall

theorem exists_of_isOpening {s : String} (h : isOpening s = true) :
    ∃ cs, s.toList = cs ++ ['('] ∧ ∀ x ∈ cs, isPlainChar x = true := by
  unfold isOpening at h
  obtain ⟨hlast, hall⟩ := Bool.and_eq_true_iff.mp h
  refine ⟨s.toList.dropLast, ?_, List.all_eq_true.mp hall⟩
  exact (List.dropLast_append_getLast? _ (beq_iff_eq.mp hlast)).symm

theorem BinaryOp.isWord_sql (op : BinaryOp) : isWord op.sql = true := by
  cases op <;> decide

theorem JoinKind.isWord_sql (kind : JoinKind) : isWord kind.sql = true := by
  cases kind <;> decide

theorem Direction.isWord_sql (d : Direction) : isWord d.sql = true := by
  cases d <;> decide

theorem NullsPlacement.isWord_sql (n : NullsPlacement) : isWord n.sql = true := by
  cases n <;> decide

namespace Piece

/-! ## Layouts -/

/-- Pieces in which a word or a parenthesis stands between any two texts that come from a clause
map. `P` holds of what they come from, and the list has the names among them, in their order. -/
inductive Laid (P : Mark → Prop) : List String → List Piece → Prop where
  | nil : Laid P [] []
  | name {s : String} (h : P (.name s)) : Laid P [s] [text (Ident.quote s)]
  | names {ns : List String} (h : ∀ s ∈ ns, P (.name s)) : Laid P ns [text (Ident.list ns)]
  | raw {s : String} (h : P (.raw s)) : Laid P [] [text s]
  | call {s : String} (h : P (.call s)) : Laid P [] [text (upperText s)]
  | param (p : Param) : Laid P [] [param p]
  | number (n : Nat) : Laid P [] [text (natText n)]
  | between {ms ns : List String} {ps qs : List Piece} {w : String} (hps : Laid P ms ps)
    (hw : isWord w = true) (hqs : Laid P ns qs) : Laid P (ms ++ ns) (ps ++ text w :: qs)
  | enclosed {ms ns : List String} {ps qs : List Piece} {o : String} (hps : Laid P ms ps)
    (ho : isOpening o = true) (hqs : Laid P ns qs) :
    Laid P (ms ++ ns) (ps ++ text o :: (qs ++ [text ")"]))

/-- Lists of pieces that are laid out each for itself, with the names of all of them. -/
inductive LaidAll (P : Mark → Prop) : List String → List (List Piece) → Prop where
  | nil : LaidAll P [] []
  | cons {ms ns : List String} {ps : List Piece} {pss : List (List Piece)} (hps : Laid P ms ps)
    (hpss : LaidAll P ns pss) : LaidAll P (ms ++ ns) (ps :: pss)

section Rules

variable {P : Mark → Prop} {ms ns : List String} {ps qs : List Piece} {pss : List (List Piece)}
  {w o : String}

namespace Laid

theorem word (h : isWord w = true) : Laid P [] [text w] :=
  .between .nil h .nil

theorem led (h : isWord w = true) (hqs : Laid P ns qs) : Laid P ns (text w :: qs) :=
  .between .nil h hqs

theorem ended (hps : Laid P ns ps) (h : isWord w = true) : Laid P ns (ps ++ [text w]) := by
  simpa using hps.between h .nil

theorem group (h : isOpening o = true) (hqs : Laid P ns qs) :
    Laid P ns (text o :: (qs ++ [text ")"])) :=
  .enclosed .nil h hqs

/-- A quoted name is some text, and so is a list of names. -/
theorem names_eq_nil_of_silent (h : Laid P ns ps) (hs : silent ps = true) : ns = [] := by
  have hempty : ∀ s, text s ∈ ps → s = "" := by
    intro s hmem
    exact text.inj (beq_iff_eq.mp (List.all_eq_true.mp hs _ hmem))
  cases h with
  | nil | raw _ | call _ | param _ | number _ => rfl
  | @name s _ => exact absurd (hempty _ (List.mem_singleton_self _)) (Ident.quote_ne_empty s)
  | names _ => exact absurd (hempty _ (List.mem_singleton_self _)) (Ident.list_ne_empty ns)
  | between _ hw _ =>
    rw [hempty _ (List.mem_append_right _ (List.mem_cons_self ..))] at hw
    exact absurd hw (by decide)
  | enclosed _ ho _ =>
    rw [hempty _ (List.mem_append_right _ (List.mem_cons_self ..))] at ho
    exact absurd ho (by decide)

theorem ofAlias {alias? : Option String} (h : ∀ mark ∈ Mark.ofAlias alias?, P mark)
    (hps : Laid P ns ps) :
    Laid P (ns ++ Mark.names (Mark.ofAlias alias?)) (ps ++ Piece.ofAlias alias?) := by
  cases alias? with
  | none => simpa [Mark.ofAlias, Mark.names, Piece.ofAlias] using hps
  | some s => exact hps.between (by decide) (.name (h _ (List.mem_singleton_self _)))

end Laid

namespace LaidAll

theorem joined (hw : isWord w = true) (h : LaidAll P ns pss) :
    Laid P ns (Piece.joined w pss) := by
  unfold Piece.joined
  induction h with
  | nil => exact .nil
  | cons hps hpss ih =>
    cases hpss with
    | nil => simpa [List.intercalate_singleton] using hps
    | cons hqs hpss =>
      rw [List.intercalate_cons_cons, List.append_assoc]
      exact hps.between hw ih

/-- Pieces that come to no text have no names, so they can be left out. -/
theorem filter_silent (h : LaidAll P ns pss) : LaidAll P ns (pss.filter (!silent ·)) := by
  induction h with
  | nil => exact .nil
  | @cons ms ns ps pss hps hpss ih =>
    cases hs : silent ps with
    | true =>
      rw [hps.names_eq_nil_of_silent hs, List.filter_cons_of_neg (by simp [hs])]
      exact ih
    | false =>
      rw [List.filter_cons_of_pos (by simp [hs])]
      exact .cons hps ih

theorem phrases (h : LaidAll P ns pss) : Laid P ns (Piece.phrases pss) :=
  h.filter_silent.joined (by decide)

theorem keywordList (hw : isWord w = true) (h : LaidAll P ns pss) :
    Laid P ns (Piece.keywordList w pss) := by
  cases h with
  | nil => exact .word hw
  | cons hps hpss => exact .led hw (.led (by decide) ((LaidAll.cons hps hpss).joined (by decide)))

theorem operands (hw : isWord w = true) {neutral : String} (hneutral : isWord neutral = true)
    (h : LaidAll P ns pss) : Laid P ns (Piece.group w neutral pss) := by
  cases h with
  | nil => exact .word hneutral
  | cons hps hpss => exact .group (by decide) ((LaidAll.cons hps hpss).joined hw)

end LaidAll

end Rules

end Piece

/-! ## The layout of every part -/

open Piece (Laid LaidAll)
open Mark (names)

variable {P : Mark → Prop}

theorem Value.laid (v : Value) (h : P v.mark) : Laid P (names [v.mark]) [v.piece] := by
  cases v with
  | ident name => exact .name h
  | param p => exact .param p
  | raw sql => exact .raw h

theorem Value.laidAll {vs : List Value} (h : ∀ v ∈ vs, P v.mark) :
    LaidAll P (names (vs.map Value.mark)) (vs.map ([·.piece])) := by
  induction vs with
  | nil => exact .nil
  | cons v vs ih =>
    obtain ⟨hv, hvs⟩ := List.forall_mem_cons.mp h
    rw [List.map_cons, ← List.singleton_append, Mark.names_append]
    exact .cons (v.laid hv) (ih hvs)

theorem rowPieces_laid {row : List Value} (h : ∀ v ∈ row, P v.mark) :
    Laid P (names (row.map Value.mark)) (rowPieces row) :=
  .group (by decide) ((Value.laidAll h).joined (by decide))

theorem rowPieces_laidAll {rows : List (List Value)} (h : ∀ row ∈ rows, ∀ v ∈ row, P v.mark) :
    LaidAll P (names (rows.flatten.map Value.mark)) (rows.map rowPieces) := by
  induction rows with
  | nil => exact .nil
  | cons row rows ih =>
    obtain ⟨hrow, hrows⟩ := List.forall_mem_cons.mp h
    rw [List.flatten_cons, List.map_append, Mark.names_append]
    exact .cons (rowPieces_laid hrow) (ih hrows)

theorem rowsPieces_laid {rows : List (List Value)} (h : ∀ row ∈ rows, ∀ v ∈ row, P v.mark) :
    Laid P (names (rows.flatten.map Value.mark)) (rowsPieces rows) := by
  cases rows with
  | nil => exact .word (by decide)
  | cons row rows => exact .led (by decide) ((rowPieces_laidAll h).joined (by decide))

mutual

theorem Expr.laid {d : Nat} : ∀ e : Expr, (∀ mark ∈ e.marks d, P mark) →
    Laid P (names (e.marks d)) e.pieces
  | .value v, h => v.laid (h _ (List.mem_singleton_self _))
  | .binary op l r, h => by
    obtain ⟨hl, hr⟩ := List.forall_mem_append.mp h
    have hleft := (l.laid hl).between (w := " ") (by decide) (.word op.isWord_sql)
    have hall := hleft.between (w := " ") (by decide) (r.laid hr)
    simpa [Expr.marks, Expr.pieces] using hall
  | .and es, h | .or es, h => by
    have hes := Expr.list_laid es (List.forall_mem_append.mp h).2
    rw [Expr.marks, Mark.names_append, Mark.names_ofOperands]
    exact hes.operands (by decide) (by decide)
  | .caseWhen es, h => by
    have hkeyword : Laid P [] [.text "CASE"] := .word (by decide)
    rw [Expr.marks, Mark.names_append, Mark.names_ofOperands]
    exact (Expr.case_laid es (List.forall_mem_append.mp h).2 hkeyword).ended (by decide)
  | .inList negated t es, h => by
    obtain ⟨ht, hes⟩ := List.forall_mem_append.mp h
    have ho : isOpening (if negated then " NOT IN(" else " IN(") = true := by
      cases negated <;> decide
    have hall := (t.laid ht).enclosed ho (Expr.member_laid es hes)
    simpa [Expr.marks, Expr.pieces] using hall
  | .isNull e, h => (e.laid h).ended (by decide)
  | .isNotNull e, h => (e.laid h).ended (by decide)
  | .not e, h => .group (by decide) (e.laid h)
  | .exists_ e, h => by
    unfold Expr.pieces
    split
    · exact .led (by decide) (e.laid h)
    · exact .enclosed (.word (by decide)) (by decide) (e.laid h)
  | .call name es, h => by
    obtain ⟨hname, hes⟩ := List.forall_mem_cons.mp h
    exact .enclosed (.call hname) (by decide) ((Expr.list_laid es hes).joined (by decide))
  | .subquery m, h => by
    have hm := (List.forall_mem_append.mp (List.forall_mem_cons.mp h).2).2
    rw [Expr.marks, Mark.names_enter, Mark.names_append, Mark.names_ofEmptiness]
    exact .group (by decide) (Clauses.laid m hm).phrases

theorem Expr.list_laid {d : Nat} : ∀ es : List Expr, (∀ mark ∈ Expr.listMarks d es, P mark) →
    LaidAll P (names (Expr.listMarks d es)) (Expr.listPieces es)
  | [], _ => .nil
  | e :: es, h => by
    obtain ⟨he, hes⟩ := List.forall_mem_append.mp h
    rw [Expr.listMarks, Mark.names_append]
    exact .cons (e.laid he) (Expr.list_laid es hes)

theorem Expr.member_laid {d : Nat} : ∀ es : List Expr, (∀ mark ∈ Expr.listMarks d es, P mark) →
    Laid P (names (Expr.listMarks d es)) (Expr.memberPieces es)
  | [], _ => .word (by decide)
  | [e], h => by
    have he := (List.forall_mem_append.mp h).1
    have hlone := e.laid he
    rw [Expr.listMarks, Expr.listMarks, List.append_nil]
    cases e with
    | subquery m =>
      have hm := (List.forall_mem_append.mp (List.forall_mem_cons.mp he).2).2
      rw [Expr.marks, Mark.names_enter, Mark.names_append, Mark.names_ofEmptiness]
      exact (Clauses.laid m hm).phrases
    | _ => exact hlone
  | e :: e' :: es, h => by
    obtain ⟨he, hes⟩ := List.forall_mem_append.mp h
    have hrest := Expr.list_laid (e' :: es) hes
    rw [Expr.listMarks, Mark.names_append]
    exact (LaidAll.cons (e.laid he) hrest).joined (by decide)

/-- Every branch of a case expression begins with a word. -/
theorem Expr.case_laid {d : Nat} : ∀ es : List Expr, (∀ mark ∈ Expr.listMarks d es, P mark) →
    ∀ {ns : List String} {ps : List Piece}, Laid P ns ps →
      Laid P (ns ++ names (Expr.listMarks d es)) (ps ++ Expr.casePieces es)
  | [], _, ns, ps, hps => by
    simpa [Expr.casePieces, Expr.listMarks, names] using hps
  | [e], h, ns, ps, hps => by
    rw [Expr.listMarks, Expr.listMarks, List.append_nil]
    exact hps.between (by decide) (e.laid (List.forall_mem_append.mp h).1)
  | c :: r :: es, h, ns, ps, hps => by
    obtain ⟨hc, hrest⟩ := List.forall_mem_append.mp h
    obtain ⟨hr, hes⟩ := List.forall_mem_append.mp hrest
    have hwhen := hps.between (w := " WHEN ") (by decide) (c.laid hc)
    have hthen := hwhen.between (w := " THEN ") (by decide) (r.laid hr)
    have hall := Expr.case_laid es hes hthen
    simpa [Expr.listMarks, Expr.casePieces] using hall

theorem Table.laid {d : Nat} : ∀ t : Table, (∀ mark ∈ t.marks d, P mark) →
    Laid P (names (t.marks d)) t.pieces
  | .named name _, h => by
    obtain ⟨hname, halias⟩ := List.forall_mem_cons.mp h
    exact .ofAlias halias (.name hname)
  | .derived m _, h => by
    obtain ⟨hm, halias⟩ := List.forall_mem_append.mp h
    have hclauses := Clauses.laid m (List.forall_mem_append.mp (List.forall_mem_cons.mp hm).2).2
    have hgroup : Laid P _ (.text "(" :: (_ ++ [.text ")"])) :=
      .group (by decide) hclauses.phrases
    simpa [Table.marks, Table.pieces] using hgroup.ofAlias halias

theorem Join.laid {d : Nat} : ∀ j : Join, (∀ mark ∈ j.marks d, P mark) →
    Laid P (names (j.marks d)) j.pieces
  | .mk kind t on, h => by
    obtain ⟨ht, hon⟩ := List.forall_mem_append.mp h
    have htable := Laid.led kind.isWord_sql (.led (w := " JOIN ") (by decide) (t.laid ht))
    have hall := htable.between (w := " ON ") (by decide) (on.laid hon)
    simpa [Join.marks, Join.pieces] using hall

theorem Join.list_laid {d : Nat} : ∀ js : List Join, (∀ mark ∈ Join.listMarks d js, P mark) →
    LaidAll P (names (Join.listMarks d js)) (Join.listPieces js)
  | [], _ => .nil
  | j :: js, h => by
    obtain ⟨hj, hjs⟩ := List.forall_mem_append.mp h
    rw [Join.listMarks, Mark.names_append]
    exact .cons (j.laid hj) (Join.list_laid js hjs)

theorem OrderItem.laid {d : Nat} : ∀ i : OrderItem, (∀ mark ∈ i.marks d, P mark) →
    Laid P (names (i.marks d)) i.pieces
  | .mk e direction nulls, h => by
    have hnulls : Laid P [] [.text " ", .text nulls.sql] :=
      .led (by decide) (.word nulls.isWord_sql)
    have hall := (e.laid h).between (w := " ") (by decide) (.led direction.isWord_sql hnulls)
    simpa [OrderItem.marks, OrderItem.pieces] using hall

theorem OrderItem.list_laid {d : Nat} : ∀ is : List OrderItem,
    (∀ mark ∈ OrderItem.listMarks d is, P mark) →
      LaidAll P (names (OrderItem.listMarks d is)) (OrderItem.listPieces is)
  | [], _ => .nil
  | i :: is, h => by
    obtain ⟨hi, his⟩ := List.forall_mem_append.mp h
    rw [OrderItem.listMarks, Mark.names_append]
    exact .cons (i.laid hi) (OrderItem.list_laid is his)

theorem Clause.laid {d : Nat} : ∀ {k : ClauseKind} (c : Clause k), (∀ mark ∈ c.marks d, P mark) →
    Laid P (names (c.marks d)) c.pieces
  | _, .select es, h | _, .doUpdate es, h | _, .set es, h | _, .groupBy es, h
  | _, .returning es, h => (Expr.list_laid es h).keywordList (by decide)
  | _, .selectDistinct on es, h => by
    obtain ⟨hon, hes⟩ := List.forall_mem_append.mp h
    have hkeyword : Laid P [] [.text "SELECT DISTINCT"] := .word (by decide)
    have hexprs := (Expr.list_laid es hes).joined (w := ", ") (by decide)
    rw [Clause.marks, Mark.names_append]
    cases on with
    | nil =>
      cases es with
      | nil => exact hkeyword
      | cons e es => exact hkeyword.between (w := " ") (by decide) hexprs
    | cons e on =>
      have hparts := (Expr.list_laid (e :: on) hon).joined (w := ", ") (by decide)
      have hstart := hkeyword.enclosed (o := " ON (") (by decide) hparts
      cases es with
      | nil => simpa [Clause.pieces, Expr.listMarks, names] using hstart
      | cons e es => simpa [Clause.pieces] using hstart.between (w := " ") (by decide) hexprs
  | _, .insertInto t, h | _, .update t, h | _, .from_ t, h => .led (by decide) (t.laid h)
  | _, .columns ns, h => by
    rw [Clause.marks, Mark.names_map_name]
    unfold Clause.pieces
    split
    · next hns =>
      rw [List.isEmpty_iff.mp hns]
      exact .nil
    · exact .names (List.forall_mem_map.mp h)
  | _, .values rows, h => by
    refine rowsPieces_laid ?_
    intro row hrow v hv
    exact h _ (List.mem_map_of_mem (List.mem_flatten_of_mem hrow hv))
  | _, .onConflict ns, h => by
    rw [Clause.marks, Mark.names_map_name]
    unfold Clause.pieces
    split
    · next hns =>
      rw [List.isEmpty_iff.mp hns]
      exact .word (by decide)
    · exact .led (by decide) (.led (by decide) (.names (List.forall_mem_map.mp h)))
  | _, .doNothing, _ => .word (by decide)
  | _, .forUpdate, _ => .word (by decide)
  | _, .join js, h => (Join.list_laid js h).joined (by decide)
  | _, .where_ e, h | _, .having e, h => .led (by decide) (e.laid h)
  | _, .orderBy is, h => (OrderItem.list_laid is h).keywordList (by decide)
  | _, .limit n, _ | _, .offset n, _ => .led (by decide) (.number n.toNat)

theorem Clauses.laid {d : Nat} : ∀ {ks : List ClauseKind} (m : Clauses ks),
    (∀ mark ∈ m.marks d, P mark) → LaidAll P (names (m.marks d)) m.clausePieces
  | _, .nil, _ => .nil
  | _, .absent rest, h => Clauses.laid rest h
  | _, .present c rest, h => by
    obtain ⟨hc, hrest⟩ := List.forall_mem_append.mp h
    rw [Clauses.marks, Mark.names_append]
    exact .cons (c.laid hc) (Clauses.laid rest hrest)

end

/-- The statement of a clause map is laid out. -/
theorem Clauses.pieces_laid {ks : List ClauseKind} (m : Clauses ks)
    (h : ∀ mark ∈ m.traversal, P mark) : Laid P m.names m.pieces := by
  rw [Clauses.names, Clauses.traversal, Mark.names_append, Mark.names_ofEmptiness]
  exact (m.laid (List.forall_mem_append.mp h).2).phrases

end Clausal
