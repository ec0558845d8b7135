import Clausal.Document.Decode
import Clausal.Document.Encode
import Clausal.Proofs.Json.Fields
import Clausal.Proofs.Param.JsonForm
import Clausal.Proofs.Query.Slots
import Mathlib.Data.List.Perm.Basic

/-!
# Reading what was written

The document of a part of a clause map, read under any depth limit. Whether it can be read is
decided by the marks of the part alone: there must be no group without operands and no clause map
beyond the limit. Then the part comes back, with its parameters as their JSON forms are read. The
marks are those at the depth at which the document is read, because writing a document adds no level
of its own.
-/

namespace Clausal

open Document

/-- Whether a document with the mark in it can be read. -/
def Mark.isReadable (limit : DepthLimit) : Mark → Bool
  | .hollow _ => false
  | .enter depth => limit.all (depth ≤ ·)
  | _ => true

theorem Value.isReadable_mark (limit : DepthLimit) (v : Value) :
    v.mark.isReadable limit = true := by
  cases v <;> rfl

/-- The errors that reading a document that was written can end with. -/
def QueryError.isRefusal (limit : DepthLimit) : QueryError → Bool
  | .malformed _ => true
  | .depthExceeded n => limit == some n
  | _ => false

/-- What reading the document of a part comes to, by the marks of the part. -/
inductive ReadsBack {α : Type} (limit : DepthLimit) (ms : List Mark) (a : α) :
    Except QueryError α → Prop where
  | ok (h : ms.all (Mark.isReadable limit) = true) : ReadsBack limit ms a (.ok a)
  | error {e : QueryError} (h : ms.all (Mark.isReadable limit) = false)
    (he : e.isRefusal limit = true) : ReadsBack limit ms a (.error e)

namespace ReadsBack

variable {α β : Type} {limit : DepthLimit} {ms ns : List Mark} {a : α} {b : β}
  {x : Except QueryError α} {k : α → Except QueryError β}

theorem of_eq_ok (h : x = .ok a) : ReadsBack limit [] a x := by
  rw [h]
  exact .ok rfl

theorem congr (h : ReadsBack limit ms a x)
    (hms : ns.all (Mark.isReadable limit) = ms.all (Mark.isReadable limit)) :
    ReadsBack limit ns a x := by
  cases h with
  | ok h => exact .ok (hms.trans h)
  | error h he => exact .error (hms.trans h) he

theorem bind (h : ReadsBack limit ms a x) (hk : ReadsBack limit ns b (k a)) :
    ReadsBack limit (ms ++ ns) b (x >>= k) := by
  have happend : (ms ++ ns).all (Mark.isReadable limit)
      = (ms.all (Mark.isReadable limit) && ns.all (Mark.isReadable limit)) := List.all_append
  cases h with
  | ok h => exact hk.congr (by rw [happend, h, Bool.true_and])
  | error h he => exact .error (by rw [happend, h, Bool.false_and]) he

theorem map (h : ReadsBack limit ms a x) (hk : k a = .ok b) :
    ReadsBack limit ms b (x >>= k) :=
  (h.bind (of_eq_ok hk)).congr (by rw [List.append_nil])

theorem pair {y : Except QueryError β} (hx : ReadsBack limit ms a x)
    (hy : ReadsBack limit ns b y) :
    ReadsBack limit (ms ++ ns) (a, b) (do return (← x, ← y)) :=
  hx.bind (hy.map rfl)

theorem cons {as : List α} {y : Except QueryError (List α)} (hx : ReadsBack limit ms a x)
    (hy : ReadsBack limit ns as y) :
    ReadsBack limit (ms ++ ns) (a :: as) (do return (← x) :: (← y)) :=
  hx.bind (hy.map rfl)

theorem eq_ok (h : ReadsBack limit ms a x) (hms : ms.all (Mark.isReadable limit) = true) :
    x = .ok a := by
  cases h with
  | ok _ => rfl
  | error hfalse _ => rw [hms] at hfalse; cases hfalse

theorem exists_eq_error (h : ReadsBack limit ms a x)
    (hms : ms.all (Mark.isReadable limit) = false) :
    ∃ e, x = .error e ∧ e.isRefusal limit = true := by
  cases h with
  | ok htrue => rw [hms] at htrue; cases htrue
  | error _ he => exact ⟨_, rfl, he⟩

end ReadsBack

theorem ok_bind {ε α β : Type} (a : α) (k : α → Except ε β) : (.ok a >>= k) = k a := rfl

theorem exists_of_bind_eq_ok {ε α β : Type} {x : Except ε α} {k : α → Except ε β} {b : β}
    (h : x >>= k = .ok b) : ∃ a, x = .ok a ∧ k a = .ok b := by
  cases x with
  | error e => cases h
  | ok a => exact ⟨a, rfl, h⟩

/-! ## Leaves -/

namespace Document

theorem readTag_eq_ok (tag : ExprTag) (text : String) (h : tag.text = text) :
    readTag text = .ok tag := by
  rw [readTag, ExprTag.ofText?_eq_some_iff.mpr h]

theorem readJoinKind_sql (kind : JoinKind) : readJoinKind kind.sql = .ok kind := by
  cases kind <;> rfl

theorem readKind_name (kind : ClauseKind) : readKind kind.name = .ok kind := by
  rw [readKind, ClauseKind.ofName?_name]

theorem readOrder_sql (direction : Direction) (nulls : NullsPlacement) :
    readOrder [.string direction.sql, .string nulls.sql] = .ok (direction, nulls) := by
  cases direction <;> cases nulls <;> rfl

theorem readCount_ofUInt64 (kind : ClauseKind) (n : UInt64) :
    readCount kind (.ofUInt64 n) = .ok n := by
  simp [readCount, Json.ofUInt64]

theorem mapM_map_eq_ok {α β : Type} {read : Json → Except QueryError β} {write : α → Json}
    {f : α → β} (h : ∀ a, read (write a) = .ok (f a)) (as : List α) :
    (as.map write).mapM read = .ok (as.map f) := by
  rw [List.mapM_map]
  have hpure : read ∘ write = fun a => pure (f a) := funext h
  rw [hpure, List.mapM_pure]
  rfl

theorem readNames_ofStrings (kind : ClauseKind) (names : List String) :
    readNames kind (.ofStrings names) = .ok names := by
  have h : (names.map Json.string).mapM (readName kind) = .ok (names.map id) :=
    mapM_map_eq_ok (fun s => show readName kind (.string s) = .ok (id s) from rfl) names
  rwa [List.map_id] at h

theorem readValue_toJson (v : Value) : readValue v.toJson = .ok (v.mapParams Param.viaJson) := by
  cases v <;> rfl

theorem readRows_toJson (rows : List (List Value)) :
    readRows (.array (rows.map fun row => .array (row.map Value.toJson)))
      = .ok (rows.map (·.map (Value.mapParams Param.viaJson))) :=
  mapM_map_eq_ok (fun row => mapM_map_eq_ok readValue_toJson row) rows

end Document

/-! ## Fields of clause maps -/

/-- The field that a clause is written as. -/
def AnyClause.field (c : AnyClause) : String × Json :=
  (c.kind.name, c.clause.payload)

namespace Clauses

theorem fields_eq_map {ks : List ClauseKind} (m : Clauses ks) :
    m.fields = m.toList.map AnyClause.field := by
  cases m with
  | nil => rfl
  | absent rest => exact rest.fields_eq_map
  | present c rest => exact congrArg ((_, c.payload) :: ·) rest.fields_eq_map

theorem nodup_keys (m : ClauseMap) : (m.fields.map Prod.fst).Nodup := by
  have hkinds : m.kinds.Nodup := m.kinds_sublist.nodup ClauseKind.nodup_all
  have hkeys : m.fields.map Prod.fst = m.kinds.map ClauseKind.name := by
    rw [fields_eq_map, kinds, List.map_map, List.map_map]
    rfl
  rw [hkeys]
  exact hkinds.map ClauseKind.name_injective

/-- The fields of a document are the clauses in an order of the document's own. -/
theorem exists_ofFields_eq (m : ClauseMap) :
    ∃ cs : List AnyClause, Json.ofFields m.fields = .object (cs.map AnyClause.field) ∧
      cs.Perm m.toList := by
  obtain ⟨sorted, hsorted, hperm⟩ := Json.exists_ofFields_eq m.nodup_keys
  rw [fields_eq_map] at hperm
  have hcomp := congrFun (congrFun (List.eq_map_comp_perm AnyClause.field) sorted) m.toList
  obtain ⟨cs, rfl, hcs⟩ := hcomp.mpr hperm
  exact ⟨cs, hsorted, hcs⟩

end Clauses

/-- No clause has the name of a wrapper: the document of a clause map is not taken for a value. -/
theorem wrapped?_eq_none_of_names {fields : List (String × Json)}
    (h : ∀ field ∈ fields, ∃ kind : ClauseKind, field.1 = kind.name) : wrapped? fields = none := by
  have hnone : ∀ key, ClauseKind.ofName? key = none → Json.field? key fields = none := by
    intro key hkey
    apply List.lookup_eq_none_iff.mpr
    intro field hfield
    obtain ⟨kind, hname⟩ := h field hfield
    apply bne_iff_ne.mpr
    intro hsame
    have hsome := ClauseKind.ofName?_name kind
    rw [← hname, ← show key = field.1 from hsame, hkey] at hsome
    cases hsome
  rw [wrapped?, hnone "ip" rfl, hnone "r" rfl]

theorem wrapped?_map_field (cs : List AnyClause) : wrapped? (cs.map AnyClause.field) = none := by
  refine wrapped?_eq_none_of_names ?_
  intro field hfield
  obtain ⟨c, -, rfl⟩ := List.mem_map.mp hfield
  exact ⟨c.kind, rfl⟩

namespace ReadsBack

variable {limit : DepthLimit}

theorem enter (limit : DepthLimit) (d : Nat) :
    ReadsBack limit [.enter (d + 1)] (d + 1) (enter limit d) := by
  cases limit with
  | none => exact .ok rfl
  | some n =>
    rw [Document.enter]
    split
    · next h =>
      have hmark : Mark.isReadable (some n) (.enter (d + 1)) = false :=
        decide_eq_false (Nat.not_le_of_lt h)
      exact .error (by rw [List.all_cons, hmark, Bool.false_and]) (beq_self_eq_true _)
    · next h =>
      have hmark : Mark.isReadable (some n) (.enter (d + 1)) = true :=
        decide_eq_true (Nat.le_of_not_lt h)
      exact .ok (by rw [List.all_cons, hmark, Bool.true_and, List.all_nil])

/-- Clauses that are read back one by one are read back in any order. -/
theorem clauses {d : Nat} {m : ClauseMap} {cs : List AnyClause} (hperm : cs.Perm m.toList)
    (h : ∀ c ∈ m.toList, ReadsBack limit (c.marks d) (c.mapParams Param.viaJson)
      (readField limit d c.field)) :
    ReadsBack limit (m.marks d) (m.mapParams Param.viaJson)
      (readClauses limit d .empty (cs.map AnyClause.field)) := by
  -- The map that is read into is left open: each field changes it for the next.
  have hall : ∀ (start : ClauseMap), ReadsBack limit (cs.flatMap (AnyClause.marks d))
      (start.insertAll (cs.map (AnyClause.mapParams Param.viaJson)))
      (readClauses limit d start (cs.map AnyClause.field)) := by
    replace h : ∀ c ∈ cs, _ := fun c hc => h c (hperm.subset hc)
    clear hperm
    induction cs with
    | nil =>
      intro start
      exact .of_eq_ok rfl
    | cons c cs ih =>
      intro start
      have hrest := ih (fun c hc => h c (List.mem_cons_of_mem _ hc))
        (start.insert (c.mapParams Param.viaJson).clause)
      exact (h c (List.mem_cons_self ..)).bind hrest
  have hmap : ClauseMap.empty.insertAll (cs.map (AnyClause.mapParams Param.viaJson))
      = m.mapParams Param.viaJson := by
    apply ClauseMap.ofList_of_perm
    rw [Clauses.toList_mapParams]
    exact hperm.map _
  have hread := hall .empty
  rw [hmap] at hread
  apply hread.congr
  rw [m.marks_eq_flatMap]
  exact (hperm.symm.flatMap_right _).all_eq

/-- A clause map inside another part: one level, and the clauses one deeper. -/
theorem nested {α : Type} {d : Nat} {m : ClauseMap} {cs : List AnyClause} {a : α}
    {k : ClauseMap → Except QueryError α} (hk : k (m.mapParams Param.viaJson) = .ok a)
    (h : ReadsBack limit (m.marks (d + 1)) (m.mapParams Param.viaJson)
      (readClauses limit (d + 1) .empty (cs.map AnyClause.field))) :
    ReadsBack limit (.enter (d + 1) :: (Mark.ofEmptiness m ++ m.marks (d + 1))) a (do
      let inner ← Document.enter limit d
      k (← readClauses limit inner .empty (cs.map AnyClause.field))) := by
  refine ((enter limit d).bind (h.map hk)).congr ?_
  rw [Mark.ofEmptiness]
  split <;> rfl

theorem names (kind : ClauseKind) (ns : List String) :
    ReadsBack limit (ns.map .name) ns (readNames kind (.ofStrings ns)) := by
  rw [readNames_ofStrings]
  exact .ok (by simp [Mark.isReadable])

theorem rows (rs : List (List Value)) :
    ReadsBack limit (rs.flatten.map Value.mark)
      (rs.map (·.map (Value.mapParams Param.viaJson)))
      (readRows (.array (rs.map fun row => .array (row.map Value.toJson)))) := by
  rw [readRows_toJson]
  exact .ok (by simp [Value.isReadable_mark])

theorem count (kind : ClauseKind) (n : UInt64) :
    ReadsBack limit [] n (readCount kind (.ofUInt64 n)) :=
  .of_eq_ok (readCount_ofUInt64 kind n)

/-- The operands of a group or a case expression; only there it matters that there are some. -/
theorem operands {d : Nat} {es es' : List Expr} (tag : ExprTag)
    (h : ReadsBack limit (Expr.listMarks d es) es' (readExprs limit d (Expr.listToJson es))) :
    ReadsBack limit (Mark.ofOperands tag es ++ Expr.listMarks d es) es'
      (readOperands limit d tag.text (Expr.listToJson es)) := by
  cases es with
  | nil => exact .error rfl rfl
  | cons e es => exact h

theorem call {d : Nat} {es es' : List Expr} (name : String)
    (h : ReadsBack limit (Expr.listMarks d es) es' (readExprs limit d (Expr.listToJson es))) :
    ReadsBack limit (.call name :: Expr.listMarks d es) (name, es')
      (readCall limit d (.string name :: Expr.listToJson es)) := by
  rw [readCall]
  exact ReadsBack.congr (h.map rfl) rfl

end ReadsBack

/-! ## All parts -/

open ReadsBack

-- By recursion on the part. The reader goes by the tag or the name that the writer put first, so in
-- each case what is left are the parts inside, at the depth they are written at.
mutual

theorem Expr.readsBack (limit : DepthLimit) (d : Nat) : ∀ e : Expr,
    ReadsBack limit (e.marks d) (e.mapParams Param.viaJson) (readExpr limit d e.toJson)
  | .value v => by cases v <;> exact .ok rfl
  | .binary op l r => by
    have hl := l.readsBack limit d
    have hr := r.readsBack limit d
    rw [Expr.toJson, tagged, readExpr, readTag_eq_ok (.binary op) op.tag rfl, ok_bind,
      readPair]
    exact (hl.pair hr).map rfl
  | .and es => by
    rw [Expr.toJson, tagged, readExpr, readTag_eq_ok .and "and" rfl, ok_bind]
    exact (operands .and (Expr.list_readsBack limit d es)).map rfl
  | .or es => by
    rw [Expr.toJson, tagged, readExpr, readTag_eq_ok .or "or" rfl, ok_bind]
    exact (operands .or (Expr.list_readsBack limit d es)).map rfl
  | .caseWhen es => by
    rw [Expr.toJson, tagged, readExpr, readTag_eq_ok .caseWhen "case_when" rfl, ok_bind]
    exact (operands .caseWhen (Expr.list_readsBack limit d es)).map rfl
  | .inList negated t es => by
    have ht := t.readsBack limit d
    have hes := Expr.list_readsBack limit d es
    have htag : ExprTag.text (.inList negated) = if negated then "not_in" else "in" := by
      cases negated <;> rfl
    rw [Expr.toJson, tagged, readExpr, readTag_eq_ok (.inList negated) _ htag, ok_bind, readTested]
    exact (ht.pair hes).map rfl
  | .isNull e => by
    rw [Expr.toJson, tagged, readExpr, readTag_eq_ok .isNull "null" rfl, ok_bind, readOperand]
    exact (e.readsBack limit d).map rfl
  | .isNotNull e => by
    rw [Expr.toJson, tagged, readExpr, readTag_eq_ok .isNotNull "not_null" rfl, ok_bind,
      readOperand]
    exact (e.readsBack limit d).map rfl
  | .not e => by
    rw [Expr.toJson, tagged, readExpr, readTag_eq_ok .not "not" rfl, ok_bind, readOperand]
    exact (e.readsBack limit d).map rfl
  | .exists_ e => by
    rw [Expr.toJson, tagged, readExpr, readTag_eq_ok .exists_ "exists" rfl, ok_bind, readOperand]
    exact (e.readsBack limit d).map rfl
  | .call name es => by
    rw [Expr.toJson, tagged, readExpr, readTag_eq_ok .call "%" rfl, ok_bind]
    exact (ReadsBack.call name (Expr.list_readsBack limit d es)).map rfl
  | .subquery m => by
    obtain ⟨cs, hcs, hperm⟩ := m.exists_ofFields_eq
    rw [Expr.toJson, hcs, readExpr, wrapped?_map_field]
    exact nested rfl (clauses hperm (m.readsBack limit (d + 1)))

theorem Expr.list_readsBack (limit : DepthLimit) (d : Nat) : ∀ es : List Expr,
    ReadsBack limit (Expr.listMarks d es) (Expr.listMapParams Param.viaJson es)
      (readExprs limit d (Expr.listToJson es))
  | [] => .of_eq_ok rfl
  | e :: es => (e.readsBack limit d).cons (Expr.list_readsBack limit d es)

theorem Table.readsBack (limit : DepthLimit) (d : Nat) : ∀ t : Table,
    ReadsBack limit (t.marks d) (t.mapParams Param.viaJson) (readTable limit d t.toJson)
  | .named name alias? => by cases alias? <;> exact .ok rfl
  | .derived m alias? => by
    obtain ⟨cs, hcs, hperm⟩ := m.exists_ofFields_eq
    have hm := clauses hperm (m.readsBack limit (d + 1))
    rw [Table.toJson, hcs]
    cases alias? with
    | none =>
      rw [aliased, readTable]
      refine ReadsBack.congr (nested rfl hm) ?_
      simp [Table.marks, Mark.ofAlias]
    | some name =>
      rw [aliased, readTable]
      refine ReadsBack.congr (nested rfl hm) ?_
      simp [Table.marks, Mark.ofAlias, Mark.isReadable]

theorem Join.readsBack (limit : DepthLimit) (d : Nat) : ∀ j : Join,
    ReadsBack limit (j.marks d) (j.mapParams Param.viaJson) (readJoin limit d j.toJson)
  | .mk kind t on => by
    have ht := t.readsBack limit d
    have hon := on.readsBack limit d
    rw [Join.toJson, readJoin, readJoinKind_sql, ok_bind]
    exact ht.bind (hon.map rfl)

theorem Join.list_readsBack (limit : DepthLimit) (d : Nat) : ∀ js : List Join,
    ReadsBack limit (Join.listMarks d js) (Join.listMapParams Param.viaJson js)
      (readJoins limit d (Join.listToJson js))
  | [] => .of_eq_ok rfl
  | j :: js => (j.readsBack limit d).cons (Join.list_readsBack limit d js)

theorem OrderItem.readsBack (limit : DepthLimit) (d : Nat) : ∀ i : OrderItem,
    ReadsBack limit (i.marks d) (i.mapParams Param.viaJson) (readOrderItem limit d i.toJson)
  | .mk e direction nulls => by
    rw [OrderItem.toJson, readOrderItem, readOrder_sql, ok_bind]
    exact (e.readsBack limit d).map rfl

theorem OrderItem.list_readsBack (limit : DepthLimit) (d : Nat) : ∀ is : List OrderItem,
    ReadsBack limit (OrderItem.listMarks d is) (OrderItem.listMapParams Param.viaJson is)
      (readOrderItems limit d (OrderItem.listToJson is))
  | [] => .of_eq_ok rfl
  | i :: is => (i.readsBack limit d).cons (OrderItem.list_readsBack limit d is)

theorem Clause.readsBack (limit : DepthLimit) (d : Nat) {k : ClauseKind} (c : Clause k) :
    ReadsBack limit (c.marks d) ⟨k, c.mapParams Param.viaJson⟩
      (readField limit d (k.name, c.payload)) := by
  rw [readField, readKind_name, ok_bind]
  cases c with
  | select es => exact (Expr.list_readsBack limit d es).map rfl
  | selectDistinct on es =>
    have hon := Expr.list_readsBack limit d on
    have hes := Expr.list_readsBack limit d es
    exact (hon.pair hes).map rfl
  | insertInto t => exact (t.readsBack limit d).map rfl
  | update t => exact (t.readsBack limit d).map rfl
  | columns ns => exact (names _ ns).map rfl
  | values rs => exact (rows rs).map rfl
  | onConflict ns => exact (names _ ns).map rfl
  | doUpdate es => exact (Expr.list_readsBack limit d es).map rfl
  | doNothing => exact .of_eq_ok rfl
  | set es => exact (Expr.list_readsBack limit d es).map rfl
  | from_ t => exact (t.readsBack limit d).map rfl
  | join js => exact (Join.list_readsBack limit d js).map rfl
  | where_ e => exact (e.readsBack limit d).map rfl
  | groupBy es => exact (Expr.list_readsBack limit d es).map rfl
  | having e => exact (e.readsBack limit d).map rfl
  | orderBy is => exact (OrderItem.list_readsBack limit d is).map rfl
  | limit n => exact (count _ n).map rfl
  | offset n => exact (count _ n).map rfl
  | forUpdate => exact .of_eq_ok rfl
  | returning es => exact (Expr.list_readsBack limit d es).map rfl

theorem Clauses.readsBack (limit : DepthLimit) (d : Nat) :
    ∀ {ks : List ClauseKind} (m : Clauses ks), ∀ c ∈ m.toList,
      ReadsBack limit (c.marks d) (c.mapParams Param.viaJson) (readField limit d c.field)
  | _, .nil, _, h => by cases h
  | _, .absent rest, c, h => rest.readsBack limit d c h
  | _, .present c rest, c', h => by
    cases h with
    | head => exact c.readsBack limit d
    | tail _ h => exact rest.readsBack limit d c' h

end

end Clausal
