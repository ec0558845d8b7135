import Clausal.Document.Encode
import Clausal.Proofs.Document.Acceptance
import Clausal.Proofs.Document.DepthLimit
import Clausal.Proofs.Document.Reading

/-!
# Key order of documents

A clause map writes its own keys in ascending order, so whether the keys of its document are sorted
throughout depends on its parameters alone. Parameters that were read from sorted documents have
sorted JSON forms, and combining maps makes no parameter up.
-/

namespace Clausal

open Document
open Json (Sorted)

theorem Param.sorted_toJson_ofJson {v : Json} (h : Sorted v) : Sorted (ofJson v).toJson := by
  have hfloat : ∀ x : Binary64, Sorted (Param.float x).toJson := by
    intro x
    rw [toJson, Json.ofBinary64?]
    split
    · exact .float _
    · exact .null
  cases h with
  | integer n =>
    rw [ofJson, ofWordInteger]
    split
    · exact .integer _
    · exact hfloat _
  | float x => exact hfloat x.val
  | array h => exact .array h
  | object hkeys h => exact .object hkeys h
  | _ => constructor

/-! ## Parameters with sorted forms -/

/-- The parameters among the marks have JSON forms with sorted keys. -/
def BindsSorted (ms : List Mark) : Prop :=
  ∀ p, .param p ∈ ms → Sorted p.toJson

namespace BindsSorted

variable {ms ns : List Mark}

theorem nil : BindsSorted [] := by
  intro p hp
  cases hp

theorem append_iff : BindsSorted (ms ++ ns) ↔ BindsSorted ms ∧ BindsSorted ns := by
  simp only [BindsSorted, List.mem_append, or_imp, forall_and]

theorem append (hms : BindsSorted ms) (hns : BindsSorted ns) : BindsSorted (ms ++ ns) :=
  append_iff.mpr ⟨hms, hns⟩

/-- Marks of other kinds do not matter. -/
theorem cons {m : Mark} (hm : m.param? = none) (h : BindsSorted ms) : BindsSorted (m :: ms) := by
  intro p hp
  rcases List.mem_cons.mp hp with rfl | hmem
  · cases hm
  · exact h p hmem

theorem singleton_iff {p : Param} : BindsSorted [.param p] ↔ Sorted p.toJson := by
  simp [BindsSorted]

theorem ofOperands (tag : ExprTag) (es : List Expr) : BindsSorted (Mark.ofOperands tag es) := by
  rw [Mark.ofOperands]
  split
  · exact nil.cons rfl
  · exact nil

theorem ofAlias (alias? : Option String) : BindsSorted (Mark.ofAlias alias?) := by
  cases alias? with
  | none => exact nil
  | some name => exact nil.cons rfl

theorem ofEmptiness {ks : List ClauseKind} (m : Clauses ks) : BindsSorted (Mark.ofEmptiness m) := by
  rw [Mark.ofEmptiness]
  split
  · exact nil.cons rfl
  · exact nil

theorem names (ns : List String) : BindsSorted (ns.map .name) := by
  intro p hp
  obtain ⟨name, -, hname⟩ := List.mem_map.mp hp
  cases hname

/-- A clause map inside another part adds marks that are no parameters. -/
theorem nested_iff {d : Nat} {m : ClauseMap} :
    BindsSorted (.enter (d + 1) :: (Mark.ofEmptiness m ++ m.marks (d + 1))) ↔
      BindsSorted (m.marks (d + 1)) := by
  constructor
  · intro h p hp
    exact h p (List.mem_cons_of_mem _ (List.mem_append_right _ hp))
  · intro h
    exact ((ofEmptiness m).append h).cons rfl

theorem insertAll {d : Nat} {cs : List AnyClause} (hcs : ∀ c ∈ cs, BindsSorted (c.marks d))
    {m : ClauseMap} (hm : BindsSorted (m.marks d)) : BindsSorted ((m.insertAll cs).marks d) := by
  induction cs generalizing m with
  | nil => exact hm
  | cons c cs ih =>
    obtain ⟨hc, hcs⟩ := List.forall_mem_cons.mp hcs
    apply ih hcs
    intro p hp
    exact (m.mem_marks_insert hp).elim (hc p) (hm p)

theorem ofList {d : Nat} {cs : List AnyClause} (hcs : ∀ c ∈ cs, BindsSorted (c.marks d)) :
    BindsSorted ((ClauseMap.ofList cs).marks d) := by
  refine insertAll hcs (m := .empty) ?_
  rw [ClauseMap.empty, Clauses.marks_empty]
  exact nil

end BindsSorted

/-! ## Parameters that were read -/

theorem Json.sizeOf_field?_le (fields : List (String × Json)) (key : String) :
    sizeOf (field? key fields) ≤ sizeOf fields := by
  induction fields with
  | nil => exact Nat.le_refl _
  | cons field fields ih =>
    rw [field?_cons]
    obtain ⟨name, v⟩ := field
    split <;> simp <;> omega

theorem DenotesWrapped.bindsSorted {fields : List (String × Json)} {v : Value}
    (h : DenotesWrapped fields v) (hfields : Sorted (.object fields)) : BindsSorted [v.mark] := by
  cases h with
  | raw hip hr => exact .cons rfl .nil
  | param hip =>
    cases hfields with
    | object hkeys hvalues =>
      have hmem := (Json.field?_eq_some_iff hkeys.nodup_keys).mp hip
      exact BindsSorted.singleton_iff.mpr (Param.sorted_toJson_ofJson (hvalues _ hmem))

theorem DenotesValue.bindsSorted {j : Json} {v : Value} (h : DenotesValue j v) (hj : Sorted j) :
    BindsSorted [v.mark] := by
  cases h with
  | ident name => exact .cons rfl .nil
  | wrapped h => exact h.bindsSorted hj

theorem bindsSorted_flatMap {α : Type} {R : Json → α → Prop} {marks : α → List Mark}
    (hR : ∀ (j : Json) (a : α), R j a → Sorted j → BindsSorted (marks a)) {items : List Json}
    {as : List α} (h : List.Forall₂ R items as) (hitems : ∀ item ∈ items, Sorted item) :
    BindsSorted (as.flatMap marks) := by
  induction h with
  | nil => exact .nil
  | cons hfirst _ ih =>
    obtain ⟨hitem, hitems⟩ := List.forall_mem_cons.mp hitems
    rw [List.flatMap_cons]
    exact (hR _ _ hfirst hitem).append (ih hitems)

theorem bindsSorted_of_row {j : Json} {row : List Value} (h : ArrayOf DenotesValue j row)
    (hj : Sorted j) : BindsSorted (row.map Value.mark) := by
  cases h with
  | mk h =>
    cases hj with
    | array hitems =>
      rw [List.map_eq_flatMap]
      exact bindsSorted_flatMap (R := DenotesValue) (fun _ _ => DenotesValue.bindsSorted) h hitems

theorem bindsSorted_of_rows {j : Json} {rows : List (List Value)}
    (h : ArrayOf (ArrayOf DenotesValue) j rows) (hj : Sorted j) :
    BindsSorted (rows.flatten.map Value.mark) := by
  cases h with
  | mk h =>
    cases hj with
    | array hitems =>
      rw [List.map_flatten, ← List.flatMap_def]
      exact bindsSorted_flatMap (R := ArrayOf DenotesValue) (fun _ _ => bindsSorted_of_row) h hitems

-- By induction on what a document denotes, counted by the size of the document. Sizes are doubled,
-- for some steps stay at one document: from a payload to its parts, from a map to its fields.
mutual

theorem DenotesExpr.bindsSorted (d : Nat) : ∀ {j : Json} {e : Expr}, DenotesExpr j e → Sorted j →
    BindsSorted (e.marks d)
  | _, _, .value h, hj => h.bindsSorted hj
  | _, _, .subquery h, .object _ hfields => BindsSorted.nested_iff.mpr (h.bindsSorted _ hfields)
  | _, _, .tagged h, .array hargs => h.bindsSorted d (List.forall_mem_cons.mp hargs).2
termination_by j => 2 * sizeOf j

theorem DenotesTagged.bindsSorted (d : Nat) : ∀ {tag : ExprTag} {args : List Json} {e : Expr},
    DenotesTagged tag args e → (∀ arg ∈ args, Sorted arg) → BindsSorted (e.marks d)
  | _, _, _, .binary h, hargs => by
    have hpair := bindsSorted_of_exprs d h hargs
    simpa [Expr.listMarks, Expr.marks] using hpair
  | _, _, _, .and _ h, hargs => (BindsSorted.ofOperands _ _).append (bindsSorted_of_exprs d h hargs)
  | _, _, _, .or _ h, hargs => (BindsSorted.ofOperands _ _).append (bindsSorted_of_exprs d h hargs)
  | _, _, _, .caseWhen _ h, hargs =>
    (BindsSorted.ofOperands _ _).append (bindsSorted_of_exprs d h hargs)
  | _, _, _, .inList h, hargs => bindsSorted_of_exprs d h hargs
  | _, _, _, .isNull h, hargs | _, _, _, .isNotNull h, hargs | _, _, _, .not h, hargs
  | _, _, _, .exists_ h, hargs => by
    have hone := bindsSorted_of_exprs d h hargs
    simpa [Expr.listMarks, Expr.marks] using hone
  | _, _, _, .call h, hargs =>
    .cons rfl (bindsSorted_of_exprs d h (List.forall_mem_cons.mp hargs).2)
termination_by _ args => 2 * sizeOf args + 1

theorem bindsSorted_of_exprs (d : Nat) : ∀ {args : List Json} {es : List Expr},
    List.Forall₂ DenotesExpr args es → (∀ arg ∈ args, Sorted arg) →
    BindsSorted (Expr.listMarks d es)
  | _, _, .nil, _ => .nil
  | _, _, .cons h hrest, hargs => by
    obtain ⟨hfirst, hargs⟩ := List.forall_mem_cons.mp hargs
    exact (h.bindsSorted d hfirst).append (bindsSorted_of_exprs d hrest hargs)
termination_by args => 2 * sizeOf args

theorem DenotesTable.bindsSorted (d : Nat) : ∀ {j : Json} {t : Table}, DenotesTable j t →
    Sorted j → BindsSorted (t.marks d)
  | _, _, .named _, _ => .cons rfl .nil
  | _, _, .derived h, .object _ hfields =>
    (BindsSorted.nested_iff.mpr (h.bindsSorted _ hfields)).append (.ofAlias none)
  | _, _, .namedAs _ short, _ => .cons rfl (.ofAlias (some short))
  | _, _, .derivedAs h short, .array hitems => by
    cases (List.forall_mem_cons.mp hitems).1 with
    | object _ hfields =>
      exact (BindsSorted.nested_iff.mpr (h.bindsSorted _ hfields)).append (.ofAlias (some short))
termination_by j => 2 * sizeOf j

theorem DenotesJoin.bindsSorted (d : Nat) : ∀ {j : Json} {join : Join}, DenotesJoin j join →
    Sorted j → BindsSorted (join.marks d)
  | _, _, .mk _ ht hon, .array hitems =>
    (ht.bindsSorted d (hitems _ (by simp))).append (hon.bindsSorted d (hitems _ (by simp)))
termination_by j => 2 * sizeOf j

theorem bindsSorted_of_joins (d : Nat) : ∀ {items : List Json} {joins : List Join},
    List.Forall₂ DenotesJoin items joins → (∀ item ∈ items, Sorted item) →
    BindsSorted (Join.listMarks d joins)
  | _, _, .nil, _ => .nil
  | _, _, .cons h hrest, hitems => by
    obtain ⟨hfirst, hitems⟩ := List.forall_mem_cons.mp hitems
    exact (h.bindsSorted d hfirst).append (bindsSorted_of_joins d hrest hitems)
termination_by items => 2 * sizeOf items

theorem DenotesOrderItem.bindsSorted (d : Nat) : ∀ {j : Json} {i : OrderItem},
    DenotesOrderItem j i → Sorted j → BindsSorted (i.marks d)
  | _, _, .mk he _, .array hitems => he.bindsSorted d (hitems _ (by simp))
termination_by j => 2 * sizeOf j

theorem bindsSorted_of_orderItems (d : Nat) : ∀ {items : List Json} {is : List OrderItem},
    List.Forall₂ DenotesOrderItem items is → (∀ item ∈ items, Sorted item) →
    BindsSorted (OrderItem.listMarks d is)
  | _, _, .nil, _ => .nil
  | _, _, .cons h hrest, hitems => by
    obtain ⟨hfirst, hitems⟩ := List.forall_mem_cons.mp hitems
    exact (h.bindsSorted d hfirst).append (bindsSorted_of_orderItems d hrest hitems)
termination_by items => 2 * sizeOf items

theorem DenotesPart.bindsSorted (d : Nat) : ∀ {part : Option Json} {es : List Expr},
    DenotesPart part es → (∀ v, part = some v → Sorted v) → BindsSorted (Expr.listMarks d es)
  | _, _, .missing, _ => .nil
  | _, _, .present h, hpart => bindsSorted_of_exprArray d h (hpart _ rfl)
termination_by part => 2 * sizeOf part

theorem bindsSorted_of_exprArray (d : Nat) : ∀ {v : Json} {es : List Expr},
    ArrayOf DenotesExpr v es → Sorted v → BindsSorted (Expr.listMarks d es)
  | _, _, .mk h, .array hitems => bindsSorted_of_exprs d h hitems
termination_by v => 2 * sizeOf v

theorem DenotesPayload.bindsSorted (d : Nat) {k : ClauseKind} {v : Json} {c : Clause k}
    (h : DenotesPayload k v c) (hv : Sorted v) : BindsSorted (c.marks d) := by
  cases h with
  | select h | doUpdate h | set h | groupBy h | returning h =>
    exact bindsSorted_of_exprArray d h hv
  | @selectDistinct parts _ _ hon hes =>
    cases hv with
    | object hkeys hparts =>
      -- The parts are looked up, so that they are smaller has to be said.
      have hsorted : ∀ key w, Json.field? key parts = some w → Sorted w := fun _ _ h =>
        hparts _ ((Json.field?_eq_some_iff hkeys.nodup_keys).mp h)
      have hsizeOn := Json.sizeOf_field?_le parts "on"
      have hsizeExprs := Json.sizeOf_field?_le parts "exprs"
      exact (hon.bindsSorted d (hsorted "on")).append (hes.bindsSorted d (hsorted "exprs"))
  | insertInto h | update h | from_ h => exact h.bindsSorted d hv
  | columns _ | onConflict _ => exact .names _
  | values h => exact bindsSorted_of_rows h hv
  | join h =>
    cases h with
    | mk h =>
      cases hv with
      | array hitems => exact bindsSorted_of_joins d h hitems
  | orderBy h =>
    cases h with
    | mk h =>
      cases hv with
      | array hitems => exact bindsSorted_of_orderItems d h hitems
  | where_ h | having h => exact h.bindsSorted d hv
  | doNothing _ | limit _ | offset _ | forUpdate _ => exact .nil
termination_by 2 * sizeOf v + 1
decreasing_by
  all_goals subst_vars
  all_goals simp <;> omega

theorem bindsSorted_of_fields (d : Nat) : ∀ {fields : List (String × Json)} {cs : List AnyClause},
    List.Forall₂ DenotesField fields cs → (∀ field ∈ fields, Sorted field.2) →
    ∀ c ∈ cs, BindsSorted (c.marks d)
  | _, _, .nil, _ => by simp
  | _, _, .cons (.mk h) hrest, hfields => by
    obtain ⟨hfirst, hfields⟩ := List.forall_mem_cons.mp hfields
    exact List.forall_mem_cons.mpr
      ⟨h.bindsSorted d hfirst, bindsSorted_of_fields d hrest hfields⟩
termination_by fields => 2 * sizeOf fields

theorem DenotesMap.bindsSorted (d : Nat) : ∀ {fields : List (String × Json)} {m : ClauseMap},
    DenotesMap fields m → (∀ field ∈ fields, Sorted field.2) → BindsSorted (m.marks d)
  | _, _, .mk h, hfields => .ofList (bindsSorted_of_fields d h hfields)
termination_by fields => 2 * sizeOf fields + 1

end

/-! ## Documents that are written -/

theorem Value.sorted_toJson {v : Value} (h : BindsSorted [v.mark]) : Sorted v.toJson := by
  cases v with
  | ident name => exact .string name
  | param p =>
    refine .object (List.pairwise_singleton _ _) (List.forall_mem_singleton.mpr ?_)
    exact BindsSorted.singleton_iff.mp h
  | raw sql =>
    exact .object (List.pairwise_singleton _ _) (List.forall_mem_singleton.mpr (.string sql))

theorem sorted_tagged {tag : String} {operands : List Json} (h : ∀ v ∈ operands, Sorted v) :
    Sorted (tagged tag operands) :=
  .array (List.forall_mem_cons.mpr ⟨.string tag, h⟩)

theorem sorted_aliased {source : Json} (h : Sorted source) : ∀ alias? : Option String,
    Sorted (aliased source alias?)
  | none => h
  | some name => .array (List.forall_mem_cons.mpr ⟨h, List.forall_mem_singleton.mpr (.string name)⟩)

theorem sorted_ofStrings (names : List String) : Sorted (.ofStrings names) := by
  apply Json.Sorted.array
  intro v hv
  obtain ⟨name, -, rfl⟩ := List.mem_map.mp hv
  exact .string name

theorem sorted_row {row : List Value} (h : BindsSorted (row.map Value.mark)) :
    Sorted (.array (row.map Value.toJson)) := by
  apply Json.Sorted.array
  intro j hj
  obtain ⟨v, hv, rfl⟩ := List.mem_map.mp hj
  apply Value.sorted_toJson
  intro p hp
  exact h p (List.mem_map.mpr ⟨v, hv, (List.mem_singleton.mp hp).symm⟩)

theorem sorted_rows {rows : List (List Value)} (h : BindsSorted (rows.flatten.map Value.mark)) :
    Sorted (.array (rows.map fun row => .array (row.map Value.toJson))) := by
  apply Json.Sorted.array
  intro j hj
  obtain ⟨row, hrow, rfl⟩ := List.mem_map.mp hj
  apply sorted_row
  intro p hp
  obtain ⟨v, hv, hmark⟩ := List.mem_map.mp hp
  exact h p (List.mem_map.mpr ⟨v, List.mem_flatten.mpr ⟨row, hrow, hv⟩, hmark⟩)

-- By recursion on the syntax. Only the values under `ip` are not of the map's own making.
mutual

theorem Expr.sorted_toJson (d : Nat) : ∀ e : Expr, BindsSorted (e.marks d) → Sorted e.toJson
  | .value _, h => Value.sorted_toJson h
  | .binary _ left right, h => by
    obtain ⟨hleft, hright⟩ := BindsSorted.append_iff.mp h
    have hl := left.sorted_toJson d hleft
    have hr := right.sorted_toJson d hright
    exact sorted_tagged (List.forall_mem_cons.mpr ⟨hl, List.forall_mem_singleton.mpr hr⟩)
  | .and operands, h | .or operands, h | .caseWhen operands, h => by
    have hoperands := (BindsSorted.append_iff.mp h).2
    exact sorted_tagged (Expr.sorted_of_mem_listToJson d operands hoperands)
  | .inList _ tested list, h => by
    obtain ⟨htested, hlist⟩ := BindsSorted.append_iff.mp h
    have hfirst := tested.sorted_toJson d htested
    have hrest := Expr.sorted_of_mem_listToJson d list hlist
    exact sorted_tagged (List.forall_mem_cons.mpr ⟨hfirst, hrest⟩)
  | .isNull operand, h | .isNotNull operand, h | .not operand, h | .exists_ operand, h =>
    sorted_tagged (List.forall_mem_singleton.mpr (operand.sorted_toJson d h))
  | .call name args, h => by
    have hargs := Expr.sorted_of_mem_listToJson d args fun p hp => h p (List.mem_cons_of_mem _ hp)
    exact sorted_tagged (List.forall_mem_cons.mpr ⟨.string name, hargs⟩)
  | .subquery m, h =>
    Json.sorted_ofFields (m.sorted_of_mem_fields (d + 1) (BindsSorted.nested_iff.mp h))

theorem Expr.sorted_of_mem_listToJson (d : Nat) : ∀ es : List Expr,
    BindsSorted (Expr.listMarks d es) → ∀ j ∈ Expr.listToJson es, Sorted j
  | [], _ => by simp
  | e :: es, h => by
    obtain ⟨he, hes⟩ := BindsSorted.append_iff.mp h
    exact List.forall_mem_cons.mpr
      ⟨e.sorted_toJson d he, Expr.sorted_of_mem_listToJson d es hes⟩

theorem Table.sorted_toJson (d : Nat) : ∀ t : Table, BindsSorted (t.marks d) → Sorted t.toJson
  | .named name alias?, _ => sorted_aliased (.string name) alias?
  | .derived m alias?, h => by
    have hm := BindsSorted.nested_iff.mp (BindsSorted.append_iff.mp h).1
    exact sorted_aliased (Json.sorted_ofFields (m.sorted_of_mem_fields (d + 1) hm)) alias?

theorem Join.sorted_toJson (d : Nat) : ∀ j : Join, BindsSorted (j.marks d) → Sorted j.toJson
  | .mk kind table on, h => by
    obtain ⟨htable, hon⟩ := BindsSorted.append_iff.mp h
    have ht := table.sorted_toJson d htable
    have he := on.sorted_toJson d hon
    refine .array (List.forall_mem_cons.mpr ⟨.string kind.sql, ?_⟩)
    exact List.forall_mem_cons.mpr ⟨ht, List.forall_mem_singleton.mpr he⟩

theorem Join.sorted_of_mem_listToJson (d : Nat) : ∀ js : List Join,
    BindsSorted (Join.listMarks d js) → ∀ j ∈ Join.listToJson js, Sorted j
  | [], _ => by simp
  | j :: js, h => by
    obtain ⟨hj, hjs⟩ := BindsSorted.append_iff.mp h
    exact List.forall_mem_cons.mpr
      ⟨j.sorted_toJson d hj, Join.sorted_of_mem_listToJson d js hjs⟩

theorem OrderItem.sorted_toJson (d : Nat) : ∀ i : OrderItem, BindsSorted (i.marks d) →
    Sorted i.toJson
  | .mk expr direction nulls, h => by
    refine .array (List.forall_mem_cons.mpr ⟨expr.sorted_toJson d h, ?_⟩)
    exact List.forall_mem_cons.mpr
      ⟨.string direction.sql, List.forall_mem_singleton.mpr (.string nulls.sql)⟩

theorem OrderItem.sorted_of_mem_listToJson (d : Nat) : ∀ is : List OrderItem,
    BindsSorted (OrderItem.listMarks d is) → ∀ j ∈ OrderItem.listToJson is, Sorted j
  | [], _ => by simp
  | i :: is, h => by
    obtain ⟨hi, his⟩ := BindsSorted.append_iff.mp h
    exact List.forall_mem_cons.mpr
      ⟨i.sorted_toJson d hi, OrderItem.sorted_of_mem_listToJson d is his⟩

theorem Clause.sorted_payload (d : Nat) {k : ClauseKind} (c : Clause k)
    (h : BindsSorted (c.marks d)) : Sorted c.payload := by
  cases c with
  | select exprs | doUpdate exprs | set exprs | groupBy exprs | returning exprs =>
    exact .array (Expr.sorted_of_mem_listToJson d exprs h)
  | selectDistinct on exprs =>
    obtain ⟨hon, hexprs⟩ := BindsSorted.append_iff.mp h
    have hon := Expr.sorted_of_mem_listToJson d on hon
    have hexprs := Expr.sorted_of_mem_listToJson d exprs hexprs
    have hkeys : "exprs" < "on" := by decide
    refine .object (List.pairwise_pair.mpr hkeys) ?_
    exact List.forall_mem_cons.mpr ⟨.array hexprs, List.forall_mem_singleton.mpr (.array hon)⟩
  | insertInto table | update table | from_ table => exact table.sorted_toJson d h
  | columns names | onConflict names => exact sorted_ofStrings names
  | values rows => exact sorted_rows h
  | doNothing => exact .null
  | join joins => exact .array (Join.sorted_of_mem_listToJson d joins h)
  | where_ condition | having condition => exact condition.sorted_toJson d h
  | orderBy items => exact .array (OrderItem.sorted_of_mem_listToJson d items h)
  | limit n | offset n => exact .integer _
  | forUpdate => exact .bool true

theorem Clauses.sorted_of_mem_fields (d : Nat) : ∀ {ks : List ClauseKind} (m : Clauses ks),
    BindsSorted (m.marks d) → ∀ field ∈ m.fields, Sorted field.2
  | _, .nil, _ => by simp [Clauses.fields]
  | _, .absent rest, h => rest.sorted_of_mem_fields d h
  | _, .present c rest, h => by
    obtain ⟨hc, hrest⟩ := BindsSorted.append_iff.mp h
    exact List.forall_mem_cons.mpr ⟨c.sorted_payload d hc, rest.sorted_of_mem_fields d hrest⟩

end

/-! ## Documents read and written again -/

theorem Clauses.sorted_toJson {ks : List ClauseKind} {m : Clauses ks}
    (h : BindsSorted (m.marks 0)) : Sorted m.toJson :=
  Json.sorted_ofFields (m.sorted_of_mem_fields 0 h)

namespace ClauseMap

theorem bindsSorted_of_ofJson {n : Nat} {doc : Json} {m : ClauseMap} (hdoc : Sorted doc)
    (h : ofJson (some n) doc = .ok m) : BindsSorted (m.marks 0) := by
  cases hdoc with
  | object hkeys hfields =>
    have hdistinct := (Json.Sorted.object hkeys hfields).hasDistinctKeys
    have hunbounded := (guarded_ofJson hdistinct n).ok_of_ok h
    have hdenotes := ((readFields_reads 0 _).clauses m).mp hunbounded
    exact hdenotes.bindsSorted 0 hfields
  | _ => cases h

/-- The document of a map that was read, or combined from maps that were read, has its keys in
ascending order wherever they stand. -/
theorem CombinationOf.sorted_toJson {maps : List ClauseMap} {m : ClauseMap}
    (h : CombinationOf maps m)
    (hmaps : ∀ n ∈ maps, ∃ limit doc, Sorted doc ∧ ofJson (some limit) doc = .ok n) :
    Sorted m.toJson := by
  apply Clauses.sorted_toJson
  intro p hp
  obtain ⟨n, hn, hmark⟩ := h.exists_mem_marks hp
  obtain ⟨limit, doc, hdoc, hread⟩ := hmaps n hn
  exact bindsSorted_of_ofJson hdoc hread p hmark

end ClauseMap

end Clausal
