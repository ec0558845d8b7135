import Clausal.Proofs.Document.ReadBack
import Clausal.Proofs.Json.Keys
import Clausal.Proofs.Query.Depth

/-!
# Reading under a depth limit

A limit changes nothing but whether reading is stopped. A document that is read without a limit is
read as the same map as long as the depth of that map is within the limit, and otherwise the limit
is the error. It is the depth of the map that counts: arrays of operands, payloads of parameters and
payloads that are not looked at may nest as they please.
-/

namespace Clausal

open Document

/-! ## Two readers -/

/-- What becomes of a reader under the limit `n`, told by what it reads without one. The part it
reads stands at the level `d`. -/
inductive Guarded {α : Type} (n d : Nat) (depth : α → Nat) :
    Except QueryError α → Except QueryError α → Prop where
  | same {a : α} (h : d + depth a ≤ n) : Guarded n d depth (.ok a) (.ok a)
  | stopped {a : α} (h : n < d + depth a) : Guarded n d depth (.ok a) (.error (.depthExceeded n))
  | fault {e : QueryError} : Guarded n d depth (.error e) (.error e)
  /-- The limit is met before the fault is. -/
  | early {e : QueryError} : Guarded n d depth (.error e) (.error (.depthExceeded n))

namespace Guarded

variable {α β γ : Type} {n d : Nat} {depthA : α → Nat} {depthB : β → Nat} {depthC : γ → Nat}
  {x x' : Except QueryError α} {y y' : Except QueryError β}

/-- What is read first may be the same with and without a limit. -/
theorem skip {k k' : α → Except QueryError β} (h : ∀ a, Guarded n d depthB (k a) (k' a)) :
    Guarded n d depthB (x >>= k) (x >>= k') := by
  cases x with
  | error e => exact .fault
  | ok a => exact h a

theorem map {k : α → Except QueryError β} (hx : Guarded n d depthA x x')
    (hk : ∀ a, x = .ok a → ∃ b, k a = .ok b ∧ depthB b = depthA a) :
    Guarded n d depthB (x >>= k) (x' >>= k) := by
  cases hx with
  | same h =>
    obtain ⟨b, hb, hdepth⟩ := hk _ rfl
    rw [ok_bind, hb]
    exact .same (hdepth ▸ h)
  | stopped h =>
    obtain ⟨b, hb, hdepth⟩ := hk _ rfl
    rw [ok_bind, hb]
    exact .stopped (hdepth ▸ h)
  | fault => exact .fault
  | early => exact .early

/-- Of two parts the deeper one counts. -/
theorem map₂ {k : α → β → Except QueryError γ} (hx : Guarded n d depthA x x')
    (hy : Guarded n d depthB y y')
    (hk : ∀ a b, ∃ c, k a b = .ok c ∧ depthC c = max (depthA a) (depthB b)) :
    Guarded n d depthC (do k (← x) (← y)) (do k (← x') (← y')) := by
  cases hx with
  | @same a ha =>
    cases hy with
    | @same b hb =>
      obtain ⟨c, hc, hdepth⟩ := hk a b
      rw [ok_bind, ok_bind, hc]
      exact .same (by omega)
    | @stopped b hb =>
      obtain ⟨c, hc, hdepth⟩ := hk a b
      rw [ok_bind, ok_bind, hc]
      exact .stopped (by omega)
    | fault => exact .fault
    | early => exact .early
  | @stopped a ha =>
    -- Whatever the second part is, under the limit it is not looked at.
    cases y with
    | error e => exact .early
    | ok b =>
      obtain ⟨c, hc, hdepth⟩ := hk a b
      rw [ok_bind, ok_bind, hc]
      exact .stopped (by omega)
  | fault => exact .fault
  | early => exact .early

/-- What stands one level up is one deeper. -/
theorem up (hx : Guarded n (d + 1) depthA x x') : Guarded n d (fun a => depthA a + 1) x x' := by
  cases hx with
  | same h => exact .same (by omega)
  | stopped h => exact .stopped (by omega)
  | fault => exact .fault
  | early => exact .early

theorem eq_of_ok {a : α} (h : Guarded n d depthA (.ok a) x') :
    x' = if d + depthA a ≤ n then .ok a else .error (.depthExceeded n) := by
  cases h with
  | same h => exact (if_pos h).symm
  | stopped h => exact (if_neg (Nat.not_le_of_lt h)).symm

/-- What is read under the limit is read without it. -/
theorem ok_of_ok {a : α} (h : Guarded n d depthA x x') (hx : x' = .ok a) : x = .ok a := by
  cases h with
  | same _ => exact hx
  | _ => cases hx

theorem eq_or_eq_of_error {e : QueryError} (h : Guarded n d depthA (.error e) x') :
    x' = .error e ∨ x' = .error (.depthExceeded n) := by
  cases h with
  | fault => exact .inl rfl
  | early => exact .inr rfl

end Guarded

/-! ## Fields of clause maps -/

namespace Document

variable {limit : DepthLimit} {d : Nat}

/-- To read field by field is to read all of them and to put in what was read. -/
theorem readClauses_eq_mapM (limit : DepthLimit) (d : Nat) (m : ClauseMap)
    (fields : List (String × Json)) :
    readClauses limit d m fields = do return m.insertAll (← fields.mapM (readField limit d)) := by
  induction fields generalizing m with
  | nil => rfl
  | cons field fields ih =>
    rw [readClauses, List.mapM_cons]
    cases readField limit d field with
    | error e => rfl
    | ok c =>
      rw [ok_bind, ok_bind, ih]
      cases fields.mapM (readField limit d) <;> rfl

theorem kind_of_readField {field : String × Json} {c : AnyClause}
    (h : readField limit d field = .ok c) : c.kind.name = field.1 := by
  obtain ⟨name, v⟩ := field
  rw [readField] at h
  obtain ⟨kind, hkind, h⟩ := exists_of_bind_eq_ok h
  have hname : kind.name = name := by
    unfold readKind at hkind
    split at hkind
    · next hof =>
      cases hkind
      exact ClauseKind.name_of_ofName? hof
    · cases hkind
  have hsame : c.kind = kind := by
    cases kind with
    | doNothing | forUpdate => cases h; rfl
    | _ =>
      obtain ⟨_, -, h⟩ := exists_of_bind_eq_ok h
      cases h
      rfl
  rw [hsame, hname]

theorem names_of_mapM {fields : List (String × Json)} {cs : List AnyClause}
    (h : fields.mapM (readField limit d) = .ok cs) :
    cs.map (fun c => c.kind.name) = fields.map Prod.fst := by
  induction fields generalizing cs with
  | nil => cases h; rfl
  | cons field fields ih =>
    rw [List.mapM_cons] at h
    obtain ⟨c, hc, h⟩ := exists_of_bind_eq_ok h
    obtain ⟨rest, hrest, h⟩ := exists_of_bind_eq_ok h
    cases h
    rw [List.map_cons, List.map_cons, kind_of_readField hc, ih hrest]

/-- Fields with distinct keys are read as clauses of distinct kinds. -/
theorem nodup_kinds_of_mapM {fields : List (String × Json)} {cs : List AnyClause}
    (h : fields.mapM (readField limit d) = .ok cs) (hkeys : (fields.map Prod.fst).Nodup) :
    (cs.map AnyClause.kind).Nodup := by
  rw [← names_of_mapM h] at hkeys
  apply List.Nodup.of_map ClauseKind.name
  rwa [List.map_map]

end Document

namespace Guarded

variable {n d : Nat} {fields : List (String × Json)}

theorem clauses (hkeys : (fields.map Prod.fst).Nodup)
    (h : Guarded n d AnyClause.listDepth (fields.mapM (readField none d))
      (fields.mapM (readField (some n) d))) :
    Guarded n d Clauses.depth (readClauses none d .empty fields)
      (readClauses (some n) d .empty fields) := by
  rw [readClauses_eq_mapM, readClauses_eq_mapM]
  apply h.map
  intro cs hcs
  exact ⟨_, rfl, ClauseMap.depth_ofList (nodup_kinds_of_mapM hcs hkeys)⟩

/-- A clause map inside another part adds one to the depth, whether or not the limit lets it be
entered. -/
theorem nested {α : Type} {depth : α → Nat} {k : ClauseMap → Except QueryError α}
    (hkeys : (fields.map Prod.fst).Nodup)
    (h : d + 1 ≤ n → Guarded n (d + 1) AnyClause.listDepth (fields.mapM (readField none (d + 1)))
      (fields.mapM (readField (some n) (d + 1))))
    (hk : ∀ m, ∃ a, k m = .ok a ∧ depth a = m.depth + 1) :
    Guarded n d depth
      (do k (← readClauses none (← enter none d) .empty fields))
      (do k (← readClauses (some n) (← enter (some n) d) .empty fields)) := by
  by_cases hd : d + 1 ≤ n
  · have henter : enter (some n) d = .ok (d + 1) := if_neg (Nat.not_lt_of_le hd)
    rw [henter]
    exact (clauses hkeys (h hd)).up.map fun m _ => hk m
  · have henter : enter (some n) d = .error (.depthExceeded n) := if_pos (Nat.lt_of_not_le hd)
    rw [henter]
    -- Under the limit the fields are not read, so what they are read as without it does not matter.
    change Guarded n d depth (readClauses none (d + 1) .empty fields >>= k) _
    cases readClauses none (d + 1) .empty fields with
    | error e => exact .early
    | ok m =>
      obtain ⟨a, ha, hdepth⟩ := hk m
      rw [ok_bind, ha]
      exact .stopped (by omega)

end Guarded

/-! ## All parts -/

open Json (hasDistinctKeys_array hasDistinctKeys_object)

-- By recursion on the document. A shape that no clause map is written in ends in the same error
-- with and without a limit, before anything inside it is looked at.
mutual

theorem readExpr_guarded {n d : Nat} (hd : d ≤ n) : ∀ j : Json, j.hasDistinctKeys = true →
    Guarded n d Expr.depth (readExpr none d j) (readExpr (some n) d j)
  | .string _, _ => .same hd
  | .object fields, h => by
    obtain ⟨hkeys, hvalues⟩ := hasDistinctKeys_object.mp h
    rw [readExpr, readExpr]
    cases wrapped? fields with
    | some v => exact .same hd
    | none =>
      refine .nested hkeys (fun hd => readFields_guarded hd fields hvalues) ?_
      exact fun m => ⟨_, rfl, rfl⟩
  | .array [], _ => .fault
  | .array (.string text :: args), h => by
    obtain ⟨-, hargs⟩ := List.forall_mem_cons.mp (hasDistinctKeys_array.mp h)
    have hone := readOperand_guarded hd text args hargs
    have hsome := readOperands_guarded hd text args hargs
    rw [readExpr, readExpr]
    apply Guarded.skip
    intro tag
    cases tag with
    | binary op => exact (readPair_guarded hd text args hargs).map fun _ _ => ⟨_, rfl, rfl⟩
    | and | or | caseWhen => exact hsome.map fun _ _ => ⟨_, rfl, rfl⟩
    | inList negated => exact (readTested_guarded hd text args hargs).map fun _ _ => ⟨_, rfl, rfl⟩
    | isNull | isNotNull | not | exists_ => exact hone.map fun _ _ => ⟨_, rfl, rfl⟩
    | call => exact (readCall_guarded hd args hargs).map fun _ _ => ⟨_, rfl, rfl⟩
  | .array (.null :: _), _ | .array (.bool _ :: _), _ | .array (.integer _ :: _), _
  | .array (.float _ :: _), _ | .array (.array _ :: _), _ | .array (.object _ :: _), _ => .fault
  | .null, _ | .bool _, _ | .integer _, _ | .float _, _ => .fault

theorem readExprs_guarded {n d : Nat} (hd : d ≤ n) : ∀ js : List Json,
    (∀ j ∈ js, j.hasDistinctKeys = true) →
    Guarded n d Expr.listDepth (readExprs none d js) (readExprs (some n) d js)
  | [], _ => .same hd
  | j :: js, h => by
    obtain ⟨hj, hjs⟩ := List.forall_mem_cons.mp h
    have hfirst := readExpr_guarded hd j hj
    have hrest := readExprs_guarded hd js hjs
    exact hfirst.map₂ hrest fun _ _ => ⟨_, rfl, rfl⟩

theorem readOperand_guarded {n d : Nat} (hd : d ≤ n) (tag : String) : ∀ js : List Json,
    (∀ j ∈ js, j.hasDistinctKeys = true) →
    Guarded n d Expr.depth (readOperand none d tag js) (readOperand (some n) d tag js)
  | [], _ => .fault
  | [j], h => readExpr_guarded hd j (h j (List.mem_cons_self ..))
  | _ :: _ :: _, _ => .fault

theorem readPair_guarded {n d : Nat} (hd : d ≤ n) (tag : String) : ∀ js : List Json,
    (∀ j ∈ js, j.hasDistinctKeys = true) →
    Guarded n d (fun p => max p.1.depth p.2.depth) (readPair none d tag js)
      (readPair (some n) d tag js)
  | [], _ => .fault
  | [_], _ => .fault
  | [l, r], h => by
    obtain ⟨hl, hr⟩ := List.forall_mem_cons.mp h
    have hleft := readExpr_guarded hd l hl
    have hright := readExpr_guarded hd r (hr r (List.mem_cons_self ..))
    exact hleft.map₂ hright fun _ _ => ⟨_, rfl, rfl⟩
  | _ :: _ :: _ :: _, _ => .fault

theorem readOperands_guarded {n d : Nat} (hd : d ≤ n) (tag : String) : ∀ js : List Json,
    (∀ j ∈ js, j.hasDistinctKeys = true) →
    Guarded n d Expr.listDepth (readOperands none d tag js) (readOperands (some n) d tag js)
  | [], _ => .fault
  | j :: js, h => by
    obtain ⟨hj, hjs⟩ := List.forall_mem_cons.mp h
    have hfirst := readExpr_guarded hd j hj
    have hrest := readExprs_guarded hd js hjs
    exact hfirst.map₂ hrest fun _ _ => ⟨_, rfl, rfl⟩

theorem readTested_guarded {n d : Nat} (hd : d ≤ n) (tag : String) : ∀ js : List Json,
    (∀ j ∈ js, j.hasDistinctKeys = true) →
    Guarded n d (fun p => max p.1.depth (Expr.listDepth p.2)) (readTested none d tag js)
      (readTested (some n) d tag js)
  | [], _ => .fault
  | j :: js, h => by
    obtain ⟨hj, hjs⟩ := List.forall_mem_cons.mp h
    have hfirst := readExpr_guarded hd j hj
    have hrest := readExprs_guarded hd js hjs
    exact hfirst.map₂ hrest fun _ _ => ⟨_, rfl, rfl⟩

theorem readCall_guarded {n d : Nat} (hd : d ≤ n) : ∀ js : List Json,
    (∀ j ∈ js, j.hasDistinctKeys = true) →
    Guarded n d (fun p => Expr.listDepth p.2) (readCall none d js) (readCall (some n) d js)
  | [], _ => .fault
  | .string _ :: js, h => by
    have hargs := readExprs_guarded hd js (List.forall_mem_cons.mp h).2
    exact hargs.map fun _ _ => ⟨_, rfl, rfl⟩
  | .null :: _, _ | .bool _ :: _, _ | .integer _ :: _, _ | .float _ :: _, _ | .array _ :: _, _
  | .object _ :: _, _ => .fault

theorem readExprList_guarded {n d : Nat} (hd : d ≤ n) : ∀ j : Json, j.hasDistinctKeys = true →
    Guarded n d Expr.listDepth (readExprList none d j) (readExprList (some n) d j)
  | .array items, h => readExprs_guarded hd items (hasDistinctKeys_array.mp h)
  | .null, _ | .bool _, _ | .integer _, _ | .float _, _ | .string _, _ | .object _, _ => .fault

theorem readExprField_guarded {n d : Nat} (hd : d ≤ n) (key : String) :
    ∀ fields : List (String × Json), (∀ field ∈ fields, field.2.hasDistinctKeys = true) →
    Guarded n d Expr.listDepth (readExprField none d key fields)
      (readExprField (some n) d key fields)
  | [], _ => .same hd
  | (name, v) :: fields, h => by
    obtain ⟨hv, hrest⟩ := List.forall_mem_cons.mp h
    rw [readExprField, readExprField]
    split
    · exact readExprList_guarded hd v hv
    · exact readExprField_guarded hd key fields hrest

theorem readTable_guarded {n d : Nat} (hd : d ≤ n) : ∀ j : Json, j.hasDistinctKeys = true →
    Guarded n d Table.depth (readTable none d j) (readTable (some n) d j)
  | .string _, _ => .same hd
  | .object fields, h => by
    obtain ⟨hkeys, hvalues⟩ := hasDistinctKeys_object.mp h
    rw [readTable, readTable]
    refine .nested hkeys (fun hd => readFields_guarded hd fields hvalues) ?_
    exact fun m => ⟨_, rfl, rfl⟩
  | .array [.string _, .string _], _ => .same hd
  | .array [.object fields, .string _], h => by
    have hsource := (List.forall_mem_cons.mp (hasDistinctKeys_array.mp h)).1
    obtain ⟨hkeys, hvalues⟩ := hasDistinctKeys_object.mp hsource
    rw [readTable, readTable]
    refine .nested hkeys (fun hd => readFields_guarded hd fields hvalues) ?_
    exact fun m => ⟨_, rfl, rfl⟩
  | .array [.null, .string _], _ | .array [.bool _, .string _], _
  | .array [.integer _, .string _], _ | .array [.float _, .string _], _
  | .array [.array _, .string _], _ => .fault
  | .array [x, .null], _ | .array [x, .bool _], _ | .array [x, .integer _], _
  | .array [x, .float _], _ | .array [x, .array _], _ | .array [x, .object _], _ => by
    cases x <;> exact .fault
  | .array [], _ => .fault
  | .array [x], _ => by cases x <;> exact .fault
  | .array (x :: y :: _ :: _), _ => by cases x <;> cases y <;> exact .fault
  | .null, _ | .bool _, _ | .integer _, _ | .float _, _ => .fault

theorem readJoin_guarded {n d : Nat} (hd : d ≤ n) : ∀ j : Json, j.hasDistinctKeys = true →
    Guarded n d Join.depth (readJoin none d j) (readJoin (some n) d j)
  | .array [.string _, table, on], h => by
    obtain ⟨-, hrest⟩ := List.forall_mem_cons.mp (hasDistinctKeys_array.mp h)
    obtain ⟨ht, hon⟩ := List.forall_mem_cons.mp hrest
    have htable := readTable_guarded hd table ht
    have hcondition := readExpr_guarded hd on (hon on (List.mem_cons_self ..))
    rw [readJoin, readJoin]
    apply Guarded.skip
    intro kind
    exact htable.map₂ hcondition fun _ _ => ⟨_, rfl, rfl⟩
  | .array [.null, _, _], _ | .array [.bool _, _, _], _ | .array [.integer _, _, _], _
  | .array [.float _, _, _], _ | .array [.array _, _, _], _ | .array [.object _, _, _], _ => .fault
  | .array [], _ => .fault
  | .array [x], _ => by cases x <;> exact .fault
  | .array [x, _], _ => by cases x <;> exact .fault
  | .array (x :: _ :: _ :: _ :: _), _ => by cases x <;> exact .fault
  | .null, _ | .bool _, _ | .integer _, _ | .float _, _ | .string _, _ | .object _, _ => .fault

theorem readJoins_guarded {n d : Nat} (hd : d ≤ n) : ∀ js : List Json,
    (∀ j ∈ js, j.hasDistinctKeys = true) →
    Guarded n d Join.listDepth (readJoins none d js) (readJoins (some n) d js)
  | [], _ => .same hd
  | j :: js, h => by
    obtain ⟨hj, hjs⟩ := List.forall_mem_cons.mp h
    have hfirst := readJoin_guarded hd j hj
    have hrest := readJoins_guarded hd js hjs
    exact hfirst.map₂ hrest fun _ _ => ⟨_, rfl, rfl⟩

theorem readJoinList_guarded {n d : Nat} (hd : d ≤ n) : ∀ j : Json, j.hasDistinctKeys = true →
    Guarded n d Join.listDepth (readJoinList none d j) (readJoinList (some n) d j)
  | .array items, h => readJoins_guarded hd items (hasDistinctKeys_array.mp h)
  | .null, _ | .bool _, _ | .integer _, _ | .float _, _ | .string _, _ | .object _, _ => .fault

theorem readOrderItem_guarded {n d : Nat} (hd : d ≤ n) : ∀ j : Json, j.hasDistinctKeys = true →
    Guarded n d OrderItem.depth (readOrderItem none d j) (readOrderItem (some n) d j)
  | .array [], _ => .fault
  | .array (expr :: _), h => by
    have hexpr := readExpr_guarded hd expr (List.forall_mem_cons.mp (hasDistinctKeys_array.mp h)).1
    rw [readOrderItem, readOrderItem]
    apply Guarded.skip
    intro order
    exact hexpr.map fun _ _ => ⟨_, rfl, rfl⟩
  | .null, _ | .bool _, _ | .integer _, _ | .float _, _ | .string _, _ | .object _, _ => .fault

theorem readOrderItems_guarded {n d : Nat} (hd : d ≤ n) : ∀ js : List Json,
    (∀ j ∈ js, j.hasDistinctKeys = true) →
    Guarded n d OrderItem.listDepth (readOrderItems none d js) (readOrderItems (some n) d js)
  | [], _ => .same hd
  | j :: js, h => by
    obtain ⟨hj, hjs⟩ := List.forall_mem_cons.mp h
    have hfirst := readOrderItem_guarded hd j hj
    have hrest := readOrderItems_guarded hd js hjs
    exact hfirst.map₂ hrest fun _ _ => ⟨_, rfl, rfl⟩

theorem readOrderList_guarded {n d : Nat} (hd : d ≤ n) : ∀ j : Json, j.hasDistinctKeys = true →
    Guarded n d OrderItem.listDepth (readOrderList none d j) (readOrderList (some n) d j)
  | .array items, h => readOrderItems_guarded hd items (hasDistinctKeys_array.mp h)
  | .null, _ | .bool _, _ | .integer _, _ | .float _, _ | .string _, _ | .object _, _ => .fault

theorem readDistinct_guarded {n d : Nat} (hd : d ≤ n) : ∀ j : Json, j.hasDistinctKeys = true →
    Guarded n d (fun p => max (Expr.listDepth p.1) (Expr.listDepth p.2)) (readDistinct none d j)
      (readDistinct (some n) d j)
  | .object parts, h => by
    obtain ⟨-, hvalues⟩ := hasDistinctKeys_object.mp h
    have hon := readExprField_guarded hd "on" parts hvalues
    have hexprs := readExprField_guarded hd "exprs" parts hvalues
    exact hon.map₂ hexprs fun _ _ => ⟨_, rfl, rfl⟩
  | .null, _ | .bool _, _ | .integer _, _ | .float _, _ | .string _, _ | .array _, _ => .fault

theorem readField_guarded {n d : Nat} (hd : d ≤ n) : ∀ field : String × Json,
    field.2.hasDistinctKeys = true →
    Guarded n d AnyClause.depth (readField none d field) (readField (some n) d field)
  | (name, v), hv => by
    have hexpr := readExpr_guarded hd v hv
    have hexprs := readExprList_guarded hd v hv
    have htable := readTable_guarded hd v hv
    rw [readField, readField]
    apply Guarded.skip
    intro kind
    cases kind with
    | select | doUpdate | set | groupBy | returning =>
      exact hexprs.map fun _ _ => ⟨_, rfl, rfl⟩
    | selectDistinct => exact (readDistinct_guarded hd v hv).map fun _ _ => ⟨_, rfl, rfl⟩
    | insertInto | update | from_ => exact htable.map fun _ _ => ⟨_, rfl, rfl⟩
    | columns | values | onConflict | limit | offset => exact .skip fun _ => .same hd
    | doNothing | forUpdate => exact .same hd
    | join => exact (readJoinList_guarded hd v hv).map fun _ _ => ⟨_, rfl, rfl⟩
    | where_ | having => exact hexpr.map fun _ _ => ⟨_, rfl, rfl⟩
    | orderBy => exact (readOrderList_guarded hd v hv).map fun _ _ => ⟨_, rfl, rfl⟩

theorem readFields_guarded {n d : Nat} (hd : d ≤ n) : ∀ fields : List (String × Json),
    (∀ field ∈ fields, field.2.hasDistinctKeys = true) →
    Guarded n d AnyClause.listDepth (fields.mapM (readField none d))
      (fields.mapM (readField (some n) d))
  | [], _ => .same hd
  | field :: fields, h => by
    obtain ⟨hfield, hfields⟩ := List.forall_mem_cons.mp h
    have hfirst := readField_guarded hd field hfield
    have hrest := readFields_guarded hd fields hfields
    rw [List.mapM_cons, List.mapM_cons]
    exact hfirst.map₂ hrest fun _ _ => ⟨_, rfl, rfl⟩

end

/-! ## Nesting that does not count -/

namespace Document

variable {limit limit' : DepthLimit} {d : Nat}

/-- An array of operands adds no level: two limits that agree on each of its elements agree on
it. -/
theorem readExprs_congr {args : List Json}
    (h : ∀ arg ∈ args, readExpr limit d arg = readExpr limit' d arg) :
    readExprs limit d args = readExprs limit' d args := by
  induction args with
  | nil => rfl
  | cons arg args ih =>
    obtain ⟨harg, hargs⟩ := List.forall_mem_cons.mp h
    rw [readExprs, readExprs, harg, ih hargs]

theorem readExpr_operator_congr {text : String} {args : List Json}
    (h : ∀ arg ∈ args, readExpr limit d arg = readExpr limit' d arg) :
    readExpr limit d (.array (.string text :: args))
      = readExpr limit' d (.array (.string text :: args)) := by
  have hone : readOperand limit d text args = readOperand limit' d text args := by
    match args, h with
    | [], _ | _ :: _ :: _, _ => rfl
    | [arg], h => exact h arg (List.mem_cons_self ..)
  have hpair : readPair limit d text args = readPair limit' d text args := by
    match args, h with
    | [], _ | [_], _ | _ :: _ :: _ :: _, _ => rfl
    | [l, r], h =>
      obtain ⟨hl, hr⟩ := List.forall_mem_cons.mp h
      rw [readPair, readPair, hl, hr r (List.mem_cons_self ..)]
  have hsome : readOperands limit d text args = readOperands limit' d text args := by
    match args, h with
    | [], _ => rfl
    | arg :: args, h =>
      obtain ⟨harg, hargs⟩ := List.forall_mem_cons.mp h
      rw [readOperands, readOperands, harg, readExprs_congr hargs]
  have htested : readTested limit d text args = readTested limit' d text args := by
    match args, h with
    | [], _ => rfl
    | arg :: args, h =>
      obtain ⟨harg, hargs⟩ := List.forall_mem_cons.mp h
      rw [readTested, readTested, harg, readExprs_congr hargs]
  have hcall : readCall limit d args = readCall limit' d args := by
    match args, h with
    | .string name :: args, h =>
      rw [readCall, readCall, readExprs_congr (List.forall_mem_cons.mp h).2]
    | [], _ | .null :: _, _ | .bool _ :: _, _ | .integer _ :: _, _ | .float _ :: _, _
    | .array _ :: _, _ | .object _ :: _, _ => rfl
  rw [readExpr, readExpr, hone, hpair, hsome, htested, hcall]

end Document

/-! ## Documents -/

namespace ClauseMap

theorem guarded_ofJson {doc : Json} (h : doc.hasDistinctKeys = true) (n : Nat) :
    Guarded n 0 Clauses.depth (ofJson .unbounded doc) (ofJson (some n) doc) := by
  cases doc with
  | object fields =>
    obtain ⟨hkeys, hvalues⟩ := hasDistinctKeys_object.mp h
    exact .clauses hkeys (readFields_guarded (Nat.zero_le n) fields hvalues)
  | _ => exact .fault

/-- In particular this goes for a document that is read from a text. -/
theorem guarded_ofJson_of_readFirst? {room : Option Nat} {cs rest : List Char} {doc : Json}
    (h : Json.readFirst? room cs = some (doc, rest)) (n : Nat) :
    Guarded n 0 Clauses.depth (ofJson .unbounded doc) (ofJson (some n) doc) :=
  guarded_ofJson (Json.hasDistinctKeys_of_readFirst? h) n

/-- What a depth limit does to a document whose objects have each key once. If it is read without a
limit, the depth of the map decides: within the limit the map is the same, and beyond it the limit
is the error. If it is not read, the limit may be the error that is met first. Nesting of other
kinds adds no level: values in wrappers and payloads that do not matter are not looked into, and an
array of operands is at the level of its elements. -/
theorem ofJson_bounded {doc : Json} (h : doc.hasDistinctKeys = true) :
    (∀ n m, ofJson .unbounded doc = .ok m →
      ofJson (some n) doc = if m.depth ≤ n then .ok m else .error (.depthExceeded n)) ∧
    (∀ n e, ofJson .unbounded doc = .error e →
      ofJson (some n) doc = .error e ∨ ofJson (some n) doc = .error (.depthExceeded n)) ∧
    (∀ limit d fields v, wrapped? fields = some v →
      readExpr limit d (.object fields) = .ok (.value v)) ∧
    (∀ limit d v, readField limit d (ClauseKind.doNothing.name, v) = .ok ⟨_, .doNothing⟩ ∧
      readField limit d (ClauseKind.forUpdate.name, v) = .ok ⟨_, .forUpdate⟩) ∧
    (∀ limit limit' d text args,
      (∀ arg ∈ args, readExpr limit d arg = readExpr limit' d arg) →
      readExpr limit d (.array (.string text :: args))
        = readExpr limit' d (.array (.string text :: args))) := by
  refine ⟨?_, ?_, ?_, ?_, fun _ _ _ _ _ => readExpr_operator_congr⟩
  · intro n m hm
    have hguarded := guarded_ofJson h n
    rw [hm] at hguarded
    have hdepth := hguarded.eq_of_ok
    rwa [Nat.zero_add] at hdepth
  · intro n e he
    have hguarded := guarded_ofJson h n
    rw [he] at hguarded
    exact hguarded.eq_or_eq_of_error
  · intro limit d fields v hv
    rw [readExpr, hv]
  · intro limit d v
    exact ⟨rfl, rfl⟩

/-- A parameter and payloads that nest deeper than the limit, operators inside one another and two
subqueries side by side, one with a subquery inside; and a document with a fault behind a
subquery. -/
theorem ofJson_bounded_nested :
    let leaf := Json.object [("limit", .ofUInt64 1)]
    let deep := Json.object [("ip", .array [.array [.array [.object [("a", .object [])]]]])]
    let doc := Json.object
      [("do_nothing", .object [("a", .object [("b", .object [])])]),
        ("from", .array [.object [("from", leaf)], .string "t"]),
        ("where", .array [.string "not", .array [.string "and", .array [.string "=", deep, leaf]]])]
    let faulty := Json.object [("from", leaf), ("limit", .string "x")]
    doc.hasDistinctKeys = true ∧ faulty.hasDistinctKeys = true ∧
    (∃ m, ofJson .unbounded doc = .ok m ∧ m.depth = 2 ∧ ofJson (some 2) doc = .ok m) ∧
    ofJson (some 1) doc = .error (.depthExceeded 1) ∧
    ofJson .unbounded faulty = .error (.malformed (.notCount .limit (.string "x"))) ∧
    (ofJson (some 0) faulty = .error (.malformed (.notCount .limit (.string "x"))) ∨
      ofJson (some 0) faulty = .error (.depthExceeded 0)) := by
  intro leaf deep doc faulty
  have hdoc : doc.hasDistinctKeys = true := by decide
  have hfaulty : faulty.hasDistinctKeys = true := by decide
  obtain ⟨hok, -⟩ := ofJson_bounded hdoc
  obtain ⟨-, herror, -⟩ := ofJson_bounded hfaulty
  obtain ⟨m, hm, hdepth⟩ : ∃ m, ofJson .unbounded doc = .ok m ∧ m.depth = 2 := ⟨_, rfl, rfl⟩
  have hfault : ofJson .unbounded faulty
      = .error (.malformed (.notCount .limit (.string "x"))) := rfl
  refine ⟨hdoc, hfaulty, ⟨m, hm, hdepth, ?_⟩, ?_, hfault, herror 0 _ hfault⟩
  · rw [hok 2 m hm, if_pos (Nat.le_of_eq hdepth)]
  · rw [hok 1 m hm, if_neg (by rw [hdepth]; decide)]

end ClauseMap

end Clausal
