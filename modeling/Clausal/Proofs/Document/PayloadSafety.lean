import Clausal.Proofs.Document.ReadBack
import Clausal.Proofs.Query.Slots
import Clausal.Proofs.Statement.DepthLimit
import Clausal.Proofs.Statement.ParamSafety

/-!
# Payloads of parameters stay out of statements

What stands under the key `ip` is bound as it is. Reading a document never looks into it, at no place
of the document and for no shape of it, so two documents that differ there alone have the same fate:
both are refused with errors of one kind, or they are read as maps that differ in their parameters
alone, and then both statements have the same text or there is none.
-/

namespace Clausal

open Document

/-! ## Documents without payloads -/

mutual

/-- The document with null under every key `ip`. What stands under a key `r` is a text of its own and
is not looked into. -/
def Json.erasePayloads : Json → Json
  | .array items => .array (Json.eraseItems items)
  | .object fields => .object (Json.eraseFields fields)
  | v => v

def Json.eraseItems : List Json → List Json
  | [] => []
  | v :: vs => v.erasePayloads :: Json.eraseItems vs

def Json.eraseField : String × Json → String × Json
  | (key, v) => (key, if key = "ip" then .null else if key = "r" then v else v.erasePayloads)

def Json.eraseFields : List (String × Json) → List (String × Json)
  | [] => []
  | field :: fields => Json.eraseField field :: Json.eraseFields fields

end

/-- A parameter of which nothing is left but its place. -/
abbrev Param.erase : Param → Param :=
  fun _ => .null

/-! ## Two readers -/

/-- Two readers side by side: the second reads what the first does, changed by `f`, and where the
first fails it fails with an error of the same kind. -/
inductive Parallel {α : Type} (f : α → α) : Except QueryError α → Except QueryError α → Prop where
  | ok (a : α) : Parallel f (.ok a) (.ok (f a))
  | error {e e' : QueryError} (h : e.kind = e'.kind) : Parallel f (.error e) (.error e')

namespace Parallel

variable {α β γ : Type} {f : α → α} {g : β → β} {h : γ → γ} {x x' : Except QueryError α}
  {y y' : Except QueryError β}

theorem same (x : Except QueryError α) : Parallel id x x := by
  cases x with
  | error e => exact .error rfl
  | ok a => exact .ok a

theorem bind {k k' : α → Except QueryError β} (hx : Parallel f x x')
    (hk : ∀ a, Parallel g (k a) (k' (f a))) : Parallel g (x >>= k) (x' >>= k') := by
  cases hx with
  | ok a => exact hk a
  | error he => exact .error he

theorem skip {k k' : α → Except QueryError β} (hk : ∀ a, Parallel g (k a) (k' a)) :
    Parallel g (x >>= k) (x >>= k') :=
  (same x).bind hk

theorem map {make make' : α → β} (hx : Parallel f x x') (hmake : ∀ a, make' (f a) = g (make a)) :
    Parallel g (do return make (← x)) (do return make' (← x')) := by
  refine hx.bind ?_
  intro a
  rw [hmake]
  exact .ok (make a)

theorem map₂ {make : α → β → γ} (hx : Parallel f x x') (hy : Parallel g y y')
    (hmake : ∀ a b, make (f a) (g b) = h (make a b)) :
    Parallel h (do return make (← x) (← y)) (do return make (← x') (← y')) := by
  refine hx.bind ?_
  intro a
  exact hy.map (hmake a)

theorem mapM {read : Json → Except QueryError α}
    (h : ∀ j, Parallel f (read j) (read j.erasePayloads)) (js : List Json) :
    Parallel (List.map f) (js.mapM read) ((Json.eraseItems js).mapM read) := by
  induction js with
  | nil => exact .ok []
  | cons j js ih =>
    rw [Json.eraseItems, List.mapM_cons, List.mapM_cons]
    exact (h j).map₂ ih fun _ _ => rfl

/-- Changes that agree are one change. -/
theorem congr {f' : α → α} (hx : Parallel f x x') (hf : ∀ a, f a = f' a) : Parallel f' x x' := by
  obtain rfl : f = f' := funext hf
  exact hx

end Parallel

/-! ## Leaves -/

namespace Document

theorem readArray_parallel {α : Type} {f : α → α} {read : Json → Except QueryError α}
    (h : ∀ j, Parallel f (read j) (read j.erasePayloads)) (what : String) (v : Json) :
    Parallel (List.map f) (do (← readItems what v).mapM read)
      (do (← readItems what v.erasePayloads).mapM read) := by
  cases v with
  | array items => exact .mapM h items
  | _ => exact .error rfl

theorem readName_parallel (kind : ClauseKind) (v : Json) :
    Parallel id (readName kind v) (readName kind v.erasePayloads) := by
  cases v with
  | string s => exact .ok s
  | _ => exact .error rfl

theorem readNames_parallel (kind : ClauseKind) (v : Json) :
    Parallel id (readNames kind v) (readNames kind v.erasePayloads) :=
  (readArray_parallel (readName_parallel kind) kind.name v).congr List.map_id

theorem field?_eraseFields (key : String) (fields : List (String × Json)) :
    Json.field? key (Json.eraseFields fields) = (Json.field? key fields).map fun v =>
      if key = "ip" then .null else if key = "r" then v else v.erasePayloads := by
  unfold Json.field?
  induction fields with
  | nil => rfl
  | cons field fields ih =>
    obtain ⟨name, v⟩ := field
    rw [Json.eraseFields, Json.eraseField, List.lookup_cons, List.lookup_cons]
    by_cases hkey : key = name
    · subst hkey
      rw [beq_self_eq_true]
      rfl
    · rw [beq_false_of_ne hkey]
      exact ih

theorem wrapped?_eraseFields (fields : List (String × Json)) :
    wrapped? (Json.eraseFields fields) = (wrapped? fields).map (Value.mapParams .erase) := by
  unfold wrapped?
  rw [field?_eraseFields, field?_eraseFields]
  cases Json.field? "ip" fields with
  | some v => rfl
  | none =>
    cases Json.field? "r" fields with
    | none => rfl
    | some v => cases v <;> rfl

theorem readValue_parallel (v : Json) :
    Parallel (Value.mapParams .erase) (readValue v) (readValue v.erasePayloads) := by
  cases v with
  | string name => exact .ok (Value.ident name)
  | object fields =>
    simp only [Json.erasePayloads, readValue, wrapped?_eraseFields]
    cases wrapped? fields with
    | some v => exact .ok v
    | none => exact .error rfl
  | _ => exact .error rfl

theorem readRows_parallel (v : Json) :
    Parallel (List.map (List.map (Value.mapParams .erase))) (readRows v)
      (readRows v.erasePayloads) :=
  readArray_parallel (readArray_parallel readValue_parallel "values row") ClauseKind.values.name v

theorem readCount_parallel (kind : ClauseKind) (v : Json) :
    Parallel id (readCount kind v) (readCount kind v.erasePayloads) := by
  cases v with
  | integer n => exact .same _
  | _ => exact .error rfl

theorem readDirection_parallel (j? : Option Json) :
    Parallel id (readDirection j?) (readDirection (j?.map Json.erasePayloads)) := by
  cases j? with
  | none => exact .same _
  | some j =>
    cases j with
    | string text => exact .same _
    | _ => exact .error rfl

theorem readNulls_parallel (d : Direction) (j? : Option Json) :
    Parallel id (readNulls d j?) (readNulls d (j?.map Json.erasePayloads)) := by
  cases j? with
  | none => exact .same _
  | some j =>
    cases j with
    | string text => exact .same _
    | _ => exact .error rfl

theorem eraseItems_eq_map (js : List Json) : Json.eraseItems js = js.map Json.erasePayloads := by
  induction js with
  | nil => rfl
  | cons j js ih => rw [Json.eraseItems, ih, List.map_cons]

theorem readOrder_parallel (rest : List Json) :
    Parallel id (readOrder rest) (readOrder (Json.eraseItems rest)) := by
  unfold readOrder
  rw [eraseItems_eq_map, List.getElem?_map, List.getElem?_map, List.length_map]
  refine (readDirection_parallel rest[0]?).bind ?_
  intro direction
  refine (readNulls_parallel direction rest[1]?).bind ?_
  intro nulls
  exact .same _

end Document

/-! ## Clause maps -/

namespace Clauses

variable {ks : List ClauseKind}

theorem mapParams_insert (f : Param → Param) {k : ClauseKind} (c : Clause k) (m : Clauses ks) :
    (m.insert c).mapParams f = (m.mapParams f).insert (c.mapParams f) := by
  induction ks with
  | nil => cases m; rfl
  | cons j ks ih =>
    cases m with
    | absent rest =>
      by_cases hk : k = j
      · subst hk
        simp [insert, mapParams]
      · simp [insert, mapParams, hk, ih]
    | present e rest =>
      by_cases hk : k = j
      · subst hk
        simp [insert, mapParams]
      · simp [insert, mapParams, hk, ih]

end Clauses

/-! ## All parts -/

-- By recursion on the document. A shape that no clause map is written in has the same fault with and
-- without its payloads, since no payload is the reason that it has it.
mutual

theorem readExpr_parallel (limit : DepthLimit) (d : Nat) : ∀ j : Json,
    Parallel (Expr.mapParams .erase) (readExpr limit d j) (readExpr limit d j.erasePayloads)
  | .string name => .ok (Expr.ident name)
  | .object fields => by
    rw [Json.erasePayloads, readExpr, readExpr, wrapped?_eraseFields]
    cases wrapped? fields with
    | some v => exact .ok (Expr.value v)
    | none =>
      refine .skip fun inner => ?_
      exact (readFields_parallel limit inner fields .empty).map fun _ => rfl
  | .array [] => .error rfl
  | .array (.string text :: args) => by
    simp only [Json.erasePayloads, Json.eraseItems]
    rw [readExpr, readExpr]
    refine .skip fun tag => ?_
    cases tag with
    | binary op => exact (readPair_parallel limit d text args).map fun _ => rfl
    | and | or | caseWhen => exact (readOperands_parallel limit d text args).map fun _ => rfl
    | inList negated => exact (readTested_parallel limit d text args).map fun _ => rfl
    | isNull | isNotNull | not | exists_ =>
      exact (readOperand_parallel limit d text args).map fun _ => rfl
    | call => exact (readCall_parallel limit d args).map fun _ => rfl
  | .array (.null :: _) | .array (.bool _ :: _) | .array (.integer _ :: _)
  | .array (.float _ :: _) | .array (.array _ :: _) | .array (.object _ :: _) => .error rfl
  | .null | .bool _ | .integer _ | .float _ => .error rfl

theorem readExprs_parallel (limit : DepthLimit) (d : Nat) : ∀ js : List Json,
    Parallel (Expr.listMapParams .erase) (readExprs limit d js)
      (readExprs limit d (Json.eraseItems js))
  | [] => .ok []
  | j :: js => by
    have hfirst := readExpr_parallel limit d j
    have hrest := readExprs_parallel limit d js
    exact hfirst.map₂ hrest fun _ _ => rfl

theorem readOperand_parallel (limit : DepthLimit) (d : Nat) (tag : String) : ∀ js : List Json,
    Parallel (Expr.mapParams .erase) (readOperand limit d tag js)
      (readOperand limit d tag (Json.eraseItems js))
  | [] => .error rfl
  | [j] => readExpr_parallel limit d j
  | _ :: _ :: _ => .error rfl

theorem readPair_parallel (limit : DepthLimit) (d : Nat) (tag : String) : ∀ js : List Json,
    Parallel (Prod.map (Expr.mapParams .erase) (Expr.mapParams .erase)) (readPair limit d tag js)
      (readPair limit d tag (Json.eraseItems js))
  | [] => .error rfl
  | [_] => .error rfl
  | [l, r] => by
    have hleft := readExpr_parallel limit d l
    have hright := readExpr_parallel limit d r
    exact hleft.map₂ hright fun _ _ => rfl
  | _ :: _ :: _ :: _ => .error rfl

theorem readOperands_parallel (limit : DepthLimit) (d : Nat) (tag : String) : ∀ js : List Json,
    Parallel (Expr.listMapParams .erase) (readOperands limit d tag js)
      (readOperands limit d tag (Json.eraseItems js))
  | [] => .error rfl
  | j :: js => by
    have hfirst := readExpr_parallel limit d j
    have hrest := readExprs_parallel limit d js
    exact hfirst.map₂ hrest fun _ _ => rfl

theorem readTested_parallel (limit : DepthLimit) (d : Nat) (tag : String) : ∀ js : List Json,
    Parallel (Prod.map (Expr.mapParams .erase) (Expr.listMapParams .erase))
      (readTested limit d tag js) (readTested limit d tag (Json.eraseItems js))
  | [] => .error rfl
  | j :: js => by
    have hfirst := readExpr_parallel limit d j
    have hrest := readExprs_parallel limit d js
    exact hfirst.map₂ hrest fun _ _ => rfl

theorem readCall_parallel (limit : DepthLimit) (d : Nat) : ∀ js : List Json,
    Parallel (Prod.map id (Expr.listMapParams .erase)) (readCall limit d js)
      (readCall limit d (Json.eraseItems js))
  | [] => .error rfl
  | .string _ :: js => (readExprs_parallel limit d js).map fun _ => rfl
  | .null :: _ | .bool _ :: _ | .integer _ :: _ | .float _ :: _ | .array _ :: _
  | .object _ :: _ => .error rfl

theorem readExprList_parallel (limit : DepthLimit) (d : Nat) : ∀ j : Json,
    Parallel (Expr.listMapParams .erase) (readExprList limit d j)
      (readExprList limit d j.erasePayloads)
  | .array items => readExprs_parallel limit d items
  | .null | .bool _ | .integer _ | .float _ | .string _ | .object _ => .error rfl

theorem readExprField_parallel (limit : DepthLimit) (d : Nat) (key : String) (hip : key ≠ "ip")
    (hr : key ≠ "r") : ∀ fields : List (String × Json),
    Parallel (Expr.listMapParams .erase) (readExprField limit d key fields)
      (readExprField limit d key (Json.eraseFields fields))
  | [] => .ok []
  | (name, v) :: fields => by
    have hpart := readExprList_parallel limit d v
    have hrest := readExprField_parallel limit d key hip hr fields
    rw [Json.eraseFields, Json.eraseField, readExprField, readExprField]
    by_cases h : key = name
    · subst h
      rw [if_pos rfl, if_pos rfl, if_neg hip, if_neg hr]
      exact hpart
    · rw [if_neg h, if_neg h]
      exact hrest

theorem readTable_parallel (limit : DepthLimit) (d : Nat) : ∀ j : Json,
    Parallel (Table.mapParams .erase) (readTable limit d j) (readTable limit d j.erasePayloads)
  | .string name => .ok (Table.named name none)
  | .object fields => by
    refine .skip fun inner => ?_
    exact (readFields_parallel limit inner fields .empty).map fun _ => rfl
  | .array [.string name, .string short] => .ok (Table.named name (some short))
  | .array [.object fields, .string short] => by
    refine .skip fun inner => ?_
    exact (readFields_parallel limit inner fields .empty).map fun _ => rfl
  | .array [.null, .string _] | .array [.bool _, .string _] | .array [.integer _, .string _]
  | .array [.float _, .string _] | .array [.array _, .string _] => .error rfl
  | .array [x, .null] | .array [x, .bool _] | .array [x, .integer _] | .array [x, .float _]
  | .array [x, .array _] | .array [x, .object _] => by cases x <;> exact .error rfl
  | .array [] => .error rfl
  | .array [x] => by cases x <;> exact .error rfl
  | .array (x :: y :: _ :: _) => by cases x <;> cases y <;> exact .error rfl
  | .null | .bool _ | .integer _ | .float _ => .error rfl

theorem readJoin_parallel (limit : DepthLimit) (d : Nat) : ∀ j : Json,
    Parallel (Join.mapParams .erase) (readJoin limit d j) (readJoin limit d j.erasePayloads)
  | .array [.string _, table, on] => by
    have htable := readTable_parallel limit d table
    have hon := readExpr_parallel limit d on
    refine .skip fun kind => ?_
    exact htable.map₂ hon fun _ _ => rfl
  | .array [.null, _, _] | .array [.bool _, _, _] | .array [.integer _, _, _]
  | .array [.float _, _, _] | .array [.array _, _, _] | .array [.object _, _, _] => .error rfl
  | .array [] => .error rfl
  | .array [x] => by cases x <;> exact .error rfl
  | .array [x, _] => by cases x <;> exact .error rfl
  | .array (x :: _ :: _ :: _ :: _) => by cases x <;> exact .error rfl
  | .null | .bool _ | .integer _ | .float _ | .string _ | .object _ => .error rfl

theorem readJoins_parallel (limit : DepthLimit) (d : Nat) : ∀ js : List Json,
    Parallel (Join.listMapParams .erase) (readJoins limit d js)
      (readJoins limit d (Json.eraseItems js))
  | [] => .ok []
  | j :: js => by
    have hfirst := readJoin_parallel limit d j
    have hrest := readJoins_parallel limit d js
    exact hfirst.map₂ hrest fun _ _ => rfl

theorem readJoinList_parallel (limit : DepthLimit) (d : Nat) : ∀ j : Json,
    Parallel (Join.listMapParams .erase) (readJoinList limit d j)
      (readJoinList limit d j.erasePayloads)
  | .array items => readJoins_parallel limit d items
  | .null | .bool _ | .integer _ | .float _ | .string _ | .object _ => .error rfl

theorem readOrderItem_parallel (limit : DepthLimit) (d : Nat) : ∀ j : Json,
    Parallel (OrderItem.mapParams .erase) (readOrderItem limit d j)
      (readOrderItem limit d j.erasePayloads)
  | .array [] => .error rfl
  | .array (expr :: rest) => by
    have hexpr := readExpr_parallel limit d expr
    refine (readOrder_parallel rest).bind fun order => ?_
    exact hexpr.map fun _ => rfl
  | .null | .bool _ | .integer _ | .float _ | .string _ | .object _ => .error rfl

theorem readOrderItems_parallel (limit : DepthLimit) (d : Nat) : ∀ js : List Json,
    Parallel (OrderItem.listMapParams .erase) (readOrderItems limit d js)
      (readOrderItems limit d (Json.eraseItems js))
  | [] => .ok []
  | j :: js => by
    have hfirst := readOrderItem_parallel limit d j
    have hrest := readOrderItems_parallel limit d js
    exact hfirst.map₂ hrest fun _ _ => rfl

theorem readOrderList_parallel (limit : DepthLimit) (d : Nat) : ∀ j : Json,
    Parallel (OrderItem.listMapParams .erase) (readOrderList limit d j)
      (readOrderList limit d j.erasePayloads)
  | .array items => readOrderItems_parallel limit d items
  | .null | .bool _ | .integer _ | .float _ | .string _ | .object _ => .error rfl

theorem readDistinct_parallel (limit : DepthLimit) (d : Nat) : ∀ j : Json,
    Parallel (Prod.map (Expr.listMapParams .erase) (Expr.listMapParams .erase))
      (readDistinct limit d j) (readDistinct limit d j.erasePayloads)
  | .object parts => by
    have hon := readExprField_parallel limit d "on" (by decide) (by decide) parts
    have hexprs := readExprField_parallel limit d "exprs" (by decide) (by decide) parts
    exact hon.map₂ hexprs fun _ _ => rfl
  | .null | .bool _ | .integer _ | .float _ | .string _ | .array _ => .error rfl

theorem readField_parallel (limit : DepthLimit) (d : Nat) : ∀ field : String × Json,
    Parallel (AnyClause.mapParams .erase) (readField limit d field)
      (readField limit d (Json.eraseField field))
  | (name, v) => by
    have hexpr := readExpr_parallel limit d v
    have hexprs := readExprList_parallel limit d v
    have htable := readTable_parallel limit d v
    have hdistinct := readDistinct_parallel limit d v
    have hjoins := readJoinList_parallel limit d v
    have horder := readOrderList_parallel limit d v
    -- No clause has the name of a wrapper, so a payload under such a name is not looked at.
    by_cases hip : name = "ip"
    · subst hip
      exact .error rfl
    by_cases hr : name = "r"
    · subst hr
      exact .error rfl
    rw [Json.eraseField, if_neg hip, if_neg hr, readField, readField]
    refine .skip fun kind => ?_
    cases kind with
    | select | doUpdate | set | groupBy | returning => exact hexprs.map fun _ => rfl
    | selectDistinct => exact hdistinct.map fun _ => rfl
    | insertInto | update | from_ => exact htable.map fun _ => rfl
    | columns | onConflict => exact (readNames_parallel _ v).map fun _ => rfl
    | values => exact (readRows_parallel v).map fun _ => rfl
    | doNothing | forUpdate => exact .ok _
    | join => exact hjoins.map fun _ => rfl
    | where_ | having => exact hexpr.map fun _ => rfl
    | orderBy => exact horder.map fun _ => rfl
    | limit | offset => exact (readCount_parallel _ v).map fun _ => rfl

theorem readFields_parallel (limit : DepthLimit) (d : Nat) : ∀ (fields : List (String × Json))
    (m : ClauseMap), Parallel (Clauses.mapParams .erase) (readClauses limit d m fields)
      (readClauses limit d (m.mapParams .erase) (Json.eraseFields fields))
  | [], m => .ok m
  | field :: fields, m => by
    have hfirst := readField_parallel limit d field
    refine hfirst.bind fun c => ?_
    have hrest := readFields_parallel limit d fields (m.insert c.clause)
    rw [Clauses.mapParams_insert] at hrest
    exact hrest

end

/-! ## Documents -/

/-- Two readers that run in parallel with a third have the same fate. -/
theorem Parallel.errors_or_oks {α : Type} {f : α → α} {x y z : Except QueryError α}
    (hx : Parallel f x z) (hy : Parallel f y z) :
    (∃ e e', x = .error e ∧ y = .error e' ∧ e.kind = e'.kind) ∨
      ∃ a b, x = .ok a ∧ y = .ok b ∧ f a = f b := by
  cases hx with
  | ok a =>
    generalize hz : Except.ok (f a) = z at hy
    cases hy with
    | ok b => exact .inr ⟨a, b, rfl, rfl, Except.ok.inj hz⟩
    | error _ => cases hz
  | @error e e₀ he =>
    generalize hz : Except.error e₀ = z at hy
    cases hy with
    | ok b => cases hz
    | @error e' _ he' =>
      cases hz
      exact .inl ⟨e, e', rfl, rfl, he.trans he'.symm⟩

/-- Outcomes that show the same fail alike or not at all. -/
theorem errors_or_oks_of_map_eq {ε α β : Type} {f : α → β} {x y : Except ε α}
    (h : x.map f = y.map f) :
    (∃ e, x = .error e ∧ y = .error e) ∨ ∃ a b, x = .ok a ∧ y = .ok b ∧ f a = f b := by
  cases x with
  | error e =>
    cases y with
    | error e' => cases h; exact .inl ⟨e, rfl, rfl⟩
    | ok b => cases h
  | ok a =>
    cases y with
    | error e' => cases h
    | ok b => exact .inr ⟨a, b, rfl, rfl, Except.ok.inj h⟩

namespace ClauseMap

theorem ofJson_parallel (limit : DepthLimit) (doc : Json) :
    Parallel (Clauses.mapParams .erase) (ofJson limit doc) (ofJson limit doc.erasePayloads) := by
  cases doc with
  | object fields => exact readFields_parallel limit 0 fields .empty
  | _ => exact .error rfl

/-- Documents that differ in payloads of parameters alone are refused with errors of one kind, or
read as maps that are refused with one error or rendered to one text, with as many values. Depth
limits make no difference, since a payload has no part in the depth. -/
theorem render_congr_of_erasePayloads_eq {a b : Json} (h : a.erasePayloads = b.erasePayloads)
    (reading rendering : DepthLimit) :
    (∃ e e', ofJson reading a = .error e ∧ ofJson reading b = .error e' ∧ e.kind = e'.kind) ∨
      ∃ m n, ofJson reading a = .ok m ∧ ofJson reading b = .ok n ∧
        ((∃ e, m.render rendering = .error e ∧ n.render rendering = .error e) ∨
          ∃ s t, m.render rendering = .ok s ∧ n.render rendering = .ok t ∧ s.text = t.text ∧
            s.values.length = t.values.length) := by
  have ha := ofJson_parallel reading a
  have hb := ofJson_parallel reading b
  rw [← h] at hb
  refine (ha.errors_or_oks hb).imp_right ?_
  rintro ⟨m, n, hm, hn, hmn⟩
  refine ⟨m, n, hm, hn, ?_⟩
  have htext := Clauses.text_render_eq_of_eraseParams_eq hmn rendering
  refine (errors_or_oks_of_map_eq htext).imp_right ?_
  rintro ⟨s, t, hs, ht, hst⟩
  refine ⟨s, t, hs, ht, hst, ?_⟩
  rw [Clauses.values_of_render hs, Clauses.values_of_render ht]
  exact (Mark.zip_filterMap_of_map_eq (Clauses.traversal_eq_of_eraseParams_eq hmn)).1

/-- An operator, a raw text and clause maps one in the other as a payload, against a number. -/
theorem render_congr_of_erasePayloads_eq_operator :
    let nested : Json := .object [("from", .object [("from", .object [("r", .string "x")])])]
    let doc (payload : Json) : Json := .object
      [("select", .array [.object [("ip", payload)], .object [("r", .string "1")]]),
        ("where", .array [.string "in", .string "a", .object [("r", .null), ("ip", payload)]])]
    let a := doc (.array [.string "or", nested, .object [("r", .string "TRUE --")]])
    let b := doc .null
    let text := "SELECT $1, 1 WHERE \"a\" IN($2)"
    a.erasePayloads = b.erasePayloads ∧
      ∃ m n s t, ofJson (some 0) a = .ok m ∧ ofJson (some 0) b = .ok n ∧
        m.render (some 0) = .ok s ∧ n.render (some 0) = .ok t ∧ s.text = text ∧ t.text = text ∧
          s.values.length = t.values.length := by
  intro nested doc a b text
  have h : a.erasePayloads = b.erasePayloads := rfl
  refine ⟨h, ?_⟩
  obtain ⟨n, t, hn, ht, htext⟩ :
      ∃ n t, ofJson (some 0) b = .ok n ∧ n.render (some 0) = .ok t ∧ t.text = text :=
    ⟨_, _, rfl, Clauses.render_eq_ok_iff.mpr ⟨rfl, rfl⟩, rfl⟩
  rcases render_congr_of_erasePayloads_eq h (some 0) (some 0) with
    ⟨e, e', -, he', -⟩ | ⟨m, n', hm, hn', hrender⟩
  · rw [hn] at he'
    cases he'
  · rw [hn] at hn'
    cases hn'
    rcases hrender with ⟨e, -, he⟩ | ⟨s, t', hs, ht', hsame, hlength⟩
    · rw [ht] at he
      cases he
    · rw [ht] at ht'
      cases ht'
      exact ⟨m, n, s, t, hm, hn, hs, ht, hsame.trans htext, htext, hlength⟩

end ClauseMap

end Clausal
