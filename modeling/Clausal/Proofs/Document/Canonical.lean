import Clausal.Proofs.Document.RoundTrip

/-!
# Canonical documents

Whatever document a clause map is read from, the document that the map is written as is read as the
same map, under the same depth limit. For reading gives settled maps only: groups have operands,
no clause map stands beyond the limit, and parameters are plain.
-/

namespace Clausal

open Document

/-- The marks that reading leaves. -/
def Mark.isSettled (limit : DepthLimit) : Mark → Bool
  | .param p => p.isPlain
  | m => m.isReadable limit

def Settled (limit : DepthLimit) (ms : List Mark) : Prop :=
  ∀ m ∈ ms, m.isSettled limit = true

namespace Settled

variable {limit : DepthLimit} {ms ns : List Mark}

theorem nil : Settled limit [] := by
  intro m h
  cases h

theorem cons {m : Mark} (hm : m.isSettled limit = true) (h : Settled limit ms) :
    Settled limit (m :: ms) :=
  List.forall_mem_cons.mpr ⟨hm, h⟩

theorem append (hms : Settled limit ms) (hns : Settled limit ns) : Settled limit (ms ++ ns) :=
  List.forall_mem_append.mpr ⟨hms, hns⟩

theorem all_isReadable (h : Settled limit ms) : ms.all (Mark.isReadable limit) = true := by
  apply List.all_eq_true.mpr
  intro m hm
  have hsettled := h m hm
  cases m with
  | param p => rfl
  | _ => exact hsettled

theorem keptBy_viaJson (h : Settled limit ms) : Mark.KeptBy Param.viaJson ms := by
  intro p hp
  exact Param.viaJson_of_isPlain (h (.param p) hp)

theorem ofAlias (alias? : Option String) : Settled limit (Mark.ofAlias alias?) := by
  cases alias? with
  | none => exact .nil
  | some name => exact .cons rfl .nil

theorem ofEmptiness {ks : List ClauseKind} (m : Clauses ks) :
    Settled limit (Mark.ofEmptiness m) := by
  rw [Mark.ofEmptiness]
  split
  · exact .cons rfl .nil
  · exact .nil

theorem insert {d : Nat} {m : ClauseMap} {c : AnyClause} (hm : Settled limit (m.marks d))
    (hc : Settled limit (c.marks d)) : Settled limit ((m.insert c.clause).marks d) := by
  intro mark h
  rcases m.mem_marks_insert h with hmark | hmark
  · exact hc mark hmark
  · exact hm mark hmark

end Settled

/-- A reader whose results have settled marks. -/
def Settles {α : Type} (limit : DepthLimit) (marks : α → List Mark) (x : Except QueryError α) :
    Prop :=
  ∀ a, x = .ok a → Settled limit (marks a)

namespace Settles

variable {α β : Type} {limit : DepthLimit} {ms : α → List Mark} {ns : β → List Mark}
  {x : Except QueryError α} {k : α → Except QueryError β}

theorem ok {a : α} (h : Settled limit (ms a)) : Settles limit ms (.ok a) := by
  intro b hb
  cases hb
  exact h

theorem error {e : QueryError} : Settles limit ms (.error e) := by
  intro a ha
  cases ha

theorem congr {ms' : α → List Mark} (hx : Settles limit ms x) (h : ∀ a, ms' a = ms a) :
    Settles limit ms' x := by
  intro a ha
  rw [h]
  exact hx a ha

theorem bind (hx : Settles limit ms x) (hk : ∀ a, Settled limit (ms a) → Settles limit ns (k a)) :
    Settles limit ns (x >>= k) := by
  cases x with
  | error e => exact .error
  | ok a => exact hk a (hx a rfl)

/-- What is read first may have no marks at all. -/
theorem skip (hk : ∀ a, Settles limit ns (k a)) : Settles limit ns (x >>= k) := by
  cases x with
  | error e => exact .error
  | ok a => exact hk a

theorem map {f : α → β} (hx : Settles limit ms x)
    (hf : ∀ a, Settled limit (ms a) → Settled limit (ns (f a))) :
    Settles limit ns (do return f (← x)) :=
  hx.bind fun a ha => .ok (hf a ha)

theorem map₂ {γ : Type} {os : γ → List Mark} {y : Except QueryError β} {f : α → β → γ}
    (hx : Settles limit ms x) (hy : Settles limit ns y)
    (hf : ∀ a b, Settled limit (ms a) → Settled limit (ns b) → Settled limit (os (f a b))) :
    Settles limit os (do return f (← x) (← y)) :=
  hx.bind fun a ha => hy.bind fun b hb => .ok (hf a b ha hb)

/-- A clause map inside another part is read one level deeper, which the limit must allow. -/
theorem nested {d : Nat} {fields : List (String × Json)} {f : ClauseMap → α}
    (hm : Settles limit (Clauses.marks (d + 1)) (readClauses limit (d + 1) .empty fields))
    (hf : ∀ m : ClauseMap,
      Settled limit (.enter (d + 1) :: (Mark.ofEmptiness m ++ m.marks (d + 1))) →
        Settled limit (ms (f m))) :
    Settles limit ms (do
      let inner ← enter limit d
      return f (← readClauses limit inner .empty fields)) := by
  have hinner (henter : (Mark.enter (d + 1)).isSettled limit = true) :
      Settles limit ms (do return f (← readClauses limit (d + 1) .empty fields)) :=
    hm.map fun m hmarks => hf m (.cons henter ((Settled.ofEmptiness m).append hmarks))
  cases limit with
  | none => exact hinner rfl
  | some n =>
    rw [enter]
    split
    · exact .error
    · next h => exact hinner (decide_eq_true (Nat.le_of_not_lt h))

end Settles

/-! ## Leaves -/

theorem isSettled_of_wrapped {limit : DepthLimit} {fields : List (String × Json)} {v : Value}
    (h : wrapped? fields = some v) : v.mark.isSettled limit = true := by
  unfold wrapped? at h
  split at h
  · obtain rfl := Option.some.inj h
    exact Param.isPlain_ofJson _
  · split at h
    · obtain rfl := Option.some.inj h
      rfl
    · obtain rfl := Option.some.inj h
      rfl
    · cases h

theorem readValue_settles (limit : DepthLimit) (j : Json) :
    Settles limit (fun v => [v.mark]) (readValue j) := by
  cases j with
  | string name => exact .ok (.cons rfl .nil)
  | object fields =>
    rw [readValue]
    cases h : wrapped? fields with
    | some v => exact .ok (.cons (isSettled_of_wrapped h) .nil)
    | none => exact .error
  | _ => exact .error

theorem mapM_settles {α : Type} {limit : DepthLimit} {marks : α → List Mark}
    {read : Json → Except QueryError α} (h : ∀ j, Settles limit marks (read j)) (js : List Json) :
    Settles limit (fun as => as.flatMap marks) (js.mapM read) := by
  induction js with
  | nil => exact .ok .nil
  | cons j js ih =>
    rw [List.mapM_cons]
    exact (h j).map₂ ih fun a as ha has => ha.append has

theorem readRow_settles (limit : DepthLimit) (j : Json) :
    Settles limit (List.map Value.mark) (readRow j) := by
  unfold readRow
  apply Settles.skip
  intro items
  apply (mapM_settles (readValue_settles limit) items).congr
  intro row
  exact List.map_eq_flatMap

theorem readRows_settles (limit : DepthLimit) (j : Json) :
    Settles limit (fun rows => rows.flatten.map Value.mark) (readRows j) := by
  unfold readRows
  apply Settles.skip
  intro items
  apply (mapM_settles (readRow_settles limit) items).congr
  intro rows
  rw [List.map_flatten, List.flatMap_def]

theorem Settled.names {limit : DepthLimit} (ns : List String) : Settled limit (ns.map .name) := by
  intro m hm
  obtain ⟨name, -, rfl⟩ := List.mem_map.mp hm
  rfl

/-! ## All parts -/

-- By recursion on the document. A shape that no clause map is written in ends in an error wherever
-- it is not read as another shape, and then there is nothing to show.
mutual

theorem readExpr_settles (limit : DepthLimit) (d : Nat) : ∀ j : Json,
    Settles limit (Expr.marks d) (readExpr limit d j)
  | .string name => .ok (.cons rfl .nil)
  | .object fields => by
    rw [readExpr]
    cases h : wrapped? fields with
    | some v => exact .ok (.cons (isSettled_of_wrapped h) .nil)
    | none =>
      have hm := readClauses_settles limit (d + 1) .empty .nil fields
      exact .nested hm fun _ h => h
  | .array [] => .error
  | .array (.string text :: args) => by
    have hone := readOperand_settles limit d text args
    have hsome := readOperands_settles limit d text args
    rw [readExpr]
    apply Settles.skip
    intro tag
    cases tag with
    | binary op => exact (readPair_settles limit d text args).bind fun _ h => .ok h
    | and => exact (hsome .and).map fun _ h => h
    | or => exact (hsome .or).map fun _ h => h
    | caseWhen => exact (hsome .caseWhen).map fun _ h => h
    | inList negated => exact (readTested_settles limit d text args).bind fun _ h => .ok h
    | isNull => exact hone.map fun _ h => h
    | isNotNull => exact hone.map fun _ h => h
    | not => exact hone.map fun _ h => h
    | exists_ => exact hone.map fun _ h => h
    | call => exact (readCall_settles limit d args).bind fun _ h => .ok (.cons rfl h)
  | .array (.null :: _) | .array (.bool _ :: _) | .array (.integer _ :: _)
  | .array (.float _ :: _) | .array (.array _ :: _) | .array (.object _ :: _) => .error
  | .null | .bool _ | .integer _ | .float _ => .error

theorem readExprs_settles (limit : DepthLimit) (d : Nat) : ∀ js : List Json,
    Settles limit (Expr.listMarks d) (readExprs limit d js)
  | [] => .ok .nil
  | j :: js => by
    have hj := readExpr_settles limit d j
    have hjs := readExprs_settles limit d js
    exact hj.map₂ hjs fun _ _ he hes => he.append hes

theorem readOperand_settles (limit : DepthLimit) (d : Nat) (tag : String) : ∀ js : List Json,
    Settles limit (Expr.marks d) (readOperand limit d tag js)
  | [] => .error
  | [j] => readExpr_settles limit d j
  | _ :: _ :: _ => .error

theorem readPair_settles (limit : DepthLimit) (d : Nat) (tag : String) : ∀ js : List Json,
    Settles limit (fun p => p.1.marks d ++ p.2.marks d) (readPair limit d tag js)
  | [] => .error
  | [_] => .error
  | [l, r] => by
    have hl := readExpr_settles limit d l
    have hr := readExpr_settles limit d r
    exact hl.map₂ hr fun _ _ hl hr => hl.append hr
  | _ :: _ :: _ :: _ => .error

theorem readOperands_settles (limit : DepthLimit) (d : Nat) (text : String) :
    ∀ (js : List Json) (tag : ExprTag),
      Settles limit (fun es => Mark.ofOperands tag es ++ Expr.listMarks d es)
        (readOperands limit d text js)
  | [], _ => .error
  | j :: js, _ => by
    have hj := readExpr_settles limit d j
    have hjs := readExprs_settles limit d js
    -- There is a first operand, so the group has no mark of its own.
    exact hj.map₂ hjs fun _ _ he hes => Settled.nil.append (he.append hes)

theorem readTested_settles (limit : DepthLimit) (d : Nat) (tag : String) : ∀ js : List Json,
    Settles limit (fun p => p.1.marks d ++ Expr.listMarks d p.2) (readTested limit d tag js)
  | [] => .error
  | j :: js => by
    have hj := readExpr_settles limit d j
    have hjs := readExprs_settles limit d js
    exact hj.map₂ hjs fun _ _ he hes => he.append hes

theorem readCall_settles (limit : DepthLimit) (d : Nat) : ∀ js : List Json,
    Settles limit (fun p => Expr.listMarks d p.2) (readCall limit d js)
  | [] => .error
  | .string _ :: js => (readExprs_settles limit d js).map fun _ h => h
  | .null :: _ | .bool _ :: _ | .integer _ :: _ | .float _ :: _ | .array _ :: _
  | .object _ :: _ => .error

theorem readExprList_settles (limit : DepthLimit) (d : Nat) : ∀ j : Json,
    Settles limit (Expr.listMarks d) (readExprList limit d j)
  | .array items => readExprs_settles limit d items
  | .null | .bool _ | .integer _ | .float _ | .string _ | .object _ => .error

theorem readExprField_settles (limit : DepthLimit) (d : Nat) (key : String) :
    ∀ fields : List (String × Json),
      Settles limit (Expr.listMarks d) (readExprField limit d key fields)
  | [] => .ok .nil
  | (name, v) :: fields => by
    rw [readExprField]
    split
    · exact readExprList_settles limit d v
    · exact readExprField_settles limit d key fields

theorem readTable_settles (limit : DepthLimit) (d : Nat) : ∀ j : Json,
    Settles limit (Table.marks d) (readTable limit d j)
  | .string _ => .ok (.cons rfl .nil)
  | .object fields => by
    have hm := readClauses_settles limit (d + 1) .empty .nil fields
    rw [readTable]
    exact .nested hm fun _ h => h.append .nil
  | .array [.string _, .string short] => .ok (.cons rfl (.ofAlias (some short)))
  | .array [.object fields, .string short] => by
    have hm := readClauses_settles limit (d + 1) .empty .nil fields
    rw [readTable]
    exact .nested hm fun _ h => h.append (.ofAlias (some short))
  | .array [.null, .string _] | .array [.bool _, .string _] | .array [.integer _, .string _]
  | .array [.float _, .string _] | .array [.array _, .string _] => .error
  | .array [x, .null] | .array [x, .bool _] | .array [x, .integer _] | .array [x, .float _]
  | .array [x, .array _] | .array [x, .object _] => by cases x <;> exact .error
  | .array [] => .error
  | .array [x] => by cases x <;> exact .error
  | .array (x :: y :: _ :: _) => by cases x <;> cases y <;> exact .error
  | .null | .bool _ | .integer _ | .float _ => .error

theorem readJoin_settles (limit : DepthLimit) (d : Nat) : ∀ j : Json,
    Settles limit (Join.marks d) (readJoin limit d j)
  | .array [.string _, table, on] => by
    have htable := readTable_settles limit d table
    have hon := readExpr_settles limit d on
    rw [readJoin]
    exact .skip fun _ => htable.map₂ hon fun _ _ ht hon => ht.append hon
  | .array [.null, _, _] | .array [.bool _, _, _] | .array [.integer _, _, _]
  | .array [.float _, _, _] | .array [.array _, _, _] | .array [.object _, _, _] => .error
  | .array [] => .error
  | .array [x] => by cases x <;> exact .error
  | .array [x, _] => by cases x <;> exact .error
  | .array (x :: _ :: _ :: _ :: _) => by cases x <;> exact .error
  | .null | .bool _ | .integer _ | .float _ | .string _ | .object _ => .error

theorem readJoins_settles (limit : DepthLimit) (d : Nat) : ∀ js : List Json,
    Settles limit (Join.listMarks d) (readJoins limit d js)
  | [] => .ok .nil
  | j :: js => by
    have hj := readJoin_settles limit d j
    have hjs := readJoins_settles limit d js
    exact hj.map₂ hjs fun _ _ hj hjs => hj.append hjs

theorem readJoinList_settles (limit : DepthLimit) (d : Nat) : ∀ j : Json,
    Settles limit (Join.listMarks d) (readJoinList limit d j)
  | .array items => readJoins_settles limit d items
  | .null | .bool _ | .integer _ | .float _ | .string _ | .object _ => .error

theorem readOrderItem_settles (limit : DepthLimit) (d : Nat) : ∀ j : Json,
    Settles limit (OrderItem.marks d) (readOrderItem limit d j)
  | .array [] => .error
  | .array (expr :: _) => by
    have hexpr := readExpr_settles limit d expr
    rw [readOrderItem]
    exact .skip fun _ => hexpr.map fun _ h => h
  | .null | .bool _ | .integer _ | .float _ | .string _ | .object _ => .error

theorem readOrderItems_settles (limit : DepthLimit) (d : Nat) : ∀ js : List Json,
    Settles limit (OrderItem.listMarks d) (readOrderItems limit d js)
  | [] => .ok .nil
  | j :: js => by
    have hj := readOrderItem_settles limit d j
    have hjs := readOrderItems_settles limit d js
    exact hj.map₂ hjs fun _ _ hi his => hi.append his

theorem readOrderList_settles (limit : DepthLimit) (d : Nat) : ∀ j : Json,
    Settles limit (OrderItem.listMarks d) (readOrderList limit d j)
  | .array items => readOrderItems_settles limit d items
  | .null | .bool _ | .integer _ | .float _ | .string _ | .object _ => .error

theorem readDistinct_settles (limit : DepthLimit) (d : Nat) : ∀ j : Json,
    Settles limit (fun p => Expr.listMarks d p.1 ++ Expr.listMarks d p.2) (readDistinct limit d j)
  | .object parts => by
    have hon := readExprField_settles limit d "on" parts
    have hexprs := readExprField_settles limit d "exprs" parts
    exact hon.map₂ hexprs fun _ _ hon hes => hon.append hes
  | .null | .bool _ | .integer _ | .float _ | .string _ | .array _ => .error

theorem readField_settles (limit : DepthLimit) (d : Nat) : ∀ field : String × Json,
    Settles limit (AnyClause.marks d) (readField limit d field)
  | (name, v) => by
    have hexpr := readExpr_settles limit d v
    have hexprs := readExprList_settles limit d v
    have htable := readTable_settles limit d v
    rw [readField]
    apply Settles.skip
    intro kind
    cases kind with
    | select => exact hexprs.map fun _ h => h
    | selectDistinct => exact (readDistinct_settles limit d v).bind fun _ h => .ok h
    | insertInto => exact htable.map fun _ h => h
    | update => exact htable.map fun _ h => h
    | columns => exact .skip fun names => .ok (.names names)
    | values => exact (readRows_settles limit v).map fun _ h => h
    | onConflict => exact .skip fun names => .ok (.names names)
    | doUpdate => exact hexprs.map fun _ h => h
    | doNothing => exact .ok .nil
    | set => exact hexprs.map fun _ h => h
    | from_ => exact htable.map fun _ h => h
    | join => exact (readJoinList_settles limit d v).map fun _ h => h
    | where_ => exact hexpr.map fun _ h => h
    | groupBy => exact hexprs.map fun _ h => h
    | having => exact hexpr.map fun _ h => h
    | orderBy => exact (readOrderList_settles limit d v).map fun _ h => h
    | limit => exact .skip fun _ => .ok .nil
    | offset => exact .skip fun _ => .ok .nil
    | forUpdate => exact .ok .nil
    | returning => exact hexprs.map fun _ h => h

theorem readClauses_settles (limit : DepthLimit) (d : Nat) (m : ClauseMap)
    (hm : Settled limit (m.marks d)) : ∀ fields : List (String × Json),
      Settles limit (Clauses.marks d) (readClauses limit d m fields)
  | [] => .ok hm
  | field :: fields => by
    rw [readClauses]
    apply (readField_settles limit d field).bind
    intro c hc
    exact readClauses_settles limit d (m.insert c.clause) (hm.insert hc) fields

end

/-! ## Canonical forms -/

/-- The document of the clause map that a document stands for. -/
def Json.canonical (limit : DepthLimit) (doc : Json) : Except QueryError Json :=
  (ClauseMap.ofJson limit doc).map Clauses.toJson

namespace ClauseMap

theorem settled_of_ofJson {limit : DepthLimit} {doc : Json} {m : ClauseMap}
    (h : ofJson limit doc = .ok m) : Settled limit m.traversal := by
  cases doc with
  | object fields =>
    exact (Settled.ofEmptiness m).append (readClauses_settles limit 0 .empty .nil fields m h)
  | _ => cases h

/-- A settled map is read from its own document. -/
theorem ofJson_toJson_of_settled {limit : DepthLimit} {m : ClauseMap}
    (h : Settled limit m.traversal) : ofJson limit m.toJson = .ok m := by
  have hkept : m.mapParams Param.viaJson = m :=
    Clauses.mapParams_eq_self m (Mark.keptBy_append.mp h.keptBy_viaJson).2
  have hread := (m.readsBack_toJson limit).eq_ok h.all_isReadable
  rwa [hkept] at hread

/-- A map that was read is read again from its own document, under the same limit. So an accepted
document has a canonical form, which is accepted and is its own canonical form. -/
theorem ofJson_toJson_of_ofJson {limit : DepthLimit} {doc : Json} {m : ClauseMap}
    (h : ofJson limit doc = .ok m) :
    ofJson limit m.toJson = .ok m ∧ doc.canonical limit = .ok m.toJson ∧
      m.toJson.canonical limit = .ok m.toJson := by
  have hread := ofJson_toJson_of_settled (settled_of_ofJson h)
  refine ⟨hread, ?_, ?_⟩
  · rw [Json.canonical, h]
    rfl
  · rw [Json.canonical, hread]
    rfl

/-- A document with a key beside a wrapper, a raw value that is no string, no placement of null
values and a payload that does not count. -/
theorem ofJson_toJson_of_ofJson_tolerated :
    let doc := Json.object
      [("order_by", .array [.array [.string "a"]]), ("for_update", .null),
        ("select", .array [.object [("ip", .bool true), ("x", .null)], .object [("r", .null)]]),
        ("from", .array [.object [("limit", .ofUInt64 1)], .string "s"])]
    let m := ofList
      [⟨_, .select [.param (.bool true), .raw "null"]⟩,
        ⟨_, .from_ (.derived (ofList [⟨_, .limit 1⟩]) (some "s"))⟩,
        ⟨_, .orderBy [.ofDirection (.ident "a") .asc]⟩, ⟨_, .forUpdate⟩]
    ofJson (some 1) doc = .ok m ∧ ofJson (some 1) m.toJson = .ok m := by
  intro doc m
  have h : ofJson (some 1) doc = .ok m := rfl
  exact ⟨h, (ofJson_toJson_of_ofJson h).1⟩

end ClauseMap

end Clausal
