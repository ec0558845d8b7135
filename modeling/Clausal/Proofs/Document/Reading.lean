import Clausal.Proofs.Document.DepthLimit
import Clausal.Proofs.Document.Grammar

/-!
# Reading accepts the grammar

Reading without a depth limit succeeds with what the grammar says that a document denotes, and with
nothing else: `ClauseMap.ofJson_eq_ok_iff`. Both directions are proved at once, since every reader
is put together by rules that keep both.
-/

namespace Clausal

open Document

/-! ## Readers that accept a relation -/

/-- The reader succeeds with what `R` holds of, and with nothing else. -/
def Reads {α : Type} (x : Except QueryError α) (R : α → Prop) : Prop :=
  ∀ a, x = .ok a ↔ R a

namespace Reads

variable {α β γ : Type} {R : α → Prop} {S : β → Prop} {T : γ → Prop} {x : Except QueryError α}
  {y : Except QueryError β}

theorem ok {a : α} (ha : R a) (hinv : ∀ b, R b → a = b) : Reads (.ok a) R := by
  intro b
  constructor
  · rintro ⟨⟩
    exact ha
  · intro hb
    exact congrArg Except.ok (hinv b hb)

theorem error {e : QueryError} (h : ∀ a, ¬ R a) : Reads (.error e) R := by
  intro a
  exact iff_of_false nofun (h a)

theorem congr {R' : α → Prop} (hx : Reads x R) (h : ∀ a, R' a ↔ R a) : Reads x R' := by
  intro a
  exact (hx a).trans (h a).symm

theorem bind {k : α → Except QueryError β} {P : α → β → Prop} (hx : Reads x R)
    (hk : ∀ a, R a → Reads (k a) (P a)) (hS : ∀ b, S b ↔ ∃ a, R a ∧ P a b) :
    Reads (x >>= k) S := by
  intro b
  constructor
  · intro h
    obtain ⟨a, ha, hb⟩ := exists_of_bind_eq_ok h
    have hR := (hx a).mp ha
    exact (hS b).mpr ⟨a, hR, (hk a hR b).mp hb⟩
  · intro hb
    obtain ⟨a, ha, hP⟩ := (hS b).mp hb
    rw [(hx a).mpr ha]
    exact (hk a ha b).mpr hP

theorem map {f : α → β} (hx : Reads x R) (hf : ∀ a, R a → S (f a))
    (hinv : ∀ b, S b → ∃ a, R a ∧ f a = b) : Reads (do return f (← x)) S := by
  refine hx.bind (P := fun a b => f a = b) (fun a _ => .ok rfl fun b h => h) ?_
  intro b
  refine ⟨hinv b, ?_⟩
  rintro ⟨a, ha, rfl⟩
  exact hf a ha

theorem map₂ {f : α → β → γ} (hx : Reads x R) (hy : Reads y S) (hf : ∀ a b, R a → S b → T (f a b))
    (hinv : ∀ c, T c → ∃ a b, R a ∧ S b ∧ f a b = c) : Reads (do return f (← x) (← y)) T := by
  refine hx.bind (P := fun a c => ∃ b, S b ∧ f a b = c) ?_ ?_
  · intro a _
    exact hy.map (fun b hb => ⟨b, hb, rfl⟩) fun c hc => hc
  · intro c
    constructor
    · intro hc
      obtain ⟨a, b, ha, hb, hc⟩ := hinv c hc
      exact ⟨a, ha, b, hb, hc⟩
    · rintro ⟨a, ha, b, hb, rfl⟩
      exact hf a b ha hb

/-- A reader that is followed by an error accepts nothing. -/
theorem never {k : α → Except QueryError β} (hk : ∀ a b, k a ≠ .ok b) (hS : ∀ b, ¬ S b) :
    Reads (x >>= k) S := by
  intro b
  refine iff_of_false ?_ (hS b)
  intro h
  obtain ⟨a, -, hb⟩ := exists_of_bind_eq_ok h
  exact hk a b hb

theorem found {o : Option α} {a : α} (ho : ∀ b, o = some b ↔ R b) (h : o = some a) :
    Reads (.ok a) R :=
  .ok ((ho a).mp h) fun b hb => Option.some.inj (h.symm.trans ((ho b).mpr hb))

theorem missing {o : Option α} {e : QueryError} (ho : ∀ b, o = some b ↔ R b) (h : o = none) :
    Reads (.error e) R :=
  .error fun b hb => Option.some_ne_none b (((ho b).mpr hb).symm.trans h)

variable {ι : Type} {Q : ι → α → Prop} {i : ι} {is : List ι}

theorem nil : Reads (.ok []) (List.Forall₂ Q []) :=
  .ok .nil fun _ h => by cases h; rfl

theorem cons {xs : Except QueryError (List α)} (hx : Reads x (Q i))
    (hxs : Reads xs (List.Forall₂ Q is)) :
    Reads (do return (← x) :: (← xs)) (List.Forall₂ Q (i :: is)) := by
  refine hx.map₂ hxs (fun a as ha has => .cons ha has) ?_
  rintro _ (_ | ⟨ha, has⟩)
  exact ⟨_, _, ha, has, rfl⟩

theorem mapM {read : ι → Except QueryError α} (h : ∀ i, Reads (read i) (Q i)) :
    ∀ is : List ι, Reads (is.mapM read) (List.Forall₂ Q is)
  | [] => .nil
  | i :: is => by
    rw [List.mapM_cons]
    exact (h i).cons (mapM h is)

end Reads

/-! ## Leaves -/

namespace Document

theorem readItems_reads (what : String) (v : Json) :
    Reads (readItems what v) fun items => v = .array items := by
  cases v with
  | array items => exact .ok rfl fun _ h => Json.array.inj h
  | _ => exact .error nofun

/-- An array that is read element by element. -/
theorem readArray_reads {α : Type} {Q : Json → α → Prop} {read : Json → Except QueryError α}
    (h : ∀ j, Reads (read j) (Q j)) (what : String) (v : Json) :
    Reads (do (← readItems what v).mapM read) (ArrayOf Q v) := by
  refine (readItems_reads what v).bind (fun items _ => .mapM h items) ?_
  intro as
  constructor
  · rintro ⟨h⟩
    exact ⟨_, rfl, h⟩
  · rintro ⟨items, rfl, h⟩
    exact .mk h

theorem readName_reads (kind : ClauseKind) (v : Json) :
    Reads (readName kind v) (DenotesName v) := by
  cases v with
  | string s => exact .ok (.mk s) fun _ h => by cases h; rfl
  | _ => exact .error nofun

theorem readNames_reads (kind : ClauseKind) (v : Json) :
    Reads (readNames kind v) (ArrayOf DenotesName v) :=
  readArray_reads (readName_reads kind) kind.name v

theorem wrapped?_eq_some_iff {fields : List (String × Json)} {v : Value} :
    wrapped? fields = some v ↔ DenotesWrapped fields v := by
  unfold wrapped?
  cases hip : Json.field? "ip" fields with
  | some p =>
    constructor
    · rintro ⟨⟩
      exact .param hip
    · rintro (h | ⟨hnone, -⟩)
      · rw [hip] at h
        cases h
        rfl
      · rw [hip] at hnone
        cases hnone
  | none =>
    constructor
    · intro h
      cases hr : Json.field? "r" fields with
      | none => rw [hr] at h; cases h
      | some r =>
        rw [hr] at h
        cases r <;> cases h <;> exact .raw hip hr
    · rintro (h | ⟨-, hr⟩)
      · rw [hip] at h
        cases h
      · rw [hr]
        next r => cases r <;> rfl

theorem readValue_reads (v : Json) : Reads (readValue v) (DenotesValue v) := by
  cases v with
  | string name => exact .ok (.ident name) fun _ h => by cases h; rfl
  | object fields =>
    have hvalue : ∀ v, wrapped? fields = some v ↔ DenotesValue (.object fields) v := by
      intro v
      rw [wrapped?_eq_some_iff]
      constructor
      · exact .wrapped
      · rintro (_ | h)
        exact h
    simp only [readValue]
    cases h : wrapped? fields with
    | some v => exact .found hvalue h
    | none => exact .missing hvalue h
  | _ =>
    refine .error ?_
    intro a ha
    cases ha

theorem readRows_reads (v : Json) : Reads (readRows v) (ArrayOf (ArrayOf DenotesValue) v) :=
  readArray_reads (readArray_reads readValue_reads "values row") ClauseKind.values.name v

theorem readCount_reads (kind : ClauseKind) (v : Json) :
    Reads (readCount kind v) (DenotesCount v) := by
  cases v with
  | integer n =>
    rw [readCount]
    by_cases h : 0 ≤ n.val
    · have hsize : n.val.toNat < UInt64.size := by
        have := n.upper
        change n.val.toNat < 18446744073709551616
        omega
      have hn : n.val = (UInt64.ofNat n.val.toNat).toNat := by
        rw [UInt64.toNat_ofNat_of_lt' hsize, Int.toNat_of_nonneg h]
      rw [if_pos h]
      refine .ok (DenotesCount.mk hn) ?_
      rintro count ⟨hcount⟩
      apply UInt64.toNat.inj
      omega
    · rw [if_neg h]
      refine .error ?_
      rintro count ⟨hcount⟩
      omega
  | _ =>
    refine .error ?_
    intro a ha
    cases ha

/-! ## Words -/

theorem readTag_reads (text : String) : Reads (readTag text) fun tag => tag.text = text := by
  unfold readTag
  cases h : ExprTag.ofText? text with
  | some tag => exact .found (fun _ => ExprTag.ofText?_eq_some_iff) h
  | none => exact .missing (fun _ => ExprTag.ofText?_eq_some_iff) h

theorem readKind_reads (name : String) : Reads (readKind name) fun kind => kind.name = name := by
  unfold readKind
  cases h : ClauseKind.ofName? name with
  | some kind => exact .found (fun _ => ClauseKind.ofName?_eq_some_iff) h
  | none => exact .missing (fun _ => ClauseKind.ofName?_eq_some_iff) h

theorem readJoinKind_reads (text : String) :
    Reads (readJoinKind text) fun kind => kind.sql = text := by
  unfold readJoinKind
  cases h : JoinKind.ofSql? text with
  | some kind => exact .found (fun _ => JoinKind.ofSql?_eq_some_iff) h
  | none => exact .missing (fun _ => JoinKind.ofSql?_eq_some_iff) h

theorem readDirection_reads (j : Json) :
    Reads (readDirection (some j)) fun d => .string d.sql = j := by
  cases j with
  | string text =>
    have hd : ∀ d, Direction.ofSql? text = some d ↔ Json.string d.sql = .string text := by
      intro d
      rw [Json.string.injEq]
      exact Direction.ofSql?_eq_some_iff
    rw [readDirection]
    cases h : Direction.ofSql? text with
    | some d => exact .found hd h
    | none => exact .missing hd h
  | _ => exact .error nofun

theorem readNulls_reads (d : Direction) (j : Json) :
    Reads (readNulls d (some j)) fun n => .string n.sql = j := by
  cases j with
  | string text =>
    have hn : ∀ n, NullsPlacement.ofSql? text = some n ↔ Json.string n.sql = .string text := by
      intro n
      rw [Json.string.injEq]
      exact NullsPlacement.ofSql?_eq_some_iff
    rw [readNulls]
    cases h : NullsPlacement.ofSql? text with
    | some n => exact .found hn h
    | none => exact .missing hn h
  | _ => exact .error nofun

theorem readOrder_reads : ∀ rest : List Json,
    Reads (readOrder rest) fun order => DenotesOrder rest order.1 order.2
  | [] => by
    refine .ok .default ?_
    rintro ⟨_, _⟩ ⟨⟩
    rfl
  | [j] => by
    refine (readDirection_reads j).map (f := fun d => (d, NullsPlacement.ofDirection d)) ?_ ?_
    · rintro d rfl
      exact .direction d
    · rintro ⟨d, n⟩ h
      change DenotesOrder [j] d n at h
      cases h
      exact ⟨d, rfl, rfl⟩
  | [j, j'] => by
    refine (readDirection_reads j).bind (P := fun d order => order.1 = d ∧ .string order.2.sql = j')
      ?_ ?_
    · rintro d rfl
      refine (readNulls_reads d j').map (f := fun n => (d, n)) ?_ ?_
      · intro n hn
        exact ⟨rfl, hn⟩
      · rintro ⟨_, n⟩ ⟨rfl, hn⟩
        exact ⟨n, hn, rfl⟩
    · rintro ⟨d, n⟩
      constructor
      · rintro ⟨⟩
        exact ⟨d, rfl, rfl, rfl⟩
      · rintro ⟨_, rfl, rfl, rfl⟩
        exact .full d n
  | j :: j' :: _ :: _ => by
    refine .never (fun d order h => ?_) nofun
    obtain ⟨n, -, hn⟩ := exists_of_bind_eq_ok h
    rw [if_pos (by simp only [List.length_cons]; omega)] at hn
    cases hn

end Document

/-! ## Fields of clause maps -/

/-- What denotes a clause map denotes no value. -/
theorem DenotesMap.wrapped?_eq_none {fields : List (String × Json)} {m : ClauseMap}
    (h : DenotesMap fields m) : wrapped? fields = none := by
  obtain ⟨hfields⟩ := h
  refine wrapped?_eq_none_of_names ?_
  intro field hfield
  have hname := List.mem_map_of_mem (f := Prod.fst) hfield
  rw [← names_eq_of_forall₂ hfields] at hname
  obtain ⟨c, -, hc⟩ := List.mem_map.mp hname
  exact ⟨c.kind, hc.symm⟩

namespace Reads

variable {d : Nat} {fields : List (String × Json)}

theorem clauses (h : Reads (fields.mapM (readField none d)) (List.Forall₂ DenotesField fields)) :
    Reads (readClauses none d .empty fields) (DenotesMap fields) := by
  rw [readClauses_eq_mapM]
  refine h.map (fun cs hcs => .mk hcs) ?_
  rintro _ ⟨hcs⟩
  exact ⟨_, hcs, rfl⟩

/-- The clause that is made of what the payload is read as. -/
theorem payload {α : Type} {R : α → Prop} {x : Except QueryError α} {k : ClauseKind} {v : Json}
    {make : α → Clause k} (hx : Reads x R) (hmake : ∀ a, R a → DenotesPayload k v (make a))
    (hinv : ∀ c, DenotesPayload k v c → ∃ a, R a ∧ make a = c) :
    Reads (do return (⟨k, make (← x)⟩ : AnyClause))
      fun c => ∃ payload : Clause k, DenotesPayload k v payload ∧ c = ⟨k, payload⟩ := by
  refine hx.map (fun a ha => ⟨make a, hmake a ha, rfl⟩) ?_
  rintro _ ⟨c, hc, rfl⟩
  obtain ⟨a, ha, rfl⟩ := hinv c hc
  exact ⟨a, ha, rfl⟩

/-- An array of which the elements are read by a companion of the reader. -/
theorem array {α : Type} {Q : Json → α → Prop} {x : Except QueryError (List α)} {items : List Json}
    (h : Reads x (List.Forall₂ Q items)) : Reads x (ArrayOf Q (.array items)) := by
  refine h.congr ?_
  intro as
  constructor
  · rintro ⟨h⟩
    exact h
  · exact .mk

end Reads

/-! ## All parts -/

-- By recursion on the document. A shape that is not in the grammar is an error for the reader, and
-- no rule has it.
mutual

theorem readExpr_reads (d : Nat) : ∀ j : Json, Reads (readExpr none d j) (DenotesExpr j)
  | .string name => by
    refine .ok (.value (.ident name)) ?_
    rintro _ (⟨⟨⟩⟩ | _ | _)
    rfl
  | .object fields => by
    have hfields := readFields_reads (d + 1) fields
    rw [readExpr]
    cases h : wrapped? fields with
    | some v =>
      refine .ok (.value (.wrapped (wrapped?_eq_some_iff.mp h))) ?_
      rintro _ (⟨_ | hv⟩ | hm | _)
      · rw [wrapped?_eq_some_iff.mpr hv] at h
        cases h
        rfl
      · rw [hm.wrapped?_eq_none] at h
        cases h
    | none =>
      refine hfields.clauses.map (fun m hm => .subquery hm) ?_
      rintro _ (⟨_ | hv⟩ | hm | _)
      · rw [wrapped?_eq_some_iff.mpr hv] at h
        cases h
      · exact ⟨_, hm, rfl⟩
  | .array [] => .error nofun
  | .array (.string text :: args) => by
    rw [readExpr]
    refine (readTag_reads text).bind (P := fun tag e => DenotesTagged tag args e) ?_ ?_
    · intro tag _
      cases tag with
      | binary op =>
        refine (readPair_reads d text args).map (fun p hp => .binary hp) ?_
        intro e he
        cases he
        next h => exact ⟨(_, _), h, rfl⟩
      | and | or | caseWhen =>
        refine (readOperands_reads d text args).map ?_ ?_
        · rintro es ⟨hne, h⟩
          constructor <;> assumption
        · intro e he
          cases he
          next hne h => exact ⟨_, ⟨hne, h⟩, rfl⟩
      | inList negated =>
        refine (readTested_reads d text args).map (fun p hp => .inList hp) ?_
        intro e he
        cases he
        next h => exact ⟨(_, _), h, rfl⟩
      | isNull | isNotNull | not | exists_ =>
        refine (readOperand_reads d text args).map ?_ ?_
        · intro e he
          constructor
          exact he
        · intro e he
          cases he
          next h => exact ⟨_, h, rfl⟩
      | call =>
        refine (readCall_reads d args).map ?_ ?_
        · rintro ⟨name, es⟩ ⟨rest, rfl, hes⟩
          exact .call hes
        · intro e he
          cases he
          next h => exact ⟨(_, _), ⟨_, rfl, h⟩, rfl⟩
    · intro e
      constructor
      · rintro (⟨⟨⟩⟩ | _ | h)
        exact ⟨_, rfl, h⟩
      · rintro ⟨tag, rfl, h⟩
        exact .tagged h
  | .array (.null :: _) | .array (.bool _ :: _) | .array (.integer _ :: _)
  | .array (.float _ :: _) | .array (.array _ :: _) | .array (.object _ :: _) => .error nofun
  | .null | .bool _ | .integer _ | .float _ => .error nofun

theorem readExprs_reads (d : Nat) : ∀ js : List Json,
    Reads (readExprs none d js) (List.Forall₂ DenotesExpr js)
  | [] => .nil
  | j :: js => by
    have hfirst := readExpr_reads d j
    have hrest := readExprs_reads d js
    exact hfirst.cons hrest

theorem readOperand_reads (d : Nat) (tag : String) : ∀ js : List Json,
    Reads (readOperand none d tag js) fun e => List.Forall₂ DenotesExpr js [e]
  | [] => .error nofun
  | [j] => by
    refine (readExpr_reads d j).congr ?_
    intro e
    simp
  | _ :: _ :: _ => .error (by rintro _ (_ | ⟨_, _ | _⟩))

theorem readPair_reads (d : Nat) (tag : String) : ∀ js : List Json,
    Reads (readPair none d tag js) fun p => List.Forall₂ DenotesExpr js [p.1, p.2]
  | [] => .error nofun
  | [_] => .error (by rintro _ (_ | ⟨_, _ | _⟩))
  | [l, r] => by
    have hleft := readExpr_reads d l
    have hright := readExpr_reads d r
    refine hleft.map₂ hright (fun a b ha hb => .cons ha (.cons hb .nil)) ?_
    rintro ⟨a, b⟩ (_ | ⟨ha, _ | ⟨hb, _⟩⟩)
    exact ⟨a, b, ha, hb, rfl⟩
  | _ :: _ :: _ :: _ => .error (by rintro _ (_ | ⟨_, _ | ⟨_, _ | _⟩⟩))

theorem readOperands_reads (d : Nat) (tag : String) : ∀ js : List Json,
    Reads (readOperands none d tag js) fun es => js ≠ [] ∧ List.Forall₂ DenotesExpr js es
  | [] => .error fun _ h => h.1 rfl
  | j :: js => by
    have hfirst := readExpr_reads d j
    have hrest := readExprs_reads d js
    exact (hfirst.cons hrest).congr fun es => and_iff_right (List.cons_ne_nil j js)

theorem readTested_reads (d : Nat) (tag : String) : ∀ js : List Json,
    Reads (readTested none d tag js) fun p => List.Forall₂ DenotesExpr js (p.1 :: p.2)
  | [] => .error nofun
  | j :: js => by
    have hfirst := readExpr_reads d j
    have hrest := readExprs_reads d js
    refine hfirst.map₂ hrest (fun e es he hes => .cons he hes) ?_
    rintro ⟨e, es⟩ (_ | ⟨he, hes⟩)
    exact ⟨e, es, he, hes, rfl⟩

theorem readCall_reads (d : Nat) : ∀ js : List Json, Reads (readCall none d js) fun p =>
    ∃ args, js = .string p.1 :: args ∧ List.Forall₂ DenotesExpr args p.2
  | .string name :: args => by
    refine (readExprs_reads d args).map (f := fun es => (name, es)) ?_ ?_
    · intro es hes
      exact ⟨args, rfl, hes⟩
    · rintro ⟨_, es⟩ ⟨_, ⟨⟩, hes⟩
      exact ⟨es, hes, rfl⟩
  | [] => .error (by rintro p ⟨_, ⟨⟩, _⟩)
  | .null :: _ | .bool _ :: _ | .integer _ :: _ | .float _ :: _ | .array _ :: _
  | .object _ :: _ => .error (by rintro p ⟨_, ⟨⟩, _⟩)

theorem readExprList_reads (d : Nat) : ∀ j : Json,
    Reads (readExprList none d j) (ArrayOf DenotesExpr j)
  | .array items => .array (readExprs_reads d items)
  | .null | .bool _ | .integer _ | .float _ | .string _ | .object _ => .error nofun

theorem readExprField_reads (d : Nat) (key : String) : ∀ fields : List (String × Json),
    Reads (readExprField none d key fields) (DenotesPart (Json.field? key fields))
  | [] => .ok .missing fun _ h => by cases h; rfl
  | (name, v) :: fields => by
    have hpart := readExprList_reads d v
    have hrest := readExprField_reads d key fields
    rw [readExprField, Json.field?, List.lookup_cons]
    by_cases h : key = name
    · rw [if_pos h, beq_iff_eq.mpr h]
      refine hpart.congr fun es => ?_
      constructor
      · rintro (_ | h)
        exact h
      · exact .present
    · rw [if_neg h, beq_false_of_ne h]
      exact hrest

theorem readTable_reads (d : Nat) : ∀ j : Json, Reads (readTable none d j) (DenotesTable j)
  | .string name => .ok (.named name) fun _ h => by cases h; rfl
  | .object fields => by
    have hfields := readFields_reads (d + 1) fields
    refine hfields.clauses.map (fun m hm => .derived hm) ?_
    rintro _ (_ | hm | _ | _)
    exact ⟨_, hm, rfl⟩
  | .array [.string name, .string short] => .ok (.namedAs name short) fun _ h => by cases h; rfl
  | .array [.object fields, .string short] => by
    have hfields := readFields_reads (d + 1) fields
    refine hfields.clauses.map (fun m hm => .derivedAs hm short) ?_
    rintro _ (_ | _ | _ | hm)
    exact ⟨_, hm, rfl⟩
  | .array [.null, .string _] | .array [.bool _, .string _] | .array [.integer _, .string _]
  | .array [.float _, .string _] | .array [.array _, .string _] => .error nofun
  | .array [x, .null] | .array [x, .bool _] | .array [x, .integer _] | .array [x, .float _]
  | .array [x, .array _] | .array [x, .object _] => by cases x <;> exact .error nofun
  | .array [] => .error nofun
  | .array [x] => by cases x <;> exact .error nofun
  | .array (x :: y :: _ :: _) => by cases x <;> cases y <;> exact .error nofun
  | .null | .bool _ | .integer _ | .float _ => .error nofun

theorem readJoin_reads (d : Nat) : ∀ j : Json, Reads (readJoin none d j) (DenotesJoin j)
  | .array [.string text, table, on] => by
    have htable := readTable_reads d table
    have hon := readExpr_reads d on
    rw [readJoin]
    refine (readJoinKind_reads text).bind
      (P := fun kind join =>
        ∃ t, DenotesTable table t ∧ ∃ e, DenotesExpr on e ∧ join = .mk kind t e)
      ?_ ?_
    · intro kind _
      refine htable.map₂ hon (fun t e ht he => ⟨t, ht, e, he, rfl⟩) ?_
      rintro _ ⟨t, ht, e, he, rfl⟩
      exact ⟨t, e, ht, he, rfl⟩
    · intro join
      constructor
      · rintro ⟨kind, ht, he⟩
        exact ⟨kind, rfl, _, ht, _, he, rfl⟩
      · rintro ⟨kind, rfl, t, ht, e, he, rfl⟩
        exact .mk kind ht he
  | .array [.null, _, _] | .array [.bool _, _, _] | .array [.integer _, _, _]
  | .array [.float _, _, _] | .array [.array _, _, _] | .array [.object _, _, _] => .error nofun
  | .array [] => .error nofun
  | .array [x] => by cases x <;> exact .error nofun
  | .array [x, _] => by cases x <;> exact .error nofun
  | .array (x :: _ :: _ :: _ :: _) => by cases x <;> exact .error nofun
  | .null | .bool _ | .integer _ | .float _ | .string _ | .object _ => .error nofun

theorem readJoins_reads (d : Nat) : ∀ js : List Json,
    Reads (readJoins none d js) (List.Forall₂ DenotesJoin js)
  | [] => .nil
  | j :: js => by
    have hfirst := readJoin_reads d j
    have hrest := readJoins_reads d js
    exact hfirst.cons hrest

theorem readJoinList_reads (d : Nat) : ∀ j : Json,
    Reads (readJoinList none d j) (ArrayOf DenotesJoin j)
  | .array items => .array (readJoins_reads d items)
  | .null | .bool _ | .integer _ | .float _ | .string _ | .object _ => .error nofun

theorem readOrderItem_reads (d : Nat) : ∀ j : Json,
    Reads (readOrderItem none d j) (DenotesOrderItem j)
  | .array [] => .error nofun
  | .array (expr :: rest) => by
    have hexpr := readExpr_reads d expr
    rw [readOrderItem]
    refine (readOrder_reads rest).bind
      (P := fun order item => ∃ e, DenotesExpr expr e ∧ item = .mk e order.1 order.2) ?_ ?_
    · rintro ⟨direction, nulls⟩ _
      refine hexpr.map (fun e he => ⟨e, he, rfl⟩) ?_
      rintro _ ⟨e, he, rfl⟩
      exact ⟨e, he, rfl⟩
    · intro item
      constructor
      · rintro ⟨he, hrest⟩
        exact ⟨(_, _), hrest, _, he, rfl⟩
      · rintro ⟨order, hrest, e, he, rfl⟩
        exact .mk he hrest
  | .null | .bool _ | .integer _ | .float _ | .string _ | .object _ => .error nofun

theorem readOrderItems_reads (d : Nat) : ∀ js : List Json,
    Reads (readOrderItems none d js) (List.Forall₂ DenotesOrderItem js)
  | [] => .nil
  | j :: js => by
    have hfirst := readOrderItem_reads d j
    have hrest := readOrderItems_reads d js
    exact hfirst.cons hrest

theorem readOrderList_reads (d : Nat) : ∀ j : Json,
    Reads (readOrderList none d j) (ArrayOf DenotesOrderItem j)
  | .array items => .array (readOrderItems_reads d items)
  | .null | .bool _ | .integer _ | .float _ | .string _ | .object _ => .error nofun

theorem readDistinct_reads (d : Nat) : ∀ j : Json, Reads (readDistinct none d j) fun p =>
    ∃ parts, j = .object parts ∧ DenotesPart (Json.field? "on" parts) p.1 ∧
      DenotesPart (Json.field? "exprs" parts) p.2
  | .object parts => by
    have hon := readExprField_reads d "on" parts
    have hexprs := readExprField_reads d "exprs" parts
    refine hon.map₂ hexprs (fun on es hon hes => ⟨parts, rfl, hon, hes⟩) ?_
    rintro ⟨on, es⟩ ⟨_, ⟨⟩, hon, hes⟩
    exact ⟨on, es, hon, hes, rfl⟩
  | .null | .bool _ | .integer _ | .float _ | .string _ | .array _ =>
    .error (by rintro p ⟨_, ⟨⟩, _⟩)

theorem readField_reads (d : Nat) : ∀ field : String × Json,
    Reads (readField none d field) (DenotesField field)
  | (name, v) => by
    have hexpr := readExpr_reads d v
    have hexprs := readExprList_reads d v
    have htable := readTable_reads d v
    have hjoins := readJoinList_reads d v
    have horder := readOrderList_reads d v
    have hdistinct := readDistinct_reads d v
    rw [readField]
    refine (readKind_reads name).bind (P := fun kind c => ∃ payload : Clause kind,
      DenotesPayload kind v payload ∧ c = ⟨kind, payload⟩) ?_ ?_
    · intro kind _
      cases kind with
      | select | doUpdate | set | groupBy | returning =>
        refine hexprs.payload (fun es hes => by constructor; exact hes) ?_
        intro c hc
        cases hc
        next hes => exact ⟨_, hes, rfl⟩
      | selectDistinct =>
        refine hdistinct.payload ?_ ?_
        · rintro ⟨on, es⟩ ⟨parts, rfl, hon, hes⟩
          exact .selectDistinct hon hes
        · intro c hc
          cases hc
          next hon hes => exact ⟨(_, _), ⟨_, rfl, hon, hes⟩, rfl⟩
      | insertInto | update | from_ =>
        refine htable.payload (fun t ht => by constructor; exact ht) ?_
        intro c hc
        cases hc
        next ht => exact ⟨_, ht, rfl⟩
      | columns | onConflict =>
        refine (readNames_reads _ v).payload (fun ns hns => by constructor; exact hns) ?_
        intro c hc
        cases hc
        next hns => exact ⟨_, hns, rfl⟩
      | values =>
        refine (readRows_reads v).payload (fun rows hrows => .values hrows) ?_
        intro c hc
        cases hc
        next hrows => exact ⟨_, hrows, rfl⟩
      | doNothing | forUpdate =>
        refine .ok ⟨_, by constructor, rfl⟩ ?_
        rintro _ ⟨_, h, rfl⟩
        cases h
        rfl
      | join =>
        refine hjoins.payload (fun js hjs => .join hjs) ?_
        intro c hc
        cases hc
        next hjs => exact ⟨_, hjs, rfl⟩
      | where_ | having =>
        refine hexpr.payload (fun e he => by constructor; exact he) ?_
        intro c hc
        cases hc
        next he => exact ⟨_, he, rfl⟩
      | orderBy =>
        refine horder.payload (fun is his => .orderBy his) ?_
        intro c hc
        cases hc
        next his => exact ⟨_, his, rfl⟩
      | limit | offset =>
        refine (readCount_reads _ v).payload (fun n hn => by constructor; exact hn) ?_
        intro c hc
        cases hc
        next hn => exact ⟨_, hn, rfl⟩
    · rintro ⟨kind, payload⟩
      constructor
      · rintro ⟨h⟩
        exact ⟨kind, rfl, payload, h, rfl⟩
      · rintro ⟨_, rfl, _, h, ⟨⟩⟩
        exact .mk h

theorem readFields_reads (d : Nat) : ∀ fields : List (String × Json),
    Reads (fields.mapM (readField none d)) (List.Forall₂ DenotesField fields)
  | [] => .nil
  | field :: fields => by
    have hfirst := readField_reads d field
    have hrest := readFields_reads d fields
    rw [List.mapM_cons]
    exact hfirst.cons hrest

end

/-! ## Documents -/

/-- Reading without a limit accepts the grammar and nothing else, and gives the map that the
document denotes. -/
theorem ClauseMap.ofJson_eq_ok_iff (doc : Json) (m : ClauseMap) :
    ofJson .unbounded doc = .ok m ↔ ∃ fields, doc = .object fields ∧ DenotesMap fields m := by
  cases doc with
  | object fields =>
    have hfields : Reads (readClauses none 0 .empty fields) (DenotesMap fields) :=
      (readFields_reads 0 fields).clauses
    refine (hfields m).trans ?_
    constructor
    · intro h
      exact ⟨fields, rfl, h⟩
    · rintro ⟨_, ⟨⟩, h⟩
      exact h
  | _ =>
    refine iff_of_false nofun ?_
    rintro ⟨_, ⟨⟩, _⟩

end Clausal
