import Clausal.Json.Reader
import Clausal.Proofs.Json.Fields

/-!
# Keys of objects

A JSON object has one value for each of its keys. The type of JSON values leaves open which fields
an object is made of, so the values that stand for documents are those with distinct keys in each
of their objects. Reading a text gives no other values: it gives objects with their keys in
ascending order.
-/

namespace Clausal.Json

mutual

/-- In every object inside the value the keys are distinct. -/
def hasDistinctKeys : Json → Bool
  | .array items => itemsHaveDistinctKeys items
  | .object fields => decide (fields.map Prod.fst).Nodup && fieldsHaveDistinctKeys fields
  | _ => true

def itemsHaveDistinctKeys : List Json → Bool
  | [] => true
  | v :: vs => v.hasDistinctKeys && itemsHaveDistinctKeys vs

def fieldsHaveDistinctKeys : List (String × Json) → Bool
  | [] => true
  | (_, v) :: fields => v.hasDistinctKeys && fieldsHaveDistinctKeys fields

end

theorem itemsHaveDistinctKeys_iff {vs : List Json} :
    itemsHaveDistinctKeys vs = true ↔ ∀ v ∈ vs, v.hasDistinctKeys = true := by
  induction vs with
  | nil => simp [itemsHaveDistinctKeys]
  | cons v vs ih => simp [itemsHaveDistinctKeys, ih]

theorem fieldsHaveDistinctKeys_iff {fields : List (String × Json)} :
    fieldsHaveDistinctKeys fields = true ↔ ∀ field ∈ fields, field.2.hasDistinctKeys = true := by
  induction fields with
  | nil => simp [fieldsHaveDistinctKeys]
  | cons field fields ih => simp [fieldsHaveDistinctKeys, ih]

theorem hasDistinctKeys_array {items : List Json} :
    (array items).hasDistinctKeys = true ↔ ∀ v ∈ items, v.hasDistinctKeys = true :=
  itemsHaveDistinctKeys_iff

theorem hasDistinctKeys_object {fields : List (String × Json)} :
    (object fields).hasDistinctKeys = true ↔
      (fields.map Prod.fst).Nodup ∧ ∀ field ∈ fields, field.2.hasDistinctKeys = true := by
  rw [hasDistinctKeys, Bool.and_eq_true, decide_eq_true_iff, fieldsHaveDistinctKeys_iff]

/-- In every object inside the value the keys are in ascending order. -/
inductive Sorted : Json → Prop
  | null : Sorted .null
  | bool (b : Bool) : Sorted (.bool b)
  | integer (n : WordInteger) : Sorted (.integer n)
  | float (x : FiniteBinary64) : Sorted (.float x)
  | string (s : String) : Sorted (.string s)
  | array {items : List Json} (h : ∀ v ∈ items, Sorted v) : Sorted (.array items)
  | object {fields : List (String × Json)} (hkeys : Ascending fields)
    (h : ∀ field ∈ fields, Sorted field.2) : Sorted (.object fields)

theorem Sorted.hasDistinctKeys {v : Json} (h : Sorted v) : v.hasDistinctKeys = true := by
  induction h with
  | array _ ih => exact hasDistinctKeys_array.mpr ih
  | object hkeys _ ih => exact hasDistinctKeys_object.mpr ⟨hkeys.nodup_keys, ih⟩
  | _ => rfl

/-! ## Objects made of fields -/

theorem sorted_ofFields {fields : List (String × Json)} (h : ∀ field ∈ fields, Sorted field.2) :
    Sorted (ofFields fields) := by
  refine .object (Ascending.unionFields .nil fields) fun field hfield => ?_
  rcases mem_unionFields hfield with hnil | hmem
  · cases hnil
  · exact h field hmem

/-! ## Values read from a text -/

theorem sorted_of_ofBinary64? {x : Binary64} {v : Json} (h : ofBinary64? x = some v) :
    Sorted v := by
  unfold ofBinary64? at h
  split at h
  · cases h; exact .float _
  · cases h

theorem sorted_of_floatOfParts? {negative : Bool} {m : Nat} {e : Int} {v : Json}
    (h : floatOfParts? negative m e = some v) : Sorted v := by
  obtain ⟨x, -, hx⟩ := Option.bind_eq_some_iff.mp h
  exact sorted_of_ofBinary64? hx

theorem sorted_of_integerOfParts? {negative : Bool} {m : Nat} {v : Json}
    (h : integerOfParts? negative m = some v) : Sorted v := by
  have hint : ∀ n, ofInt? n = some v → Sorted v := by
    intro n hn
    unfold ofInt? at hn
    split at hn
    · cases hn; exact .integer _
    · cases hn
  unfold integerOfParts? at h
  split at h
  · split at h
    · exact sorted_of_floatOfParts? h
    · exact hint _ h
  · exact hint _ h

/-- A number that is read with the text after it. -/
theorem sorted_of_map {x : Option Json} {rest rest' : List Char} {v : Json}
    (h : x.map (·, rest) = some (v, rest')) (hx : ∀ v, x = some v → Sorted v) : Sorted v := by
  obtain ⟨w, hw, heq⟩ := Option.map_eq_some_iff.mp h
  cases heq
  exact hx v hw

theorem sorted_of_readScaled? {negative : Bool} {m : Nat} {e : Int} {cs rest : List Char}
    {v : Json} (h : readScaled? negative m e cs = some (v, rest)) : Sorted v := by
  have hfloat : ∀ {m e rest'}, (floatOfParts? negative m e).map (·, rest') = some (v, rest) →
      Sorted v :=
    fun h => sorted_of_map h fun _ => sorted_of_floatOfParts?
  unfold readScaled? at h
  split at h
  · exact hfloat h
  · split at h
    · dsimp only at h
      split at h
      · cases h
      · split at h
        · split at h
          · cases h
          · exact hfloat h
        · exact hfloat h
    · exact hfloat h

theorem sorted_of_readTail? {negative : Bool} {m surplus : Nat} {cs rest : List Char} {v : Json}
    (h : readTail? negative m surplus cs = some (v, rest)) : Sorted v := by
  have hinteger : ∀ {m rest'}, (integerOfParts? negative m).map (·, rest') = some (v, rest) →
      Sorted v :=
    fun h => sorted_of_map h fun _ => sorted_of_integerOfParts?
  unfold readTail? at h
  split at h
  · split at h
    · exact sorted_of_readScaled? h
    · exact hinteger h
  · split at h
    · unfold readFraction? at h
      split at h
      · exact sorted_of_readScaled? h
      · cases h
    · split at h
      · exact sorted_of_readScaled? h
      · exact hinteger h

theorem sorted_of_readMagnitude? {negative : Bool} {cs rest : List Char} {v : Json}
    (h : readMagnitude? negative cs = some (v, rest)) : Sorted v := by
  unfold readMagnitude? at h
  dsimp only at h
  split at h
  · cases h
  · exact sorted_of_readTail? h

theorem sorted_of_readNumber? {cs rest : List Char} {v : Json}
    (h : readNumber? cs = some (v, rest)) : Sorted v := by
  unfold readNumber? at h
  split at h <;> exact sorted_of_readMagnitude? h

-- By induction on the fuel, which every call of the reader takes some of.
mutual

theorem sorted_of_readValue? : ∀ {fuel : Nat} {room : Option Nat} {cs rest : List Char}
    {v : Json}, readValue? fuel room cs = some (v, rest) → Sorted v
  | 0, _, _, _, _, h => by cases h
  | fuel + 1, room, cs, rest, v, h => by
    have hword : ∀ {x : Option (List Char)} {w : Json}, Sorted w →
        x.map (w, ·) = some (v, rest) → Sorted v := by
      intro x w hw hx
      obtain ⟨_, -, heq⟩ := Option.map_eq_some_iff.mp hx
      cases heq
      exact hw
    unfold readValue? at h
    split at h
    · cases h
    -- By the first character, in the order in which the reader looks for it.
    · split at h
      · exact hword .null h
      split at h
      · exact hword (.bool true) h
      split at h
      · exact hword (.bool false) h
      split at h
      · obtain ⟨_, -, heq⟩ := Option.map_eq_some_iff.mp h
        cases heq
        exact .string _
      split at h
      · split at h
        · cases h
        · split at h
          · cases h
            exact .array (by simp)
          · exact sorted_of_readItems? (by simp) h
      split at h
      · split at h
        · cases h
        · split at h
          · cases h
            exact .object .nil (by simp)
          · exact sorted_of_readFields? (by simp) h
      · exact sorted_of_readNumber? h

theorem sorted_of_readItems? : ∀ {fuel : Nat} {room : Option Nat} {done : List Json}
    {cs rest : List Char} {v : Json}, (∀ w ∈ done, Sorted w) →
    readItems? fuel room done cs = some (v, rest) → Sorted v
  | 0, _, _, _, _, _, _, h => by cases h
  | fuel + 1, room, done, cs, rest, v, hdone, h => by
    unfold readItems? at h
    split at h
    · cases h
    · next item _ hitem =>
      have hnext : ∀ w ∈ item :: done, Sorted w :=
        List.forall_mem_cons.mpr ⟨sorted_of_readValue? hitem, hdone⟩
      split at h
      · exact sorted_of_readItems? hnext h
      · cases h
        exact .array fun w hw => hnext w (List.mem_reverse.mp hw)
      · cases h

theorem sorted_of_readFields? : ∀ {fuel : Nat} {room : Option Nat}
    {done : List (String × Json)} {cs rest : List Char} {v : Json},
    (∀ field ∈ done, Sorted field.2) →
    readFields? fuel room done cs = some (v, rest) → Sorted v
  | 0, _, _, _, _, _, _, h => by cases h
  | fuel + 1, room, done, cs, rest, v, hdone, h => by
    unfold readFields? at h
    split at h
    · split at h
      · cases h
      · next key _ _ =>
        split at h
        · split at h
          · cases h
          · next value _ hvalue =>
            have hnext : ∀ field ∈ (key, value) :: done, Sorted field.2 :=
              List.forall_mem_cons.mpr ⟨sorted_of_readValue? hvalue, hdone⟩
            split at h
            · exact sorted_of_readFields? hnext h
            · cases h
              exact sorted_ofFields fun field hfield =>
                hnext field (List.mem_reverse.mp hfield)
            · cases h
        · cases h
    · cases h

end

/-- Whatever text a value is read from, its keys are distinct. -/
theorem hasDistinctKeys_of_readFirst? {room : Option Nat} {cs rest : List Char} {v : Json}
    (h : readFirst? room cs = some (v, rest)) : v.hasDistinctKeys = true :=
  (sorted_of_readValue? h).hasDistinctKeys

end Clausal.Json
