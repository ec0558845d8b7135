import Clausal.Json.Basic
import Mathlib.Data.List.Nodup

/-!
# Fields of objects

An object has its fields in an order of its own. Where the keys are distinct that is all there is
to it: the fields are those it was made of. Fields in ascending order of their keys are told by the
values under the keys, and so is the union of two objects.
-/

namespace Clausal

namespace Json

variable {key : String} {value : Json} {fields : List (String × Json)}

/-- The keys of the fields are in ascending order, so no key comes twice. -/
def Ascending (fields : List (String × Json)) : Prop :=
  fields.Pairwise fun a b => a.1 < b.1

instance (fields : List (String × Json)) : Decidable (Ascending fields) :=
  inferInstanceAs (Decidable (fields.Pairwise fun a b => a.1 < b.1))

theorem Ascending.nodup_keys (h : Ascending fields) : (fields.map Prod.fst).Nodup :=
  List.pairwise_map.mpr (h.imp fun hlt => Std.ne_of_lt hlt)

/-! ## Putting in a field -/

theorem mem_insertField {field : String × Json} (h : field ∈ insertField key value fields) :
    field = (key, value) ∨ field ∈ fields := by
  induction fields with
  | nil => exact .inl (List.mem_singleton.mp h)
  | cons other fields ih =>
    unfold insertField at h
    split at h
    · exact List.mem_cons.mp h
    · split at h
      · exact (List.mem_cons.mp h).imp_right (List.mem_cons_of_mem _)
      · rcases List.mem_cons.mp h with rfl | hrest
        · exact .inr (List.mem_cons_self ..)
        · exact (ih hrest).imp_right (List.mem_cons_of_mem _)

theorem Ascending.insertField (key : String) (value : Json) (h : Ascending fields) :
    Ascending (insertField key value fields) := by
  induction fields with
  | nil => exact List.pairwise_singleton _ _
  | cons other fields ih =>
    obtain ⟨hfirst, hrest⟩ := List.pairwise_cons.mp h
    unfold Json.insertField
    split
    · next hlt =>
      refine List.pairwise_cons.mpr ⟨?_, h⟩
      intro field hfield
      rcases List.mem_cons.mp hfield with rfl | hmem
      · exact hlt
      · exact String.lt_trans hlt (hfirst field hmem)
    · next hnot =>
      split
      · next heq => exact List.pairwise_cons.mpr ⟨fun field hmem => heq ▸ hfirst field hmem, hrest⟩
      · next hne =>
        refine List.pairwise_cons.mpr ⟨?_, ih hrest⟩
        intro field hfield
        rcases mem_insertField hfield with rfl | hmem
        · exact Std.lt_of_le_of_ne (String.not_lt.mp hnot) (Ne.symm hne)
        · exact hfirst field hmem

theorem insertField_perm (h : key ∉ fields.map Prod.fst) :
    (insertField key value fields).Perm ((key, value) :: fields) := by
  induction fields with
  | nil => exact .refl _
  | cons field fields ih =>
    obtain ⟨hne, htail⟩ := not_or.mp (mt List.mem_cons.mpr h)
    rw [insertField, if_neg hne]
    split
    · exact .refl _
    · exact ((ih htail).cons field).trans (.swap (key, value) field fields)

theorem foldl_insertField_perm {sorted : List (String × Json)}
    (h : (sorted.map Prod.fst ++ fields.map Prod.fst).Nodup) :
    (fields.foldl (fun sorted field => insertField field.1 field.2 sorted) sorted).Perm
      (sorted ++ fields) := by
  -- The keys that are in and those to come are distinct throughout.
  induction fields generalizing sorted with
  | nil => simp
  | cons field fields ih =>
    have hcomm : (sorted.map Prod.fst ++ field.1 :: fields.map Prod.fst).Perm
        (field.1 :: (sorted.map Prod.fst ++ fields.map Prod.fst)) := List.perm_middle
    obtain ⟨hnew, hrest⟩ := List.nodup_cons.mp (hcomm.nodup_iff.mp h)
    have hfresh : field.1 ∉ sorted.map Prod.fst := by
      intro hmem
      exact hnew (List.mem_append_left _ hmem)
    have hinsert : (insertField field.1 field.2 sorted).Perm (field :: sorted) :=
      insertField_perm hfresh
    refine (ih ?_).trans ((hinsert.append_right fields).trans List.perm_middle.symm)
    apply ((hinsert.map Prod.fst).append_right _).nodup_iff.mpr
    exact List.nodup_cons.mpr ⟨hnew, hrest⟩

theorem exists_ofFields_eq (h : (fields.map Prod.fst).Nodup) :
    ∃ sorted, ofFields fields = .object sorted ∧ sorted.Perm fields :=
  ⟨_, rfl, foldl_insertField_perm h⟩

/-! ## Values under keys -/

theorem field?_cons (key : String) (field : String × Json) (fields : List (String × Json)) :
    field? key (field :: fields) = if key = field.1 then some field.2 else field? key fields := by
  rw [field?, List.lookup_cons]
  split <;> simp_all [field?]

theorem field?_eq_none_iff : field? key fields = none ↔ key ∉ fields.map Prod.fst := by
  induction fields with
  | nil => simp [field?]
  | cons field fields ih =>
    rw [field?_cons, List.map_cons, List.mem_cons, not_or, ← ih]
    split
    · next h => simp [h]
    · next h => simp [h]

theorem field?_eq_some_iff (h : (fields.map Prod.fst).Nodup) :
    field? key fields = some value ↔ (key, value) ∈ fields := by
  induction fields with
  | nil => simp [field?]
  | cons field fields ih =>
    obtain ⟨hfresh, hrest⟩ := List.nodup_cons.mp h
    rw [field?_cons, List.mem_cons]
    split
    · next hkey =>
      subst hkey
      have hnot : (field.1, value) ∉ fields := fun hmem => hfresh (List.mem_map.mpr ⟨_, hmem, rfl⟩)
      simp [hnot, Prod.ext_iff, eq_comm]
    · next hkey => simp [ih hrest, Prod.ext_iff, hkey]

theorem field?_insertField (key' : String) (value : Json) (fields : List (String × Json))
    (key : String) : field? key (insertField key' value fields)
      = if key = key' then some value else field? key fields := by
  induction fields with
  | nil => exact field?_cons key (key', value) []
  | cons field fields ih =>
    unfold insertField
    split
    · exact field?_cons key (key', value) (field :: fields)
    · split
      · next heq => rw [field?_cons, field?_cons]; subst heq; split <;> rfl
      · next hne =>
        rw [field?_cons, field?_cons, ih]
        split
        · next h => rw [if_neg (fun h' => hne (h'.symm.trans h))]
        · rfl

/-- Fields in ascending order are told by the values under the keys. -/
theorem Ascending.ext {fields' : List (String × Json)} (h : Ascending fields)
    (h' : Ascending fields') (hfield : ∀ key, field? key fields = field? key fields') :
    fields = fields' := by
  have hmem : ∀ field, field ∈ fields ↔ field ∈ fields' := fun field => by
    rw [← field?_eq_some_iff h.nodup_keys, hfield, field?_eq_some_iff h'.nodup_keys]
  have hperm : fields.Perm fields' :=
    (List.perm_ext_iff_of_nodup (h.nodup_keys.of_map _) (h'.nodup_keys.of_map _)).mpr hmem
  exact hperm.eq_of_pairwise
    (fun a b _ _ hlt hgt => absurd (String.lt_trans hlt hgt) (String.lt_irrefl a.1)) h h'

/-! ## Unions -/

/-- The fields of both; where both have a key, the value of the second. -/
def unionFields (a b : List (String × Json)) : List (String × Json) :=
  b.foldl (fun sorted field => insertField field.1 field.2 sorted) a

/-- The union of two objects. -/
def union : Json → Json → Json
  | .object a, .object b => .object (unionFields a b)
  | _, b => b

theorem Ascending.unionFields {a : List (String × Json)} (h : Ascending a)
    (b : List (String × Json)) : Ascending (unionFields a b) := by
  induction b generalizing a with
  | nil => exact h
  | cons field b ih => exact ih (h.insertField field.1 field.2)

theorem mem_unionFields {a b : List (String × Json)} {field : String × Json}
    (h : field ∈ unionFields a b) : field ∈ a ∨ field ∈ b := by
  induction b generalizing a with
  | nil => exact .inl h
  | cons other b ih =>
    rcases ih h with hinsert | hrest
    · rcases mem_insertField hinsert with rfl | ha
      · exact .inr (List.mem_cons_self ..)
      · exact .inl ha
    · exact .inr (List.mem_cons_of_mem _ hrest)

theorem field?_unionFields {b : List (String × Json)} (h : (b.map Prod.fst).Nodup)
    (a : List (String × Json)) (key : String) :
    field? key (unionFields a b) = (field? key b).or (field? key a) := by
  induction b generalizing a with
  | nil => rfl
  | cons field b ih =>
    obtain ⟨hfresh, hrest⟩ := List.nodup_cons.mp h
    change field? key (Json.unionFields (insertField field.1 field.2 a) b) = _
    rw [ih hrest, field?_insertField, field?_cons]
    split
    · next hkey =>
      rw [hkey, field?_eq_none_iff.mpr hfresh]
      rfl
    · rfl

theorem ofFields_of_ascending (h : Ascending fields) : ofFields fields = .object fields := by
  have hsorted : unionFields [] fields = fields := by
    refine (Ascending.unionFields .nil fields).ext h fun key => ?_
    rw [field?_unionFields h.nodup_keys]
    exact Option.or_none
  exact congrArg object hsorted

end Json

end Clausal
