import Clausal.Proofs.Document.DepthLimit
import Clausal.Proofs.Query.Lookup
import Clausal.Query.Combine

/-!
# Unions of documents

The fields of a document are read apart from each other: what one of them is read as does not hang
on what stands before it. So reading takes the union of objects to the merge of clause maps, and
writing takes the merge to the union.
-/

namespace Clausal

open Document
open Json (Ascending field? unionFields)

/-! ## Merges -/

namespace Clauses

theorem override_single {k : ClauseKind} (m : ClauseMap) (c : Clause k) :
    m.override (ClauseMap.single c) = m.insert c := by
  apply ext_get? ClauseKind.nodup_all
  intro j
  rw [get?_override, ClauseMap.single]
  by_cases h : k = j
  · subst h
    rw [get?_insert_self k.mem_all, get?_insert_self k.mem_all, Option.some_or]
  · rw [get?_insert_of_ne h, get?_insert_of_ne h, ClauseMap.empty, get?_empty, Option.none_or]

end Clauses

namespace ClauseMap

variable {limit : DepthLimit} {fields : List (String × Json)}

/-- Clauses one by one are put in one by one. -/
theorem mergeAll_map_single (cs : List AnyClause) :
    mergeAll (cs.map fun c => single c.clause) = ofList cs := by
  rw [mergeAll, List.foldl_map]
  simp only [Clauses.override_single]
  rfl

theorem get?_mergeAll_pair (a b : ClauseMap) (k : ClauseKind) :
    (mergeAll [a, b]).get? k = (b.get? k).or (a.get? k) := by
  have ha : empty.override a = a := Clauses.empty_override ClauseKind.nodup_all a
  rw [mergeAll, List.foldl_cons, ha]
  exact a.get?_override b k

/-! ## Reading field by field -/

theorem ofJson_object (limit : DepthLimit) (fields : List (String × Json)) :
    ofJson limit (.object fields) = do return .ofList (← fields.mapM (readField limit 0)) :=
  readClauses_eq_mapM limit 0 .empty fields

theorem ofJson_singleton (limit : DepthLimit) (field : String × Json) :
    ofJson limit (.object [field]) = (readField limit 0 field).map fun c => single c.clause := by
  rw [ofJson_object, List.mapM_cons]
  cases readField limit 0 field <;> rfl

/-- What comes of the fields of an object that are each read as an object of their own. If all of
them can be read it is the merge of what they are read as, and otherwise the error of the least key
that has one. -/
inductive ReadApart (limit : DepthLimit) (fields : List (String × Json)) :
    Except QueryError ClauseMap → Prop where
  | ok {maps : List ClauseMap}
    (h : List.Forall₂ (fun field m => ofJson limit (.object [field]) = .ok m) fields maps) :
    ReadApart limit fields (.ok (mergeAll maps))
  | error {field : String × Json} {e : QueryError} (hfield : field ∈ fields)
    (he : ofJson limit (.object [field]) = .error e)
    (hleast : ∀ other ∈ fields, other.1 < field.1 → ∃ m, ofJson limit (.object [other]) = .ok m) :
    ReadApart limit fields (.error e)

/-- The fields are all read, or the first that is not is the one with the least key. -/
theorem mapM_readField_cases (limit : DepthLimit) (h : Ascending fields) :
    (∃ cs, fields.mapM (readField limit 0) = .ok cs ∧
      List.Forall₂ (fun field c => readField limit 0 field = .ok c) fields cs) ∨
    ∃ field e, fields.mapM (readField limit 0) = .error e ∧ field ∈ fields ∧
      readField limit 0 field = .error e ∧
      ∀ other ∈ fields, other.1 < field.1 → ∃ c, readField limit 0 other = .ok c := by
  induction fields with
  | nil => exact .inl ⟨[], rfl, .nil⟩
  | cons first rest ih =>
    obtain ⟨hfirst, hrest⟩ := List.pairwise_cons.mp h
    rw [List.mapM_cons]
    cases hread : readField limit 0 first with
    | error e =>
      refine .inr ⟨first, e, rfl, List.mem_cons_self .., hread, ?_⟩
      intro other hother hlt
      rcases List.mem_cons.mp hother with rfl | hmem
      · exact absurd hlt (String.lt_irrefl _)
      · exact absurd (String.lt_trans hlt (hfirst other hmem)) (String.lt_irrefl _)
    | ok c =>
      rcases ih hrest with ⟨cs, hcs, hall⟩ | ⟨field, e, he, hfield, hread', hleast⟩
      · rw [hcs]
        exact .inl ⟨c :: cs, rfl, .cons hread hall⟩
      · rw [he]
        refine .inr ⟨field, e, rfl, List.mem_cons_of_mem _ hfield, hread', ?_⟩
        intro other hother hlt
        rcases List.mem_cons.mp hother with rfl | hmem
        · exact ⟨c, hread⟩
        · exact hleast other hmem hlt

theorem readApart_ofJson (h : Ascending fields) :
    ReadApart limit fields (ofJson limit (.object fields)) := by
  rw [ofJson_object]
  rcases mapM_readField_cases limit h with
    ⟨cs, hcs, hall⟩ | ⟨field, e, he, hfield, hread, hleast⟩
  · rw [hcs, ok_bind, ← mergeAll_map_single]
    refine .ok (List.forall₂_map_right_iff.mpr (hall.imp ?_))
    intro field c hread
    rw [ofJson_singleton, hread]
    rfl
  · rw [he]
    refine .error hfield (by rw [ofJson_singleton, hread]; rfl) ?_
    intro other hother hlt
    obtain ⟨c, hc⟩ := hleast other hother hlt
    exact ⟨single c.clause, by rw [ofJson_singleton, hc]; rfl⟩

/-! ## Reading slot by slot -/

theorem exists_readField_of_mem {cs : List AnyClause}
    (h : fields.mapM (readField limit 0) = .ok cs) {field : String × Json} (hfield : field ∈ fields) :
    ∃ c ∈ cs, readField limit 0 field = .ok c := by
  induction fields generalizing cs with
  | nil => cases hfield
  | cons first rest ih =>
    rw [List.mapM_cons] at h
    obtain ⟨c, hc, h⟩ := exists_of_bind_eq_ok h
    obtain ⟨cs, hcs, ⟨⟩⟩ := exists_of_bind_eq_ok h
    rcases List.mem_cons.mp hfield with rfl | hmem
    · exact ⟨c, List.mem_cons_self .., hc⟩
    · obtain ⟨d, hd, hread⟩ := ih hcs hmem
      exact ⟨d, List.mem_cons_of_mem _ hd, hread⟩

/-- What a slot holds of what there is under the name of its kind. -/
inductive SlotOf (limit : DepthLimit) {k : ClauseKind} :
    Option Json → Option (Clause k) → Prop where
  | absent : SlotOf limit none none
  | present {v : Json} {c : Clause k} (h : readField limit 0 (k.name, v) = .ok ⟨k, c⟩) :
    SlotOf limit (some v) (some c)

theorem SlotOf.or {k : ClauseKind} {v? w? : Option Json} {a b : Option (Clause k)}
    (ha : SlotOf limit v? a) (hb : SlotOf limit w? b) : SlotOf limit (v?.or w?) (a.or b) := by
  cases ha with
  | absent => exact hb
  | present h => exact .present h

theorem SlotOf.unique {k : ClauseKind} {v? : Option Json} {a b : Option (Clause k)}
    (ha : SlotOf limit v? a) (hb : SlotOf limit v? b) : a = b := by
  cases ha with
  | absent => cases hb; rfl
  | present ha =>
    cases hb with
    | present hb =>
      cases ha.symm.trans hb
      rfl

theorem slots_of_ofJson (h : Ascending fields) {m : ClauseMap}
    (hm : ofJson limit (.object fields) = .ok m) (k : ClauseKind) :
    SlotOf limit (field? k.name fields) (m.get? k) := by
  rw [ofJson_object] at hm
  obtain ⟨cs, hcs, hm⟩ := exists_of_bind_eq_ok hm
  obtain rfl : ofList cs = m := Except.ok.inj hm
  cases hfield : field? k.name fields with
  | none =>
    have hne : ∀ c ∈ cs, c.kind ≠ k := by
      rintro c hc rfl
      rw [Json.field?_eq_none_iff, ← names_of_mapM hcs] at hfield
      exact hfield (List.mem_map_of_mem hc)
    have hnone : (ofList cs).get? k = none :=
      (Clauses.get?_insertAll_of_forall_ne hne empty).trans (Clauses.get?_empty _)
    rw [hnone]
    exact .absent
  | some v =>
    have hmem : (k.name, v) ∈ fields := (Json.field?_eq_some_iff h.nodup_keys).mp hfield
    obtain ⟨c, hc, hread⟩ := exists_readField_of_mem hcs hmem
    obtain rfl : c.kind = k := ClauseKind.name_injective (kind_of_readField hread)
    have hsome : (ofList cs).get? c.kind = some c.clause :=
      Clauses.get?_insertAll_of_mem (nodup_kinds_of_mapM hcs h.nodup_keys) hc c.kind.mem_all empty
    rw [hsome]
    exact .present hread

/-- An object is read as a map if all its keys are names of kinds, and each slot of the map is that
of what stands under the name. -/
theorem ofJson_eq_ok_iff_slots (h : Ascending fields) {m : ClauseMap} :
    ofJson limit (.object fields) = .ok m ↔
      (∀ key ∈ fields.map Prod.fst, ∃ k : ClauseKind, k.name = key) ∧
        ∀ k : ClauseKind, SlotOf limit (field? k.name fields) (m.get? k) := by
  constructor
  · intro hm
    refine ⟨?_, slots_of_ofJson h hm⟩
    rw [ofJson_object] at hm
    obtain ⟨cs, hcs, -⟩ := exists_of_bind_eq_ok hm
    rw [← names_of_mapM hcs]
    intro key hkey
    obtain ⟨c, -, rfl⟩ := List.mem_map.mp hkey
    exact ⟨c.kind, rfl⟩
  · rintro ⟨hnames, hslots⟩
    cases hread : ofJson limit (.object fields) with
    | ok n =>
      congr 1
      apply Clauses.ext_get? ClauseKind.nodup_all
      intro k
      exact (slots_of_ofJson h hread k).unique (hslots k)
    | error e =>
      -- The field that cannot be read has the name of a kind, so its slot says that it can.
      rw [ofJson_object] at hread
      rcases mapM_readField_cases limit h with
        ⟨cs, hcs, -⟩ | ⟨⟨key, v⟩, e', -, hmem, herror, -⟩
      · rw [hcs] at hread
        cases hread
      · obtain ⟨k, rfl⟩ := hnames key (List.mem_map_of_mem hmem)
        have hslot := hslots k
        rw [(Json.field?_eq_some_iff h.nodup_keys).mpr hmem] at hslot
        generalize m.get? k = slot at hslot
        cases hslot with
        | present hok => cases herror.symm.trans hok

theorem ofJson_unionFields {a b : List (String × Json)} {m n : ClauseMap} (ha : Ascending a)
    (hb : Ascending b) (hm : ofJson limit (.object a) = .ok m)
    (hn : ofJson limit (.object b) = .ok n) :
    ofJson limit (.object (unionFields a b)) = .ok (mergeAll [m, n]) := by
  obtain ⟨hnames, hslots⟩ := (ofJson_eq_ok_iff_slots ha).mp hm
  obtain ⟨hnames', hslots'⟩ := (ofJson_eq_ok_iff_slots hb).mp hn
  refine (ofJson_eq_ok_iff_slots (ha.unionFields b)).mpr ⟨?_, ?_⟩
  · intro key hkey
    by_cases h : key ∈ b.map Prod.fst
    · exact hnames' key h
    · refine hnames key ?_
      by_contra h'
      rw [← Json.field?_eq_none_iff] at h h'
      exact Json.field?_eq_none_iff.mp
        (by rw [Json.field?_unionFields hb.nodup_keys, h, h']; rfl) hkey
  · intro k
    rw [Json.field?_unionFields hb.nodup_keys, get?_mergeAll_pair]
    exact (hslots' k).or (hslots k)

end ClauseMap

/-! ## Writing -/

namespace Clauses

theorem fields_cons {k : ClauseKind} {ks : List ClauseKind} (slot : Option (Clause k))
    (rest : Clauses ks) :
    (cons slot rest).fields = (slot.map fun c => (k.name, c.payload)).toList ++ rest.fields := by
  cases slot <;> rfl

theorem field?_fields {ks : List ClauseKind} (h : ks.Nodup) (m : Clauses ks) (k : ClauseKind) :
    field? k.name m.fields = (m.get? k).map Clause.payload := by
  induction ks with
  | nil => cases m; rfl
  | cons j ks ih =>
    obtain ⟨hj, hks⟩ := List.nodup_cons.mp h
    obtain ⟨slot, rest, rfl⟩ := m.exists_eq_cons
    have hrest : field? k.name rest.fields = (rest.get? k).map Clause.payload := ih hks rest
    by_cases hk : j = k
    · subst hk
      rw [get?_eq_none_of_notMem hj] at hrest
      rw [fields_cons, get?_cons_self]
      cases slot with
      | none => exact hrest
      | some c => simp [Json.field?_cons]
    · have hname : k.name ≠ j.name := fun hname => hk (ClauseKind.name_injective hname.symm)
      rw [fields_cons, get?_cons_of_ne hk, ← hrest]
      cases slot with
      | none => rfl
      | some c => simp [Json.field?_cons, hname]

/-- The fields of the document of a clause map. -/
def sortedFields (m : ClauseMap) : List (String × Json) :=
  unionFields [] m.fields

theorem toJson_eq_object (m : ClauseMap) : m.toJson = .object m.sortedFields := rfl

theorem ascending_sortedFields (m : ClauseMap) : Ascending m.sortedFields :=
  Ascending.unionFields .nil m.fields

theorem field?_sortedFields (m : ClauseMap) (k : ClauseKind) :
    field? k.name m.sortedFields = (m.get? k).map Clause.payload := by
  rw [sortedFields, Json.field?_unionFields m.nodup_keys, m.field?_fields ClauseKind.nodup_all]
  exact Option.or_none

theorem field?_sortedFields_of_ne {key : String} (h : ∀ k : ClauseKind, k.name ≠ key)
    (m : ClauseMap) : field? key m.sortedFields = none := by
  have hkey : field? key m.fields = none := by
    rw [Json.field?_eq_none_iff, fields_eq_map, List.map_map]
    intro hmem
    obtain ⟨c, -, hc⟩ := List.mem_map.mp hmem
    exact h c.kind hc
  rw [sortedFields, Json.field?_unionFields m.nodup_keys, hkey]
  rfl

theorem toJson_override (a b : ClauseMap) : (a.override b).toJson = a.toJson.union b.toJson := by
  rw [toJson_eq_object, toJson_eq_object, toJson_eq_object, Json.union]
  congr 1
  refine (ascending_sortedFields _).ext (a.ascending_sortedFields.unionFields _) ?_
  intro key
  rw [Json.field?_unionFields b.ascending_sortedFields.nodup_keys]
  by_cases h : ∃ k : ClauseKind, k.name = key
  · obtain ⟨k, rfl⟩ := h
    rw [field?_sortedFields, field?_sortedFields, field?_sortedFields, get?_override]
    cases b.get? k <;> rfl
  · rw [not_exists] at h
    rw [field?_sortedFields_of_ne h, field?_sortedFields_of_ne h, field?_sortedFields_of_ne h]
    rfl

end Clauses

namespace ClauseMap

theorem toJson_mergeAll (maps : List ClauseMap) :
    (mergeAll maps).toJson = (maps.map Clauses.toJson).foldl Json.union (.object []) := by
  have hempty : empty.toJson = .object [] := rfl
  rw [mergeAll, List.foldl_map, ← hempty]
  exact (List.foldl_hom Clauses.toJson fun a b => (Clauses.toJson_override a b).symm).symm

/-- Objects and clause maps correspond field by field. An object is read as the merge of what its
fields are read as one by one, or with the error of the least key that has one; the union of two
objects is read as the merge of the two maps; and a merge is written as the union of what its maps
are written as. -/
theorem union_mergeAll :
    (∀ limit fields, Ascending fields → ReadApart limit fields (ofJson limit (.object fields))) ∧
    (∀ limit a b m n, Ascending a → Ascending b →
      ofJson limit (.object a) = .ok m → ofJson limit (.object b) = .ok n →
      ofJson limit (Json.union (.object a) (.object b)) = .ok (mergeAll [m, n])) ∧
    ∀ maps, (mergeAll maps).toJson = (maps.map Clauses.toJson).foldl Json.union (.object []) :=
  ⟨fun _ _ h => readApart_ofJson h, fun _ _ _ _ _ ha hb hm hn => ofJson_unionFields ha hb hm hn,
    toJson_mergeAll⟩

/-- Two documents with a limit each, and one with faults of which that of the limit is met first,
although the selection comes first in a statement. -/
theorem union_mergeAll_limits :
    let a : List (String × Json) := [("limit", .ofUInt64 5), ("where", .object [("r", .string "x")])]
    let b : List (String × Json) := [("limit", .ofUInt64 7), ("offset", .ofUInt64 2)]
    let faulty : List (String × Json) := [("limit", .bool true), ("select", .null), ("where", .null)]
    let m := ofList [⟨_, .where_ (.raw "x")⟩, ⟨_, .limit 5⟩]
    let n := ofList [⟨_, .limit 7⟩, ⟨_, .offset 2⟩]
    let both := ofList [⟨_, .where_ (.raw "x")⟩, ⟨_, .limit 7⟩, ⟨_, .offset 2⟩]
    Ascending a ∧ Ascending b ∧ Ascending faulty ∧
      ofJson .default (.object a) = .ok m ∧ ofJson .default (.object b) = .ok n ∧
      ofJson .default (Json.union (.object a) (.object b)) = .ok both ∧
      both.toJson = Json.union m.toJson n.toJson ∧
      ReadApart .default faulty (.error (.malformed (.notCount .limit (.bool true)))) := by
  intro a b faulty m n both
  have ha : Ascending a := by decide
  have hb : Ascending b := by decide
  have hfaulty : Ascending faulty := by decide
  have hm : ofJson .default (.object a) = .ok m := rfl
  have hn : ofJson .default (.object b) = .ok n := rfl
  obtain ⟨hapart, hread, hwrite⟩ := union_mergeAll
  exact ⟨ha, hb, hfaulty, hm, hn, hread _ a b m n ha hb hm hn, hwrite [m, n],
    hapart .default faulty hfaulty⟩

end ClauseMap

end Clausal
