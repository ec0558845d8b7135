import Clausal.Proofs.Query.Lookup
import Clausal.Query.Combine

/-!
# Appending clause maps

What an append of several maps comes to, told map by map and kind by kind and without an
accumulator: which map is the first that cannot be appended and why, and what each slot of the
result holds. The maps so far and what has become of them are related by `Accumulates`, which every
step keeps.
-/

namespace Clausal

/-! ## Several clauses of one kind -/

namespace Clause

variable {k : ClauseKind}

/-- The values in a row, counted from zero. -/
def row (n : Nat) : Clause .values → List Value
  | .values rows => rows.getD n []

/-- All of several clauses of one kind in one. Lists stand end to end, each row of values has the
rows at its place side by side, and conditions are connected in pairs from the left. -/
def gather : {k : ClauseKind} → Clause k → List (Clause k) → Clause k
  | _, .columns a, cs => .columns (a ++ cs.flatMap fun | .columns b => b)
  | _, .values a, cs =>
    .values ((List.range a.length).map fun n => (Clause.values a :: cs).flatMap (row n))
  | _, .where_ a, cs => .where_ (cs.foldl (fun e => fun | .where_ b => .and [e, b]) a)
  | _, .having a, cs => .having (cs.foldl (fun e => fun | .having b => .and [e, b]) a)
  | _, .set a, cs => .set (a ++ cs.flatMap fun | .set b => b)
  | _, .orderBy a, cs => .orderBy (a ++ cs.flatMap fun | .orderBy b => b)
  | _, .select a, cs => .select (a ++ cs.flatMap fun | .select b => b)
  | _, .join a, cs => .join (a ++ cs.flatMap fun | .join b => b)
  | _, .groupBy a, cs => .groupBy (a ++ cs.flatMap fun | .groupBy b => b)
  | _, c, _ => c

def gatherAll : List (Clause k) → Option (Clause k)
  | [] => none
  | c :: cs => some (c.gather cs)

/-- Rows of values can be joined to as many rows only. -/
def rowFault? : Option (Clause .values) → Option (Clause .values) → Option QueryError
  | some (.values a), some (.values b) =>
    if a.length = b.length then none else some (.valuesShapeMismatch a.length b.length)
  | _, _ => none

theorem map_row_range (rows : List (List Value)) :
    ((List.range rows.length).map fun n => row n (.values rows)) = rows := by
  apply List.ext_getElem
  · simp
  · intro n h h'
    simp [row, h']

@[simp] theorem gather_nil (c : Clause k) : c.gather [] = c := by
  cases c with
  | values rows => simpa [gather] using map_row_range rows
  | _ => simp [gather]

theorem zipWith_rows {rows rows' : List (List Value)} (h : rows.length = rows'.length) :
    List.zipWith (· ++ ·) rows rows'
      = (List.range rows.length).map fun n => rows.getD n [] ++ row n (.values rows') := by
  apply List.ext_getElem
  · simp [h]
  · intro n hn hn'
    simp only [List.length_zipWith, Nat.lt_min] at hn
    simp [row, hn.1, hn.2]

theorem append_gather_values {a b : List (List Value)} (h : a.length = b.length)
    (cs : List (Clause .values)) :
    ((Clause.values a).gather cs).append (.values b)
      = .ok ((Clause.values a).gather (cs ++ [.values b])) := by
  have hlength : ((List.range a.length).map fun n =>
      (Clause.values a :: cs).flatMap (row n)).length = b.length := by simpa using h
  simp only [gather, append, hlength, if_true, zipWith_rows hlength]
  refine congrArg (fun rows => Except.ok (Clause.values rows)) ?_
  rw [h]
  apply List.map_congr_left
  intro n hn
  simp [List.mem_range.mp hn]

theorem append_gather (hk : k.isAppendable = true) (hvalues : k ≠ .values) (c : Clause k)
    (cs : List (Clause k)) (d : Clause k) :
    (c.gather cs).append d = .ok (c.gather (cs ++ [d])) := by
  cases c with
  | values _ => exact absurd rfl hvalues
  | columns _ | where_ _ | having _ | set _ | orderBy _ | select _ | join _ | groupBy _ =>
    cases d
    simp [gather, append]
  | _ => exact absurd hk (by decide)

/-! ## One slot -/

/-- What an append leaves in a slot. -/
def appendSlot : Option (Clause k) → Option (Clause k) → Except QueryError (Option (Clause k))
  | none, d? => .ok d?
  | some c, none => .ok (some c)
  | some c, some d => do return some (← c.append d)

theorem appendSlot_gatherAll (hk : k.isAppendable = true) (hvalues : k ≠ .values)
    (cs : List (Clause k)) (d? : Option (Clause k)) :
    appendSlot (gatherAll cs) d? = .ok (gatherAll (cs ++ d?.toList)) := by
  cases cs with
  | nil => cases d? <;> simp [gatherAll, appendSlot]
  | cons c cs =>
    cases d? with
    | none => simp [gatherAll, appendSlot]
    | some d =>
      rw [gatherAll, appendSlot, append_gather hk hvalues]
      rfl

/-- Only the number of rows can be at fault. -/
theorem appendSlot_gatherAll_values (cs : List (Clause .values)) (d? : Option (Clause .values)) :
    appendSlot (gatherAll cs) d? =
      match rowFault? cs.head? d? with
      | none => .ok (gatherAll (cs ++ d?.toList))
      | some e => .error e := by
  match cs, d? with
  | [], none => rfl
  | [], some d => simp [gatherAll, appendSlot, rowFault?]
  | c :: cs, none => cases c; simp [gatherAll, appendSlot, rowFault?]
  | .values a :: cs, some (.values b) =>
    simp only [gatherAll, appendSlot, List.head?_cons, rowFault?]
    by_cases h : a.length = b.length
    · rw [append_gather_values h, if_pos h]
      rfl
    · simp [gather, append, h]

theorem gatherAll_toList (slot : Option (Clause k)) : gatherAll slot.toList = slot := by
  cases slot <;> simp [gatherAll]

/-- Of clauses that can be appended only rows of values can fail. -/
theorem eq_values_of_appendSlot {slot d? : Option (Clause k)} {e : QueryError}
    (hk : k.isAppendable = true) (h : appendSlot slot d? = .error e) :
    k = .values ∧ ∃ l r, e = .valuesShapeMismatch l r := by
  have hvalues : k = .values := by
    by_contra hne
    rw [← gatherAll_toList slot, appendSlot_gatherAll hk hne] at h
    cases h
  subst hvalues
  refine ⟨rfl, ?_⟩
  match slot, d? with
  | none, _ => cases h
  | some _, none => cases h
  | some (.values a), some (.values b) =>
    rw [← gatherAll_toList (some (values a)), appendSlot_gatherAll_values] at h
    by_cases hrows : a.length = b.length
    · simp [rowFault?, hrows] at h
    · simp only [Option.toList_some, List.head?_cons, rowFault?, if_neg hrows] at h
      exact ⟨_, _, (Except.error.inj h).symm⟩

end Clause

/-! ## Two maps -/

namespace Clauses

variable {k : ClauseKind} {ks : List ClauseKind}

theorem append_cons (slot slot' : Option (Clause k)) (a b : Clauses ks) :
    (cons slot a).append (cons slot' b) = do
      let joined ← Clause.appendSlot slot slot'
      return cons joined (← a.append b) := by
  cases slot <;> cases slot' <;> try rfl
  next c d => simp only [cons, append, Clause.appendSlot]; cases c.append d <;> rfl

/-- An append does to each slot what it does to the slot of each kind, and fails where one of them
does. -/
theorem append_cases (hks : ks.Nodup) (a b : Clauses ks) :
    (∃ m, a.append b = .ok m ∧ ∀ k, Clause.appendSlot (a.get? k) (b.get? k) = .ok (m.get? k)) ∨
      ∃ e k, a.append b = .error e ∧ Clause.appendSlot (a.get? k) (b.get? k) = .error e := by
  induction ks with
  | nil => cases a; cases b; exact .inl ⟨.nil, rfl, fun k => rfl⟩
  | cons j ks ih =>
    obtain ⟨hj, hks⟩ := List.nodup_cons.mp hks
    obtain ⟨slot, a, rfl⟩ := a.exists_eq_cons
    obtain ⟨slot', b, rfl⟩ := b.exists_eq_cons
    rw [append_cons]
    cases hslot : Clause.appendSlot slot slot' with
    | error e => exact .inr ⟨e, j, rfl, by simpa using hslot⟩
    | ok joined =>
      rcases ih hks a b with ⟨m, hm, hget⟩ | ⟨e, k, he, hget⟩
      · rw [hm]
        refine .inl ⟨cons joined m, rfl, fun k => ?_⟩
        by_cases hk : j = k
        · subst hk
          simpa using hslot
        · simpa only [get?_cons_of_ne hk] using hget k
      · -- A kind whose slots fail has slots, so it is not the first one.
        have hk : j ≠ k := by
          rintro rfl
          rw [get?_eq_none_of_notMem hj, get?_eq_none_of_notMem hj] at hget
          cases hget
        rw [he]
        exact .inr ⟨e, k, rfl, by simpa only [get?_cons_of_ne hk] using hget⟩

theorem unappendable_eq (m : ClauseMap) :
    m.unappendable = ClauseKind.all.filter fun k => m.contains k && !k.isAppendable := by
  rw [unappendable, m.kinds_eq_filter ClauseKind.nodup_all, List.filter_filter]
  exact List.filter_congr fun k _ => Bool.and_comm _ _

theorem get?_eq_none_of_unappendable {m : ClauseMap} (h : m.unappendable = [])
    (hk : k.isAppendable = false) : m.get? k = none := by
  rw [unappendable_eq] at h
  have hnot := List.filter_eq_nil_iff.mp h k k.mem_all
  simpa [contains, hk] using hnot

theorem unappendable_eq_nil_iff {m : ClauseMap} :
    m.unappendable = [] ↔ ∀ k, k.isAppendable = false → m.get? k = none := by
  refine ⟨fun h k hk => get?_eq_none_of_unappendable h hk, fun h => ?_⟩
  rw [unappendable_eq]
  apply List.filter_eq_nil_iff.mpr
  intro k _
  cases hk : k.isAppendable with
  | true => simp
  | false => simp [contains, h k hk]

/-- Once the kinds of the second map have been looked at, only rows of values can be at fault. -/
theorem eq_values_of_append {acc next : ClauseMap} {e : QueryError} (h : next.unappendable = [])
    (hslot : Clause.appendSlot (acc.get? k) (next.get? k) = .error e) :
    k = .values ∧ ∃ l r, e = .valuesShapeMismatch l r := by
  cases hk : k.isAppendable with
  | true => exact Clause.eq_values_of_appendSlot hk hslot
  | false =>
    rw [get?_eq_none_of_unappendable h hk] at hslot
    cases hacc : acc.get? k <;> rw [hacc] at hslot <;> cases hslot

end Clauses

/-! ## A list of maps -/

namespace ClauseMap

/-- The clauses of the second map are of kinds that can be appended, and slot by slot the two maps
can be joined. -/
theorem exists_appendNext_eq_ok_iff {acc next : ClauseMap} :
    (∃ m, acc.appendNext next = .ok m) ↔ next.unappendable = [] ∧
      ∀ k, ∃ slot, Clause.appendSlot (acc.get? k) (next.get? k) = .ok slot := by
  unfold appendNext
  split
  · next h =>
    rcases Clauses.append_cases ClauseKind.nodup_all acc next with ⟨m, hm, hget⟩ | ⟨e, k, he, hget⟩
    · exact iff_of_true ⟨m, hm⟩ ⟨List.isEmpty_iff.mp h, fun k => ⟨_, hget k⟩⟩
    · refine iff_of_false (by simp [he]) ?_
      rintro ⟨-, hslots⟩
      obtain ⟨slot, hslot⟩ := hslots k
      rw [hget] at hslot
      cases hslot
  · next h => exact iff_of_false (by simp) fun hboth => h (List.isEmpty_iff.mpr hboth.1)

theorem appendSlot_of_appendNext {acc next m : ClauseMap} (h : acc.appendNext next = .ok m)
    (k : ClauseKind) : Clause.appendSlot (acc.get? k) (next.get? k) = .ok (m.get? k) := by
  unfold appendNext at h
  split at h
  · rcases Clauses.append_cases ClauseKind.nodup_all acc next with ⟨n, hn, hget⟩ | ⟨e, k, he, -⟩
    · obtain rfl := Except.ok.inj (hn.symm.trans h)
      exact hget k
    · rw [he] at h
      cases h
  · cases h

/-- The clauses of one kind in a list of maps. -/
def held (k : ClauseKind) (maps : List ClauseMap) : List (Clause k) :=
  maps.filterMap fun m => m.get? k

/-- Why a map cannot be appended to those before it: for its clauses of other kinds than those that
can be appended, or else for the number of its rows, which has to be that of the first rows there
are. -/
def appendFault? (earlier : List ClauseMap) (next : ClauseMap) : Option QueryError :=
  match ClauseKind.all.filter fun k => next.contains k && !k.isAppendable with
  | [] => Clause.rowFault? (held .values earlier).head? (next.get? .values)
  | kinds => some (.unsupportedAppend kinds)

/-- Why the map at a place of the list cannot be appended to those before it. -/
def appendFaultAt? (maps : List ClauseMap) (i : Nat) : Option QueryError :=
  maps[i]?.bind (appendFault? (maps.take i))

/-- The map holds what an append of the list comes to: of a kind that can be appended all clauses
in one, of any other kind the clause of the first map. -/
structure Accumulates (maps : List ClauseMap) (m : ClauseMap) : Prop where
  gathered : ∀ k, k.isAppendable = true → m.get? k = Clause.gatherAll (held k maps)
  kept : ∀ k, k.isAppendable = false → m.get? k = maps.head?.bind fun first => first.get? k

theorem held_concat (k : ClauseKind) (maps : List ClauseMap) (next : ClauseMap) :
    held k (maps ++ [next]) = held k maps ++ (next.get? k).toList := by
  rw [held, List.filterMap_append]
  cases h : next.get? k <;> simp [held, h]

theorem appendFaultAt?_length (earlier : List ClauseMap) (next : ClauseMap)
    (rest : List ClauseMap) :
    appendFaultAt? (earlier ++ next :: rest) earlier.length = appendFault? earlier next := by
  simp [appendFaultAt?]

namespace Accumulates

variable {maps : List ClauseMap} {acc next : ClauseMap}

theorem start (first : ClauseMap) : Accumulates [first] first where
  gathered k _ := by cases h : first.get? k <;> simp [held, h, Clause.gatherAll]
  kept _ _ := rfl

/-- One step: it fails with the fault of the map, or there is none and the list is longer. -/
theorem step (h : Accumulates maps acc) (hmaps : maps ≠ []) (next : ClauseMap) :
    (∃ m, acc.appendNext next = .ok m ∧ appendFault? maps next = none ∧
      Accumulates (maps ++ [next]) m) ∨
      ∃ e, acc.appendNext next = .error e ∧ appendFault? maps next = some e := by
  rw [appendNext, appendFault?, ← Clauses.unappendable_eq]
  cases hkinds : next.unappendable with
  | cons kind kinds => exact .inr ⟨_, rfl, rfl⟩
  | nil =>
    simp only [List.isEmpty_nil, if_true]
    have hvalues : acc.get? .values = Clause.gatherAll (held .values maps) :=
      h.gathered .values (by decide)
    have hslot := Clause.appendSlot_gatherAll_values (held .values maps) (next.get? .values)
    rw [← hvalues] at hslot
    rcases Clauses.append_cases ClauseKind.nodup_all acc next with ⟨m, hm, hget⟩ | ⟨e, k, he, hget⟩
    · cases hfault : Clause.rowFault? (held .values maps).head? (next.get? .values) with
      | some e => rw [hget, hfault] at hslot; cases hslot
      | none =>
        refine .inl ⟨m, hm, rfl, ⟨fun k hk => ?_, fun k hk => ?_⟩⟩
        · have hk' : Clause.appendSlot (acc.get? k) (next.get? k)
              = .ok (Clause.gatherAll (held k maps ++ (next.get? k).toList)) := by
            by_cases hkv : k = .values
            · subst hkv
              rw [hslot, hfault]
            · rw [h.gathered k hk, Clause.appendSlot_gatherAll hk hkv]
          rw [hget] at hk'
          rw [held_concat]
          exact Except.ok.inj hk'
        · have hk' := hget k
          rw [Clauses.get?_eq_none_of_unappendable hkinds hk, h.kept k hk] at hk'
          obtain ⟨first, rest, rfl⟩ := List.exists_cons_of_ne_nil hmaps
          cases hfirst : first.get? k <;> simp_all [Clause.appendSlot]
    · obtain ⟨rfl, -⟩ := Clauses.eq_values_of_append hkinds hget
      rw [hslot] at hget
      refine .inr ⟨e, he, ?_⟩
      cases hfault : Clause.rowFault? (held .values maps).head? (next.get? .values) with
      | none => rw [hfault] at hget; cases hget
      | some e' => rw [hfault] at hget; cases hget; rfl

/-- A run over the maps that are left, the list being all there are. -/
theorem run (h : Accumulates maps acc) (hmaps : maps ≠ []) (rest : List ClauseMap) :
    (∃ m, rest.foldlM appendNext acc = .ok m ∧ Accumulates (maps ++ rest) m ∧
      ∀ i, maps.length ≤ i → appendFaultAt? (maps ++ rest) i = none) ∨
      ∃ e i, rest.foldlM appendNext acc = .error e ∧ maps.length ≤ i ∧
        appendFaultAt? (maps ++ rest) i = some e ∧
        ∀ j, maps.length ≤ j → j < i → appendFaultAt? (maps ++ rest) j = none := by
  induction rest generalizing maps acc with
  | nil =>
    refine .inl ⟨acc, rfl, by rwa [List.append_nil], fun i hi => ?_⟩
    rw [List.append_nil, appendFaultAt?, List.getElem?_eq_none hi]
    rfl
  | cons next rest ih =>
    have hat := appendFaultAt?_length maps next rest
    rw [List.foldlM_cons]
    rcases h.step hmaps next with ⟨m, hm, hfault, hacc⟩ | ⟨e, he, hfault⟩
    · rw [hm]
      rw [hfault] at hat
      have hlength : (maps ++ [next]).length = maps.length + 1 := by simp
      rcases ih hacc (by simp) with ⟨m, hrun, hall, hnone⟩ | ⟨e, i, hrun, hi, hsome, hnone⟩
      · rw [← List.append_cons] at hall hnone
        refine .inl ⟨m, hrun, hall, fun i hi => ?_⟩
        rcases Nat.eq_or_lt_of_le hi with rfl | hlt
        · exact hat
        · exact hnone i (by omega)
      · rw [← List.append_cons] at hsome hnone
        refine .inr ⟨e, i, hrun, by omega, hsome, fun j hj hji => ?_⟩
        rcases Nat.eq_or_lt_of_le hj with rfl | hlt
        · exact hat
        · exact hnone j (by omega) hji
    · rw [he]
      exact .inr ⟨e, maps.length, rfl, Nat.le_refl _, hat.trans hfault, fun j hj hji => by omega⟩

end Accumulates

theorem Accumulates.absent {maps : List ClauseMap} {m : ClauseMap} (h : Accumulates maps m)
    {k : ClauseKind} (hk : ∀ n ∈ maps, n.get? k = none) : m.get? k = none := by
  cases happendable : k.isAppendable with
  | true =>
    rw [h.gathered k happendable, held, List.filterMap_eq_nil_iff.mpr hk]
    rfl
  | false =>
    rw [h.kept k happendable]
    cases maps with
    | nil => rfl
    | cons first rest => exact hk first (List.mem_cons_self ..)

theorem unappendable_eq_nil_of_appendFault? {earlier : List ClauseMap} {next : ClauseMap}
    (h : appendFault? earlier next = none) : next.unappendable = [] := by
  unfold appendFault? at h
  rw [Clauses.unappendable_eq]
  split at h
  · next hkinds => exact hkinds
  · cases h

/-- Of a kind that cannot be appended there is one clause at most, which is that of the first
map. -/
theorem held_of_appendAll {maps : List ClauseMap} {m : ClauseMap} (h : appendAll maps = .ok m)
    {k : ClauseKind} (hk : k.isAppendable = false) : held k maps = (m.get? k).toList := by
  cases maps with
  | nil =>
    cases h
    have hempty : empty.get? k = none := Clauses.get?_empty _
    rw [hempty]
    rfl
  | cons first rest =>
    rcases (Accumulates.start first).run (by simp) rest with
      ⟨m', hrun, hacc, hnone⟩ | ⟨e, i, hrun, -⟩
    · obtain rfl : m' = m := Except.ok.inj (hrun.symm.trans h)
      have hkept : m'.get? k = first.get? k := hacc.kept k hk
      have hrest : ∀ next ∈ rest, next.get? k = none := by
        intro next hnext
        obtain ⟨i, hi, rfl⟩ := List.getElem_of_mem hnext
        have hfault := hnone (i + 1) (by simp)
        simp only [List.singleton_append, appendFaultAt?, List.getElem?_cons_succ,
          List.getElem?_eq_getElem hi] at hfault
        exact Clauses.get?_eq_none_of_unappendable (unappendable_eq_nil_of_appendFault? hfault) hk
      have hheld : held k rest = [] := List.filterMap_eq_nil_iff.mpr hrest
      unfold held at hheld ⊢
      rw [hkept, List.filterMap_cons, hheld]
      cases first.get? k <;> rfl
    · cases hrun.symm.trans h

/-- The result of an append has of every kind all the clauses of the maps in one. -/
theorem get?_appendAll {maps : List ClauseMap} {m : ClauseMap} (h : appendAll maps = .ok m)
    (k : ClauseKind) : m.get? k = Clause.gatherAll (held k maps) := by
  cases hk : k.isAppendable with
  | false => rw [held_of_appendAll h hk, Clause.gatherAll_toList]
  | true =>
    cases maps with
    | nil =>
      cases h
      exact Clauses.get?_empty _
    | cons first rest =>
      rcases (Accumulates.start first).run (by simp) rest with ⟨m', hrun, hacc, -⟩ | ⟨e, i, hrun, -⟩
      · obtain rfl : m' = m := Except.ok.inj (hrun.symm.trans h)
        exact hacc.gathered k hk
      · cases hrun.symm.trans h

/-- What an append comes to. It succeeds exactly if each map can be appended to those before it;
the first map that cannot is the one at fault; and the result has of each kind all the clauses that
the maps hold in one, or the clause of the first map alone, and nothing of a kind that no map
holds. Once the kinds of a map have been looked at, no kind is refused any more. -/
theorem appendAll_accumulates (first : ClauseMap) (rest : List ClauseMap) :
    ((∃ m, appendAll (first :: rest) = .ok m) ↔
      ∀ i, 0 < i → appendFaultAt? (first :: rest) i = none) ∧
    (∀ e, appendAll (first :: rest) = .error e ↔
      ∃ i, 0 < i ∧ appendFaultAt? (first :: rest) i = some e ∧
        ∀ j, 0 < j → j < i → appendFaultAt? (first :: rest) j = none) ∧
    (∀ m, appendAll (first :: rest) = .ok m → Accumulates (first :: rest) m ∧
      ∀ k, (∀ n ∈ first :: rest, n.get? k = none) → m.get? k = none) ∧
    ∀ (acc next : ClauseMap) (kinds : List ClauseKind), next.unappendable = [] →
      acc.append next ≠ .error (.unsupportedAppend kinds) := by
  have hrefused : ∀ (acc next : ClauseMap) (kinds : List ClauseKind), next.unappendable = [] →
      acc.append next ≠ .error (.unsupportedAppend kinds) := by
    intro acc next kinds hnext herror
    rcases Clauses.append_cases ClauseKind.nodup_all acc next with ⟨m, hm, -⟩ | ⟨e, k, he, hslot⟩
    · rw [hm] at herror
      cases herror
    · obtain ⟨-, l, r, rfl⟩ := Clauses.eq_values_of_append hnext hslot
      rw [he] at herror
      cases herror
  rcases (Accumulates.start first).run (by simp) rest with
    ⟨m, hrun, hacc, hnone⟩ | ⟨e, i, hrun, hi, hsome, hnone⟩
  · replace hrun : appendAll (first :: rest) = .ok m := hrun
    simp only [List.singleton_append] at hacc hnone
    rw [hrun]
    refine ⟨iff_of_true ⟨m, rfl⟩ hnone, fun e => iff_of_false (by simp) ?_, ?_, hrefused⟩
    · rintro ⟨i, hi, hfault, -⟩
      rw [hnone i hi] at hfault
      cases hfault
    · rintro _ ⟨⟩
      exact ⟨hacc, fun k hk => hacc.absent hk⟩
  · replace hrun : appendAll (first :: rest) = .error e := hrun
    simp only [List.singleton_append] at hsome hnone
    rw [hrun]
    refine ⟨iff_of_false (by simp) fun h => ?_, fun e' => ?_, by simp, hrefused⟩
    · rw [h i hi] at hsome
      cases hsome
    · constructor
      · rintro ⟨⟩
        exact ⟨i, hi, hsome, hnone⟩
      · rintro ⟨i', hi', hfault, hleast⟩
        -- Two first places are the same place.
        rcases Nat.lt_trichotomy i i' with hlt | rfl | hlt
        · rw [hleast i hi hlt] at hsome; cases hsome
        · rw [hsome] at hfault; cases hfault; rfl
        · rw [hnone i' hi' hlt] at hfault; cases hfault

/-- Three maps with rows and conditions, and three of which the second is at fault before the
third. -/
theorem appendAll_accumulates_mixed :
    let a := ofList [⟨_, .values [[.raw "1"], [.raw "2"]]⟩, ⟨_, .where_ (.raw "x")⟩, ⟨_, .limit 5⟩]
    let b := ofList [⟨_, .columns ["c"]⟩, ⟨_, .where_ (.raw "y")⟩]
    let c := ofList [⟨_, .values [[.raw "3"], []]⟩, ⟨_, .where_ (.raw "z")⟩]
    let short := ofList [⟨_, .values [[]]⟩]
    let m := ofList
      [⟨_, .columns ["c"]⟩, ⟨_, .values [[.raw "1", .raw "3"], [.raw "2"]]⟩,
        ⟨_, .where_ (.and [.and [.raw "x", .raw "y"], .raw "z"])⟩, ⟨_, .limit 5⟩]
    appendAll [a, b, c] = .ok m ∧ Accumulates [a, b, c] m ∧
      appendAll [a, short, a] = .error (.valuesShapeMismatch 2 1) := by
  intro a b c short m
  have hm : appendAll [a, b, c] = .ok m := rfl
  have hshort := (appendAll_accumulates a [short, a]).2.1 (.valuesShapeMismatch 2 1)
  refine ⟨hm, ((appendAll_accumulates a [b, c]).2.2.1 m hm).1, hshort.mpr ⟨1, ?_, rfl, ?_⟩⟩
  · decide
  · intro j hj hj1
    omega

end ClauseMap

end Clausal
