import Clausal.Document.Encode
import Clausal.Proofs.Query.Append
import Clausal.Statement.Render
import Mathlib.Data.List.Induction

/-!
# Runs of operations

Whatever is done to a clause map from its creation on, the map is a partial function from kinds to
clauses: what it has of a kind is what was last written of that kind. The writes are kept in a log
here, newest first, by a run that has no map; a run on maps and the run on logs go side by side.
-/

namespace Clausal

/-! ## Logs of writes -/

/-- A clause put into the slot of its kind, or the slot emptied. -/
structure Write where
  kind : ClauseKind
  clause? : Option (Clause kind)

def AnyClause.write (c : AnyClause) : Write :=
  ⟨c.kind, some c.clause⟩

/-- The writes that put in clauses one after the other. -/
def AnyClause.writes (cs : List AnyClause) : List Write :=
  (cs.map AnyClause.write).reverse

/-- What the newest write to a slot has left in it. -/
def lastWrite (k : ClauseKind) : List Write → Option (Clause k)
  | [] => none
  | w :: log => if h : w.kind = k then h ▸ w.clause? else lastWrite k log

/-- The map is what the log says. -/
def ClauseMap.Records (log : List Write) (m : ClauseMap) : Prop :=
  ∀ k, m.get? k = lastWrite k log

/-- All that can be asked of a map, answered by a partial function from kinds to clauses. -/
structure ClauseMap.Presents (slots : (k : ClauseKind) → Option (Clause k)) (m : ClauseMap) :
    Prop where
  get? : ∀ k, m.get? k = slots k
  contains : ∀ k, m.contains k = (slots k).isSome
  /-- The clauses come in priority order. -/
  toList : m.toList = ClauseKind.all.filterMap fun k => (slots k).map (AnyClause.mk k)
  kinds : m.kinds = ClauseKind.all.filter fun k => (slots k).isSome
  ascending : m.kinds.Pairwise fun j k => j.priority < k.priority
  /-- A clause that is listed is in the slot of its own kind. -/
  listed : ∀ c ∈ m.toList, m.get? c.kind = some c.clause
  size : m.size = ClauseKind.all.countP fun k => (slots k).isSome
  isEmpty : m.isEmpty = true ↔ ∀ k, slots k = none

/-! ## Operations -/

inductive Operation where
  /-- Put in a clause; the one that was there comes back. -/
  | insert (c : AnyClause)
  /-- Put in a clause and go on with the map. -/
  | with_ (c : AnyClause)
  /-- Take out a clause; it comes back. -/
  | remove (k : ClauseKind)
  | extend (cs : List AnyClause)
  /-- A new map of the given clauses. -/
  | collect (cs : List AnyClause)
  | merge (others : List ClauseMap)
  | append (others : List ClauseMap)

namespace Operation

/-- The clause that comes back, and the map after the operation. -/
def apply (m : ClauseMap) : Operation → Except QueryError (Option AnyClause × ClauseMap)
  | insert c =>
    let (old?, m) := m.getThenInsert c.clause
    .ok (old?.map (AnyClause.mk c.kind), m)
  | with_ c => .ok (none, m.insert c.clause)
  | remove k =>
    let (old?, m) := m.getThenRemove k
    .ok (old?.map (AnyClause.mk k), m)
  | extend cs => .ok (none, m.insertAll cs)
  | collect cs => .ok (none, .ofList cs)
  | merge others => .ok (none, .mergeAll (m :: others))
  | append others => do return (none, ← ClauseMap.appendAll (m :: others))

/-- The clauses that come back, and the map after all operations. -/
def run (m : ClauseMap) : List Operation → Except QueryError (List (Option AnyClause) × ClauseMap)
  | [] => .ok ([], m)
  | op :: ops => do
    let (answer, m) ← op.apply m
    let (answers, m) ← run m ops
    return (answer :: answers, m)

/-- The writes of an append: to the slot of each kind that the others hold goes all there is of the
kind in one. -/
def appendWrites (log : List Write) (others : List ClauseMap) : List Write :=
  (ClauseKind.all.filter fun k => !(ClauseMap.held k others).isEmpty).map fun k =>
    ⟨k, Clause.gatherAll ((lastWrite k log).toList ++ ClauseMap.held k others)⟩

/-- The log after the operation. -/
def log (before : List Write) : Operation → List Write
  | insert c | with_ c => c.write :: before
  | remove k => ⟨k, none⟩ :: before
  | extend cs => AnyClause.writes cs ++ before
  | collect cs => AnyClause.writes cs
  | merge others => AnyClause.writes (others.flatMap Clauses.toList) ++ before
  | append others => appendWrites before others ++ before

/-- What an operation gives back by the log before it. -/
def answer (before : List Write) : Operation → Option AnyClause
  | insert c => (lastWrite c.kind before).map (AnyClause.mk c.kind)
  | remove k => (lastWrite k before).map (AnyClause.mk k)
  | with_ _ | extend _ | collect _ | merge _ | append _ => none

/-- The run on the log in place of the map. -/
def replay (before : List Write) : List Operation → List (Option AnyClause) × List Write
  | [] => ([], before)
  | op :: ops =>
    let (answers, after) := replay (op.log before) ops
    (op.answer before :: answers, after)

end Operation

/-! ## One write -/

section

variable {j k : ClauseKind} {w : Write} {log log' : List Write}

theorem lastWrite_cons_self (c? : Option (Clause k)) (log : List Write) :
    lastWrite k (⟨k, c?⟩ :: log) = c? := by
  simp [lastWrite]

theorem lastWrite_cons_of_ne (h : w.kind ≠ k) (log : List Write) :
    lastWrite k (w :: log) = lastWrite k log := by
  simp [lastWrite, h]

/-- Clauses that are put in hide older writes to their slots and no others. -/
theorem lastWrite_writes_append (cs : List AnyClause) (log : List Write) (k : ClauseKind) :
    lastWrite k (AnyClause.writes cs ++ log)
      = (lastWrite k (AnyClause.writes cs)).or (lastWrite k log) := by
  -- The newest write is that of the last clause.
  induction cs using List.reverseRecOn with
  | nil => rfl
  | append_singleton cs c ih =>
    have hwrites : AnyClause.writes (cs ++ [c]) = c.write :: AnyClause.writes cs := by
      simp [AnyClause.writes]
    rw [hwrites, List.cons_append]
    by_cases hk : c.kind = k
    · subst hk
      rw [AnyClause.write, lastWrite_cons_self, lastWrite_cons_self, Option.some_or]
    · rw [lastWrite_cons_of_ne hk, lastWrite_cons_of_ne hk, ih]

/-- Of the writes to different slots each is the newest to its own. -/
theorem lastWrite_map_append {ks : List ClauseKind} (slot : (k : ClauseKind) → Option (Clause k))
    (log : List Write) (k : ClauseKind) :
    lastWrite k (ks.map (fun j => ⟨j, slot j⟩) ++ log)
      = if k ∈ ks then slot k else lastWrite k log := by
  induction ks with
  | nil => rfl
  | cons j ks ih =>
    by_cases h : j = k
    · subst h
      simp [lastWrite]
    · rw [List.map_cons, List.cons_append, lastWrite_cons_of_ne h, ih]
      simp [Ne.symm h]

namespace ClauseMap

variable {m n : ClauseMap}

theorem Records.empty : Records [] empty :=
  fun _ => Clauses.get?_empty _

theorem Records.insert (h : Records log m) (c : AnyClause) :
    Records (c.write :: log) (m.insert c.clause) := by
  intro k
  by_cases hk : c.kind = k
  · subst hk
    rw [AnyClause.write, lastWrite_cons_self]
    exact Clauses.get?_insert_self c.kind.mem_all c.clause m
  · rw [lastWrite_cons_of_ne hk, ← h k]
    exact Clauses.get?_insert_of_ne hk c.clause m

theorem Records.remove (h : Records log m) (j : ClauseKind) :
    Records (⟨j, none⟩ :: log) (m.remove j) := by
  intro k
  by_cases hk : j = k
  · subst hk
    rw [lastWrite_cons_self]
    exact Clauses.get?_remove_self ClauseKind.nodup_all m
  · rw [lastWrite_cons_of_ne hk, ← h k]
    exact Clauses.get?_remove_of_ne hk m

theorem Records.insertAll (h : Records log m) (cs : List AnyClause) :
    Records (AnyClause.writes cs ++ log) (m.insertAll cs) := by
  induction cs generalizing m log with
  | nil => exact h
  | cons c cs ih =>
    have hwrites : AnyClause.writes (c :: cs) ++ log = AnyClause.writes cs ++ c.write :: log := by
      simp [AnyClause.writes]
    rw [hwrites]
    exact ih (h.insert c)

/-- The writes of a map's clauses say what the map holds. -/
theorem get?_eq_lastWrite (m : ClauseMap) (k : ClauseKind) :
    m.get? k = lastWrite k (AnyClause.writes m.toList) := by
  have hall := Records.empty.insertAll m.toList
  have hm : ClauseMap.empty.insertAll m.toList = m := Clauses.insertAll_toList ClauseKind.nodup_all m
  rw [hm, List.append_nil] at hall
  exact hall k

theorem Records.override (h : Records log m) (n : ClauseMap) :
    Records (AnyClause.writes n.toList ++ log) (m.override n) := by
  intro k
  rw [Clauses.get?_override, lastWrite_writes_append, ← get?_eq_lastWrite, h k]

theorem Records.mergeAll (h : Records log m) (others : List ClauseMap) :
    Records (AnyClause.writes (others.flatMap Clauses.toList) ++ log) (mergeAll (m :: others)) := by
  have hfirst : ClauseMap.empty.override m = m := Clauses.empty_override ClauseKind.nodup_all m
  rw [ClauseMap.mergeAll, List.foldl_cons, hfirst]
  induction others generalizing m log with
  | nil => exact h
  | cons n others ih =>
    have hwrites : AnyClause.writes ((n :: others).flatMap Clauses.toList) ++ log
        = AnyClause.writes (others.flatMap Clauses.toList) ++ (AnyClause.writes n.toList ++ log) := by
      simp [AnyClause.writes]
    rw [hwrites]
    exact ih (h.override n) (Clauses.empty_override ClauseKind.nodup_all _)

theorem Records.append (h : Records log m) {others : List ClauseMap}
    (happend : appendAll (m :: others) = .ok n) :
    Records (Operation.appendWrites log others ++ log) n := by
  intro k
  have hheld : held k (m :: others) = (lastWrite k log).toList ++ held k others := by
    rw [← h k, held, List.filterMap_cons]
    cases m.get? k <;> rfl
  rw [get?_appendAll happend, hheld, Operation.appendWrites, lastWrite_map_append]
  split
  · rfl
  · next hk =>
    have hnone : held k others = [] := by
      by_contra hsome
      exact hk (List.mem_filter.mpr ⟨k.mem_all, by simpa using hsome⟩)
    rw [hnone, List.append_nil, Clause.gatherAll_toList]

/-- The lookup of every kind decides all that can be asked. -/
theorem presents_of_get? {slots : (k : ClauseKind) → Option (Clause k)}
    (h : ∀ k, m.get? k = slots k) : m.Presents slots := by
  obtain rfl : (fun k => m.get? k) = slots := funext h
  have hlist := m.toList_eq_filterMap ClauseKind.nodup_all
  have hkinds : m.kinds = ClauseKind.all.filter fun k => (m.get? k).isSome :=
    m.kinds_eq_filter ClauseKind.nodup_all
  refine ⟨h, fun _ => rfl, hlist, hkinds, ?_, ?_, ?_, ?_⟩
  · have hall : ClauseKind.all.Pairwise fun j k => j.priority < k.priority := by decide
    exact hall.sublist m.kinds_sublist
  · intro c hc
    rw [hlist] at hc
    obtain ⟨k, -, hk⟩ := List.mem_filterMap.mp hc
    obtain ⟨d, hd, rfl⟩ := Option.map_eq_some_iff.mp hk
    exact hd
  · rw [List.countP_eq_length_filter, ← hkinds, Clauses.kinds, List.length_map, Clauses.size]
  · rw [Clauses.isEmpty, List.isEmpty_iff, hlist, List.filterMap_eq_nil_iff]
    constructor
    · intro hnone k
      simpa using hnone k k.mem_all
    · intro hnone k _
      simp [hnone k]

end ClauseMap

/-! ## Runs -/

namespace Operation

open ClauseMap (Records)

/-- One operation on a map and on its log. -/
theorem apply_records {m : ClauseMap} (h : Records log m) (op : Operation)
    {result : Option AnyClause × ClauseMap} (hop : op.apply m = .ok result) :
    result.1 = op.answer log ∧ Records (op.log log) result.2 := by
  cases op with
  | insert c =>
    simp only [apply, Clauses.getThenInsert_eq] at hop
    cases hop
    exact ⟨congrArg (Option.map (AnyClause.mk c.kind)) (h c.kind), h.insert c⟩
  | with_ c => cases hop; exact ⟨rfl, h.insert c⟩
  | remove k =>
    simp only [apply, Clauses.getThenRemove_eq] at hop
    cases hop
    exact ⟨congrArg (Option.map (AnyClause.mk k)) (h k), h.remove k⟩
  | extend cs => cases hop; exact ⟨rfl, h.insertAll cs⟩
  | collect cs =>
    cases hop
    refine ⟨rfl, ?_⟩
    have hall := Records.empty.insertAll cs
    rwa [List.append_nil] at hall
  | merge others => cases hop; exact ⟨rfl, h.mergeAll others⟩
  | append others =>
    cases hn : ClauseMap.appendAll (m :: others) with
    | error e => rw [apply, hn] at hop; cases hop
    | ok n =>
      rw [apply, hn] at hop
      cases hop
      exact ⟨rfl, h.append hn⟩

theorem run_records (ops : List Operation) {m : ClauseMap} (h : Records log m)
    {result : List (Option AnyClause) × ClauseMap} (hrun : run m ops = .ok result) :
    result.1 = (replay log ops).1 ∧ Records (replay log ops).2 result.2 := by
  induction ops generalizing m log result with
  | nil => cases hrun; exact ⟨rfl, h⟩
  | cons op ops ih =>
    rw [run] at hrun
    cases hfirst : op.apply m with
    | error e => rw [hfirst] at hrun; cases hrun
    | ok first =>
      obtain ⟨hanswer, hrecords⟩ := apply_records h op hfirst
      cases hrest : run first.2 ops with
      | error e => simp [hfirst, hrest, bind, Except.bind] at hrun
      | ok rest =>
        obtain ⟨hanswers, hall⟩ := ih hrecords hrest
        obtain rfl : (first.1 :: rest.1, rest.2) = result := by
          simpa [hfirst, hrest, bind, Except.bind, pure, Except.pure] using hrun
        exact ⟨congrArg₂ List.cons hanswer hanswers, hall⟩

/-- A run from the empty map gives back what the log has of each kind at the time, and ends with the
map that the log describes. Runs with the same last writes end with one map, whatever the operations
and their order, so with one statement or one error, and one document. -/
theorem presents_of_run :
    (∀ ops answers m, run .empty ops = .ok (answers, m) →
      answers = (replay [] ops).1 ∧ m.Presents fun k => lastWrite k (replay [] ops).2) ∧
    ∀ ops ops' answers answers' m m',
      run .empty ops = .ok (answers, m) → run .empty ops' = .ok (answers', m') →
      (∀ k, lastWrite k (replay [] ops).2 = lastWrite k (replay [] ops').2) →
      m = m' ∧ (∀ limit, m.render limit = m'.render limit) ∧ m.toJson = m'.toJson := by
  constructor
  · intro ops answers m hrun
    obtain ⟨hanswers, hrecords⟩ := run_records ops Records.empty hrun
    exact ⟨hanswers, ClauseMap.presents_of_get? hrecords⟩
  · intro ops ops' answers answers' m m' hrun hrun' hlast
    obtain ⟨-, hrecords⟩ := run_records ops Records.empty hrun
    obtain ⟨-, hrecords'⟩ := run_records ops' Records.empty hrun'
    obtain rfl : m = m' := by
      apply Clauses.ext_get? ClauseKind.nodup_all
      intro k
      exact (hrecords k).trans ((hlast k).trans (hrecords' k).symm)
    exact ⟨rfl, fun _ => rfl, rfl⟩

/-- Every operation once, against the same clauses put in from the last to the first. -/
theorem presents_of_run_mixed :
    let ops :=
      [collect [⟨_, .limit 1⟩, ⟨_, .where_ (.raw "x")⟩], insert ⟨_, .limit 2⟩, remove .limit,
        remove .limit, with_ ⟨_, .select [.raw "a"]⟩,
        extend [⟨_, .offset 3⟩, ⟨_, .forUpdate⟩, ⟨_, .offset 4⟩],
        merge [.ofList [⟨_, .offset 5⟩], .ofList [⟨_, .set []⟩]],
        append [.ofList [⟨_, .where_ (.raw "y")⟩, ⟨_, .select [.raw "b"]⟩],
          .ofList [⟨_, .where_ (.raw "z")⟩]]]
    let ops' :=
      [insert ⟨_, .forUpdate⟩, insert ⟨_, .offset 5⟩,
        insert ⟨_, .where_ (.and [.and [.raw "x", .raw "y"], .raw "z"])⟩, insert ⟨_, .set []⟩,
        insert ⟨_, .select [.raw "a", .raw "b"]⟩]
    let m := ClauseMap.ofList
      [⟨_, .select [.raw "a", .raw "b"]⟩, ⟨_, .set []⟩,
        ⟨_, .where_ (.and [.and [.raw "x", .raw "y"], .raw "z"])⟩, ⟨_, .offset 5⟩, ⟨_, .forUpdate⟩]
    let answers := [none, some ⟨_, .limit 1⟩, some ⟨_, .limit 2⟩, none, none, none, none, none]
    let m' := ClauseMap.ofList
      [⟨_, .forUpdate⟩, ⟨_, .offset 5⟩, ⟨_, .where_ (.and [.and [.raw "x", .raw "y"], .raw "z"])⟩,
        ⟨_, .set []⟩, ⟨_, .select [.raw "a", .raw "b"]⟩]
    run .empty ops = .ok (answers, m) ∧ run .empty ops' = .ok (List.replicate 5 none, m') ∧
      answers = (replay [] ops).1 ∧ (m.Presents fun k => lastWrite k (replay [] ops).2) ∧
      m = m' ∧ (∀ limit, m.render limit = m'.render limit) ∧ m.toJson = m'.toJson := by
  intro ops ops' m answers m'
  have hrun : run .empty ops = .ok (answers, m) := rfl
  have hrun' : run .empty ops' = .ok (List.replicate 5 none, m') := rfl
  have hlast : ∀ k, lastWrite k (replay [] ops).2 = lastWrite k (replay [] ops').2 := by
    intro k
    cases k <;> rfl
  obtain ⟨hanswers, hpresents⟩ := presents_of_run.1 ops answers m hrun
  exact ⟨hrun, hrun', hanswers, hpresents, presents_of_run.2 ops ops' _ _ m m' hrun hrun' hlast⟩

end Operation

end

end Clausal
