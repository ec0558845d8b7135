import Clausal.Query.Basic

/-!
# Operations on clause maps

Looking up, putting in and taking out clauses. `toList` gives the clauses in priority order; the
lookup of a kind says all there is to know of a slot.
-/

namespace Clausal

namespace Clauses

variable {ks : List ClauseKind}

/-- All slots empty. -/
def empty : (ks : List ClauseKind) → Clauses ks
  | [] => .nil
  | _ :: ks => .absent (empty ks)

/-- The clause in the slot of kind `k`. -/
def get? (k : ClauseKind) : {ks : List ClauseKind} → Clauses ks → Option (Clause k)
  | _, .nil => none
  | _ :: _, .absent (k := j) rest => if j = k then none else rest.get? k
  | _ :: _, .present (k := j) c rest => if h : j = k then some (h ▸ c) else rest.get? k

def contains (k : ClauseKind) (m : Clauses ks) : Bool :=
  (m.get? k).isSome

/-- Fill the slot of kind `k`. -/
def insert {k : ClauseKind} (c : Clause k) : {ks : List ClauseKind} → Clauses ks → Clauses ks
  | _, .nil => .nil
  | _ :: _, .absent (k := j) rest =>
    if h : k = j then .present (h ▸ c) rest else .absent (rest.insert c)
  | _ :: _, .present (k := j) d rest =>
    if h : k = j then .present (h ▸ c) rest else .present d (rest.insert c)

/-- Empty the slot of kind `k`. -/
def remove (k : ClauseKind) : {ks : List ClauseKind} → Clauses ks → Clauses ks
  | _, .nil => .nil
  | _ :: _, .absent (k := j) rest => if j = k then .absent rest else .absent (rest.remove k)
  | _ :: _, .present (k := j) c rest => if j = k then .absent rest else .present c (rest.remove k)

/-- Fill the slot of kind `k`, and give the clause that was in it. -/
def getThenInsert {k : ClauseKind} (c : Clause k) :
    {ks : List ClauseKind} → Clauses ks → Option (Clause k) × Clauses ks
  | _, .nil => (none, .nil)
  | _ :: _, .absent (k := j) rest =>
    if h : k = j then (none, .present (h ▸ c) rest)
    else
      let (old?, rest) := rest.getThenInsert c
      (old?, .absent rest)
  | _ :: _, .present (k := j) d rest =>
    if h : k = j then (some (h ▸ d), .present (h ▸ c) rest)
    else
      let (old?, rest) := rest.getThenInsert c
      (old?, .present d rest)

/-- Empty the slot of kind `k`, and give the clause that was in it. -/
def getThenRemove (k : ClauseKind) :
    {ks : List ClauseKind} → Clauses ks → Option (Clause k) × Clauses ks
  | _, .nil => (none, .nil)
  | _ :: _, .absent (k := j) rest =>
    if j = k then (none, .absent rest)
    else
      let (old?, rest) := rest.getThenRemove k
      (old?, .absent rest)
  | _ :: _, .present (k := j) c rest =>
    if h : j = k then (some (h ▸ c), .absent rest)
    else
      let (old?, rest) := rest.getThenRemove k
      (old?, .present c rest)

/-- The clauses in priority order. -/
def toList : {ks : List ClauseKind} → Clauses ks → List AnyClause
  | _, .nil => []
  | _ :: _, .absent rest => rest.toList
  | _ :: _, .present c rest => ⟨_, c⟩ :: rest.toList

/-- The kinds of the clauses, in priority order. -/
def kinds (m : Clauses ks) : List ClauseKind :=
  m.toList.map AnyClause.kind

def size (m : Clauses ks) : Nat :=
  m.toList.length

def isEmpty (m : Clauses ks) : Bool :=
  m.toList.isEmpty

/-- Put in clauses one after the other. -/
def insertAll (m : Clauses ks) (cs : List AnyClause) : Clauses ks :=
  cs.foldl (fun m c => m.insert c.clause) m

/-- The clauses of both maps; where both have a clause of a kind, that of the second. -/
def override : {ks : List ClauseKind} → Clauses ks → Clauses ks → Clauses ks
  | _, .nil, .nil => .nil
  | _ :: _, .absent a, .absent b => .absent (a.override b)
  | _ :: _, .present c a, .absent b => .present c (a.override b)
  | _ :: _, .absent a, .present d b => .present d (a.override b)
  | _ :: _, .present _ a, .present d b => .present d (a.override b)

end Clauses

namespace ClauseMap

def empty : ClauseMap :=
  Clauses.empty ClauseKind.all

/-- The map of the given clauses; of clauses of one kind the last counts. -/
def ofList (cs : List AnyClause) : ClauseMap :=
  empty.insertAll cs

/-- The map of a single clause. -/
def single {k : ClauseKind} (c : Clause k) : ClauseMap :=
  empty.insert c

end ClauseMap

end Clausal
