import Clausal.Query.ClauseMap
import Clausal.Query.Error

/-!
# Combining clause maps

A merge keeps, of each kind, the clause of the last map that has one. An append accumulates: lists
are joined end to end, rows of values are joined row by row, and conditions are connected by and.
-/

namespace Clausal

/-! ## Merge -/

def ClauseMap.mergeAll (maps : List ClauseMap) : ClauseMap :=
  maps.foldl Clauses.override ClauseMap.empty

/-! ## Append -/

/-- Join two clauses of one kind. -/
def Clause.append : {k : ClauseKind} → Clause k → Clause k → Except QueryError (Clause k)
  | _, .columns a, .columns b => .ok (.columns (a ++ b))
  | _, .values a, .values b =>
    if a.length = b.length then .ok (.values (List.zipWith (· ++ ·) a b))
    else .error (.valuesShapeMismatch a.length b.length)
  | _, .where_ a, .where_ b => .ok (.where_ (.and [a, b]))
  | _, .having a, .having b => .ok (.having (.and [a, b]))
  | _, .set a, .set b => .ok (.set (a ++ b))
  | _, .orderBy a, .orderBy b => .ok (.orderBy (a ++ b))
  | _, .select a, .select b => .ok (.select (a ++ b))
  | _, .join a, .join b => .ok (.join (a ++ b))
  | _, .groupBy a, .groupBy b => .ok (.groupBy (a ++ b))
  | k, _, _ => .error (.unsupportedAppend [k])

/-- Append the second map onto the first, slot by slot in priority order. A clause without
counterpart is kept as it is. -/
def Clauses.append : {ks : List ClauseKind} → Clauses ks → Clauses ks →
    Except QueryError (Clauses ks)
  | _, .nil, .nil => .ok .nil
  | _ :: _, .absent a, .absent b => do return .absent (← a.append b)
  | _ :: _, .present c a, .absent b => do return .present c (← a.append b)
  | _ :: _, .absent a, .present d b => do return .present d (← a.append b)
  | _ :: _, .present c a, .present d b => do
    let e ← c.append d
    return .present e (← a.append b)

/-- The kinds in a map that an append does not accumulate. -/
def Clauses.unappendable {ks : List ClauseKind} (m : Clauses ks) : List ClauseKind :=
  m.kinds.filter fun k => !k.isAppendable

namespace ClauseMap

/-- Append `next` onto `acc`; all clauses of `next` have to be of appendable kinds. -/
def appendNext (acc next : ClauseMap) : Except QueryError ClauseMap :=
  if next.unappendable.isEmpty then acc.append next
  else .error (.unsupportedAppend next.unappendable)

/-- Append the later maps onto the first one, which may hold clauses of any kind. -/
def appendAll : List ClauseMap → Except QueryError ClauseMap
  | [] => .ok empty
  | first :: rest => rest.foldlM appendNext first

end ClauseMap

end Clausal
