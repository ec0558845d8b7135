import Clausal.Proofs.Document.ReadBack
import Clausal.Proofs.Statement.Rendering

/-!
# Round trips of clause maps

A clause map that is written as a document and read again comes back, unless one of its groups has
no operands: such a group can be rendered, but not read.
-/

namespace Clausal

/-- The mark of a group or a case expression without operands. -/
def Mark.isHollow : Mark → Bool
  | .hollow _ => true
  | _ => false

namespace Clauses

/-- The conjunctions, disjunctions and case expressions of the map all have operands. -/
def isFilled {ks : List ClauseKind} (m : Clauses ks) : Bool :=
  m.traversal.all (!·.isHollow)

theorem readsBack_toJson (limit : DepthLimit) (m : ClauseMap) :
    ReadsBack limit m.traversal (m.mapParams Param.viaJson) (ClauseMap.ofJson limit m.toJson) := by
  obtain ⟨cs, hcs, hperm⟩ := m.exists_ofFields_eq
  rw [toJson, hcs, ClauseMap.ofJson]
  apply (ReadsBack.clauses hperm (m.readsBack limit 0)).congr
  rw [traversal, Mark.ofEmptiness]
  split <;> rfl

theorem all_isReadable_unbounded {ks : List ClauseKind} (m : Clauses ks) :
    m.traversal.all (Mark.isReadable .unbounded) = m.isFilled := by
  have hmark : Mark.isReadable .unbounded = (!·.isHollow) := by
    funext m
    cases m <;> rfl
  rw [hmark, isFilled]

end Clauses

/-- The round trip without a depth limit. What does not come back are the parameters that share the
JSON form of another, and rendering has the same outcome with those. -/
theorem ClauseMap.ofJson_toJson (m : ClauseMap) :
    (m.isFilled = true → ofJson .unbounded m.toJson = .ok (m.mapParams Param.viaJson)) ∧
      (m.isFilled = false → ∃ fault, ofJson .unbounded m.toJson = .error (.malformed fault)) ∧
      ((∀ p ∈ m.params, p.isPlain = true) → m.mapParams Param.viaJson = m) ∧
      ∀ limit, ((m.mapParams Param.viaJson).render limit).map Statement.text
        = (m.render limit).map Statement.text := by
  have hread := m.readsBack_toJson .unbounded
  refine ⟨?_, ?_, ?_, ?_⟩
  · intro h
    exact hread.eq_ok (m.all_isReadable_unbounded.trans h)
  · intro h
    obtain ⟨e, he, hrefusal⟩ := hread.exists_eq_error (m.all_isReadable_unbounded.trans h)
    -- Without a limit no depth is exceeded, so a group without operands is at fault.
    cases e with
    | malformed fault => exact ⟨fault, he⟩
    | _ => cases hrefusal
  · intro h
    apply m.mapParams_eq_self
    intro p hp
    apply Param.viaJson_of_isPlain
    exact h p (List.mem_filterMap.mpr ⟨_, List.mem_append_right _ hp, rfl⟩)
  · intro limit
    exact m.text_render_mapParams Param.viaJson limit

/-- An infinity and a text bound as a JSON value come back as others; a conjunction without operands
deep inside does not come back at all. -/
theorem ClauseMap.ofJson_toJson_lossy :
    let bound := ofList
      [⟨_, .select [.param (.float ⟨0x7ff0000000000000⟩), .param (.json (.string "a"))]⟩,
        ⟨_, .where_ (.and [.raw "b"])⟩]
    let hollow := ofList [⟨_, .from_ (.derived (ofList [⟨_, .having (.and [])⟩]) none)⟩]
    bound.isFilled = true ∧ bound.params.map Param.viaJson = [.null, .text "a"] ∧
      ofJson .unbounded bound.toJson = .ok (bound.mapParams Param.viaJson) ∧
      hollow.isFilled = false ∧
      ∃ fault, ofJson .unbounded hollow.toJson = .error (.malformed fault) := by
  intro bound hollow
  exact ⟨rfl, rfl, (ofJson_toJson bound).1 rfl, rfl, (ofJson_toJson hollow).2.1 rfl⟩

end Clausal
