import Clausal.Proofs.Statement.Rendering

/-!
# Parameters stay out of the text

Two clause maps that differ in their parameters alone render alike: with the same error, or to the
same text with values that stand at the same places of the two maps. Places are positions in the
traversal, which maps of this kind have in common.
-/

namespace Clausal

/-! ## Two lists of marks -/

namespace Mark

/-- The parameters at a place of two traversals. -/
def pair? : Mark × Mark → Option (Param × Param)
  | (param p, param q) => some (p, q)
  | _ => none

theorem eq_or_params_of_mapParam_eq {c : Param} {m n : Mark}
    (h : m.mapParam (fun _ => c) = n.mapParam (fun _ => c)) :
    (∃ p q, m = param p ∧ n = param q) ∨ (m = n ∧ m.param? = none) := by
  cases m <;> cases n <;> simp_all [mapParam, param?]

/-- Lists with the same marks but for the parameters have their parameters at the same places. -/
theorem zip_filterMap_of_map_eq {c : Param} {ms ns : List Mark}
    (h : ms.map (mapParam fun _ => c) = ns.map (mapParam fun _ => c)) :
    (ms.filterMap param?).length = (ns.filterMap param?).length ∧
      (ms.filterMap param?).zip (ns.filterMap param?) = (ms.zip ns).filterMap pair? := by
  induction ms generalizing ns with
  | nil =>
    cases ns with
    | nil => exact ⟨rfl, rfl⟩
    | cons n ns => cases h
  | cons m ms ih =>
    cases ns with
    | nil => cases h
    | cons n ns =>
      obtain ⟨hhead, htail⟩ := List.cons.inj h
      obtain ⟨hlength, hzip⟩ := ih htail
      obtain ⟨p, q, rfl, rfl⟩ | ⟨rfl, hm⟩ := eq_or_params_of_mapParam_eq hhead
      · simp [param?, pair?, hlength, hzip]
      · have hpair : pair? (m, m) = none := by
          cases m with
          | param p => cases hm
          | _ => rfl
        simp [hm, hpair, hlength, hzip]

end Mark

/-! ## Two clause maps -/

namespace Clauses

variable {ks : List ClauseKind}

/-- The clause map with nothing left of its parameters but their places. -/
def eraseParams (m : Clauses ks) : Clauses ks :=
  m.mapParams fun _ => .null

/-- The parameters that stand at the same place of two clause maps, place after place. -/
def paramPairs (a b : Clauses ks) : List (Param × Param) :=
  (a.traversal.zip b.traversal).filterMap Mark.pair?

theorem traversal_eq_of_eraseParams_eq {a b : Clauses ks} (h : a.eraseParams = b.eraseParams) :
    a.traversal.map (Mark.mapParam fun _ => .null)
      = b.traversal.map (Mark.mapParam fun _ => .null) := by
  rw [← traversal_mapParams, ← traversal_mapParams]
  exact congrArg traversal h

theorem text_render_eq_of_eraseParams_eq {a b : Clauses ks} (h : a.eraseParams = b.eraseParams)
    (limit : DepthLimit) :
    (a.render limit).map Statement.text = (b.render limit).map Statement.text := by
  have herased := congrArg (fun m => (m.render limit).map Statement.text) h
  simpa only [eraseParams, text_render_mapParams] using herased

/-- What is bound does not reach the text, nor the decision whether there is a text. -/
theorem render_congr_of_eraseParams_eq {a b : ClauseMap} (h : a.eraseParams = b.eraseParams)
    (limit : DepthLimit) :
    (∃ e, a.render limit = .error e ∧ b.render limit = .error e) ∨
      ∃ s t, a.render limit = .ok s ∧ b.render limit = .ok t ∧ s.text = t.text ∧
        s.values.length = t.values.length ∧ s.values.zip t.values = a.paramPairs b := by
  -- Texts and errors agree, so either both maps render or none does.
  have htext := text_render_eq_of_eraseParams_eq h limit
  obtain ⟨hlength, hzip⟩ := Mark.zip_filterMap_of_map_eq (traversal_eq_of_eraseParams_eq h)
  cases ha : a.render limit with
  | error e =>
    cases hb : b.render limit with
    | error e' => rw [ha, hb] at htext; exact .inl ⟨e, rfl, by cases htext; rfl⟩
    | ok t => rw [ha, hb] at htext; cases htext
  | ok s =>
    cases hb : b.render limit with
    | error e' => rw [ha, hb] at htext; cases htext
    | ok t =>
      rw [ha, hb] at htext
      refine .inr ⟨s, t, rfl, rfl, Except.ok.inj htext, ?_, ?_⟩
      · rw [values_of_render ha, values_of_render hb]
        exact hlength
      · rw [values_of_render ha, values_of_render hb]
        exact hzip

/-- A text with a quote, a placeholder and a comment in it against a number. -/
theorem render_congr_of_eraseParams_eq_texts :
    let a := ClauseMap.ofList
      [⟨_, .from_ (.named "t" none)⟩,
        ⟨_, .where_ (.inList false (.ident "x") [.param (.text "' OR $1 --"), .raw "1"])⟩]
    let b := ClauseMap.ofList
      [⟨_, .from_ (.named "t" none)⟩,
        ⟨_, .where_ (.inList false (.ident "x") [.param (.int 7), .raw "1"])⟩]
    a.eraseParams = b.eraseParams ∧ a.paramPairs b = [(.text "' OR $1 --", .int 7)] ∧
      ((∃ e, a.render (some 0) = .error e ∧ b.render (some 0) = .error e) ∨
        ∃ s t, a.render (some 0) = .ok s ∧ b.render (some 0) = .ok t ∧ s.text = t.text ∧
          s.values.length = t.values.length ∧ s.values.zip t.values = a.paramPairs b) := by
  intro a b
  have h : a.eraseParams = b.eraseParams := rfl
  exact ⟨h, rfl, render_congr_of_eraseParams_eq h (some 0)⟩

end Clauses

end Clausal
