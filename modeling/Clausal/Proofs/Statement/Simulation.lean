import Clausal.Proofs.Statement.Piece
import Clausal.Proofs.Text.Cut

/-!
# What the writing actions come to

Each action that writes a part of a clause map is told apart from the others by two lists: the marks
of the part, the first of which with a fault is the error of the action, and the pieces of the part,
which are what the action adds to the writer when there is no fault. `Action.Performs` says so, the
rules below give it for the combinators, and `Clauses.render_eq` draws the conclusion for
rendering.
-/

namespace Clausal

/-! ## Faults -/

/-- The error that writing ends with at a mark. -/
def Mark.fault? (limit : DepthLimit) : Mark → Option QueryError
  | .enter depth =>
    match limit with
    | some n => if n < depth then some (.depthExceeded n) else none
    | none => none
  | .emptyMap => some .emptyClauseMap
  | .hollow .caseWhen => some (.malformed .noOperands)
  | _ => none

def firstFault (limit : DepthLimit) (ms : List Mark) : Option QueryError :=
  ms.findSome? (Mark.fault? limit)

@[simp] theorem firstFault_append (limit : DepthLimit) (ms ns : List Mark) :
    firstFault limit (ms ++ ns) = (firstFault limit ms).or (firstFault limit ns) :=
  List.findSome?_append

/-- What is bound is no fault. -/
theorem firstFault_map (limit : DepthLimit) (f : Param → Param) (ms : List Mark) :
    firstFault limit (ms.map (Mark.mapParam f)) = firstFault limit ms := by
  have hmark : ∀ m : Mark, (m.mapParam f).fault? limit = m.fault? limit := fun m => by
    cases m <;> rfl
  simp [firstFault, List.findSome?_map, Function.comp_def, hmark]

/-! ## Adding pieces to a writer -/

namespace Piece

theorem textFrom_append (n : Nat) (ps qs : List Piece) :
    textFrom n (ps ++ qs) = textFrom n ps ++ textFrom (n + (ps.filterMap param?).length) qs := by
  induction ps generalizing n with
  | nil => simp [textFrom]
  | cons p ps ih =>
    cases p with
    | text s => simp [textFrom, ih, List.filterMap_cons, param?, String.append_assoc]
    | param p => simp [textFrom, ih, param?, String.append_assoc, Nat.add_assoc, Nat.add_comm 1]

theorem textFrom_eq_empty_iff {n : Nat} {ps : List Piece} :
    textFrom n ps = "" ↔ silent ps = true := by
  induction ps generalizing n with
  | nil => simp [textFrom, silent]
  | cons p ps ih =>
    cases p with
    | text s => simp_all [textFrom, silent]
    | param p => simp [textFrom, silent, Action.placeholder]

theorem filterMap_param?_of_silent {ps : List Piece} (h : silent ps = true) :
    ps.filterMap param? = [] := by
  simp only [silent, List.all_eq_true, beq_iff_eq] at h
  exact List.filterMap_eq_nil_iff.mpr fun p hp => by rw [h p hp]; rfl

end Piece

/-- The writer with pieces added; their parameters are numbered on from those it has. -/
def Writer.emit (w : Writer) (ps : List Piece) : Writer :=
  { w with
    text := w.text ++ Piece.textFrom w.params.size ps
    params := w.params ++ (ps.filterMap Piece.param?).toArray }

namespace Writer

@[simp] theorem emit_limit (w : Writer) (ps : List Piece) : (w.emit ps).limit = w.limit := rfl

@[simp] theorem emit_depth (w : Writer) (ps : List Piece) : (w.emit ps).depth = w.depth := rfl

@[simp] theorem emit_nil (w : Writer) : w.emit [] = w := by
  simp [emit, Piece.textFrom]

theorem emit_emit (w : Writer) (ps qs : List Piece) :
    (w.emit ps).emit qs = w.emit (ps ++ qs) := by
  simp [emit, Piece.textFrom_append, String.append_assoc]

theorem emit_of_silent (w : Writer) {ps : List Piece} (h : Piece.silent ps = true) :
    w.emit ps = w := by
  simp [emit, Piece.textFrom_eq_empty_iff.mpr h, Piece.filterMap_param?_of_silent h]

/-- The text is cut back to what it was, and the parameters stay. -/
theorem truncate_emit (w : Writer) (ps : List Piece) :
    (w.emit ps).truncate w.text.utf8ByteSize = { w.emit ps with text := w.text } := by
  rw [truncate, emit, cutText_append]

/-- Texts only grow, so the sizes before and after tell whether anything was written. -/
theorem emit_size_eq_iff (w : Writer) (ps : List Piece) :
    (w.emit ps).text.utf8ByteSize = w.text.utf8ByteSize ↔ Piece.silent ps = true := by
  rw [← Piece.textFrom_eq_empty_iff (n := w.params.size), ← String.utf8ByteSize_eq_zero_iff]
  simp only [emit, String.utf8ByteSize_append]
  omega

end Writer

/-! ## Actions -/

/-- What an action comes to, by the marks and the pieces of the part that it writes. The marks
depend on the depth at which the part stands. -/
structure Action.Performs (a : Action) (ms : Nat → List Mark) (ps : List Piece) : Prop where
  fault : ∀ w, (a w).2 = firstFault w.limit (ms w.depth)
  written : ∀ w, (a w).2 = none → (a w).1 = w.emit ps
  /-- An action that fails has added pieces too, if not all of them. -/
  framed : ∀ w, ∃ qs, (a w).1 = w.emit qs
  params : ∀ d, (ms d).filterMap Mark.param? = ps.filterMap Piece.param?
  /-- Without a limit it makes no difference at which depth the part stands. -/
  anyDepth : ∀ d d', firstFault .unbounded (ms d) = firstFault .unbounded (ms d')

namespace Action.Performs

variable {a b : Action} {ms ns : Nat → List Mark} {ps qs : List Piece}

theorem skip : Performs skip (fun _ => []) [] where
  fault _ := rfl
  written w _ := w.emit_nil.symm
  framed w := ⟨[], w.emit_nil.symm⟩
  params _ := rfl
  anyDepth _ _ := rfl

theorem put (s : String) : Performs (put s) (fun _ => []) [.text s] where
  fault _ := rfl
  written w _ := by simp [Action.put, Writer.emit, Piece.textFrom, Piece.param?]
  framed w := ⟨[.text s], by simp [Action.put, Writer.emit, Piece.textFrom, Piece.param?]⟩
  params _ := rfl
  anyDepth _ _ := rfl

theorem bind (p : Param) : Performs (bind p) (fun _ => [.param p]) [.param p] where
  fault _ := rfl
  written w _ := by simp [Action.bind, Writer.emit, Piece.textFrom, Piece.param?]
  framed w := ⟨[.param p], by simp [Action.bind, Writer.emit, Piece.textFrom, Piece.param?]⟩
  params _ := rfl
  anyDepth _ _ := rfl

theorem fail (e : QueryError) {m : Mark} (h : ∀ limit, m.fault? limit = some e)
    (hm : m.param? = none) (hps : ps.filterMap Piece.param? = []) :
    Performs (fail e) (fun _ => [m]) ps where
  fault w := by simp [Action.fail, firstFault, h]
  written w hok := by cases hok
  framed w := ⟨[], w.emit_nil.symm⟩
  params _ := by simp [hm, hps]
  anyDepth _ _ := rfl

/-- Marks without faults and parameters may be put in and left out. -/
theorem marks_congr (h : Performs a ms ps)
    (hf : ∀ limit d, firstFault limit (ns d) = firstFault limit (ms d))
    (hp : ∀ d, (ns d).filterMap Mark.param? = (ms d).filterMap Mark.param?) :
    Performs a ns ps where
  fault w := (h.fault w).trans (hf w.limit w.depth).symm
  written := h.written
  framed := h.framed
  params d := (hp d).trans (h.params d)
  anyDepth d d' := by rw [hf, hf, h.anyDepth]

/-- A text with a mark of its own. -/
theorem putMark (s : String) {m : Mark} (h : ∀ limit, m.fault? limit = none)
    (hm : m.param? = none) : Performs (Action.put s) (fun _ => [m]) [.text s] :=
  (put s).marks_congr (fun limit _ => by simp [firstFault, h]) (fun _ => by simp [hm])

theorem andThen (ha : Performs a ms ps) (hb : Performs b ns qs) :
    Performs (a.andThen b) (fun d => ms d ++ ns d) (ps ++ qs) where
  fault w := by
    have hf := ha.fault w
    have hw := ha.written w
    rcases hr : a w with ⟨v, e⟩
    cases e with
    | none =>
      simp only [hr] at hf hw
      simp [Action.andThen, hr, ← hf, hw trivial, hb.fault]
    | some e =>
      simp only [hr] at hf
      simp [Action.andThen, hr, ← hf]
  written w := by
    have hw := ha.written w
    rcases hr : a w with ⟨v, e⟩
    cases e with
    | none =>
      simp only [hr] at hw
      intro h
      simp only [Action.andThen, hr] at h ⊢
      rw [hb.written v h, hw trivial, Writer.emit_emit]
    | some e => simp [Action.andThen, hr]
  framed w := by
    obtain ⟨rs, hrs⟩ := ha.framed w
    rcases hr : a w with ⟨v, e⟩
    simp only [hr] at hrs
    cases e with
    | none =>
      obtain ⟨rs', hrs'⟩ := hb.framed v
      exact ⟨rs ++ rs', by rw [Action.andThen, hr, ← Writer.emit_emit, ← hrs, ← hrs']⟩
    | some e => exact ⟨rs, by simp [Action.andThen, hr, hrs]⟩
  params d := by rw [List.filterMap_append, List.filterMap_append, ha.params, hb.params]
  anyDepth d d' := by rw [firstFault_append, firstFault_append, ha.anyDepth d d', hb.anyDepth d d']

theorem nested_of_fault {w : Writer} {e : QueryError}
    (h : Mark.fault? w.limit (.enter (w.depth + 1)) = some e) :
    Action.nested a w = (w, some e) := by
  rcases w with ⟨text, params, depth, _ | n⟩
  · simp [Mark.fault?] at h
  · simp only [Mark.fault?, Option.ite_none_right_eq_some, Option.some.injEq] at h
    simp [Action.nested, h.1, h.2]

theorem nested_of_no_fault {w : Writer} (h : Mark.fault? w.limit (.enter (w.depth + 1)) = none) :
    Action.nested a w =
      ({ (a { w with depth := w.depth + 1 }).1 with
          depth := (a { w with depth := w.depth + 1 }).1.depth - 1 },
        (a { w with depth := w.depth + 1 }).2) := by
  rcases w with ⟨text, params, depth, _ | n⟩
  · rfl
  · have hn : ¬ n < depth + 1 := by simpa [Mark.fault?] using h
    simp [Action.nested, hn]

/-- The depth counts inside only: afterwards it is what it was. -/
theorem nested (h : Performs a ms ps) :
    Performs (nested a) (fun d => .enter (d + 1) :: ms (d + 1)) ps where
  fault w := by
    rw [firstFault, List.findSome?_cons]
    cases he : Mark.fault? w.limit (.enter (w.depth + 1)) with
    | none => rw [nested_of_no_fault he, h.fault]; rfl
    | some e => rw [nested_of_fault he]
  written w := by
    cases he : Mark.fault? w.limit (.enter (w.depth + 1)) with
    | none =>
      rw [nested_of_no_fault he]
      intro hok
      rw [h.written _ hok]
      rfl
    | some e => simp [nested_of_fault he]
  framed w := by
    cases he : Mark.fault? w.limit (.enter (w.depth + 1)) with
    | none =>
      obtain ⟨qs, hqs⟩ := h.framed { w with depth := w.depth + 1 }
      exact ⟨qs, by rw [nested_of_no_fault he, hqs]; rfl⟩
    | some e => exact ⟨[], by rw [nested_of_fault he, Writer.emit_nil]⟩
  params d := (List.filterMap_cons_none rfl).trans (h.params (d + 1))
  -- A clause map is entered without a fault at every depth.
  anyDepth d d' := h.anyDepth (d + 1) (d' + 1)

end Action.Performs

/-! ## Lists of actions -/

/-- What the actions of a list come to, one after the other. -/
inductive Action.PerformAll : List Action → (Nat → List Mark) → List (List Piece) → Prop where
  | nil : PerformAll [] (fun _ => []) []
  | cons {a as ms ns ps pss} : a.Performs ms ps → PerformAll as ns pss →
    PerformAll (a :: as) (fun d => ms d ++ ns d) (ps :: pss)

namespace Action.PerformAll

variable {as : List Action} {ms : Nat → List Mark} {pss : List (List Piece)}

theorem all (h : PerformAll as ms pss) : Performs (.all as) ms pss.flatten := by
  induction h with
  | nil => exact .skip
  | cons ha _ ih => exact ha.andThen ih

theorem separated (separator : String) (h : PerformAll as ms pss) :
    Performs (separated separator as) ms (Piece.joined separator pss) := by
  -- No separator follows the last action, so the list is taken apart twice.
  induction h with
  | nil => exact .skip
  | cons ha hs ih =>
    cases hs with
    | nil => simpa [Action.separated, Piece.joined] using ha
    | cons hb hs =>
      have hrest := (Performs.put separator).andThen ih
      simpa [Action.separated, Piece.joined, List.intercalate_cons_cons] using ha.andThen hrest

theorem keywordList (keyword : String) (h : PerformAll as ms pss) :
    Performs (keywordList keyword as) ms (Piece.keywordList keyword pss) := by
  cases h with
  | nil => exact .put keyword
  | cons ha hs =>
    have hitems := (PerformAll.cons ha hs).separated ", "
    simpa [Clausal.keywordList, Piece.keywordList] using
      (PerformAll.cons (.put keyword) (.cons (.put " ") (.cons hitems .nil))).all

theorem group (operator neutral : String) (h : PerformAll as ms pss) :
    Performs (group operator neutral as) ms (Piece.group operator neutral pss) := by
  cases h with
  | nil => exact .put neutral
  | cons ha hs =>
    have hoperands := (PerformAll.cons ha hs).separated operator
    simpa [Clausal.group, Piece.group] using
      (PerformAll.cons (.put "(") (.cons hoperands (.cons (.put ")") .nil))).all

end Action.PerformAll

/-! ## Clauses with blanks between them

The writer puts the blank before a clause is written and takes it back when the clause comes to no
text; the pieces drop such clauses beforehand. -/

namespace Piece

/-- What comes before a clause: a blank, unless no clause has come to some text yet. -/
def blank (first : Bool) : List Piece :=
  if first then [] else [text " "]

/-- The clauses that come to some text, when clauses with text may stand before them. -/
def phrasesFrom (first : Bool) (clauses : List (List Piece)) : List Piece :=
  if first then phrases clauses else (clauses.filter (!silent ·)).flatMap (text " " :: ·)

theorem joined_cons (separator : String) (ps : List Piece) (pss : List (List Piece)) :
    joined separator (ps :: pss) = ps ++ pss.flatMap (text separator :: ·) := by
  induction pss generalizing ps with
  | nil => simp [joined]
  | cons qs pss ih =>
    rw [joined, List.intercalate_cons_cons, ← joined, ih]
    simp

theorem phrasesFrom_cons_of_silent {first : Bool} {ps : List Piece} {pss : List (List Piece)}
    (h : silent ps = true) : phrasesFrom first (ps :: pss) = phrasesFrom first pss := by
  simp [phrasesFrom, phrases, h]

theorem phrasesFrom_cons {first : Bool} {ps : List Piece} {pss : List (List Piece)}
    (h : silent ps = false) :
    phrasesFrom first (ps :: pss) = blank first ++ ps ++ phrasesFrom false pss := by
  cases first <;> simp [phrasesFrom, phrases, blank, h, joined_cons]

end Piece

namespace Action

variable {a : Action} {ms : Nat → List Mark} {ps : List Piece}

theorem phrases_cons (as : List Action) (first : Bool) (w : Writer) : phrases first (a :: as) w =
    match a (w.emit (Piece.blank first)) with
    | (after, some e) => (after, some e)
    | (after, none) =>
      if after.text.utf8ByteSize = (w.emit (Piece.blank first)).text.utf8ByteSize then
        phrases first as (after.truncate w.text.utf8ByteSize)
      else phrases false as after := by
  have hbefore : w.emit (Piece.blank first)
      = if first then w else { w with text := w.text ++ " " } := by
    cases first <;> simp [Piece.blank, Writer.emit, Piece.textFrom, Piece.param?]
  rw [hbefore]
  rfl

/-- One clause is written in one of three ways: it fails, it comes to no text and leaves the writer
as it was, or it is added after a blank. -/
theorem phrases_step (ha : a.Performs ms ps) (as : List Action) (first : Bool) (w : Writer) :
    (∃ e qs, firstFault w.limit (ms w.depth) = some e ∧
      phrases first (a :: as) w = (w.emit qs, some e)) ∨
    (firstFault w.limit (ms w.depth) = none ∧ Piece.silent ps = true ∧
      phrases first (a :: as) w = phrases first as w) ∨
    (firstFault w.limit (ms w.depth) = none ∧ Piece.silent ps = false ∧
      phrases first (a :: as) w = phrases false as (w.emit (Piece.blank first ++ ps))) := by
  have hf := ha.fault (w.emit (Piece.blank first))
  rw [Writer.emit_limit, Writer.emit_depth] at hf
  cases he : firstFault w.limit (ms w.depth) with
  | some e =>
    obtain ⟨qs, hqs⟩ := ha.framed (w.emit (Piece.blank first))
    have hrun : a (w.emit (Piece.blank first)) = (w.emit (Piece.blank first ++ qs), some e) :=
      Prod.ext (hqs.trans (Writer.emit_emit w _ _)) (hf.trans he)
    exact .inl ⟨e, _, rfl, by rw [phrases_cons, hrun]⟩
  | none =>
    have hrun : a (w.emit (Piece.blank first)) = ((w.emit (Piece.blank first)).emit ps, none) :=
      Prod.ext (ha.written _ (hf.trans he)) (hf.trans he)
    have hsize := Writer.emit_size_eq_iff (w.emit (Piece.blank first)) ps
    cases hs : Piece.silent ps with
    | true =>
      have hback : (w.emit (Piece.blank first)).truncate w.text.utf8ByteSize = w := by
        rw [Writer.truncate_emit]
        cases first <;> simp [Piece.blank, Writer.emit, Piece.param?, List.filterMap_cons]
      refine .inr (.inl ⟨rfl, rfl, ?_⟩)
      rw [phrases_cons, hrun]
      simp only [if_true, Writer.emit_of_silent _ hs, hback]
    | false =>
      rw [hs, Bool.false_eq_true, iff_false] at hsize
      refine .inr (.inr ⟨rfl, rfl, ?_⟩)
      rw [phrases_cons, hrun]
      simp only [if_neg hsize]
      rw [Writer.emit_emit]

theorem PerformAll.phrases {as : List Action} {pss : List (List Piece)}
    (h : PerformAll as ms pss) :
    ∀ first, Performs (phrases first as) ms (Piece.phrasesFrom first pss) := by
  -- By induction on the clauses, for either answer to whether some text stands before them.
  induction h with
  | nil =>
    intro first
    cases first <;> exact .skip
  | @cons a as ms ns ps pss ha _ ih =>
    intro first
    refine ⟨fun w => ?_, fun w => ?_, fun w => ?_, fun d => ?_, fun d d' => ?_⟩
    · rw [firstFault_append]
      obtain ⟨e, qs, he, hrun⟩ | ⟨he, -, hrun⟩ | ⟨he, -, hrun⟩ := phrases_step ha as first w
      · simp [hrun, he]
      · simp [hrun, he, (ih first).fault]
      · simp [hrun, he, (ih false).fault]
    · obtain ⟨e, qs, he, hrun⟩ | ⟨-, hs, hrun⟩ | ⟨-, hs, hrun⟩ := phrases_step ha as first w
      · simp [hrun]
      · rw [hrun, Piece.phrasesFrom_cons_of_silent hs]
        exact (ih first).written w
      · rw [hrun, Piece.phrasesFrom_cons hs]
        intro hok
        rw [(ih false).written _ hok, Writer.emit_emit]
    · obtain ⟨e, qs, he, hrun⟩ | ⟨-, -, hrun⟩ | ⟨-, -, hrun⟩ := phrases_step ha as first w
      · exact ⟨qs, by rw [hrun]⟩
      · rw [hrun]
        exact (ih first).framed w
      · obtain ⟨qs, hqs⟩ := (ih false).framed (w.emit (Piece.blank first ++ ps))
        exact ⟨_, by rw [hrun, hqs, Writer.emit_emit]⟩
    · rw [List.filterMap_append, ha.params]
      cases hs : Piece.silent ps with
      | true =>
        rw [Piece.phrasesFrom_cons_of_silent hs, Piece.filterMap_param?_of_silent hs,
          List.nil_append, (ih first).params]
      | false =>
        rw [Piece.phrasesFrom_cons hs, List.filterMap_append, List.filterMap_append,
          (ih false).params]
        cases first <;> rfl
    · rw [firstFault_append, firstFault_append, ha.anyDepth d d', (ih false).anyDepth d d']

/-- A clause map without clauses fails; its mark says so. -/
theorem PerformAll.statement {as : List Action} {pss : List (List Piece)}
    (h : PerformAll as ms pss) :
    Performs (statement as) (fun d => (if as.isEmpty then [.emptyMap] else []) ++ ms d)
      (Piece.phrases pss) := by
  cases h with
  | nil => exact .fail .emptyClauseMap (fun _ => rfl) rfl rfl
  | cons ha hs =>
    have hclauses := (PerformAll.cons ha hs).phrases true
    simpa [Clausal.statement, Piece.phrasesFrom] using hclauses

end Action

end Clausal
