import Clausal.Command.Run

/-!
# Output of a run

Settings and inputs are read and statements are rendered without a word; a command prints once, and
nothing can fail after that. So a run that fails has printed nothing, wherever it has stopped.
-/

namespace Clausal

namespace Traced

variable {α β : Type}

theorem result_bind (t : Traced α) (k : α → Traced β) :
    (t >>= k).result = t.result.bind fun a => (k a).result := by
  obtain ⟨events, printed, result⟩ := t
  cases result <;> rfl

/-- What a run comes to: the text that it has printed, unless it fails. -/
def answer (t : Traced Unit) : Except Failure String :=
  t.result.map fun _ => t.printed

theorem answer_eq_error_iff {t : Traced Unit} {f : Failure} :
    t.answer = .error f ↔ t.result = .error f := by
  unfold answer
  cases t.result <;> simp [Except.map]

theorem outcome_eq_success_iff {t : Traced Unit} {out : String} :
    t.outcome = ⟨out, "", 0⟩ ↔ t.answer = .ok out := by
  obtain ⟨events, printed, result⟩ := t
  cases result <;> simp [outcome, answer, Except.map]

/-- Nothing is printed. -/
def Silent (t : Traced α) : Prop :=
  t.printed = ""

/-- Nothing is printed by what fails. -/
def PrintsLast (t : Traced α) : Prop :=
  ∀ f, t.result = .error f → t.printed = ""

variable {t : Traced α} {k : α → Traced β}

namespace Silent

theorem pure (a : α) : Silent (pure a) := rfl

theorem fail (f : Failure) : Silent (Traced.fail (α := α) f) := rfl

theorem emit (e : Event) : Silent (Traced.emit e) := rfl

theorem printed_bind {a : α} (ht : t.Silent) (h : t.result = .ok a) :
    (t >>= k).printed = (k a).printed := by
  obtain ⟨events, printed, result⟩ := t
  cases h
  cases ht
  exact String.empty_append

theorem printed_bind_error {f : Failure} (ht : t.Silent) (h : t.result = .error f) :
    (t >>= k).printed = "" := by
  obtain ⟨events, printed, result⟩ := t
  cases h
  exact ht

theorem bind (ht : t.Silent) (hk : ∀ a, (k a).Silent) : (t >>= k).Silent := by
  cases h : t.result with
  | ok a => exact (ht.printed_bind h).trans (hk a)
  | error f => exact ht.printed_bind_error h

theorem printsLast (ht : t.Silent) : t.PrintsLast :=
  fun _ _ => ht

theorem bind_printsLast (ht : t.Silent) (hk : ∀ a, (k a).PrintsLast) : (t >>= k).PrintsLast := by
  intro f hf
  cases h : t.result with
  | ok a =>
    rw [result_bind, h] at hf
    rw [ht.printed_bind h]
    exact hk a f hf
  | error f => exact ht.printed_bind_error h

theorem answer_bind {k : α → Traced Unit} (ht : t.Silent) :
    (t >>= k).answer = t.result.bind fun a => (k a).answer := by
  unfold answer
  rw [result_bind]
  cases h : t.result with
  | ok a => rw [ht.printed_bind h]; rfl
  | error f => rfl

theorem answer_bind_print {t : Traced String} (ht : t.Silent) :
    (t >>= Traced.print).answer = t.result := by
  rw [ht.answer_bind]
  cases t.result <;> rfl

end Silent

namespace PrintsLast

theorem print (s : String) : PrintsLast (Traced.print s) := nofun

theorem outcome_of_error {t : Traced Unit} {f : Failure} (ht : t.PrintsLast)
    (h : t.result = .error f) : t.outcome = ⟨"", f.message ++ "\n", 1⟩ := by
  rw [outcome, h, ht f h]

end PrintsLast

end Traced

open Traced (Silent PrintsLast)

/-! ## Inputs -/

namespace Input

variable (limit : DepthLimit)

theorem silent_ofDocuments (source : String) (valid : Bool) (n : Nat) (docs : List Json) :
    (ofDocuments limit source valid n docs).Silent := by
  induction docs generalizing n with
  | nil => unfold ofDocuments; split <;> rfl
  | cons doc docs ih =>
    unfold ofDocuments
    split
    · exact .fail _
    · exact (Silent.emit _).bind fun _ => (ih (n + 1)).bind fun _ => .pure _

theorem silent_ofText (source text : String) : (ofText limit source text).Silent :=
  silent_ofDocuments ..

theorem silent_ofStdin (stdin : FileRead) : (ofStdin limit stdin).Silent := by
  unfold ofStdin
  split
  · exact silent_ofText ..
  · exact .fail _

theorem silent_ofFile (world : World) (path : String) : (ofFile limit world path).Silent := by
  unfold ofFile
  split
  · exact silent_ofText ..
  · exact .fail _

theorem silent_ofFiles (world : World) (stdin : FileRead) (paths : List String) :
    (ofFiles limit world stdin paths).Silent := by
  induction paths generalizing stdin with
  | nil => exact .pure _
  | cons path paths ih =>
    unfold ofFiles
    split
    · exact (silent_ofStdin ..).bind fun _ => (ih _).bind fun _ => .pure _
    · exact (silent_ofFile ..).bind fun _ => (ih _).bind fun _ => .pure _

theorem silent_read (world : World) (files : List String) : (read limit world files).Silent := by
  unfold read
  split
  · exact silent_ofStdin ..
  · exact silent_ofFiles ..

end Input

/-! ## Runs -/

namespace Command

variable (world : World)

theorem silent_parseConfig (path text : String) : (parseConfig path text).Silent := by
  unfold parseConfig
  split
  · exact .fail _
  · split
    · exact .pure _
    · exact .fail _

theorem silent_loadConfig (path : String) (named : Bool) :
    (loadConfig world path named).Silent := by
  unfold loadConfig
  split
  · exact (Silent.emit _).bind fun _ => .pure _
  · split
    · exact .fail _
    · exact silent_parseConfig ..

theorem silent_renderInputs (settings : Settings) (first : Bool) (inputs : List Input) :
    (renderInputs settings first inputs).Silent := by
  induction inputs generalizing first with
  | nil => exact .pure _
  | cons input inputs ih =>
    unfold renderInputs
    split
    · exact .fail _
    · exact (Silent.emit _).bind fun _ => (ih false).bind fun _ => .pure _

theorem silent_readMaps (files : List String) : (readMaps world files).Silent :=
  (Input.silent_read ..).bind fun _ => (Silent.emit _).bind fun _ => .pure _

theorem run_printsLast (command : Command) : (command.run world).PrintsLast := by
  cases command with
  | help topic => exact .print _
  | render args =>
    refine (silent_loadConfig ..).bind_printsLast fun file => ?_
    refine (Input.silent_read ..).bind_printsLast fun inputs => ?_
    split
    · exact (Silent.fail _).printsLast
    · exact (silent_renderInputs ..).bind_printsLast fun _ => .print _
  | merge files => exact (silent_readMaps ..).bind_printsLast fun _ => .print _
  | append files =>
    refine (silent_readMaps ..).bind_printsLast fun maps => ?_
    split
    · exact .print _
    · exact (Silent.fail _).printsLast

variable {world} {args : List String}

theorem runArgs_printsLast : (runArgs world args).PrintsLast := by
  unfold runArgs
  split
  · exact run_printsLast world _
  · exact (Silent.fail _).printsLast

end Command

end Clausal
