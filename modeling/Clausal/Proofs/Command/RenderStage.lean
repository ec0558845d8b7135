import Clausal.Command.Run
import Clausal.Proofs.Document.Acceptance
import Clausal.Proofs.Json.Keys

/-!
# The last stage of a run

A run reads all its inputs before it renders any, and does both under one limit. So once the inputs
are read nothing but an empty clause map is left that can stop it.
-/

namespace Clausal

/-! ## Guarantees of traced runs -/

/-- A result satisfies `P`, and a failure satisfies `Q`. -/
def Traced.Ensures {α : Type} (P : α → Prop) (Q : Failure → Prop) (t : Traced α) : Prop :=
  match t.result with
  | .ok a => P a
  | .error f => Q f

namespace Traced.Ensures

variable {α β : Type} {P : α → Prop} {R : β → Prop} {Q : Failure → Prop}

theorem pure {a : α} (h : P a) : Ensures P Q (pure a) := h

theorem fail {f : Failure} (h : Q f) : Ensures P Q (Traced.fail f) := h

theorem print {P : Unit → Prop} {s : String} (h : P ()) : Ensures P Q (Traced.print s) := h

theorem bind {t : Traced α} {k : α → Traced β} (ht : Ensures P Q t)
    (hk : ∀ a, t.result = .ok a → P a → Ensures R Q (k a)) : Ensures R Q (t >>= k) := by
  obtain ⟨events, printed, result⟩ := t
  cases result with
  | ok a => exact hk a rfl ht
  | error f => exact ht

/-- An event is no failure. -/
theorem emit {e : Event} {k : Unit → Traced β} (hk : Ensures R Q (k ())) :
    Ensures R Q (Traced.emit e >>= k) :=
  hk

theorem mono {Q' : Failure → Prop} {t : Traced α} (ht : Ensures P Q t) (h : ∀ f, Q f → Q' f) :
    Ensures P Q' t := by
  obtain ⟨events, printed, result⟩ := t
  cases result with
  | ok a => exact ht
  | error f => exact h f ht

theorem of_result_eq_ok {t : Traced α} {a : α} (ht : Ensures P Q t) (h : t.result = .ok a) :
    P a := by
  obtain ⟨events, printed, result⟩ := t
  cases h
  exact ht

theorem of_result_eq_error {t : Traced α} {f : Failure} (ht : Ensures P Q t)
    (h : t.result = .error f) : Q f := by
  obtain ⟨events, printed, result⟩ := t
  cases h
  exact ht

end Traced.Ensures

/-! ## Reading inputs -/

/-- A failure before the last stage. -/
def Failure.IsEarly : Failure → Prop
  | unrenderable _ _ => False
  | _ => True

/-- A failure at the last stage: one of the inputs has an empty clause map in it. -/
def Failure.IsOfEmptyMap (inputs : List Input) (f : Failure) : Prop :=
  ∃ input ∈ inputs, f = .unrenderable input.source .emptyClauseMap ∧
    .emptyMap ∈ input.map.traversal

/-- Every input is a document that the limit accepts, with its keys in order. -/
def Input.AllAccepted (limit : DepthLimit) (inputs : List Input) : Prop :=
  ∀ input ∈ inputs, ∃ doc : Json, doc.Sorted ∧ ClauseMap.ofJson limit doc = .ok input.map

theorem Json.sorted_of_mem_documents {fuel : Nat} {cs : List Char} {doc : Json}
    (h : doc ∈ (documents fuel cs).1) : doc.Sorted := by
  induction fuel generalizing cs with
  | zero => cases h
  | succ fuel ih =>
    unfold documents at h
    split at h
    · cases h
    · split at h
      · cases h
      · next first rest hnext =>
        rcases List.mem_cons.mp h with rfl | hrest
        · unfold nextDocument? at hnext
          split at hnext
          · cases hnext
          · next hread =>
            split at hnext
            · cases hnext
              exact sorted_of_readValue? hread
            · cases hnext
        · exact ih hrest

namespace Input

open Traced (Ensures)

variable (limit : DepthLimit)

theorem AllAccepted.append {limit : DepthLimit} {inputs inputs' : List Input}
    (h : AllAccepted limit inputs) (h' : AllAccepted limit inputs') :
    AllAccepted limit (inputs ++ inputs') :=
  List.forall_mem_append.mpr ⟨h, h'⟩

theorem ofDocuments_ensures (source : String) (valid : Bool) (n : Nat) {docs : List Json}
    (h : ∀ doc ∈ docs, doc.Sorted) :
    Ensures (AllAccepted limit) Failure.IsEarly (ofDocuments limit source valid n docs) := by
  induction docs generalizing n with
  | nil =>
    unfold ofDocuments
    split
    · exact .pure (by intro input h; cases h)
    · exact .fail trivial
  | cons doc docs ih =>
    obtain ⟨hdoc, hdocs⟩ := List.forall_mem_cons.mp h
    unfold ofDocuments
    split
    · exact .fail trivial
    · next m hm =>
      refine .emit ((ih (n + 1) hdocs).bind ?_)
      intro inputs _ hinputs
      exact .pure (List.forall_mem_cons.mpr ⟨⟨doc, hdoc, hm⟩, hinputs⟩)

theorem ofText_ensures (source text : String) :
    Ensures (AllAccepted limit) Failure.IsEarly (ofText limit source text) := by
  have hdocs : ∀ doc ∈ (Json.documentsOf text).1, doc.Sorted :=
    fun _ => Json.sorted_of_mem_documents
  exact ofDocuments_ensures limit source _ 1 hdocs

theorem ofStdin_ensures (stdin : FileRead) :
    Ensures (AllAccepted limit) Failure.IsEarly (ofStdin limit stdin) := by
  unfold ofStdin
  split
  · exact ofText_ensures limit _ _
  · exact .fail trivial

theorem ofFile_ensures (world : World) (path : String) :
    Ensures (AllAccepted limit) Failure.IsEarly (ofFile limit world path) := by
  unfold ofFile
  split
  · exact ofText_ensures limit _ _
  · exact .fail trivial

theorem ofFiles_ensures (world : World) (stdin : FileRead) (paths : List String) :
    Ensures (AllAccepted limit) Failure.IsEarly (ofFiles limit world stdin paths) := by
  induction paths generalizing stdin with
  | nil => exact .pure (by intro input h; cases h)
  | cons path paths ih =>
    unfold ofFiles
    split
    · refine (ofStdin_ensures limit stdin).bind fun inputs _ hinputs => ?_
      exact (ih _).bind fun rest _ hrest => .pure (hinputs.append hrest)
    · refine (ofFile_ensures limit world path).bind fun inputs _ hinputs => ?_
      exact (ih _).bind fun rest _ hrest => .pure (hinputs.append hrest)

theorem read_ensures (world : World) (files : List String) :
    Ensures (AllAccepted limit) Failure.IsEarly (read limit world files) := by
  unfold read
  split
  · exact ofStdin_ensures limit _
  · exact ofFiles_ensures limit world _ files

end Input

/-! ## Runs -/

namespace Command

open Traced (Ensures)

theorem parseConfig_ensures (path text : String) :
    Ensures (fun _ => True) Failure.IsEarly (parseConfig path text) := by
  unfold parseConfig
  split
  · exact .fail trivial
  · split
    · exact .pure trivial
    · exact .fail trivial

theorem loadConfig_ensures (world : World) (path : String) (named : Bool) :
    Ensures (fun _ => True) Failure.IsEarly (loadConfig world path named) := by
  unfold loadConfig
  split
  · exact .emit (.pure trivial)
  · split
    · exact .fail trivial
    · exact parseConfig_ensures ..

/-- Inputs that the limit accepts fail to render under the same limit only for an empty clause
map. -/
theorem renderInputs_ensures (settings : Settings) (first : Bool) {inputs : List Input}
    (h : Input.AllAccepted settings.limit inputs) :
    Ensures (fun _ => True) (Failure.IsOfEmptyMap inputs) (renderInputs settings first inputs) := by
  induction inputs generalizing first with
  | nil => exact .pure trivial
  | cons input inputs ih =>
    obtain ⟨⟨doc, -, hdoc⟩, hrest⟩ := List.forall_mem_cons.mp h
    unfold renderInputs
    split
    · next e he =>
      obtain ⟨rfl, hmark⟩ := (ClauseMap.settled_of_ofJson hdoc).render_eq_error_iff.mp he
      exact .fail ⟨input, List.mem_cons_self .., rfl, hmark⟩
    · refine .emit (Ensures.bind ((ih false hrest).mono ?_) fun _ _ _ => .pure trivial)
      rintro f ⟨other, hother, hf⟩
      exact ⟨other, List.mem_cons_of_mem _ hother, hf⟩

/-- A failure before the last stage, or at it, over the inputs that the files are read as. -/
def IsExplained (world : World) (files : List String) (f : Failure) : Prop :=
  f.IsEarly ∨ ∃ limit inputs, (Input.read limit world files).result = .ok inputs ∧
    f.IsOfEmptyMap inputs

theorem runRender_ensures (world : World) (args : RenderArgs) :
    Ensures (fun _ => True) (IsExplained world args.files) (runRender world args) := by
  unfold runRender
  have hload := loadConfig_ensures world args.config args.configNamed
  refine Ensures.bind (hload.mono fun _ => .inl) fun file _ _ => ?_
  have hread := Input.read_ensures (Settings.resolve file args.maxDepth args.format).limit world
    args.files
  refine Ensures.bind (hread.mono fun _ => .inl) fun inputs hinputs haccepted => ?_
  -- The limit of the settings is the one that the inputs were read under.
  split
  · exact .fail (.inl trivial)
  · have hrender := renderInputs_ensures (Settings.resolve file args.maxDepth args.format) true
      haccepted
    refine Ensures.bind (hrender.mono fun f hf => .inr ⟨_, inputs, hinputs, hf⟩) fun _ _ _ => ?_
    exact .print trivial

theorem readMaps_ensures (world : World) (files : List String) :
    Ensures (fun _ => True) Failure.IsEarly (readMaps world files) :=
  (Input.read_ensures .default world files).bind fun _ _ _ => .emit (.pure trivial)

/-- Only a command to render has a last stage. -/
theorem run_ensures (world : World) {command : Command} (h : ∀ args, command ≠ .render args) :
    Ensures (fun _ => True) Failure.IsEarly (command.run world) := by
  cases command with
  | help topic => exact .print trivial
  | render args => exact absurd rfl (h args)
  | merge files => exact (readMaps_ensures world files).bind fun _ _ _ => .print trivial
  | append files =>
    refine (readMaps_ensures world files).bind fun maps _ _ => ?_
    split
    · exact .print trivial
    · exact .fail trivial

/-- Reading and rendering agree on what is acceptable. Under the limit that its documents were read
with, a map, a merge and an append of maps render unless the map or one inside it is empty, and that
is the only error there is. So a run that has come to its last stage can fail for one reason only:
an input that it has read has an empty clause map. -/
theorem render_of_accepted :
    (∀ (limit : DepthLimit) (docs : List Json) (maps : List ClauseMap) (m : ClauseMap),
      docs.mapM (ClauseMap.ofJson limit) = .ok maps → ClauseMap.CombinationOf maps m →
      (∀ e, m.render limit = .error e ↔ e = .emptyClauseMap ∧ .emptyMap ∈ m.traversal) ∧
        ((∃ s, m.render limit = .ok s) ↔ .emptyMap ∉ m.traversal)) ∧
    ∀ world args label e, (runArgs world args).result = .error (.unrenderable label e) →
      e = .emptyClauseMap ∧ ∃ command limit inputs, read args = .ok (.render command) ∧
        (Input.read limit world command.files).result = .ok inputs ∧
        ∃ input ∈ inputs, input.source = label ∧ .emptyMap ∈ input.map.traversal := by
  constructor
  · intro limit docs maps m hdocs hm
    have hsettled := hm.settled (ClauseMap.settled_of_mapM_ofJson hdocs)
    exact ⟨fun e => hsettled.render_eq_error_iff, hsettled.render_eq_ok_iff⟩
  · intro world args label e h
    unfold runArgs at h
    cases hread : read args with
    | error e' =>
      rw [hread] at h
      cases h
    | ok command =>
      rw [hread] at h
      cases command with
      | render args =>
        rcases (runRender_ensures world args).of_result_eq_error h with hearly | hlast
        · cases hearly
        · obtain ⟨limit, inputs, hinputs, input, hinput, hf, hmark⟩ := hlast
          cases hf
          exact ⟨rfl, args, limit, inputs, rfl, hinputs, input, hinput, rfl, hmark⟩
      | help _ | merge _ | append _ =>
        have hearly := (run_ensures world (by rintro _ ⟨⟩)).of_result_eq_error h
        cases hearly

/-- Two documents, of which the second has an empty clause map inside, and a run over an empty
one. -/
theorem render_of_accepted_inside :
    let docs := [Json.object [("select", .array [.string "x"]), ("where", .string "p")],
      .object [("where", .array [.string "exists", .object []])]]
    let a := ClauseMap.ofList [⟨_, .select [.ident "x"]⟩, ⟨_, .where_ (.ident "p")⟩]
    let b := ClauseMap.ofList [⟨_, .where_ (.existsIn .empty)⟩]
    let world : World := ⟨fun _ => false, fun _ => .error .notFound, .ok "\x7b\x7d"⟩
    docs.mapM (ClauseMap.ofJson (some 1)) = .ok [a, b] ∧ (∃ s, a.render (some 1) = .ok s) ∧
      (ClauseMap.mergeAll [a, b]).render (some 1) = .error .emptyClauseMap ∧
      (runArgs world ["render"]).result = .error (.unrenderable "<stdin>#1" .emptyClauseMap) ∧
      ∃ limit inputs, (Input.read limit world []).result = .ok inputs ∧
        ∃ input ∈ inputs, input.source = "<stdin>#1" ∧ .emptyMap ∈ input.map.traversal := by
  intro docs a b world
  have hdocs : docs.mapM (ClauseMap.ofJson (some 1)) = .ok [a, b] := rfl
  have ha := render_of_accepted.1 (some 1) docs [a, b] a hdocs (.one (by simp))
  have hmerged := render_of_accepted.1 (some 1) docs [a, b] _ hdocs .merged
  have hrun : (runArgs world ["render"]).result
      = .error (.unrenderable "<stdin>#1" .emptyClauseMap) := rfl
  obtain ⟨-, command, limit, inputs, hread, hinput⟩ := render_of_accepted.2 world _ _ _ hrun
  cases hread
  refine ⟨hdocs, ha.2.mpr (by decide), ?_, hrun, limit, inputs, hinput⟩
  exact (hmerged.1 _).mpr ⟨rfl, by decide⟩

end Command

end Clausal
