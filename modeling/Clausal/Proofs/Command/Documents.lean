import Clausal.Proofs.Command.Feedback
import Clausal.Proofs.Json.Progress
import Mathlib.Data.List.Forall2

/-!
# Documents of a run

A render works on one stream of documents: those of its inputs, one input after the other. It reads
all of them before it renders any, and each on its own; then it prints their statements in order, or
nothing at all. `Command.Renders` says what it takes to print something.
-/

namespace Clausal

/-! ## The stream of documents -/

/-- A document of a stream: what it is called, and its value if it is valid. -/
structure Document where
  label : String
  value : Option Json

namespace Document

/-- Documents of one source, numbered from `n`. -/
def number (source : String) (n : Nat) (values : List (Option Json)) : List Document :=
  (values.zipIdx n).map fun (value, n) => ⟨Input.label source n, value⟩

/-- The documents of a text. Nothing is read behind one that is not valid. -/
def ofText (source text : String) : List Document :=
  let (docs, valid) := Json.stream text.toList
  number source 1 (docs.map some ++ if valid then [] else [none])

/-- Read a document as an input of a run. -/
def read (limit : DepthLimit) (d : Document) : Except Failure Input :=
  match d.value with
  | none => .error (.invalidJson d.label)
  | some doc =>
    match ClauseMap.ofJson limit doc with
    | .ok m => .ok ⟨d.label, m⟩
    | .error e => .error (.invalidMap d.label e)

/-- The document is valid, is that of a clause map, and the clause map has the statement `s`. -/
def RendersTo (limit : DepthLimit) (d : Document) (s : Statement) : Prop :=
  ∃ doc m, d.value = some doc ∧ ClauseMap.ofJson limit doc = .ok m ∧ m.render limit = .ok s

end Document

/-- The inputs that are named, with the names that their documents go by. A dash is the standard
input, of which nothing is left after its first use. -/
def World.named (world : World) (stdin : FileRead) : List String → List (String × FileRead)
  | [] => []
  | path :: paths =>
    if path = "-" then ("<stdin>", stdin) :: world.named (.ok "") paths
    else (path, world.file path) :: world.named stdin paths

/-- The inputs of a run: those that are named, or the standard input where none are. -/
def World.sources (world : World) (files : List String) : List (String × FileRead) :=
  if files.isEmpty then [("<stdin>", world.stdin)] else world.named world.stdin files

/-- The documents of the inputs that can be read, one input after the other. -/
def Document.ofSources (sources : List (String × FileRead)) : List Document :=
  sources.flatMap fun source =>
    match source.2 with
    | .ok text => ofText source.1 text
    | .error _ => []

/-- The documents of a run. -/
def World.documents (world : World) (files : List String) : List Document :=
  Document.ofSources (world.sources files)

def AllReadable (sources : List (String × FileRead)) : Prop :=
  ∀ source ∈ sources, ∃ text, source.2 = .ok text

/-! ## Lists of results -/

section Results

variable {ε α β : Type} {f : α → Except ε β}

theorem mapM_eq_ok_iff {xs : List α} {ys : List β} :
    xs.mapM f = .ok ys ↔ List.Forall₂ (fun x y => f x = .ok y) xs ys := by
  induction xs generalizing ys with
  | nil =>
    rw [List.mapM_nil, List.forall₂_nil_left_iff]
    exact ⟨fun h => (Except.ok.inj h).symm, fun h => congrArg _ h.symm⟩
  | cons x xs ih =>
    rw [List.mapM_cons, List.forall₂_cons_left_iff]
    cases hx : f x with
    | error e => exact ⟨nofun, fun ⟨_, _, h, _⟩ => nomatch h⟩
    | ok y =>
      cases hxs : xs.mapM f with
      | error e =>
        rw [hxs] at ih
        exact ⟨nofun, fun ⟨_, _, _, h, _⟩ => nomatch ih.mpr h⟩
      | ok ys' =>
        rw [hxs] at ih
        constructor
        · intro h
          cases h
          exact ⟨y, ys', rfl, ih.mp rfl, rfl⟩
        · rintro ⟨_, _, h, htail, rfl⟩
          cases h
          cases ih.mpr htail
          rfl

theorem exists_ok_of_mapM {xs : List α} {ys : List β} (h : xs.mapM f = .ok ys) :
    ∀ x ∈ xs, ∃ y, f x = .ok y := by
  have hall := mapM_eq_ok_iff.mp h
  clear h
  induction hall with
  | nil => exact List.forall_mem_nil _
  | cons hx _ ih => exact List.forall_mem_cons.mpr ⟨⟨_, hx⟩, ih⟩

/-- The first that fails decides. -/
theorem mapM_eq_error {before after : List α} {x : α} {e : ε}
    (hbefore : ∀ x ∈ before, ∃ y, f x = .ok y) (hx : f x = .error e) :
    (before ++ x :: after).mapM f = .error e := by
  induction before with
  | nil => rw [List.nil_append, List.mapM_cons, hx]; rfl
  | cons x' before ih =>
    obtain ⟨⟨y, hy⟩, hrest⟩ := List.forall_mem_cons.mp hbefore
    rw [List.cons_append, List.mapM_cons, hy, ih hrest]
    rfl

end Results

/-! ## Reading the stream -/

namespace Input

variable {limit : DepthLimit} {sources sources' : List (String × FileRead)}
  {t t' : Traced (List Input)}

/-- What reading comes to: the documents of the sources, each read on its own, or some failure
where a source cannot be read. -/
structure Reads (limit : DepthLimit) (sources : List (String × FileRead))
    (t : Traced (List Input)) : Prop where
  result : AllReadable sources →
    t.result = (Document.ofSources sources).mapM (Document.read limit)
  readable : ∀ inputs, t.result = .ok inputs → AllReadable sources

namespace Reads

theorem nil : Reads limit [] (pure []) where
  result _ := rfl
  readable _ _ := List.forall_mem_nil _

theorem append (h : Reads limit sources t) (h' : Reads limit sources' t') :
    Reads limit (sources ++ sources') (do return (← t) ++ (← t')) where
  result hall := by
    obtain ⟨hsources, hsources'⟩ := List.forall_mem_append.mp hall
    rw [Document.ofSources, List.flatMap_append, List.mapM_append, ← Document.ofSources,
      ← Document.ofSources, ← h.result hsources, ← h'.result hsources', Traced.result_bind]
    cases t.result with
    | error f => rfl
    | ok inputs =>
      rw [Except.bind, Traced.result_bind]
      cases t'.result <;> rfl
  readable inputs hok := by
    rw [Traced.result_bind] at hok
    cases ht : t.result with
    | error f => rw [ht] at hok; cases hok
    | ok first =>
      rw [ht, Except.bind, Traced.result_bind] at hok
      cases ht' : t'.result with
      | error f => rw [ht'] at hok; cases hok
      | ok second =>
        exact List.forall_mem_append.mpr ⟨h.readable _ ht, h'.readable _ ht'⟩

theorem unreadable {name : String} {fault : FileFault} (f : Failure) :
    Reads limit [(name, .error fault)] (Traced.fail f) where
  result hall := by
    obtain ⟨text, htext⟩ := hall _ (List.mem_singleton_self _)
    cases htext
  readable _ hok := by cases hok

end Reads

theorem result_ofDocuments (limit : DepthLimit) (source : String) (valid : Bool) (n : Nat)
    (docs : List Json) :
    (ofDocuments limit source valid n docs).result
      = (Document.number source n (docs.map some ++ if valid then [] else [none])).mapM
          (Document.read limit) := by
  induction docs generalizing n with
  | nil => cases valid <;> rfl
  | cons doc docs ih =>
    have hnumber : Document.number source n ((doc :: docs).map some ++ if valid then [] else [none])
        = ⟨label source n, some doc⟩ ::
          Document.number source (n + 1) (docs.map some ++ if valid then [] else [none]) := rfl
    rw [hnumber, List.mapM_cons, ← ih, Document.read, ofDocuments]
    dsimp only
    cases ClauseMap.ofJson limit doc with
    | error e => rfl
    | ok m =>
      rw [Traced.result_bind, Traced.emit, Except.bind, Traced.result_bind]
      cases (ofDocuments limit source valid (n + 1) docs).result <;> rfl

theorem reads_ofText (limit : DepthLimit) (source text : String) :
    Reads limit [(source, .ok text)] (ofText limit source text) where
  result _ := by
    have hdocs : Document.ofSources [(source, .ok text)] = Document.ofText source text :=
      List.append_nil _
    rw [hdocs, Document.ofText, ofText, Json.documentsOf_eq_stream]
    exact result_ofDocuments limit source _ 1 _
  readable _ _ := List.forall_mem_singleton.mpr ⟨text, rfl⟩

theorem reads_ofStdin (limit : DepthLimit) (stdin : FileRead) :
    Reads limit [("<stdin>", stdin)] (ofStdin limit stdin) := by
  cases stdin with
  | ok text => exact reads_ofText limit _ text
  | error fault => exact .unreadable _

theorem reads_ofFile (limit : DepthLimit) (world : World) (path : String) :
    Reads limit [(path, world.file path)] (ofFile limit world path) := by
  unfold ofFile
  cases world.file path with
  | ok text => exact reads_ofText limit path text
  | error fault => exact .unreadable _

theorem reads_ofFiles (limit : DepthLimit) (world : World) (stdin : FileRead)
    (paths : List String) :
    Reads limit (world.named stdin paths) (ofFiles limit world stdin paths) := by
  induction paths generalizing stdin with
  | nil => exact .nil
  | cons path paths ih =>
    unfold World.named ofFiles
    split
    · exact (reads_ofStdin limit stdin).append (ih _)
    · exact (reads_ofFile limit world path).append (ih _)

theorem reads_read (limit : DepthLimit) (world : World) (files : List String) :
    Reads limit (world.sources files) (read limit world files) := by
  unfold World.sources read
  split
  · exact reads_ofStdin limit _
  · exact reads_ofFiles limit world _ files

end Input

/-! ## Settings -/

/-- The configuration file of a run. It has to be readable if it is named, and also if it is not and
something is there all the same. -/
inductive World.HasConfig (world : World) (path : String) (named : Bool) : ConfigFile → Prop
  | absent (hnamed : named = false) (hthere : world.isThere path = false) :
    World.HasConfig world path named .default
  | present {text : String} {file : ConfigFile} (hthere : named = false → world.isThere path = true)
    (htext : world.file path = .ok text) (hfile : ConfigFile.ofText? text = some file)
    (hsupported : file.isSupported = true) : World.HasConfig world path named file

namespace Command

variable {world : World} {args : RenderArgs} {settings : Settings}

theorem result_parseConfig_eq_ok_iff {path text : String} {file : ConfigFile} :
    (parseConfig path text).result = .ok file ↔
      ConfigFile.ofText? text = some file ∧ file.isSupported = true := by
  unfold parseConfig
  cases ConfigFile.ofText? text with
  | none => exact iff_of_false nofun nofun
  | some file' =>
    dsimp only
    split
    · next hsupported =>
      constructor
      · rintro ⟨⟩
        exact ⟨rfl, hsupported⟩
      · rintro ⟨⟨⟩, -⟩
        rfl
    · next hsupported =>
      refine iff_of_false nofun ?_
      rintro ⟨⟨⟩, hfile⟩
      exact hsupported hfile

theorem result_loadConfig_eq_ok_iff {path : String} {named : Bool} {file : ConfigFile} :
    (loadConfig world path named).result = .ok file ↔ world.HasConfig path named file := by
  by_cases habsent : (!named && !world.isThere path) = true
  · obtain ⟨rfl, hthere⟩ : named = false ∧ world.isThere path = false := by simpa using habsent
    rw [loadConfig, if_pos habsent]
    constructor
    · rintro ⟨⟩
      exact .absent rfl hthere
    · rintro (_ | hpresent)
      · rfl
      · exact absurd (hpresent rfl) (by simp [hthere])
  · have hthere : named = false → world.isThere path = true := by simpa using habsent
    rw [loadConfig, if_neg habsent]
    constructor
    · intro h
      cases htext : world.file path with
      | error fault => rw [htext] at h; cases h
      | ok text =>
        rw [htext] at h
        obtain ⟨hfile, hsupported⟩ := result_parseConfig_eq_ok_iff.mp h
        exact .present hthere htext hfile hsupported
    · rintro (⟨hnamed, hmissing⟩ | ⟨-, htext, hfile, hsupported⟩)
      · exact absurd (hthere hnamed) (by simp [hmissing])
      · rw [htext]
        exact result_parseConfig_eq_ok_iff.mpr ⟨hfile, hsupported⟩

theorem hasSettings_iff :
    HasSettings world args settings ↔
      ∃ file, world.HasConfig args.config args.configNamed file ∧
        Settings.resolve file args.maxDepth args.format = settings :=
  exists_congr fun _ => and_congr_left fun _ => result_loadConfig_eq_ok_iff

end Command

/-! ## Rendering the stream -/

/-- What stands between the statements of a run. -/
def OutputFormat.gap : OutputFormat → String
  | .json => ""
  | .text => "\n"

/-- The statement of an input. -/
def Input.statement (limit : DepthLimit) (input : Input) : Except Failure Statement :=
  match input.map.render limit with
  | .ok s => .ok s
  | .error e => .error (.unrenderable input.source e)

theorem Input.statement_eq_ok_iff {limit : DepthLimit} {input : Input} {s : Statement} :
    input.statement limit = .ok s ↔ input.map.render limit = .ok s := by
  unfold statement
  cases input.map.render limit <;> simp

namespace Document

variable {limit : DepthLimit}

theorem read_eq_ok_iff {d : Document} {input : Input} :
    d.read limit = .ok input ↔
      ∃ doc, d.value = some doc ∧ ClauseMap.ofJson limit doc = .ok input.map ∧
        input.source = d.label := by
  obtain ⟨label, value⟩ := d
  obtain ⟨source, map⟩ := input
  cases value with
  | none => simp [read]
  | some doc =>
    cases hm : ClauseMap.ofJson limit doc with
    | error e => simp [read, hm]
    | ok m => simp [read, hm, and_comm, eq_comm]

theorem rendersTo_iff {d : Document} {s : Statement} :
    RendersTo limit d s ↔
      ∃ input, d.read limit = .ok input ∧ input.statement limit = .ok s := by
  simp only [read_eq_ok_iff, Input.statement_eq_ok_iff]
  constructor
  · rintro ⟨doc, m, hvalue, hm, hs⟩
    exact ⟨⟨d.label, m⟩, ⟨doc, hvalue, hm, rfl⟩, hs⟩
  · rintro ⟨input, ⟨doc, hvalue, hm, -⟩, hs⟩
    exact ⟨doc, input.map, hvalue, hm, hs⟩

theorem forall₂_rendersTo_iff {ds : List Document} {ss : List Statement} :
    List.Forall₂ (RendersTo limit) ds ss ↔
      ∃ inputs, ds.mapM (read limit) = .ok inputs ∧
        inputs.mapM (Input.statement limit) = .ok ss := by
  simp only [mapM_eq_ok_iff]
  constructor
  · intro h
    induction h with
    | nil => exact ⟨[], .nil, .nil⟩
    | cons hd _ ih =>
      obtain ⟨input, hinput, hs⟩ := rendersTo_iff.mp hd
      obtain ⟨inputs, hinputs, hss⟩ := ih
      exact ⟨input :: inputs, .cons hinput hinputs, .cons hs hss⟩
  · rintro ⟨inputs, hinputs, hss⟩
    induction hinputs generalizing ss with
    | nil =>
      cases hss
      exact .nil
    | cons hinput _ ih =>
      cases hss with
      | cons hs hss => exact .cons (rendersTo_iff.mpr ⟨_, hinput, hs⟩) (ih hss)

end Document

theorem intercalate_cons (gap s : String) (ss : List String) :
    gap.intercalate (s :: ss) = s ++ String.join (ss.map (gap ++ ·)) := by
  induction ss generalizing s with
  | nil => simp
  | cons t ss ih =>
    rw [String.intercalate_cons_cons, ih, List.map_cons, String.join_cons]
    simp only [String.append_assoc]

namespace Command

/-- Statements that follow others: the gap stands before each. -/
theorem result_renderInputs_following (settings : Settings) (inputs : List Input) :
    (renderInputs settings false inputs).result
      = (inputs.mapM (Input.statement settings.limit)).map fun ss =>
          String.join (ss.map fun s => settings.format.gap ++ s.format settings.format) := by
  induction inputs with
  | nil => rfl
  | cons input inputs ih =>
    rw [renderInputs, List.mapM_cons, Input.statement]
    cases input.map.render settings.limit with
    | error e => rfl
    | ok s =>
      dsimp only
      rw [Traced.result_bind, Traced.emit, Except.bind, Traced.result_bind, ih]
      cases inputs.mapM (Input.statement settings.limit) with
      | error f => rfl
      | ok ss =>
        have hgap : (if !false && settings.format == .text then "\n" else "")
            = settings.format.gap := by
          cases settings.format <;> rfl
        rw [hgap]
        exact congrArg Except.ok String.join_cons.symm

theorem result_renderInputs (settings : Settings) (inputs : List Input) :
    (renderInputs settings true inputs).result
      = (inputs.mapM (Input.statement settings.limit)).map fun ss =>
          settings.format.gap.intercalate (ss.map (·.format settings.format)) := by
  cases inputs with
  | nil => rfl
  | cons input inputs =>
    rw [renderInputs, List.mapM_cons, Input.statement]
    cases input.map.render settings.limit with
    | error e => rfl
    | ok s =>
      dsimp only
      rw [Traced.result_bind, Traced.emit, Except.bind, Traced.result_bind,
        result_renderInputs_following]
      cases inputs.mapM (Input.statement settings.limit) with
      | error f => rfl
      | ok ss =>
        have htext := intercalate_cons settings.format.gap (s.format settings.format)
          (ss.map (·.format settings.format))
        rw [List.map_map] at htext
        exact congrArg Except.ok ((congrArg (· ++ _) String.empty_append).trans htext.symm)

/-- Statements are printed where every input is readable, there is a document at least, and each
document has its statement. -/
structure Renders (world : World) (settings : Settings) (files : List String)
    (statements : List Statement) : Prop where
  readable : AllReadable (world.sources files)
  nonempty : world.documents files ≠ []
  rendered : List.Forall₂ (Document.RendersTo settings.limit) (world.documents files) statements

variable {world : World} {args : RenderArgs} {settings : Settings}

theorem answer_runRender_eq_ok_iff (h : HasSettings world args settings) {out : String} :
    (runRender world args).answer = .ok out ↔
      ∃ statements, Renders world settings args.files statements ∧
        out = settings.format.gap.intercalate (statements.map (·.format settings.format)) := by
  have hreads := Input.reads_read settings.limit world args.files
  rw [answer_runRender h]
  constructor
  · intro hok
    cases hread : (Input.read settings.limit world args.files).result with
    | error f => rw [hread] at hok; cases hok
    | ok inputs =>
      rw [hread, Except.bind, result_renderInputs] at hok
      have hreadable := hreads.readable inputs hread
      have hinputs := (hreads.result hreadable).symm.trans hread
      cases inputs with
      | nil => cases hok
      | cons input inputs =>
        cases hstatements : (input :: inputs).mapM (Input.statement settings.limit) with
        | error f => rw [hstatements] at hok; cases hok
        | ok statements =>
          rw [hstatements] at hok
          refine ⟨statements, ⟨hreadable, ?_, ?_⟩, (Except.ok.inj hok).symm⟩
          · intro hnil
            rw [World.documents] at hnil
            rw [hnil] at hinputs
            cases hinputs
          · exact Document.forall₂_rendersTo_iff.mpr ⟨_, hinputs, hstatements⟩
  · rintro ⟨statements, ⟨hreadable, hnonempty, hrendered⟩, rfl⟩
    obtain ⟨inputs, hinputs, hstatements⟩ := Document.forall₂_rendersTo_iff.mp hrendered
    rw [hreads.result hreadable]
    rw [World.documents] at hinputs
    rw [hinputs, Except.bind, result_renderInputs, hstatements]
    cases inputs with
    | nil => exact absurd (List.forall₂_nil_right_iff.mp (mapM_eq_ok_iff.mp hinputs)) hnonempty
    | cons input inputs => rfl

theorem exists_hasSettings {out : String} (h : (runRender world args).answer = .ok out) :
    ∃ settings, HasSettings world args settings := by
  rw [runRender, (silent_loadConfig ..).answer_bind] at h
  cases hconfig : (loadConfig world args.config args.configNamed).result with
  | error f => rw [hconfig] at h; cases h
  | ok file => exact ⟨_, file, hconfig, rfl⟩

/-- A document that cannot be read stops a run before anything is rendered. -/
theorem result_runRender_of_error (h : HasSettings world args settings) {d : Document} {f : Failure}
    (hd : d ∈ world.documents args.files) (hf : d.read settings.limit = .error f) :
    ∃ f', (runRender world args).result = .error f' ∧ f'.IsEarly := by
  have hreads := Input.reads_read settings.limit world args.files
  have hearly := Input.read_ensures settings.limit world args.files
  cases hread : (Input.read settings.limit world args.files).result with
  | error f' =>
    refine ⟨f', Traced.answer_eq_error_iff.mp ?_, hearly.of_result_eq_error hread⟩
    rw [answer_runRender h, hread]
    rfl
  | ok inputs =>
    have hinputs := (hreads.result (hreads.readable inputs hread)).symm.trans hread
    obtain ⟨input, hinput⟩ := exists_ok_of_mapM hinputs d hd
    cases hf.symm.trans hinput

theorem result_runRender_of_first_error (h : HasSettings world args settings)
    (hreadable : AllReadable (world.sources args.files)) {before after : List Document}
    {d : Document} {f : Failure} (hdocs : world.documents args.files = before ++ d :: after)
    (hbefore : ∀ d ∈ before, ∃ input, d.read settings.limit = .ok input)
    (hf : d.read settings.limit = .error f) : (runRender world args).result = .error f := by
  have hreads := Input.reads_read settings.limit world args.files
  rw [World.documents] at hdocs
  apply Traced.answer_eq_error_iff.mp
  rw [answer_runRender h, hreads.result hreadable, hdocs, mapM_eq_error hbefore hf]
  rfl

/-- A run that renders prints the statements of all its documents, each read and rendered on its
own, or it fails and prints nothing. It fails unless its configuration loads, its inputs are
readable, there is a document, and every document has a statement; the configuration is the default
only if no file is named and nothing is at the usual place. A document that cannot be read is
reported before any that cannot be rendered, and of several the first. -/
theorem run_documents {tokens : List String} (h : read tokens = .ok (.render args))
    (world : World) :
    (∀ settings, HasSettings world args settings ↔
      ∃ file, world.HasConfig args.config args.configNamed file ∧
        Settings.resolve file args.maxDepth args.format = settings) ∧
    (∀ out, (runArgs world tokens).outcome = ⟨out, "", 0⟩ ↔
      ∃ settings statements, HasSettings world args settings ∧
        Renders world settings args.files statements ∧
        out = settings.format.gap.intercalate (statements.map (·.format settings.format))) ∧
    (∀ f, (runArgs world tokens).result = .error f →
      (runArgs world tokens).outcome = ⟨"", f.message ++ "\n", 1⟩) ∧
    ∀ settings, HasSettings world args settings → ∀ before d after f,
      world.documents args.files = before ++ d :: after → d.read settings.limit = .error f →
      (∃ f', (runArgs world tokens).result = .error f' ∧ f'.IsEarly) ∧
        (AllReadable (world.sources args.files) →
          (∀ d' ∈ before, ∃ input, d'.read settings.limit = .ok input) →
          (runArgs world tokens).result = .error f) := by
  have hrun : runArgs world tokens = runRender world args := by
    rw [runArgs, h]
    rfl
  refine ⟨fun settings => hasSettings_iff, fun out => ?_, fun f hf => ?_, ?_⟩
  · rw [Traced.outcome_eq_success_iff, hrun]
    constructor
    · intro hok
      obtain ⟨settings, hsettings⟩ := exists_hasSettings hok
      obtain ⟨statements, hrenders⟩ := (answer_runRender_eq_ok_iff hsettings).mp hok
      exact ⟨settings, statements, hsettings, hrenders⟩
    · rintro ⟨settings, statements, hsettings, hrenders⟩
      exact (answer_runRender_eq_ok_iff hsettings).mpr ⟨statements, hrenders⟩
  · exact runArgs_printsLast.outcome_of_error hf
  · rw [hrun]
    intro settings hsettings before d after f hdocs hf
    have hd : d ∈ world.documents args.files := by
      rw [hdocs]
      exact List.mem_append_right _ (List.mem_cons_self ..)
    exact ⟨result_runRender_of_error hsettings hd hf, fun hreadable hbefore =>
      result_runRender_of_first_error hsettings hreadable hdocs hbefore hf⟩

/-- Two documents of a file and one of the standard input, which is named twice; an empty clause map
before a text that is no document; and a configuration file that is there but may not be read. -/
theorem run_documents_streams :
    let world : World :=
      ⟨["a.json"].contains, fun path => if path = "a.json" then
          .ok "\x7b\"select\": [\"x\"]\x7d \x7b\"limit\": 1\x7d"
        else .error .notFound, .ok "\x7b\"where\": [\"=\", \"y\", \x7b\"ip\": 2\x7d]\x7d"⟩
    let tokens := ["render", "--format", "text", "a.json", "-", "-"]
    let args : RenderArgs := ⟨"sqlshape.toml", false, none, some .text, ["a.json", "-", "-"]⟩
    let out := "SELECT \"x\"\n\nLIMIT 1\n\nWHERE \"y\" = $1\n$1 = 2\n"
    let faulty : World := ⟨fun _ => false, fun _ => .error .notFound, .ok "\x7b\x7d ["⟩
    let locked : World :=
      ⟨["sqlshape.toml"].contains, fun path => if path = "sqlshape.toml" then
          .error (.other "Permission denied (os error 13)")
        else .error .notFound, .ok "\x7b\"limit\": 1\x7d"⟩
    let refusal := "failed to read config file sqlshape.toml: Permission denied (os error 13)\n"
    read tokens = .ok (.render args) ∧ (runArgs world tokens).outcome = ⟨out, "", 0⟩ ∧
      (∃ settings statements, HasSettings world args settings ∧
        Renders world settings args.files statements ∧
        out = settings.format.gap.intercalate (statements.map (·.format settings.format))) ∧
      (runArgs faulty ["render"]).outcome = ⟨"", "<stdin>#2: invalid JSON\n", 1⟩ ∧
      (∀ settings, ¬ HasSettings locked .initial settings) ∧
      (runArgs locked ["render"]).outcome = ⟨"", refusal, 1⟩ := by
  intro world tokens args out faulty locked refusal
  have hread : read tokens = .ok (.render args) := by decide +kernel
  have hout : (runArgs world tokens).outcome = ⟨out, "", 0⟩ := by decide +kernel
  have hstatements := ((run_documents hread world).2.1 out).mp hout
  have hinitial : read ["render"] = .ok (.render .initial) := rfl
  -- The second world: an empty clause map, which has no statement, and a text that breaks off.
  have hstream : Json.stream "\x7b\x7d [".toList = ([.object []], false) := by
    rw [← Json.documentsOf_eq_stream]
    decide +kernel
  have hdocs : faulty.documents []
      = [⟨"<stdin>#1", some (.object [])⟩] ++ ⟨"<stdin>#2", none⟩ :: [] := by
    have htext : faulty.documents [] = Document.ofText "<stdin>" "\x7b\x7d [" := List.append_nil _
    rw [htext, Document.ofText, hstream]
    rfl
  have hsettings : HasSettings faulty .initial ⟨.default, .json⟩ := ⟨.default, rfl, rfl⟩
  obtain ⟨-, -, hfailed, hfirst⟩ := run_documents hinitial faulty
  obtain ⟨-, hfault⟩ := hfirst _ hsettings _ _ _ _ hdocs rfl
  have hfault := hfault (List.forall_mem_singleton.mpr ⟨_, rfl⟩)
    (List.forall_mem_singleton.mpr ⟨⟨"<stdin>#1", .empty⟩, rfl⟩)
  -- The third world: the file is there, so it is no use that the input could be rendered.
  obtain ⟨hloads, -, hlocked, -⟩ := run_documents hinitial locked
  have hnone : ∀ settings, ¬ HasSettings locked .initial settings := by
    intro settings hsettings
    obtain ⟨file, hfile, -⟩ := (hloads settings).mp hsettings
    cases hfile with
    | absent _ hthere => cases hthere
    | present _ htext => cases htext
  exact ⟨hread, hout, hstatements, hfailed _ hfault, hnone, hlocked _ rfl⟩

end Command

end Clausal
