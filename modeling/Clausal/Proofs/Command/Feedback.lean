import Clausal.Proofs.Command.Output
import Clausal.Proofs.Command.RenderStage
import Clausal.Proofs.Document.KeyOrder
import Clausal.Proofs.Document.Union
import Clausal.Proofs.Json.PrettyText
import Clausal.Query.Equality

/-!
# Printed maps as inputs

What a merge or an append prints can be given to another run, and is then read as the map that was
printed. The one condition is on the nesting of its document: documents may nest 127 levels deep,
and an append of conditions nests a level deeper with every map.
-/

namespace Clausal

/-! ## Texts as inputs -/

/-- The files that a run is given stand for one text, which goes by the name `source`. -/
inductive World.Feeds (world : World) (text : String) : List String → String → Prop
  | stdin (h : world.stdin = .ok text) : World.Feeds world text [] "<stdin>"
  | dash (h : world.stdin = .ok text) : World.Feeds world text ["-"] "<stdin>"
  | file {path : String} (hpath : path ≠ "-") (h : world.file path = .ok text) :
    World.Feeds world text [path] path

theorem Json.documentsOf_pretty {v : Json} (h : v.Sorted) (hfloats : ∀ x ∈ v.floats, x.ReadsBack) :
    documentsOf (v.pretty ++ "\n") = if v.nesting ≤ 127 then ([v], true) else ([], false) := by
  have hblank : isBlank '\n' = true := rfl
  have htext : (v.pretty ++ "\n").toList = v.pretty.toList ++ ['\n'] := by simp
  rw [documentsOf, htext, documents, all_isBlank_pretty h hfloats, nextDocument?_pretty h hfloats]
  by_cases hroom : v.nesting ≤ 127
  · simp [hroom, hblank, documents]
  · simp [hroom]

namespace Input

variable {limit : DepthLimit} {world : World}

theorem result_read_of_feeds {text source : String} {files : List String}
    (h : world.Feeds text files source) :
    (read limit world files).result = (ofText limit source text).result := by
  have hlast : ∀ (t : Traced (List Input)) (stdin : FileRead),
      (do return (← t) ++ (← ofFiles limit world stdin [])).result = t.result := by
    rintro ⟨events, printed, result⟩ stdin
    cases result with
    | error f => rfl
    | ok inputs => exact congrArg Except.ok (List.append_nil inputs)
  cases h with
  | stdin h => simp [read, ofStdin, h]
  | dash h =>
    rw [read, h]
    exact hlast (ofText limit "<stdin>" text) (.ok "")
  | file hpath h =>
    rw [read, if_neg (by simp), ofFiles, if_neg hpath, ofFile, h]
    exact hlast (ofText limit source text) world.stdin

/-- A file may be named more than once. -/
theorem result_read_replicate {path : String} (hpath : path ≠ "-") {input : Input}
    (h : (ofFile limit world path).result = .ok [input]) (n : Nat) :
    (read limit world (List.replicate (n + 1) path)).result
      = .ok (List.replicate (n + 1) input) := by
  have hfiles : ∀ stdin k, (ofFiles limit world stdin (List.replicate k path)).result
      = .ok (List.replicate k input) := by
    intro stdin k
    induction k with
    | zero => rfl
    | succ k ih =>
      rw [List.replicate_succ, ofFiles, if_neg hpath, Traced.result_bind, h, Except.bind,
        Traced.result_bind, ih]
      rfl
  exact hfiles world.stdin (n + 1)

/-- The document of a settled map is accepted where it nests no deeper than documents may. -/
theorem result_ofText_printMap {m : ClauseMap} (hsettled : Settled limit m.traversal)
    (hsorted : m.toJson.Sorted) (hfloats : ∀ x ∈ m.toJson.floats, x.ReadsBack) (source : String) :
    (ofText limit source (Command.printMap m)).result =
      if m.toJson.nesting ≤ 127 then .ok [⟨label source 1, m⟩]
      else .error (.invalidJson (label source 1)) := by
  rw [ofText, Command.printMap, Json.documentsOf_pretty hsorted hfloats]
  by_cases hroom : m.toJson.nesting ≤ 127
  · rw [if_pos hroom, if_pos hroom]
    change (ofDocuments limit source true 1 [m.toJson]).result = _
    rw [ofDocuments, ClauseMap.ofJson_toJson_of_settled hsettled]
    rfl
  · rw [if_neg hroom, if_neg hroom]
    rfl

end Input

/-! ## Appended conditions -/

/-- Every condition that is appended makes the conditions nest one level deeper. -/
theorem Clause.nesting_gather_where (e : Expr) (cs : List (Clause .where_)) :
    e.toJson.nesting + cs.length ≤ ((Clause.where_ e).gather cs).payload.nesting := by
  induction cs generalizing e with
  | nil => exact Nat.le_refl _
  | cons c cs ih =>
    cases c with
    | where_ e' =>
      have hpair : e.toJson.nesting + 1 ≤ (Expr.and [e, e']).toJson.nesting := by
        simp only [Expr.toJson, tagged, Json.nesting, Json.itemsNesting, Expr.listToJson]
        omega
      have hrest : (Expr.and [e, e']).toJson.nesting + cs.length
          ≤ ((Clause.where_ e).gather (.where_ e' :: cs)).payload.nesting := ih (.and [e, e'])
      rw [List.length_cons]
      omega

namespace ClauseMap

variable {maps : List ClauseMap} {m : ClauseMap}

theorem nesting_payload_lt {k : ClauseKind} {c : Clause k} (h : m.get? k = some c) :
    c.payload.nesting < m.toJson.nesting := by
  have hfield := m.field?_sortedFields k
  rw [h] at hfield
  have hmem := (Json.field?_eq_some_iff m.ascending_sortedFields.nodup_keys).mp hfield
  rw [m.toJson_eq_object, Json.nesting]
  exact Nat.lt_succ_of_le (Json.nesting_le_fieldsNesting hmem)

/-- An append nests as deep as there are conditions in the maps. -/
theorem length_held_le_nesting (h : appendAll maps = .ok m) :
    (held .where_ maps).length ≤ m.toJson.nesting := by
  have hslot := get?_appendAll h .where_
  cases hheld : held .where_ maps with
  | nil => exact Nat.zero_le _
  | cons c cs =>
    cases c with
    | where_ e =>
      rw [hheld] at hslot
      have hcondition := Clause.nesting_gather_where e cs
      have hpayload := nesting_payload_lt hslot
      rw [List.length_cons]
      omega

end ClauseMap

namespace Expr

/-- Conditions connected in pairs from the left. -/
def conjoin (e : Expr) (es : List Expr) : Expr :=
  es.foldl (fun e e' => .and [e, e']) e

theorem marks_conjoin (e : Expr) (es : List Expr) (d : Nat) :
    (e.conjoin es).marks d = e.marks d ++ es.flatMap (marks d) := by
  induction es generalizing e with
  | nil => exact (List.append_nil _).symm
  | cons e' es ih =>
    refine (ih (and [e, e'])).trans ?_
    rw [marks_and_pair, List.flatMap_cons, List.append_assoc]

theorem floats_toJson_conjoin (e : Expr) (es : List Expr) :
    (e.conjoin es).toJson.floats = e.toJson.floats ++ es.flatMap fun e' => e'.toJson.floats := by
  induction es generalizing e with
  | nil => exact (List.append_nil _).symm
  | cons e' es ih =>
    refine (ih (and [e, e'])).trans ?_
    simp [toJson, tagged, Json.floats, Json.itemsFloats]

end Expr

namespace ClauseMap

/-- The map with a condition and nothing else. -/
def filter (e : Expr) : ClauseMap :=
  .ofList [⟨_, .where_ e⟩]

theorem traversal_filter (e : Expr) : (filter e).traversal = e.marks 0 :=
  List.append_nil _

theorem floats_filter (e : Expr) : (filter e).toJson.floats = e.toJson.floats :=
  List.append_nil _

theorem held_map_filter (es : List Expr) : held .where_ (es.map filter) = es.map .where_ := by
  have hheld : (fun m : ClauseMap => m.get? .where_) ∘ filter = some ∘ Clause.where_ := rfl
  rw [held, List.filterMap_map, hheld, List.filterMap_eq_map]

theorem appendAll_map_filter (e : Expr) (es : List Expr) :
    appendAll ((e :: es).map filter) = .ok (filter (e.conjoin es)) := by
  change (es.map filter).foldlM appendNext (filter e) = _
  induction es generalizing e with
  | nil => rfl
  | cons e' es ih =>
    have hnext : appendNext (filter e) (filter e') = .ok (filter (.and [e, e'])) := rfl
    rw [List.map_cons, List.foldlM_cons, hnext]
    exact ih (.and [e, e'])

theorem length_lt_nesting_filter_conjoin (e : Expr) (es : List Expr) :
    es.length < (filter (e.conjoin es)).toJson.nesting := by
  have h := length_held_le_nesting (appendAll_map_filter e es)
  rw [held_map_filter, List.length_map, List.length_cons] at h
  exact h

end ClauseMap

/-! ## Combined maps -/

namespace Command

/-- The map that a command makes of its inputs. -/
inductive Combines (world : World) : Command → ClauseMap → Prop
  | merge {files : List String} {inputs : List Input}
    (h : (Input.read .default world files).result = .ok inputs) :
    Combines world (.merge files) (.mergeAll (inputs.map Input.map))
  | append {files : List String} {inputs : List Input} {m : ClauseMap}
    (h : (Input.read .default world files).result = .ok inputs)
    (hm : ClauseMap.appendAll (inputs.map Input.map) = .ok m) : Combines world (.append files) m

variable {world : World} {command : Command} {m : ClauseMap}

theorem Combines.exists_combinationOf (h : Combines world command m) :
    ∃ inputs, Input.AllAccepted .default inputs ∧
      ClauseMap.CombinationOf (inputs.map Input.map) m := by
  cases h with
  | merge h => exact ⟨_, (Input.read_ensures .default world _).of_result_eq_ok h, .merged⟩
  | append h hm => exact ⟨_, (Input.read_ensures .default world _).of_result_eq_ok h, .appended hm⟩

theorem combines_replicate_filter {path label : String} {e : Expr} (hpath : path ≠ "-")
    (h : (Input.ofFile .default world path).result = .ok [⟨label, .filter e⟩]) (n : Nat) :
    Combines world (.append (List.replicate (n + 1) path))
      (.filter (e.conjoin (List.replicate n e))) := by
  refine .append (Input.result_read_replicate hpath h n) ?_
  rw [List.map_replicate, ← ClauseMap.appendAll_map_filter, ← List.replicate_succ,
    List.map_replicate]

theorem Combines.length_held_le_nesting {files : List String} {inputs : List Input}
    (h : Combines world (.append files) m)
    (hinputs : (Input.read .default world files).result = .ok inputs) :
    (ClauseMap.held .where_ (inputs.map Input.map)).length ≤ m.toJson.nesting := by
  cases h with
  | append hread hm =>
    cases hread.symm.trans hinputs
    exact ClauseMap.length_held_le_nesting hm

theorem Combines.settled (h : Combines world command m) : Settled .default m.traversal := by
  obtain ⟨inputs, haccepted, hm⟩ := h.exists_combinationOf
  refine hm.settled fun n hn => ?_
  obtain ⟨input, hinput, rfl⟩ := List.mem_map.mp hn
  obtain ⟨doc, -, hdoc⟩ := haccepted input hinput
  exact ClauseMap.settled_of_ofJson hdoc

theorem Combines.sorted_toJson (h : Combines world command m) : m.toJson.Sorted := by
  obtain ⟨inputs, haccepted, hm⟩ := h.exists_combinationOf
  refine hm.sorted_toJson fun n hn => ?_
  obtain ⟨input, hinput, rfl⟩ := List.mem_map.mp hn
  exact ⟨_, haccepted input hinput⟩

/-- What is read where the printed map is the only input. -/
theorem Combines.result_read (h : Combines world command m)
    (hfloats : ∀ x ∈ m.toJson.floats, x.ReadsBack) {next : World} {files : List String}
    {source : String} (hfeeds : next.Feeds (printMap m) files source) :
    (Input.read .default next files).result =
      if m.toJson.nesting ≤ 127 then .ok [⟨Input.label source 1, m⟩]
      else .error (.invalidJson (Input.label source 1)) :=
  (Input.result_read_of_feeds hfeeds).trans
    (Input.result_ofText_printMap h.settled h.sorted_toJson hfloats source)

theorem result_readMaps (world : World) (files : List String) :
    (readMaps world files).result
      = (Input.read .default world files).result.map (List.map Input.map) := by
  rw [readMaps, Traced.result_bind]
  cases (Input.read .default world files).result <;> rfl

theorem answer_runMerge (world : World) (files : List String) :
    (runMerge world files).answer = (Input.read .default world files).result.map fun inputs =>
      printMap (.mergeAll (inputs.map Input.map)) := by
  rw [runMerge, (silent_readMaps world files).answer_bind, result_readMaps]
  cases (Input.read .default world files).result <;> rfl

theorem answer_runAppend (world : World) (files : List String) :
    (runAppend world files).answer = (Input.read .default world files).result.bind fun inputs =>
      match ClauseMap.appendAll (inputs.map Input.map) with
      | .ok m => .ok (printMap m)
      | .error e => .error (.notAppendable e) := by
  rw [runAppend, (silent_readMaps world files).answer_bind, result_readMaps]
  cases (Input.read .default world files).result with
  | error f => rfl
  | ok inputs =>
    dsimp only [Except.map, Except.bind]
    cases ClauseMap.appendAll (inputs.map Input.map) <;> rfl

theorem answer_run_of_combines (h : Combines world command m) :
    (command.run world).answer = .ok (printMap m) := by
  cases h with
  | merge h => rw [run, answer_runMerge, h]; rfl
  | append h hm => rw [run, answer_runAppend, h, Except.bind, hm]

theorem exists_combines {files : List String}
    (hcommand : command = .merge files ∨ command = .append files) {out : String}
    (h : (command.run world).answer = .ok out) :
    ∃ m, Combines world command m ∧ out = printMap m := by
  rcases hcommand with rfl | rfl
  · rw [run, answer_runMerge] at h
    cases hread : (Input.read .default world files).result with
    | error f => rw [hread] at h; cases h
    | ok inputs =>
      rw [hread] at h
      cases h
      exact ⟨_, .merge hread, rfl⟩
  · rw [run, answer_runAppend] at h
    cases hread : (Input.read .default world files).result with
    | error f => rw [hread] at h; cases h
    | ok inputs =>
      rw [hread, Except.bind] at h
      cases hm : ClauseMap.appendAll (inputs.map Input.map) with
      | error e => rw [hm] at h; cases h
      | ok m =>
        rw [hm] at h
        cases h
        exact ⟨m, .append hread hm, rfl⟩

/-! ## Rendering what was printed -/

/-- What a render prints whose one input is `m`, under the name `label`. -/
def renderAlone (settings : Settings) (label : String) (m : ClauseMap) : Except Failure String :=
  match m.render settings.limit with
  | .ok s => .ok (s.format settings.format)
  | .error e => .error (.unrenderable label e)

theorem result_renderInputs_singleton (settings : Settings) (label : String) (m : ClauseMap) :
    (renderInputs settings true [⟨label, m⟩]).result = renderAlone settings label m := by
  rw [renderInputs, renderAlone]
  cases m.render settings.limit with
  | error e => rfl
  | ok s => simp [bind, Traced.andThen, Traced.emit, renderInputs, pure]

/-- The settings of a render are those of its configuration file and its options. -/
def HasSettings (world : World) (args : RenderArgs) (settings : Settings) : Prop :=
  ∃ file, (loadConfig world args.config args.configNamed).result = .ok file ∧
    Settings.resolve file args.maxDepth args.format = settings

theorem answer_runRender {args : RenderArgs} {settings : Settings}
    (h : HasSettings world args settings) :
    (runRender world args).answer = (Input.read settings.limit world args.files).result.bind
      fun inputs =>
        if inputs.isEmpty then .error .noMaps else (renderInputs settings true inputs).result := by
  obtain ⟨file, hconfig, rfl⟩ := h
  rw [runRender, (silent_loadConfig world args.config args.configNamed).answer_bind, hconfig,
    Except.bind, (Input.silent_read _ world args.files).answer_bind]
  cases (Input.read (Settings.resolve file args.maxDepth args.format).limit world
    args.files).result with
  | error f => rfl
  | ok inputs =>
    cases inputs with
    | nil => rfl
    | cons input inputs => exact (silent_renderInputs ..).answer_bind_print

/-- What a merge or an append prints is read as the one map that was printed, and rendered as that
map, if its document nests no deeper than documents may. A document that nests deeper is refused,
as is that of an append of more conditions than documents may nest levels. Numbers that are no
integers have to be read back from their own texts for this. -/
theorem run_fed_back {files : List String}
    (hcommand : command = .merge files ∨ command = .append files) {out : String}
    (h : (command.run world).answer = .ok out) :
    ∃ m, Combines world command m ∧ out = printMap m ∧
      (∀ inputs, command = .append files → (Input.read .default world files).result = .ok inputs →
        (ClauseMap.held .where_ (inputs.map Input.map)).length ≤ m.toJson.nesting) ∧
      ((∀ x ∈ m.toJson.floats, x.ReadsBack) →
        ∀ (next : World) (args : RenderArgs) (source : String),
          next.Feeds out args.files source →
          (m.toJson.nesting ≤ 127 →
            (Input.read .default next args.files).result = .ok [⟨Input.label source 1, m⟩] ∧
              ∀ settings, HasSettings next args settings → settings.limit = .default →
                (runRender next args).answer = renderAlone settings (Input.label source 1) m) ∧
          (127 < m.toJson.nesting →
            (Input.read .default next args.files).result
                = .error (.invalidJson (Input.label source 1)) ∧
              ∀ settings, HasSettings next args settings → settings.limit = .default →
                (runRender next args).answer
                  = .error (.invalidJson (Input.label source 1)))) := by
  obtain ⟨m, hm, rfl⟩ := exists_combines hcommand h
  refine ⟨m, hm, rfl, ?_, fun hfloats next args source hfeeds => ?_⟩
  · rintro inputs rfl hinputs
    exact hm.length_held_le_nesting hinputs
  have hread := hm.result_read hfloats hfeeds
  constructor
  · intro hroom
    rw [if_pos hroom] at hread
    refine ⟨hread, fun settings hsettings hlimit => ?_⟩
    rw [answer_runRender hsettings, hlimit, hread]
    exact result_renderInputs_singleton settings _ m
  · intro hroom
    rw [if_neg (Nat.not_le_of_lt hroom)] at hread
    refine ⟨hread, fun settings hsettings hlimit => ?_⟩
    rw [answer_runRender hsettings, hlimit, hread]
    rfl

/-- Two files with a number among the bound values, appended, fed back and rendered. -/
theorem run_fed_back_float :
    let world : World :=
      ⟨["a.json", "b.json"].contains, fun path => if path = "a.json" then
          .ok "\x7b\"select\": [\"x\"], \"where\": [\">\", \"x\", \x7b\"ip\": 1.5\x7d]\x7d"
        else if path = "b.json" then .ok "\x7b\"where\": \"y\"\x7d" else .error .notFound, .ok ""⟩
    let condition := Expr.binary .gt (.ident "x") (.param (.float ⟨0x3ff8000000000000⟩))
    let m := ClauseMap.ofList
      [⟨_, .select [.ident "x"]⟩, ⟨_, .where_ (.and [condition, .ident "y"])⟩]
    let next : World := ⟨fun _ => false, fun _ => .error .notFound, .ok (printMap m)⟩
    let settings : Settings := ⟨.default, .text⟩
    let args : RenderArgs := ⟨"none.toml", false, none, some .text, []⟩
    ((Command.append ["a.json", "b.json"]).run world).answer = .ok (printMap m) ∧
      m.toJson.floats.length = 1 ∧ (∀ x ∈ m.toJson.floats, x.ReadsBack) ∧
      m.toJson.nesting = 4 ∧ next.Feeds (printMap m) [] "<stdin>" ∧
      HasSettings next args settings ∧ settings.limit = .default ∧
      (Input.read .default next []).result = .ok [⟨"<stdin>#1", m⟩] ∧
      (runRender next args).answer
        = .ok "SELECT \"x\" WHERE (\"x\" > $1 AND \"y\")\n$1 = 1.5\n" := by
  intro world condition m next settings args
  have hmaps : (readMaps world ["a.json", "b.json"]).result = .ok
      [ClauseMap.ofList [⟨_, .select [.ident "x"]⟩, ⟨_, .where_ condition⟩],
        ClauseMap.ofList [⟨_, .where_ (.ident "y")⟩]] := by decide +kernel
  have happend : ClauseMap.appendAll
      [ClauseMap.ofList [⟨_, .select [.ident "x"]⟩, ⟨_, .where_ condition⟩],
        ClauseMap.ofList [⟨_, .where_ (.ident "y")⟩]] = .ok m := rfl
  have hrun : ((Command.append ["a.json", "b.json"]).run world).answer = .ok (printMap m) := by
    rw [run, runAppend, (silent_readMaps ..).answer_bind, hmaps]
    rfl
  have hfloats : ∀ x ∈ m.toJson.floats, x.ReadsBack := by
    decide +kernel
  have hsettings : HasSettings next args settings := ⟨.default, rfl, rfl⟩
  obtain ⟨m', hm', -, -, hback⟩ := run_fed_back (.inr rfl) hrun
  obtain rfl : m = m' := by
    cases hm' with
    | append hread hm' =>
      have hinputs := result_readMaps world ["a.json", "b.json"]
      rw [hmaps, hread] at hinputs
      rw [← Except.ok.inj hinputs, happend] at hm'
      exact Except.ok.inj hm'
  obtain ⟨hread, hrender⟩ := (hback hfloats next args "<stdin>" (.stdin rfl)).1 (by decide)
  refine ⟨hrun, by decide +kernel, hfloats, by decide, .stdin rfl, hsettings, rfl, hread,
    (hrender settings hsettings rfl).trans ?_⟩
  decide +kernel

/-- An append of 128 conditions is printed, and can be rendered, but is refused as an input. -/
theorem run_fed_back_refused :
    let world : World := ⟨fun _ => true, fun _ => .ok "\x7b\"where\": \"a\"\x7d", .ok ""⟩
    let command := Command.append (List.replicate 128 "a.json")
    ∃ m, (command.run world).answer = .ok (printMap m) ∧ Combines world command m ∧
      (∃ s, m.render .default = .ok s) ∧
      (Input.read .default { world with stdin := .ok (printMap m) } []).result
        = .error (.invalidJson "<stdin>#1") := by
  intro world command
  have htext : world.file "a.json" = .ok "\x7b\"where\": \"a\"\x7d" := rfl
  have hdocs : Json.documentsOf "\x7b\"where\": \"a\"\x7d"
      = ([.object [("where", .string "a")]], true) := by decide +kernel
  have hfile : (Input.ofFile .default world "a.json").result
      = .ok [⟨"a.json#1", .filter (.ident "a")⟩] := by
    rw [Input.ofFile, htext]
    dsimp only
    rw [Input.ofText, hdocs]
    rfl
  let conditions := List.replicate 127 (Expr.ident "a")
  let m := ClauseMap.filter ((Expr.ident "a").conjoin conditions)
  have hm : Combines world command m := combines_replicate_filter (by decide) hfile 127
  have hnesting : conditions.length < m.toJson.nesting :=
    ClauseMap.length_lt_nesting_filter_conjoin (.ident "a") conditions
  rw [List.length_replicate] at hnesting
  have hfloats : ∀ x ∈ m.toJson.floats, x.ReadsBack := by
    rw [ClauseMap.floats_filter, Expr.floats_toJson_conjoin, List.forall_mem_append]
    refine ⟨nofun, fun x hx => ?_⟩
    obtain ⟨e, he, hx⟩ := List.mem_flatMap.mp hx
    rw [List.eq_of_mem_replicate he] at hx
    cases hx
  have hempty : Mark.emptyMap ∉ m.traversal := by
    rw [ClauseMap.traversal_filter, Expr.marks_conjoin, List.mem_append, not_or]
    refine ⟨by decide, fun hmark => ?_⟩
    obtain ⟨e, he, hmark⟩ := List.mem_flatMap.mp hmark
    rw [List.eq_of_mem_replicate he] at hmark
    exact absurd hmark (by decide)
  have hfeeds : World.Feeds { world with stdin := .ok (printMap m) } (printMap m) [] "<stdin>" :=
    .stdin rfl
  have hread := hm.result_read hfloats hfeeds
  rw [if_neg (Nat.not_le_of_lt hnesting)] at hread
  exact ⟨m, answer_run_of_combines hm, hm, hm.settled.render_eq_ok_iff.mpr hempty, hread⟩

end Command

end Clausal
