import Clausal.Command.Help
import Clausal.Command.Inputs
import Clausal.Command.Settings
import Clausal.Document.Encode
import Clausal.Query.Combine

/-!
# Runs

What the program does with its arguments in a given world. A command prints at its end, all at once.
-/

namespace Clausal

/-! ## Statements as output -/

/-- The JSON form of a statement. -/
def Statement.toJson (s : Statement) : Json :=
  .object [("text", .string s.text), ("values", .array (s.values.map Param.toJson))]

/-- A line for each bound value, numbered from `n`. -/
def valueLines (n : Nat) : List Param → String
  | [] => ""
  | p :: ps => Action.placeholder n ++ " = " ++ p.display ++ "\n" ++ valueLines (n + 1) ps

def Statement.format (s : Statement) : OutputFormat → String
  | .json => s.toJson.pretty ++ "\n"
  | .text => s.text ++ "\n" ++ valueLines 1 s.values

namespace Command

/-- What a configuration file says, by its text. -/
def parseConfig (path text : String) : Traced ConfigFile :=
  match ConfigFile.ofText? text with
  | none => .fail (.malformedConfig path)
  | some file =>
    if file.isSupported then pure file else .fail (.unsupportedVersion file.version)

/-- The configuration file of a run. Where it is not named, it may be missing. -/
def loadConfig (world : World) (path : String) (named : Bool) : Traced ConfigFile :=
  if !named && !world.isThere path then do
    Traced.emit (.noConfigFile path)
    return .default
  else
    match world.file path with
    | .error fault => .fail (.unreadableConfig path fault)
    | .ok text => parseConfig path text

/-- Render clause maps one by one. In the text format an empty line stands before each but the
first. -/
def renderInputs (settings : Settings) (first : Bool) : List Input → Traced String
  | [] => pure ""
  | input :: inputs =>
    match input.map.render settings.limit with
    | .error e => .fail (.unrenderable input.source e)
    | .ok s => do
      Traced.emit s.event
      let rest ← renderInputs settings false inputs
      let gap := if !first && settings.format == .text then "\n" else ""
      return gap ++ s.format settings.format ++ rest

def runRender (world : World) (args : RenderArgs) : Traced Unit := do
  let file ← loadConfig world args.config args.configNamed
  let settings := Settings.resolve file args.maxDepth args.format
  let inputs ← Input.read settings.limit world args.files
  if inputs.isEmpty then .fail .noMaps
  else do
    let out ← renderInputs settings true inputs
    Traced.print out

/-- The clause maps of the named files. -/
def readMaps (world : World) (files : List String) : Traced (List ClauseMap) := do
  let inputs ← Input.read .default world files
  Traced.emit (.combining inputs.length)
  return inputs.map Input.map

/-- The text that a clause map is printed as. -/
def printMap (m : ClauseMap) : String :=
  m.toJson.pretty ++ "\n"

def runMerge (world : World) (files : List String) : Traced Unit := do
  let maps ← readMaps world files
  Traced.print (printMap (ClauseMap.mergeAll maps))

def runAppend (world : World) (files : List String) : Traced Unit := do
  let maps ← readMaps world files
  match ClauseMap.appendAll maps with
  | .ok m => Traced.print (printMap m)
  | .error e => .fail (.notAppendable e)

def run (world : World) : Command → Traced Unit
  | .help topic => Traced.print topic.text
  | .render args => runRender world args
  | .merge files => runMerge world files
  | .append files => runAppend world files

/-- The run of the program on its arguments. -/
def runArgs (world : World) (args : List String) : Traced Unit :=
  match read args with
  | .ok command => command.run world
  | .error e => .fail (.usage e)

end Command

/-! ## Outcomes -/

/-- What is left of a run: the texts on its two outputs, and its exit code. The log is apart from
them. Of a document or a file that is not valid the message says which, but not what is wrong in
it. -/
structure Outcome where
  stdout : String
  stderr : String
  exitCode : UInt32
  deriving DecidableEq, Repr

/-- The outcome of a run. What was printed before a failure stays printed; the failure itself is
told on the other output. -/
def Traced.outcome (run : Traced Unit) : Outcome :=
  match run.result with
  | .ok () => ⟨run.printed, "", 0⟩
  | .error f => ⟨run.printed, f.message ++ "\n", 1⟩

end Clausal
