import Clausal.Command.Args
import Clausal.Command.Files
import Clausal.Document.Decode
import Clausal.Event
import Clausal.Json.Reader

/-!
# Inputs

The clause maps that a run works on. Each input is a stream of documents; the documents of all
inputs are read in order, and the first fault ends the run.
-/

namespace Clausal

/-- Why a run fails. -/
inductive Failure where
  | usage (e : UsageError)
  | unreadableConfig (path : String) (fault : FileFault)
  | malformedConfig (path : String)
  | unsupportedVersion (version : String)
  | unreadableFile (path : String) (fault : FileFault)
  | unreadableStdin (fault : FileFault)
  | invalidJson (label : String)
  | invalidMap (label : String) (e : QueryError)
  | noMaps
  | unrenderable (label : String) (e : QueryError)
  | notAppendable (e : QueryError)
  deriving DecidableEq

namespace Failure

def message : Failure → String
  | usage e => e.message
  | unreadableConfig path fault => "failed to read config file " ++ path ++ ": " ++ fault.message
  | malformedConfig path => "failed to parse config file " ++ path
  | unsupportedVersion version => "unsupported config version: " ++ version
  | unreadableFile path fault => "failed to read " ++ path ++ ": " ++ fault.message
  | unreadableStdin fault => "failed to read stdin: " ++ fault.message
  | invalidJson label => label ++ ": invalid JSON"
  | invalidMap label e => label ++ ": invalid clause map: " ++ e.message
  | noMaps => "no clause maps to render"
  | unrenderable label e => label ++ ": failed to render: " ++ e.message
  | notAppendable e => e.message

end Failure

/-- A result, together with the events on the way to it and the text that was printed. -/
structure Traced (α : Type) where
  events : List Event
  printed : String
  result : Except Failure α

namespace Traced

variable {α β : Type}

def fail (f : Failure) : Traced α :=
  ⟨[], "", .error f⟩

def emit (e : Event) : Traced Unit :=
  ⟨[e], "", .ok ()⟩

def print (s : String) : Traced Unit :=
  ⟨[], s, .ok ()⟩

def andThen (t : Traced α) (f : α → Traced β) : Traced β :=
  match t.result with
  | .ok a => ⟨t.events ++ (f a).events, t.printed ++ (f a).printed, (f a).result⟩
  | .error e => ⟨t.events, t.printed, .error e⟩

instance : Monad Traced where
  pure a := ⟨[], "", .ok a⟩
  bind := andThen

end Traced

/-! ## Streams of documents -/

/-- The documents of a text up to its end or to the first that is not valid, and whether all are
valid. -/
def Json.documents : Nat → List Char → List Json × Bool
  | 0, _ => ([], true)
  | fuel + 1, cs =>
    if cs.all isBlank then ([], true)
    else
      match nextDocument? cs with
      | none => ([], false)
      | some (doc, rest) =>
        let (docs, valid) := documents fuel rest
        (doc :: docs, valid)

/-- The documents of a whole text; each takes a character at least. -/
def Json.documentsOf (text : String) : List Json × Bool :=
  documents (text.toList.length + 1) text.toList

/-- A clause map and where it comes from. -/
structure Input where
  source : String
  map : ClauseMap

namespace Input

/-- How the `n`-th document of a source is called. -/
def label (source : String) (n : Nat) : String :=
  source ++ "#" ++ natText n

/-- Read documents as clause maps, counting from `n`. -/
def ofDocuments (limit : DepthLimit) (source : String) (valid : Bool) :
    Nat → List Json → Traced (List Input)
  | n, [] => if valid then pure [] else .fail (.invalidJson (label source n))
  | n, doc :: docs =>
    match ClauseMap.ofJson limit doc with
    | .error e => .fail (.invalidMap (label source n) e)
    | .ok m => do
      Traced.emit (.parsed (label source n) m.size)
      let inputs ← ofDocuments limit source valid (n + 1) docs
      return ⟨label source n, m⟩ :: inputs

def ofText (limit : DepthLimit) (source text : String) : Traced (List Input) :=
  let (docs, valid) := Json.documentsOf text
  ofDocuments limit source valid 1 docs

def ofStdin (limit : DepthLimit) (stdin : FileRead) : Traced (List Input) :=
  match stdin with
  | .ok text => ofText limit "<stdin>" text
  | .error fault => .fail (.unreadableStdin fault)

def ofFile (limit : DepthLimit) (world : World) (path : String) : Traced (List Input) :=
  match world.file path with
  | .ok text => ofText limit path text
  | .error fault => .fail (.unreadableFile path fault)

/-- Read the named files in order. A dash is the standard input, of which the first use leaves
nothing. -/
def ofFiles (limit : DepthLimit) (world : World) (stdin : FileRead) :
    List String → Traced (List Input)
  | [] => pure []
  | path :: paths =>
    if path = "-" then do
      let inputs ← ofStdin limit stdin
      return inputs ++ (← ofFiles limit world (.ok "") paths)
    else do
      let inputs ← ofFile limit world path
      return inputs ++ (← ofFiles limit world stdin paths)

/-- Read the named files, or the standard input where none are named. -/
def read (limit : DepthLimit) (world : World) (files : List String) : Traced (List Input) :=
  if files.isEmpty then ofStdin limit world.stdin else ofFiles limit world world.stdin files

end Input

end Clausal
