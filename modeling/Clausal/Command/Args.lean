import Clausal.Command.Numeral
import Clausal.Text.Blank
import Clausal.Text.Quoted

/-!
# Arguments

The commands and what they are given. Arguments of a render are read from left to right: an option
takes the argument after it, whatever that is, or the text behind its equals sign; the last use of
an option counts.
-/

namespace Clausal

inductive OutputFormat where
  | json
  | text
  deriving DecidableEq, Repr

inductive HelpTopic where
  | root
  | render
  | merge
  | append
  deriving DecidableEq, Repr

/-- The options that take a value. -/
inductive ValueOption where
  | config
  | maxDepth
  | format
  deriving DecidableEq, Repr

structure RenderArgs where
  config : String
  /-- Whether the configuration file was named, so that it has to exist. -/
  configNamed : Bool
  maxDepth : Option Nat
  format : Option OutputFormat
  files : List String
  deriving DecidableEq, Repr

inductive Command where
  | help (topic : HelpTopic)
  | render (args : RenderArgs)
  | merge (files : List String)
  | append (files : List String)
  deriving DecidableEq, Repr

inductive UsageError where
  | unknownCommand (name : String)
  | unknownArgument (token : String)
  | missingValue (option : ValueOption)
  | badDepth (text : String) (fault : NumeralFault)
  | badFormat (text : String)
  deriving DecidableEq, Repr

namespace ValueOption

def name : ValueOption → String
  | config => "--config"
  | maxDepth => "--max-depth"
  | format => "--format"

def all : List ValueOption :=
  [config, maxDepth, format]

def ofToken? (token : String) : Option ValueOption :=
  all.find? (·.name == token)

/-- What an argument with an option and a value in one starts with. -/
def lead (o : ValueOption) : List Char :=
  o.name.toList ++ ['=']

end ValueOption

namespace UsageError

def message : UsageError → String
  | unknownCommand name => "unknown command: " ++ name
  | unknownArgument token => "unknown argument: " ++ token
  | missingValue option => option.name ++ " requires a value"
  | badDepth text fault => "invalid --max-depth " ++ quoteText text ++ ": " ++ fault.message
  | badFormat text => "unsupported output format: " ++ text ++ " (expected json or text)"

end UsageError

/-! ## Values of options -/

/-- Take `lead` away from the start of a text as often as it stands there. -/
def stripLead (lead : List Char) : Nat → List Char → List Char
  | 0, cs => cs
  | fuel + 1, cs =>
    if lead.isPrefixOf cs then stripLead lead fuel (cs.drop lead.length) else cs

/-- An option and its value in one argument. The start of the argument is taken away from the
value too, should the value start with it. -/
def ValueOption.ofInline? (token : String) : Option (ValueOption × String) :=
  let cs := token.toList
  (ValueOption.all.find? fun o => o.lead.isPrefixOf cs).map fun o =>
    (o, String.ofList (stripLead o.lead cs.length cs))

def lowerText (s : String) : String :=
  String.ofList (s.toList.map Char.toLower)

/-- Read the name of a format; its case and the blanks around it do not matter. -/
def OutputFormat.read (text : String) : Except UsageError OutputFormat :=
  let name := lowerText (trimText text)
  if name = "json" then .ok .json
  else if name = "text" then .ok .text
  else .error (.badFormat name)

/-- Read a depth; blanks around it do not matter. -/
def readDepth (text : String) : Except UsageError Nat :=
  match Numeral.read (trimText text) with
  | .ok n => .ok n
  | .error fault => .error (.badDepth text fault)

namespace RenderArgs

/-- The file that settings are read from when no other is named. -/
def defaultConfig : String := "sqlshape.toml"

def initial : RenderArgs :=
  ⟨defaultConfig, false, none, none, []⟩

/-- Give an option a value. -/
def set (args : RenderArgs) (value : String) : ValueOption → Except UsageError RenderArgs
  | .config => .ok { args with config := value, configNamed := true }
  | .maxDepth => do return { args with maxDepth := some (← readDepth value) }
  | .format => do return { args with format := some (← OutputFormat.read value) }

def addFile (args : RenderArgs) (file : String) : RenderArgs :=
  { args with files := args.files ++ [file] }

end RenderArgs

/-! ## Commands -/

def isHelp (token : String) : Bool :=
  token == "-h" || token == "--help"

/-- Whether an argument looks like an option. A lone dash does not; it names the standard input. -/
def isDashed (token : String) : Bool :=
  token.toList.head? == some '-' && token != "-"

namespace Command

def readRender (args : RenderArgs) : List String → Except UsageError Command
  | [] => .ok (.render args)
  | token :: rest =>
    if isHelp token then .ok (.help .render)
    else
      match ValueOption.ofToken? token with
      | some o =>
        match rest with
        | [] => .error (.missingValue o)
        | value :: rest =>
          match args.set value o with
          | .ok args => readRender args rest
          | .error e => .error e
      | none =>
        match ValueOption.ofInline? token with
        | some (o, value) =>
          match args.set value o with
          | .ok args => readRender args rest
          | .error e => .error e
        | none =>
          if isDashed token then .error (.unknownArgument token)
          else readRender (args.addFile token) rest

/-- Read the files of a command that combines them. -/
def readFiles (topic : HelpTopic) (command : List String → Command) (files : List String) :
    List String → Except UsageError Command
  | [] => .ok (command files)
  | token :: rest =>
    if isHelp token then .ok (.help topic)
    else if isDashed token then .error (.unknownArgument token)
    else readFiles topic command (files ++ [token]) rest

/-- Read the arguments of the program. -/
def read : List String → Except UsageError Command
  | [] => .ok (.help .root)
  | name :: rest =>
    if isHelp name then .ok (.help .root)
    else if name = "render" then readRender .initial rest
    else if name = "merge" then readFiles .merge .merge [] rest
    else if name = "append" then readFiles .append .append [] rest
    else .error (.unknownCommand name)

end Command

end Clausal
