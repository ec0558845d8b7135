import Clausal.Statement.Render
import Clausal.Text.Cut

/-!
# Events

What the library and the command line report of their work as they go. Every field of an event is
a text.
-/

namespace Clausal

inductive Event where
  | rendered (paramCount : Nat) (sql : String)
  | noConfigFile (path : String)
  | parsed (source : String) (clauses : Nat)
  | combining (count : Nat)
  deriving DecidableEq, Repr

namespace Event

/-- The part of the program that an event comes from. -/
def target : Event → String
  | rendered _ _ => "sqlshape.render"
  | noConfigFile _ => "sqlshape_cli::config"
  | parsed _ _ => "sqlshape_cli::input"
  | combining _ => "sqlshape_cli::combine_cmd"

def message : Event → String
  | rendered _ _ => "rendered statement"
  | noConfigFile _ => "no config file, using defaults"
  | parsed _ _ => "parsed clause map"
  | combining _ => "combining clause maps"

/-- The fields besides the message. -/
def details : Event → List (String × String)
  | rendered paramCount sql => [("param_count", natText paramCount), ("sql", sql)]
  | noConfigFile path => [("path", path)]
  | parsed source clauses => [("source", source), ("clauses", natText clauses)]
  | combining count => [("count", natText count)]

end Event

namespace Statement

/-- How many bytes of a statement an event shows. -/
def shownBytes : Nat := 200

/-- The text of a statement in an event. A long text is cut between two characters and ends with
three dots. -/
def shownText (s : Statement) : String :=
  if shownBytes < s.text.utf8ByteSize then cutText shownBytes s.text ++ "..." else s.text

def event (s : Statement) : Event :=
  .rendered s.values.length s.shownText

end Statement

end Clausal
