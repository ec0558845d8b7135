import Clausal.Document.Decode
import Clausal.Document.Encode
import Clausal.Json.Reader

/-!
# Documents as text

Reading a value from a text that holds one JSON value. A fault in the value itself is reported
before anything that follows it is looked at.
-/

namespace Clausal

inductive TextError where
  | invalidJson
  | invalidContent (e : QueryError)
  deriving DecidableEq

namespace Document

/-- Read a text with a reader for the JSON value in it. -/
def readText {α : Type} (read : Json → Except QueryError α) (text : String) :
    Except TextError α :=
  match Json.readFirst? Json.documentRoom text.toList with
  | none => .error .invalidJson
  | some (value, rest) =>
    match read value with
    | .error e => .error (.invalidContent e)
    | .ok a => if rest.all Json.isBlank then .ok a else .error .invalidJson

end Document

def ClauseMap.ofText (text : String) : Except TextError ClauseMap :=
  Document.readText (ClauseMap.ofJson .default) text

def Param.ofText (text : String) : Except TextError Param :=
  Document.readText (fun v => .ok (.ofJson v)) text

end Clausal
