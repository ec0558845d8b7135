import Clausal.Param.Basic
import Clausal.Query.Error
import Clausal.Query.Limit
import Clausal.Statement.Ident
import Clausal.Text.Cut

/-!
# Writing statements

A `Writer` holds the text and the bound values written so far. An `Action` writes some more; when
it fails, what it wrote up to then stays, and nothing after it is done. Text and values grow
together: a placeholder has the number of values bound with it.
-/

namespace Clausal

structure Writer where
  text : String
  params : Array Param
  depth : Nat
  limit : DepthLimit

/-- A writer that has written nothing. -/
def Writer.start (limit : DepthLimit) : Writer :=
  ⟨"", #[], 0, limit⟩

/-- Take back the text after the first `size` bytes. What is bound stays. -/
def Writer.truncate (size : Nat) (w : Writer) : Writer :=
  { w with text := cutText size w.text }

/-- The writer afterwards, and the error if there was one. -/
abbrev Action := Writer → Writer × Option QueryError

namespace Action

def skip : Action := fun w => (w, none)

def fail (e : QueryError) : Action := fun w => (w, some e)

/-- Write a text. -/
def put (s : String) : Action := fun w => ({ w with text := w.text ++ s }, none)

/-- Write a name in its quoted form. -/
def putIdent (name : String) : Action := put (Ident.quote name)

/-- The placeholder of the `n`-th value. -/
def placeholder (n : Nat) : String :=
  String.ofList ('$' :: digitsOf n)

/-- Bind a value and write its placeholder. -/
def bind (p : Param) : Action := fun w =>
  ({ w with text := w.text ++ placeholder (w.params.size + 1), params := w.params.push p }, none)

/-- Do the first action and, unless it fails, the second. -/
def andThen (a b : Action) : Action := fun w =>
  match a w with
  | (w, none) => b w
  | (w, some e) => (w, some e)

/-- Do the actions in turn up to the first that fails. -/
def all : List Action → Action
  | [] => skip
  | a :: as => a.andThen (all as)

/-- Do the actions in turn, writing `separator` between neighbours. -/
def separated (separator : String) : List Action → Action
  | [] => skip
  | [a] => a
  | a :: b :: as => a.andThen ((put separator).andThen (separated separator (b :: as)))

/-- Write names in their quoted forms, in parentheses and with a comma between neighbours. -/
def putIdents (names : List String) : Action :=
  all [put "(", separated ", " (names.map putIdent), put ")"]

/-- Do an action one level deeper and come up again, whether it fails or not. It is not begun where
that exceeds the limit. -/
def nested (a : Action) : Action := fun w =>
  let inner := w.depth + 1
  match w.limit with
  | some n =>
    if n < inner then (w, some (.depthExceeded n))
    else
      let (after, e) := a { w with depth := inner }
      ({ after with depth := after.depth - 1 }, e)
  | none =>
    let (after, e) := a { w with depth := inner }
    ({ after with depth := after.depth - 1 }, e)

/-- Do the actions in turn with a blank between neighbours that write something. The blank comes
first, and is taken back when nothing follows it. -/
def phrases (first : Bool) : List Action → Action
  | [] => skip
  | a :: as => fun w =>
    let before := if first then w else { w with text := w.text ++ " " }
    match a before with
    | (after, some e) => (after, some e)
    | (after, none) =>
      -- Texts only grow, so equal sizes mean that nothing was written.
      if after.text.utf8ByteSize = before.text.utf8ByteSize then
        phrases first as (after.truncate w.text.utf8ByteSize)
      else phrases false as after

end Action

end Clausal
