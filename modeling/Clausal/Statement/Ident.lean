/-!
# Quoted names

A name is quoted segment by segment, the segments being what stands between its dots. A name that
already starts with a quote is kept as it is. Segments are not looked into.
-/

namespace Clausal.Ident

/-- The characters of a name whose segments are quoted: a quote at either end, and one on either
side of every dot. -/
def quoteSegments (cs : List Char) : List Char :=
  '"' :: cs.flatMap (fun c => if c = '.' then ['"', '.', '"'] else [c]) ++ ['"']

def quoteChars (cs : List Char) : List Char :=
  if cs.head? = some '"' then cs else quoteSegments cs

/-- The quoted form of a name. -/
def quote (name : String) : String :=
  String.ofList (quoteChars name.toList)

/-- The quoted names between parentheses, with a comma between neighbours. -/
def list (names : List String) : String :=
  "(" ++ ", ".intercalate (names.map quote) ++ ")"

end Clausal.Ident
