import Clausal.Text.Hidden

/-!
# Quoted text

A text between double quotes as it is shown in messages: the quote, the backslash and the common
control characters have a letter after a backslash, other hidden characters their code point in
braces.
-/

namespace Clausal

/-- The code point of `c` in base sixteen. -/
def codeText (c : Char) : List Char :=
  Nat.toDigits 16 c.toNat

def quoteChar (c : Char) : List Char :=
  if c = '\x00' then ['\\', '0']
  else if c = '\t' then ['\\', 't']
  else if c = '\n' then ['\\', 'n']
  else if c = '\r' then ['\\', 'r']
  else if c = '"' then ['\\', '"']
  else if c = '\\' then ['\\', '\\']
  else if isHidden c then '\\' :: 'u' :: '\x7b' :: codeText c ++ ['\x7d']
  else [c]

def quoteText (s : String) : String :=
  String.ofList ('"' :: s.toList.flatMap quoteChar ++ ['"'])

end Clausal
