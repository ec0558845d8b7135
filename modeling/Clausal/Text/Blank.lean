/-!
# Blank characters

The characters with the Unicode property White_Space, and texts without those at their ends.
-/

namespace Clausal

def blankCodes : List Nat :=
  [0x09, 0x0A, 0x0B, 0x0C, 0x0D, 0x20, 0x85, 0xA0, 0x1680, 0x2000, 0x2001, 0x2002, 0x2003, 0x2004,
    0x2005, 0x2006, 0x2007, 0x2008, 0x2009, 0x200A, 0x2028, 0x2029, 0x202F, 0x205F, 0x3000]

def isBlankChar (c : Char) : Bool :=
  blankCodes.contains c.toNat

/-- The characters without the blank ones at the two ends. -/
def trimChars (cs : List Char) : List Char :=
  ((cs.dropWhile isBlankChar).reverse.dropWhile isBlankChar).reverse

/-- The text without the blank characters at its two ends. -/
def trimText (s : String) : String :=
  String.ofList (trimChars s.toList)

end Clausal
