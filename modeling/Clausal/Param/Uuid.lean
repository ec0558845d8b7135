import Clausal.Number.Digits

/-!
# UUIDs

A UUID is a 128-bit word. Its text has 32 hexadecimal digits in groups of 8, 4, 4, 4 and 12.
-/

namespace Clausal

structure Uuid where
  word : BitVec 128
  deriving DecidableEq

namespace Uuid

/-- The bytes, the most significant first. -/
def bytes (u : Uuid) : List UInt8 :=
  (List.range 16).map fun i => UInt8.ofNat (u.word.toNat >>> (8 * (15 - i)))

/-- The hexadecimal digits, the most significant first. -/
def digits (u : Uuid) : List Char :=
  (List.range 32).map fun i => hexDigit ((u.word.toNat >>> (4 * (31 - i))) % 16)

def text (u : Uuid) : String :=
  let ds := u.digits
  String.ofList (ds.take 8 ++ '-' :: (ds.drop 8).take 4 ++ '-' :: (ds.drop 12).take 4
    ++ '-' :: (ds.drop 16).take 4 ++ '-' :: ds.drop 20)

/-- The word that the digits denote. -/
def ofDigits? (ds : List Char) : Option Nat :=
  ds.foldl (fun word? c => do
    let word ← word?
    let value ← hexValue? c
    some (16 * word + value)) (some 0)

/-- Whether a hyphen stands at each of the four places between the groups. -/
def hyphenated (cs : List Char) : Bool :=
  [8, 13, 18, 23].all fun i => cs[i]? == some '-'

/-- Read a text of 36 characters with digits of either case. -/
def ofText? (s : String) : Option Uuid :=
  let cs := s.toList
  if cs.length = 36 ∧ hyphenated cs then
    let ds := cs.take 8 ++ (cs.drop 9).take 4 ++ (cs.drop 14).take 4 ++ (cs.drop 19).take 4
      ++ cs.drop 24
    (ofDigits? ds).map fun n => ⟨BitVec.ofNat 128 n⟩
  else none

end Uuid

end Clausal
