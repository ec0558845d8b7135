/-!
# Cutting text

The longest whole-character beginning of a text within a number of UTF-8 bytes. Where it ends is
looked for from the limit backwards.
-/

namespace Clausal

/-- The last position of `s` with at most `limit` bytes before it. Only a place between two
characters is a position, so that a text can be cut at every one. -/
def lastPosition (s : String) : (limit : Nat) → s.Pos
  | 0 => s.startPos
  | n + 1 =>
    if h : (⟨n + 1⟩ : String.Pos.Raw).IsValid s then s.pos ⟨n + 1⟩ h else lastPosition s n

/-- The longest beginning of `s` that takes at most `limit` bytes. -/
def cutText (limit : Nat) (s : String) : String :=
  if s.utf8ByteSize ≤ limit then s else (s.sliceTo (lastPosition s limit)).copy

end Clausal
