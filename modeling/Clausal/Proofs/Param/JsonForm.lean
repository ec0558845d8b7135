import Clausal.Param.Basic
import Clausal.Proofs.Number.Rounding

/-!
# JSON forms of parameters

What is left of a parameter that is written as a JSON value and read again. The plain parameters
come back as they were; all others come back plain, so a second pass changes nothing.
-/

namespace Clausal

namespace Param

/-- The parameter that the JSON form of `p` is read as. -/
def viaJson (p : Param) : Param :=
  .ofJson p.toJson

/-- The parameters with a JSON form of their own. -/
def isPlain : Param → Bool
  | .null => true
  | .bool _ => true
  | .int _ => true
  | .float x => x.isFinite
  | .text _ => true
  | .json (.array _) => true
  | .json (.object _) => true
  | .json _ => false
  | .uuid _ => false
  | .timestamp _ => false

theorem viaJson_of_isPlain {p : Param} (h : p.isPlain = true) : p.viaJson = p := by
  cases p with
  | null => rfl
  | bool b => rfl
  | int n =>
    have hn : n.toInt < 0x8000000000000000 := n.toInt_lt
    simp [viaJson, toJson, Json.ofInt64, ofJson, ofWordInteger, hn]
  | float x =>
    have hx : Json.ofBinary64? x = some (.float ⟨x, h⟩) := dif_pos h
    rw [viaJson, toJson, hx]
    rfl
  | text s => rfl
  | json v =>
    cases v with
    | array items => rfl
    | object fields => rfl
    | _ => cases h
  | uuid u => cases h
  | timestamp t => cases h

theorem isPlain_ofWordInteger (n : WordInteger) : (ofWordInteger n).isPlain = true := by
  rw [ofWordInteger]
  split
  · rfl
  · have hupper := n.upper
    have hlog : n.val.toNat.log2 < 64 := (Nat.log2_lt (by omega)).mpr (by omega)
    exact Binary64.isFinite_ofNat (by omega)

theorem isPlain_ofJson (v : Json) : (ofJson v).isPlain = true := by
  cases v with
  | integer n => exact isPlain_ofWordInteger n
  | float x => exact x.finite
  | _ => rfl

end Param

end Clausal
