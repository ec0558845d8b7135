import Clausal.Document.Decode
import Clausal.Document.Encode
import Clausal.Proofs.Param.JsonForm

/-!
# Inline values

Reading a JSON value as a parameter keeps it: the parameter is shown as the value, and is written
as the value again. The one exception are the integers from 2⁶³ on, which no signed word holds.
Such an integer is bound as the double next to it, and is lost.
-/

namespace Clausal

/-- An integer that fits an unsigned word and no signed one. -/
def Json.isBeyondSigned : Json → Bool
  | .integer n => 0x8000000000000000 ≤ n.val
  | _ => false

theorem Json.ofInt64_ofInt {n : WordInteger} (h : n.val < 0x8000000000000000) :
    Json.ofInt64 (Int64.ofInt n.val) = .integer n := by
  obtain ⟨val, lower, upper⟩ := n
  have hval : (Int64.ofInt val).toInt = val := Int64.toInt_ofInt_of_le lower h
  simp only [ofInt64, hval]

namespace Param

theorem toJson_ofWordInteger {n : WordInteger} (h : n.val < 0x8000000000000000) :
    (ofWordInteger n).toJson = .integer n := by
  rw [ofWordInteger, if_pos h]
  exact Json.ofInt64_ofInt h

theorem toJson_ofJson {v : Json} (h : v.isBeyondSigned = false) : (ofJson v).toJson = v := by
  cases v with
  | integer n => exact toJson_ofWordInteger (Int.not_le.mp (of_decide_eq_false h))
  | float x =>
    have hx : Json.ofBinary64? x.val = some (.float x) := dif_pos x.finite
    rw [ofJson, toJson, hx]
    rfl
  | _ => rfl

/-! ## Integers beyond the signed words -/

section Beyond

variable {n : WordInteger} (h : 0x8000000000000000 ≤ n.val)

include h

theorem log2_of_beyond : n.val.toNat.log2 = 63 := by
  have hupper := n.upper
  have hlow : 63 ≤ n.val.toNat.log2 := (Nat.le_log2 (by omega)).mpr (by omega)
  have hhigh : n.val.toNat.log2 < 64 := (Nat.log2_lt (by omega)).mpr (by omega)
  omega

theorem ofWordInteger_of_beyond : ofWordInteger n = .float (Binary64.ofNat n.val.toNat) :=
  if_neg (Int.not_lt.mpr h)

/-- Between 2⁶³ and 2⁶⁴ the doubles stand 2048 apart, and the integer is moved to one of the two
next to it. -/
theorem exists_near_of_beyond :
    ∃ k : Nat, FloatFormat.binary64.ratio (Binary64.ofNat n.val.toNat).word = (2048 * k, 1) ∧
      2048 * k ≤ n.val + 1024 ∧ n.val ≤ 2048 * k + 1024 := by
  have hlog := log2_of_beyond h
  have hratio := Binary64.ratio_ofNat (n := n.val.toNat) (by omega) (by omega)
  have hplaces : 1 <<< (n.val.toNat.log2 - 52) = 2048 := by
    rw [hlog]
    rfl
  rw [hplaces, Nat.mul_comm] at hratio
  have hnear := roundHalfEven_near n.val.toNat 2048 (by decide)
  exact ⟨_, hratio, by omega, by omega⟩

end Beyond

/-- An integer beyond the signed words is written as a double. -/
theorem toJson_ofJson_of_beyond {n : WordInteger} (h : 0x8000000000000000 ≤ n.val) :
    ∃ x : FiniteBinary64, x.val = Binary64.ofNat n.val.toNat ∧
      ofJson (.integer n) = .float x.val ∧ (ofJson (.integer n)).toJson = .float x := by
  have hlog := log2_of_beyond h
  have hfinite : (Binary64.ofNat n.val.toNat).isFinite = true :=
    Binary64.isFinite_ofNat (by omega)
  have hparam : ofJson (.integer n) = .float (Binary64.ofNat n.val.toNat) :=
    ofWordInteger_of_beyond h
  have hjson : Json.ofBinary64? (Binary64.ofNat n.val.toNat) = some (.float ⟨_, hfinite⟩) :=
    dif_pos hfinite
  refine ⟨⟨_, hfinite⟩, rfl, hparam, ?_⟩
  rw [hparam, toJson, hjson]
  rfl

theorem toJson_ofJson_eq_self_iff {v : Json} :
    (ofJson v).toJson = v ↔ v.isBeyondSigned = false := by
  refine ⟨fun hv => ?_, toJson_ofJson⟩
  cases v with
  | integer n =>
    refine decide_eq_false fun h => ?_
    obtain ⟨x, -, -, hx⟩ := toJson_ofJson_of_beyond h
    rw [hx] at hv
    cases hv
  | _ => rfl

/-- A JSON value is bound without changing it exactly if it is no integer beyond the signed words.
Then it is shown as the value that was read, and the object that it is given in is written as it
was. An integer beyond them is bound as the double next to it, up to 1024 away, and is written as
that double. -/
theorem toJson_ofJson_kept_or_rounded (v : Json) :
    ((ofJson v).toJson = v ↔ v.isBeyondSigned = false) ∧
    (v.isBeyondSigned = false →
      (ofJson v).display = v.compact ∧
        ∀ fields, Json.field? "ip" fields = some v →
          ∃ value, Document.wrapped? fields = some value ∧
            value.toJson = .object [("ip", v)]) ∧
    ∀ n : WordInteger, v = .integer n → 0x8000000000000000 ≤ n.val →
      ∃ (x : FiniteBinary64) (k : Nat),
        ofJson v = .float x.val ∧ (ofJson v).toJson = .float x ∧ x.val.isNegative = false ∧
          FloatFormat.binary64.ratio x.val.word = (2048 * k, 1) ∧
          2048 * k ≤ n.val + 1024 ∧ n.val ≤ 2048 * k + 1024 := by
  refine ⟨toJson_ofJson_eq_self_iff, ?kept, ?rounded⟩
  case kept =>
    intro h
    have hv := toJson_ofJson h
    refine ⟨congrArg Json.compact hv, fun fields hfield => ⟨.param (ofJson v), ?_, ?_⟩⟩
    · rw [Document.wrapped?, hfield]
    · rw [Value.toJson, hv]
  case rounded =>
    rintro n rfl h
    have hlog := log2_of_beyond h
    obtain ⟨x, hx, hparam, hjson⟩ := toJson_ofJson_of_beyond h
    obtain ⟨k, hratio, hle, hge⟩ := exists_near_of_beyond h
    rw [← hx] at hratio
    refine ⟨x, k, hparam, hjson, ?_, hratio, hle, hge⟩
    rw [hx]
    exact Binary64.isNegative_ofNat (by omega)

/-- The integers on both sides of 2⁶³. -/
theorem toJson_ofJson_kept_or_rounded_limits :
    let largest := Json.integer ⟨0x7fffffffffffffff, by decide, by decide⟩
    let next : WordInteger := ⟨0x8000000000000000, by decide, by decide⟩
    largest.isBeyondSigned = false ∧ (ofJson largest).display = largest.compact ∧
      0x8000000000000000 ≤ next.val ∧
      ∃ x : FiniteBinary64, (ofJson (.integer next)).toJson = .float x := by
  intro largest next
  have hsigned : largest.isBeyondSigned = false := by decide
  have hbeyond : 0x8000000000000000 ≤ next.val := by decide
  obtain ⟨-, hkept, -⟩ := toJson_ofJson_kept_or_rounded largest
  obtain ⟨-, -, hrounded⟩ := toJson_ofJson_kept_or_rounded (.integer next)
  obtain ⟨x, -, -, hx, -⟩ := hrounded next rfl hbeyond
  exact ⟨hsigned, (hkept hsigned).1, hbeyond, x, hx⟩

/-- The greatest integer of an unsigned word comes out as a power of two in scientific notation. -/
theorem toJson_ofJson_changed :
    let v := Json.integer ⟨0xffffffffffffffff, by decide, by decide⟩
    (ofJson v).toJson ≠ v ∧ v.compact = "18446744073709551615" ∧
      (ofJson v).display = "1.8446744073709552e+19" := by
  decide +kernel

end Param

end Clausal
