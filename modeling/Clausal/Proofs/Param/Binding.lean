import Clausal.Param.Wire

/-!
# Integers as columns

An integer is sent as a column of 2, 4 or 8 bytes that spell it in two's complement, or it is
refused: because the column is too narrow for it, or because the column holds no integers. Null is
sent for null alone, whatever the type of the column.
-/

namespace Clausal

namespace Wire

/-! ## Reading bytes -/

/-- The natural number that bytes spell, the most significant first. -/
def natOf (bs : List UInt8) : Nat :=
  bs.foldl (fun n b => 256 * n + b.toNat) 0

/-- The integer that bytes spell in two's complement: with the top bit set, it is negative. -/
def intOf (bs : List UInt8) : Int :=
  if 2 * natOf bs < 1 <<< (8 * bs.length) then natOf bs
  else (natOf bs : Int) - (1 <<< (8 * bs.length) : Nat)

theorem natOf_append_byte (bs : List UInt8) (b : UInt8) :
    natOf (bs ++ [b]) = 256 * natOf bs + b.toNat := by
  simp [natOf]

@[simp] theorem length_bigEndian (count n : Nat) : (bigEndian count n).length = count := by
  simp [bigEndian]

theorem bigEndian_succ (count n : Nat) :
    bigEndian (count + 1) n = bigEndian count (n >>> 8) ++ [UInt8.ofNat n] := by
  have hshift : ∀ i ∈ List.range count,
      UInt8.ofNat (n >>> (8 * (count + 1 - 1 - i)))
        = UInt8.ofNat ((n >>> 8) >>> (8 * (count - 1 - i))) := by
    intro i hi
    have hlt := List.mem_range.mp hi
    have hsum : 8 * (count + 1 - 1 - i) = 8 + 8 * (count - 1 - i) := by omega
    rw [hsum, Nat.shiftRight_add]
  rw [bigEndian, List.range_succ, List.map_append, List.map_congr_left hshift]
  simp [bigEndian]

theorem natOf_bigEndian (count n : Nat) : natOf (bigEndian count n) = n % 1 <<< (8 * count) := by
  induction count generalizing n with
  | zero => simp [bigEndian, natOf, Nat.mod_one]
  | succ count ih =>
    have hwidth : 1 <<< (8 * (count + 1)) = 256 * 1 <<< (8 * count) := by
      rw [Nat.one_shiftLeft, Nat.one_shiftLeft, Nat.mul_succ, Nat.pow_add]
      exact Nat.mul_comm _ 256
    have hbyte : (UInt8.ofNat n).toNat = n % 256 := UInt8.toNat_ofNat
    rw [bigEndian_succ, natOf_append_byte, ih, hbyte, hwidth, Nat.mod_mul,
      Nat.shiftRight_eq_div_pow]
    exact Nat.add_comm _ _

@[simp] theorem length_ofInt (count : Nat) (n : Int) : (ofInt count n).length = count :=
  length_bigEndian ..

/-- The bytes of an integer that fits spell it. -/
theorem intOf_ofInt {count : Nat} (hcount : 0 < count) {n : Int}
    (hlow : -(1 <<< (8 * count - 1) : Nat) ≤ n) (hhigh : n < (1 <<< (8 * count - 1) : Nat)) :
    intOf (ofInt count n) = n := by
  have hwidth : 1 <<< (8 * count) = 2 * 1 <<< (8 * count - 1) := by
    obtain ⟨bits, hbits⟩ : ∃ bits, 8 * count = bits + 1 := ⟨8 * count - 1, by omega⟩
    rw [hbits, Nat.add_sub_cancel, Nat.one_shiftLeft, Nat.one_shiftLeft, Nat.pow_succ']
  rw [intOf, length_ofInt, ofInt, natOf_bigEndian, hwidth]
  generalize 1 <<< (8 * count - 1) = half at hlow hhigh
  -- A negative integer is sent as what is left of the range when it is taken away from the top.
  by_cases hsign : 0 ≤ n
  · have hmod : n.emod (2 * half : Nat) = n := Int.emod_eq_of_lt hsign (by omega)
    rw [hmod, Nat.mod_eq_of_lt (by omega), if_pos (by omega)]
    omega
  · have hmod : n.emod (2 * half : Nat) = n + (2 * half : Nat) := by
      rw [← Int.emod_eq_of_lt (a := n + (2 * half : Nat)) (b := (2 * half : Nat)) (by omega)
        (by omega)]
      exact (Int.add_emod_right _ _).symm
    rw [hmod, Nat.mod_eq_of_lt (by omega), if_neg (by omega)]
    omega

end Wire

/-! ## Columns -/

/-- The number of bytes of a column that holds integers. -/
def ColumnType.intBytes? : ColumnType → Option Nat
  | .int2 => some 2
  | .int4 => some 4
  | .int8 => some 8
  | _ => none

theorem ColumnType.intBytes?_pos {type : ColumnType} {count : Nat}
    (h : type.intBytes? = some count) : 0 < count := by
  cases type <;> cases h <;> decide

namespace Encoding

variable {α : Type}

theorem send_only (type : ColumnType) (bytes : α → List UInt8) (x : α) :
    (only type bytes).send x type = .ok (.bytes (bytes x)) :=
  if_pos (beq_self_eq_true type)

theorem send_ne_null (e : Encoding α) (x : α) (type : ColumnType) : e.send x type ≠ .ok .null := by
  unfold send
  split <;> exact nofun

end Encoding

namespace Param

/-- What is sent of an integer in a column of `count` bytes. -/
def encodeNarrow (count : Nat) (n : Int) : Except WireError Wire :=
  (fitting count n).map fun n => .bytes (Wire.ofInt count n)

section Narrow

variable {count : Nat} {n : Int}

theorem fitting_cases (count : Nat) (n : Int) :
    (n < -(1 <<< (8 * count - 1) : Nat) ∧ fitting count n = .error .tooSmall) ∨
    ((1 <<< (8 * count - 1) : Nat) ≤ n ∧ fitting count n = .error .tooLarge) ∨
    (-(1 <<< (8 * count - 1) : Nat) ≤ n ∧ n < (1 <<< (8 * count - 1) : Nat) ∧
      fitting count n = .ok n) := by
  unfold fitting
  split
  · next hsmall => exact .inl ⟨hsmall, rfl⟩
  · split
    · next hlarge => exact .inr (.inl ⟨hlarge, rfl⟩)
    · exact .inr (.inr ⟨by omega, by omega, rfl⟩)

theorem fitting_eq_ok (hlow : -(1 <<< (8 * count - 1) : Nat) ≤ n)
    (hhigh : n < (1 <<< (8 * count - 1) : Nat)) : fitting count n = .ok n := by
  obtain ⟨hsmall, -⟩ | ⟨hlarge, -⟩ | ⟨-, -, hfits⟩ := fitting_cases count n
  · omega
  · omega
  · exact hfits

theorem exists_encodeNarrow_eq_ok_iff :
    (∃ w, encodeNarrow count n = .ok w) ↔
      -(1 <<< (8 * count - 1) : Nat) ≤ n ∧ n < (1 <<< (8 * count - 1) : Nat) := by
  unfold encodeNarrow
  obtain ⟨hsmall, heq⟩ | ⟨hlarge, heq⟩ | ⟨hlow, hhigh, heq⟩ := fitting_cases count n
  · rw [heq]
    exact iff_of_false nofun (by omega)
  · rw [heq]
    exact iff_of_false nofun (by omega)
  · rw [heq]
    exact iff_of_true ⟨_, rfl⟩ ⟨hlow, hhigh⟩

/-- An integer that fits may go through a narrower word that keeps it. -/
theorem bind_fitting {send : Int → Except WireError Wire}
    (h : -(1 <<< (8 * count - 1) : Nat) ≤ n → n < (1 <<< (8 * count - 1) : Nat) →
      send n = .ok (.bytes (Wire.ofInt count n))) :
    (fitting count n).bind send = encodeNarrow count n := by
  unfold encodeNarrow
  obtain ⟨-, heq⟩ | ⟨-, heq⟩ | ⟨hlow, hhigh, heq⟩ := fitting_cases count n
  · rw [heq]; rfl
  · rw [heq]; rfl
  · rw [heq]
    exact h hlow hhigh

theorem bytes_of_encodeNarrow (hcount : 0 < count) {w : Wire} (h : encodeNarrow count n = .ok w) :
    ∃ bs, w = .bytes bs ∧ bs.length = count ∧ Wire.intOf bs = n := by
  obtain ⟨hlow, hhigh⟩ := exists_encodeNarrow_eq_ok_iff.mp ⟨w, h⟩
  rw [encodeNarrow, fitting_eq_ok hlow hhigh] at h
  exact ⟨_, (Except.ok.inj h).symm, Wire.length_ofInt _ _, Wire.intOf_ofInt hcount hlow hhigh⟩

theorem error_of_encodeNarrow {e : WireError} (h : encodeNarrow count n = .error e) :
    e = if 0 < n then .tooLarge else .tooSmall := by
  have hhalf : 0 < 1 <<< (8 * count - 1) := by
    rw [Nat.one_shiftLeft]
    exact Nat.two_pow_pos _
  unfold encodeNarrow at h
  obtain ⟨hsmall, heq⟩ | ⟨hlarge, heq⟩ | ⟨-, -, heq⟩ := fitting_cases count n
  · rw [heq] at h
    cases h
    rw [if_neg (by omega)]
  · rw [heq] at h
    cases h
    rw [if_pos (by omega)]
  · rw [heq] at h
    cases h

end Narrow

theorem encode_eq_encodeKind (p : Param) (type : ColumnType) :
    p.encode type = p.encodeKind type :=
  if_pos rfl

/-- A column of 8 bytes holds every integer, so all columns of integers are narrow ones. -/
theorem encode_int (v : Int64) (type : ColumnType) :
    (Param.int v).encode type =
      match type.intBytes? with
      | some count => encodeNarrow count v.toInt
      | none => .error .wrongType := by
  cases type with
  | int2 =>
    change ((fitting 2 v.toInt).bind fun n => Encoding.int16.send (Int16.ofInt n) .int2) = _
    refine bind_fitting fun hlow hhigh => ?_
    rw [Encoding.int16, Encoding.send_only, Int16.toInt_ofInt_of_le hlow hhigh]
  | int4 =>
    change ((fitting 4 v.toInt).bind fun n => Encoding.int32.send (Int32.ofInt n) .int4) = _
    refine bind_fitting fun hlow hhigh => ?_
    rw [Encoding.int32, Encoding.send_only, Int32.toInt_ofInt_of_le hlow hhigh]
  | int8 =>
    have hfits : fitting 8 v.toInt = .ok v.toInt := fitting_eq_ok v.le_toInt v.toInt_lt
    change Encoding.int64.send v .int8 = encodeNarrow 8 v.toInt
    rw [encodeNarrow, hfits, Encoding.int64, Encoding.send_only]
    rfl
  | _ => rfl

section Integers

variable {v : Int64} {type : ColumnType}

theorem exists_encode_int_eq_ok_iff :
    (∃ w, (Param.int v).encode type = .ok w) ↔
      type = .int8 ∨
      (type = .int4 ∧ -0x80000000 ≤ v.toInt ∧ v.toInt < 0x80000000) ∨
      (type = .int2 ∧ -0x8000 ≤ v.toInt ∧ v.toInt < 0x8000) := by
  rw [encode_int]
  cases type with
  | int2 =>
    have hnarrow : (∃ w, encodeNarrow 2 v.toInt = .ok w) ↔ _ := exists_encodeNarrow_eq_ok_iff
    simpa [ColumnType.intBytes?] using hnarrow
  | int4 =>
    have hnarrow : (∃ w, encodeNarrow 4 v.toInt = .ok w) ↔ _ := exists_encodeNarrow_eq_ok_iff
    simpa [ColumnType.intBytes?] using hnarrow
  | int8 =>
    have hlow := v.le_toInt
    have hhigh := v.toInt_lt
    exact iff_of_true (exists_encodeNarrow_eq_ok_iff.mpr (by omega)) (.inl rfl)
  | _ => exact iff_of_false nofun (by simp)

theorem bytes_of_encode_int {w : Wire} (h : (Param.int v).encode type = .ok w) :
    ∃ bs, w = .bytes bs ∧ type.intBytes? = some bs.length ∧ Wire.intOf bs = v.toInt := by
  rw [encode_int] at h
  cases hcount : type.intBytes? with
  | none =>
    rw [hcount] at h
    cases h
  | some count =>
    rw [hcount] at h
    obtain ⟨bs, hw, hlength, hspelled⟩ :=
      bytes_of_encodeNarrow (ColumnType.intBytes?_pos hcount) h
    exact ⟨bs, hw, congrArg some hlength.symm, hspelled⟩

theorem error_of_encode_int {e : WireError} (h : (Param.int v).encode type = .error e) :
    e = if type = .int2 ∨ type = .int4 then if 0 < v.toInt then .tooLarge else .tooSmall
      else .wrongType := by
  rw [encode_int] at h
  cases type with
  | int2 => exact error_of_encodeNarrow h
  | int4 => exact error_of_encodeNarrow h
  | int8 =>
    have hlow := v.le_toInt
    have hhigh := v.toInt_lt
    obtain ⟨w, hw⟩ : ∃ w, encodeNarrow 8 v.toInt = .ok w :=
      exists_encodeNarrow_eq_ok_iff.mpr (by omega)
    exact absurd (hw.symm.trans h) nofun
  | _ =>
    cases h
    rfl

end Integers

theorem encode_eq_null_iff (p : Param) (type : ColumnType) :
    p.encode type = .ok .null ↔ p = .null := by
  constructor
  · intro h
    cases p with
    | null => rfl
    | int v => obtain ⟨_, ⟨⟩, _⟩ := bytes_of_encode_int h
    | float x =>
      rw [encode_eq_encodeKind, encodeKind, encodeFloat.eq_def] at h
      split at h <;> cases Encoding.send_ne_null _ _ _ h
    | bool | text | json | uuid | timestamp =>
      rw [encode_eq_encodeKind] at h
      cases Encoding.send_ne_null _ _ _ h
  · rintro rfl
    rfl

/-- Sending an integer is exact or refused. It succeeds for the columns of integers that are wide
enough, with bytes that spell the integer; a column that is too narrow is told apart from one that
holds no integers. Null stands for null alone, although no type of column is turned away. -/
theorem encode_int_exact_or_refused :
    (∀ (v : Int64) (type : ColumnType),
      ((∃ w, (Param.int v).encode type = .ok w) ↔
        type = .int8 ∨
        (type = .int4 ∧ -0x80000000 ≤ v.toInt ∧ v.toInt < 0x80000000) ∨
        (type = .int2 ∧ -0x8000 ≤ v.toInt ∧ v.toInt < 0x8000)) ∧
      (∀ w, (Param.int v).encode type = .ok w →
        ∃ bs, w = .bytes bs ∧ type.intBytes? = some bs.length ∧ Wire.intOf bs = v.toInt) ∧
      (∀ e, (Param.int v).encode type = .error e →
        e = if type = .int2 ∨ type = .int4 then if 0 < v.toInt then .tooLarge else .tooSmall
          else .wrongType)) ∧
    (∀ (v v' : Int64) (type : ColumnType) (w : Wire),
      (Param.int v).encode type = .ok w → (Param.int v').encode type = .ok w → v = v') ∧
    ∀ (p : Param) (type : ColumnType),
      accepts type = true ∧ (p.encode type = .ok .null ↔ p = .null) := by
  refine ⟨fun v type => ⟨exists_encode_int_eq_ok_iff, fun w => bytes_of_encode_int,
    fun e => error_of_encode_int⟩, ?_, fun p type => ⟨rfl, encode_eq_null_iff p type⟩⟩
  intro v v' type w h h'
  obtain ⟨bs, rfl, -, hspelled⟩ := bytes_of_encode_int h
  obtain ⟨bs', ⟨⟩, -, hspelled'⟩ := bytes_of_encode_int h'
  exact Int64.toInt_inj.mp (hspelled.symm.trans hspelled')

/-- The least integer of a column of 2 bytes, and the one before it. -/
theorem encode_int_exact_or_refused_least :
    (Param.int (-0x8000)).encode .int2 = .ok (.bytes [0x80, 0]) ∧
      Wire.intOf [0x80, 0] = -0x8000 ∧
      (Param.int (-0x8001)).encode .int2 = .error .tooSmall := by
  obtain ⟨hint, -, -⟩ := encode_int_exact_or_refused
  have hsent : (Param.int (-0x8000)).encode .int2 = .ok (.bytes [0x80, 0]) := rfl
  have hrefused : (Param.int (-0x8001)).encode .int2 = .error .tooSmall := rfl
  obtain ⟨-, hbytes, -⟩ := hint (-0x8000) .int2
  obtain ⟨bs, ⟨⟩, -, hspelled⟩ := hbytes _ hsent
  exact ⟨hsent, hspelled, hrefused⟩

end Param

end Clausal
