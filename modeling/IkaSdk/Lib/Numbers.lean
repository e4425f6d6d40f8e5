import IkaSdk.Lib.Bytes
import IkaSdk.Lib.Except
import Mathlib.Data.Rat.Cast.Order

/-! Numbers as a dynamically typed program passes them, whole ones of any size and ones with a
fraction, and what a field of a fixed width keeps of one that is written into it. -/

namespace Wire

/-- A number of either kind. `notFinite` is an infinity or what is not a number. -/
inductive Numeric
  | bigint (value : ℤ)
  | number (value : ℚ)
  | notFinite
deriving DecidableEq

namespace Numeric

/-- The argument is the natural number `n`, of whichever kind. -/
def Is (n : ℕ) : Numeric → Prop
  | bigint value => value = n
  | number value => value = n
  | notFinite => False

/-- The argument is a number that a field of `width` bytes holds. -/
def Fits (width : ℕ) (argument : Numeric) : Prop := ∃ n < 256 ^ width, argument.Is n

end Numeric

open Numeric

/-- The number without its fraction. -/
def truncate (value : ℚ) : ℤ := value.num.tdiv value.den

@[simp] theorem truncate_natCast (n : ℕ) : truncate n = n := by
  simp [truncate]

/-- The low `width` bytes of a whole number, a negative one in two's complement. -/
def lowBytes (width : ℕ) (value : ℤ) : Bytes := leBytes width (value % 256 ^ width).toNat

@[simp] theorem lowBytes_length (width : ℕ) (value : ℤ) : (lowBytes width value).length = width :=
  leBytes_length ..

theorem leValue_lowBytes_lt (width : ℕ) (value : ℤ) :
    leValue (lowBytes width value) < 256 ^ width := by
  have hlt := leValue_lt (lowBytes width value)
  rwa [lowBytes_length] at hlt

theorem leValue_lowBytes {width n : ℕ} (h : n < 256 ^ width) :
    leValue (lowBytes width n) = n := by
  have hmod : ((n : ℤ) % 256 ^ width).toNat = n := by
    have hcast : ((n : ℤ) % 256 ^ width) = (n % 256 ^ width : ℕ) := by push_cast; rfl
    rw [hcast, Int.toNat_natCast, Nat.mod_eq_of_lt h]
  rw [lowBytes, hmod, leValue_leBytes, Nat.mod_eq_of_lt h]

/-! ## Writers -/

/-- A field for numbers that are not big integers. Nothing is checked of the number. -/
def writeNumber (width : ℕ) : Numeric → Except String Bytes
  | .number value => .ok (lowBytes width (truncate value))
  | .notFinite => .ok (lowBytes width 0)
  | .bigint _ => .error "Cannot convert a BigInt value to a number"

/-- A field for big integers. Nothing is checked of the integer. -/
def writeBigInt (width : ℕ) : Numeric → Except String Bytes
  | .bigint value => .ok (lowBytes width value)
  | .number _ | .notFinite => .error "Cannot convert a number to a BigInt"

/-- A number of either kind as a big integer, where it is whole. -/
def toBigInt : Numeric → Except String ℤ
  | .bigint value => .ok value
  | .number value =>
    if value.den = 1 then .ok value.num
    else .error ("The number cannot be converted to a BigInt because it is not an integer")
  | .notFinite =>
    .error ("The number cannot be converted to a BigInt because it is not an integer")

theorem toBigInt_is {argument : Numeric} {value : ℤ} (h : toBigInt argument = .ok value) {n : ℕ} :
    argument.Is n ↔ value = n := by
  cases argument with
  | bigint v =>
    cases h
    exact Iff.rfl
  | number v =>
    rw [toBigInt] at h
    split_ifs at h with hden
    have hv : (v.num : ℚ) = v := Rat.coe_int_num_of_den_eq_one hden
    rw [← Except.ok.inj h]
    constructor
    · intro (his : v = n)
      rw [his] at hv ⊢
      exact_mod_cast hv
    · intro hnum
      show v = n
      rw [← hv, hnum]
      norm_cast
  | notFinite => cases h

/-- What a field holds is the argument exactly where the argument fits the field. -/
theorem writeNumber_reads_iff {width : ℕ} {argument : Numeric} {bytes : Bytes}
    (h : writeNumber width argument = .ok bytes) :
    argument.Is (leValue bytes) ↔ argument.Fits width := by
  cases argument with
  | bigint value => cases h
  | number value =>
    cases h
    constructor
    · exact fun his => ⟨_, leValue_lowBytes_lt _ _, his⟩
    · rintro ⟨n, hn, hvalue⟩
      obtain rfl : value = n := hvalue
      rw [truncate_natCast, leValue_lowBytes hn]
      rfl
  | notFinite => exact ⟨False.elim, fun ⟨_, _, hfalse⟩ => hfalse.elim⟩

theorem writeBigInt_reads_iff {width : ℕ} {argument : Numeric} {bytes : Bytes}
    (h : writeBigInt width argument = .ok bytes) :
    argument.Is (leValue bytes) ↔ argument.Fits width := by
  cases argument with
  | bigint value =>
    cases h
    constructor
    · exact fun his => ⟨_, leValue_lowBytes_lt _ _, his⟩
    · rintro ⟨n, hn, hvalue⟩
      obtain rfl : value = n := hvalue
      rw [leValue_lowBytes hn]
      rfl
  | number value => cases h
  | notFinite => cases h

theorem lowBytes_natCast {width n : ℕ} (h : n < 256 ^ width) :
    lowBytes width n = leBytes width n := by
  have hsame := leBytes_leValue (lowBytes width n)
  rwa [lowBytes_length, leValue_lowBytes h, eq_comm] at hsame

/-- A natural number that fits is written as its bytes. -/
theorem writeNumber_natCast {width n : ℕ} (h : n < 256 ^ width) :
    writeNumber width (.number n) = .ok (leBytes width n) := by
  rw [writeNumber, truncate_natCast, lowBytes_natCast h]

theorem writeBigInt_natCast {width n : ℕ} (h : n < 256 ^ width) :
    writeBigInt width (.bigint n) = .ok (leBytes width n) := by
  rw [writeBigInt, lowBytes_natCast h]

theorem writeNumber_length {width : ℕ} {argument : Numeric} {bytes : Bytes}
    (h : writeNumber width argument = .ok bytes) : bytes.length = width := by
  cases argument <;> cases h <;> exact lowBytes_length ..

theorem writeBigInt_length {width : ℕ} {argument : Numeric} {bytes : Bytes}
    (h : writeBigInt width argument = .ok bytes) : bytes.length = width := by
  cases argument <;> cases h
  exact lowBytes_length ..

end Wire
