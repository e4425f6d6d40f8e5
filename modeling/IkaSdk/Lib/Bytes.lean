import Mathlib.Data.List.Basic
import Mathlib.Data.List.TakeDrop
import Mathlib.Tactic.Ring
import Mathlib.Tactic.SplitIfs
import Mathlib.Algebra.Order.Group.Nat

/-! Byte strings and the number formats written into them: fixed-width
little-endian numbers, the ULEB128 lengths of a length-prefixed format, and the
fields of a buffer written one after the other. -/

namespace Wire

abbrev Bytes := List UInt8

instance : LawfulBEq Bytes := inferInstance

/-! ## Little-endian numbers -/

def leBytes : ℕ → ℕ → Bytes
  | 0, _ => []
  | w + 1, v => UInt8.ofNat (v % 256) :: leBytes w (v / 256)

def leValue : Bytes → ℕ
  | [] => 0
  | b :: bs => b.toNat + 256 * leValue bs

@[simp] theorem leBytes_length (w v : ℕ) : (leBytes w v).length = w := by
  induction w generalizing v with
  | zero => rfl
  | succ w ih => simp [leBytes, ih]

theorem leValue_leBytes (w v : ℕ) : leValue (leBytes w v) = v % 256 ^ w := by
  induction w generalizing v with
  | zero => simp [leBytes, leValue, Nat.mod_one]
  | succ w ih =>
    have hb : (UInt8.ofNat (v % 256)).toNat = v % 256 := by
      rw [UInt8.toNat_ofNat']
      omega
    rw [leBytes, leValue, hb, ih, pow_succ', Nat.mod_mul]

theorem leBytes_inj {w u v : ℕ} (hu : u < 256 ^ w) (hv : v < 256 ^ w)
    (h : leBytes w u = leBytes w v) : u = v := by
  have hval := congrArg leValue h
  rwa [leValue_leBytes, leValue_leBytes, Nat.mod_eq_of_lt hu, Nat.mod_eq_of_lt hv] at hval

theorem leBytes_leValue (bs : Bytes) : leBytes bs.length (leValue bs) = bs := by
  induction bs with
  | nil => rfl
  | cons b bs ih =>
    have hb := b.toNat_lt
    have hlow : (b.toNat + 256 * leValue bs) % 256 = b.toNat := by omega
    have hhigh : (b.toNat + 256 * leValue bs) / 256 = leValue bs := by omega
    rw [List.length_cons, leBytes, leValue, hlow, hhigh, ih, UInt8.ofNat_toNat]

theorem leValue_lt (bs : Bytes) : leValue bs < 256 ^ bs.length := by
  induction bs with
  | nil => simp [leValue]
  | cons b bs ih =>
    have hb := b.toNat_lt
    rw [leValue, List.length_cons, pow_succ']
    omega

/-! ## ULEB128 -/

def uleb128Fuel : ℕ → ℕ → Bytes
  | 0, _ => []
  | fuel + 1, n =>
    if n < 128 then [UInt8.ofNat n]
    else UInt8.ofNat (n % 128 + 128) :: uleb128Fuel fuel (n / 128)

def uleb128 (n : ℕ) : Bytes := uleb128Fuel (n + 1) n

def readUleb128 : Bytes → Option (ℕ × Bytes)
  | [] => none
  | b :: bs =>
    if b.toNat < 128 then some (b.toNat, bs)
    else (readUleb128 bs).map fun (n, rest) => (b.toNat - 128 + 128 * n, rest)

theorem readUleb128_uleb128Fuel {fuel n : ℕ} (h : n < fuel) (rest : Bytes) :
    readUleb128 (uleb128Fuel fuel n ++ rest) = some (n, rest) := by
  induction fuel generalizing n with
  | zero => omega
  | succ fuel ih =>
    by_cases hn : n < 128
    · have hb : (UInt8.ofNat n).toNat = n := by
        rw [UInt8.toNat_ofNat']
        omega
      simp [uleb128Fuel, readUleb128, hn, Nat.mod_eq_of_lt (show n < 256 by omega)]
    · have hb : (UInt8.ofNat (n % 128 + 128)).toNat = n % 128 + 128 := by
        rw [UInt8.toNat_ofNat']
        omega
      have hlt : n / 128 < fuel := by omega
      rw [uleb128Fuel, if_neg hn, List.cons_append, readUleb128, hb, if_neg (by omega), ih hlt]
      simp only [Option.map_some, Option.some.injEq, Prod.mk.injEq, and_true]
      omega

theorem readUleb128_uleb128 (n : ℕ) (rest : Bytes) :
    readUleb128 (uleb128 n ++ rest) = some (n, rest) :=
  readUleb128_uleb128Fuel (Nat.lt_succ_self n) rest

theorem uleb128_append_inj {m n : ℕ} {xs ys : Bytes}
    (h : uleb128 m ++ xs = uleb128 n ++ ys) : m = n ∧ xs = ys := by
  have hread := congrArg readUleb128 h
  rw [readUleb128_uleb128, readUleb128_uleb128] at hread
  simpa using hread

/-! ## Writes into a buffer -/

/-- Write `bytes` at `offset`, if the buffer holds them there. -/
def setAt (buffer : Bytes) (offset : ℕ) (bytes : Bytes) : Except String Bytes :=
  if buffer.length < offset + bytes.length then .error "offset is out of bounds"
  else .ok (buffer.take offset ++ bytes ++ buffer.drop (offset + bytes.length))

theorem setAt_append (front tail bytes : Bytes) (offset : ℕ) :
    setAt (front ++ tail) (front.length + offset) bytes =
      (setAt tail offset bytes).map (front ++ ·) := by
  unfold setAt
  have hbound : (front ++ tail).length < front.length + offset + bytes.length ↔
      tail.length < offset + bytes.length := by
    rw [List.length_append]
    omega
  simp only [hbound]
  split_ifs
  · rfl
  · rw [List.take_length_add_append, Nat.add_assoc, List.drop_length_add_append]
    simp [Except.map]

theorem setAt_zero {bytes tail : Bytes} (old : Bytes) (h : old.length = bytes.length) :
    setAt (old ++ tail) 0 bytes = .ok (bytes ++ tail) := by
  simp [setAt, ← h]

/-- A write of a field over the bytes that stand in its place. -/
theorem setAt_field {front tail bytes : Bytes} {offset : ℕ} (old : Bytes)
    (ho : front.length = offset) (h : old.length = bytes.length) :
    setAt (front ++ (old ++ tail)) offset bytes = .ok (front ++ (bytes ++ tail)) := by
  rw [← ho]
  exact (setAt_append front (old ++ tail) bytes 0).trans (by rw [setAt_zero old h]; rfl)

/-! ## Fields of a buffer -/

/-- The bytes of a field: `width` of them, from `offset` on. -/
def sliceAt (offset width : ℕ) (bytes : Bytes) : Bytes := (bytes.drop offset).take width

theorem sliceAt_append {front : Bytes} (bytes tail : Bytes) {offset : ℕ}
    (h : front.length = offset) :
    sliceAt offset bytes.length (front ++ bytes ++ tail) = bytes := by
  rw [sliceAt, List.append_assoc, List.drop_left' h, List.take_left]

theorem setAt_ok {buffer bytes buffer' : Bytes} {offset : ℕ}
    (h : setAt buffer offset bytes = .ok buffer') : offset + bytes.length ≤ buffer.length ∧
      buffer' = buffer.take offset ++ bytes ++ buffer.drop (offset + bytes.length) := by
  unfold setAt at h
  split_ifs at h with hbound
  exact ⟨not_lt.mp hbound, (Except.ok.inj h).symm⟩

/-- What was written is what stands there. -/
theorem sliceAt_setAt {buffer bytes buffer' : Bytes} {offset : ℕ}
    (h : setAt buffer offset bytes = .ok buffer') :
    sliceAt offset bytes.length buffer' = bytes := by
  obtain ⟨hbound, rfl⟩ := setAt_ok h
  apply sliceAt_append
  rw [List.length_take]
  omega

/-- A write leaves every other field as it was. -/
theorem sliceAt_setAt_of_apart {buffer bytes buffer' : Bytes} {offset other width : ℕ}
    (h : setAt buffer offset bytes = .ok buffer')
    (hapart : other + width ≤ offset ∨ offset + bytes.length ≤ other) :
    sliceAt other width buffer' = sliceAt other width buffer := by
  obtain ⟨hbound, rfl⟩ := setAt_ok h
  have hfront : (buffer.take offset).length = offset := by
    rw [List.length_take]
    omega
  rcases hapart with hbefore | hafter
  · have hleft : (buffer.take offset ++ bytes ++ buffer.drop (offset + bytes.length)).take
        (other + width) = buffer.take (other + width) := by
      rw [List.append_assoc, List.take_append_of_le_length (by omega), List.take_take,
        min_eq_left hbefore]
    rw [sliceAt, sliceAt, List.take_drop, List.take_drop, hleft]
  · obtain ⟨more, rfl⟩ := Nat.exists_eq_add_of_le hafter
    have hwritten : (buffer.take offset ++ bytes).length = offset + bytes.length := by
      rw [List.length_append, hfront]
    rw [sliceAt, sliceAt, ← List.drop_drop, List.drop_left' hwritten, List.drop_drop]

end Wire
