import IkaSdk.Lib.Shortest

/-! Lists behind a compact count of at most three bytes, of items that may not be writable. -/

namespace Wire

/-- A count, seven bits a byte. No count is written of more than sixteen bits. -/
def compactU16 (n : ℕ) : Option Bytes := if n < 2 ^ 16 then some (uleb128 n) else none

/-- One byte, for a number of one byte. -/
def byteOf (n : ℕ) : Option Bytes := if n < 256 then some [UInt8.ofNat n] else none

def writeAll {α : Type} (item : α → Option Bytes) : List α → Option Bytes
  | [] => some []
  | a :: items => do
    let first ← item a
    let rest ← writeAll item items
    return first ++ rest

/-- The count of the items, and then each of them. -/
def shortVec {α : Type} (item : α → Option Bytes) (items : List α) : Option Bytes := do
  let count ← compactU16 items.length
  let written ← writeAll item items
  return count ++ written

/-- The bytes that a count takes. -/
def compactWidth (n : ℕ) : ℕ := if n < 128 then 1 else if n < 16384 then 2 else 3

theorem compactWidth_mono {m n : ℕ} (h : m ≤ n) : compactWidth m ≤ compactWidth n := by
  unfold compactWidth
  split_ifs <;> omega

theorem compactU16_length {n : ℕ} {bytes : Bytes} (h : compactU16 n = some bytes) :
    bytes.length = compactWidth n := by
  unfold compactU16 at h
  split_ifs at h with hn
  obtain rfl := Option.some.inj h
  unfold compactWidth
  split_ifs with hone htwo
  · rw [uleb128_last hone, List.length_singleton]
  · rw [uleb128_more hone, uleb128_last (by omega), List.length_cons, List.length_singleton]
  · rw [uleb128_more hone, uleb128_more (by omega), uleb128_last (by omega)]
    rfl

theorem byteOf_length {n : ℕ} {bytes : Bytes} (h : byteOf n = some bytes) : bytes.length = 1 := by
  unfold byteOf at h
  split_ifs at h
  obtain rfl := Option.some.inj h
  rfl

theorem byteOf_isSome {n : ℕ} (h : n < 256) : (byteOf n).isSome := by
  rw [byteOf, if_pos h, Option.isSome_some]

section Items

variable {α : Type} {item : α → Option Bytes} {items : List α} {bytes : Bytes}

theorem writeAll_length {width : α → ℕ}
    (hwidth : ∀ a ∈ items, ∀ written, item a = some written → written.length = width a)
    (h : writeAll item items = some bytes) : bytes.length = (items.map width).sum := by
  induction items generalizing bytes with
  | nil =>
    obtain rfl := Option.some.inj h
    rfl
  | cons a items ih =>
    obtain ⟨first, hfirst, hrest⟩ := Option.bind_eq_some_iff.mp h
    obtain ⟨rest, hwritten, hbytes⟩ := Option.bind_eq_some_iff.mp hrest
    obtain rfl := Option.some.inj hbytes
    have hhead := hwidth a List.mem_cons_self first hfirst
    have htail := ih (fun b hb => hwidth b (List.mem_cons_of_mem _ hb)) hwritten
    rw [List.length_append, hhead, htail, List.map_cons, List.sum_cons]

theorem writeAll_isSome (h : ∀ a ∈ items, (item a).isSome) : (writeAll item items).isSome := by
  induction items with
  | nil => rfl
  | cons a items ih =>
    obtain ⟨first, hfirst⟩ := Option.isSome_iff_exists.mp (h a List.mem_cons_self)
    obtain ⟨rest, hrest⟩ :=
      Option.isSome_iff_exists.mp (ih fun b hb => h b (List.mem_cons_of_mem _ hb))
    simp [writeAll, hfirst, hrest]

/-- A list takes the bytes of its count and of its items. -/
theorem shortVec_length {width : α → ℕ}
    (hwidth : ∀ a ∈ items, ∀ written, item a = some written → written.length = width a)
    (h : shortVec item items = some bytes) :
    bytes.length = compactWidth items.length + (items.map width).sum := by
  obtain ⟨count, hcount, hrest⟩ := Option.bind_eq_some_iff.mp h
  obtain ⟨written, hwritten, hbytes⟩ := Option.bind_eq_some_iff.mp hrest
  obtain rfl := Option.some.inj hbytes
  rw [List.length_append, compactU16_length hcount, writeAll_length hwidth hwritten]

theorem shortVec_isSome (hcount : items.length < 2 ^ 16) (h : ∀ a ∈ items, (item a).isSome) :
    (shortVec item items).isSome := by
  obtain ⟨written, hwritten⟩ := Option.isSome_iff_exists.mp (writeAll_isSome h)
  have hwrite : compactU16 items.length = some (uleb128 items.length) := if_pos hcount
  simp [shortVec, hwrite, hwritten]

/-- A list of items of one width. -/
theorem shortVec_length_const {width : ℕ}
    (hwidth : ∀ a ∈ items, ∀ written, item a = some written → written.length = width)
    (h : shortVec item items = some bytes) :
    bytes.length = compactWidth items.length + items.length * width := by
  rw [shortVec_length hwidth h]
  simp

end Items

end Wire
