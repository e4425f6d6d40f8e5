import IkaSdk.Lib.Codec

/-! Formats that write a value in the fewest bytes that their readers take for it. A
reader may take longer bytes for a value; where bytes of the written length are always
the written ones, the format is `Shortest`. -/

namespace Wire

/-! ## Numbers -/

theorem uleb128Fuel_congr {fuel fuel' n : ℕ} (h : n < fuel) (h' : n < fuel') :
    uleb128Fuel fuel n = uleb128Fuel fuel' n := by
  induction fuel generalizing fuel' n with
  | zero => exact absurd h (Nat.not_lt_zero n)
  | succ fuel ih =>
    obtain ⟨fuel', rfl⟩ := Nat.exists_eq_succ_of_ne_zero (Nat.ne_zero_of_lt h')
    rw [uleb128Fuel, uleb128Fuel]
    by_cases hn : n < 128
    · rw [if_pos hn, if_pos hn]
    · have hless : n / 128 < n := Nat.div_lt_self (by omega) (by decide)
      have hfuel : n / 128 < fuel := hless.trans_le (Nat.lt_succ_iff.mp h)
      have hfuel' : n / 128 < fuel' := hless.trans_le (Nat.lt_succ_iff.mp h')
      rw [if_neg hn, if_neg hn, ih hfuel hfuel']

theorem uleb128_last {n : ℕ} (h : n < 128) : uleb128 n = [UInt8.ofNat n] := by
  rw [uleb128, uleb128Fuel, if_pos h]

theorem uleb128_more {n : ℕ} (h : ¬n < 128) :
    uleb128 n = UInt8.ofNat (n % 128 + 128) :: uleb128 (n / 128) := by
  have hless : n / 128 < n := Nat.div_lt_self (by omega) (by decide)
  rw [uleb128, uleb128Fuel, if_neg h, uleb128, uleb128Fuel_congr hless (Nat.lt_succ_self _)]

theorem uleb128_pos (n : ℕ) : 0 < (uleb128 n).length := by
  rw [uleb128, uleb128Fuel]
  split_ifs
  · exact Nat.one_pos
  · exact Nat.succ_pos _

/-- A number is read from no fewer bytes than are written for it. -/
theorem readUleb128_shortest {bytes rest : Bytes} {n : ℕ}
    (h : readUleb128 bytes = some (n, rest)) : ∃ front, bytes = front ++ rest ∧
      (uleb128 n).length ≤ front.length ∧
        (front.length = (uleb128 n).length → front = uleb128 n) := by
  induction bytes generalizing n with
  | nil => cases h
  | cons b bytes ih =>
    have hbyte : b.toNat < 256 := b.toNat_lt
    rw [readUleb128] at h
    split_ifs at h with hlast
    · obtain ⟨rfl, rfl⟩ := Prod.mk.inj (Option.some.inj h)
      have hwritten : uleb128 b.toNat = [b] := by
        rw [uleb128_last hlast, UInt8.ofNat_toNat]
      exact ⟨[b], rfl, by rw [hwritten], fun _ => hwritten.symm⟩
    · obtain ⟨⟨m, rest'⟩, hmore, heq⟩ := Option.map_eq_some_iff.mp h
      obtain ⟨rfl, rfl⟩ := Prod.mk.inj heq
      obtain ⟨front, rfl, hlong, hsame⟩ := ih hmore
      refine ⟨b :: front, rfl, ?_⟩
      have hmod : (b.toNat - 128 + 128 * m) % 128 = b.toNat - 128 := by omega
      have hdiv : (b.toNat - 128 + 128 * m) / 128 = m := by omega
      by_cases hshort : b.toNat - 128 + 128 * m < 128
      · -- The group that follows adds nothing, and is left out of what is written.
        have hpos := uleb128_pos m
        have hfront : 0 < front.length := hpos.trans_le hlong
        rw [uleb128_last hshort, List.length_singleton, List.length_cons]
        exact ⟨Nat.succ_le_succ (Nat.zero_le _), fun heq => by omega⟩
      · have hagain : UInt8.ofNat (b.toNat - 128 + 128) = b := by
          rw [Nat.sub_add_cancel (Nat.not_lt.mp hlast), UInt8.ofNat_toNat]
        rw [uleb128_more hshort, hmod, hdiv, hagain, List.length_cons, List.length_cons]
        exact ⟨Nat.succ_le_succ hlong, fun heq => by rw [hsame (Nat.succ.inj heq)]⟩

/-! ## Formats -/

namespace Codec

variable {α β : Type}

def Shortest (c : Codec α) : Prop :=
  ∀ {bytes rest : Bytes} {a : α}, c.decode bytes = some (a, rest) →
    ∃ front, bytes = front ++ rest ∧ (c.encode a).length ≤ front.length ∧
      (front.length = (c.encode a).length → front = c.encode a)

theorem shortest_byteVector : byteVector.Shortest := by
  intro bytes rest a h
  obtain ⟨⟨n, bytes'⟩, hlength, hvalue⟩ := Option.bind_eq_some_iff.mp h
  obtain ⟨front, rfl, hlong, hsame⟩ := readUleb128_shortest hlength
  simp only [fixedBytes] at hvalue
  split_ifs at hvalue with henough
  obtain ⟨rfl, rfl⟩ := Prod.mk.inj (Option.some.inj hvalue)
  have hn : (bytes'.take n).length = n := by
    rw [List.length_take, Nat.min_eq_left henough]
  refine ⟨front ++ bytes'.take n, ?_, ?_, ?_⟩
  · rw [List.append_assoc, List.take_append_drop]
  · show (uleb128 (bytes'.take n).length ++ bytes'.take n).length ≤ _
    rw [hn, List.length_append, List.length_append]
    exact Nat.add_le_add_right hlong _
  · intro heq
    show front ++ bytes'.take n = uleb128 (bytes'.take n).length ++ bytes'.take n
    have heq' : (front ++ bytes'.take n).length =
        (uleb128 (bytes'.take n).length ++ bytes'.take n).length := heq
    rw [hn, List.length_append, List.length_append] at heq'
    rw [hn, hsame (Nat.add_right_cancel heq')]

theorem Shortest.pair {c : Codec α} {d : Codec β} (hc : c.Shortest) (hd : d.Shortest) :
    (c.pair d).Shortest := by
  intro bytes rest a h
  obtain ⟨between, hfirst, hsecond⟩ := pair_decode_some h
  obtain ⟨front, rfl, hlong, hsame⟩ := hc hfirst
  obtain ⟨front', rfl, hlong', hsame'⟩ := hd hsecond
  refine ⟨front ++ front', (List.append_assoc ..).symm, ?_, fun heq => ?_⟩
  · rw [pair_encode, List.length_append, List.length_append]
    exact Nat.add_le_add hlong hlong'
  · rw [pair_encode, List.length_append, List.length_append] at heq
    rw [pair_encode, hsame (by omega), hsame' (by omega)]

theorem Shortest.iso {c : Codec α} {build : α → β} {fields : β → α}
    {h : ∀ b, build (fields b) = b} (hc : c.Shortest) (hfields : ∀ a, fields (build a) = a) :
    (c.iso build fields h).Shortest := by
  intro bytes rest b hread
  obtain ⟨⟨a, rest'⟩, ha, heq⟩ := Option.map_eq_some_iff.mp hread
  obtain ⟨rfl, rfl⟩ := Prod.mk.inj heq
  show ∃ front, bytes = front ++ rest' ∧ (c.encode (fields (build a))).length ≤ front.length ∧
    (front.length = (c.encode (fields (build a))).length → front = c.encode (fields (build a)))
  rw [hfields]
  exact hc ha

/-- Bytes as long as what is written for the value that they are read as are what is
written. -/
theorem Shortest.eq_encode {c : Codec α} (hc : c.Shortest) {bytes rest : Bytes} {a : α}
    (h : c.decode bytes = some (a, rest)) (hlength : (c.encode a).length = bytes.length) :
    bytes = c.encode a := by
  obtain ⟨front, rfl, hlong, hsame⟩ := hc h
  rw [List.length_append] at hlength
  obtain rfl : rest = [] := List.length_eq_zero_iff.mp (by omega)
  rw [List.append_nil]
  exact hsame (by simpa using hlength.symm)

/-! ## The lengths alone -/

/-- The reader takes no fewer bytes for a value than are written for it. -/
def Frugal (c : Codec α) : Prop :=
  ∀ {bytes rest : Bytes} {a : α}, c.decode bytes = some (a, rest) →
    (c.encode a).length + rest.length ≤ bytes.length

theorem Shortest.frugal {c : Codec α} (hc : c.Shortest) : c.Frugal := by
  intro bytes rest a h
  obtain ⟨front, rfl, hlong, -⟩ := hc h
  rw [List.length_append]
  exact Nat.add_le_add_right hlong _

theorem frugal_fixedBytes (n : ℕ) : (fixedBytes n).Frugal := by
  intro bytes rest a h
  simp only [fixedBytes] at h
  split_ifs at h with henough
  obtain ⟨rfl, rfl⟩ := Prod.mk.inj (Option.some.inj h)
  show (bytes.take n).length + (bytes.drop n).length ≤ bytes.length
  rw [← List.length_append, List.take_append_drop]

theorem frugal_uint (width : ℕ) : (uint width).Frugal := by
  intro bytes rest a h
  obtain ⟨⟨value, rest'⟩, hvalue, heq⟩ := Option.map_eq_some_iff.mp h
  obtain ⟨rfl, rfl⟩ := Prod.mk.inj heq
  have hwidth : value.length = width := by simpa [fixedBytes] using fixedBytes_decode_valid hvalue
  have hfixed : value.length + rest'.length ≤ bytes.length := frugal_fixedBytes width hvalue
  show (leBytes width (leValue value)).length + rest'.length ≤ bytes.length
  rwa [leBytes_length, ← hwidth]

theorem frugal_bool : bool.Frugal := by
  intro bytes rest a h
  cases bytes with
  | nil => cases h
  | cons b bytes =>
    cases h
    show 1 + rest.length ≤ (b :: rest).length
    rw [List.length_cons, Nat.add_comm]

theorem frugal_unitEnum [DecidableEq α] {all : List α} (hnodup : all.Nodup) :
    (unitEnum all).Frugal := by
  intro bytes rest a h
  obtain ⟨⟨n, rest'⟩, hnumber, h₁⟩ := Option.bind_eq_some_iff.mp h
  obtain ⟨found, hfound, heq⟩ := Option.map_eq_some_iff.mp h₁
  obtain ⟨rfl, rfl⟩ := Prod.mk.inj heq
  obtain ⟨hlt, rfl⟩ := List.getElem?_eq_some_iff.mp hfound
  obtain ⟨front, rfl, hlong, -⟩ := readUleb128_shortest hnumber
  show (uleb128 (all.idxOf all[n])).length + rest'.length ≤ _
  rw [List.Nodup.idxOf_getElem hnodup, List.length_append]
  exact Nat.add_le_add_right hlong _

theorem Frugal.option {c : Codec α} (hc : c.Frugal) : (Codec.option c).Frugal := by
  intro bytes rest a h
  obtain ⟨⟨tag, bytes'⟩, htag, h₁⟩ := Option.bind_eq_some_iff.mp h
  obtain ⟨front, rfl, hlong, -⟩ := readUleb128_shortest htag
  have hpos := uleb128_pos tag
  rw [List.length_append]
  match tag with
  | 0 =>
    cases h₁
    show 1 + bytes'.length ≤ _
    omega
  | 1 =>
    obtain ⟨⟨value, rest'⟩, hvalue, heq⟩ := Option.map_eq_some_iff.mp h₁
    cases heq
    have hless : (c.encode value).length + rest'.length ≤ bytes'.length := hc hvalue
    show (c.encode value).length + 1 + rest'.length ≤ _
    omega
  | _ + 2 => cases h₁

theorem Frugal.pair {c : Codec α} {d : Codec β} (hc : c.Frugal) (hd : d.Frugal) :
    (c.pair d).Frugal := by
  intro bytes rest a h
  obtain ⟨between, hfirst, hsecond⟩ := pair_decode_some h
  have hless := hc hfirst
  have hless' := hd hsecond
  rw [pair_encode, List.length_append]
  omega

theorem Frugal.iso {c : Codec α} {build : α → β} {fields : β → α}
    {h : ∀ b, build (fields b) = b} (hc : c.Frugal) (hfields : ∀ a, fields (build a) = a) :
    (c.iso build fields h).Frugal := by
  intro bytes rest b hread
  obtain ⟨⟨a, rest'⟩, ha, heq⟩ := Option.map_eq_some_iff.mp hread
  obtain ⟨rfl, rfl⟩ := Prod.mk.inj heq
  show (c.encode (fields (build a))).length + rest'.length ≤ bytes.length
  rw [hfields]
  exact hc ha

/-- Bytes that a pair takes whole are taken whole by each of its formats. -/
theorem Frugal.pair_tight {c : Codec α} {d : Codec β} (hc : c.Frugal) (hd : d.Frugal)
    {bytes between rest : Bytes} {a : α × β} (hfirst : c.decode bytes = some (a.1, between))
    (hsecond : d.decode between = some (a.2, rest))
    (htight : bytes.length = ((c.pair d).encode a).length + rest.length) :
    bytes.length = (c.encode a.1).length + between.length ∧
      between.length = (d.encode a.2).length + rest.length := by
  have hless := hc hfirst
  have hless' := hd hsecond
  rw [pair_encode, List.length_append] at htight
  omega

end Codec

end Wire
