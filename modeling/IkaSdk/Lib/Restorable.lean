import IkaSdk.Lib.Shortest

/-! Values kept in a second format, of fixed-width lengths, whose reader gives
back the bytes that the codec writes for the value. -/

namespace Wire

open Codec

/-- The reader takes the value's stored bytes from the front, and returns them as
the codec writes them. It knows only their lengths, so what it returns may run into
what follows; a codec that takes for a value only as many bytes as are written for
it ends where the reader ended. -/
structure Restorable (α : Type) where
  codec : Codec α
  lay : α → Option Bytes
  read : Bytes → Option (Bytes × Bytes)
  frugal : codec.Frugal
  read_lay : ∀ {a bytes}, codec.valid a → lay a = some bytes →
    ∀ rest, read (bytes ++ rest) = some (codec.encode a, rest)
  lay_read : ∀ {bytes written rest}, read bytes = some (written, rest) →
    ∀ {tail a rest'}, codec.decode (written ++ tail) = some (a, rest') →
      (written ++ tail).length = (codec.encode a).length + rest'.length →
      rest' = tail ∧ codec.valid a ∧ codec.encode a = written ∧
        ∃ laid, lay a = some laid ∧ bytes = laid ++ rest

namespace Restorable

variable {α β : Type}

def takeBytes (n : ℕ) (bytes : Bytes) : Option (Bytes × Bytes) :=
  if bytes.length < n then none else some (bytes.take n, bytes.drop n)

theorem takeBytes_append {n : ℕ} {bytes : Bytes} (h : bytes.length = n) (rest : Bytes) :
    takeBytes n (bytes ++ rest) = some (bytes, rest) := by
  subst h
  simp [takeBytes]

theorem takeBytes_some {n : ℕ} {bytes front rest : Bytes}
    (h : takeBytes n bytes = some (front, rest)) : front.length = n ∧ bytes = front ++ rest := by
  unfold takeBytes at h
  split_ifs at h with hshort
  cases h
  exact ⟨by simp; omega, (List.take_append_drop n bytes).symm⟩

theorem decode_fixedBytes {n : ℕ} {bytes : Bytes} (h : bytes.length = n) (rest : Bytes) :
    (fixedBytes n).decode (bytes ++ rest) = some (bytes, rest) :=
  (fixedBytes n).decode_encode bytes (by simpa [fixedBytes] using h) rest

/-- A field of one width in both formats. -/
def fixed (n : ℕ) : Restorable Bytes where
  codec := fixedBytes n
  lay := some
  read := takeBytes n
  frugal := frugal_fixedBytes n
  read_lay := by
    intro a bytes hvalid hlay rest
    cases hlay
    exact takeBytes_append (by simpa [fixedBytes] using hvalid) rest
  lay_read := by
    intro bytes written rest hread tail a rest' hdecode _
    obtain ⟨hlength, rfl⟩ := takeBytes_some hread
    rw [decode_fixedBytes hlength] at hdecode
    cases hdecode
    exact ⟨rfl, by simpa [fixedBytes] using hlength, rfl, written, rfl, rfl⟩

/-- A number of one width in both formats. -/
def number (width : ℕ) : Restorable ℕ where
  codec := uint width
  lay a := some (leBytes width a)
  read := takeBytes width
  frugal := frugal_uint width
  read_lay := by
    intro a bytes _ hlay rest
    cases hlay
    exact takeBytes_append (leBytes_length width a) rest
  lay_read := by
    intro bytes written rest hread tail a rest' hdecode _
    obtain ⟨hlength, rfl⟩ := takeBytes_some hread
    simp only [uint, decode_fixedBytes hlength, Option.map_some] at hdecode
    cases hdecode
    have hback : leBytes width (leValue written) = written := by
      rw [← hlength]
      exact leBytes_leValue written
    refine ⟨rfl, ?_, hback, leBytes width (leValue written), rfl, by rw [hback]⟩
    simpa [uint, hlength] using leValue_lt written

def takeSized (width : ℕ) (bytes : Bytes) : Option (Bytes × Bytes) := do
  let (length, rest) ← takeBytes width bytes
  let (value, rest) ← takeBytes (leValue length) rest
  some (uleb128 value.length ++ value, rest)

theorem takeSized_some {width : ℕ} {bytes written rest : Bytes}
    (h : takeSized width bytes = some (written, rest)) :
    ∃ value, written = byteVector.encode value ∧ value.length < 256 ^ width ∧
      bytes = leBytes width value.length ++ value ++ rest := by
  obtain ⟨⟨length, bytes'⟩, hlength, h₁⟩ := Option.bind_eq_some_iff.mp h
  obtain ⟨⟨value, rest'⟩, hvalue, h₂⟩ := Option.bind_eq_some_iff.mp h₁
  cases h₂
  obtain ⟨hwidth, rfl⟩ := takeBytes_some hlength
  obtain ⟨hsize, rfl⟩ := takeBytes_some hvalue
  have hback : leBytes width (leValue length) = length := by
    rw [← hwidth]
    exact leBytes_leValue length
  refine ⟨value, rfl, ?_, ?_⟩
  · rw [hsize, ← hwidth]
    exact leValue_lt length
  · rw [hsize, hback, List.append_assoc]

/-- A byte vector after its length, stored in `width` bytes. -/
def sized (width : ℕ) : Restorable Bytes where
  codec := byteVector
  lay a := if a.length < 256 ^ width then some (leBytes width a.length ++ a) else none
  read := takeSized width
  frugal := shortest_byteVector.frugal
  read_lay := by
    intro a bytes _ hlay rest
    split_ifs at hlay with hfits
    cases hlay
    have hlength : leValue (leBytes width a.length) = a.length := by
      rw [leValue_leBytes, Nat.mod_eq_of_lt hfits]
    rw [takeSized, List.append_assoc, takeBytes_append (leBytes_length width a.length)]
    simp only [Option.bind_eq_bind, Option.bind_some, hlength]
    rw [takeBytes_append rfl]
    rfl
  lay_read := by
    intro bytes written rest hread tail a rest' hdecode _
    obtain ⟨value, rfl, hfits, rfl⟩ := takeSized_some hread
    rw [byteVector.decode_encode value rfl] at hdecode
    cases hdecode
    exact ⟨rfl, rfl, rfl, _, if_pos hfits, rfl⟩

def takeFlag (bytes : Bytes) : Option (Bytes × Bytes) := do
  let (flag, rest) ← takeBytes 1 bytes
  if 1 < (flag.getD 0 0).toNat then none else some (flag, rest)

theorem takeFlag_some {bytes written rest : Bytes} (h : takeFlag bytes = some (written, rest)) :
    bytes = written ++ rest ∧ (written = [0] ∨ written = [1]) := by
  obtain ⟨⟨flag, rest'⟩, hflag, h₁⟩ := Option.bind_eq_some_iff.mp h
  obtain ⟨hlength, rfl⟩ := takeBytes_some hflag
  obtain ⟨b, rfl⟩ := List.length_eq_one_iff.mp hlength
  simp only [List.getD_cons_zero] at h₁
  split_ifs at h₁ with hbig
  cases h₁
  refine ⟨rfl, ?_⟩
  have hb : b.toNat = 0 ∨ b.toNat = 1 := by omega
  rcases hb with hb | hb
  · exact .inl (by rw [← UInt8.ofNat_toNat (x := b), hb]; rfl)
  · exact .inr (by rw [← UInt8.ofNat_toNat (x := b), hb]; rfl)

/-- A flag, which the reader takes only as 0 or 1. -/
def flag : Restorable Bool where
  codec := bool
  lay a := some [if a then 1 else 0]
  read := takeFlag
  frugal := frugal_bool
  read_lay := by
    intro a bytes _ hlay rest
    cases hlay
    cases a <;> rfl
  lay_read := by
    intro bytes written rest hread tail a rest' hdecode _
    obtain ⟨rfl, rfl | rfl⟩ := takeFlag_some hread
    · cases hdecode
      exact ⟨rfl, rfl, rfl, [0], rfl, rfl⟩
    · cases hdecode
      exact ⟨rfl, rfl, rfl, [1], rfl, rfl⟩

/-! ## Variant indices -/

section Indices

variable [DecidableEq α] {all : List α}

theorem index_lt (hfew : all.length ≤ 128) {a : α} (h : (unitEnum all).valid a) :
    all.idxOf a < 128 := by
  have ha : a ∈ all := by simpa [unitEnum] using h
  exact (List.idxOf_lt_length_of_mem ha).trans_le hfew

theorem encode_index (hfew : all.length ≤ 128) {a : α} (h : (unitEnum all).valid a) :
    (unitEnum all).encode a = [UInt8.ofNat (all.idxOf a)] := uleb128_last (index_lt hfew h)

theorem readUleb128_length {bytes rest : Bytes} {n : ℕ} (h : readUleb128 bytes = some (n, rest)) :
    rest.length < bytes.length := by
  obtain ⟨front, rfl, hlong, -⟩ := readUleb128_shortest h
  have hpos := uleb128_pos n
  rw [List.length_append]
  omega

theorem decode_index_valid {bytes rest : Bytes} {a : α}
    (h : (unitEnum all).decode bytes = some (a, rest)) : (unitEnum all).valid a := by
  obtain ⟨⟨n, rest'⟩, -, h₁⟩ := Option.bind_eq_some_iff.mp h
  obtain ⟨found, hfound, heq⟩ := Option.map_eq_some_iff.mp h₁
  cases heq
  simpa [unitEnum] using List.mem_of_getElem? hfound

/-- A byte that another byte goes on from takes more than the one byte of an index. -/
theorem decode_index_long {b : UInt8} {tail rest : Bytes} {a : α} (hb : ¬b.toNat < 128)
    (h : (unitEnum all).decode (b :: tail) = some (a, rest)) : rest.length < tail.length := by
  simp only [unitEnum, readUleb128, if_neg hb] at h
  obtain ⟨⟨m, rest'⟩, hread, h₁⟩ := Option.bind_eq_some_iff.mp h
  obtain ⟨⟨n, rest''⟩, hmore, heq⟩ := Option.map_eq_some_iff.mp hread
  cases heq
  obtain ⟨found, -, heq⟩ := Option.map_eq_some_iff.mp h₁
  cases heq
  exact readUleb128_length hmore

theorem decode_index (hfew : all.length ≤ 128) (hnodup : all.Nodup) {b : UInt8}
    {tail rest : Bytes} {a : α} (h : (unitEnum all).decode (b :: tail) = some (a, rest))
    (htight : (b :: tail).length = ((unitEnum all).encode a).length + rest.length) :
    rest = tail ∧ (unitEnum all).valid a ∧ UInt8.ofNat (all.idxOf a) = b := by
  have hvalid := decode_index_valid h
  rw [encode_index hfew hvalid, List.length_singleton, List.length_cons] at htight
  by_cases hb : b.toNat < 128
  · simp only [unitEnum, readUleb128, if_pos hb, Option.bind_some, Option.map_eq_some_iff] at h
    obtain ⟨found, hfound, heq⟩ := h
    cases heq
    obtain ⟨hlt, rfl⟩ := List.getElem?_eq_some_iff.mp hfound
    refine ⟨rfl, hvalid, ?_⟩
    rw [List.Nodup.idxOf_getElem hnodup, UInt8.ofNat_toNat]
  · have hlong := decode_index_long hb h
    omega

/-- A variant index, stored in one byte. -/
def index (all : List α) (hfew : all.length ≤ 128) (hnodup : all.Nodup) : Restorable α where
  codec := unitEnum all
  lay a := some [UInt8.ofNat (all.idxOf a)]
  read := takeBytes 1
  frugal := frugal_unitEnum hnodup
  read_lay := by
    intro a bytes hvalid hlay rest
    cases hlay
    rw [encode_index hfew hvalid]
    exact takeBytes_append rfl rest
  lay_read := by
    intro bytes written rest hread tail a rest' hdecode htight
    obtain ⟨hlength, rfl⟩ := takeBytes_some hread
    obtain ⟨b, rfl⟩ := List.length_eq_one_iff.mp hlength
    obtain ⟨rfl, hvalid, hb⟩ := decode_index hfew hnodup hdecode htight
    refine ⟨rfl, hvalid, ?_, [b], ?_, rfl⟩
    · rw [encode_index hfew hvalid, hb]
    · rw [hb]

/-- A variant index and `n` bytes after it, taken at once. -/
def indexed (all : List α) (hfew : all.length ≤ 128) (hnodup : all.Nodup) (n : ℕ) :
    Restorable (α × Bytes) where
  codec := (unitEnum all).pair (fixedBytes n)
  lay a := some (UInt8.ofNat (all.idxOf a.1) :: a.2)
  read := takeBytes (n + 1)
  frugal := Frugal.pair (frugal_unitEnum hnodup) (frugal_fixedBytes n)
  read_lay := by
    intro a bytes hvalid hlay rest
    cases hlay
    obtain ⟨hindex, hbytes⟩ := Bool.and_eq_true_iff.mp hvalid
    have hlength : a.2.length = n := by simpa [fixedBytes] using hbytes
    refine (takeBytes_append (by simp [hlength]) rest).trans ?_
    rw [pair_encode, encode_index hfew hindex]
    rfl
  lay_read := by
    intro bytes written rest hread tail a rest' hdecode htight
    obtain ⟨hlength, rfl⟩ := takeBytes_some hread
    obtain ⟨b, value, rfl, hvalue⟩ := List.length_eq_succ_iff.mp hlength
    obtain ⟨found, stored⟩ := a
    obtain ⟨between, hfound, hstored⟩ := pair_decode_some hdecode
    obtain ⟨htight, -⟩ :=
      Frugal.pair_tight (frugal_unitEnum hnodup) (frugal_fixedBytes n) hfound hstored htight
    obtain ⟨rfl, hvalid, hb⟩ := decode_index hfew hnodup hfound htight
    have hstored := (decode_fixedBytes hvalue tail).symm.trans hstored
    cases hstored
    have hfixed : (fixedBytes n).valid stored := by simpa [fixedBytes] using hvalue
    refine ⟨rfl, Bool.and_eq_true_iff.mpr ⟨hvalid, hfixed⟩, ?_, b :: stored, ?_, rfl⟩
    · rw [pair_encode, encode_index hfew hvalid, hb]
      rfl
    · rw [hb]

end Indices

/-! ## Options, and records of other fields -/

def takeOption (read : Bytes → Option (Bytes × Bytes)) (bytes : Bytes) :
    Option (Bytes × Bytes) := do
  let (tag, rest) ← takeFlag bytes
  if (tag.getD 0 0).toNat = 0 then some (tag, rest)
  else
    let (value, rest) ← read rest
    some (1 :: value, rest)

theorem takeOption_some {read : Bytes → Option (Bytes × Bytes)} {bytes written rest : Bytes}
    (h : takeOption read bytes = some (written, rest)) :
    written = [0] ∧ bytes = 0 :: rest ∨
      ∃ value bytes', written = 1 :: value ∧ bytes = 1 :: bytes' ∧
        read bytes' = some (value, rest) := by
  obtain ⟨⟨tag, rest'⟩, htag, h₁⟩ := Option.bind_eq_some_iff.mp h
  obtain ⟨rfl, rfl | rfl⟩ := takeFlag_some htag
  · cases h₁
    exact .inl ⟨rfl, rfl⟩
  · obtain ⟨⟨value, rest''⟩, hvalue, h₂⟩ := Option.bind_eq_some_iff.mp h₁
    cases h₂
    exact .inr ⟨value, rest', rfl, rfl, hvalue⟩

theorem decode_option_some {c : Codec α} (tail : Bytes) :
    (Codec.option c).decode (1 :: tail) = (c.decode tail).map fun read => (some read.1, read.2) :=
  rfl

def option (r : Restorable α) : Restorable (Option α) where
  codec := Codec.option r.codec
  lay
    | none => some [0]
    | some a => (r.lay a).map (1 :: ·)
  read := takeOption r.read
  frugal := Frugal.option r.frugal
  read_lay := by
    intro a bytes hvalid hlay rest
    cases a with
    | none =>
      cases hlay
      rfl
    | some a =>
      obtain ⟨laid, hlaid, rfl⟩ := Option.map_eq_some_iff.mp hlay
      have hread := r.read_lay hvalid hlaid rest
      change (r.read (laid ++ rest)).bind _ = _
      rw [hread]
      rfl
  lay_read := by
    intro bytes written rest hread tail a rest' hdecode htight
    rcases takeOption_some hread with ⟨rfl, rfl⟩ | ⟨value, bytes', rfl, rfl, hvalue⟩
    · cases hdecode
      exact ⟨rfl, rfl, rfl, [0], rfl, rfl⟩
    · rw [List.cons_append, decode_option_some] at hdecode
      obtain ⟨⟨found, after⟩, hfound, heq⟩ := Option.map_eq_some_iff.mp hdecode
      cases heq
      have htight' : (value ++ tail).length = (r.codec.encode found).length + after.length := by
        change (value ++ tail).length + 1 = (r.codec.encode found).length + 1 + after.length
          at htight
        omega
      obtain ⟨rfl, hvalid, rfl, laid, hlaid, rfl⟩ := r.lay_read hvalue hfound htight'
      refine ⟨rfl, hvalid, rfl, 1 :: laid, ?_, rfl⟩
      change (r.lay found).map _ = _
      rw [hlaid]
      rfl

/-- The records `β` that are built from the fields `α`. -/
def iso (r : Restorable α) (build : α → β) (fields : β → α) (h : ∀ b, build (fields b) = b)
    (h' : ∀ a, fields (build a) = a) : Restorable β where
  codec := r.codec.iso build fields h
  lay b := r.lay (fields b)
  read := r.read
  frugal := Frugal.iso r.frugal h'
  read_lay := by
    intro b bytes hvalid hlay rest
    exact r.read_lay hvalid hlay rest
  lay_read := by
    intro bytes written rest hread tail b rest' hdecode htight
    obtain ⟨⟨a, after⟩, ha, heq⟩ := Option.map_eq_some_iff.mp hdecode
    cases heq
    simp only [Codec.iso, h'] at htight
    have hread := r.lay_read hread ha htight
    simpa only [Codec.iso, h'] using hread

end Restorable

end Wire
