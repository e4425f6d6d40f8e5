import IkaSdk.Lib.Bytes

/-! Self-delimiting binary formats. A codec writes the values its format can
hold, and its reader takes back exactly what was written, whatever follows. -/

namespace Wire

structure Codec (α : Type) where
  valid : α → Bool
  encode : α → Bytes
  decode : Bytes → Option (α × Bytes)
  decode_encode : ∀ a, valid a → ∀ rest, decode (encode a ++ rest) = some (a, rest)

namespace Codec

variable {α β : Type}

/-- The bytes of a value, when the format can hold it. -/
def serialize (c : Codec α) (a : α) : Except String Bytes :=
  if c.valid a then .ok (c.encode a) else .error "the value does not fit the format"

theorem serialize_ok {c : Codec α} {a : α} {bytes : Bytes} (h : c.serialize a = .ok bytes) :
    c.valid a ∧ bytes = c.encode a := by
  unfold serialize at h
  split_ifs at h with hv
  exact ⟨hv, (Except.ok.inj h).symm⟩

theorem encode_append_inj (c : Codec α) {a b : α} (ha : c.valid a) (hb : c.valid b)
    {xs ys : Bytes} (h : c.encode a ++ xs = c.encode b ++ ys) : a = b ∧ xs = ys := by
  have hread := congrArg c.decode h
  rw [c.decode_encode a ha, c.decode_encode b hb] at hread
  simpa using hread

theorem encode_inj (c : Codec α) {a b : α} (ha : c.valid a) (hb : c.valid b)
    (h : c.encode a = c.encode b) : a = b := by
  have happend : c.encode a ++ [] = c.encode b ++ [] := by rw [h]
  exact (c.encode_append_inj ha hb happend).1

theorem serialize_inj {c : Codec α} {a b : α} {bytes : Bytes} (ha : c.serialize a = .ok bytes)
    (hb : c.serialize b = .ok bytes) : a = b := by
  obtain ⟨hva, rfl⟩ := serialize_ok ha
  obtain ⟨hvb, h⟩ := serialize_ok hb
  exact c.encode_inj hva hvb h

theorem decode_serialize {c : Codec α} {a : α} {bytes : Bytes} (h : c.serialize a = .ok bytes) :
    c.decode bytes = some (a, []) := by
  obtain ⟨hvalid, rfl⟩ := serialize_ok h
  simpa using c.decode_encode a hvalid []

/-! ## Numbers and byte strings -/

def fixedBytes (n : ℕ) : Codec Bytes where
  valid a := a.length == n
  encode a := a
  decode bytes := if n ≤ bytes.length then some (bytes.take n, bytes.drop n) else none
  decode_encode a h rest := by
    obtain rfl : a.length = n := by simpa using h
    simp

def uint (width : ℕ) : Codec ℕ where
  valid a := a < 256 ^ width
  encode a := leBytes width a
  decode bytes := ((fixedBytes width).decode bytes).map fun read => (leValue read.1, read.2)
  decode_encode a h rest := by
    have ha : a < 256 ^ width := by simpa using h
    have hread := (fixedBytes width).decode_encode (leBytes width a) (by simp [fixedBytes]) rest
    rw [show (fixedBytes width).encode (leBytes width a) = leBytes width a from rfl] at hread
    simp [hread, leValue_leBytes, Nat.mod_eq_of_lt ha]

/-- A byte vector: its length as ULEB128, then its bytes. -/
def byteVector : Codec Bytes where
  valid _ := true
  encode a := uleb128 a.length ++ a
  decode bytes := (readUleb128 bytes).bind fun read => (fixedBytes read.1).decode read.2
  decode_encode a _ rest := by
    rw [List.append_assoc, readUleb128_uleb128, Option.bind_some]
    exact (fixedBytes a.length).decode_encode a (by simp [fixedBytes]) rest

theorem fixedBytes_decode_valid {n : ℕ} {bytes a rest : Bytes}
    (h : (fixedBytes n).decode bytes = some (a, rest)) : (fixedBytes n).valid a := by
  simp only [fixedBytes] at h
  split_ifs at h with hlong
  cases h
  simpa [fixedBytes] using hlong

theorem uint_decode_valid {width a : ℕ} {bytes rest : Bytes}
    (h : (uint width).decode bytes = some (a, rest)) : (uint width).valid a := by
  obtain ⟨⟨value, rest'⟩, hvalue, heq⟩ := Option.map_eq_some_iff.mp h
  cases heq
  have hlength : value.length = width := by simpa [fixedBytes] using fixedBytes_decode_valid hvalue
  have hlt := leValue_lt value
  rw [hlength] at hlt
  simpa [uint] using hlt

/-! ## Products, options and variants -/

def pair (c : Codec α) (d : Codec β) : Codec (α × β) where
  valid a := c.valid a.1 && d.valid a.2
  encode a := c.encode a.1 ++ d.encode a.2
  decode bytes := (c.decode bytes).bind fun first =>
    (d.decode first.2).map fun second => ((first.1, second.1), second.2)
  decode_encode a h rest := by
    obtain ⟨h₁, h₂⟩ := Bool.and_eq_true_iff.mp h
    rw [List.append_assoc, c.decode_encode _ h₁, Option.bind_some, d.decode_encode _ h₂]
    rfl

theorem pair_encode (c : Codec α) (d : Codec β) (a : α × β) :
    (c.pair d).encode a = c.encode a.1 ++ d.encode a.2 := rfl

theorem pair_decode_some {c : Codec α} {d : Codec β} {bytes rest : Bytes} {a : α × β}
    (h : (c.pair d).decode bytes = some (a, rest)) :
    ∃ between, c.decode bytes = some (a.1, between) ∧ d.decode between = some (a.2, rest) := by
  obtain ⟨⟨first, between⟩, hfirst, h₁⟩ := Option.bind_eq_some_iff.mp h
  obtain ⟨⟨second, rest'⟩, hsecond, heq⟩ := Option.map_eq_some_iff.mp h₁
  cases heq
  exact ⟨between, hfirst, hsecond⟩

/-- The format of `α` for the records `β` that are built from it. -/
def iso (c : Codec α) (build : α → β) (fields : β → α) (h : ∀ b, build (fields b) = b) :
    Codec β where
  valid b := c.valid (fields b)
  encode b := c.encode (fields b)
  decode bytes := (c.decode bytes).map fun read => (build read.1, read.2)
  decode_encode b hb rest := by
    simp only [c.decode_encode _ hb, Option.map_some, h]

/-- The format of one variant of `β`, which holds no other variant. -/
def variant (c : Codec α) (build : α → β) (payload : β → Option α)
    (h : ∀ b a, payload b = some a → build a = b) : Codec β where
  valid b := (payload b).any c.valid
  encode b := ((payload b).map c.encode).getD []
  decode bytes := (c.decode bytes).map fun read => (build read.1, read.2)
  decode_encode b hb rest := by
    obtain ⟨a, ha, hv⟩ := (Option.any_eq_true _ _).mp hb
    simp [ha, c.decode_encode a hv, h b a ha]

/-- As many values as the number says, one after the other. -/
def decodeMany (c : Codec α) : ℕ → Bytes → Option (List α × Bytes)
  | 0, bytes => some ([], bytes)
  | n + 1, bytes => (c.decode bytes).bind fun first =>
      (c.decodeMany n first.2).map fun rest => (first.1 :: rest.1, rest.2)

theorem decodeMany_encode (c : Codec α) {list : List α} (h : list.all c.valid) (rest : Bytes) :
    c.decodeMany list.length (list.flatMap c.encode ++ rest) = some (list, rest) := by
  induction list with
  | nil => rfl
  | cons a list ih =>
    obtain ⟨ha, hlist⟩ : c.valid a ∧ list.all c.valid := by simpa using h
    rw [List.flatMap_cons, List.append_assoc, List.length_cons, decodeMany,
      c.decode_encode a ha, Option.bind_some, ih hlist]
    rfl

/-- A list: the number of its values as ULEB128, then the values. -/
def vector (c : Codec α) : Codec (List α) where
  valid list := list.all c.valid
  encode list := uleb128 list.length ++ list.flatMap c.encode
  decode bytes := (readUleb128 bytes).bind fun read => c.decodeMany read.1 read.2
  decode_encode list h rest := by
    rw [List.append_assoc, readUleb128_uleb128, Option.bind_some]
    exact c.decodeMany_encode h rest

def never : Codec α where
  valid _ := false
  encode _ := []
  decode _ := none
  decode_encode _ h := by cases h

def unit : Codec Unit where
  valid _ := true
  encode _ := []
  decode bytes := some ((), bytes)
  decode_encode _ _ _ := rfl

/-- A tagged union: the index of the variant as ULEB128, then its payload. -/
def enumOf (index : α → ℕ) (body : ℕ → Codec α) : Codec α where
  valid a := (body (index a)).valid a
  encode a := uleb128 (index a) ++ (body (index a)).encode a
  decode bytes := (readUleb128 bytes).bind fun read => (body read.1).decode read.2
  decode_encode a h rest := by
    rw [List.append_assoc, readUleb128_uleb128, Option.bind_some]
    exact (body (index a)).decode_encode a h rest

/-- A union of variants without payload, numbered in the order of the list. -/
def unitEnum [DecidableEq α] (all : List α) : Codec α where
  valid a := all.contains a
  encode a := uleb128 (all.idxOf a)
  decode bytes := (readUleb128 bytes).bind fun read => all[read.1]?.map fun a => (a, read.2)
  decode_encode a h rest := by
    have ha : a ∈ all := by simpa using h
    simp only [readUleb128_uleb128, Option.bind_some, List.getElem?_idxOf ha, Option.map_some]

/-- One byte; any byte but 1 is read as false. -/
def bool : Codec Bool where
  valid _ := true
  encode a := [if a then 1 else 0]
  decode
    | [] => none
    | b :: rest => some (b == 1, rest)
  decode_encode a _ rest := by cases a <;> rfl

def option (c : Codec α) : Codec (Option α) :=
  enumOf (fun a => if a.isSome then 1 else 0) fun
    | 0 => variant unit (fun _ => none) (fun a => if a.isNone then some () else none)
        fun b a h => by cases b <;> simp_all
    | 1 => variant c some id fun b a h => by simpa using h.symm
    | _ => never

end Codec

end Wire
