import IkaSdk.Lib.Codec

/-! The functions of the packages that the SDK calls and does not contain: the
hashes, Ed25519, the reader of BCS bytes and the cryptography of a dWallet. The
development holds for every choice of them; where a result needs more, the
assumption is a hypothesis of that result. -/

namespace Ika

open Wire

/-- What a client's cryptography computes of a dWallet's output. -/
structure UserCryptography where
  publicKeyFromDWalletOutput (curve : ℕ) (publicOutput : Bytes) : Except String Bytes

structure Primitives where
  keccak256 : Bytes → Bytes
  sha256 : Bytes → Bytes
  /-- Whether 32 bytes decode as a point of the Ed25519 curve. -/
  isOnCurve : Bytes → Bool
  /-- Throws for a signature or a key of the wrong length. -/
  ed25519Verify (signature message publicKey : Bytes) : Except String Bool
  ed25519Sign (message secretKey : Bytes) : Bytes
  ed25519GetPublicKey (secretKey : Bytes) : Bytes
  /-- Reads a value from the front of the bytes, in ways a codec need not. -/
  parse {α : Type} (c : Codec α) (bytes : Bytes) : Except String α
  realCryptography : UserCryptography
  keccak256_length : ∀ bytes, (keccak256 bytes).length = 32
  parse_encode : ∀ {α : Type} (c : Codec α) (a : α), c.valid a → parse c (c.encode a) = .ok a

/-- The UTF-8 bytes of a text, as `TextEncoder` writes them. -/
def textBytes (s : String) : Bytes := s.toUTF8.data.toList

def hexDigit (n : ℕ) : Char := "0123456789abcdef".toList.getD n '0'

def toHex (bytes : Bytes) : String :=
  String.ofList (bytes.flatMap fun b => [hexDigit (b.toNat / 16), hexDigit (b.toNat % 16)])

theorem Primitives.parse_serialize (P : Primitives) {α : Type} {c : Codec α} {a : α}
    {bytes : Bytes} (h : c.serialize a = .ok bytes) : P.parse c bytes = .ok a := by
  obtain ⟨hv, rfl⟩ := Codec.serialize_ok h
  exact P.parse_encode c a hv

/-- Primitives that a run can be evaluated with: the hash keeps the front of its
input, every signature verifies, a value is read only from as many bytes as are
written for it, and an output is its public key. -/
def samplePrimitives : Primitives where
  keccak256 bytes := (bytes ++ List.replicate 32 0).take 32
  sha256 bytes := (bytes ++ List.replicate 32 0).take 32
  isOnCurve _ := false
  ed25519Verify _ _ _ := .ok true
  ed25519Sign message _ := message.take 64
  ed25519GetPublicKey secretKey := secretKey
  parse c bytes := match c.decode bytes with
    | some (a, rest) =>
      if bytes.length = (c.encode a).length + rest.length then .ok a
      else .error "the bytes are not as short as they are written"
    | none => .error "the bytes do not decode"
  realCryptography := ⟨fun _ publicOutput => .ok publicOutput⟩
  keccak256_length bytes := by simp
  parse_encode c a h := by
    have hread := c.decode_encode a h []
    rw [List.append_nil] at hread
    rw [hread]
    exact if_pos rfl

theorem samplePrimitives_takes {α : Type} {c : Codec α} {bytes : Bytes} {a : α}
    (h : samplePrimitives.parse c bytes = .ok a) : ∃ rest, c.decode bytes = some (a, rest) ∧
      bytes.length = (c.encode a).length + rest.length := by
  simp only [samplePrimitives] at h
  split at h
  · next value rest hdecode =>
    split_ifs at h with hlength
    cases h
    exact ⟨rest, hdecode, hlength⟩
  · cases h

theorem samplePrimitives_reads {α : Type} {c : Codec α} {bytes : Bytes} {a : α}
    (h : samplePrimitives.parse c bytes = .ok a) : ∃ rest, c.decode bytes = some (a, rest) := by
  obtain ⟨rest, hdecode, -⟩ := samplePrimitives_takes h
  exact ⟨rest, hdecode⟩

end Ika
