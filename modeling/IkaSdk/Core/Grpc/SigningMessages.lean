import IkaSdk.Core.Primitives

/-! The messages that the network's key and a user's transport key sign: each
starts with a prefix, and the network's also with the tag of its kind. -/

namespace Ika

open Wire

inductive AttestationKind
  | dwallet
  | presign
  | partialUserSignature
  | encryptedShare
  | publicShare
deriving DecidableEq, Repr

def attestationKindTag : AttestationKind → UInt8
  | .dwallet => 0
  | .presign => 1
  | .partialUserSignature => 2
  | .encryptedShare => 3
  | .publicShare => 4

def attestationSigningPrefix : Bytes := 0xfe :: textBytes "ika-attestation"

def networkKeyReconfigurationRecordTag : UInt8 := 5

def networkKeyDkgRecordTag : UInt8 := 6

def committeeAttestationTag : UInt8 := 7

def requestSigningPrefix : Bytes := 0xff :: textBytes "ika-request"

def attestationSigningMessage (kind : AttestationKind) (attestationData : Bytes) : Bytes :=
  attestationSigningPrefix ++ [attestationKindTag kind] ++ attestationData

def requireLength (name : String) (bytes : Bytes) (length : ℕ) : Except String Unit :=
  if bytes.length ≠ length then .error s!"{name} is {bytes.length} bytes, not {length}"
  else .ok ()

def u64LittleEndian (epoch : ℤ) : Except String Bytes :=
  if epoch < 0 ∨ 0xffffffffffffffff < epoch then .error s!"the epoch {epoch} is not a u64"
  else .ok (leBytes 8 epoch.toNat)

def networkKeyReconfigurationRecordMessage (noaPublicKey : Bytes) (epoch : ℤ)
    (digest : Bytes) : Except String Bytes := do
  requireLength "the network key" noaPublicKey 32
  requireLength "the digest" digest 32
  let epochBytes ← u64LittleEndian epoch
  return attestationSigningPrefix ++ [networkKeyReconfigurationRecordTag] ++
    noaPublicKey ++ epochBytes ++ digest

def networkKeyDkgRecordMessage (noaPublicKey digest : Bytes) : Except String Bytes := do
  requireLength "the network key" noaPublicKey 32
  requireLength "the digest" digest 32
  return attestationSigningPrefix ++ [networkKeyDkgRecordTag] ++ noaPublicKey ++ digest

def committeeSigningMessage (attestation : Bytes) : Bytes :=
  attestationSigningPrefix ++ [committeeAttestationTag] ++ attestation

def requestSigningMessage (signedRequestData : Bytes) : Bytes :=
  requestSigningPrefix ++ signedRequestData

theorem requireLength_ok {name : String} {bytes : Bytes} {length : ℕ} {u : Unit}
    (h : requireLength name bytes length = .ok u) : bytes.length = length := by
  unfold requireLength at h
  split_ifs at h with hne
  exact not_not.mp hne

theorem u64LittleEndian_ok {epoch : ℤ} {bytes : Bytes} (h : u64LittleEndian epoch = .ok bytes) :
    (0 ≤ epoch ∧ epoch.toNat < 256 ^ 8) ∧ bytes = leBytes 8 epoch.toNat := by
  unfold u64LittleEndian at h
  split_ifs at h with hrange
  refine ⟨?_, (Except.ok.inj h).symm⟩
  omega

end Ika
