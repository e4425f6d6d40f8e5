import IkaSdk.Core.Grpc.SigningMessages
import IkaSdk.Lib.Except
import IkaSdk.Lib.Layout
import IkaSdk.Solana.Instructions

/-! Domain separation of everything the SDK signs or checks a signature over:
each message is the tag of its format and then parts whose layout the format
fixes, and no tag starts another. -/

namespace Ika.Solana

open Wire

/-- A call of one of the functions that build a signed message. -/
inductive SignedMessage
  | attestation (kind : AttestationKind) (attestationData : Bytes)
  | reconfigurationRecord (noaPublicKey : Bytes) (epoch : ℤ) (digest : Bytes)
  | dkgRecord (noaPublicKey digest : Bytes)
  | committee (attestationBytes : Bytes)
  | request (signedRequestData : Bytes)
  | gasRelease (programId deposit : PublicKey) (requestPublicKey : Bytes)
      (withdrawalSequence ikaAmount solAmount : UInt64)
  | encryptionKeyRegistration (chainNumber : UInt32) (network : UInt8) (curve : UInt16)
      (encryptionKey : Bytes)
  | depositProof (chainNumber : UInt32) (network : UInt8) (sender : Bytes)
deriving DecidableEq

def SignedMessage.build : SignedMessage → Except String Bytes
  | attestation kind data => .ok (attestationSigningMessage kind data)
  | reconfigurationRecord key epoch digest =>
    networkKeyReconfigurationRecordMessage key epoch digest
  | dkgRecord key digest => networkKeyDkgRecordMessage key digest
  | committee bytes => .ok (committeeSigningMessage bytes)
  | request data => .ok (requestSigningMessage data)
  | gasRelease programId deposit key seq ika sol =>
    gasReleaseMessage programId deposit key seq.toNat ika.toNat sol.toNat
  | encryptionKeyRegistration chain network curve key =>
    .ok (encryptionKeyRegistrationMessage chain.toNat network.toNat curve.toNat key)
  | depositProof chain network sender =>
    .ok (depositProofMessage chain.toNat network.toNat sender)

/-! ## Formats -/

inductive Format
  | attestation (kind : AttestationKind)
  | reconfigurationRecord
  | dkgRecord
  | committee
  | request
  | gasRelease
  | encryptionKeyRegistration
  | depositProof
deriving DecidableEq

def Format.tag : Format → Bytes
  | attestation kind => attestationSigningPrefix ++ [attestationKindTag kind]
  | reconfigurationRecord => attestationSigningPrefix ++ [networkKeyReconfigurationRecordTag]
  | dkgRecord => attestationSigningPrefix ++ [networkKeyDkgRecordTag]
  | committee => attestationSigningPrefix ++ [committeeAttestationTag]
  | request => requestSigningPrefix
  | gasRelease => gasReleasePrefix
  | encryptionKeyRegistration =>
    leBytes 2 encryptionKeyRegistrationMessageVersion ++
      uleb128 (textBytes encryptionKeyRegistrationDomain).length ++
      textBytes encryptionKeyRegistrationDomain
  | depositProof => leBytes 2 depositProofMessageVersion ++ textBytes depositProofDomain

def formats : List Format :=
  [.attestation .dwallet, .attestation .presign, .attestation .partialUserSignature,
    .attestation .encryptedShare, .attestation .publicShare, .reconfigurationRecord,
    .dkgRecord, .committee, .request, .gasRelease, .encryptionKeyRegistration, .depositProof]

theorem mem_formats (f : Format) : f ∈ formats := by
  cases f with
  | attestation kind => cases kind <;> decide
  | _ => decide

theorem formats_prefixFree : PrefixFree {f | f ∈ formats} Format.tag := by
  have hall : ∀ i ∈ formats, ∀ j ∈ formats, i.tag <+: j.tag → i = j := by decide +kernel
  exact hall

def Format.layout : Format → List Width
  | attestation _ | committee | request => [.variable]
  | reconfigurationRecord => [.fixed 32, .fixed 8, .fixed 32]
  | dkgRecord => [.fixed 32, .fixed 32]
  | gasRelease => [.fixed 32, .fixed 32, .fixed 32, .fixed 8, .fixed 8, .fixed 8]
  | encryptionKeyRegistration => [.fixed 4, .fixed 1, .fixed 2, .variable]
  | depositProof => [.fixed 4, .fixed 1, .fixed 1, .variable]

theorem Format.one_variable (f : Format) : f.layout.count .variable ≤ 1 := by
  cases f <;> simp [layout]

def SignedMessage.format : SignedMessage → Format
  | attestation kind _ => .attestation kind
  | reconfigurationRecord .. => .reconfigurationRecord
  | dkgRecord .. => .dkgRecord
  | committee _ => .committee
  | request _ => .request
  | gasRelease .. => .gasRelease
  | encryptionKeyRegistration .. => .encryptionKeyRegistration
  | depositProof .. => .depositProof

/-- What follows the tag, cut where the layout of the format cuts it. -/
def SignedMessage.parts : SignedMessage → List Bytes
  | attestation _ data => [data]
  | reconfigurationRecord key epoch digest => [key, leBytes 8 epoch.toNat, digest]
  | dkgRecord key digest => [key, digest]
  | committee bytes => [bytes]
  | request data => [data]
  | gasRelease programId deposit key seq ika sol =>
    [programId.toBytes, deposit.toBytes, fitKey 32 key, leBytes 8 seq.toNat,
      leBytes 8 ika.toNat, leBytes 8 sol.toNat]
  | encryptionKeyRegistration chain network curve key =>
    [leBytes 4 chain.toNat, leBytes 1 network.toNat, leBytes 2 curve.toNat,
      uleb128 key.length ++ key]
  | depositProof chain network sender =>
    [leBytes 4 chain.toNat, leBytes 1 network.toNat, leBytes 1 sender.length, sender]

/-- The arguments a builder accepts. -/
def SignedMessage.Accepted : SignedMessage → Prop
  | reconfigurationRecord key epoch digest =>
    key.length = 32 ∧ digest.length = 32 ∧ 0 ≤ epoch ∧ epoch.toNat < 256 ^ 8
  | dkgRecord key digest => key.length = 32 ∧ digest.length = 32
  | gasRelease _ _ key _ _ _ => key.length ≤ 56
  | _ => True

theorem SignedMessage.build_ok {a : SignedMessage} {message : Bytes}
    (h : a.build = .ok message) :
    a.Accepted ∧ message = a.format.tag ++ a.parts.flatten := by
  cases a with
  | attestation kind data =>
    cases h
    exact ⟨trivial, by simp [format, parts, Format.tag, attestationSigningMessage]⟩
  | reconfigurationRecord key epoch digest =>
    rw [build] at h
    obtain ⟨_, hkey, h⟩ := bind_ok h
    obtain ⟨_, hdigest, h⟩ := bind_ok h
    obtain ⟨epochBytes, hepoch, h⟩ := bind_ok h
    obtain ⟨hrange, rfl⟩ := u64LittleEndian_ok hepoch
    cases h
    exact ⟨⟨requireLength_ok hkey, requireLength_ok hdigest, hrange⟩,
      by simp [format, parts, Format.tag]⟩
  | dkgRecord key digest =>
    rw [build] at h
    obtain ⟨_, hkey, h⟩ := bind_ok h
    obtain ⟨_, hdigest, h⟩ := bind_ok h
    cases h
    exact ⟨⟨requireLength_ok hkey, requireLength_ok hdigest⟩,
      by simp [format, parts, Format.tag]⟩
  | committee bytes =>
    cases h
    exact ⟨trivial, by simp [format, parts, Format.tag, committeeSigningMessage]⟩
  | request data =>
    cases h
    exact ⟨trivial, by simp [format, parts, Format.tag, requestSigningMessage]⟩
  | gasRelease programId deposit key seq ika sol =>
    rw [build, gasReleaseMessage_eq] at h
    obtain ⟨hlen, h⟩ := ite_error_ok h
    cases h
    exact ⟨not_lt.mp hlen, by simp [format, parts, Format.tag]⟩
  | encryptionKeyRegistration chain network curve key =>
    cases h
    exact ⟨trivial, by simp [format, parts, Format.tag, encryptionKeyRegistrationMessage]⟩
  | depositProof chain network sender =>
    cases h
    exact ⟨trivial, by simp [format, parts, Format.tag, depositProofMessage]⟩

theorem SignedMessage.parts_fit {a : SignedMessage} (h : a.Accepted) :
    FitAll a.format.layout a.parts := by
  cases a <;> simp_all [Accepted, format, Format.layout, parts, Width.Fits, PublicKey.length_eq]

/-! ## Injectivity -/

/-- Two gas releases that differ in the request key alone, where both keys leave
the same 32 bytes in the key's place. -/
def SameReleaseBytes : SignedMessage → SignedMessage → Prop
  | .gasRelease programId deposit key seq ika sol,
    .gasRelease programId' deposit' key' seq' ika' sol' =>
    (programId = programId' ∧ deposit = deposit' ∧ seq = seq' ∧ ika = ika' ∧ sol = sol') ∧
      key ≠ key' ∧ key.length ≤ 56 ∧ key'.length ≤ 56 ∧ fitKey 32 key = fitKey 32 key'
  | _, _ => False

theorem leBytes_four_inj {x y : UInt32} (h : leBytes 4 x.toNat = leBytes 4 y.toNat) : x = y :=
  UInt32.toNat_inj.mp (leBytes_inj x.toNat_lt y.toNat_lt h)

theorem leBytes_one_inj {x y : UInt8} (h : leBytes 1 x.toNat = leBytes 1 y.toNat) : x = y :=
  UInt8.toNat_inj.mp (leBytes_inj x.toNat_lt y.toNat_lt h)

theorem leBytes_two_inj {x y : UInt16} (h : leBytes 2 x.toNat = leBytes 2 y.toNat) : x = y :=
  UInt16.toNat_inj.mp (leBytes_inj x.toNat_lt y.toNat_lt h)

theorem leBytes_eight_inj {x y : UInt64} (h : leBytes 8 x.toNat = leBytes 8 y.toNat) : x = y :=
  UInt64.toNat_inj.mp (leBytes_inj x.toNat_lt y.toNat_lt h)

theorem SignedMessage.eq_of_parts {a b : SignedMessage} (ha : a.Accepted) (hb : b.Accepted)
    (hformat : a.format = b.format) (hparts : a.parts = b.parts) :
    a = b ∨ SameReleaseBytes a b := by
  cases a <;> cases b <;> cases hformat
  case reconfigurationRecord key epoch digest key' epoch' digest' =>
    simp only [parts, List.cons.injEq, and_true] at hparts
    obtain ⟨rfl, hepoch, rfl⟩ := hparts
    have hnat := leBytes_inj ha.2.2.2 hb.2.2.2 hepoch
    have hnonneg := ha.2.2.1
    have hnonneg' := hb.2.2.1
    left
    congr 1
    omega
  case gasRelease programId deposit key seq ika sol programId' deposit' key' seq' ika' sol' =>
    simp only [parts, List.cons.injEq, and_true] at hparts
    obtain ⟨hprogram, hdeposit, hkey, hseq, hika, hsol⟩ := hparts
    obtain rfl : programId = programId' := by
      cases programId; cases programId'; congr
    obtain rfl : deposit = deposit' := by
      cases deposit; cases deposit'; congr
    obtain rfl := leBytes_eight_inj hseq
    obtain rfl := leBytes_eight_inj hika
    obtain rfl := leBytes_eight_inj hsol
    by_cases hne : key = key'
    · exact .inl (by rw [hne])
    · exact .inr ⟨⟨rfl, rfl, rfl, rfl, rfl⟩, hne, ha, hb, hkey⟩
  case encryptionKeyRegistration chain network curve key chain' network' curve' key' =>
    simp only [parts, List.cons.injEq, and_true] at hparts
    obtain ⟨hchain, hnetwork, hcurve, hkey⟩ := hparts
    obtain rfl := leBytes_four_inj hchain
    obtain rfl := leBytes_one_inj hnetwork
    obtain rfl := leBytes_two_inj hcurve
    obtain ⟨-, rfl⟩ := uleb128_append_inj hkey
    exact .inl rfl
  case depositProof chain network sender chain' network' sender' =>
    simp only [parts, List.cons.injEq, and_true] at hparts
    obtain ⟨hchain, hnetwork, -, rfl⟩ := hparts
    obtain rfl := leBytes_four_inj hchain
    obtain rfl := leBytes_one_inj hnetwork
    exact .inl rfl
  all_goals
    simp_all [parts]

theorem SignedMessage.eq_of_build {a b : SignedMessage} {message : Bytes}
    (ha : a.build = .ok message) (hb : b.build = .ok message) :
    a = b ∨ SameReleaseBytes a b := by
  obtain ⟨hacc, rfl⟩ := build_ok ha
  obtain ⟨hacc', hmessage⟩ := build_ok hb
  obtain ⟨hformat, hbody⟩ :=
    formats_prefixFree.append_inj (mem_formats _) (mem_formats _) hmessage
  have hparts : a.parts = b.parts :=
    (parts_fit hacc).flatten_inj a.format.one_variable (hformat ▸ parts_fit hacc') hbody
  exact eq_of_parts hacc hacc' hformat hparts

theorem SameReleaseBytes.build {a b : SignedMessage} (h : SameReleaseBytes a b) :
    a ≠ b ∧ ∃ message, a.build = .ok message ∧ b.build = .ok message := by
  cases a <;> cases b <;> try exact h.elim
  case gasRelease.gasRelease programId deposit key seq ika sol _ _ key' _ _ _ =>
    obtain ⟨⟨rfl, rfl, rfl, rfl, rfl⟩, hne, hlen, hlen', hfit⟩ := h
    refine ⟨fun heq => hne (by injection heq), ?_⟩
    simp only [SignedMessage.build, gasReleaseMessage_eq, if_neg (not_lt.mpr hlen),
      if_neg (not_lt.mpr hlen'), hfit]
    exact ⟨_, rfl, rfl⟩

/-- Two calls of the builders make one message only if they are one call, except
for gas releases whose request keys are cut or padded to the same 32 bytes. -/
theorem build_injective_iff (a b : SignedMessage) :
    (∀ message, a.build = .ok message → b.build = .ok message → a = b) ↔
      ¬SameReleaseBytes a b := by
  constructor
  · intro hinj hsame
    obtain ⟨hne, message, ha, hb⟩ := hsame.build
    exact hne (hinj message ha hb)
  · intro hsame message ha hb
    exact (SignedMessage.eq_of_build ha hb).resolve_right hsame

/-- A request key of no bytes and one of a single zero byte give one release. -/
theorem build_not_injective :
    ¬∀ a b : SignedMessage, ∀ message,
      a.build = .ok message → b.build = .ok message → a = b := by
  intro hinj
  let zeros : PublicKey := ⟨List.replicate 32 0, rfl⟩
  have hsame : SameReleaseBytes (.gasRelease zeros zeros [] 1 2 3)
      (.gasRelease zeros zeros [0] 1 2 3) :=
    ⟨⟨rfl, rfl, rfl, rfl, rfl⟩, by decide, by decide, by decide, by decide⟩
  obtain ⟨hne, message, ha, hb⟩ := hsame.build
  exact hne (hinj _ _ message ha hb)

end Ika.Solana
