import IkaSdk.Core.Grpc.ShareRecords
import IkaSdk.Solana.AttestationAccounts

/-! The bytes of an attestation are canonical: for each kind one byte string is
accepted for a value, and the value gives back that byte string and the message
the network signed over it. -/

namespace Ika.Solana

open Wire

variable {P : Primitives} {kind : AttestationKind} {bytes : Bytes} {a : kind.Attestation}

/-- A format whose reader decides where a value ends extends none of its own values. -/
theorem serialize_extends_none {α : Type} {c : Codec α} {a b : α} {bytes extra : Bytes}
    (ha : c.serialize a = .ok bytes) (hb : c.serialize b = .ok (bytes ++ extra)) :
    extra = [] := by
  obtain ⟨hva, rfl⟩ := Codec.serialize_ok ha
  obtain ⟨hvb, hencode⟩ := Codec.serialize_ok hb
  have happend : c.encode a ++ extra = c.encode b ++ [] := by rw [hencode, List.append_nil]
  exact (c.encode_append_inj hva hvb happend).2

theorem rebuildAttestation_serialize (h : kind.bcs.serialize a = .ok bytes) :
    rebuildAttestation kind 0 a = .ok bytes := by
  have hknown : requireKnownVersion 0 = .ok () := ensure_iff.mpr (List.mem_singleton.mpr rfl)
  unfold rebuildAttestation
  rw [hknown, ok_bind, h]
  rfl

/-- Exactly the serialization of a proof of a known version decodes, to that proof. -/
theorem decodeAttestationProof_iff {envelope : Bytes} {proof : AttestationProofV1} :
    decodeAttestationProof P envelope = .ok proof ↔
      versionedAttestationProofBcs.serialize proof = .ok envelope ∧
        proof.attestationVersion = 0 := by
  constructor
  · intro h
    have hversion := decodeAttestationProof_version h
    unfold decodeAttestationProof at h
    split at h
    · cases h
    next decoded _ =>
    obtain ⟨reserialized, hwritten, h₁⟩ := bind_ok h
    obtain ⟨_, hsame, h₂⟩ := bind_ok h₁
    obtain ⟨_, -, h₃⟩ := bind_ok h₂
    obtain rfl : decoded = proof := Except.ok.inj h₃
    have hsame : reserialized = envelope := ensure_ok hsame
    rw [← hsame]
    exact ⟨fromPackage_ok hwritten, hversion⟩
  · rintro ⟨hserialize, hversion⟩
    exact decodeAttestationProof_serialize hserialize hversion

/-- Decoding accepts exactly the serialized values of a kind, and what is decoded
gives back its bytes and the message the network signs over them. -/
theorem attestations_canonical (P : Primitives) (hempty : RefusesEmpty P) :
    (∀ (kind : AttestationKind) (bytes : Bytes) (a : kind.Attestation),
      decodeExactly P kind bytes = .ok a ↔ kind.bcs.serialize a = .ok bytes) ∧
    (∀ (kind : AttestationKind) (bytes : Bytes) (a : kind.Attestation),
      decodeExactly P kind bytes = .ok a →
        rebuildAttestation kind 0 a = .ok bytes ∧
        (rebuildAttestation kind 0 a).map (attestationSigningMessage kind) =
          .ok (attestationSigningMessage kind bytes) ∧
        bytes.head? = some 0 ∧
        (∀ bytes', decodeExactly P kind bytes' = .ok a → bytes' = bytes) ∧
        ∀ extra a', decodeExactly P kind (bytes ++ extra) = .ok a' → extra = []) ∧
    ∀ envelope proof, decodeAttestationProof P envelope = .ok proof ↔
      versionedAttestationProofBcs.serialize proof = .ok envelope ∧
        proof.attestationVersion = 0 := by
  refine ⟨fun _ _ _ => decodeExactly_iff hempty, ?_, fun _ _ => decodeAttestationProof_iff⟩
  intro kind bytes a h
  have hbytes := (decodeExactly_iff hempty).mp h
  have hrebuilt := rebuildAttestation_serialize hbytes
  refine ⟨hrebuilt, by rw [hrebuilt]; rfl, serialize_first hbytes, ?_, ?_⟩
  · intro bytes' h'
    have hbytes' := (decodeExactly_iff hempty).mp h'
    exact Except.ok.inj (hbytes'.symm.trans hbytes)
  · intro extra a' h'
    exact serialize_extends_none hbytes ((decodeExactly_iff hempty).mp h')

theorem attestations_canonical_sample :
    decodeExactly samplePrimitives .dwallet
      (versionedDWalletDataAttestationBcs.encode sampleAttestation) = .ok sampleAttestation := by
  have hvalid : versionedDWalletDataAttestationBcs.valid sampleAttestation := by decide +kernel
  have hwritten : AttestationKind.dwallet.bcs.serialize sampleAttestation =
      .ok (versionedDWalletDataAttestationBcs.encode sampleAttestation) := if_pos hvalid
  exact ((attestations_canonical samplePrimitives refusesEmpty_sample).1 .dwallet _ _).mpr hwritten

end Ika.Solana
