import IkaSdk.Core.Grpc.UsableSoundness
import Mathlib.Data.Set.Function

/-! The checks of a share's record accept exactly the right records: the network's
canonical bytes about this dWallet and this holder, and no other. -/

namespace Ika

open Wire

/-- The package's reader throws past the end of the bytes, so it reads no
attestation from none. -/
def RefusesEmpty (P : Primitives) : Prop :=
  ∀ (kind : AttestationKind) (a : kind.Attestation), P.parse kind.bcs [] ≠ .ok a

theorem refusesEmpty_sample : RefusesEmpty samplePrimitives := by
  intro kind a h
  cases kind <;> cases h

variable {P : Primitives} {trusted : TrustedNetworkKeys} {record : AttestationRecord}
  {dwallet : VerifiedDWalletAttestation}

/-! ## Canonical bytes -/

/-- Every kind's bytes start with the index of its version, and version 1 is the first. -/
theorem serialize_first {kind : AttestationKind} {a : kind.Attestation} {bytes : Bytes}
    (h : kind.bcs.serialize a = .ok bytes) : bytes.head? = some 0 := by
  obtain ⟨-, rfl⟩ := Codec.serialize_ok h
  cases kind <;> exact congrArg List.head? (versioned_encode _ a)

/-- The serialization of a value decodes to that value. -/
theorem decodeExactly_serialize {kind : AttestationKind} {bytes : Bytes} {a : kind.Attestation}
    (h : kind.bcs.serialize a = .ok bytes) : decodeExactly P kind bytes = .ok a := by
  unfold decodeExactly
  rw [P.parse_serialize h]
  simp [h]

/-- No other bytes decode. -/
theorem decodeExactly_iff (hempty : RefusesEmpty P) {kind : AttestationKind} {bytes : Bytes}
    {a : kind.Attestation} :
    decodeExactly P kind bytes = .ok a ↔ kind.bcs.serialize a = .ok bytes := by
  refine ⟨fun h => ?_, decodeExactly_serialize⟩
  have hparse := decodeExactly_ok h
  unfold decodeExactly at h
  rw [hparse] at h
  obtain ⟨hsame, -⟩ := ite_error_ok h
  have hsame := not_not.mp hsame
  cases hwritten : kind.bcs.serialize a with
  | ok written =>
    rw [hwritten] at hsame
    rw [← hsame]
  | error reason =>
    -- The check compares with no bytes at all where the value cannot be written.
    rw [hwritten] at hsame
    rw [← hsame] at hparse
    exact absurd hparse (hempty kind a)

/-- A record of the known version with the canonical bytes of an attestation,
which a trusted signer signed as its kind. -/
structure CanonicallySigned (P : Primitives) (trusted : TrustedNetworkKeys)
    (kind : AttestationKind) (record : AttestationRecord) (a : kind.Attestation) : Prop where
  version : record.attestationVersion = 0
  trusted : record.signerNoaPublicKey ∈ trusted.publicKeys
  verifies : P.ed25519Verify record.networkSignature
    (attestationSigningMessage kind record.attestationData) record.signerNoaPublicKey = .ok true
  canonical : kind.bcs.serialize a = .ok record.attestationData

theorem verifyAndDecode_of {kind : AttestationKind} {curve : Option ℕ}
    (hcurve : kind = .publicShare → (curve.bind (publicShareLengths[·]?)).isSome)
    {a : kind.Attestation} (hsigned : CanonicallySigned P trusted kind record a)
    (hlength : checkShareLength kind a curve = .ok ()) :
    verifyAndDecode P record trusted kind curve = .ok a := by
  have hversion : record.attestationVersion ∈ knownAttestationVersions := by
    simp [knownAttestationVersions, hsigned.version]
  unfold verifyAndDecode requireKnownVersion
  rw [ensure_bind_iff, ensure_bind_iff, ensure_bind_iff, ensure_bind_iff, bind_ok_iff,
    signatureVerifies_iff]
  refine ⟨hcurve, hversion, hsigned.trusted, hsigned.verifies, a,
    decodeExactly_serialize hsigned.canonical, ?_⟩
  rw [hlength, ok_bind]
  rfl

theorem verifyAndDecode_iff (hempty : RefusesEmpty P) {kind : AttestationKind}
    {curve : Option ℕ} (hcurve : kind = .publicShare →
      (curve.bind (publicShareLengths[·]?)).isSome) {a : kind.Attestation} :
    verifyAndDecode P record trusted kind curve = .ok a ↔
      CanonicallySigned P trusted kind record a ∧ checkShareLength kind a curve = .ok () := by
  refine ⟨fun h => ?_, fun h => verifyAndDecode_of hcurve h.1 h.2⟩
  unfold verifyAndDecode requireKnownVersion at h
  rw [ensure_bind_iff, ensure_bind_iff, ensure_bind_iff, ensure_bind_iff, bind_ok_iff,
    signatureVerifies_iff] at h
  obtain ⟨-, hversion, htrusted, hverifies, decoded, hdecoded, h⟩ := h
  obtain ⟨_, hlength, h⟩ := bind_ok h
  obtain rfl : decoded = a := Except.ok.inj h
  have hversion : record.attestationVersion = 0 := by
    simpa [knownAttestationVersions] using hversion
  exact ⟨⟨hversion, htrusted, hverifies, (decodeExactly_iff hempty).mp hdecoded⟩, hlength⟩

theorem requireField_bind_iff {field what : String} {p : Prop} [Decidable p] {α : Type}
    {f : Unit → Except SdkError α} {a : α} :
    requireField field p what >>= f = .ok a ↔ p ∧ f () = .ok a := ensure_bind_iff

theorem requireSameSenderAndKey_bind_iff {sender key : Bytes} {α : Type}
    {f : Unit → Except SdkError α} {a : α} :
    requireSameSenderAndKey sender key dwallet >>= f = .ok a ↔
      (sender = dwallet.attestation.intendedChainSender ∧
        key = dwallet.attestation.publicKey) ∧ f () = .ok a := by
  unfold requireSameSenderAndKey requireField
  rw [bind_ok_iff]
  constructor
  · rintro ⟨_, hsame, h⟩
    obtain ⟨hsender, hkey⟩ := ensure_bind_iff.mp hsame
    exact ⟨⟨hsender, ensure_iff.mp hkey⟩, h⟩
  · rintro ⟨⟨hsender, hkey⟩, h⟩
    exact ⟨(), ensure_bind_iff.mpr ⟨hsender, ensure_iff.mpr hkey⟩, h⟩

theorem requireSameDWallet_bind_iff {sender key digest : Bytes} {α : Type}
    {f : Unit → Except SdkError α} {a : α} :
    requireSameDWallet P sender key digest dwallet >>= f = .ok a ↔
      BindsDWallet P sender key digest dwallet ∧ f () = .ok a := by
  unfold requireSameDWallet requireDWalletAttestationDigest requireField
  rw [bind_ok_iff]
  constructor
  · rintro ⟨_, hsame, h⟩
    obtain ⟨⟨hsender, hkey⟩, hdigest⟩ := requireSameSenderAndKey_bind_iff.mp hsame
    exact ⟨⟨hsender, hkey, ensure_iff.mp hdigest⟩, h⟩
  · rintro ⟨hbinds, h⟩
    refine ⟨(), requireSameSenderAndKey_bind_iff.mpr ⟨⟨hbinds.sender, hbinds.publicKey⟩, ?_⟩, h⟩
    exact ensure_iff.mpr hbinds.digest

theorem requireSameRequest_bind_iff {session sender key : Bytes} {α : Type}
    {f : Unit → Except SdkError α} {a : α} :
    requireSameRequest session sender key dwallet >>= f = .ok a ↔
      session = dwallet.attestation.sessionIdentifier ∧
      (sender = dwallet.attestation.intendedChainSender ∧
        key = dwallet.attestation.publicKey) ∧ f () = .ok a := by
  unfold requireSameRequest requireField
  rw [bind_ok_iff]
  constructor
  · rintro ⟨u, hsame, h⟩
    obtain ⟨hsession, hsame⟩ := ensure_bind_iff.mp hsame
    have hsame : requireSameSenderAndKey sender key dwallet = .ok () := hsame
    obtain ⟨hsender, hkey⟩ := requireSameSenderAndKey_ok hsame
    exact ⟨hsession, ⟨hsender, hkey⟩, h⟩
  · rintro ⟨hsession, hsame, h⟩
    refine ⟨(), ensure_bind_iff.mpr ⟨hsession, ?_⟩, h⟩
    have hreturns : requireSameSenderAndKey sender key dwallet >>= pure = .ok () :=
      requireSameSenderAndKey_bind_iff.mpr ⟨hsame, rfl⟩
    rwa [bind_pure] at hreturns

/-! ## Encrypted shares -/

/-- The right record of an encrypted share: the network's own bytes, about this
dWallet and this holder, and a first share's also what the dWallet's say of it. -/
structure RightEncryptedShare (P : Primitives) (trusted : TrustedNetworkKeys)
    (record : AttestationRecord) (dwallet : VerifiedDWalletAttestation) (holder : Bytes)
    (scheme : ℕ) (share : EncryptedShareAttestation) : Prop where
  signed : CanonicallySigned P trusted .encryptedShare record share
  binds : BindsDWallet P share.intendedChainSender share.dwalletPublicKey
    share.dwalletAttestationDigest dwallet
  scheme : share.holder.signatureScheme.number = scheme
  holder : share.holder.signerPublicKey = holder
  first : share.sessionIdentifier = dwallet.attestation.sessionIdentifier →
    dwallet.attestation.encryptedShareHash = some share.encryptedShareHash ∧
      dwallet.attestation.encryptionKeyHash = some share.encryptionKeyHash ∧
      dwallet.attestation.holder = some share.holder

theorem askedHolder_scheme_iff {share : EncryptedShareAttestation} {holder : Bytes}
    {scheme : ℕ} : askedHolder share holder scheme ↔
      share.holder.signatureScheme.number = scheme ∧ share.holder.signerPublicKey = holder := by
  simp [askedHolder]

theorem RightEncryptedShare.accepted {holder : Bytes} {scheme : ℕ}
    {share : EncryptedShareAttestation}
    (hright : RightEncryptedShare P trusted record dwallet holder scheme share) :
    verifyEncryptedShareAttestationRecord P record trusted dwallet holder scheme =
      .ok share := by
  have hdecode : verifyAndDecode P record trusted .encryptedShare none = .ok share :=
    verifyAndDecode_of (fun h => by cases h) hright.signed rfl
  have hasked := askedHolder_scheme_iff.mpr ⟨hright.scheme, hright.holder⟩
  have hbinds := hright.binds
  unfold verifyEncryptedShareAttestationRecord
  rw [hdecode, ok_bind]
  dsimp only
  split_ifs with hfirst
  · have hsame := beq_iff_eq.mp hfirst
    obtain ⟨hshareHash, hkeyHash, hnamed⟩ := hright.first hsame
    rw [requireSameRequest_bind_iff, requireField_bind_iff, requireField_bind_iff,
      requireField_bind_iff]
    refine ⟨hsame, ⟨hbinds.sender, hbinds.publicKey⟩, hshareHash, hkeyHash, ⟨hnamed, hasked⟩, ?_⟩
    exact ensure_bind_iff.mpr ⟨hbinds.digest, rfl⟩
  · rw [requireSameDWallet_bind_iff, requireField_bind_iff]
    exact ⟨hbinds, hasked, rfl⟩

theorem verifyEncryptedShareAttestationRecord_iff (hempty : RefusesEmpty P) {holder : Bytes}
    {scheme : ℕ} {share : EncryptedShareAttestation} :
    verifyEncryptedShareAttestationRecord P record trusted dwallet holder scheme = .ok share ↔
      RightEncryptedShare P trusted record dwallet holder scheme share := by
  refine ⟨fun h => ?_, RightEncryptedShare.accepted⟩
  obtain ⟨a, ha, h⟩ := bind_ok h
  have hsigned := ((verifyAndDecode_iff hempty (fun h => by cases h)).mp ha).1
  dsimp only at h
  split_ifs at h with hfirst
  · have hfirst := beq_iff_eq.mp hfirst
    rw [requireSameRequest_bind_iff, requireField_bind_iff, requireField_bind_iff,
      requireField_bind_iff] at h
    obtain ⟨-, ⟨hsender, hkey⟩, hshareHash, hkeyHash, ⟨hnamed, hasked⟩, h⟩ := h
    obtain ⟨_, hdigest, h⟩ := bind_ok h
    obtain rfl : a = share := Except.ok.inj h
    obtain ⟨hscheme, hholder⟩ := askedHolder_scheme_iff.mp hasked
    exact ⟨hsigned, ⟨hsender, hkey, ensure_ok hdigest⟩, hscheme, hholder,
      fun _ => ⟨hshareHash, hkeyHash, hnamed⟩⟩
  · rw [requireSameDWallet_bind_iff, requireField_bind_iff] at h
    obtain ⟨hbinds, hasked, h⟩ := h
    obtain rfl : a = share := Except.ok.inj h
    obtain ⟨hscheme, hholder⟩ := askedHolder_scheme_iff.mp hasked
    exact ⟨hsigned, hbinds, hscheme, hholder, fun hsame => absurd (beq_iff_eq.mpr hsame) hfirst⟩

/-! ## Public shares -/

/-- The right record of a public share, and a first share's dWallet names no holder. -/
structure RightPublicShare (P : Primitives) (trusted : TrustedNetworkKeys)
    (record : AttestationRecord) (dwallet : VerifiedDWalletAttestation)
    (share : PublicShareAttestation) : Prop where
  signed : CanonicallySigned P trusted .publicShare record share
  binds : BindsDWallet P share.intendedChainSender share.dwalletPublicKey
    share.dwalletAttestationDigest dwallet
  length : publicShareLengths[dwallet.attestation.curve.number]? =
    some share.publicUserSecretKeyShare.length
  first : share.sessionIdentifier = dwallet.attestation.sessionIdentifier →
    dwallet.attestation.holder = none

theorem publicShareLengths_isSome (curve : DWalletCurve) :
    (publicShareLengths[curve.number]?).isSome := by
  cases curve <;> decide

theorem verifyPublicShareAttestationRecord_iff (hempty : RefusesEmpty P)
    {share : PublicShareAttestation} :
    verifyPublicShareAttestationRecord P record trusted dwallet = .ok share ↔
      RightPublicShare P trusted record dwallet share := by
  unfold verifyPublicShareAttestationRecord
  rw [bind_ok_iff]
  have hdecode : ∀ a, verifyAndDecode P record trusted .publicShare
      (some dwallet.attestation.curve.number) = .ok a ↔
      CanonicallySigned P trusted .publicShare record a ∧
        publicShareLengths[dwallet.attestation.curve.number]? =
          some a.publicUserSecretKeyShare.length := by
    intro a
    have hcurve : ((some dwallet.attestation.curve.number : Option ℕ).bind
        (publicShareLengths[·]?)).isSome := publicShareLengths_isSome dwallet.attestation.curve
    rw [verifyAndDecode_iff hempty fun _ => hcurve]
    exact and_congr_right fun _ => ensure_iff
  constructor
  · rintro ⟨a, ha, h⟩
    obtain ⟨hsigned, hlength⟩ := (hdecode a).mp ha
    split_ifs at h with hfirst
    · rw [requireSameRequest_bind_iff, requireField_bind_iff] at h
      obtain ⟨-, ⟨hsender, hkey⟩, hnoHolder, h⟩ := h
      obtain ⟨_, hdigest, h⟩ := bind_ok h
      obtain rfl : a = share := Except.ok.inj h
      exact ⟨hsigned, ⟨hsender, hkey, ensure_ok hdigest⟩, hlength, fun _ => hnoHolder⟩
    · rw [requireSameDWallet_bind_iff] at h
      obtain ⟨hbinds, h⟩ := h
      obtain rfl : a = share := Except.ok.inj h
      exact ⟨hsigned, hbinds, hlength, fun hsame => absurd (beq_iff_eq.mpr hsame) hfirst⟩
  · intro hright
    refine ⟨share, (hdecode share).mpr ⟨hright.signed, hright.length⟩, ?_⟩
    have hbinds := hright.binds
    split_ifs with hfirst
    · have hsame := beq_iff_eq.mp hfirst
      rw [requireSameRequest_bind_iff, requireField_bind_iff]
      refine ⟨hsame, ⟨hbinds.sender, hbinds.publicKey⟩, hright.first hsame, ?_⟩
      exact ensure_bind_iff.mpr ⟨hbinds.digest, rfl⟩
    · rw [requireSameDWallet_bind_iff]
      exact ⟨hbinds, rfl⟩

/-! ## One dWallet -/

/-- A digest binds a share to one dWallet, as far as the hash tells two of them apart. -/
theorem BindsDWallet.same {dwallet' : VerifiedDWalletAttestation} {attestations : Set Bytes}
    {sender key digest sender' key' : Bytes} (h : BindsDWallet P sender key digest dwallet)
    (h' : BindsDWallet P sender' key' digest dwallet')
    (hdistinct : Set.InjOn P.keccak256 attestations)
    (hmem : dwallet.attestationData ∈ attestations)
    (hmem' : dwallet'.attestationData ∈ attestations) :
    dwallet.attestationData = dwallet'.attestationData := by
  have hdigest := h.digest.symm.trans h'.digest
  exact hdistinct hmem hmem' hdigest

/-- The checks return exactly the attestations of right records, and no record
passes for two dWallets among those whose attestations the hash tells apart. -/
theorem share_records_accepted_iff (P : Primitives) (hempty : RefusesEmpty P) :
    (∀ record trusted dwallet holder scheme share,
      verifyEncryptedShareAttestationRecord P record trusted dwallet holder scheme = .ok share ↔
        RightEncryptedShare P trusted record dwallet holder scheme share) ∧
    (∀ record trusted dwallet share,
      verifyPublicShareAttestationRecord P record trusted dwallet = .ok share ↔
        RightPublicShare P trusted record dwallet share) ∧
    ∀ (attestations : Set Bytes), Set.InjOn P.keccak256 attestations →
      ∀ record trusted trusted' (dwallet dwallet' : VerifiedDWalletAttestation),
        dwallet.attestationData ∈ attestations → dwallet'.attestationData ∈ attestations →
        ((∃ holder scheme holder' scheme' share share',
          verifyEncryptedShareAttestationRecord P record trusted dwallet holder scheme =
            .ok share ∧
          verifyEncryptedShareAttestationRecord P record trusted' dwallet' holder' scheme' =
            .ok share') ∨
        ∃ share share',
          verifyPublicShareAttestationRecord P record trusted dwallet = .ok share ∧
          verifyPublicShareAttestationRecord P record trusted' dwallet' = .ok share') →
        dwallet.attestationData = dwallet'.attestationData := by
  refine ⟨fun _ _ _ _ _ _ => verifyEncryptedShareAttestationRecord_iff hempty,
    fun _ _ _ _ => verifyPublicShareAttestationRecord_iff hempty, ?_⟩
  intro attestations hdistinct record trusted trusted' dwallet dwallet' hmem hmem' haccepted
  rcases haccepted with ⟨_, _, _, _, share, share', h, h'⟩ | ⟨share, share', h, h'⟩
  · have hright := (verifyEncryptedShareAttestationRecord_iff hempty).mp h
    have hright' := (verifyEncryptedShareAttestationRecord_iff hempty).mp h'
    -- Both checks decoded the same bytes, so both read the same digest.
    obtain rfl := Codec.serialize_inj hright.signed.canonical hright'.signed.canonical
    exact hright.binds.same hright'.binds hdistinct hmem hmem'
  · have hright := (verifyPublicShareAttestationRecord_iff hempty).mp h
    have hright' := (verifyPublicShareAttestationRecord_iff hempty).mp h'
    obtain rfl := Codec.serialize_inj hright.signed.canonical hright'.signed.canonical
    exact hright.binds.same hright'.binds hdistinct hmem hmem'

def sampleVerified : VerifiedDWalletAttestation where
  attestationData := versionedDWalletDataAttestationBcs.encode sampleAttestation
  attestation := sampleAttestation
  networkSignature := List.replicate 64 8
  signerNoaPublicKey := List.replicate 32 7

theorem share_records_accepted_sample :
    RightEncryptedShare samplePrimitives sampleReader.trustedNetworkKeys
      (sampleRecord (versionedEncryptedUserKeyShareAttestationBcs.encode sampleShareAttestation))
      sampleVerified (List.replicate 32 4) 0 sampleShareAttestation := by
  have haccepted : verifyEncryptedShareAttestationRecord samplePrimitives
      (sampleRecord (versionedEncryptedUserKeyShareAttestationBcs.encode sampleShareAttestation))
      sampleReader.trustedNetworkKeys sampleVerified (List.replicate 32 4) =
        .ok sampleShareAttestation := by
    decide +kernel
  exact ((share_records_accepted_iff samplePrimitives refusesEmpty_sample).1 _ _ _ _ _ _).mp
    haccepted

end Ika
