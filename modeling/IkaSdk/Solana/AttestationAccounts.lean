import IkaSdk.Solana.AttestationLayouts

/-! Attestation accounts against the bytes that the network signed: what is laid
out is read back, and what is read was laid out. -/

namespace Ika.Solana

open Wire

/-- The package's reader takes from the front of the bytes the value that the
format has there, whatever follows it, and takes as many bytes as are written for
the value: it refuses a number that is written longer than it need be. -/
structure ReadsFormats (P : Primitives) : Prop where
  attestation : ∀ (kind : AttestationKind) {bytes a}, P.parse kind.bcs bytes = .ok a →
    ∃ rest, kind.bcs.decode bytes = some (a, rest) ∧
      bytes.length = (kind.bcs.encode a).length + rest.length
  proof : ∀ {bytes a}, P.parse versionedAttestationProofBcs bytes = .ok a →
    ∃ rest, versionedAttestationProofBcs.decode bytes = some (a, rest)

theorem readsFormats_sample : ReadsFormats samplePrimitives :=
  ⟨fun _ => samplePrimitives_takes, samplePrimitives_reads⟩

/-! ## An account and its fields -/

/-- The account of a V1 attestation: the header, the bump, the proof and the
fields. -/
def layOutAccount (version bump : UInt8) (envelope fields : Bytes) : Bytes :=
  104 :: version :: bump :: (envelope ++ fields)

def isRecordError (e : SdkError) : Prop := ∃ check reason field,
  e = .attestationRecord check reason field

/-- The bytes an account reads as are the stored fields in BCS, which are the
account's variable part to its last byte. -/
structure Restored (P : Primitives) (kind : AttestationKind)
    (layOut : kind.Attestation → Option Bytes) (data : Bytes) (account : AttestationAccount) :
    Prop where
  fields : account.attestationData = bcsBytes account.fields
  value : ∃ a, kind.bcs.serialize a = .ok account.attestationData ∧
    P.parse kind.bcs account.attestationData = .ok a ∧
    layOut a = some (data.drop attestationFieldsOffset)

/-- What holds of the reader of one kind of attestation account. -/
structure ReadsBack (P : Primitives) (kind : AttestationKind)
    (read : Bytes → Except SdkError (Option AttestationAccount))
    (layOut : kind.Attestation → Option Bytes) : Prop where
  laidOut : ∀ {a fields proof envelope} (version bump : UInt8), kind.bcs.valid a →
    layOut a = some fields → versionedAttestationProofBcs.serialize proof = .ok envelope →
    proof.attestationVersion = 0 →
    ∃ account, read (layOutAccount version bump envelope fields) = .ok (some account) ∧
      account.toAttestationRecord = ⟨kind.bcs.encode a, 0, proof.noaSignature,
        proof.signerNoaPublicKey⟩
  accepted : ∀ {data account}, read data = .ok (some account) →
    Restored P kind layOut data account
  refused : ∀ {data e}, read data = .error e → isRecordError e

section Readers

variable {P : Primitives} {kind : AttestationKind} {readers : List (String × FieldReader)}
  {data : Bytes} {account : AttestationAccount}

theorem attestationTable : accountEntry "DWalletAttestation" =
    .ok { discriminator := 104, version := 1, headerLen := some 101, isVariable := true } := by
  decide +kernel

/-- What an accepted account went through. -/
theorem readAttestationAccount_ok
    (h : readAttestationAccount P kind readers data = .ok (some account)) :
    ∃ proof fields a, decodeAttestationProof P (slice data attestationProofOffset
        attestationFieldsOffset) = .ok proof ∧
      readFields readers (data.drop attestationFieldsOffset) = some fields ∧
      account.fields = ⟨"version", [UInt8.ofNat proof.attestationVersion]⟩ :: fields ∧
      P.parse kind.bcs (bcsBytes account.fields) = .ok a ∧
      kind.bcs.serialize a = .ok account.attestationData := by
  obtain ⟨entry, -, h₁⟩ := bind_ok h
  split_ifs at h₁
  · cases h₁
  obtain ⟨proof, hproof, h₂⟩ := bind_ok h₁
  split at h₂
  · cases h₂
  next fields hfields =>
  obtain ⟨rebuilt, hrebuilt, h₃⟩ := bind_ok h₂
  split at h₃
  · cases h₃
  next attestationData =>
  cases h₃
  unfold rebuildFields at hrebuilt
  split at hrebuilt
  · next a hparse =>
    obtain ⟨bytes, hbytes, heq⟩ := map_ok hrebuilt
    cases heq
    obtain ⟨_, -, hserialize⟩ := bind_ok hbytes
    split at hserialize
    · next written hwritten =>
      cases hserialize
      exact ⟨proof, fields, a, hproof, hfields, rfl, hparse, hwritten⟩
    · cases hserialize
  · cases hrebuilt

theorem decodeAttestationProof_version {envelope : Bytes} {proof : AttestationProofV1}
    (h : decodeAttestationProof P envelope = .ok proof) : proof.attestationVersion = 0 := by
  unfold decodeAttestationProof at h
  split at h
  · cases h
  · obtain ⟨_, -, h₁⟩ := bind_ok h
    obtain ⟨_, -, h₂⟩ := bind_ok h₁
    obtain ⟨_, hknown, h₃⟩ := bind_ok h₂
    cases h₃
    simpa [knownAttestationVersions] using ensure_ok hknown

/-- The fields of an accepted account, after their version. -/
theorem accepted_fields (h : readAttestationAccount P kind readers data = .ok (some account)) :
    ∃ fields a, readFields readers (data.drop attestationFieldsOffset) = some fields ∧
      bcsBytes account.fields = 0 :: bcsBytes fields ∧
      P.parse kind.bcs (bcsBytes account.fields) = .ok a ∧
      kind.bcs.serialize a = .ok account.attestationData := by
  obtain ⟨proof, fields, a, hproof, hfields, hall, hparse, hserialize⟩ :=
    readAttestationAccount_ok h
  refine ⟨fields, a, hfields, ?_, hparse, hserialize⟩
  rw [hall, bcsBytes_cons, decodeAttestationProof_version hproof]
  rfl

variable {body : Codec kind.Attestation} {lay : kind.Attestation → Option Bytes}

theorem versioned_tight {α : Type} {c : Codec α} {bytes rest : Bytes} {a : α}
    (h : (0 :: bytes).length = ((versioned c).encode a).length + rest.length) :
    bytes.length = (c.encode a).length + rest.length := by
  rw [versioned_encode, List.length_cons, List.length_cons] at h
  omega

theorem accepted_restored (hreads : ReadsFormats P) (hr : Restores readers body lay)
    (hbcs : kind.bcs = versioned body)
    (h : readAttestationAccount P kind readers data = .ok (some account)) :
    Restored P kind lay data account := by
  obtain ⟨fields, a, hfields, hall, hparse, hserialize⟩ := accepted_fields h
  obtain ⟨rest, hdecode, htight⟩ := hreads.attestation kind hparse
  rw [hall, hbcs, versioned_decode] at hdecode
  rw [hall, hbcs] at htight
  obtain ⟨-, -, hencode, hlay⟩ := hr.lay_read hfields hdecode (versioned_tight htight)
  obtain ⟨-, hwritten⟩ := Codec.serialize_ok hserialize
  have hsame : account.attestationData = bcsBytes account.fields := by
    rw [hwritten, hbcs, versioned_encode, hencode, hall]
  refine ⟨hsame, a, hserialize, ?_, hlay⟩
  rw [hsame]
  exact hparse

/-! ## Laying an attestation out -/

theorem envelope_length {proof : AttestationProofV1} {envelope : Bytes}
    (h : versionedAttestationProofBcs.serialize proof = .ok envelope) : envelope.length = 98 := by
  obtain ⟨hvalid, rfl⟩ := Codec.serialize_ok h
  obtain ⟨-, hrest⟩ := Bool.and_eq_true_iff.mp hvalid
  obtain ⟨hsigner, hsignature⟩ := Bool.and_eq_true_iff.mp hrest
  have hsigner : proof.signerNoaPublicKey.length = 32 := by
    simpa [Codec.fixedBytes] using hsigner
  have hsignature : proof.noaSignature.length = 64 := by
    simpa [Codec.fixedBytes] using hsignature
  change (0 :: (leBytes 1 proof.attestationVersion ++
    (proof.signerNoaPublicKey ++ proof.noaSignature))).length = 98
  simp [hsigner, hsignature]

theorem decodeAttestationProof_serialize {proof : AttestationProofV1} {envelope : Bytes}
    (h : versionedAttestationProofBcs.serialize proof = .ok envelope)
    (hversion : proof.attestationVersion = 0) :
    decodeAttestationProof P envelope = .ok proof := by
  simp only [decodeAttestationProof, P.parse_serialize h, h, fromPackage, ok_bind]
  rw [ensure_of trivial, ok_bind, requireKnownVersion, hversion]
  rfl

theorem laidOut_read (hr : Restores readers body lay) (hbcs : kind.bcs = versioned body)
    {a : kind.Attestation} {fields envelope : Bytes} {proof : AttestationProofV1}
    (version bump : UInt8) (hvalid : kind.bcs.valid a) (hlay : lay a = some fields)
    (henvelope : versionedAttestationProofBcs.serialize proof = .ok envelope)
    (hversion : proof.attestationVersion = 0) :
    ∃ account, readAttestationAccount P kind readers
        (layOutAccount version bump envelope fields) = .ok (some account) ∧
      account.toAttestationRecord = ⟨kind.bcs.encode a, 0, proof.noaSignature,
        proof.signerNoaPublicKey⟩ := by
  have hlength := envelope_length henvelope
  have hstarts : startsAs (layOutAccount version bump envelope fields)
      { discriminator := 104, version := 1, headerLen := some 101, isVariable := true } 101 =
        true := by
    simp [startsAs, layOutAccount, accountHeader, byteAt, hlength]
  have hproof : slice (layOutAccount version bump envelope fields) attestationProofOffset
      attestationFieldsOffset = envelope := by
    simp [slice, layOutAccount, attestationProofOffset, attestationFieldsOffset, hlength]
  have hfields : (layOutAccount version bump envelope fields).drop attestationFieldsOffset =
      fields := by
    simp [layOutAccount, attestationFieldsOffset, hlength]
  obtain ⟨read, hread, hencode⟩ := hr.read_lay (by rw [hbcs] at hvalid; exact hvalid) hlay
  have hlaidOut : bcsBytes (⟨"version", [UInt8.ofNat proof.attestationVersion]⟩ :: read) =
      kind.bcs.encode a := by
    rw [bcsBytes_cons, hversion, hencode, hbcs, versioned_encode]
    rfl
  have hserialize : kind.bcs.serialize a = .ok (kind.bcs.encode a) := if_pos hvalid
  have hrebuilt : rebuildFields P kind proof.attestationVersion (kind.bcs.encode a) =
      .ok (some (kind.bcs.encode a)) := by
    simp only [rebuildFields, P.parse_encode kind.bcs a hvalid, rebuildAttestation,
      requireKnownVersion, hversion, hserialize]
    rfl
  refine ⟨⟨⟨kind.bcs.encode a, 0, proof.noaSignature, proof.signerNoaPublicKey⟩, envelope,
    ⟨"version", [UInt8.ofNat proof.attestationVersion]⟩ :: read, bump.toNat⟩, ?_, rfl⟩
  unfold readAttestationAccount
  rw [attestationTable]
  simp only [fromPackage, ok_bind, Option.getD_some, hstarts, Bool.not_true, hproof, hfields,
    decodeAttestationProof_serialize henvelope hversion, hread]
  rw [show List.flatMap _ _ = bcsBytes _ from rfl, hlaidOut, hrebuilt, hversion]
  rfl

/-! ## Accounts that are refused -/

theorem ensure_recordError {p : Prop} [Decidable p] {check : AttestationRecordCheck}
    {reason : String} {field : Option String} {e : SdkError}
    (h : ensure p (SdkError.attestationRecord check reason field) = .error e) :
    isRecordError e := by
  unfold ensure at h
  split_ifs at h
  cases h
  exact ⟨_, _, _, rfl⟩

theorem proof_decode_valid {bytes rest : Bytes} {proof : AttestationProofV1}
    (h : versionedAttestationProofBcs.decode bytes = some (proof, rest)) :
    versionedAttestationProofBcs.valid proof := by
  obtain ⟨⟨index, bytes'⟩, -, h₁⟩ := Option.bind_eq_some_iff.mp h
  cases index with
  | succ n => cases h₁
  | zero =>
    obtain ⟨⟨fields, rest'⟩, hfields, heq⟩ := Option.map_eq_some_iff.mp h₁
    cases heq
    obtain ⟨between, hversion, hothers⟩ := Codec.pair_decode_some hfields
    obtain ⟨between', hsigner, hsignature⟩ := Codec.pair_decode_some hothers
    have hversion := Codec.uint_decode_valid hversion
    have hsigner := Codec.fixedBytes_decode_valid hsigner
    have hsignature := Codec.fixedBytes_decode_valid hsignature
    exact Bool.and_eq_true_iff.mpr ⟨hversion, Bool.and_eq_true_iff.mpr ⟨hsigner, hsignature⟩⟩

theorem decodeAttestationProof_error (hreads : ReadsFormats P) {envelope : Bytes} {e : SdkError}
    (h : decodeAttestationProof P envelope = .error e) : isRecordError e := by
  unfold decodeAttestationProof at h
  split at h
  · cases h
    exact ⟨_, _, _, rfl⟩
  · next proof hparse =>
    obtain ⟨rest, hdecode⟩ := hreads.proof hparse
    have hserialize : versionedAttestationProofBcs.serialize proof =
        .ok (versionedAttestationProofBcs.encode proof) := if_pos (proof_decode_valid hdecode)
    rw [hserialize] at h
    rcases bind_error (x := ensure _ _) h with hdiffers | ⟨_, -, h₁⟩
    · exact ensure_recordError hdiffers
    rcases bind_error h₁ with hunknown | ⟨_, -, h₂⟩
    · exact ensure_recordError hunknown
    · cases h₂

theorem rebuildFields_error {version : ℕ} {laidOut : Bytes} {e : SdkError}
    (h : rebuildFields P kind version laidOut = .error e) : isRecordError e := by
  unfold rebuildFields at h
  split at h
  · next a hparse =>
    have herror : rebuildAttestation kind version a = .error e := by
      cases hrebuilt : rebuildAttestation kind version a with
      | error e' =>
        rw [hrebuilt] at h
        cases h
        rfl
      | ok bytes =>
        rw [hrebuilt] at h
        cases h
    rcases bind_error herror with hunknown | ⟨_, -, h₁⟩
    · exact ensure_recordError hunknown
    · split at h₁
      · cases h₁
      · cases h₁
        exact ⟨_, _, _, rfl⟩
  · cases h

theorem refused_recordError (hreads : ReadsFormats P) {e : SdkError}
    (h : readAttestationAccount P kind readers data = .error e) : isRecordError e := by
  rw [readAttestationAccount, attestationTable] at h
  rcases bind_error h with hentry | ⟨entry, -, h₁⟩
  · cases hentry
  split_ifs at h₁
  · cases h₁
  rcases bind_error h₁ with hproof | ⟨proof, -, h₂⟩
  · exact decodeAttestationProof_error hreads hproof
  split at h₂
  · cases h₂
  rcases bind_error h₂ with hrebuild | ⟨rebuilt, -, h₃⟩
  · exact rebuildFields_error hrebuild
  split at h₃
  · cases h₃
  · cases h₃

theorem readsBack (hreads : ReadsFormats P) (hr : Restores readers body lay)
    (hbcs : kind.bcs = versioned body) :
    ReadsBack P kind (readAttestationAccount P kind readers) lay where
  laidOut version bump := laidOut_read hr hbcs version bump
  accepted := accepted_restored hreads hr hbcs
  refused := refused_recordError hreads

end Readers

/-! ## Partial signatures -/

/-- What holds of the fields of a voucher's attestation, whose proof is decoded. -/
structure FieldsReadBack (P : Primitives) : Prop where
  laidOut : ∀ {a : PartialUserSignatureAttestation} {fields voucher proof},
    versionedPartialUserSignatureAttestationBcs.valid a →
    layOutPartialSignature a = some fields → voucher.hasPartialSignature = true →
    voucher.attestation = fields →
    decodeAttestationProof P voucher.attestationProof = .ok proof →
    partialSignatureAttestationFields P voucher proof.attestationVersion = some a
  accepted : ∀ {a voucher proof},
    decodeAttestationProof P voucher.attestationProof = .ok proof →
    partialSignatureAttestationFields P voucher proof.attestationVersion = some a →
    voucher.hasPartialSignature = true ∧ layOutPartialSignature a = some voucher.attestation
  rebuilt : ∀ {a voucher proof},
    decodeAttestationProof P voucher.attestationProof = .ok proof →
    partialSignatureAttestationFields P voucher proof.attestationVersion = some a →
    rebuildAttestation .partialUserSignature proof.attestationVersion a =
      .ok (versionedPartialUserSignatureAttestationBcs.encode a) ∧
    ∃ fields, readFields partialSignatureFields voucher.attestation = some fields ∧
      versionedPartialUserSignatureAttestationBcs.encode a =
        bcsBytes (⟨"version", [UInt8.ofNat proof.attestationVersion]⟩ :: fields)

theorem partialSignatureAttestationFields_some {P : Primitives} (hreads : ReadsFormats P)
    {body : Codec PartialUserSignatureAttestation}
    (hbcs : versionedPartialUserSignatureAttestationBcs = versioned body)
    (hr : Restores partialSignatureFields body layOutPartialSignature)
    {a : PartialUserSignatureAttestation} {voucher : FutureSignatureVoucherAccount}
    {proof : AttestationProofV1}
    (hproof : decodeAttestationProof P voucher.attestationProof = .ok proof)
    (h : partialSignatureAttestationFields P voucher proof.attestationVersion = some a) :
    voucher.hasPartialSignature = true ∧
      ∃ fields, readFields partialSignatureFields voucher.attestation = some fields ∧
        body.valid a ∧ body.encode a = bcsBytes fields ∧
        layOutPartialSignature a = some voucher.attestation := by
  unfold partialSignatureAttestationFields at h
  split_ifs at h with hheld
  split at h
  · cases h
  next fields hfields =>
  rw [decodeAttestationProof_version hproof] at h
  have h : (P.parse versionedPartialUserSignatureAttestationBcs
      (0 :: bcsBytes fields)).toOption = some a := h
  cases hparse : P.parse versionedPartialUserSignatureAttestationBcs (0 :: bcsBytes fields) with
  | error reason =>
    rw [hparse] at h
    cases h
  | ok value =>
    rw [hparse] at h
    cases h
    obtain ⟨rest, hdecode, htight⟩ := hreads.attestation .partialUserSignature hparse
    change versionedPartialUserSignatureAttestationBcs.decode _ = _ at hdecode
    change _ = (versionedPartialUserSignatureAttestationBcs.encode _).length + _ at htight
    rw [hbcs, versioned_decode] at hdecode
    rw [hbcs] at htight
    obtain ⟨-, hvalid, hencode, hlay⟩ :=
      hr.lay_read hfields hdecode (versioned_tight htight)
    exact ⟨by simpa using hheld, fields, hfields, hvalid, hencode, hlay⟩

theorem fieldsReadBack {P : Primitives} (hreads : ReadsFormats P) : FieldsReadBack P := by
  obtain ⟨body, hbcs, hr⟩ := partialSignature_restores
  refine ⟨?_, ?_, ?_⟩
  · intro a fields voucher proof hvalid hlay hheld hstored hproof
    obtain ⟨read, hread, hencode⟩ := hr.read_lay (by rw [hbcs] at hvalid; exact hvalid) hlay
    have hbytes : bcsBytes (⟨"version", [UInt8.ofNat proof.attestationVersion]⟩ :: read) =
        versionedPartialUserSignatureAttestationBcs.encode a := by
      rw [bcsBytes_cons, decodeAttestationProof_version hproof, hencode, hbcs, versioned_encode]
      rfl
    have hparse := P.parse_encode versionedPartialUserSignatureAttestationBcs a hvalid
    rw [← hbytes] at hparse
    simp only [partialSignatureAttestationFields, hheld, hstored, hread]
    exact congrArg Except.toOption hparse
  · intro a voucher proof hproof h
    obtain ⟨hheld, fields, -, -, -, hlay⟩ :=
      partialSignatureAttestationFields_some hreads hbcs hr hproof h
    exact ⟨hheld, hlay⟩
  · intro a voucher proof hproof h
    obtain ⟨-, fields, hfields, hvalid, hencode, -⟩ :=
      partialSignatureAttestationFields_some hreads hbcs hr hproof h
    have hwhole : versionedPartialUserSignatureAttestationBcs.valid a := by
      rw [hbcs]
      exact hvalid
    have hserialize : (AttestationKind.bcs .partialUserSignature).serialize a =
        .ok (versionedPartialUserSignatureAttestationBcs.encode a) := if_pos hwhole
    refine ⟨?_, fields, hfields, ?_⟩
    · rw [decodeAttestationProof_version hproof]
      simp only [rebuildAttestation, hserialize]
      rfl
    · rw [hbcs, versioned_encode, hencode, bcsBytes_cons, decodeAttestationProof_version hproof]
      rfl

/-! ## The accounts -/

/-- What is laid out is read back to the bytes that the network signed, and what is
read was laid out. -/
theorem attestation_accounts_lose_nothing {P : Primitives} (hreads : ReadsFormats P) :
    ReadsBack P .dwallet (readDWalletAttestationUnverified P) layOutDWallet ∧
      ReadsBack P .encryptedShare (readEncryptedShareAttestationUnverified P)
        layOutEncryptedShare ∧
      ReadsBack P .publicShare (readPublicShareAttestationUnverified P) layOutPublicShare ∧
      FieldsReadBack P := by
  obtain ⟨dwallet, hdwallet, hrDWallet⟩ := dwallet_restores
  obtain ⟨encrypted, hencrypted, hrEncrypted⟩ := encryptedShare_restores
  obtain ⟨share, hshare, hrShare⟩ := publicShare_restores
  exact ⟨readsBack hreads hrDWallet hdwallet, readsBack hreads hrEncrypted hencrypted,
    readsBack hreads hrShare hshare, fieldsReadBack hreads⟩

def sampleStored : DWalletAttestation where
  sessionIdentifier := List.replicate 32 1
  intendedChainSender := [2, 3]
  curve := .curve25519
  publicKey := List.replicate 32 4
  publicOutput := [5]
  isImportedKey := false
  signDuringDkgSignature := none
  holder := some ⟨.ed25519, List.replicate 32 6⟩
  encryptionKeyHash := some (List.replicate 32 7)
  encryptedShareHash := some (List.replicate 32 8)
  epoch := 9

def sampleEnvelope : Bytes := List.replicate 98 0

theorem attestation_accounts_sample : ∃ fields account,
    layOutDWallet sampleStored = some fields ∧
      readDWalletAttestationUnverified samplePrimitives
        (layOutAccount 1 255 sampleEnvelope fields) = .ok (some account) ∧
      account.attestationData = versionedDWalletDataAttestationBcs.encode sampleStored := by
  obtain ⟨hdwallet, -, -, -⟩ := attestation_accounts_lose_nothing readsFormats_sample
  have hlay : layOutDWallet sampleStored = some ((layOutDWallet sampleStored).getD []) := by
    decide +kernel
  have henvelope : versionedAttestationProofBcs.serialize
      ⟨0, List.replicate 32 0, List.replicate 64 0⟩ = .ok sampleEnvelope := by
    decide +kernel
  obtain ⟨account, hread, hrecord⟩ :=
    hdwallet.laidOut 1 255 (by decide +kernel) hlay henvelope rfl
  exact ⟨_, account, hlay, hread, congrArg AttestationRecord.attestationData hrecord⟩

end Ika.Solana
