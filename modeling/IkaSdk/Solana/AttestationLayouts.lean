import IkaSdk.Lib.Restorable
import IkaSdk.Solana.Accounts

/-! The layouts in which the program stores an attestation's fields, and what
the reader of the fields makes of them. -/

namespace Ika.Solana

open Wire

/-! ## Fields and records of fields -/

def both (first second : Option Bytes) : Option Bytes := do return (← first) ++ (← second)

theorem both_some {first second : Option Bytes} {bytes : Bytes}
    (h : both first second = some bytes) :
    ∃ b b', first = some b ∧ second = some b' ∧ bytes = b ++ b' := by
  obtain ⟨b, hfirst, h₁⟩ := Option.bind_eq_some_iff.mp h
  obtain ⟨b', hsecond, heq⟩ := Option.bind_eq_some_iff.mp h₁
  cases heq
  exact ⟨b, b', hfirst, hsecond, rfl⟩

/-- The bytes that the fields are in BCS. -/
def bcsBytes (fields : List AttestationField) : Bytes := fields.flatMap (·.bcs)

theorem bcsBytes_cons (field : AttestationField) (fields : List AttestationField) :
    bcsBytes (field :: fields) = field.bcs ++ bcsBytes fields := List.flatMap_cons

variable {α β : Type}

/-- The readers give back the fields that the codec writes, from where `lay` puts
them; a value that the codec takes from the fields, in as many bytes as are written
for it, takes them all. -/
structure Restores (readers : List (String × FieldReader)) (codec : Codec α)
    (lay : α → Option Bytes) : Prop where
  frugal : codec.Frugal
  read_lay : ∀ {a bytes}, codec.valid a → lay a = some bytes →
    ∃ fields, readFields readers bytes = some fields ∧ bcsBytes fields = codec.encode a
  lay_read : ∀ {bytes fields}, readFields readers bytes = some fields →
    ∀ {a rest}, codec.decode (bcsBytes fields) = some (a, rest) →
      (bcsBytes fields).length = (codec.encode a).length + rest.length →
      rest = [] ∧ codec.valid a ∧ codec.encode a = bcsBytes fields ∧ lay a = some bytes

theorem readFields_cons {name : String} {reader : FieldReader}
    {readers : List (String × FieldReader)} {bytes : Bytes} {fields : List AttestationField}
    (h : readFields ((name, reader) :: readers) bytes = some fields) :
    ∃ bcs rest others, reader bytes = some (bcs, rest) ∧
      readFields readers rest = some others ∧ fields = ⟨name, bcs⟩ :: others := by
  obtain ⟨⟨bcs, rest⟩, hreader, h₁⟩ := Option.bind_eq_some_iff.mp h
  obtain ⟨others, hothers, heq⟩ := Option.bind_eq_some_iff.mp h₁
  cases heq
  exact ⟨bcs, rest, others, hreader, hothers, rfl⟩

theorem readFields_nil {bytes : Bytes} {fields : List AttestationField}
    (h : readFields [] bytes = some fields) : bytes = [] ∧ fields = [] := by
  unfold readFields at h
  split_ifs at h with hempty
  cases h
  exact ⟨hempty, rfl⟩

theorem readFields_of {name : String} {reader : FieldReader}
    {readers : List (String × FieldReader)} {bytes bcs rest : Bytes}
    {others : List AttestationField} (hreader : reader bytes = some (bcs, rest))
    (hothers : readFields readers rest = some others) :
    readFields ((name, reader) :: readers) bytes = some (⟨name, bcs⟩ :: others) := by
  simp only [readFields, hreader, Option.bind_eq_bind, Option.bind_some, hothers]

namespace Restores

variable {readers : List (String × FieldReader)} {codec : Codec α} {lay : α → Option Bytes}

theorem one (name : String) (r : Restorable α) : Restores [(name, r.read)] r.codec r.lay where
  frugal := r.frugal
  read_lay := by
    intro a bytes hvalid hlay
    have hread := r.read_lay hvalid hlay []
    rw [List.append_nil] at hread
    exact ⟨_, readFields_of hread rfl, by simp [bcsBytes]⟩
  lay_read := by
    intro bytes fields hread a rest hdecode htight
    obtain ⟨bcs, rest', others, hreader, hnone, rfl⟩ := readFields_cons hread
    obtain ⟨rfl, rfl⟩ := readFields_nil hnone
    obtain ⟨hrest, hvalid, hencode, laid, hlay, rfl⟩ := r.lay_read hreader hdecode htight
    refine ⟨hrest, hvalid, ?_, by simpa using hlay⟩
    rw [hencode]
    simp [bcsBytes]

theorem cons (name : String) (r : Restorable α) {codec : Codec β} {lay : β → Option Bytes}
    (h : Restores readers codec lay) :
    Restores ((name, r.read) :: readers) (r.codec.pair codec)
      (fun a => both (r.lay a.1) (lay a.2)) where
  frugal := Codec.Frugal.pair r.frugal h.frugal
  read_lay := by
    intro a bytes hvalid hlay
    obtain ⟨hfirst, hsecond⟩ := Bool.and_eq_true_iff.mp hvalid
    obtain ⟨b, b', hb, hb', rfl⟩ := both_some hlay
    obtain ⟨others, hothers, hencode⟩ := h.read_lay hsecond hb'
    refine ⟨_, readFields_of (r.read_lay hfirst hb b') hothers, ?_⟩
    rw [bcsBytes_cons, hencode]
    rfl
  lay_read := by
    intro bytes fields hread a rest hdecode htight
    obtain ⟨bcs, rest', others, hreader, hothers, rfl⟩ := readFields_cons hread
    obtain ⟨between, hfirst, hsecond⟩ := Codec.pair_decode_some hdecode
    obtain ⟨htight, htight'⟩ :=
      Codec.Frugal.pair_tight r.frugal h.frugal hfirst hsecond htight
    obtain ⟨rfl, hvalid, hencode, laid, hlay, rfl⟩ := r.lay_read hreader hfirst htight
    obtain ⟨hrest, hvalid', hencode', hlay'⟩ := h.lay_read hothers hsecond htight'
    refine ⟨hrest, Bool.and_eq_true_iff.mpr ⟨hvalid, hvalid'⟩, ?_, ?_⟩
    · rw [Codec.pair_encode, hencode, hencode']
      rfl
    · simp only [hlay, hlay']
      rfl

theorem iso (h : Restores readers codec lay) (build : α → β) (fields : β → α)
    (hb : ∀ b, build (fields b) = b) (ha : ∀ a, fields (build a) = a) :
    Restores readers (codec.iso build fields hb) (fun b => lay (fields b)) where
  frugal := Codec.Frugal.iso h.frugal ha
  read_lay hvalid hlay := h.read_lay hvalid hlay
  lay_read := by
    intro bytes read hread b rest hdecode htight
    obtain ⟨⟨a, after⟩, hfields, heq⟩ := Option.map_eq_some_iff.mp hdecode
    cases heq
    simp only [Codec.iso, ha] at htight
    have hread := h.lay_read hread hfields htight
    simpa only [Codec.iso, ha] using hread

end Restores

/-! ## The layouts -/

def shortValue : Restorable Bytes := .sized 1

def longValue : Restorable Bytes := .sized 2

def curveIndex : Restorable DWalletCurve := .index curves (by decide) (by decide)

def signatureSchemeIndex : Restorable DWalletSignatureScheme :=
  .index dwalletSignatureSchemes (by decide) (by decide)

theorem signatureSchemes_length : signatureSchemes.length ≤ 128 := by decide

theorem signatureSchemes_nodup : signatureSchemes.Nodup := by decide

theorem holder_fields (h : ShareHolder) : ShareHolder.mk h.signatureScheme h.signerPublicKey = h :=
  rfl

theorem fields_holder (f : SignatureScheme × Bytes) :
    ((ShareHolder.mk f.1 f.2).signatureScheme, (ShareHolder.mk f.1 f.2).signerPublicKey) = f := rfl

def storedHolder : Restorable ShareHolder :=
  (Restorable.indexed signatureSchemes signatureSchemes_length signatureSchemes_nodup 32).iso
    (fun f => ⟨f.1, f.2⟩) (fun h => (h.signatureScheme, h.signerPublicKey)) holder_fields
    fields_holder

open Restorable in
def layOutDWallet (a : DWalletAttestation) : Option Bytes :=
  both ((fixed 32).lay a.sessionIdentifier) <|
  both (shortValue.lay a.intendedChainSender) <|
  both (curveIndex.lay a.curve) <|
  both (shortValue.lay a.publicKey) <|
  both (longValue.lay a.publicOutput) <|
  both (flag.lay a.isImportedKey) <|
  both ((option longValue).lay a.signDuringDkgSignature) <|
  both ((option storedHolder).lay a.holder) <|
  both ((option (fixed 32)).lay a.encryptionKeyHash) <|
  both ((option (fixed 32)).lay a.encryptedShareHash)
    ((number 8).lay a.epoch)

open Restorable in
def layOutEncryptedShare (a : EncryptedShareAttestation) : Option Bytes :=
  both ((fixed 32).lay a.sessionIdentifier) <|
  both (shortValue.lay a.intendedChainSender) <|
  both (shortValue.lay a.dwalletPublicKey) <|
  both ((fixed 32).lay a.encryptedShareHash) <|
  both ((fixed 32).lay a.encryptionKeyHash) <|
  both (storedHolder.lay a.holder)
    ((fixed 32).lay a.dwalletAttestationDigest)

open Restorable in
def layOutPublicShare (a : PublicShareAttestation) : Option Bytes :=
  both ((fixed 32).lay a.sessionIdentifier) <|
  both (shortValue.lay a.intendedChainSender) <|
  both (shortValue.lay a.dwalletPublicKey) <|
  both (longValue.lay a.publicUserSecretKeyShare)
    ((fixed 32).lay a.dwalletAttestationDigest)

open Restorable in
def layOutPartialSignature (a : PartialUserSignatureAttestation) : Option Bytes :=
  both ((fixed 32).lay a.sessionIdentifier) <|
  both (shortValue.lay a.intendedChainSender) <|
  both (shortValue.lay a.dwalletPublicKey) <|
  both ((fixed 32).lay a.dwalletAttestationHash) <|
  both ((fixed 32).lay a.futureSignatureVoucher) <|
  both (shortValue.lay a.presignSessionIdentifier) <|
  both ((fixed 32).lay a.presignAttestationHash) <|
  both ((fixed 32).lay a.messageDigest) <|
  both ((fixed 32).lay a.messageMetadataDigest) <|
  both (signatureSchemeIndex.lay a.signatureScheme)
    (longValue.lay a.verifiedSignData)

theorem dwallet_restores : ∃ body, versionedDWalletDataAttestationBcs = versioned body ∧
    Restores dwalletAttestationFields body layOutDWallet := by
  have h : Restores dwalletAttestationFields _ _ :=
    .cons "session_identifier" (.fixed 32) <|
    .cons "intended_chain_sender" shortValue <|
    .cons "curve" curveIndex <|
    .cons "public_key" shortValue <|
    .cons "public_output" longValue <|
    .cons "is_imported_key" .flag <|
    .cons "sign_during_dkg_signature" (.option longValue) <|
    .cons "holder" (.option storedHolder) <|
    .cons "encryption_key_hash" (.option (.fixed 32)) <|
    .cons "encrypted_share_hash" (.option (.fixed 32)) <|
    .one "epoch" (.number 8)
  exact ⟨_, rfl, h.iso _ _ (fun _ => rfl) fun _ => rfl⟩

theorem encryptedShare_restores :
    ∃ body, versionedEncryptedUserKeyShareAttestationBcs = versioned body ∧
      Restores encryptedShareAttestationFields body layOutEncryptedShare := by
  have h : Restores encryptedShareAttestationFields _ _ :=
    .cons "session_identifier" (.fixed 32) <|
    .cons "intended_chain_sender" shortValue <|
    .cons "dwallet_public_key" shortValue <|
    .cons "encrypted_share_hash" (.fixed 32) <|
    .cons "encryption_key_hash" (.fixed 32) <|
    .cons "holder" storedHolder <|
    .one "dwallet_attestation_digest" (.fixed 32)
  exact ⟨_, rfl, h.iso _ _ (fun _ => rfl) fun _ => rfl⟩

theorem publicShare_restores :
    ∃ body, versionedPublicUserKeyShareAttestationBcs = versioned body ∧
      Restores publicShareAttestationFields body layOutPublicShare := by
  have h : Restores publicShareAttestationFields _ _ :=
    .cons "session_identifier" (.fixed 32) <|
    .cons "intended_chain_sender" shortValue <|
    .cons "dwallet_public_key" shortValue <|
    .cons "public_user_secret_key_share" longValue <|
    .one "dwallet_attestation_digest" (.fixed 32)
  exact ⟨_, rfl, h.iso _ _ (fun _ => rfl) fun _ => rfl⟩

theorem partialSignature_restores :
    ∃ body, versionedPartialUserSignatureAttestationBcs = versioned body ∧
      Restores partialSignatureFields body layOutPartialSignature := by
  have h : Restores partialSignatureFields _ _ :=
    .cons "session_identifier" (.fixed 32) <|
    .cons "intended_chain_sender" shortValue <|
    .cons "dwallet_public_key" shortValue <|
    .cons "dwallet_attestation_hash" (.fixed 32) <|
    .cons "future_signature_voucher" (.fixed 32) <|
    .cons "presign_session_identifier" shortValue <|
    .cons "presign_attestation_hash" (.fixed 32) <|
    .cons "message_digest" (.fixed 32) <|
    .cons "message_metadata_digest" (.fixed 32) <|
    .cons "signature_scheme" signatureSchemeIndex <|
    .one "verified_sign_data" longValue
  exact ⟨_, rfl, h.iso _ _ (fun _ => rfl) fun _ => rfl⟩

end Ika.Solana
