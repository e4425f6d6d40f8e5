import IkaSdk.Core.Grpc.Bcs
import IkaSdk.Core.Grpc.Errors
import IkaSdk.Core.Grpc.SigningMessages
import IkaSdk.Lib.Except

/-! The checks of a network-signed attestation: a trusted signer, its signature
over the bytes as their kind, and the comparisons of the decoded fields with the
dWallet, the holder and the stored values. -/

namespace Ika

open Wire

structure AttestationRecord where
  attestationData : Bytes
  attestationVersion : ℕ
  networkSignature : Bytes
  signerNoaPublicKey : Bytes
deriving DecidableEq, Repr

/-- The network keys a caller trusts. -/
structure TrustedNetworkKeys where
  publicKeys : List Bytes
deriving DecidableEq, Repr

def knownAttestationVersions : List ℕ := [0]

abbrev AttestationKind.Attestation : AttestationKind → Type
  | dwallet => DWalletAttestation
  | presign => PresignAttestation
  | partialUserSignature => PartialUserSignatureAttestation
  | encryptedShare => EncryptedShareAttestation
  | publicShare => PublicShareAttestation

def AttestationKind.bcs : (kind : AttestationKind) → Codec kind.Attestation
  | dwallet => versionedDWalletDataAttestationBcs
  | presign => versionedPresignDataAttestationBcs
  | partialUserSignature => versionedPartialUserSignatureAttestationBcs
  | encryptedShare => versionedEncryptedUserKeyShareAttestationBcs
  | publicShare => versionedPublicUserKeyShareAttestationBcs

def AttestationKind.name : AttestationKind → String
  | dwallet => "dWallet"
  | presign => "presign"
  | partialUserSignature => "partial-signature"
  | encryptedShare => "encrypted share"
  | publicShare => "public share"

/-- The exact length of a public share, by the number of its curve. -/
def publicShareLengths : List ℕ := [35, 35, 34, 34]

def requirePublicShareLength (share : Bytes) (curve : ℕ) : Except SdkError Unit :=
  let expected := publicShareLengths[curve]?
  let expectedText := (expected.map toString).getD "undefined"
  ensure (expected = some share.length) (.attestationRecord .length
    (s!"the public share is {share.length} bytes, and a public share of curve {curve} " ++
      s!"is exactly {expectedText} bytes") (some "public_user_secret_key_share"))

def requireKnownVersion (attestationVersion : ℕ) : Except SdkError Unit :=
  ensure (attestationVersion ∈ knownAttestationVersions) (.attestationRecord .version
    s!"attestation version {attestationVersion} is not one this SDK knows" none)

/-- A field of an attestation has to be what was asked for. -/
def requireField (field : String) (holds : Prop) [Decidable holds] (what : String) :
    Except SdkError Unit :=
  ensure holds (.attestationRecord .binding
    s!"the attestation's {field} is not the {what} that was asked for" (some field))

/-- A stored field has to match the signed attestation. -/
def requireStoredField (field : String) (holds : Prop) [Decidable holds] :
    Except SdkError Unit :=
  ensure holds (.attestationRecord .record
    s!"the record's stored {field} does not match its signed attestation" (some field))

section Checks

variable (P : Primitives)

/-- The keccak256 of the exact bytes of a dWallet's attestation. -/
def dwalletAttestationDigest (attestationData : Bytes) : Bytes := P.keccak256 attestationData

/-- The keccak256 of the exact bytes of a share's own attestation. -/
def shareAttestationDigest (shareAttestationData : Bytes) : Bytes :=
  P.keccak256 shareAttestationData

def decodeExactly (kind : AttestationKind) (bytes : Bytes) :
    Except SdkError kind.Attestation :=
  match P.parse kind.bcs bytes with
  | .error reason =>
    .error (.attestationRecord .decode
      s!"the attestation bytes are not a {kind.name} attestation: {reason}" none)
  | .ok decoded =>
    let reserialized := match kind.bcs.serialize decoded with
      | .ok written => written
      | .error _ => []
    if reserialized ≠ bytes then
      .error (.attestationRecord .decode
        (s!"the attestation bytes are not exactly a {kind.name} attestation: bytes are left " ++
          "over, or a length is not written as BCS writes it") none)
    else .ok decoded

/-- A verification that throws counts as one that fails. -/
def signatureVerifies (signature message publicKey : Bytes) : Bool :=
  match P.ed25519Verify signature message publicKey with
  | .ok verified => verified
  | .error _ => false

/-- The check of a public share's length, for that kind and with its curve. -/
def checkShareLength : (kind : AttestationKind) → kind.Attestation → Option ℕ →
    Except SdkError Unit
  | .publicShare, decoded, some curve =>
    requirePublicShareLength decoded.publicUserSecretKeyShare curve
  | _, _, _ => .ok ()

def verifyAndDecode (record : AttestationRecord) (trusted : TrustedNetworkKeys)
    (kind : AttestationKind) (publicShareCurve : Option ℕ) :
    Except SdkError kind.Attestation := do
  ensure (kind = .publicShare → (publicShareCurve.bind (publicShareLengths[·]?)).isSome)
    (.typeError ("a public share attestation is checked against its dWallet's curve: " ++
      "pass the curve, 0 to 3"))
  requireKnownVersion record.attestationVersion
  ensure (record.signerNoaPublicKey ∈ trusted.publicKeys) (.attestationRecord .signer
    "the record's signer is not one of the network keys the caller trusts" none)
  ensure (signatureVerifies P record.networkSignature
      (attestationSigningMessage kind record.attestationData) record.signerNoaPublicKey)
    (.attestationRecord .signature
      ("the network's signature does not verify over the attestation bytes as a " ++
        s!"{kind.name} attestation under its signer") none)
  let decoded ← decodeExactly P kind record.attestationData
  checkShareLength kind decoded publicShareCurve
  return decoded

structure VerifiedDWalletAttestation where
  attestationData : Bytes
  attestation : DWalletAttestation
  networkSignature : Bytes
  signerNoaPublicKey : Bytes
deriving DecidableEq, Repr

/-- The dWallet that a check is asked for. -/
structure AskedDWallet where
  curve : ℕ
  publicKey : Bytes
  importedSessionIdentifier : Option Bytes
deriving DecidableEq, Repr

def verifyDWalletAttestationRecord (record : AttestationRecord) (trusted : TrustedNetworkKeys)
    (expected : AskedDWallet) : Except SdkError VerifiedDWalletAttestation := do
  let attestation ← verifyAndDecode P record trusted .dwallet none
  requireField "curve" (attestation.curve.number = expected.curve) "curve"
  requireField "public_key" (attestation.publicKey = expected.publicKey) "public key"
  let imported := expected.importedSessionIdentifier.isSome
  requireField "is_imported_key" (attestation.isImportedKey = imported)
    (if imported then "imported dWallet" else "DKG dWallet")
  requireField "session_identifier"
    (∀ session ∈ expected.importedSessionIdentifier, attestation.sessionIdentifier = session)
    "import request's session identifier"
  return { attestationData := record.attestationData, attestation,
           networkSignature := record.networkSignature,
           signerNoaPublicKey := record.signerNoaPublicKey }

/-! ## Share attestations -/

def requireSameSenderAndKey (intendedChainSender dwalletPublicKey : Bytes)
    (dwallet : VerifiedDWalletAttestation) : Except SdkError Unit := do
  requireField "intended_chain_sender"
    (intendedChainSender = dwallet.attestation.intendedChainSender)
    "dWallet attestation's sender"
  requireField "dwallet_public_key" (dwalletPublicKey = dwallet.attestation.publicKey)
    "dWallet's public key"

def requireDWalletAttestationDigest (digest : Bytes) (dwallet : VerifiedDWalletAttestation) :
    Except SdkError Unit :=
  requireField "dwallet_attestation_digest"
    (digest = dwalletAttestationDigest P dwallet.attestationData)
    "digest of the dWallet's attestation"

def requireSameDWallet (intendedChainSender dwalletPublicKey digest : Bytes)
    (dwallet : VerifiedDWalletAttestation) : Except SdkError Unit := do
  requireSameSenderAndKey intendedChainSender dwalletPublicKey dwallet
  requireDWalletAttestationDigest P digest dwallet

def requireSameRequest (sessionIdentifier intendedChainSender dwalletPublicKey : Bytes)
    (dwallet : VerifiedDWalletAttestation) : Except SdkError Unit := do
  requireField "session_identifier" (sessionIdentifier = dwallet.attestation.sessionIdentifier)
    "dWallet attestation's session identifier"
  requireSameSenderAndKey intendedChainSender dwalletPublicKey dwallet

/-- Whether a share was made by the request that created its dWallet. -/
def isShareOfTheCreatingRequest (shareSession : Bytes) (dwallet : DWalletAttestation) : Bool :=
  shareSession == dwallet.sessionIdentifier

/-- Whether the attestation names the key asked for as its holder, an Ed25519 key
unless another scheme is asked for. -/
def askedHolder (attestation : EncryptedShareAttestation) (holderSignerPublicKey : Bytes)
    (holderSignatureScheme : ℕ := 0) : Bool :=
  attestation.holder.signatureScheme.number == holderSignatureScheme &&
    attestation.holder.signerPublicKey == holderSignerPublicKey

def verifyEncryptedShareAttestationRecord (record : AttestationRecord)
    (trusted : TrustedNetworkKeys) (dwallet : VerifiedDWalletAttestation)
    (holderSignerPublicKey : Bytes) (holderSignatureScheme : ℕ := 0) :
    Except SdkError EncryptedShareAttestation := do
  let attestation ← verifyAndDecode P record trusted .encryptedShare none
  let dwalletAttestation := dwallet.attestation
  let asked := askedHolder attestation holderSignerPublicKey holderSignatureScheme
  if isShareOfTheCreatingRequest attestation.sessionIdentifier dwalletAttestation then
    requireSameRequest attestation.sessionIdentifier attestation.intendedChainSender
      attestation.dwalletPublicKey dwallet
    requireField "encrypted_share_hash"
      (dwalletAttestation.encryptedShareHash = some attestation.encryptedShareHash)
      "dWallet attestation's encrypted share hash"
    requireField "encryption_key_hash"
      (dwalletAttestation.encryptionKeyHash = some attestation.encryptionKeyHash)
      "dWallet attestation's encryption key hash"
    requireField "holder" (dwalletAttestation.holder = some attestation.holder ∧ asked) "holder"
    requireDWalletAttestationDigest P attestation.dwalletAttestationDigest dwallet
    return attestation
  else
    requireSameDWallet P attestation.intendedChainSender attestation.dwalletPublicKey
      attestation.dwalletAttestationDigest dwallet
    requireField "holder" asked "holder"
    return attestation

def verifyPublicShareAttestationRecord (record : AttestationRecord)
    (trusted : TrustedNetworkKeys) (dwallet : VerifiedDWalletAttestation) :
    Except SdkError PublicShareAttestation := do
  let attestation ← verifyAndDecode P record trusted .publicShare
    (some dwallet.attestation.curve.number)
  if isShareOfTheCreatingRequest attestation.sessionIdentifier dwallet.attestation then
    requireSameRequest attestation.sessionIdentifier attestation.intendedChainSender
      attestation.dwalletPublicKey dwallet
    requireField "holder" (dwallet.attestation.holder = none)
      "dWallet without a holder (a dWallet created with a public share)"
    requireDWalletAttestationDigest P attestation.dwalletAttestationDigest dwallet
    return attestation
  else
    requireSameDWallet P attestation.intendedChainSender attestation.dwalletPublicKey
      attestation.dwalletAttestationDigest dwallet
    return attestation

/-! ## Stored values -/

structure StoredDWallet where
  curve : ℕ
  publicKey : Bytes
  isImportedKey : Bool
  importedSessionIdentifier : Option Bytes
deriving DecidableEq, Repr

def verifyStoredDWallet (stored : StoredDWallet) (dwallet : VerifiedDWalletAttestation) :
    Except SdkError Unit := do
  let attestation := dwallet.attestation
  requireStoredField "curve" (attestation.curve.number = stored.curve)
  requireStoredField "public_key" (stored.publicKey = attestation.publicKey)
  requireStoredField "is_imported_key" (stored.isImportedKey = attestation.isImportedKey)
  requireStoredField "session_identifier" (stored.importedSessionIdentifier =
    if attestation.isImportedKey then some attestation.sessionIdentifier else none)

def verifyRegisteredEncryptionKey (share : EncryptedShareAttestation)
    (registeredEncryptionKey : Bytes) : Except SdkError Unit :=
  requireStoredField "encryption_key_hash"
    (P.keccak256 registeredEncryptionKey = share.encryptionKeyHash)

def verifyStoredEncryptedShare (share : EncryptedShareAttestation) (encryptedShare : Bytes) :
    Except SdkError Unit :=
  requireStoredField "encrypted_share" (P.keccak256 encryptedShare = share.encryptedShareHash)

end Checks

/-! ## What a check that passed shows -/

variable {P : Primitives}

theorem signatureVerifies_iff {signature message publicKey : Bytes} :
    signatureVerifies P signature message publicKey ↔
      P.ed25519Verify signature message publicKey = .ok true := by
  unfold signatureVerifies
  cases P.ed25519Verify signature message publicKey <;> simp

theorem SignatureScheme.number_eq_zero {s : SignatureScheme} : s.number = 0 ↔ s = .ed25519 := by
  cases s <;> decide

/-- The record's signer is trusted, its signature verifies over the bytes as
their kind, and the bytes decode as exactly that attestation. -/
structure NetworkSigned (P : Primitives) (trusted : TrustedNetworkKeys) (kind : AttestationKind)
    (record : AttestationRecord) (attestation : kind.Attestation) : Prop where
  trusted : record.signerNoaPublicKey ∈ trusted.publicKeys
  verifies : P.ed25519Verify record.networkSignature
    (attestationSigningMessage kind record.attestationData) record.signerNoaPublicKey = .ok true
  decodes : P.parse kind.bcs record.attestationData = .ok attestation

theorem decodeExactly_ok {kind : AttestationKind} {bytes : Bytes} {a : kind.Attestation}
    (h : decodeExactly P kind bytes = .ok a) : P.parse kind.bcs bytes = .ok a := by
  unfold decodeExactly at h
  split at h
  · cases h
  · next decoded hparse =>
    obtain ⟨-, h⟩ := ite_error_ok h
    rw [hparse, ← Except.ok.inj h]

theorem requirePublicShareLength_ok {share : Bytes} {curve : ℕ} {u : Unit}
    (h : requirePublicShareLength share curve = .ok u) :
    publicShareLengths[curve]? = some share.length := ensure_ok h

theorem verifyAndDecode_ok {record : AttestationRecord} {trusted : TrustedNetworkKeys}
    {kind : AttestationKind} {curve : Option ℕ} {a : kind.Attestation}
    (h : verifyAndDecode P record trusted kind curve = .ok a) :
    NetworkSigned P trusted kind record a ∧ checkShareLength kind a curve = .ok () := by
  obtain ⟨_, -, h⟩ := bind_ok h
  obtain ⟨_, -, h⟩ := bind_ok h
  obtain ⟨_, hsigner, h⟩ := bind_ok h
  obtain ⟨_, hsigned, h⟩ := bind_ok h
  obtain ⟨decoded, hdecoded, h⟩ := bind_ok h
  obtain ⟨_, hlength, h⟩ := bind_ok h
  obtain rfl : decoded = a := Except.ok.inj h
  exact ⟨⟨ensure_ok hsigner, signatureVerifies_iff.mp (ensure_ok hsigned),
    decodeExactly_ok hdecoded⟩, hlength⟩

/-- What the check of a dWallet's record shows about the dWallet asked for. -/
structure VerifiedFor (P : Primitives) (trusted : TrustedNetworkKeys) (record : AttestationRecord)
    (asked : AskedDWallet) (verified : VerifiedDWalletAttestation) : Prop where
  signed : NetworkSigned P trusted .dwallet record verified.attestation
  data : verified.attestationData = record.attestationData
  signature : verified.networkSignature = record.networkSignature
  signer : verified.signerNoaPublicKey = record.signerNoaPublicKey
  curve : verified.attestation.curve.number = asked.curve
  publicKey : verified.attestation.publicKey = asked.publicKey
  imported : verified.attestation.isImportedKey = asked.importedSessionIdentifier.isSome
  session : ∀ session ∈ asked.importedSessionIdentifier,
    verified.attestation.sessionIdentifier = session

theorem verifyDWalletAttestationRecord_ok {record : AttestationRecord}
    {trusted : TrustedNetworkKeys} {asked : AskedDWallet} {verified : VerifiedDWalletAttestation}
    (h : verifyDWalletAttestationRecord P record trusted asked = .ok verified) :
    VerifiedFor P trusted record asked verified := by
  obtain ⟨attestation, hsigned, h⟩ := bind_ok h
  obtain ⟨_, hcurve, h⟩ := bind_ok h
  obtain ⟨_, hkey, h⟩ := bind_ok h
  obtain ⟨_, himported, h⟩ := bind_ok h
  obtain ⟨_, hsession, h⟩ := bind_ok h
  cases h
  exact ⟨(verifyAndDecode_ok hsigned).1, rfl, rfl, rfl, ensure_ok hcurve, ensure_ok hkey,
    ensure_ok himported, ensure_ok hsession⟩

/-- A share attestation repeats the dWallet's sender and key, and its digest is
that of the dWallet attestation's bytes. -/
structure BindsDWallet (P : Primitives) (sender publicKey digest : Bytes)
    (dwallet : VerifiedDWalletAttestation) : Prop where
  sender : sender = dwallet.attestation.intendedChainSender
  publicKey : publicKey = dwallet.attestation.publicKey
  digest : digest = dwalletAttestationDigest P dwallet.attestationData

theorem requireSameSenderAndKey_ok {sender key : Bytes} {dwallet : VerifiedDWalletAttestation}
    {u : Unit} (h : requireSameSenderAndKey sender key dwallet = .ok u) :
    sender = dwallet.attestation.intendedChainSender ∧ key = dwallet.attestation.publicKey := by
  obtain ⟨_, hsender, h⟩ := bind_ok h
  exact ⟨ensure_ok hsender, ensure_ok h⟩

theorem requireSameDWallet_ok {sender key digest : Bytes} {dwallet : VerifiedDWalletAttestation}
    {u : Unit} (h : requireSameDWallet P sender key digest dwallet = .ok u) :
    BindsDWallet P sender key digest dwallet := by
  obtain ⟨_, hsame, h⟩ := bind_ok h
  obtain ⟨hsender, hkey⟩ := requireSameSenderAndKey_ok hsame
  exact ⟨hsender, hkey, ensure_ok h⟩

theorem askedHolder_iff {attestation : EncryptedShareAttestation} {key : Bytes} :
    askedHolder attestation key ↔ attestation.holder = ⟨.ed25519, key⟩ := by
  rcases hholder : attestation.holder with ⟨scheme, signer⟩
  simp [askedHolder, hholder, SignatureScheme.number_eq_zero]

/-- What the check of an encrypted share's attestation shows. -/
structure EncryptedShareFor (P : Primitives) (trusted : TrustedNetworkKeys)
    (record : AttestationRecord) (dwallet : VerifiedDWalletAttestation) (holder : Bytes)
    (share : EncryptedShareAttestation) : Prop where
  signed : NetworkSigned P trusted .encryptedShare record share
  holder : share.holder = ⟨.ed25519, holder⟩
  binds : BindsDWallet P share.intendedChainSender share.dwalletPublicKey
    share.dwalletAttestationDigest dwallet
  first : isShareOfTheCreatingRequest share.sessionIdentifier dwallet.attestation →
    dwallet.attestation.holder = some share.holder ∧
      dwallet.attestation.encryptedShareHash = some share.encryptedShareHash ∧
      dwallet.attestation.encryptionKeyHash = some share.encryptionKeyHash

theorem verifyEncryptedShareAttestationRecord_ok {record : AttestationRecord}
    {trusted : TrustedNetworkKeys} {dwallet : VerifiedDWalletAttestation} {holder : Bytes}
    {share : EncryptedShareAttestation}
    (h : verifyEncryptedShareAttestationRecord P record trusted dwallet holder = .ok share) :
    EncryptedShareFor P trusted record dwallet holder share := by
  obtain ⟨attestation, hsigned, h⟩ := bind_ok h
  have hsigned := (verifyAndDecode_ok hsigned).1
  dsimp only at h
  split_ifs at h with hfirst
  · obtain ⟨_, hrequest, h⟩ := bind_ok h
    obtain ⟨_, hshareHash, h⟩ := bind_ok h
    obtain ⟨_, hkeyHash, h⟩ := bind_ok h
    obtain ⟨_, hholder, h⟩ := bind_ok h
    obtain ⟨_, hdigest, h⟩ := bind_ok h
    obtain rfl : attestation = share := Except.ok.inj h
    obtain ⟨_, -, hsame⟩ := bind_ok hrequest
    obtain ⟨hsender, hkey⟩ := requireSameSenderAndKey_ok hsame
    obtain ⟨hnamed, hasked⟩ := ensure_ok hholder
    exact ⟨hsigned, askedHolder_iff.mp hasked, ⟨hsender, hkey, ensure_ok hdigest⟩,
      fun _ => ⟨hnamed, ensure_ok hshareHash, ensure_ok hkeyHash⟩⟩
  · obtain ⟨_, hsame, h⟩ := bind_ok h
    obtain ⟨_, hholder, h⟩ := bind_ok h
    obtain rfl : attestation = share := Except.ok.inj h
    exact ⟨hsigned, askedHolder_iff.mp (ensure_ok hholder), requireSameDWallet_ok hsame,
      fun hsession => absurd hsession hfirst⟩

/-- What the check of a public share's attestation shows. -/
structure PublicShareFor (P : Primitives) (trusted : TrustedNetworkKeys)
    (record : AttestationRecord) (dwallet : VerifiedDWalletAttestation)
    (share : PublicShareAttestation) : Prop where
  signed : NetworkSigned P trusted .publicShare record share
  binds : BindsDWallet P share.intendedChainSender share.dwalletPublicKey
    share.dwalletAttestationDigest dwallet
  length : publicShareLengths[dwallet.attestation.curve.number]? =
    some share.publicUserSecretKeyShare.length

theorem verifyPublicShareAttestationRecord_ok {record : AttestationRecord}
    {trusted : TrustedNetworkKeys} {dwallet : VerifiedDWalletAttestation}
    {share : PublicShareAttestation}
    (h : verifyPublicShareAttestationRecord P record trusted dwallet = .ok share) :
    PublicShareFor P trusted record dwallet share := by
  obtain ⟨attestation, hsigned, h⟩ := bind_ok h
  obtain ⟨hsigned, hlength⟩ := verifyAndDecode_ok hsigned
  have hlength := requirePublicShareLength_ok hlength
  split_ifs at h
  · obtain ⟨_, hrequest, h⟩ := bind_ok h
    obtain ⟨_, -, h⟩ := bind_ok h
    obtain ⟨_, hdigest, h⟩ := bind_ok h
    obtain rfl : attestation = share := Except.ok.inj h
    obtain ⟨_, -, hsame⟩ := bind_ok hrequest
    obtain ⟨hsender, hkey⟩ := requireSameSenderAndKey_ok hsame
    exact ⟨hsigned, ⟨hsender, hkey, ensure_ok hdigest⟩, hlength⟩
  · obtain ⟨_, hsame, h⟩ := bind_ok h
    obtain rfl : attestation = share := Except.ok.inj h
    exact ⟨hsigned, requireSameDWallet_ok hsame, hlength⟩

theorem verifyStoredDWallet_ok {stored : StoredDWallet} {dwallet : VerifiedDWalletAttestation}
    {u : Unit} (h : verifyStoredDWallet stored dwallet = .ok u) :
    stored.curve = dwallet.attestation.curve.number ∧
      stored.publicKey = dwallet.attestation.publicKey ∧
      stored.isImportedKey = dwallet.attestation.isImportedKey ∧
      stored.importedSessionIdentifier = if dwallet.attestation.isImportedKey then
        some dwallet.attestation.sessionIdentifier else none := by
  obtain ⟨_, hcurve, h⟩ := bind_ok h
  obtain ⟨_, hkey, h⟩ := bind_ok h
  obtain ⟨_, himported, h⟩ := bind_ok h
  exact ⟨(ensure_ok hcurve).symm, ensure_ok hkey, ensure_ok himported, ensure_ok h⟩

end Ika
