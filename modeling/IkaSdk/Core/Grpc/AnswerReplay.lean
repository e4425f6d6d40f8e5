import IkaSdk.Core.Grpc.AnswerChecks

/-! What an answer that passes its check shows: which attestation the network
signed, and that it names everything the request sent. One answer passes the
checks of requests of one kind and of one session only. -/

namespace Ika

open Wire

/-! ## Requests and their answers -/

/-- A request whose answer is checked, with what its check is given. -/
inductive SentRequest
  | presign (sent : SentPresign)
  | makeSharePublic (dwallet : VerifiedDWalletAttestation) (sent : SentMakeSharePublic)
  | reEncryptShare (dwallet : VerifiedDWalletAttestation) (sent : SentReEncryptShare)
  | futureSign (sent : SentFutureSign)
  | publicShareDkg (cryptography : AnswerCryptography) (sent : SentPublicShareDkg)

namespace SentRequest

/-- The kind of attestation that the request is answered with. -/
def kind : SentRequest → AttestationKind
  | presign _ => .presign
  | makeSharePublic .. => .publicShare
  | reEncryptShare .. => .encryptedShare
  | futureSign _ => .partialUserSignature
  | publicShareDkg .. => .dwallet

def sessionIdentifier : SentRequest → Bytes
  | presign sent => sent.sessionIdentifier
  | makeSharePublic _ sent => sent.sessionIdentifier
  | reEncryptShare _ sent => sent.sessionIdentifier
  | futureSign sent => sent.sessionIdentifier
  | publicShareDkg _ sent => sent.sessionIdentifier

/-- The network key that the request used. -/
def networkKeyId : SentRequest → Bytes
  | presign sent => sent.networkKeyId
  | makeSharePublic _ sent => sent.networkKeyId
  | reEncryptShare _ sent => sent.networkKeyId
  | futureSign sent => sent.dwalletAttestation.networkPubkey
  | publicShareDkg _ sent => sent.networkKeyId

section Check

variable (P : Primitives)

/-- The check of the request's answer. -/
def check (trusted : TrustedNetwork) (response : TransactionResponseData) :
    SentRequest → Except SdkError Unit
  | presign sent => do let _ ← verifyPresignAnswer P response trusted sent
  | makeSharePublic dwallet sent => do
    let _ ← verifyMakeSharePublicAnswer P response trusted dwallet sent
  | reEncryptShare dwallet sent => do
    let _ ← verifyReEncryptShareAnswer P response trusted dwallet sent
  | futureSign sent => do let _ ← verifyFutureSignAnswer P response trusted sent
  | publicShareDkg cryptography sent => do
    let _ ← verifyPublicShareDkgAnswer P response trusted sent cryptography

end Check

end SentRequest

/-! ## What the attestation names -/

structure NamesPresign (sent : SentPresign) (attestation : PresignAttestation) : Prop where
  session : attestation.sessionIdentifier = sent.sessionIdentifier
  epoch : attestation.epoch = sent.epoch
  curve : attestation.curve = sent.curve
  algorithm : attestation.signatureAlgorithm = sent.signatureAlgorithm
  dwallet : attestation.dwalletPublicKey = sent.dwalletPublicKey

structure NamesMakeSharePublic (P : Primitives) (dwallet : VerifiedDWalletAttestation)
    (sent : SentMakeSharePublic) (attestation : PublicShareAttestation) : Prop where
  session : attestation.sessionIdentifier = sent.sessionIdentifier
  share : attestation.publicUserSecretKeyShare = sent.publicUserSecretKeyShare
  binds : BindsDWallet P attestation.intendedChainSender attestation.dwalletPublicKey
    attestation.dwalletAttestationDigest dwallet
  curve : publicShareLengths[dwallet.attestation.curve.number]? =
    some sent.publicUserSecretKeyShare.length

structure NamesReEncryptShare (P : Primitives) (dwallet : VerifiedDWalletAttestation)
    (sent : SentReEncryptShare) (attestation : EncryptedShareAttestation) : Prop where
  session : attestation.sessionIdentifier = sent.sessionIdentifier
  share : attestation.encryptedShareHash = P.keccak256 sent.encryptedShareAndProof
  key : attestation.encryptionKeyHash = P.keccak256 sent.encryptionKey
  holder : attestation.holder = ⟨.ed25519, sent.holderSignerPublicKey⟩
  binds : BindsDWallet P attestation.intendedChainSender attestation.dwalletPublicKey
    attestation.dwalletAttestationDigest dwallet

structure NamesFutureSign (P : Primitives) (sent : SentFutureSign)
    (attestation : PartialUserSignatureAttestation) : Prop where
  session : attestation.sessionIdentifier = sent.sessionIdentifier
  sender : attestation.intendedChainSender = sent.intendedChainSender
  dwallet : ∃ dwallet, P.parse versionedDWalletDataAttestationBcs
      sent.dwalletAttestation.attestationData = .ok dwallet ∧
    attestation.dwalletPublicKey = dwallet.publicKey
  dwalletHash : attestation.dwalletAttestationHash =
    P.keccak256 sent.dwalletAttestation.attestationData
  voucher : attestation.futureSignatureVoucher = sent.futureSignatureVoucher
  presign : ∃ presign, P.parse versionedPresignDataAttestationBcs
      sent.presignAttestation.attestationData = .ok presign ∧
    attestation.presignSessionIdentifier = presign.presignSessionIdentifier
  presignHash : attestation.presignAttestationHash =
    P.keccak256 sent.presignAttestation.attestationData
  digests : (attestation.messageDigest, attestation.messageMetadataDigest) =
    futureSignMessageDigests P sent.message sent.messageMetadata
  scheme : attestation.signatureScheme = sent.signatureScheme

structure NamesPublicShareDkg (P : Primitives) (cryptography : AnswerCryptography)
    (sent : SentPublicShareDkg) (attestation : DWalletAttestation) : Prop where
  session : attestation.sessionIdentifier = sent.sessionIdentifier
  sender : attestation.intendedChainSender = sent.intendedChainSender
  curve : attestation.curve.number = fromCurveToNumber sent.curve
  notImported : attestation.isImportedKey = false
  publicShare : attestation.holder = none ∧ attestation.encryptionKeyHash = none ∧
    attestation.encryptedShareHash = none
  output : cryptography.userAndNetworkDKGOutputMatch sent.curve sent.userPublicOutput
    attestation.publicOutput = .ok true
  publicKey : cryptography.publicKeyFromDWalletOutput (fromCurveToNumber sent.curve)
    attestation.publicOutput = .ok attestation.publicKey
  signs : attestation.signDuringDkgSignature.isNone = sent.signDuringDkg.isNone
  signature : ∀ sign ∈ sent.signDuringDkg, ∀ signature ∈ attestation.signDuringDkgSignature,
    verifySignatureWithScheme P cryptography (fromCurveToNumber sent.curve) sign.signatureScheme
      sign.message sign.messageMetadata attestation.publicOutput signature = .ok ()

/-- The attestation names what the request fixes of its answer. -/
def SentRequest.Names (P : Primitives) : (sent : SentRequest) → sent.kind.Attestation → Prop
  | presign sent, attestation => NamesPresign sent attestation
  | makeSharePublic dwallet sent, attestation => NamesMakeSharePublic P dwallet sent attestation
  | reEncryptShare dwallet sent, attestation => NamesReEncryptShare P dwallet sent attestation
  | futureSign sent, attestation => NamesFutureSign P sent attestation
  | publicShareDkg cryptography sent, attestation =>
    NamesPublicShareDkg P cryptography sent attestation

/-- A trusted signer signed the answer's bytes as the kind, they are exactly
that attestation, and the answer names the network key. -/
structure Answered (P : Primitives) (trusted : TrustedNetwork) (networkKeyId : Bytes)
    (kind : AttestationKind) (response : TransactionResponseData)
    (attestation : kind.Attestation) : Prop where
  answer : ∃ answer, response = .attestation answer ∧
    NamesNetworkKey ikaDeployedNetworks answer.networkPubkey networkKeyId trusted.network none ∧
    NetworkSigned P trusted.toTrustedNetworkKeys kind (recordOfAttestation answer) attestation

section Passed

variable {P : Primitives} {trusted : TrustedNetwork} {response : TransactionResponseData}

theorem attestationOfAnswer_ok {network : IkaNetwork} {networkKeyId : Bytes}
    {answer : NetworkSignedAttestation}
    (h : attestationOfAnswer response network networkKeyId = .ok answer) :
    response = .attestation answer ∧
      NamesNetworkKey ikaDeployedNetworks answer.networkPubkey networkKeyId network none := by
  cases response with
  | signature => cases h
  | error => cases h
  | attestation attestation =>
    obtain ⟨_, hkey, h⟩ := bind_ok h
    obtain rfl := Except.ok.inj h
    exact ⟨rfl, verifyAttestationNetworkKey_ok hkey⟩

theorem decodeV1_ok {kind : AttestationKind} {bytes : Bytes} {attestation : kind.Attestation}
    (h : decodeV1 P kind bytes = .ok attestation) : P.parse kind.bcs bytes = .ok attestation := by
  unfold decodeV1 at h
  split at h
  · next hparse => rw [hparse, Except.ok.inj h]
  · cases h

/-- An answer whose record was checked is signed as what it decodes to. -/
theorem answered_of_record {kind : AttestationKind} {answer : NetworkSignedAttestation}
    {networkKeyId : Bytes} {attestation : kind.Attestation} {u : Unit}
    (hanswer : attestationOfAnswer response trusted.network networkKeyId = .ok answer)
    (hrecord : verifyAttestationRecord P (recordOfAttestation answer)
      trusted.toTrustedNetworkKeys kind = .ok u)
    (hdecoded : decodeV1 P kind answer.attestationData = .ok attestation) :
    Answered P trusted networkKeyId kind response attestation := by
  obtain ⟨decoded, hverified, -⟩ := bind_ok hrecord
  have hsigned := (verifyAndDecode_ok hverified).1
  obtain rfl : decoded = attestation :=
    Except.ok.inj (hsigned.decodes.symm.trans (decodeV1_ok hdecoded))
  obtain ⟨hresponse, hkey⟩ := attestationOfAnswer_ok hanswer
  exact ⟨answer, hresponse, hkey, hsigned⟩

theorem verifyPresignAnswer_ok {sent : SentPresign} {attestation : PresignAttestation}
    (h : verifyPresignAnswer P response trusted sent = .ok attestation) :
    Answered P trusted sent.networkKeyId .presign response attestation ∧
      NamesPresign sent attestation := by
  obtain ⟨answer, hanswer, h⟩ := bind_ok h
  obtain ⟨_, hrecord, h⟩ := bind_ok h
  obtain ⟨decoded, hdecoded, h⟩ := bind_ok h
  obtain ⟨_, hsession, h⟩ := bind_ok h
  obtain ⟨_, hepoch, h⟩ := bind_ok h
  obtain ⟨_, hcurve, h⟩ := bind_ok h
  obtain ⟨_, halgorithm, h⟩ := bind_ok h
  obtain ⟨_, hdwallet, h⟩ := bind_ok h
  obtain rfl := Except.ok.inj h
  exact ⟨answered_of_record hanswer hrecord hdecoded, ensure_ok hsession, ensure_ok hepoch,
    ensure_ok hcurve, ensure_ok halgorithm, ensure_ok hdwallet⟩

theorem verifyMakeSharePublicAnswer_ok {dwallet : VerifiedDWalletAttestation}
    {sent : SentMakeSharePublic} {attestation : PublicShareAttestation}
    (h : verifyMakeSharePublicAnswer P response trusted dwallet sent = .ok attestation) :
    Answered P trusted sent.networkKeyId .publicShare response attestation ∧
      NamesMakeSharePublic P dwallet sent attestation := by
  obtain ⟨answer, hanswer, h⟩ := bind_ok h
  obtain ⟨share, hrecord, h⟩ := bind_ok h
  obtain ⟨_, hsession, h⟩ := bind_ok h
  obtain ⟨_, hshare, h⟩ := bind_ok h
  obtain rfl := Except.ok.inj h
  obtain ⟨hresponse, hkey⟩ := attestationOfAnswer_ok hanswer
  have hfor := verifyPublicShareAttestationRecord_ok hrecord
  refine ⟨⟨answer, hresponse, hkey, hfor.signed⟩, ensure_ok hsession, ensure_ok hshare,
    hfor.binds, ?_⟩
  rw [hfor.length, ensure_ok hshare]

theorem verifyReEncryptShareAnswer_ok {dwallet : VerifiedDWalletAttestation}
    {sent : SentReEncryptShare} {attestation : EncryptedShareAttestation}
    (h : verifyReEncryptShareAnswer P response trusted dwallet sent = .ok attestation) :
    Answered P trusted sent.networkKeyId .encryptedShare response attestation ∧
      NamesReEncryptShare P dwallet sent attestation := by
  obtain ⟨answer, hanswer, h⟩ := bind_ok h
  obtain ⟨share, hrecord, h⟩ := bind_ok h
  obtain ⟨_, hsession, h⟩ := bind_ok h
  obtain ⟨_, hshare, h⟩ := bind_ok h
  obtain ⟨_, hencryptionKey, h⟩ := bind_ok h
  obtain rfl := Except.ok.inj h
  obtain ⟨hresponse, hkey⟩ := attestationOfAnswer_ok hanswer
  have hfor := verifyEncryptedShareAttestationRecord_ok hrecord
  exact ⟨⟨answer, hresponse, hkey, hfor.signed⟩, ensure_ok hsession, ensure_ok hshare,
    ensure_ok hencryptionKey, hfor.holder, hfor.binds⟩

theorem verifyFutureSignAnswer_ok {sent : SentFutureSign}
    {attestation : PartialUserSignatureAttestation}
    (h : verifyFutureSignAnswer P response trusted sent = .ok attestation) :
    Answered P trusted sent.dwalletAttestation.networkPubkey .partialUserSignature response
        attestation ∧ NamesFutureSign P sent attestation := by
  obtain ⟨answer, hanswer, h⟩ := bind_ok h
  obtain ⟨_, hrecord, h⟩ := bind_ok h
  obtain ⟨decoded, hdecoded, h⟩ := bind_ok h
  obtain ⟨_, hsession, h⟩ := bind_ok h
  obtain ⟨_, hsender, h⟩ := bind_ok h
  obtain ⟨dwallet, hdwallet, h⟩ := bind_ok h
  obtain ⟨_, hkey, h⟩ := bind_ok h
  obtain ⟨_, hdwalletHash, h⟩ := bind_ok h
  obtain ⟨_, hvoucher, h⟩ := bind_ok h
  obtain ⟨presign, hpresign, h⟩ := bind_ok h
  obtain ⟨_, hreference, h⟩ := bind_ok h
  obtain ⟨_, hpresignHash, h⟩ := bind_ok h
  obtain ⟨_, hdigests, h⟩ := bind_ok h
  obtain ⟨_, hscheme, h⟩ := bind_ok h
  obtain rfl := Except.ok.inj h
  obtain ⟨hmessage, hmetadata⟩ := ensure_ok hdigests
  exact ⟨answered_of_record hanswer hrecord hdecoded, ensure_ok hsession, ensure_ok hsender,
    ⟨dwallet, decodeV1_ok hdwallet, ensure_ok hkey⟩, ensure_ok hdwalletHash, ensure_ok hvoucher,
    ⟨presign, decodeV1_ok hpresign, ensure_ok hreference⟩, ensure_ok hpresignHash,
    Prod.ext hmessage hmetadata, ensure_ok hscheme⟩

theorem verifyPublicShareDkgAnswer_ok {cryptography : AnswerCryptography}
    {sent : SentPublicShareDkg} {out : PublicShareDkgAnswer}
    (h : verifyPublicShareDkgAnswer P response trusted sent cryptography = .ok out) :
    ∃ attestation, Answered P trusted sent.networkKeyId .dwallet response attestation ∧
      NamesPublicShareDkg P cryptography sent attestation := by
  obtain ⟨answer, hanswer, h⟩ := bind_ok h
  obtain ⟨_, hrecord, h⟩ := bind_ok h
  obtain ⟨_, -, h⟩ := bind_ok h
  obtain ⟨decoded, hdecoded, h⟩ := bind_ok h
  obtain ⟨_, hsession, h⟩ := bind_ok h
  obtain ⟨_, hsender, h⟩ := bind_ok h
  obtain ⟨_, hcurve, h⟩ := bind_ok h
  obtain ⟨_, himported, h⟩ := bind_ok h
  obtain ⟨_, hholder, h⟩ := bind_ok h
  obtain ⟨outputsMatch, houtput, h⟩ := bind_ok h
  obtain ⟨_, hmatch, h⟩ := bind_ok h
  obtain ⟨keyOfOutput, hkeyOfOutput, h⟩ := bind_ok h
  obtain ⟨_, hpublicKey, h⟩ := bind_ok h
  obtain ⟨_, hsigns, h⟩ := bind_ok h
  obtain ⟨_, hsignature, -⟩ := bind_ok h
  refine ⟨decoded, answered_of_record hanswer hrecord hdecoded, ensure_ok hsession,
    ensure_ok hsender, ensure_ok hcurve, ensure_ok himported, ensure_ok hholder, ?_, ?_,
    ensure_ok hsigns, fun sign hsign signature hgiven => ?_⟩
  · rw [fromPackage_ok houtput, ensure_ok hmatch]
  · rw [fromPackage_ok hkeyOfOutput, ensure_ok hpublicKey]
  · rw [hsign, hgiven] at hsignature
    exact fromPackage_ok hsignature

/-- An answer that passes is signed by a trusted key as the request's kind, and
names all that the request sent. -/
theorem SentRequest.check_ok {sent : SentRequest} {u : Unit}
    (h : sent.check P trusted response = .ok u) : ∃ attestation : sent.kind.Attestation,
      Answered P trusted sent.networkKeyId sent.kind response attestation ∧
        sent.Names P attestation := by
  cases sent with
  | presign sent =>
    obtain ⟨attestation, hpass, -⟩ := bind_ok h
    exact ⟨attestation, verifyPresignAnswer_ok hpass⟩
  | makeSharePublic dwallet sent =>
    obtain ⟨attestation, hpass, -⟩ := bind_ok h
    exact ⟨attestation, verifyMakeSharePublicAnswer_ok hpass⟩
  | reEncryptShare dwallet sent =>
    obtain ⟨attestation, hpass, -⟩ := bind_ok h
    exact ⟨attestation, verifyReEncryptShareAnswer_ok hpass⟩
  | futureSign sent =>
    obtain ⟨attestation, hpass, -⟩ := bind_ok h
    exact ⟨attestation, verifyFutureSignAnswer_ok hpass⟩
  | publicShareDkg cryptography sent =>
    obtain ⟨_, hpass, -⟩ := bind_ok h
    exact verifyPublicShareDkgAnswer_ok hpass

end Passed

/-! ## One answer, one request -/

/-- The answer's own signature does not verify over both messages, unless they are one. -/
def SignsOne (P : Primitives) (answer : NetworkSignedAttestation) (message message' : Bytes) :
    Prop :=
  P.ed25519Verify answer.networkSignature message answer.signerNoaPublicKey = .ok true →
    P.ed25519Verify answer.networkSignature message' answer.signerNoaPublicKey = .ok true →
      message = message'

theorem attestationKindTag_injective : Function.Injective attestationKindTag := by
  intro kind kind' h
  cases kind <;> cases kind' <;> first | rfl | exact absurd h (by decide)

theorem attestationSigningMessage_inj {kind kind' : AttestationKind} {data data' : Bytes}
    (h : attestationSigningMessage kind data = attestationSigningMessage kind' data') :
    kind = kind' ∧ data = data' := by
  simp only [attestationSigningMessage, List.append_assoc] at h
  obtain ⟨htag, hdata⟩ := List.cons.inj (List.append_cancel_left h)
  exact ⟨attestationKindTag_injective htag, hdata⟩

/-- The session that an attestation names. -/
def AttestationKind.session : (kind : AttestationKind) → kind.Attestation → Bytes
  | dwallet, attestation => attestation.sessionIdentifier
  | presign, attestation => attestation.sessionIdentifier
  | partialUserSignature, attestation => attestation.sessionIdentifier
  | encryptedShare, attestation => attestation.sessionIdentifier
  | publicShare, attestation => attestation.sessionIdentifier

theorem SentRequest.Names.session_eq {P : Primitives} {sent : SentRequest}
    {attestation : sent.kind.Attestation} (h : sent.Names P attestation) :
    sent.kind.session attestation = sent.sessionIdentifier := by
  cases sent with
  | presign sent => exact NamesPresign.session h
  | makeSharePublic dwallet sent => exact NamesMakeSharePublic.session h
  | reEncryptShare dwallet sent => exact NamesReEncryptShare.session h
  | futureSign sent => exact NamesFutureSign.session h
  | publicShareDkg cryptography sent => exact NamesPublicShareDkg.session h

section Twice

variable {P : Primitives} {trusted trusted' : TrustedNetwork} {networkKeyId networkKeyId' : Bytes}
  {kind kind' : AttestationKind} {response : TransactionResponseData}
  {attestation : kind.Attestation} {attestation' : kind'.Attestation}

theorem Answered.networkKey_eq (h : Answered P trusted networkKeyId kind response attestation)
    (h' : Answered P trusted' networkKeyId' kind' response attestation') :
    networkKeyId = networkKeyId' := by
  obtain ⟨answer, rfl, hkey, -⟩ := h
  obtain ⟨answer', heq, hkey', -⟩ := h'
  obtain rfl := TransactionResponseData.attestation.inj heq
  exact hkey.expected.symm.trans hkey'.expected

/-- As one kind the bytes of an answer decode to one attestation. -/
theorem Answered.session_eq (hkind : kind = kind')
    (h : Answered P trusted networkKeyId kind response attestation)
    (h' : Answered P trusted' networkKeyId' kind' response attestation') :
    kind.session attestation = kind'.session attestation' := by
  subst hkind
  obtain ⟨answer, rfl, -, hsigned⟩ := h
  obtain ⟨answer', heq, -, hsigned'⟩ := h'
  obtain rfl := TransactionResponseData.attestation.inj heq
  obtain rfl := Except.ok.inj (hsigned.decodes.symm.trans hsigned'.decodes)
  rfl

theorem Answered.kind_eq (h : Answered P trusted networkKeyId kind response attestation)
    (h' : Answered P trusted' networkKeyId' kind' response attestation')
    (hone : ∀ answer, response = .attestation answer → SignsOne P answer
      (attestationSigningMessage kind answer.attestationData)
      (attestationSigningMessage kind' answer.attestationData)) : kind = kind' := by
  obtain ⟨answer, rfl, -, hsigned⟩ := h
  obtain ⟨answer', heq, -, hsigned'⟩ := h'
  obtain rfl := TransactionResponseData.attestation.inj heq
  -- both checks verify the answer's one signature, each over the message of its kind
  exact (attestationSigningMessage_inj
    (hone answer rfl hsigned.verifies hsigned'.verifies)).1

end Twice

/-- The check of an answer passes only for an attestation of the request's kind
that a trusted key signed and that names what was sent. No answer passes the
checks of two requests of different network keys, nor of one kind and different
sessions; nor of different kinds, where the answer's signature is not one for
both kinds' messages. -/
theorem answer_passes_one_request (P : Primitives) :
    (∀ (trusted : TrustedNetwork) (response : TransactionResponseData) (sent : SentRequest),
      sent.check P trusted response = .ok () → ∃ attestation : sent.kind.Attestation,
        Answered P trusted sent.networkKeyId sent.kind response attestation ∧
          sent.Names P attestation) ∧
    ∀ (trusted trusted' : TrustedNetwork) (response : TransactionResponseData)
      (sent sent' : SentRequest),
      sent.check P trusted response = .ok () → sent'.check P trusted' response = .ok () →
        sent.networkKeyId = sent'.networkKeyId ∧
        (sent.kind = sent'.kind → sent.sessionIdentifier = sent'.sessionIdentifier) ∧
        ((∀ answer, response = .attestation answer → SignsOne P answer
            (attestationSigningMessage sent.kind answer.attestationData)
            (attestationSigningMessage sent'.kind answer.attestationData)) →
          sent.kind = sent'.kind ∧ sent.sessionIdentifier = sent'.sessionIdentifier) := by
  refine ⟨fun trusted response sent h => SentRequest.check_ok h, ?_⟩
  intro trusted trusted' response sent sent' h h'
  obtain ⟨attestation, hanswered, hnames⟩ := SentRequest.check_ok h
  obtain ⟨attestation', hanswered', hnames'⟩ := SentRequest.check_ok h'
  have hsession : sent.kind = sent'.kind →
      sent.sessionIdentifier = sent'.sessionIdentifier := by
    intro hkind
    rw [← hnames.session_eq, ← hnames'.session_eq]
    exact hanswered.session_eq hkind hanswered'
  refine ⟨hanswered.networkKey_eq hanswered', hsession, fun hone => ?_⟩
  have hkind := hanswered.kind_eq hanswered' hone
  exact ⟨hkind, hsession hkind⟩

/-! ## A presign and its answer -/

/-- The 64 bytes that the message begins with. -/
def sampleSignature (message : Bytes) : Bytes := (message ++ List.replicate 64 0).take 64

/-- Primitives whose signatures tell two messages apart by their first 64 bytes. -/
def beginningPrimitives : Primitives :=
  { samplePrimitives with
    ed25519Verify := fun signature message _ => .ok (decide (signature = sampleSignature message)) }

def samplePresignAttestation : PresignAttestation where
  sessionIdentifier := List.replicate 32 1
  epoch := 3
  presignSessionIdentifier := [2]
  presignData := [3, 4]
  curve := .secp256k1
  signatureAlgorithm := .ecdsaSecp256k1
  dwalletPublicKey := none
  userPubkey := List.replicate 32 5

def samplePresignAnswer : TransactionResponseData :=
  let data := versionedPresignDataAttestationBcs.encode samplePresignAttestation
  .attestation ⟨data, sampleSignature (attestationSigningMessage .presign data),
    List.replicate 32 6, List.replicate 32 7⟩

def sampleTrustedNetwork : TrustedNetwork :=
  ⟨⟨[List.replicate 32 7]⟩, .custom [List.replicate 32 7]⟩

def sampleSentPresign : SentPresign :=
  ⟨List.replicate 32 1, 3, .secp256k1, .ecdsaSecp256k1, none, List.replicate 32 6⟩

theorem sampleSignature_kind {kind : AttestationKind} {data : Bytes}
    (h : sampleSignature (attestationSigningMessage .presign data) =
      sampleSignature (attestationSigningMessage kind data)) : kind = .presign := by
  -- the tag of the kind stands within the first 64 bytes
  have htag : ∀ kind, (sampleSignature (attestationSigningMessage kind data)).getD
      attestationSigningPrefix.length 0 = attestationKindTag kind := by
    intro kind
    have hprefix : attestationSigningPrefix.length = 16 := by decide +kernel
    simp [sampleSignature, attestationSigningMessage, hprefix]
  have hsame := htag .presign
  rw [h, htag kind] at hsame
  exact attestationKindTag_injective hsame

/-- The sample's answer passes its own check, and that of no other session. -/
theorem answer_passes_one_request_sample :
    (SentRequest.presign sampleSentPresign).check beginningPrimitives sampleTrustedNetwork
      samplePresignAnswer = .ok () ∧
    ∀ sent : SentRequest, sent.sessionIdentifier ≠ List.replicate 32 1 →
      sent.check beginningPrimitives sampleTrustedNetwork samplePresignAnswer ≠ .ok () := by
  have hpass : (SentRequest.presign sampleSentPresign).check beginningPrimitives
      sampleTrustedNetwork samplePresignAnswer = .ok () := by decide +kernel
  refine ⟨hpass, fun sent hdiffer h => hdiffer ?_⟩
  obtain ⟨-, -, hone⟩ := (answer_passes_one_request beginningPrimitives).2 sampleTrustedNetwork
    sampleTrustedNetwork samplePresignAnswer sent (.presign sampleSentPresign) h hpass
  refine (hone ?_).2
  rintro answer hanswer h₁ h₂
  obtain rfl := TransactionResponseData.attestation.inj hanswer
  have hkind : sampleSignature (attestationSigningMessage .presign
      (versionedPresignDataAttestationBcs.encode samplePresignAttestation)) =
      sampleSignature (attestationSigningMessage sent.kind
        (versionedPresignDataAttestationBcs.encode samplePresignAttestation)) :=
    of_decide_eq_true (Except.ok.inj h₁)
  rw [sampleSignature_kind hkind]
  rfl

end Ika
