import IkaSdk.Core.Grpc.AnswerReplay
import IkaSdk.Core.Grpc.Requests
import IkaSdk.Core.Grpc.UsableSoundness

/-! The two steps of a future sign. What the check of step 1's answer accepts is what the
completion is built from, and from nothing else. -/

namespace Ika

open Wire

/-! ## The completion -/

section Completion

variable (P : Primitives)

/-- The completion of a future sign; its variant is the one that the dWallet's attestation
names. -/
def completeFutureSignRequest (args : SignWithPartialUserSigRequest) :
    Except SdkError DWalletRequest := do
  requireVoucherAddress args.futureSignatureVoucher
  let attested ← fromPackage (P.parse versionedPartialUserSignatureAttestationBcs
    args.partialUserSignatureAttestation.attestationData)
  let dwallet ← fromPackage
    (P.parse versionedDWalletDataAttestationBcs args.dwalletAttestation.attestationData)
  ensure (attested.dwalletPublicKey = dwallet.publicKey ∧
      attested.futureSignatureVoucher = args.futureSignatureVoucher)
    (SdkError.error "the partial-signature attestation names another dWallet or another voucher")
  ensure (attested.dwalletAttestationHash = P.keccak256 args.dwalletAttestation.attestationData)
    (SdkError.error
      "the dWallet attestation is not the one the partial signature was made with")
  let digests := futureSignMessageDigests P args.message args.messageMetadata
  ensure (attested.messageDigest = digests.1 ∧ attested.messageMetadataDigest = digests.2)
    (SdkError.error
      "the message or its metadata is not the one the partial signature was made for")
  return if dwallet.isImportedKey then .importedKeySignWithPartialUserSig args
    else .signWithPartialUserSig args

end Completion

/-- What the check of step 1's answer is given about the request. -/
def sentFutureSign (request : FutureSignRequest) (sessionIdentifier intendedChainSender : Bytes) :
    SentFutureSign where
  sessionIdentifier
  intendedChainSender
  dwalletAttestation := request.dwalletAttestation
  presignAttestation := request.presignAttestation
  message := request.message
  messageMetadata := request.messageMetadata
  signatureScheme := request.signatureScheme
  futureSignatureVoucher := request.futureSignatureVoucher

/-- The completion's fields, of a request and of the attestation that answered it. -/
def completionOf (request : FutureSignRequest) (answer : NetworkSignedAttestation) :
    SignWithPartialUserSigRequest where
  partialUserSignatureAttestation := answer
  dwalletAttestation := request.dwalletAttestation
  message := request.message
  messageMetadata := request.messageMetadata
  futureSignatureVoucher := request.futureSignatureVoucher

/-! ## What the completion takes -/

variable {P : Primitives} {args : SignWithPartialUserSigRequest}

/-- The attestations name each other, the voucher, and the message with its metadata. -/
structure CompletionFits (P : Primitives) (args : SignWithPartialUserSigRequest)
    (attested : PartialUserSignatureAttestation) (dwallet : DWalletAttestation) : Prop where
  voucherLength : args.futureSignatureVoucher.length = 32
  attestedDecodes : P.parse versionedPartialUserSignatureAttestationBcs
    args.partialUserSignatureAttestation.attestationData = .ok attested
  dwalletDecodes : P.parse versionedDWalletDataAttestationBcs
    args.dwalletAttestation.attestationData = .ok dwallet
  publicKey : attested.dwalletPublicKey = dwallet.publicKey
  voucher : attested.futureSignatureVoucher = args.futureSignatureVoucher
  dwalletHash : attested.dwalletAttestationHash =
    P.keccak256 args.dwalletAttestation.attestationData
  digests : (attested.messageDigest, attested.messageMetadataDigest) =
    futureSignMessageDigests P args.message args.messageMetadata

theorem completeFutureSignRequest_ok {request : DWalletRequest}
    (h : completeFutureSignRequest P args = .ok request) :
    ∃ attested dwallet, CompletionFits P args attested dwallet := by
  obtain ⟨_, hlength, h⟩ := bind_ok h
  obtain ⟨attested, hattested, h⟩ := bind_ok h
  obtain ⟨dwallet, hdwallet, h⟩ := bind_ok h
  obtain ⟨_, hnames, h⟩ := bind_ok h
  obtain ⟨_, hhash, h⟩ := bind_ok h
  obtain ⟨_, hdigests, h⟩ := bind_ok h
  obtain ⟨hkey, hvoucher⟩ := ensure_ok hnames
  obtain ⟨hmessage, hmetadata⟩ := ensure_ok hdigests
  exact ⟨attested, dwallet, ensure_ok hlength, fromPackage_ok hattested, fromPackage_ok hdwallet,
    hkey, hvoucher, ensure_ok hhash, Prod.ext hmessage hmetadata⟩

theorem completeFutureSignRequest_of {attested : PartialUserSignatureAttestation}
    {dwallet : DWalletAttestation} (h : CompletionFits P args attested dwallet) :
    completeFutureSignRequest P args = .ok (if dwallet.isImportedKey then
      .importedKeySignWithPartialUserSig args else .signWithPartialUserSig args) := by
  have hdigests : attested.messageDigest =
      (futureSignMessageDigests P args.message args.messageMetadata).1 ∧
      attested.messageMetadataDigest =
        (futureSignMessageDigests P args.message args.messageMetadata).2 := by
    rw [← h.digests]
    exact ⟨rfl, rfl⟩
  unfold completeFutureSignRequest requireVoucherAddress
  rw [ensure_of h.voucherLength, ok_bind, h.attestedDecodes, fromPackage, ok_bind,
    h.dwalletDecodes, fromPackage, ok_bind, ensure_of ⟨h.publicKey, h.voucher⟩, ok_bind,
    ensure_of h.dwalletHash, ok_bind]
  dsimp only
  rw [ensure_of hdigests, ok_bind]
  rfl

/-! ## What the hashes show -/

/-- The bytes that a future sign hashes. -/
def hashedBytes (message messageMetadata dwalletAttestation : Bytes) : Set Bytes :=
  {message, messageMetadata, dwalletAttestation}

/-- No two of the bytes have one hash, and none has the hash of zeros. -/
structure HashesApart (P : Primitives) (bytes : Set Bytes) : Prop where
  injective : Set.InjOn P.keccak256 bytes
  notZero : ∀ b ∈ bytes, P.keccak256 b ≠ List.replicate 32 0

/-- Digests are of one message and one metadata. -/
theorem futureSignMessageDigests_inj {bytes : Set Bytes} (happart : HashesApart P bytes)
    {message message' metadata metadata' : Bytes} (hmessage : message ∈ bytes)
    (hmessage' : message' ∈ bytes) (hmetadata : metadata ∈ bytes) (hmetadata' : metadata' ∈ bytes)
    (h : futureSignMessageDigests P message metadata =
      futureSignMessageDigests P message' metadata') :
    message = message' ∧ metadata = metadata' := by
  obtain ⟨hfirst, hsecond⟩ := Prod.mk.inj h
  refine ⟨happart.injective hmessage hmessage' hfirst, ?_⟩
  split_ifs at hsecond with hnone hnone' hnone'
  · rw [List.length_eq_zero_iff.mp hnone, List.length_eq_zero_iff.mp hnone']
  · exact absurd hsecond.symm (happart.notZero _ hmetadata')
  · exact absurd hsecond (happart.notZero _ hmetadata)
  · exact happart.injective hmetadata hmetadata' hsecond

/-- Two completions with one partial-signature attestation are of the same bytes. -/
theorem CompletionFits.same {args' : SignWithPartialUserSigRequest}
    {attested attested' : PartialUserSignatureAttestation} {dwallet dwallet' : DWalletAttestation}
    (h : CompletionFits P args attested dwallet) (h' : CompletionFits P args' attested' dwallet')
    (hsame : args.partialUserSignatureAttestation = args'.partialUserSignatureAttestation)
    (happart : HashesApart P
      (hashedBytes args.message args.messageMetadata args.dwalletAttestation.attestationData ∪
        hashedBytes args'.message args'.messageMetadata args'.dwalletAttestation.attestationData)) :
    args.message = args'.message ∧ args.messageMetadata = args'.messageMetadata ∧
      args.futureSignatureVoucher = args'.futureSignatureVoucher ∧
      args.dwalletAttestation.attestationData = args'.dwalletAttestation.attestationData := by
  obtain rfl : attested = attested' := by
    apply Except.ok.inj
    rw [← h.attestedDecodes, ← h'.attestedDecodes, hsame]
  have hdigests := h.digests.symm.trans h'.digests
  have hhash := h.dwalletHash.symm.trans h'.dwalletHash
  obtain ⟨hmessage, hmetadata⟩ := futureSignMessageDigests_inj happart
    (by simp [hashedBytes]) (by simp [hashedBytes]) (by simp [hashedBytes])
    (by simp [hashedBytes]) hdigests
  refine ⟨hmessage, hmetadata, h.voucher.symm.trans h'.voucher, ?_⟩
  exact happart.injective (by simp [hashedBytes]) (by simp [hashedBytes]) hhash

/-! ## The two steps fit -/

/-- The answer that passes step 1's check builds the completion. -/
theorem completionFits_of_answer {request : FutureSignRequest}
    {response : TransactionResponseData} {trusted : TrustedNetwork} {session sender : Bytes}
    {attested : PartialUserSignatureAttestation}
    (hvoucher : request.futureSignatureVoucher.length = 32)
    (h : verifyFutureSignAnswer P response trusted (sentFutureSign request session sender) =
      .ok attested) :
    ∃ answer dwallet, response = .attestation answer ∧
      CompletionFits P (completionOf request answer) attested dwallet := by
  obtain ⟨hanswered, hnames⟩ := verifyFutureSignAnswer_ok h
  obtain ⟨answer, hresponse, -, hsigned⟩ := hanswered.answer
  obtain ⟨dwallet, hdwallet, hkey⟩ := hnames.dwallet
  exact ⟨answer, dwallet, hresponse, hvoucher, hsigned.decodes, hdwallet, hkey, hnames.voucher,
    hnames.dwalletHash, hnames.digests⟩

/-- A completion names other bytes than the request of step 1: another message, metadata,
voucher or dWallet attestation. -/
def DiffersFrom (request : FutureSignRequest) (args : SignWithPartialUserSigRequest) : Prop :=
  args.message ≠ request.message ∨ args.messageMetadata ≠ request.messageMetadata ∨
    args.futureSignatureVoucher ≠ request.futureSignatureVoucher ∨
    args.dwalletAttestation.attestationData ≠ request.dwalletAttestation.attestationData

/-- The bytes that step 1 and a completion hash. -/
def hashedByBoth (request : FutureSignRequest) (args : SignWithPartialUserSigRequest) : Set Bytes :=
  hashedBytes request.message request.messageMetadata request.dwalletAttestation.attestationData ∪
    hashedBytes args.message args.messageMetadata args.dwalletAttestation.attestationData

/-- The answer that step 1's check accepts builds the completion of the request, of the
variant that the dWallet's attestation names, and no completion of other bytes. -/
theorem future_sign_steps_fit {issued : List IssuedState} {now : ℤ} {stepOne : FutureSignArgs}
    {request : FutureSignRequest} {response : TransactionResponseData} {trusted : TrustedNetwork}
    {session sender : Bytes} {attested : PartialUserSignatureAttestation}
    (hrequest : futureSignRequest P issued now stepOne = .ok (.futureSign request))
    (hanswer : verifyFutureSignAnswer P response trusted (sentFutureSign request session sender) =
      .ok attested) :
    ∃ answer dwallet, response = .attestation answer ∧
      P.parse versionedDWalletDataAttestationBcs request.dwalletAttestation.attestationData =
        .ok dwallet ∧
      completeFutureSignRequest P (completionOf request answer) = .ok (if dwallet.isImportedKey
        then .importedKeySignWithPartialUserSig (completionOf request answer)
        else .signWithPartialUserSig (completionOf request answer)) ∧
      ∀ args, args.partialUserSignatureAttestation = answer → DiffersFrom request args →
        HashesApart P (hashedByBoth request args) →
          ∃ e, completeFutureSignRequest P args = .error e := by
  obtain ⟨state, stepOneRequest, -, hsame, hnames⟩ := futureSignRequest_names hrequest
  obtain rfl := DWalletRequest.futureSign.inj hsame
  obtain ⟨answer, dwallet, hresponse, hfits⟩ :=
    completionFits_of_answer hnames.voucherLength hanswer
  refine ⟨answer, dwallet, hresponse, hfits.dwalletDecodes, completeFutureSignRequest_of hfits, ?_⟩
  intro args hpartial hdiffers happart
  cases hcompleted : completeFutureSignRequest P args with
  | error e => exact ⟨e, rfl⟩
  | ok completed =>
    obtain ⟨attested', dwallet', hfits'⟩ := completeFutureSignRequest_ok hcompleted
    obtain ⟨hmessage, hmetadata, hvoucher, hdata⟩ := hfits.same hfits' hpartial.symm happart
    rcases hdiffers with hother | hother | hother | hother
    · exact absurd hmessage.symm hother
    · exact absurd hmetadata.symm hother
    · exact absurd hvoucher.symm hother
    · exact absurd hdata.symm hother

/-! ### A future sign -/

/-- The sample primitives, with a hash that is never of zeros. -/
def hashPrimitives : Primitives :=
  { samplePrimitives with
    keccak256 := fun bytes => 1 :: (bytes ++ List.replicate 31 0).take 31
    keccak256_length := fun bytes => by simp }

def sampleStepOneState : IssuedState where
  chain := .solana
  address := List.replicate 32 9
  curve := 2
  publicKey := sampleAttestation.publicKey
  importedSessionIdentifier := none
  holder := List.replicate 32 4
  share := .encrypted
  migrated := false
  waiting := false
  publicOutput := sampleAttestation.publicOutput
  attestation := sampleSign.dwalletAttestation
  verifiedAt := 0

def sampleStepOnePresign : PresignAttestation :=
  { samplePresignAttestation with curve := .curve25519, signatureAlgorithm := .eddsa }

def sampleStepOne : FutureSignArgs where
  usable := .issued 0
  presignAttestation := ⟨versionedPresignDataAttestationBcs.encode sampleStepOnePresign,
    List.replicate 64 8, List.replicate 32 7, List.replicate 32 7⟩
  message := [1, 2, 3]
  messageMetadata := []
  messageCentralizedSignature := [4, 5]
  signatureScheme := .eddsaSha512
  futureSignatureVoucher := List.replicate 32 13
  requesterPublicKey := List.replicate 32 5
  trustedNetworkKeys := sampleTrustedNetwork

def sampleStepOneRequest : FutureSignRequest where
  dwalletPublicKey := sampleAttestation.publicKey
  dwalletAttestation := sampleSign.dwalletAttestation
  presignAttestation := sampleStepOne.presignAttestation
  message := sampleStepOne.message
  messageMetadata := sampleStepOne.messageMetadata
  messageCentralizedSignature := sampleStepOne.messageCentralizedSignature
  signatureScheme := sampleStepOne.signatureScheme
  futureSignatureVoucher := sampleStepOne.futureSignatureVoucher

def samplePartialAttestation : PartialUserSignatureAttestation where
  sessionIdentifier := List.replicate 32 1
  intendedChainSender := List.replicate 32 2
  dwalletPublicKey := sampleAttestation.publicKey
  dwalletAttestationHash :=
    hashPrimitives.keccak256 sampleSign.dwalletAttestation.attestationData
  futureSignatureVoucher := sampleStepOne.futureSignatureVoucher
  presignSessionIdentifier := sampleStepOnePresign.presignSessionIdentifier
  presignAttestationHash :=
    hashPrimitives.keccak256 sampleStepOne.presignAttestation.attestationData
  messageDigest := hashPrimitives.keccak256 sampleStepOne.message
  messageMetadataDigest := List.replicate 32 0
  signatureScheme := .eddsaSha512
  verifiedSignData := [6]

def samplePartialAnswer : NetworkSignedAttestation :=
  ⟨versionedPartialUserSignatureAttestationBcs.encode samplePartialAttestation,
    List.replicate 64 8, List.replicate 32 7, List.replicate 32 7⟩

theorem sampleStepOne_built :
    futureSignRequest hashPrimitives [sampleStepOneState] 0 sampleStepOne =
      .ok (.futureSign sampleStepOneRequest) := by
  decide +kernel

theorem samplePartialAnswer_accepted :
    verifyFutureSignAnswer hashPrimitives (.attestation samplePartialAnswer)
      sampleTrustedNetwork (sentFutureSign sampleStepOneRequest (List.replicate 32 1)
        (List.replicate 32 2)) = .ok samplePartialAttestation := by
  decide +kernel

/-- A completion of another message. -/
def sampleOtherMessage : SignWithPartialUserSigRequest :=
  { completionOf sampleStepOneRequest samplePartialAnswer with message := [9] }

/-- A completion with another network signature over the dWallet's attestation. -/
def sampleOtherSignature : SignWithPartialUserSigRequest :=
  { completionOf sampleStepOneRequest samplePartialAnswer with
    dwalletAttestation :=
      { sampleSign.dwalletAttestation with networkSignature := List.replicate 64 9 } }

theorem hashesApart_of (bytes : List Bytes)
    (h : ∀ b ∈ bytes, hashPrimitives.keccak256 b ≠ List.replicate 32 0 ∧
      ∀ b' ∈ bytes, hashPrimitives.keccak256 b = hashPrimitives.keccak256 b' → b = b')
    {set : Set Bytes} (hset : ∀ b ∈ set, b ∈ bytes) : HashesApart hashPrimitives set :=
  ⟨fun b hb b' hb' => (h b (hset b hb)).2 b' (hset b' hb'), fun b hb => (h b (hset b hb)).1⟩

theorem future_sign_steps_fit_sample :
    completeFutureSignRequest hashPrimitives
      (completionOf sampleStepOneRequest samplePartialAnswer) =
        .ok (.signWithPartialUserSig (completionOf sampleStepOneRequest samplePartialAnswer)) ∧
    ∃ e, completeFutureSignRequest hashPrimitives sampleOtherMessage = .error e := by
  obtain ⟨answer, dwallet, hresponse, hdwallet, hcompleted, hrefused⟩ :=
    future_sign_steps_fit sampleStepOne_built samplePartialAnswer_accepted
  cases hresponse
  have hparsed : hashPrimitives.parse versionedDWalletDataAttestationBcs
      sampleStepOneRequest.dwalletAttestation.attestationData = .ok sampleAttestation := by
    decide +kernel
  obtain rfl : dwallet = sampleAttestation := Except.ok.inj (hdwallet.symm.trans hparsed)
  refine ⟨hcompleted, hrefused sampleOtherMessage rfl (.inl (by decide)) ?_⟩
  apply hashesApart_of [[1, 2, 3], [9], [], sampleSign.dwalletAttestation.attestationData]
  · decide +kernel
  · simp [hashedByBoth, hashedBytes, sampleStepOneRequest, sampleStepOne, sampleOtherMessage,
      completionOf]

/-- The completion does not read who signed the dWallet's attestation: another signature
beside the same bytes is not refused. -/
theorem completion_takes_another_signature :
    futureSignRequest hashPrimitives [sampleStepOneState] 0 sampleStepOne =
      .ok (.futureSign sampleStepOneRequest) ∧
    verifyFutureSignAnswer hashPrimitives (.attestation samplePartialAnswer)
      sampleTrustedNetwork (sentFutureSign sampleStepOneRequest (List.replicate 32 1)
        (List.replicate 32 2)) = .ok samplePartialAttestation ∧
    sampleOtherSignature.partialUserSignatureAttestation = samplePartialAnswer ∧
    sampleOtherSignature.dwalletAttestation ≠ sampleStepOneRequest.dwalletAttestation ∧
    HashesApart hashPrimitives (hashedByBoth sampleStepOneRequest sampleOtherSignature) ∧
    completeFutureSignRequest hashPrimitives sampleOtherSignature =
      .ok (.signWithPartialUserSig sampleOtherSignature) := by
  refine ⟨sampleStepOne_built, samplePartialAnswer_accepted, rfl, by decide +kernel, ?_,
    by decide +kernel⟩
  apply hashesApart_of [[1, 2, 3], [], sampleSign.dwalletAttestation.attestationData]
  · decide +kernel
  · simp [hashedByBoth, hashedBytes, sampleStepOneRequest, sampleStepOne, sampleOtherSignature,
      completionOf]

end Ika
