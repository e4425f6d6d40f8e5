import IkaSdk.Core.Common.EngineOutcomes
import IkaSdk.Core.Common.ShareRequests
import IkaSdk.Core.Grpc.FutureSignCompletion
import IkaSdk.Core.Grpc.SignatureSchemes

/-! The completion of a future sign by the engine, and the scheme under which it checks the
signature that the network returns. -/

namespace Ika

open Wire Interaction Eff

/-! ## The call -/

/-- What step 1 returns and the completion takes. `attested` is a decoded copy of the
partial-signature attestation. -/
structure PartialSignature where
  partialUserSignatureAttestation : NetworkSignedAttestation
  dwalletAttestation : NetworkSignedAttestation
  message : Bytes
  messageMetadata : Bytes
  futureSignatureVoucher : Bytes
  attested : PartialUserSignatureAttestation
deriving DecidableEq, Repr

def PartialSignature.completion (given : PartialSignature) : SignWithPartialUserSigRequest where
  partialUserSignatureAttestation := given.partialUserSignatureAttestation
  dwalletAttestation := given.dwalletAttestation
  message := given.message
  messageMetadata := given.messageMetadata
  futureSignatureVoucher := given.futureSignatureVoucher

section Call

variable (P : Primitives) {H : Type} (network : Network) (trusted : TrustedNetwork)

/-- The checks before the completion is sent: the dWallet they verified, and the request. -/
def checkedCompletion (given : PartialSignature) :
    Except SdkError (DWalletAttestation × DWalletRequest) := do
  let _ ← verifyAttestation P given.partialUserSignatureAttestation .partialUserSignature
    network.networkKeyId trusted
  let verified : DWalletAttestation ←
    verifyAttestation P given.dwalletAttestation .dwallet network.networkKeyId trusted
  let request ← completeFutureSignRequest P given.completion
  return (verified, request)

def completeFutureSignature (cryptography : AnswerCryptography) (requester : Requester)
    (given : PartialSignature) (fuel : ℕ) : EngineEff Unit H Bytes := do
  let checked ← sdk (checkedCompletion P network trusted given)
  let answered ← submit P network requester (fun _ _ => return ⟨checked.2, ()⟩)
    (fun _ _ => return .futureSignCompletion given.futureSignatureVoucher) fuel
    rebuildsAfterEpochClose
  sdk (signatureFromResponseVerified P answered.1 cryptography checked.1.curve.number
    given.attested.signatureScheme.number given.message given.messageMetadata
    checked.1.publicOutput)

end Call

/-! ## What a returned signature is checked under -/

section Checked

variable {P : Primitives} {H : Type} {network : Network} {trusted : TrustedNetwork}
  {requester : Requester} {given : PartialSignature} {cryptography : AnswerCryptography}
  {fuel : ℕ} {signature : Bytes}

/-- The signature verifies under the output, the curve and the scheme that the signed
attestation bytes contain. -/
def SignedUnderAttested (P : Primitives) (trusted : TrustedNetwork)
    (cryptography : AnswerCryptography) (given : PartialSignature) (signature : Bytes) : Prop :=
  ∃ dwallet attested,
    NetworkSigned P trusted.toTrustedNetworkKeys .dwallet
      (recordOfAttestation given.dwalletAttestation) dwallet ∧
    NetworkSigned P trusted.toTrustedNetworkKeys .partialUserSignature
      (recordOfAttestation given.partialUserSignatureAttestation) attested ∧
    verifySignatureWithScheme P cryptography dwallet.curve.number attested.signatureScheme.number
      given.message given.messageMetadata dwallet.publicOutput signature = .ok ()

theorem verifyAttestation_ok {answer : NetworkSignedAttestation} {kind : AttestationKind}
    {networkKeyId : Bytes} {attestation : kind.Attestation}
    (h : verifyAttestation P answer kind networkKeyId trusted = .ok attestation) :
    NetworkSigned P trusted.toTrustedNetworkKeys kind (recordOfAttestation answer) attestation := by
  obtain ⟨_, -, h⟩ := bind_ok h
  exact (verifyAndDecode_ok h).1

theorem signatureFromResponseVerified_ok {response : TransactionResponseData} {curve scheme : ℕ}
    {message messageMetadata output : Bytes}
    (h : signatureFromResponseVerified P response cryptography curve scheme message messageMetadata
      output = .ok signature) :
    response = .signature signature ∧
      verifySignatureWithScheme P cryptography curve scheme message messageMetadata output
        signature = .ok () := by
  cases response with
  | error reason => cases h
  | attestation answer => cases h
  | signature found =>
    obtain ⟨_, hverified, h⟩ := bind_ok h
    obtain rfl := Except.ok.inj h
    exact ⟨rfl, fromPackage_ok hverified⟩

theorem checkedCompletion_ok {dwallet : DWalletAttestation} {request : DWalletRequest}
    (h : checkedCompletion P network trusted given = .ok (dwallet, request)) :
    ∃ attested,
      NetworkSigned P trusted.toTrustedNetworkKeys .partialUserSignature
        (recordOfAttestation given.partialUserSignatureAttestation) attested ∧
      NetworkSigned P trusted.toTrustedNetworkKeys .dwallet
        (recordOfAttestation given.dwalletAttestation) dwallet := by
  obtain ⟨attested, hattested, h⟩ := bind_ok h
  obtain ⟨verified, hverified, h⟩ := bind_ok h
  obtain ⟨built, -, h⟩ := bind_ok h
  cases h
  exact ⟨attested, verifyAttestation_ok hattested, verifyAttestation_ok hverified⟩

/-- Attestation bytes that are signed decode one way. -/
theorem NetworkSigned.unique {kind : AttestationKind} {trusted : TrustedNetworkKeys}
    {record : AttestationRecord} {attestation attestation' : kind.Attestation}
    (h : NetworkSigned P trusted kind record attestation)
    (h' : NetworkSigned P trusted kind record attestation') : attestation = attestation' :=
  Except.ok.inj (h.decodes.symm.trans h'.decodes)

theorem NetworkSigned.eq_of_encode {kind : AttestationKind} {trusted : TrustedNetworkKeys}
    {record : AttestationRecord} {attestation : kind.Attestation}
    (h : NetworkSigned P trusted kind record attestation) (attestation' : kind.Attestation)
    (hvalid : kind.bcs.valid attestation')
    (hdata : record.attestationData = kind.bcs.encode attestation') :
    attestation = attestation' := by
  have hparse := h.decodes
  rw [hdata, P.parse_encode _ _ hvalid] at hparse
  exact (Except.ok.inj hparse).symm

/-- A call that returns a signature checked it under the scheme of the decoded copy. -/
theorem canGive_completeFutureSignature
    (h : CanGive (completeFutureSignature (H := H) P network trusted cryptography requester given
      fuel) signature) :
    ∃ dwallet request, checkedCompletion P network trusted given = .ok (dwallet, request) ∧
      Signable P Unit H network requester request ∧
      verifySignatureWithScheme P cryptography dwallet.curve.number
        given.attested.signatureScheme.number given.message given.messageMetadata
        dwallet.publicOutput signature = .ok () := by
  obtain ⟨⟨dwallet, request⟩, hchecked, h⟩ := canGive_bind_iff.mp h
  obtain ⟨answered, hanswered, hlast⟩ := canGive_bind_iff.mp h
  exact ⟨dwallet, request, canGive_sdk_iff.mp hchecked, signable_of_submit hanswered,
    (signatureFromResponseVerified_ok (canGive_sdk_iff.mp hlast)).2⟩

/-- Every signature that verifies under the copy's scheme is returned by some run. -/
theorem canGive_completeFutureSignature_of {dwallet : DWalletAttestation}
    {request : DWalletRequest}
    (hchecked : checkedCompletion P network trusted given = .ok (dwallet, request))
    (hsignable : Signable P Unit H network requester request)
    (hverified : verifySignatureWithScheme P cryptography dwallet.curve.number
      given.attested.signatureScheme.number given.message given.messageMetadata
      dwallet.publicOutput signature = .ok ()) :
    CanGive (completeFutureSignature (H := H) P network trusted cryptography requester given 1)
      signature := by
  obtain ⟨epoch, preimage, signed, hsign⟩ := hsignable
  refine canGive_bind (canGive_sdk_iff.mpr hchecked) ?_
  refine canGive_bind (canGive_submit epoch preimage 0 _
    (canGive_pure_iff.mpr rfl) hsign (final_signature signature epoch)) ?_
  apply canGive_sdk_iff.mpr
  show fromPackage _ >>= _ = _
  rw [hverified]
  rfl

/-- The scheme of the decoded copy is the one in the signed bytes, where a signature can come
back at all: the checks pass, the completion can be signed, and the copy's scheme signs on the
dWallet's curve under the metadata. -/
def CopyNamesScheme (P : Primitives) (H : Type) (network : Network) (trusted : TrustedNetwork)
    (requester : Requester) (given : PartialSignature) : Prop :=
  ∀ dwallet request use attested,
    checkedCompletion P network trusted given = .ok (dwallet, request) →
    Signable P Unit H network requester request →
    schemeUse P given.attested.signatureScheme.number dwallet.curve.number
      given.messageMetadata = .ok use →
    P.parse versionedPartialUserSignatureAttestationBcs
      given.partialUserSignatureAttestation.attestationData = .ok attested →
    given.attested.signatureScheme = attested.signatureScheme

/-- A returned signature is checked under the scheme that the signed bytes contain exactly
where the decoded copy names that scheme. -/
theorem future_signature_under_attested_iff :
    (∀ cryptography fuel signature,
      CanGive (completeFutureSignature (H := H) P network trusted cryptography requester given
        fuel) signature → SignedUnderAttested P trusted cryptography given signature) ↔
      CopyNamesScheme P H network trusted requester given := by
  constructor
  · intro h dwallet request use attested hchecked hsignable huse hparse
    -- A cryptography that takes the copy's use only returns a signature of that use.
    have hverified : verifySignatureWithScheme P (onlyUse use) dwallet.curve.number
        given.attested.signatureScheme.number given.message given.messageMetadata
        dwallet.publicOutput [] = .ok () := by
      rw [verifySignatureWithScheme_eq, huse, ok_bind]
      exact verify_onlyUse_iff.mpr rfl
    obtain ⟨dwallet', attested', hdwallet, hattested, hunder⟩ :=
      h _ _ _ (canGive_completeFutureSignature_of hchecked hsignable hverified)
    obtain ⟨_, -, hsigned⟩ := checkedCompletion_ok hchecked
    obtain rfl := hsigned.unique hdwallet
    obtain rfl : attested' = attested :=
      Except.ok.inj (hattested.decodes.symm.trans hparse)
    rw [verifySignatureWithScheme_eq] at hunder
    obtain ⟨use', huse', honly⟩ := bind_ok hunder
    obtain rfl := verify_onlyUse_iff.mp honly
    exact useOf_scheme (schemeUse_iff.mp huse) (schemeUse_iff.mp huse')
  · intro h cryptography fuel signature hgives
    obtain ⟨dwallet, request, hchecked, hsignable, hverified⟩ :=
      canGive_completeFutureSignature hgives
    obtain ⟨attested, hattested, hdwallet⟩ := checkedCompletion_ok hchecked
    have hverify := hverified
    rw [verifySignatureWithScheme_eq] at hverify
    obtain ⟨use, huse, -⟩ := bind_ok hverify
    have hscheme := h dwallet request use attested hchecked hsignable huse hattested.decodes
    rw [hscheme] at hverified
    exact ⟨dwallet, attested, hdwallet, hattested, hverified⟩

end Checked

/-! ### A copy of another scheme -/

def sampleSecpDWallet : DWalletAttestation :=
  { sampleAttestation with curve := .secp256k1 }

def sampleSecpAttestation : NetworkSignedAttestation :=
  { sampleSign.dwalletAttestation with
    attestationData := versionedDWalletDataAttestationBcs.encode sampleSecpDWallet }

/-- Step 1's attestation, for a signature over the message's Keccak-256 hash. -/
def sampleKeccakAttestation : PartialUserSignatureAttestation :=
  { samplePartialAttestation with
    dwalletAttestationHash := hashPrimitives.keccak256 sampleSecpAttestation.attestationData
    signatureScheme := .ecdsaKeccak256 }

/-- The value that step 1 returned, its decoded copy changed to name another scheme. -/
def sampleCopied : PartialSignature where
  partialUserSignatureAttestation :=
    { samplePartialAnswer with
      attestationData :=
        versionedPartialUserSignatureAttestationBcs.encode sampleKeccakAttestation }
  dwalletAttestation := sampleSecpAttestation
  message := sampleStepOne.message
  messageMetadata := sampleStepOne.messageMetadata
  futureSignatureVoucher := sampleStepOne.futureSignatureVoucher
  attested := { sampleKeccakAttestation with signatureScheme := .ecdsaSha256 }

def sampleCompletionNetwork : Network where
  curveNumber := 0
  networkKeyId := List.replicate 32 7
  requestNetworkValue := 0
  requestRecords := true
  shares := false

def sampleCompleter : Requester where
  keypair := ⟨List.replicate 32 14, List.replicate 32 15⟩
  signer := false
  chain := .solana
  intendedChainSender := List.replicate 32 16

/-- A cryptography under which the SHA-256 signatures alone verify. -/
def sampleSha256Use : SchemeUse := .named .secp256k1 .ecdsaSecp256k1 .sha256 none

theorem checkedCompletion_sampleCopied :
    checkedCompletion hashPrimitives sampleCompletionNetwork sampleTrustedNetwork sampleCopied =
      .ok (sampleSecpDWallet, .signWithPartialUserSig sampleCopied.completion) := by
  decide +kernel

theorem signable_sampleCopied (H : Type) : Signable hashPrimitives Unit H sampleCompletionNetwork
    sampleCompleter (.signWithPartialUserSig sampleCopied.completion) := by
  have hsigned : (signRequestBytes hashPrimitives sampleCompleter.keypair
      (signedData sampleCompletionNetwork sampleCompleter 0 (List.replicate 32 0)
        (.signWithPartialUserSig sampleCopied.completion))).toOption.isSome := by
    decide +kernel
  cases hbytes : signRequestBytes hashPrimitives sampleCompleter.keypair
      (signedData sampleCompletionNetwork sampleCompleter 0 (List.replicate 32 0)
        (.signWithPartialUserSig sampleCopied.completion)) with
  | error e =>
    rw [hbytes] at hsigned
    cases hsigned
  | ok signed => exact signable_of rfl rfl hbytes

/-- A signature over the SHA-256 hash is returned for attestation bytes that name the
Keccak-256 hash, under which it does not verify. -/
theorem copied_scheme_returns_unattested : ∃ signature,
    CanGive (completeFutureSignature (H := Unit) hashPrimitives sampleCompletionNetwork
      sampleTrustedNetwork (onlyUse sampleSha256Use) sampleCompleter sampleCopied 1) signature ∧
    ¬SignedUnderAttested hashPrimitives sampleTrustedNetwork (onlyUse sampleSha256Use)
      sampleCopied signature := by
  refine ⟨[1], ?_, ?_⟩
  · apply canGive_completeFutureSignature_of checkedCompletion_sampleCopied
      (signable_sampleCopied Unit)
    decide +kernel
  · rintro ⟨dwallet, attested, hdwallet, hattested, hverified⟩
    obtain rfl := hdwallet.eq_of_encode sampleSecpDWallet (by decide +kernel) rfl
    obtain rfl := hattested.eq_of_encode sampleKeccakAttestation (by decide +kernel) rfl
    have hrefused : verifySignatureWithScheme hashPrimitives (onlyUse sampleSha256Use) 0 0
        sampleCopied.message sampleCopied.messageMetadata sampleSecpDWallet.publicOutput [1] =
          .error "the signature does not verify" := by decide +kernel
    cases hrefused.symm.trans hverified

end Ika
