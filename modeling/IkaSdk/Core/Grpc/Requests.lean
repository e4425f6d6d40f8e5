import IkaSdk.Core.Grpc.AnswerChecks

/-! The builders of the requests that an earlier check of the dWallet's
ownership is behind: they read the dWallet from what the check verified, and
keep the holder of a result that waits for the request they return. -/

namespace Ika

open Wire

/-- A request that a builder returned, with the holder kept for it if the result
it was built from says `waiting`. -/
structure RequestOfResult where
  request : DWalletRequest
  waitingHolder : Option Bytes
deriving DecidableEq, Repr

def requestOfResult (state : IssuedState) (request : DWalletRequest) : RequestOfResult :=
  ⟨request, if state.waiting then some state.holder else none⟩

/-- What the ownership check verified for a result that is not too old. -/
def checkedStateOf (issued : List IssuedState) (now : ℤ) (usable : UsableObject) :
    Except SdkError IssuedState :=
  match issuedGet issued usable with
  | none => .error (.dwalletUsabilityNotChecked
      "the usability result was not made by assertDWalletUsable; run the check and pass its result")
  | some state => do
    requireUsableAge (now - state.verifiedAt)
    return state

/-- The attestation the check verified, as a request carries it. -/
def requestAttestation (state : IssuedState) : NetworkSignedAttestation := state.attestation

def makeSharePublicRequest (issued : List IssuedState) (now : ℤ) (usable : UsableObject)
    (publicUserSecretKeyShare : Bytes) : Except SdkError RequestOfResult := do
  let state ← checkedStateOf issued now usable
  ensure (state.share ≠ .publicShare) (SdkError.error
    ("the dWallet's share is already public: its public share record is on the chain, so " ++
      "there is nothing to make public"))
  let expected := publicShareLengths[state.curve]?
  let expectedText := (expected.map toString).getD "undefined"
  ensure (expected = some publicUserSecretKeyShare.length) (SdkError.error
    (s!"the user's secret share is {publicUserSecretKeyShare.length} bytes, and a public share " ++
      s!"of curve {state.curve} is exactly {expectedText} bytes"))
  return requestOfResult state (.makeSharePublic {
    dwalletPublicKey := state.publicKey
    dwalletAttestation := requestAttestation state
    publicUserSecretKeyShare })

/-- A holder's registry entry, as far as the builder reads it. -/
structure HolderEncryptionKeyEntry where
  signerPublicKey : Bytes
  curve : ℕ
  encryptionKey : Bytes
deriving DecidableEq, Repr

def networkKeyIdFromBytes (bytes : Bytes) : Except SdkError Bytes :=
  if bytes.length ≠ 32 then .error (.error s!"a NetworkKeyId is 32 bytes, got {bytes.length}")
  else .ok bytes

structure ReEncryptShareArgs where
  usable : UsableObject
  encryptedShareAndProof : Bytes
  newHolderSignerPublicKey : Bytes
  newHolderEntry : HolderEncryptionKeyEntry

def reEncryptShareRequest (issued : List IssuedState) (now : ℤ) (args : ReEncryptShareArgs) :
    Except SdkError RequestOfResult := do
  ensure (args.newHolderSignerPublicKey.length = 32) (SdkError.error
    ("the new holder's signer public key must be 32 bytes, an Ed25519 public key; got " ++
      s!"{args.newHolderSignerPublicKey.length}"))
  let state ← checkedStateOf issued now args.usable
  ensure (state.share ≠ .publicShare) (SdkError.error
    ("the dWallet's share is public, so it has no encrypted share to re-encrypt to a new " ++
      "holder"))
  ensure (state.migrated = false) (SdkError.error
    ("the dWallet was migrated from the classic contracts, and its share has no record in the " ++
      "new contracts, so the network cannot read a share to re-encrypt"))
  ensure (args.newHolderEntry.signerPublicKey = args.newHolderSignerPublicKey)
    (SdkError.error "the registry entry is another holder's, not the new holder's")
  ensure (args.newHolderEntry.curve = state.curve) (SdkError.error
    (s!"the registry entry is for curve {args.newHolderEntry.curve}, not the dWallet's curve " ++
      s!"{state.curve}"))
  let networkKeyId ← networkKeyIdFromBytes state.attestation.networkPubkey
  return requestOfResult state (.reEncryptShare {
    networkKeyId
    dwalletPublicKey := state.publicKey
    dwalletAttestation := requestAttestation state
    encryptedCentralizedSecretShareAndProof := args.encryptedShareAndProof
    encryptionKey := args.newHolderEntry.encryptionKey
    holder := ⟨.ed25519, args.newHolderSignerPublicKey⟩
    sourceHolder := ⟨.ed25519, state.holder⟩ })

/-! ## Step 1 of a future sign -/

def DWalletCurve.name : DWalletCurve → String
  | secp256k1 => "Secp256k1"
  | secp256r1 => "Secp256r1"
  | curve25519 => "Curve25519"
  | ristretto => "Ristretto"

def DWalletSignatureAlgorithm.name : DWalletSignatureAlgorithm → String
  | ecdsaSecp256k1 => "ECDSASecp256k1"
  | ecdsaSecp256r1 => "ECDSASecp256r1"
  | taproot => "Taproot"
  | eddsa => "EdDSA"
  | schnorrkel => "Schnorrkel"
  | taprootVss => "TaprootVSS"
  | eddsaVss => "EdDSAVSS"
  | schnorrkelVss => "SchnorrkelVSS"

/-- The base algorithm that a scheme runs on a curve it signs on. -/
def baseAlgorithm : DWalletSignatureScheme → DWalletCurve → Option DWalletSignatureAlgorithm
  | .ecdsaKeccak256, .secp256k1 => some .ecdsaSecp256k1
  | .ecdsaSha256, .secp256k1 => some .ecdsaSecp256k1
  | .ecdsaSha256, .secp256r1 => some .ecdsaSecp256r1
  | .ecdsaDoubleSha256, .secp256k1 => some .ecdsaSecp256k1
  | .taprootSha256, .secp256k1 => some .taproot
  | .ecdsaBlake2b256, .secp256k1 => some .ecdsaSecp256k1
  | .eddsaSha512, .curve25519 => some .eddsa
  | .schnorrkelMerlin, .ristretto => some .schnorrkel
  | _, _ => none

def requireVoucherAddress (futureSignatureVoucher : Bytes) : Except SdkError Unit :=
  ensure (futureSignatureVoucher.length = 32) (.error
    (s!"the future signature voucher's address must be 32 bytes; got " ++
      s!"{futureSignatureVoucher.length}"))

structure FutureSignArgs where
  usable : UsableObject
  presignAttestation : NetworkSignedAttestation
  message : Bytes
  messageMetadata : Bytes
  messageCentralizedSignature : Bytes
  signatureScheme : DWalletSignatureScheme
  futureSignatureVoucher : Bytes
  requesterPublicKey : Bytes
  trustedNetworkKeys : TrustedNetwork

section FutureSign

variable (P : Primitives)

/-- The presign of an attestation that names the dWallet's network key and that
a trusted key signed. -/
def trustedPresign (presignAttestation : NetworkSignedAttestation)
    (dwalletNetworkPublicKey : Bytes) (trusted : TrustedNetwork) :
    Except SdkError PresignAttestation := do
  verifyAttestationNetworkKey presignAttestation.networkPubkey dwalletNetworkPublicKey
    trusted.network none
  verifyAttestationRecord P (recordOfAttestation presignAttestation) trusted.toTrustedNetworkKeys
    .presign
  fromPackage (P.parse versionedPresignDataAttestationBcs presignAttestation.attestationData)

def requirePresignOfRequester (presign : PresignAttestation) (requesterPublicKey : Bytes)
    (what : String) : Except SdkError Unit :=
  ensure (presign.userPubkey = requesterPublicKey) (.error
    s!"only the presign's own requester may {what}, and this requester is another key")

/-- An imported dWallet's ECDSA step 1 takes a presign made for that dWallet, and
every other step 1 a global one. -/
def bindingFits (dwallet : DWalletAttestation) (algorithm : DWalletSignatureAlgorithm)
    (boundTo : Option Bytes) (publicKey : Bytes) : Bool :=
  if dwallet.isImportedKey ∧ (algorithm = .ecdsaSecp256k1 ∨ algorithm = .ecdsaSecp256r1) then
    boundTo = some publicKey
  else boundTo.isNone

def futureSignRequest (issued : List IssuedState) (now : ℤ) (args : FutureSignArgs) :
    Except SdkError DWalletRequest := do
  requireVoucherAddress args.futureSignatureVoucher
  ensure (args.messageCentralizedSignature.length ≠ 0) (SdkError.error
    "the partial signature (message_centralized_signature) must not be empty")
  let state ← checkedStateOf issued now args.usable
  ensure (state.waiting = false) (SdkError.dwalletUsabilityNotChecked waitingResultBuildsNoSign)
  let presign ← trustedPresign P args.presignAttestation state.attestation.networkPubkey
    args.trustedNetworkKeys
  requirePresignOfRequester presign args.requesterPublicKey "use it for step 1 of a future sign"
  let curve := curves[state.curve]?
  let curveText := (curve.map DWalletCurve.name).getD "undefined"
  match curve.bind (baseAlgorithm args.signatureScheme) with
  | none => .error (.error
      s!"the scheme {args.signatureScheme.name} does not sign on the dWallet's curve {curveText}")
  | some algorithm =>
    ensure (some presign.curve = curve) (SdkError.error
      s!"the presign is on curve {presign.curve.name}, not the dWallet's curve {curveText}")
    ensure (presign.signatureAlgorithm = algorithm) (SdkError.error
      (s!"the presign is for {presign.signatureAlgorithm.name}, not the scheme's " ++
        s!"algorithm {algorithm.name}"))
    let dwallet ← fromPackage
      (P.parse versionedDWalletDataAttestationBcs state.attestation.attestationData)
    ensure (bindingFits dwallet algorithm presign.dwalletPublicKey state.publicKey)
      (SdkError.error
        ("an imported dWallet's ECDSA future sign needs a presign made for that dWallet, and " ++
          "every other future sign a global presign"))
    requireMessageMetadataOfScheme P args.signatureScheme args.messageMetadata
    return .futureSign {
      dwalletPublicKey := state.publicKey
      dwalletAttestation := requestAttestation state
      presignAttestation := args.presignAttestation
      message := args.message
      messageMetadata := args.messageMetadata
      messageCentralizedSignature := args.messageCentralizedSignature
      signatureScheme := args.signatureScheme
      futureSignatureVoucher := args.futureSignatureVoucher }

end FutureSign

/-! ## What the builders keep -/

variable {P : Primitives} {issued : List IssuedState} {now : ℤ}

theorem checkedStateOf_ok {usable : UsableObject} {state : IssuedState}
    (h : checkedStateOf issued now usable = .ok state) : issuedGet issued usable = some state := by
  unfold checkedStateOf at h
  split at h
  · cases h
  · next found hfound =>
    obtain ⟨_, -, hlast⟩ := bind_ok h
    rw [hfound, Except.ok.inj hlast]

/-- A make-public request names the dWallet of the checked state. -/
theorem makeSharePublicRequest_names {usable : UsableObject} {share : Bytes}
    {built : RequestOfResult} (h : makeSharePublicRequest issued now usable share = .ok built) :
    ∃ state, issuedGet issued usable = some state ∧ built =
      requestOfResult state (.makeSharePublic ⟨state.publicKey, state.attestation, share⟩) := by
  obtain ⟨state, hstate, h⟩ := bind_ok h
  obtain ⟨_, -, h⟩ := bind_ok h
  obtain ⟨_, -, h⟩ := bind_ok h
  obtain rfl := Except.ok.inj h
  exact ⟨state, checkedStateOf_ok hstate, rfl⟩

theorem makeSharePublicRequest_ok {usable : UsableObject} {share : Bytes} {built : RequestOfResult}
    (h : makeSharePublicRequest issued now usable share = .ok built) :
    ∃ state request, issuedGet issued usable = some state ∧
      built = requestOfResult state request := by
  obtain ⟨state, hstate, hbuilt⟩ := makeSharePublicRequest_names h
  exact ⟨state, _, hstate, hbuilt⟩

theorem networkKeyIdFromBytes_ok {bytes networkKeyId : Bytes}
    (h : networkKeyIdFromBytes bytes = .ok networkKeyId) : networkKeyId = bytes := by
  unfold networkKeyIdFromBytes at h
  split_ifs at h
  exact (Except.ok.inj h).symm

/-- A re-encryption request names the dWallet of the checked state, and the key it is under. -/
theorem reEncryptShareRequest_names {args : ReEncryptShareArgs} {built : RequestOfResult}
    (h : reEncryptShareRequest issued now args = .ok built) :
    ∃ state, issuedGet issued args.usable = some state ∧
      built = requestOfResult state (.reEncryptShare {
        networkKeyId := state.attestation.networkPubkey
        dwalletPublicKey := state.publicKey
        dwalletAttestation := state.attestation
        encryptedCentralizedSecretShareAndProof := args.encryptedShareAndProof
        encryptionKey := args.newHolderEntry.encryptionKey
        holder := ⟨.ed25519, args.newHolderSignerPublicKey⟩
        sourceHolder := ⟨.ed25519, state.holder⟩ }) := by
  obtain ⟨_, -, h⟩ := bind_ok h
  obtain ⟨state, hstate, h⟩ := bind_ok h
  obtain ⟨_, -, h⟩ := bind_ok h
  obtain ⟨_, -, h⟩ := bind_ok h
  obtain ⟨_, -, h⟩ := bind_ok h
  obtain ⟨_, -, h⟩ := bind_ok h
  obtain ⟨networkKeyId, hkey, h⟩ := bind_ok h
  obtain rfl := Except.ok.inj h
  obtain rfl := networkKeyIdFromBytes_ok hkey
  exact ⟨state, checkedStateOf_ok hstate, rfl⟩

theorem reEncryptShareRequest_ok {args : ReEncryptShareArgs} {built : RequestOfResult}
    (h : reEncryptShareRequest issued now args = .ok built) : ∃ state request,
      issuedGet issued args.usable = some state ∧ built = requestOfResult state request := by
  obtain ⟨state, hstate, hbuilt⟩ := reEncryptShareRequest_names h
  exact ⟨state, _, hstate, hbuilt⟩

/-- What step 1 of a future sign names, of a checked state and of its arguments. -/
structure StepOneNames (args : FutureSignArgs) (state : IssuedState)
    (request : FutureSignRequest) : Prop where
  dwallet : request.dwalletAttestation = state.attestation
  publicKey : request.dwalletPublicKey = state.publicKey
  presign : request.presignAttestation = args.presignAttestation
  message : request.message = args.message
  messageMetadata : request.messageMetadata = args.messageMetadata
  scheme : request.signatureScheme = args.signatureScheme
  voucher : request.futureSignatureVoucher = args.futureSignatureVoucher
  voucherLength : request.futureSignatureVoucher.length = 32

theorem futureSignRequest_names {args : FutureSignArgs} {request : DWalletRequest}
    (h : futureSignRequest P issued now args = .ok request) :
    ∃ state stepOne, issuedGet issued args.usable = some state ∧ request = .futureSign stepOne ∧
      StepOneNames args state stepOne := by
  obtain ⟨_, hvoucher, h⟩ := bind_ok h
  obtain ⟨_, -, h⟩ := bind_ok h
  obtain ⟨state, hstate, h⟩ := bind_ok h
  obtain ⟨_, -, h⟩ := bind_ok h
  obtain ⟨presign, -, h⟩ := bind_ok h
  obtain ⟨_, -, h⟩ := bind_ok h
  dsimp only at h
  split at h
  · cases h
  · obtain ⟨_, -, h⟩ := bind_ok h
    obtain ⟨_, -, h⟩ := bind_ok h
    obtain ⟨dwallet, -, h⟩ := bind_ok h
    obtain ⟨_, -, h⟩ := bind_ok h
    obtain ⟨_, -, h⟩ := bind_ok h
    exact ⟨state, _, checkedStateOf_ok hstate, (Except.ok.inj h).symm,
      rfl, rfl, rfl, rfl, rfl, rfl, rfl, ensure_ok hvoucher⟩

/-- No step 1 of a future sign is built from a result that waits. -/
theorem futureSignRequest_ok {args : FutureSignArgs} {request : DWalletRequest}
    (h : futureSignRequest P issued now args = .ok request) :
    ∃ state, issuedGet issued args.usable = some state ∧ state.waiting = false := by
  obtain ⟨_, -, h⟩ := bind_ok h
  obtain ⟨_, -, h⟩ := bind_ok h
  obtain ⟨state, hstate, h⟩ := bind_ok h
  obtain ⟨_, hnot, -⟩ := bind_ok h
  exact ⟨state, checkedStateOf_ok hstate, ensure_ok hnot⟩

end Ika
