import IkaSdk.Core.Common.FutureSignatures
import IkaSdk.Core.Common.ShareCommits

/-! The calls of the engine that submit a request: what each checks first, the request it
builds for a session, how it is signed, and how its session is described for a lookup. -/

namespace Ika

open Wire Interaction Eff

/-! ## The connection -/

/-- What the user computes for the session of a key generation. -/
structure PreparedDKG where
  userDKGMessage : Bytes
  userPublicOutput : Bytes
  userSecretKeyShare : Bytes
deriving DecidableEq, Repr

/-- What the user computes for the session of an import. -/
structure PreparedImport where
  userMessage : Bytes
  userPublicOutput : Bytes
  userSecretKeyShare : Bytes
deriving DecidableEq, Repr

/-- A client's cryptography, as far as the calls use it. -/
structure ClientCryptography extends AnswerCryptography, SignCryptography where
  prepareDKGForSessionIdentifier (protocolPublicParameters : Bytes) (curve : Curve)
    (sessionIdentifier : Bytes) : Except String PreparedDKG
  prepareImportedKeyVerificationForSessionIdentifier (protocolPublicParameters : Bytes)
    (curve : Curve) (sessionIdentifier secretKey : Bytes) : Except String PreparedImport
  encryptSecretShare (curve : Curve) (userSecretKeyShare encryptionKey
    protocolPublicParameters : Bytes) : Except String Bytes
  publicKeyFromCentralizedDKGOutput (curve : Curve) (userPublicOutput : Bytes) :
    Except String Bytes

/-- A connection to the network under one network key and one curve. -/
structure Connection extends Network where
  curve : Curve
  curveNumber_eq : curveNumber = fromCurveToNumber curve
  latestNetworkKeyId : Bytes
  protocolPublicParameters : Bytes
  trusted : TrustedNetwork
  cryptography : ClientCryptography

/-- The curve as a request names it. -/
def Connection.curveInput (connection : Connection) : DWalletCurve :=
  match connection.curve with
  | .secp256k1 => .secp256k1
  | .secp256r1 => .secp256r1
  | .ed25519 => .curve25519
  | .ristretto => .ristretto

/-! ## Arguments -/

/-- Where a new dWallet's user share goes. -/
structure ShareEncryption where
  holder : TransportKeypair
  encryptionKey : Bytes

structure Presign where
  reference : Bytes
  material : Bytes
  attestation : NetworkSignedAttestation
  epoch : ℕ
deriving DecidableEq, Repr

/-- A sign that a key generation carries. -/
structure SignDuringDkg where
  presign : Presign
  message : Bytes
  messageMetadata : Option Bytes
  signatureScheme : ℕ
deriving DecidableEq, Repr

/-- A usability result with the holder it names. -/
structure DWalletUsableOf extends DWalletUsable where
  holder : Bytes
deriving DecidableEq, Repr

/-- The arguments of a sign, and of step 1 of a future sign; `voucher` is its voucher. -/
structure SignArgs where
  dwallet : DWallet
  usable : DWalletUsableOf
  presign : Presign
  message : Bytes
  messageMetadata : Option Bytes
  signatureScheme : ℕ
  voucher : Bytes
deriving DecidableEq, Repr

/-- What is kept of a key generation until its answer. -/
structure KeptDkg where
  prepared : PreparedDKG
  encryptedShareAndProof : Option Bytes
deriving DecidableEq, Repr

structure KeptImport where
  prepared : PreparedImport
  encryptedShareAndProof : Bytes
deriving DecidableEq, Repr

/-! ## Submissions -/

/-- A request in the making: the epoch of the presign it consumes comes with the function
that signs it then. -/
structure Submission (T H : Type) where
  build : ℕ → Bytes → EngineEff T H (BuiltRequest T)
  describe : Bytes → T → Except SdkError PendingRequestKind
  presign : Option (ℕ × (SignedRequestData → EngineEff T H SignedRequest))

namespace Submission

variable {T H : Type} (P : Primitives) (network : Network) (requester : Requester)
  (submission : Submission T H)

def describeRun (session : Bytes) (kept : T) : EngineEff T H PendingRequestKind :=
  sdk (submission.describe session kept)

def run (fuel : ℕ) : EngineEff T H (TransactionResponseData × Sent T) :=
  match submission.presign with
  | none => submit P network requester submission.build submission.describeRun fuel
      rebuildsAfterEpochClose
  | some (epoch, sign) => submitWithPresign P network requester epoch sign
      (submission.build epoch) submission.describeRun fuel

end Submission

/-! ## The calls -/

def signatureSchemeNumber (signatureScheme : ℕ) : Except SdkError DWalletSignatureScheme :=
  match dwalletSignatureSchemes[signatureScheme]? with
  | some scheme => .ok scheme
  | none => .error (.error s!"the signature scheme {signatureScheme} is not one the network knows")

section Calls

variable (P : Primitives) {H : Type} (connection : Connection) (issued : List IssuedState)
  (requester : Requester)

/-- The signing of every request but a sign. -/
def signGrpc {T : Type} (data : SignedRequestData) : EngineEff T H SignedRequest :=
  signFor P requester fun keypair => signGrpcRequest P keypair data

def requireLatestNetworkKey : Except SdkError Unit :=
  let latestKey := toHex connection.latestNetworkKeyId
  let servedKey := toHex connection.networkKeyId
  ensure (connection.networkKeyId = connection.latestNetworkKeyId) (.error
    (s!"the network creates a dWallet only under the epoch's latest key {latestKey}, " ++
      s!"and this connection serves {servedKey}; connect under the latest key"))

def algorithmOf (signatureScheme : DWalletSignatureScheme) :
    Except SdkError DWalletSignatureAlgorithm :=
  signatureAlgorithmOnCurve signatureScheme connection.curveInput

/-! ### Creating a dWallet -/

/-- Why a presign cannot carry a sign during a key generation. -/
def signDuringDkgProblem (given : Presign) (algorithm : DWalletSignatureAlgorithm)
    (presign : PresignAttestation) : Option String :=
  if presign.userPubkey ≠ requester.keypair.publicKey then
    some "it was served to another requester"
  else if presign.dwalletPublicKey ≠ none then
    some "it is bound to a dWallet; a sign during DKG takes a pool presign"
  else if presign.curve ≠ connection.curveInput then some s!"it is on curve {presign.curve.name}"
  else if presign.signatureAlgorithm ≠ algorithm then
    some s!"it is for {presign.signatureAlgorithm.name}, not {algorithm.name}"
  else if presign.presignSessionIdentifier ≠ given.reference ∨
      presign.presignData ≠ given.material then
    some "its reference or material is not the one its attestation holds"
  else none

def signDuringDkgPresign (given : Presign) (signatureScheme : DWalletSignatureScheme) :
    Except SdkError PresignAttestation := do
  let presign : PresignAttestation ←
    verifyAttestation P given.attestation .presign connection.networkKeyId connection.trusted
  let algorithm ← algorithmOf connection signatureScheme
  match signDuringDkgProblem connection requester given algorithm presign with
  | some problem => .error (.error s!"the presign cannot carry a sign during DKG: {problem}")
  | none => return presign

def encryptShare (share : ShareEncryption) (userSecretKeyShare : Bytes) : Except String Bytes :=
  connection.cryptography.encryptSecretShare connection.curve userSecretKeyShare
    share.encryptionKey connection.protocolPublicParameters

def encryptedShareInput (share : ShareEncryption) (encryptedShareAndProof : Bytes) :
    UserSecretKeyShare :=
  .encrypted encryptedShareAndProof share.encryptionKey share.holder.publicKey

/-- The user's half of a sign that a key generation carries. -/
def signDuringDkgRequest (sign : SignDuringDkg) (signatureScheme : DWalletSignatureScheme)
    (prepared : PreparedDKG) : Except String SignDuringDkgRequest := do
  let messageMetadata := sign.messageMetadata.getD []
  let messageCentralizedSignature ← userSignMessageWithScheme P
    connection.cryptography.toSignCryptography {
      protocolPublicParameters := connection.protocolPublicParameters
      curve := connection.curveNumber
      signatureScheme := signatureScheme.number
      message := sign.message
      messageMetadata
      dWalletPublicOutput := prepared.userPublicOutput
      userSecretKeyShare := prepared.userSecretKeyShare
      presign := sign.presign.material } .user
  return {
    presignSessionIdentifier := sign.presign.reference
    presign := sign.presign.material
    signatureScheme
    message := sign.message
    messageMetadata
    messageCentralizedSignature }

/-- The request of a key generation: its share is encrypted where `share` is given and else
public, and it carries a sign where `sign` is given. -/
def dkgRequest (share : Option ShareEncryption)
    (sign : Option (SignDuringDkg × DWalletSignatureScheme)) (session : Bytes) :
    Except String (BuiltRequest KeptDkg) := do
  let prepared ← connection.cryptography.prepareDKGForSessionIdentifier
    connection.protocolPublicParameters connection.curve session
  let encrypted ← share.mapM fun share => do
    return (share, ← encryptShare connection share prepared.userSecretKeyShare)
  let signRequest ← sign.mapM fun sign =>
    signDuringDkgRequest P connection sign.1 sign.2 prepared
  return ⟨.dkg {
      networkKeyId := connection.networkKeyId
      curve := connection.curveInput
      centralizedPublicKeyShareAndProof := prepared.userDKGMessage
      userSecretKeyShare := encrypted.elim (.publicShare prepared.userSecretKeyShare)
        fun e => encryptedShareInput e.1 e.2
      userPublicOutput := prepared.userPublicOutput
      signDuringDkgRequest := signRequest },
    ⟨prepared, encrypted.map Prod.snd⟩⟩

/-- The chain lookup of the dWallet that a key generation or an import creates. -/
def newDWallet (userPublicOutput : Bytes) : Except SdkError DWalletLookup := do
  let publicKey ← fromPackage (connection.cryptography.publicKeyFromCentralizedDKGOutput
    connection.curve userPublicOutput)
  return ⟨connection.curveNumber, publicKey, none⟩

def describeDkg (kept : KeptDkg) : Except SdkError PendingRequestKind := do
  return .dkg (← newDWallet connection kept.prepared.userPublicOutput)

def describeImportedKey (session : Bytes) (kept : KeptImport) :
    Except SdkError PendingRequestKind := do
  let dwallet ← newDWallet connection kept.prepared.userPublicOutput
  return .importedKey { dwallet with importedSessionIdentifier := some session }

/-- The four calls that create a dWallet. A sign during it consumes a presign, so the request
names the presign's epoch. -/
def createDWallet (share : Option ShareEncryption) (sign : Option SignDuringDkg) :
    Except SdkError (Submission KeptDkg H) := do
  let sign ← sign.mapM fun sign => do return (sign, ← signatureSchemeNumber sign.signatureScheme)
  requireLatestNetworkKey connection
  let presign ← sign.mapM fun sign =>
    signDuringDkgPresign P connection requester sign.1.presign sign.2
  return {
    build _ session := sdk (fromPackage (dkgRequest P connection share sign session))
    describe _ kept := describeDkg connection kept
    presign := presign.map fun presign => (presign.epoch, signGrpc P requester) }

/-- The secret key in the encoding that the import reads. -/
def importedSecretKeyEncoding (curveNumber : ℕ) (secretKey : Bytes) : Bytes :=
  if (curveNumber = 0 ∨ curveNumber = 1) ∧ secretKey.length = 32 then 32 :: secretKey
  else secretKey

def importedKeyRequest (share : ShareEncryption) (secretKey session : Bytes) :
    Except String (BuiltRequest KeptImport) := do
  let prepared ← connection.cryptography.prepareImportedKeyVerificationForSessionIdentifier
    connection.protocolPublicParameters connection.curve session
    (importedSecretKeyEncoding connection.curveNumber secretKey)
  let encryptedShareAndProof ← encryptShare connection share prepared.userSecretKeyShare
  return ⟨.importedKeyVerification {
      networkKeyId := connection.networkKeyId
      curve := connection.curveInput
      centralizedPartyMessage := prepared.userMessage
      userSecretKeyShare := encryptedShareInput share encryptedShareAndProof
      userPublicOutput := prepared.userPublicOutput },
    ⟨prepared, encryptedShareAndProof⟩⟩

def verifyImportedKey (share : ShareEncryption) (secretKey : Bytes) :
    Except SdkError (Submission KeptImport H) := do
  requireLatestNetworkKey connection
  return {
    build _ session := sdk (fromPackage (importedKeyRequest connection share secretKey session))
    describe := describeImportedKey connection
    presign := none }

/-! ### Presigns -/

/-- The submission of one request that is built before its session. -/
def submitRequest (request : DWalletRequest) (kind : PendingRequestKind) : Submission Unit H where
  build _ _ := return ⟨request, ()⟩
  describe _ _ := .ok kind
  presign := none

/-- One presign from the network's pool. -/
def requestPresign (signatureScheme : ℕ) : Except SdkError (Submission Unit H) := do
  let scheme ← signatureSchemeNumber signatureScheme
  let algorithm ← algorithmOf connection scheme
  return submitRequest (.presign ⟨connection.networkKeyId, connection.curveInput, algorithm⟩)
    .presign

/-- A presign bound to one imported dWallet. -/
def requestPresignForDWallet (dwallet : DWallet) (signatureScheme : ℕ) :
    Except SdkError (Submission Unit H) := do
  requireServedDWallet connection.toNetwork dwallet
  let scheme ← signatureSchemeNumber signatureScheme
  let algorithm ← algorithmOf connection scheme
  return submitRequest (.presignForDWallet {
    networkKeyId := dwallet.networkKeyId
    dwalletPublicKey := dwallet.publicKey
    dwalletAttestation := dwallet.attestation
    curve := connection.curveInput
    signatureAlgorithm := algorithm }) .presign

/-! ### Signing -/

/-- What the signing of a sign request reads: the request, the usability result given and its
holder. No reader is given, so nothing is read of the chain. -/
def usableAnswers {T : Type} (data : SignedRequestData) (usable : DWalletUsableOf) :
    ∀ op : OwnershipOp H, Prog (engineInterface T H) op.Ans
  | .signedData => .pure data
  | .ownership => .pure ⟨none, some usable.object⟩
  | .getSigningPublicKeyBytes => .pure (.ok usable.holder)
  | .now => Prog.perform (I := engineInterface T H) .now
  | .readDWallet _ => .pure (.ok none)
  | .readEncryptedShare .. => .pure (.ok none)
  | .readPublicShare _ => .pure (.ok none)
  | .migratedShare .. => .pure (.ok none)

/-- The signing of a sign request with one key. -/
def signWithUsable {T : Type} (usable : DWalletUsableOf) (keypair : TransportKeypair)
    (data : SignedRequestData) : EngineEff T H SignedRequest :=
  ExceptT.mk (((signDWalletSignRequest P (H := H) issued keypair).run.interp
    (usableAnswers data usable)) >>= fun outcome =>
      .pure ((outcome.map Prod.fst).mapError EngineError.sdk))

def userSignMessage (dwallet : DWallet) (presign : Presign) (message messageMetadata : Bytes)
    (signatureScheme : DWalletSignatureScheme) : Except SdkError Bytes :=
  fromPackage (createUserSignMessageWithScheme P connection.cryptography.toSignCryptography {
    protocolPublicParameters := connection.protocolPublicParameters
    curve := dwallet.curve
    signatureScheme := signatureScheme.number
    message
    messageMetadata
    dWalletPublicOutput := dwallet.networkPublicOutput
    userSecretKeyShare := dwallet.userSecretKeyShare
    presign := presign.material })

/-- Whether a dWallet was made from an imported key, as its attestation records. -/
def isImported (dwallet : DWallet) : Except SdkError Bool := do
  let data ← fromPackage
    (P.parse versionedDWalletDataAttestationBcs dwallet.attestation.attestationData)
  return data.isImportedKey

def signRequestOf (args : SignArgs) (scheme : DWalletSignatureScheme)
    (messageCentralizedSignature : Bytes) : SignRequest where
  message := args.message
  messageMetadata := args.messageMetadata.getD []
  signatureScheme := scheme
  presignSessionIdentifier := args.presign.reference
  messageCentralizedSignature := messageCentralizedSignature
  dwalletAttestation := args.dwallet.attestation
  signatureVoucher := args.voucher

def requestSignature (args : SignArgs) : Except SdkError (Submission Unit H) := do
  let scheme ← signatureSchemeNumber args.signatureScheme
  requireServedDWallet connection.toNetwork args.dwallet
  requireCheckedOutput args.dwallet args.usable.toDWalletUsable
  ensure (args.voucher.length = 32) (SdkError.error
    s!"the signature voucher's address must be 32 bytes; got {args.voucher.length}")
  let messageCentralizedSignature ← userSignMessage P connection args.dwallet args.presign
    args.message (args.messageMetadata.getD []) scheme
  let fields := signRequestOf args scheme messageCentralizedSignature
  let request : DWalletRequest :=
    if ← isImported P args.dwallet then .importedKeySign fields else .sign fields
  return {
    submitRequest request (.sign args.voucher) with
    presign := some (args.presign.epoch, fun data =>
      signFor P requester fun keypair => signWithUsable P issued args.usable keypair data) }

/-- Step 1 of a future sign. The request is built from the usability result, at one moment. -/
def requestFutureSignature (args : SignArgs) : EngineEff Unit H (Submission Unit H) := do
  let scheme ← sdk (signatureSchemeNumber args.signatureScheme)
  sdk (requireServedDWallet connection.toNetwork args.dwallet)
  sdk (requireCheckedOutput args.dwallet args.usable.toDWalletUsable)
  let _ ← sdk (verifiedDWallet P connection.trusted args.dwallet)
  let messageCentralizedSignature ← sdk (userSignMessage P connection args.dwallet args.presign
    args.message (args.messageMetadata.getD []) scheme)
  let now ← nowMs
  let request ← sdk (futureSignRequest P issued now {
    usable := args.usable.object
    presignAttestation := args.presign.attestation
    message := args.message
    messageMetadata := args.messageMetadata.getD []
    messageCentralizedSignature
    signatureScheme := scheme
    futureSignatureVoucher := args.voucher
    requesterPublicKey := requester.keypair.publicKey
    trustedNetworkKeys := connection.trusted })
  return {
    submitRequest request (.futureSignStepOne args.voucher) with
    presign := some (args.presign.epoch, signGrpc P requester) }

/-- The completion of a future sign. -/
def completionSubmission (given : PartialSignature) : Except SdkError (Submission Unit H) := do
  let checked ← checkedCompletion P connection.toNetwork connection.trusted given
  return submitRequest checked.2 (.futureSignCompletion given.futureSignatureVoucher)

/-! ### User shares -/

/-- The submission of a request that one of the share builders makes at each attempt. -/
def shareSubmission (request : ℤ → Except SdkError RequestOfResult)
    (kind : Bytes → Except SdkError PendingRequestKind) : Submission Unit H where
  build _ _ := builtNow request
  describe session _ := kind session
  presign := none

def makeSharePublicSubmission (dwallet : DWallet) (usable : DWalletUsable) :
    Except SdkError (Submission Unit H) := do
  requireServedDWallet connection.toNetwork dwallet
  requireCheckedOutput dwallet usable
  let _ ← verifiedDWallet P connection.trusted dwallet
  return shareSubmission
    (fun now => makeSharePublicRequest issued now usable.object dwallet.userSecretKeyShare)
    (describeMakeSharePublic P dwallet)

/-- The request of a re-encryption, built around an encrypted share. -/
def reEncryptionOf (args : ReEncryptArgs) (encryptedShareAndProof : Bytes) (now : ℤ) :
    Except SdkError RequestOfResult :=
  reEncryptShareRequest issued now {
    usable := args.usable.object
    encryptedShareAndProof
    newHolderSignerPublicKey := args.newHolderSignerPublicKey
    newHolderEntry := args.newHolderEntry }

def reEncryptShareSubmission (args : ReEncryptArgs) : EngineEff Unit H (Submission Unit H) := do
  sdk (requireServedDWallet connection.toNetwork args.dwallet)
  sdk (requireCheckedOutput args.dwallet args.usable)
  let _ ← sdk (verifiedDWallet P connection.trusted args.dwallet)
  -- Checked before anything is encrypted.
  discard (builtNow (reEncryptionOf issued args []))
  let encryptedShareAndProof ← sdk (fromPackage (connection.cryptography.encryptSecretShare
    connection.curve args.dwallet.userSecretKeyShare args.newHolderEntry.encryptionKey
    connection.protocolPublicParameters))
  return shareSubmission (reEncryptionOf issued args encryptedShareAndProof)
    (describeReEncryptShare P args.dwallet encryptedShareAndProof
      args.newHolderEntry.encryptionKey args.newHolderSignerPublicKey)

end Calls

/-! ## Every call -/

/-- A call of the engine that submits a request. -/
inductive EngineCall
  | createDWallet (share : Option ShareEncryption) (sign : Option SignDuringDkg)
  | verifyImportedKey (share : ShareEncryption) (secretKey : Bytes)
  | requestPresign (signatureScheme : ℕ)
  | requestPresignForDWallet (dwallet : DWallet) (signatureScheme : ℕ)
  | requestSignature (args : SignArgs)
  | requestFutureSignature (args : SignArgs)
  | completeFutureSignature (given : PartialSignature)
  | makeSharePublic (dwallet : DWallet) (usable : DWalletUsable)
  | reEncryptShare (args : ReEncryptArgs)

namespace EngineCall

/-- What a call keeps of a request until its answer. -/
def Kept : EngineCall → Type
  | createDWallet .. => KeptDkg
  | verifyImportedKey .. => KeptImport
  | requestPresign _ => Unit
  | requestPresignForDWallet .. => Unit
  | requestSignature _ => Unit
  | requestFutureSignature _ => Unit
  | completeFutureSignature _ => Unit
  | makeSharePublic .. => Unit
  | reEncryptShare _ => Unit

/-- The checks of a call, and then what it submits. -/
def submission (P : Primitives) {H : Type} (connection : Connection) (issued : List IssuedState)
    (requester : Requester) : (call : EngineCall) → EngineEff call.Kept H (Submission call.Kept H)
  | createDWallet share sign => sdk (Ika.createDWallet P connection requester share sign)
  | verifyImportedKey share secretKey => sdk (Ika.verifyImportedKey connection share secretKey)
  | requestPresign signatureScheme => sdk (Ika.requestPresign connection signatureScheme)
  | requestPresignForDWallet dwallet signatureScheme =>
    sdk (Ika.requestPresignForDWallet connection dwallet signatureScheme)
  | requestSignature args => sdk (Ika.requestSignature P connection issued requester args)
  | requestFutureSignature args => Ika.requestFutureSignature P connection issued requester args
  | completeFutureSignature given => sdk (completionSubmission P connection given)
  | makeSharePublic dwallet usable =>
    sdk (makeSharePublicSubmission P connection issued dwallet usable)
  | reEncryptShare args => reEncryptShareSubmission P connection issued args

end EngineCall

/-! ## The calls submit what they are modelled to submit -/

section Submits

variable {P : Primitives} {H : Type} {connection : Connection} {issued : List IssuedState}
  {requester : Requester}

theorem submitShare_eq {request : ℤ → Except SdkError RequestOfResult}
    {kind : Bytes → Except SdkError PendingRequestKind} {fuel : ℕ} :
    submitShare (H := H) P connection.toNetwork requester request kind fuel =
      (shareSubmission request kind).run P connection.toNetwork requester fuel := rfl

theorem submitRequest_run {request : DWalletRequest} {kind : PendingRequestKind}
    {network : Network} {fuel : ℕ} :
    (submitRequest (H := H) request kind).run P network requester fuel =
      submit P network requester (fun _ _ => pure ⟨request, ()⟩) (fun _ _ => pure kind) fuel
        rebuildsAfterEpochClose := rfl

theorem except_pure {α : Type} {a : α} : (pure a : Except SdkError α) = .ok a := rfl

theorem sdk_ok_bind {T α β : Type} {a : α} {f : α → EngineEff T H β} :
    (sdk (Except.ok a) >>= f) = f a := rfl

theorem sdk_error_bind {T α β : Type} {e : SdkError} {f : α → EngineEff T H β} :
    (sdk (Except.error e) >>= f) = throw (.sdk e) := rfl

theorem completeFutureSignature_submits {given : PartialSignature} {fuel : ℕ} :
    completeFutureSignature (H := H) P connection.toNetwork connection.trusted
      connection.cryptography.toAnswerCryptography requester given fuel = (do
        let checked ← sdk (checkedCompletion P connection.toNetwork connection.trusted given)
        let submission ← sdk (completionSubmission P connection given)
        let answered ← submission.run P connection.toNetwork requester fuel
        sdk (signatureFromResponseVerified P answered.1
          connection.cryptography.toAnswerCryptography checked.1.curve.number
          given.attested.signatureScheme.number given.message given.messageMetadata
          checked.1.publicOutput)) := by
  unfold completeFutureSignature completionSubmission
  cases checkedCompletion P connection.toNetwork connection.trusted given with
  | error e => simp only [sdk_error_bind]
  | ok checked =>
    simp only [sdk_ok_bind, ok_bind, except_pure, submitRequest_run]

theorem makeSharePublic_submits {dwallet : DWallet} {usable : DWalletUsable} {fuel : ℕ} :
    makeSharePublic (H := H) P connection.toNetwork connection.trusted issued requester dwallet
      usable fuel = (do
        let submission ← sdk (makeSharePublicSubmission P connection issued dwallet usable)
        let verified ← sdk (verifiedDWallet P connection.trusted dwallet)
        let answered ← submission.run P connection.toNetwork requester fuel
        let publicShareAttestation ← sdk (verifyMakeSharePublicAnswer P answered.1
          connection.trusted verified
          (sentMakeSharePublic connection.toNetwork dwallet answered.2.sessionIdentifier))
        return ⟨{ dwallet with share := .publicShare }, publicShareAttestation⟩) := by
  unfold makeSharePublic makeSharePublicSubmission
  cases requireServedDWallet connection.toNetwork dwallet with
  | error e => simp only [sdk_error_bind, error_bind]
  | ok _ =>
    cases requireCheckedOutput dwallet usable with
    | error e => simp only [sdk_ok_bind, sdk_error_bind, ok_bind, error_bind]
    | ok _ =>
      cases verifiedDWallet P connection.trusted dwallet with
      | error e => simp only [sdk_ok_bind, sdk_error_bind, ok_bind, error_bind]
      | ok verified =>
        simp only [sdk_ok_bind, ok_bind, submitShare_eq]
        rfl

/-! ## What the calls submit -/

theorem createDWallet_ok {share : Option ShareEncryption} {sign : Option SignDuringDkg}
    {submission : Submission KeptDkg H}
    (h : createDWallet P connection requester share sign = .ok submission) :
    ∃ (scheme : Option (SignDuringDkg × DWalletSignatureScheme)) (epoch : Option ℕ),
      submission = {
        build _ session := sdk (fromPackage (dkgRequest P connection share scheme session))
        describe _ kept := describeDkg connection kept
        presign := epoch.map fun epoch => (epoch, signGrpc P requester) } := by
  obtain ⟨scheme, -, h⟩ := bind_ok h
  obtain ⟨_, -, h⟩ := bind_ok h
  obtain ⟨presign, -, h⟩ := bind_ok h
  refine ⟨scheme, presign.map PresignAttestation.epoch, ?_⟩
  rw [← Except.ok.inj h, Option.map_map]
  rfl

theorem verifyImportedKey_ok {share : ShareEncryption} {secretKey : Bytes}
    {submission : Submission KeptImport H}
    (h : verifyImportedKey connection share secretKey = .ok submission) :
    submission = {
      build _ session := sdk (fromPackage (importedKeyRequest connection share secretKey session))
      describe := describeImportedKey connection
      presign := none } := by
  obtain ⟨_, -, h⟩ := bind_ok h
  exact (Except.ok.inj h).symm

theorem requestPresign_ok {signatureScheme : ℕ} {submission : Submission Unit H}
    (h : requestPresign connection signatureScheme = .ok submission) :
    ∃ request, submission = submitRequest request .presign := by
  obtain ⟨_, -, h⟩ := bind_ok h
  obtain ⟨_, -, h⟩ := bind_ok h
  exact ⟨_, (Except.ok.inj h).symm⟩

theorem requestPresignForDWallet_ok {dwallet : DWallet} {signatureScheme : ℕ}
    {submission : Submission Unit H}
    (h : requestPresignForDWallet connection dwallet signatureScheme = .ok submission) :
    ∃ request, submission = submitRequest request .presign := by
  obtain ⟨_, -, h⟩ := bind_ok h
  obtain ⟨_, -, h⟩ := bind_ok h
  obtain ⟨_, -, h⟩ := bind_ok h
  exact ⟨_, (Except.ok.inj h).symm⟩

theorem requestSignature_ok {args : SignArgs} {submission : Submission Unit H}
    (h : requestSignature P connection issued requester args = .ok submission) :
    ∃ request, submission = {
      submitRequest request (.sign args.voucher) with
      presign := some (args.presign.epoch, fun data =>
        signFor P requester fun keypair => signWithUsable P issued args.usable keypair data) } := by
  obtain ⟨_, -, h⟩ := bind_ok h
  obtain ⟨_, -, h⟩ := bind_ok h
  obtain ⟨_, -, h⟩ := bind_ok h
  obtain ⟨_, -, h⟩ := bind_ok h
  obtain ⟨_, -, h⟩ := bind_ok h
  obtain ⟨_, -, h⟩ := bind_ok h
  exact ⟨_, (Except.ok.inj h).symm⟩

/-- The arguments of the builder of step 1 of a future sign. -/
def futureSignArgsOf (connection : Connection) (requester : Requester) (args : SignArgs)
    (scheme : DWalletSignatureScheme) (messageCentralizedSignature : Bytes) : FutureSignArgs where
  usable := args.usable.object
  presignAttestation := args.presign.attestation
  message := args.message
  messageMetadata := args.messageMetadata.getD []
  messageCentralizedSignature := messageCentralizedSignature
  signatureScheme := scheme
  futureSignatureVoucher := args.voucher
  requesterPublicKey := requester.keypair.publicKey
  trustedNetworkKeys := connection.trusted

theorem requestFutureSignature_gives {args : SignArgs} {submission : Submission Unit H}
    {tr : List (EngineEvent Unit H)}
    (h : Gives (requestFutureSignature P connection issued requester args) tr submission) :
    ∃ verified scheme userSignature now request,
      requireServedDWallet connection.toNetwork args.dwallet = .ok () ∧
      requireCheckedOutput args.dwallet args.usable.toDWalletUsable = .ok () ∧
      verifiedDWallet P connection.trusted args.dwallet = .ok verified ∧
      futureSignRequest P issued now
        (futureSignArgsOf connection requester args scheme userSignature) = .ok request ∧
      submission = {
        submitRequest request (.futureSignStepOne args.voucher) with
        presign := some (args.presign.epoch, signGrpc P requester) } := by
  obtain ⟨_, _, scheme, -, -, h⟩ := gives_bind_iff.mp h
  obtain ⟨_, _, _, -, hserved, h⟩ := gives_bind_iff.mp h
  obtain ⟨_, _, _, -, hchecked, h⟩ := gives_bind_iff.mp h
  obtain ⟨_, _, verified, -, hverified, h⟩ := gives_bind_iff.mp h
  obtain ⟨_, _, userSignature, -, -, h⟩ := gives_bind_iff.mp h
  obtain ⟨_, _, now, -, -, h⟩ := gives_bind_iff.mp h
  obtain ⟨_, _, request, -, hrequest, h⟩ := gives_bind_iff.mp h
  obtain ⟨-, rfl⟩ := gives_pure_iff.mp h
  exact ⟨verified, scheme, userSignature, now, request, (gives_sdk_iff.mp hserved).2,
    (gives_sdk_iff.mp hchecked).2, (gives_sdk_iff.mp hverified).2, (gives_sdk_iff.mp hrequest).2,
    rfl⟩

theorem completionSubmission_ok {given : PartialSignature} {submission : Submission Unit H}
    (h : completionSubmission P connection given = .ok submission) :
    ∃ request, submission =
      submitRequest request (.futureSignCompletion given.futureSignatureVoucher) := by
  obtain ⟨_, -, h⟩ := bind_ok h
  exact ⟨_, (Except.ok.inj h).symm⟩

theorem makeSharePublicSubmission_ok {dwallet : DWallet} {usable : DWalletUsable}
    {submission : Submission Unit H}
    (h : makeSharePublicSubmission P connection issued dwallet usable = .ok submission) :
    ∃ verified, requireServedDWallet connection.toNetwork dwallet = .ok () ∧
      requireCheckedOutput dwallet usable = .ok () ∧
      verifiedDWallet P connection.trusted dwallet = .ok verified ∧
      submission = shareSubmission
        (fun now => makeSharePublicRequest issued now usable.object dwallet.userSecretKeyShare)
        (describeMakeSharePublic P dwallet) := by
  obtain ⟨_, hserved, h⟩ := bind_ok h
  obtain ⟨_, hchecked, h⟩ := bind_ok h
  obtain ⟨verified, hverified, h⟩ := bind_ok h
  exact ⟨verified, hserved, hchecked, hverified, (Except.ok.inj h).symm⟩

theorem makeSharePublicSubmission_of {dwallet : DWallet} {usable : DWalletUsable}
    {verified : VerifiedDWalletAttestation}
    (hserved : requireServedDWallet connection.toNetwork dwallet = .ok ())
    (hchecked : requireCheckedOutput dwallet usable = .ok ())
    (hverified : verifiedDWallet P connection.trusted dwallet = .ok verified) :
    makeSharePublicSubmission (H := H) P connection issued dwallet usable = .ok (shareSubmission
      (fun now => makeSharePublicRequest issued now usable.object dwallet.userSecretKeyShare)
      (describeMakeSharePublic P dwallet)) := by
  unfold makeSharePublicSubmission
  rw [hserved, ok_bind, hchecked, ok_bind, hverified, ok_bind]
  rfl

theorem reEncryptShareSubmission_gives {args : ReEncryptArgs} {submission : Submission Unit H}
    {tr : List (EngineEvent Unit H)}
    (h : Gives (reEncryptShareSubmission P connection issued args) tr submission) :
    ∃ verified now built encryptedShareAndProof,
      requireServedDWallet connection.toNetwork args.dwallet = .ok () ∧
      requireCheckedOutput args.dwallet args.usable = .ok () ∧
      verifiedDWallet P connection.trusted args.dwallet = .ok verified ∧
      reEncryptionOf issued args [] now = .ok built ∧
      submission = shareSubmission (reEncryptionOf issued args encryptedShareAndProof)
        (describeReEncryptShare P args.dwallet encryptedShareAndProof
          args.newHolderEntry.encryptionKey args.newHolderSignerPublicKey) := by
  obtain ⟨_, _, _, -, hserved, h⟩ := gives_bind_iff.mp h
  obtain ⟨_, _, _, -, hchecked, h⟩ := gives_bind_iff.mp h
  obtain ⟨_, _, verified, -, hverified, h⟩ := gives_bind_iff.mp h
  obtain ⟨_, _, _, -, hdiscard, h⟩ := gives_bind_iff.mp h
  obtain ⟨_, _, encryptedShareAndProof, -, -, h⟩ := gives_bind_iff.mp h
  obtain ⟨-, rfl⟩ := gives_pure_iff.mp h
  obtain ⟨_, _, _, -, hbuilt, -⟩ := gives_bind_iff.mp hdiscard
  obtain ⟨_, _, now, -, -, hbuilt⟩ := gives_bind_iff.mp hbuilt
  obtain ⟨_, _, built, -, hbuilt, -⟩ := gives_bind_iff.mp hbuilt
  exact ⟨verified, now, built, encryptedShareAndProof, (gives_sdk_iff.mp hserved).2,
    (gives_sdk_iff.mp hchecked).2, (gives_sdk_iff.mp hverified).2, (gives_sdk_iff.mp hbuilt).2,
    rfl⟩

/-! ## The errors of building and of signing -/

/-- Building and signing throw errors of the SDK only. -/
structure Submission.ThrowsSdk {T : Type} (submission : Submission T H) : Prop where
  build : ∀ epoch session, ThrowsOnly IsSdk (submission.build epoch session)
  sign : ∀ epoch sign, submission.presign = some (epoch, sign) →
    ∀ data, ThrowsOnly IsSdk (sign data)

theorem throwsOnly_signWithUsable {T : Type} (usable : DWalletUsableOf) (keypair : TransportKeypair)
    (data : SignedRequestData) :
    ThrowsOnly IsSdk (signWithUsable (T := T) (H := H) P issued usable keypair data) := by
  intro tr e h
  obtain ⟨tr₁, tr₂, outcome, rfl, -, hlast⟩ := Prog.returns_bind_iff.mp h
  obtain ⟨-, hlast⟩ := Prog.returns_pure_iff.mp hlast
  cases outcome with
  | ok signed => cases hlast
  | error error =>
    cases hlast
    exact ⟨error, rfl⟩

theorem throwsOnly_signGrpc {T : Type} (data : SignedRequestData) :
    ThrowsOnly IsSdk (signGrpc (T := T) (H := H) P requester data) :=
  (signs_signFor signs_signGrpcRequest).errors data

theorem throwsOnly_signFor {T : Type}
    {sign : TransportKeypair → SignedRequestData → EngineEff T H SignedRequest}
    (hsign : ∀ keypair data, ThrowsOnly IsSdk (sign keypair data)) (data : SignedRequestData) :
    ThrowsOnly IsSdk (signFor P requester fun keypair => sign keypair data) := by
  unfold signFor
  split_ifs with hsigner
  · refine throwsOnly_bind (hsign _ data) fun signed => ?_
    refine throwsOnly_bind (throwsOnly_perform _) fun answer => ?_
    exact throwsOnly_bind (throwsOnly_sdk _) fun signature => throwsOnly_sdk _
  · exact hsign requester.keypair data

theorem submission_throwsSdk {call : EngineCall} {tr : List (EngineEvent call.Kept H)}
    {submission : Submission call.Kept H}
    (h : Gives (call.submission P connection issued requester) tr submission) :
    submission.ThrowsSdk := by
  have hrequest : ∀ {request kind}, (submitRequest (H := H) request kind).ThrowsSdk := by
    intro request kind
    exact ⟨fun _ _ => throwsOnly_pure _, fun _ _ hnone => (by cases hnone)⟩
  cases call with
  | createDWallet share sign =>
    obtain ⟨scheme, epoch, rfl⟩ := createDWallet_ok (gives_sdk_iff.mp h).2
    refine ⟨fun _ _ => throwsOnly_sdk _, fun epoch' sign' hsome data => ?_⟩
    obtain ⟨_, -, hsign⟩ := Option.map_eq_some_iff.mp hsome
    cases hsign
    exact throwsOnly_signGrpc data
  | verifyImportedKey share secretKey =>
    obtain rfl := verifyImportedKey_ok (gives_sdk_iff.mp h).2
    exact ⟨fun _ _ => throwsOnly_sdk _, fun _ _ hnone => (by cases hnone)⟩
  | requestPresign signatureScheme =>
    obtain ⟨request, rfl⟩ := requestPresign_ok (gives_sdk_iff.mp h).2
    exact hrequest
  | requestPresignForDWallet dwallet signatureScheme =>
    obtain ⟨request, rfl⟩ := requestPresignForDWallet_ok (gives_sdk_iff.mp h).2
    exact hrequest
  | requestSignature args =>
    obtain ⟨request, rfl⟩ := requestSignature_ok (gives_sdk_iff.mp h).2
    refine ⟨fun _ _ => throwsOnly_pure _, fun epoch sign hsome => ?_⟩
    cases hsome
    exact throwsOnly_signFor (throwsOnly_signWithUsable args.usable)
  | requestFutureSignature args =>
    obtain ⟨verified, scheme, userSignature, now, request, -, -, -, -, rfl⟩ :=
      requestFutureSignature_gives h
    refine ⟨fun _ _ => throwsOnly_pure _, fun epoch sign hsome => ?_⟩
    cases hsome
    exact throwsOnly_signGrpc
  | completeFutureSignature given =>
    obtain ⟨request, rfl⟩ := completionSubmission_ok (gives_sdk_iff.mp h).2
    exact hrequest
  | makeSharePublic dwallet usable =>
    obtain ⟨verified, -, -, -, rfl⟩ := makeSharePublicSubmission_ok (gives_sdk_iff.mp h).2
    exact ⟨fun _ _ => throwsOnly_builtNow _, fun _ _ hnone => (by cases hnone)⟩
  | reEncryptShare args =>
    obtain ⟨verified, now, built, encrypted, -, -, -, -, rfl⟩ := reEncryptShareSubmission_gives h
    exact ⟨fun _ _ => throwsOnly_builtNow _, fun _ _ hnone => (by cases hnone)⟩

end Submits

end Ika
