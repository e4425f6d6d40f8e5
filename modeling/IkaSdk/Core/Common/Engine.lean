import IkaSdk.Core.Common.RequestRecords
import IkaSdk.Core.Grpc.Transport

/-! The submission of a request: it is built for the epoch the chain shows and
signed once, the same bytes are sent until a validator answers, and a request
whose epoch closed before an answer is looked up on the chain. Whatever the
submission asks of the chain, the validators, the clock and its caller is an
operation, which may answer anything. -/

namespace Ika

open Wire Interaction

/-! ## Constants -/

def noGasDepositRefusal : String :=
  "this transport key has no gas deposit on the chain the request names"

def depositReadWaitMs : ℤ := 20000

def depositReadRetryMs : ℕ := 1000

def resendIntervalMs : ℕ := 2000

def submitTimeoutMs : ℤ := 5 * 60 * 1000

def epochCloseWaitMs : ℤ := 30 * 60 * 1000

def chainEpochPollMs : ℕ := 5000

/-- How many times a request that the chain shows never ran is built again. -/
def rebuildsAfterEpochClose : ℕ := 2

/-! ## Requests in the making -/

/-- Who signs a request. `signer` is whether a request signer is given. -/
structure Requester where
  keypair : TransportKeypair
  signer : Bool
  chain : ChainId
  intendedChainSender : Bytes

/-- What a submission reads of its connection. `requestRecords` and `shares` are
whether the connection was given these readers. -/
structure Network where
  curveNumber : ℕ
  networkKeyId : Bytes
  requestNetworkValue : ℕ
  requestRecords : Bool
  shares : Bool

/-- A request as it was signed, and what its builder kept. -/
structure Sent (T : Type) where
  epoch : ℕ
  sessionIdentifier : Bytes
  kept : T
deriving DecidableEq, Repr

structure BuiltRequest (T : Type) where
  request : DWalletRequest
  kept : T
deriving DecidableEq, Repr

inductive EngineError (T : Type)
  | sdk (error : SdkError)
  | grpc (error : GrpcError)
  | closedBeforeAnswer (sent : Sent T) (refusal : String)
  | presignExpiredWithTheEpoch (epoch chainEpoch : ℕ)
  | requestRanBeforeAnswer (epoch : ℕ) (sessionIdentifier : Bytes) (record : String)
  | epochClosedBeforeAnswer (epoch : ℕ) (sessionIdentifier : Bytes) (chainEpoch : ℕ)
      (refusal : String) (pending : PendingRequest)
deriving DecidableEq, Repr

/-! ## Operations -/

inductive EngineOp (T H : Type)
  /-- The read of the chain's current epoch. -/
  | chainEpoch
  /-- Keep a read in the connection's epoch when it is later, and return that epoch. -/
  | keepEpoch (read : ℕ)
  /-- The connection's epoch, which other calls of the connection raise too. -/
  | epoch
  | now
  | sleep (ms : ℕ)
  | freshPreimage
  | build (epoch : ℕ) (sessionIdentifier : Bytes)
  | describe (sessionIdentifier : Bytes) (kept : T)
  /-- The holder kept for a request built from a result that says `waiting`. -/
  | waitingRequestHolder (request : DWalletRequest)
  | signRequest (signedRequestData : Bytes)
  | submitTransaction (signed : SignedRequest) (timeoutMs : ℤ)
  | record (op : RecordOp H)

abbrev EngineOp.Ans {T H : Type} : EngineOp T H → Type
  | chainEpoch => Except SdkError ℕ
  | keepEpoch _ => ℕ
  | epoch => ℕ
  | now => ℤ
  | sleep _ => Unit
  | freshPreimage => Bytes
  | build .. => Except SdkError (BuiltRequest T)
  | describe .. => Except SdkError PendingRequestKind
  | waitingRequestHolder _ => Option Bytes
  | signRequest _ => Except SdkError Bytes
  | submitTransaction .. => Except GrpcError TransactionResponseData
  | record op => Except SdkError op.Read

abbrev engineInterface (T H : Type) : Interface := ⟨EngineOp T H, EngineOp.Ans⟩

abbrev EngineEff (T H α : Type) := Eff (engineInterface T H) (EngineError T) α

section Operations

variable {T H : Type}

/-- A check, or a computation, that throws an error of the SDK. -/
def sdk {α : Type} (x : Except SdkError α) : EngineEff T H α :=
  liftM (x.mapError EngineError.sdk : Except (EngineError T) α)

/-- An operation that never throws. -/
def perform (op : EngineOp T H) : EngineEff T H op.Ans :=
  Eff.liftOp (I := engineInterface T H) op

def chainEpoch : EngineEff T H ℕ := do
  sdk (← perform .chainEpoch)

def nowMs : EngineEff T H ℤ := perform .now

def sleep (ms : ℕ) : EngineEff T H Unit := perform (.sleep ms)

def buildRequest (epoch : ℕ) (sessionIdentifier : Bytes) : EngineEff T H (BuiltRequest T) := do
  sdk (← perform (.build epoch sessionIdentifier))

def describeRequest (sessionIdentifier : Bytes) (kept : T) :
    EngineEff T H PendingRequestKind := do
  sdk (← perform (.describe sessionIdentifier kept))

/-- A lookup over the connection's readers, its outcome an error or not. -/
def lookup {α : Type} (p : RecordEff H α) : EngineEff T H (Except SdkError α) :=
  ExceptT.mk (p.run.interp (fun op => Prog.perform (I := engineInterface T H) (.record op)) >>=
    fun outcome => .pure (.ok outcome))

end Operations

/-! ## Signing -/

section Signing

variable (P : Primitives) {T H : Type}

def signRequestBytes (keypair : TransportKeypair) (signedData : SignedRequestData) :
    Except SdkError SignedRequest := do
  assertRequestFieldsWithinLimits signedData
  let signedRequestData ← fromPackage (signedRequestDataBcs.serialize signedData)
  signSerializedRequest P keypair signedRequestData

/-- The kinds that only `signDWalletSignRequest` signs. -/
def dwalletSignRequestKind : DWalletRequest → Option String
  | .sign _ => some "Sign"
  | .importedKeySign _ => some "ImportedKeySign"
  | _ => none

def requireNoDWalletSign (request : DWalletRequest) : Except SdkError Unit :=
  match dwalletSignRequestKind request with
  | none => .ok ()
  | some kind => .error (.typeError
      (s!"signGrpcRequest does not sign a {kind} request. Use signDWalletSignRequest, which " ++
        "first checks that the dWallet's share is held by your key"))

def requireWaitingHolder (holder : Option Bytes) (publicKey : Bytes) : Except SdkError Unit :=
  match holder with
  | none => .ok ()
  | some holder => ensure (publicKey = holder)
      (.error ("the dWallet waits for its holder's acceptance, and only that holder may " ++
        "re-encrypt its share or make it public while it waits: sign this request with the key " ++
        toHex holder))

def signGrpcRequest (keypair : TransportKeypair) (signedData : SignedRequestData) :
    EngineEff T H SignedRequest := do
  sdk (requireNoDWalletSign signedData.request)
  let holder ← perform (.waitingRequestHolder signedData.request)
  sdk (requireWaitingHolder holder keypair.publicKey)
  sdk (signRequestBytes P keypair signedData)

/-- Stands in for a request key's secret while a request signer's request is built. -/
def unsignedKeypair : TransportKeypair :=
  let secretKey := List.replicate 32 0
  ⟨secretKey, P.ed25519GetPublicKey secretKey⟩

/-- The signed request of a request signer, once its signature verified. -/
def signedBySigner (publicKey signedRequestData signature : Bytes) :
    Except SdkError SignedRequest := do
  let verified ← fromPackage
    (P.ed25519Verify signature (requestSigningMessage signedRequestData) publicKey)
  ensure (verified = true) (SdkError.error
    "the request signer returned a signature that does not verify under the request key")
  let userSignature ← fromPackage (userSignatureBcs.serialize (.ed25519 signature publicKey))
  return { userSignature, signedRequestData }

def signFor (requester : Requester) (sign : TransportKeypair → EngineEff T H SignedRequest) :
    EngineEff T H SignedRequest :=
  if requester.signer then do
    let signed ← sign (unsignedKeypair P)
    let signature ← sdk (← perform (.signRequest signed.signedRequestData))
    sdk (signedBySigner P requester.keypair.publicKey signed.signedRequestData signature)
  else sign requester.keypair

end Signing

/-! ## Submission -/

section Submission

variable (P : Primitives) {T H : Type} (network : Network) (requester : Requester)

/-- Read the chain's epoch, keep it when it is later, and return the latest one seen. -/
def readChainEpoch : EngineEff T H ℕ := do
  let read ← chainEpoch
  perform (.keepEpoch read)

def sessionIdentifier (epoch : ℕ) (preimage : Bytes) : Bytes :=
  grpcSessionIdentifier P epoch .ed25519 requester.keypair.publicKey preimage

def signedData (epoch : ℕ) (preimage : Bytes) (request : DWalletRequest) :
    SignedRequestData where
  sessionIdentifierPreimage := preimage
  epoch
  chainId := requester.chain
  network := network.requestNetworkValue
  intendedChainSender := requester.intendedChainSender
  request

/-- The loop of `sendUntilAnswered`. Its fuel bounds how far it is followed. -/
def resendUntilAnswered (signed : SignedRequest) (deadline : ℤ) :
    ℕ → EngineEff T H TransactionResponseData
  | 0 => Eff.cut
  | fuel + 1 => do
    let now ← nowMs
    match ← perform (.submitTransaction signed (max 1 (deadline - now))) with
    | .ok answer => return answer
    | .error error =>
      let retryable := isTransportFailure error || isDroppedRequest error
      if isEpochClosingRefusal error || !retryable then throw (.grpc error)
      else
        let now ← nowMs
        if deadline ≤ now then throw (.grpc error)
        else
          sleep resendIntervalMs
          resendUntilAnswered signed deadline fuel

/-- Send the same signed bytes until a validator answers. -/
def sendUntilAnswered (signed : SignedRequest) (fuel : ℕ) :
    EngineEff T H TransactionResponseData := do
  let start ← nowMs
  resendUntilAnswered signed (start + submitTimeoutMs) fuel

/-- The refusal of a request whose gas deposit the validator has not read yet. -/
def depositUnread : TransactionResponseData → Bool
  | .error message => includes message noGasDepositRefusal
  | _ => false

def resendUntilRead (signed : SignedRequest) (deadline : ℤ) (answer : TransactionResponseData) :
    ℕ → EngineEff T H TransactionResponseData
  | 0 => Eff.cut
  | fuel + 1 =>
    if depositUnread answer then do
      let now ← nowMs
      if now < deadline then
        sleep depositReadRetryMs
        match ← perform (.submitTransaction signed submitTimeoutMs) with
        | .ok answer => resendUntilRead signed deadline answer fuel
        | .error error => throw (.grpc error)
      else return answer
    else return answer

def resendWhileDepositUnread (response : TransactionResponseData) (signed : SignedRequest)
    (fuel : ℕ) : EngineEff T H TransactionResponseData := do
  let start ← nowMs
  resendUntilRead signed (start + depositReadWaitMs) response fuel

/-- An epoch-closing refusal, thrown as the close of the session that was sent. -/
def closedByRefusal (sent : Sent T) : EngineError T → EngineError T
  | .grpc error =>
    if isEpochClosingRefusal error then .closedBeforeAnswer sent (error.details.getD "")
    else .grpc error
  | error => error

/-- An answer, unless it says that the epoch of the request closed. -/
def unlessStale (answer : TransactionResponseData) (sent : Sent T) :
    Except (EngineError T) (TransactionResponseData × Sent T) :=
  match answer, staleEpochRefusal answer sent.epoch with
  | .error message, some _ => .error (.closedBeforeAnswer sent message)
  | answer, _ => .ok (answer, sent)

/-- Send a signed request until a validator answers, and throw the close of its
epoch for the caller to look on the chain. -/
def sendSigned (sent : Sent T) (signed : SignedRequest) (fuel : ℕ) :
    EngineEff T H (TransactionResponseData × Sent T) := do
  let answer ← tryCatch
    (do resendWhileDepositUnread (← sendUntilAnswered signed fuel) signed fuel)
    fun error => throw (closedByRefusal sent error)
  liftM (unlessStale answer sent)

/-- Build the request for `epoch` under a new session, sign it once, and send it
until a validator answers. -/
def signAndSend (epoch : ℕ) (sign : SignedRequestData → EngineEff T H SignedRequest)
    (build : ℕ → Bytes → EngineEff T H (BuiltRequest T)) (fuel : ℕ) :
    EngineEff T H (TransactionResponseData × Sent T) := do
  let preimage ← perform .freshPreimage
  let built ← build epoch (sessionIdentifier P requester epoch preimage)
  let signed ← sign (signedData network requester epoch preimage built.request)
  sendSigned ⟨epoch, sessionIdentifier P requester epoch preimage, built.kept⟩ signed fuel

/-! ## After the epoch closed -/

def pendingRequest (sent : Sent T) (kind : PendingRequestKind) : PendingRequest where
  epoch := sent.epoch
  sessionIdentifier := sent.sessionIdentifier
  transportKey := requester.keypair.publicKey
  curve := network.curveNumber
  networkKeyId := network.networkKeyId
  kind

def pending (describe : Bytes → T → EngineEff T H PendingRequestKind) (sent : Sent T) :
    EngineEff T H PendingRequest := do
  return pendingRequest network requester sent (← describe sent.sessionIdentifier sent.kept)

/-- Wait until the chain shows the epoch, or the deadline has passed. A chain
read that fails counts as no later epoch. -/
def waitForEpoch (settledAt : ℕ) (deadline : ℤ) : ℕ → EngineEff T H Unit
  | 0 => Eff.cut
  | fuel + 1 => do
    let epoch ← perform .epoch
    if epoch < settledAt then
      let now ← nowMs
      if now < deadline then
        discard (Eff.attempt readChainEpoch)
        let epoch ← perform .epoch
        if epoch < settledAt then
          sleep chainEpochPollMs
          waitForEpoch settledAt deadline fuel
        else return ()
      else return ()
    else return ()

/-- What the lookup answers once the wait is over. -/
def settledOutcome (pending : PendingRequest) : EngineEff T H RequestOutcome :=
  if network.requestRecords then do
    let epoch ← perform .epoch
    if epoch < settledAtEpoch pending then return .unknown
    else
      match ← lookup (findSession P pending network.shares) with
      | .ok outcome => return outcome
      | .error _ => return .unknown
  else return .unknown

def outcomeAfterEpochClose (pending : PendingRequest) (fuel : ℕ) :
    EngineEff T H RequestOutcome := do
  let start ← nowMs
  waitForEpoch (settledAtEpoch pending) (start + epochCloseWaitMs) fuel
  settledOutcome P network pending

/-- The answer the chain gives for a request that ran: the signature its voucher
holds. Every other outcome is thrown. -/
def answerOrThrow (sent : Sent T) (refusal : String) (outcome : RequestOutcome)
    (pending : PendingRequest) : EngineEff T H (TransactionResponseData × Sent T) :=
  match outcome with
  | .signature signature => return (.signature signature, sent)
  | .ran record => throw (.requestRanBeforeAnswer sent.epoch sent.sessionIdentifier record)
  | _ => do
    let chainEpoch ← perform .epoch
    throw (.epochClosedBeforeAnswer sent.epoch sent.sessionIdentifier chainEpoch refusal pending)

/-- What follows an error of `signAndSend`: a session that was sent and whose
epoch closed is looked up, and where it never ran, `notRun` follows. -/
def afterClose (describe : Bytes → T → EngineEff T H PendingRequestKind) (fuel : ℕ)
    (notRun : Option (EngineEff T H (TransactionResponseData × Sent T))) :
    EngineError T → EngineEff T H (TransactionResponseData × Sent T)
  | .closedBeforeAnswer sent refusal => do
    let pending ← pending network requester describe sent
    let outcome ← outcomeAfterEpochClose P network pending fuel
    match outcome, notRun with
    | .notRun, some next => next
    | outcome, _ => answerOrThrow sent refusal outcome pending
  | error => throw error

/-- One attempt of `submit`: the request that `build` makes for the epoch the
chain shows. -/
def submitOnce (build : ℕ → Bytes → EngineEff T H (BuiltRequest T)) (fuel : ℕ) :
    EngineEff T H (TransactionResponseData × Sent T) := do
  signAndSend P network requester (← readChainEpoch)
    (fun data => signFor P requester fun keypair => signGrpcRequest P keypair data) build fuel

/-- Sign the request that `build` makes for the epoch the chain shows, and
submit it. A request that never ran is built again, up to `rebuildsLeft` times. -/
def submit (build : ℕ → Bytes → EngineEff T H (BuiltRequest T))
    (describe : Bytes → T → EngineEff T H PendingRequestKind) (fuel : ℕ) :
    ℕ → EngineEff T H (TransactionResponseData × Sent T)
  | 0 => tryCatch (submitOnce P network requester build fuel)
      (afterClose P network requester describe fuel none)
  | rebuildsLeft + 1 => tryCatch (submitOnce P network requester build fuel)
      (afterClose P network requester describe fuel
          (some (submit build describe fuel rebuildsLeft)))

/-- Sign a request that consumes a presign, for the presign's epoch, and submit
it. Nothing is sent when the chain is already past that epoch. -/
def submitWithPresign (presignEpoch : ℕ)
    (sign : SignedRequestData → EngineEff T H SignedRequest)
    (build : Bytes → EngineEff T H (BuiltRequest T))
    (describe : Bytes → T → EngineEff T H PendingRequestKind) (fuel : ℕ) :
    EngineEff T H (TransactionResponseData × Sent T) := do
  let chainEpoch ← readChainEpoch
  if presignEpoch < chainEpoch then
    throw (.presignExpiredWithTheEpoch presignEpoch chainEpoch)
  else
    let expired : EngineEff T H (TransactionResponseData × Sent T) := do
      throw (.presignExpiredWithTheEpoch presignEpoch (← perform .epoch))
    tryCatch (signAndSend P network requester presignEpoch sign (fun _ => build) fuel)
      (afterClose P network requester describe fuel (some expired))

end Submission

end Ika
