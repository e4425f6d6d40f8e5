import IkaSdk.Core.Grpc.SignRequest
import Mathlib.Data.List.Infix

/-! What goes over the wire to a validator and comes back: the session that a
signed request opens, the answers to it, and the errors of a call. -/

namespace Ika

open Wire

/-! ## Sessions -/

/-- A number as `setBigUint64` writes it, big-endian. -/
def be64 (v : ℕ) : Bytes := (leBytes 8 v).reverse

/-- The bytes whose hash is the session that a request opens. The byte of a
scheme is the index of its `UserSignature` variant. -/
def grpcSessionPreimage (epoch : ℕ) (signerScheme : SignatureScheme)
    (signerPublicKey preimage : Bytes) : Bytes :=
  be64 0 ++ textBytes "GRPC" ++ be64 epoch ++ [UInt8.ofNat signerScheme.number] ++
    signerPublicKey ++ preimage

def grpcSessionIdentifier (P : Primitives) (epoch : ℕ) (signerScheme : SignatureScheme)
    (signerPublicKey preimage : Bytes) : Bytes :=
  P.keccak256 (grpcSessionPreimage epoch signerScheme signerPublicKey preimage)

theorem be64_inj {a b : ℕ} (ha : a < 256 ^ 8) (hb : b < 256 ^ 8) (h : be64 a = be64 b) :
    a = b := leBytes_inj ha hb (List.reverse_injective h)

/-- The preimage of a session says the epoch of its request. -/
theorem grpcSessionPreimage_epoch {e e' : ℕ} {scheme scheme' : SignatureScheme}
    {key key' preimage preimage' : Bytes} (he : e < 256 ^ 8) (he' : e' < 256 ^ 8)
    (h : grpcSessionPreimage e scheme key preimage =
      grpcSessionPreimage e' scheme' key' preimage') : e = e' := by
  simp only [grpcSessionPreimage, List.append_assoc] at h
  have htail := List.append_cancel_left (List.append_cancel_left h)
  have hlength : (be64 e).length = (be64 e').length := by simp [be64]
  exact be64_inj he he' (List.append_inj_left htail hlength)

/-! ## Answers -/

inductive TransactionResponseData
  | signature (signature : Bytes)
  | attestation (attestation : NetworkSignedAttestation)
  | error (message : String)
deriving DecidableEq, Repr

/-- `String.includes`. -/
def includes (text part : String) : Bool := decide (part.toList <:+: text.toList)

/-- The number that `\d+` matches at the front, with what follows it. -/
def matchNumber (text : List Char) : Option (ℕ × List Char) :=
  let digits := text.takeWhile Char.isDigit
  if digits.isEmpty then none
  else
    some (digits.foldl (fun n c => 10 * n + (c.toNat - '0'.toNat)) 0,
      text.dropWhile Char.isDigit)

def matchText (part : String) (text : List Char) : Option (List Char) :=
  if part.toList <+: text then some (text.drop part.length) else none

/-- The two numbers of a stale epoch refusal that starts here. -/
def staleEpochMatchHere (text : List Char) : Option (ℕ × ℕ) := do
  let (requestEpoch, rest) ← matchNumber (← matchText "request epoch " text)
  let (currentEpoch, _) ← matchNumber (← matchText " does not match current epoch " rest)
  return (requestEpoch, currentEpoch)

/-- The first match of `/request epoch (\d+) does not match current epoch (\d+)/`. -/
def staleEpochMatch : List Char → Option (ℕ × ℕ)
  | [] => none
  | c :: text => (staleEpochMatchHere (c :: text)).orElse fun _ => staleEpochMatch text

/-- The validator's epoch, when the answer is its refusal of a request signed
for the earlier epoch `sentEpoch`. -/
def staleEpochRefusal (answer : TransactionResponseData) (sentEpoch : ℕ) : Option ℕ :=
  match answer with
  | .error message =>
    match staleEpochMatch message.toList with
    | some (requestEpoch, current) =>
      if requestEpoch = sentEpoch ∧ sentEpoch < current then some current else none
    | none => none
  | _ => none

/-! ## Errors of a call -/

/-- What is read of an error that a gRPC call threw. -/
structure GrpcError where
  code : Option ℕ
  details : Option String
  message : String
deriving DecidableEq, Repr

namespace GrpcStatus

def deadlineExceeded : ℕ := 4

def failedPrecondition : ℕ := 9

def aborted : ℕ := 10

def unavailable : ℕ := 14

end GrpcStatus

def epochClosingRefusal : String :=
  "the epoch is closing; retry the request in the next epoch"

def gasWaitEndedWithTheEpoch : String :=
  "the epoch ended while this request waited for its gas deposit to be read; " ++
    "retry in the next epoch"

def isEpochClosingRefusal (error : GrpcError) : Bool :=
  error.code = some GrpcStatus.unavailable &&
    (error.details = some epochClosingRefusal || error.details = some gasWaitEndedWithTheEpoch)

/-- A status that a validator's restart or an epoch start gives. -/
def isTransportFailure (error : GrpcError) : Bool :=
  error.code = some GrpcStatus.unavailable || error.code = some GrpcStatus.deadlineExceeded

/-- The answer of a validator that dropped a request at an epoch change. -/
def isDroppedRequest (error : GrpcError) : Bool := error.code = some GrpcStatus.aborted

/-! ## What a signed request says -/

def UserSignature.scheme : UserSignature → SignatureScheme
  | ed25519 .. => .ed25519
  | secp256k1 .. => .secp256k1
  | secp256r1 .. => .secp256r1

def UserSignature.publicKey : UserSignature → Bytes
  | ed25519 _ publicKey => publicKey
  | secp256k1 _ publicKey => publicKey
  | secp256r1 _ publicKey => publicKey

namespace SignedRequest

/-- The data of a signed request, as a validator decodes it. -/
def data (signed : SignedRequest) : Option SignedRequestData :=
  (signedRequestDataBcs.decode signed.signedRequestData).map (·.1)

def signature (signed : SignedRequest) : Option UserSignature :=
  (userSignatureBcs.decode signed.userSignature).map (·.1)

/-- The epoch that a signed request names. -/
def epoch (signed : SignedRequest) : Option ℕ := signed.data.map (·.epoch)

/-- The bytes whose hash is the session that a validator opens for it. -/
def sessionPreimage (signed : SignedRequest) : Option Bytes := do
  let data ← signed.data
  let signature ← signed.signature
  return grpcSessionPreimage data.epoch signature.scheme signature.publicKey
    data.sessionIdentifierPreimage

def session (P : Primitives) (signed : SignedRequest) : Option Bytes :=
  signed.sessionPreimage.map P.keccak256

end SignedRequest

end Ika
