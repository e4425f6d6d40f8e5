import IkaSdk.Core.Grpc.EpochClose
import IkaSdk.Lib.Interleaving

/-! The validators a call goes to: a request is sent on after an `UNAVAILABLE`, a read after a
refused key, and every call of a client passes over the validators that any of them recorded. -/

namespace Ika.Failover

open Wire Interaction

/-! ## Errors -/

/-- The refusal of a validator whose certificate holds another key than the expected one. -/
inductive UnexpectedNetworkKeyError
  | anotherKey (served expected : Bytes)
  | notAMember (endpoint : String) (networkKey : Bytes)
deriving DecidableEq, Repr

def UnexpectedNetworkKeyError.message : UnexpectedNetworkKeyError → String
  | anotherKey served expected =>
    s!"the served certificate's key {toHex served} is not the validator's network key " ++
      s!"{toHex expected}; refusing the server"
  | notAMember endpoint networkKey =>
    s!"the validator at {endpoint} serves the network key {toHex networkKey}, which is " ++
      "not the network key of a member of the committee the network signed"

/-- The error of a pinned setup that refused the validator's key. -/
def refusedKey (endpoint : String) (error : UnexpectedNetworkKeyError) : CallError where
  code := some GrpcStatus.unavailable
  details := some error.message
  message := s!"no pinned TLS connection to {endpoint}: {error.message}"
  notACommitteeMember := true

/-- An error that the transport gives. Only a refused key is marked as one. -/
structure TransportError where
  error : Thrown
  marked : error.isNotACommitteeMember = true →
    ∃ endpoint key, error = .call (refusedKey endpoint key)

/-- An error of the client: one of a validator, or that no validator is left, the last refusal
being `last`. -/
inductive ClientError
  | thrown (error : Thrown)
  | everyValidatorRefused (last : Option Thrown)
deriving DecidableEq, Repr

def ClientError.toThrown : ClientError → Thrown
  | thrown error => error
  | everyValidatorRefused last => Ika.everyValidatorRefused last

/-! ## Operations -/

/-- What a call sends: a signed request, or a read of a method. -/
inductive CallRequest (Q : Type)
  | submitTransaction (request : SubmitTransactionRequest)
  | read (method : String) (request : Q)

inductive FailoverOp (Q : Type)
  | now
  /-- A copy of what the array holds now. -/
  | contents (array : ArrayRef)
  /-- The check of the record of refused validators, and the start of the call where it passes:
  nothing is awaited between the two. -/
  | start (index : ℕ) (request : CallRequest Q) (deadline : ℤ)
  | answered (index : ℕ) (request : CallRequest Q) (deadline : ℤ)
  /-- Record that the validator's key was refused. -/
  | refuse (index : ℕ)

abbrev FailoverOp.Ans (D : Type) {Q : Type} : FailoverOp Q → Type
  | now => ℤ
  | contents _ => Bytes
  | start .. => Bool
  | answered .. => Except TransportError D
  | refuse _ => Unit

abbrev failoverInterface (Q D : Type) : Interface := ⟨FailoverOp Q, FailoverOp.Ans D⟩

abbrev FailoverEff (Q D α : Type) := Eff (failoverInterface Q D) ClientError α

abbrev FailoverEvent (Q D : Type) := Event (failoverInterface Q D)

variable {Q D : Type}

def perform (op : FailoverOp Q) : FailoverEff Q D (op.Ans D) :=
  Eff.liftOp (I := failoverInterface Q D) op

/-- The times of the last refusals, by the validator's index. -/
abbrev Refusals := ℕ → Option ℤ

/-- The error of a call that no validator is left for. -/
def failure (tried : Tried) : ClientError :=
  if tried.everyOneRefused then .everyValidatorRefused tried.lastError
  else .thrown (tried.lastError.getD .undefined)

/-- What the error of one validator leaves for the next one, where the call goes on after it. -/
def afterError (goesOn : Thrown → Bool) (index : ℕ) (tried : Tried) (error : Thrown) :
    FailoverEff Q D Tried :=
  if goesOn error then
    if error.isNotACommitteeMember then do
      perform (.refuse index)
      return { tried with lastError := some error }
    else return { everyOneRefused := false, lastError := some error }
  else throw (.thrown error)

/-- Ask the validators in turn. -/
def callInTurn (goesOn : Thrown → Bool) (request : CallRequest Q) (deadline : ℤ) :
    List ℕ → Tried → FailoverEff Q D D
  | [], tried => throw (failure tried)
  | index :: rest, tried => do
    let free : Bool ← perform (D := D) (.start index request deadline)
    if free then
      let answer : Except TransportError D ← perform (.answered index request deadline)
      match answer with
      | .ok answer => return answer
      | .error error =>
        let tried ← afterError goesOn index tried error.error
        callInTurn goesOn request deadline rest tried
    else callInTurn goesOn request deadline rest tried

/-- A submission goes on after an `UNAVAILABLE` that does not close the epoch. -/
def submitGoesOn (error : Thrown) : Bool :=
  error.code = some GrpcStatus.unavailable && !error.isEpochClosingRefusal

section Client

variable (client : DWalletGrpcClient)

def submitTransaction (userSignature signedRequestData : ArrayRef) (timeoutMs : ℤ) :
    FailoverEff Q D D := do
  let userSignature ← perform (D := D) (.contents userSignature)
  let signedRequestData ← perform (D := D) (.contents signedRequestData)
  let now ← perform (D := D) .now
  callInTurn submitGoesOn (.submitTransaction ⟨userSignature, signedRequestData⟩)
    (now + timeoutMs) client.validatorIndexes { everyOneRefused := true, lastError := none }

/-- The order of a read from a validator on, wrapping around. -/
def indexesFrom (start : ℕ) : List ℕ :=
  client.validatorIndexes.drop start ++ client.validatorIndexes.take start

/-- A read goes on after a refused key. -/
def read (method : String) (request : Q) (deadline : ℤ) (start : ℕ) : FailoverEff Q D D :=
  callInTurn Thrown.isNotACommitteeMember (.read method request) deadline (indexesFrom client start)
    { everyOneRefused := true, lastError := none }

/-- The calls of one client. -/
def ClientCall (p : Prog (failoverInterface Q D) (Except ClientError D)) : Prop :=
  (∃ userSignature signedRequestData timeoutMs,
    p = (submitTransaction client userSignature signedRequestData timeoutMs).run) ∨
  ∃ method request deadline start, p = (read client method request deadline start).run

end Client

end Ika.Failover
