import IkaSdk.Core.Grpc.Transport
import IkaSdk.Lib.Weakest

/-! Submitting a request to the validators, and carrying it into the next epoch
when it is refused because its epoch is closing. Whatever a call asks of the
validators, the clock and its caller is an operation, which may answer
anything. -/

namespace Ika

open Wire Interaction

/-! ## Errors -/

/-- An error of a call to a validator. `notACommitteeMember` is the flag of a
pinned TLS check that refused the validator's key. -/
structure CallError extends GrpcError where
  notACommitteeMember : Bool
deriving DecidableEq, Repr

/-- What a call may throw. -/
inductive Thrown
  | call (error : CallError)
  | error (message : String)
  | undefined
deriving DecidableEq, Repr

namespace Thrown

def code : Thrown → Option ℕ
  | .call failure => failure.code
  | _ => none

def message : Thrown → String
  | .call failure => failure.message
  | .error message => message
  | .undefined => "undefined"

def isEpochClosingRefusal : Thrown → Bool
  | .call failure => Ika.isEpochClosingRefusal failure.toGrpcError
  | _ => false

def isNotACommitteeMember : Thrown → Bool
  | .call failure => failure.notACommitteeMember
  | _ => false

end Thrown

def everyValidatorRefusedDetails : String :=
  "no validator left to ask: the pinned TLS check refused every validator"

/-- The error of a call when the pinned TLS check refused every validator it may
go to, the last refusal being `last`. -/
def everyValidatorRefused (last : Option Thrown) : Thrown :=
  .call {
    code := some GrpcStatus.failedPrecondition
    details := some everyValidatorRefusedDetails
    message := everyValidatorRefusedDetails ++ last.elim "" fun error => ": " ++ error.message
    notACommitteeMember := false }

/-! ## Operations -/

/-- The request that `SubmitTransaction` encodes. -/
structure SubmitTransactionRequest where
  userSignature : Bytes
  signedRequestData : Bytes
deriving DecidableEq, Repr

/-- An array of the caller, which may hold other bytes at every read of it. -/
abbrev ArrayRef := ℕ

/-- A signed request as `build` returns it. -/
structure BuiltArrays where
  userSignature : ArrayRef
  signedRequestData : ArrayRef
deriving DecidableEq, Repr

inductive CallOp
  | now
  | sleep (ms : ℤ)
  | currentEpoch
  /-- The read of the epoch, unless the timer of so many milliseconds is first. -/
  | currentEpochWithin (ms : ℤ)
  | callBuild (epoch : ℕ)
  | built
  /-- What `build` returned, unless the timer of so many milliseconds is first. -/
  | builtWithin (ms : ℤ)
  /-- A copy of what the array holds now. -/
  | contents (array : ArrayRef)
  | recordClosingRefusal (refusedEpoch : ℕ)
  /-- The record of refused validators, which every call of the client writes. -/
  | refusedAt (index : ℕ)
  | refuse (index : ℕ) (time : ℤ)
  | monotonicNow
  | unary (index : ℕ) (request : SubmitTransactionRequest) (deadline : ℤ)
deriving DecidableEq, Repr

abbrev CallOp.Ans : CallOp → Type
  | now => ℤ
  | sleep _ => Unit
  | currentEpoch => Except Thrown ℕ
  | currentEpochWithin _ => Option (Except Thrown ℕ)
  | callBuild _ => Unit
  | built => Except Thrown BuiltArrays
  | builtWithin _ => Option (Except Thrown BuiltArrays)
  | contents _ => Bytes
  | recordClosingRefusal _ => Except Thrown Unit
  | refusedAt _ => Option ℤ
  | refuse .. => Unit
  | monotonicNow => ℤ
  | unary .. => Except Thrown TransactionResponseData

abbrev callInterface : Interface := ⟨CallOp, CallOp.Ans⟩

abbrev CallEff (α : Type) := Eff callInterface Thrown α

/-- An operation that never throws. -/
def tell (op : CallOp) : CallEff (CallOp.Ans op) := Eff.liftOp (I := callInterface) op

/-- An operation that throws what `outcome` makes of its answer. -/
def askFor {α : Type} (op : CallOp) (outcome : CallOp.Ans op → Except Thrown α) : CallEff α :=
  Eff.ofProg (.call (I := callInterface) op fun a => .pure (outcome a))

/-- The answer of a race, which throws `outOfTime` when the timer was first. -/
def raced {α : Type} (outOfTime : Thrown) : Option (Except Thrown α) → Except Thrown α
  | some outcome => outcome
  | none => .error outOfTime

section Rules

variable {Ω α β : Type} {S : Setting callInterface Ω} {w : Ω} {op : CallOp}
  {post : Except Thrown β → Ω → Prop}

theorem wp_tell {f : CallOp.Ans op → CallEff β} (hcall : S.atCall w op)
    (h : ∀ a w', S.moves w ⟨op, a⟩ w' → Eff.wp S (f a) post w') :
    Eff.wp S (tell op >>= f) post w := Eff.wp_liftOp_bind hcall h

theorem wp_askFor {outcome : CallOp.Ans op → Except Thrown α} {f : α → CallEff β}
    (hcall : S.atCall w op)
    (h : ∀ a w', S.moves w ⟨op, a⟩ w' →
      Eff.followed post (fun b => Eff.wp S (f b) post) (outcome a) w') :
    Eff.wp S (askFor op outcome >>= f) post w := Eff.wp_ofOp_bind hcall h

end Rules

/-! ## One submission -/

def pinRefusalMaxAgeMs : ℤ := 60000

/-- Whether the validator was refused less than `pinRefusalMaxAgeMs` ago. -/
def isRefused (index : ℕ) : CallEff Bool := do
  match ← tell (.refusedAt index) with
  | none => return false
  | some refusedAt => return decide ((← tell .monotonicNow) - refusedAt < pinRefusalMaxAgeMs)

/-- What a submission keeps while it goes from validator to validator. -/
structure Tried where
  everyOneRefused : Bool
  lastError : Option Thrown
deriving DecidableEq, Repr

/-- The error of a submission that no validator is left for. -/
def Tried.error (tried : Tried) : Thrown :=
  if tried.everyOneRefused then everyValidatorRefused tried.lastError
  else tried.lastError.getD .undefined

/-- What the error of one validator leaves for the next one. -/
def afterValidatorError (index : ℕ) (tried : Tried) (error : Thrown) : CallEff Tried :=
  if error.code ≠ some GrpcStatus.unavailable ∨ error.isEpochClosingRefusal then throw error
  else if error.isNotACommitteeMember then do
    let time ← tell .monotonicNow
    tell (.refuse index time)
    return { tried with lastError := some error }
  else return { everyOneRefused := false, lastError := some error }

def afterValidatorAnswer (index : ℕ) (tried : Tried) :
    Except Thrown TransactionResponseData → CallEff (Tried ⊕ TransactionResponseData)
  | .ok answer => return .inr answer
  | .error error => do return .inl (← afterValidatorError index tried error)

/-- Ask one validator, unless its refusal is recorded. -/
def submitTo (request : SubmitTransactionRequest) (deadline : ℤ) (index : ℕ) (tried : Tried) :
    CallEff (Tried ⊕ TransactionResponseData) := do
  if ← isRefused index then return .inl tried
  else afterValidatorAnswer index tried (← tell (.unary index request deadline))

/-- Ask the validators in turn. -/
def submitToEach (request : SubmitTransactionRequest) (deadline : ℤ) :
    List ℕ → Tried → CallEff TransactionResponseData
  | [], tried => throw tried.error
  | index :: rest, tried => do
    Sum.elim (submitToEach request deadline rest) pure
      (← submitTo request deadline index tried)

/-- `furtherValidatorCount` is how many validators the transport reaches after
the first one. -/
structure DWalletGrpcClient where
  furtherValidatorCount : ℕ

namespace DWalletGrpcClient

variable (client : DWalletGrpcClient)

def validatorIndexes : List ℕ := List.range (client.furtherValidatorCount + 1)

def submitTransaction (request : SubmitTransactionRequest) (timeoutMs : ℤ) :
    CallEff TransactionResponseData := do
  let deadline := (← tell .now) + timeoutMs
  submitToEach request deadline client.validatorIndexes
    { everyOneRefused := true, lastError := none }

end DWalletGrpcClient

/-- The copies that a submission takes of the arrays it is given. -/
def copyOf (built : BuiltArrays) : CallEff SubmitTransactionRequest := do
  let userSignature ← tell (.contents built.userSignature)
  let signedRequestData ← tell (.contents built.signedRequestData)
  return { userSignature, signedRequestData }

/-! ## Across the close of an epoch -/

/-- A number given for a time in milliseconds. -/
inductive Milliseconds
  | finite (ms : ℤ)
  | notFinite (text : String)
deriving DecidableEq, Repr

def positiveMilliseconds (value : Milliseconds) (name : String) : Except Thrown ℤ :=
  let refusal (text : String) := Thrown.error
    (s!"{name} must be a finite number of milliseconds above zero, got {text}")
  match value with
  | .finite ms => if ms ≤ 0 then .error (refusal (toString ms)) else .ok ms
  | .notFinite text => .error (refusal text)

/-- The times a caller may give, in milliseconds. -/
structure EpochCloseParams where
  epochWaitMs : Option Milliseconds
  pollIntervalMs : Option Milliseconds
  timeoutMs : Option Milliseconds

/-- The times in use, the default where none is given. -/
structure EpochCloseTimes where
  epochWaitMs : ℤ
  pollIntervalMs : ℤ
  timeoutMs : ℤ

def EpochCloseParams.times (params : EpochCloseParams) : Except Thrown EpochCloseTimes := do
  let epochWaitMs ←
    positiveMilliseconds (params.epochWaitMs.getD (.finite 1800000)) "epochWaitMs"
  let pollIntervalMs ←
    positiveMilliseconds (params.pollIntervalMs.getD (.finite 5000)) "pollIntervalMs"
  let timeoutMs ← positiveMilliseconds (params.timeoutMs.getD (.finite 600000)) "timeoutMs"
  return { epochWaitMs, pollIntervalMs, timeoutMs }

/-- The end of the wait, which names the last epoch that refused the request. -/
def outOfTime (refusedEpoch : ℕ) (epochWaitMs : ℤ) : Thrown :=
  .error (s!"the validator refused the request because epoch {refusedEpoch} is closing, " ++
    s!"and the request was not answered in a later epoch within {epochWaitMs} ms")

section Waiting

variable (times : EpochCloseTimes) (deadline : ℤ) (refusedEpoch : ℕ)

/-- The pause before the next try, cut to the time left. -/
def pause : CallEff Unit := do
  let time ← tell .now
  tell (.sleep (min times.pollIntervalMs (max 0 (deadline - time))))

/-- One read of the epoch: the epoch read, when it is in time and a later one. -/
def readEpochAfter : CallEff (Option ℕ) := do
  let time ← tell .now
  if deadline - time ≤ 0 then throw (outOfTime refusedEpoch times.epochWaitMs)
  else
    let epoch ← askFor (.currentEpochWithin (deadline - time))
      (raced (outOfTime refusedEpoch times.epochWaitMs))
    if deadline < (← tell .now) then throw (outOfTime refusedEpoch times.epochWaitMs)
    else return if refusedEpoch < epoch then some epoch else none

def waitForEpochAfter : ℕ → CallEff ℕ
  | 0 => Eff.cut
  | fuel + 1 => do
    match ← readEpochAfter times deadline refusedEpoch with
    | some epoch => return epoch
    | none =>
      pause times deadline
      waitForEpochAfter fuel

/-- `build` for the epoch, raced against the time left. -/
def buildBeforeDeadline (epoch : ℕ) : CallEff BuiltArrays := do
  tell (.callBuild epoch)
  let time ← tell .now
  if deadline - time ≤ 0 then throw (outOfTime refusedEpoch times.epochWaitMs)
  else askFor (.builtWithin (deadline - time)) (raced (outOfTime refusedEpoch times.epochWaitMs))

/-- What became of one sending of a rebuilt request. -/
inductive Sending
  | answered (answer : TransactionResponseData)
  | refusedAsClosing
  | notAnswered
deriving DecidableEq, Repr

/-- A deadline that ran out at the end of the wait is the end of the wait. -/
def requireTimeLeft (error : Thrown) : CallEff Unit := do
  if error.code = some GrpcStatus.deadlineExceeded then
    let time ← tell .now
    if deadline ≤ time then throw (outOfTime refusedEpoch times.epochWaitMs)

def afterSending (epoch : ℕ) : Except Thrown TransactionResponseData → CallEff Sending
  | .ok answer => return .answered answer
  | .error error => do
    if error.isEpochClosingRefusal then
      askFor (.recordClosingRefusal epoch) id
      return .refusedAsClosing
    else
      requireTimeLeft times deadline refusedEpoch error
      if error.code ≠ some GrpcStatus.unavailable then throw error
      else return .notAnswered

variable (client : DWalletGrpcClient)

/-- Send the rebuilt request once, in the time left. -/
def sendOnce (epoch : ℕ) (request : SubmitTransactionRequest) : CallEff Sending := do
  let time ← tell .now
  if deadline - time ≤ 0 then throw (outOfTime refusedEpoch times.epochWaitMs)
  else
    let outcome ← Eff.attempt
      (client.submitTransaction request (min times.timeoutMs (deadline - time)))
    afterSending times deadline refusedEpoch epoch outcome

/-- Send the same request until it is answered, or refused as closing. -/
def resend (epoch : ℕ) (request : SubmitTransactionRequest) :
    ℕ → CallEff (Option TransactionResponseData)
  | 0 => Eff.cut
  | fuel + 1 => do
    match ← sendOnce times deadline refusedEpoch client epoch request with
    | .answered answer => return some answer
    | .refusedAsClosing => return none
    | .notAnswered =>
      pause times deadline
      resend epoch request fuel

end Waiting

/-- Sign for a later epoch and send, once for each epoch that refuses. `tries`
bounds how often the epoch is read, and a request sent, in one round. -/
def carry (times : EpochCloseTimes) (deadline : ℤ) (client : DWalletGrpcClient) (tries : ℕ) :
    ℕ → ℕ → CallEff TransactionResponseData
  | 0, _ => Eff.cut
  | fuel + 1, refusedEpoch => do
    let epoch ← waitForEpochAfter times deadline refusedEpoch tries
    let built ← buildBeforeDeadline times deadline refusedEpoch epoch
    let request ← copyOf built
    match ← resend times deadline refusedEpoch client epoch request tries with
    | some answer => return answer
    | none => carry times deadline client tries fuel epoch

namespace DWalletGrpcClient

variable (client : DWalletGrpcClient)

/-- What the first submission leaves to do: nothing but the refusal of a closing
epoch is carried on. -/
def afterFirst (epoch : ℕ) : Except Thrown TransactionResponseData →
    CallEff (Option TransactionResponseData)
  | .ok answer => return some answer
  | .error error => do
    if error.isEpochClosingRefusal then
      askFor (.recordClosingRefusal epoch) id
      return none
    else throw error

def submitTransactionAcrossEpochClose (params : EpochCloseParams) (fuel : ℕ) :
    CallEff TransactionResponseData := do
  let times ← (params.times : CallEff EpochCloseTimes)
  let refusedEpoch ← askFor .currentEpoch id
  tell (.callBuild refusedEpoch)
  let first ← askFor .built id
  let request ← copyOf first
  let outcome ← Eff.attempt (client.submitTransaction request times.timeoutMs)
  match ← afterFirst refusedEpoch outcome with
  | some answer => return answer
  | none =>
    let deadline := (← tell .now) + times.epochWaitMs
    carry times deadline client fuel fuel refusedEpoch

end DWalletGrpcClient

end Ika
