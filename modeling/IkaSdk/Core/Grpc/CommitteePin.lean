import IkaSdk.Core.Grpc.Committee
import IkaSdk.Core.Grpc.Transport
import IkaSdk.Lib.Interleaving

/-! The committee check of one client's pinned connections. Every setup of a
channel is a task of its own, and all of them share the pin: the members of the
committees that passed, and the chain's epoch as it was last read. -/

namespace Ika

open Wire Interaction

/-! ## The pin -/

def VerifiedCommittees.committees (verified : VerifiedCommittees) : List VerifiedCommittee :=
  verified.committee :: verified.nextCommittee.toList

def VerifiedCommittee.networkKeys (committee : VerifiedCommittee) : List Bytes :=
  committee.members.map (·.networkPubkey)

structure VerifiedMembers where
  networkKeysByEpoch : List (ℕ × List Bytes)
deriving DecidableEq, Repr

namespace VerifiedMembers

/-- The entry of the committee's epoch, in the place of the one before it. -/
def set (members : VerifiedMembers) (committee : VerifiedCommittee) : VerifiedMembers :=
  let held := members.networkKeysByEpoch
  let entry := (committee.epoch, committee.networkKeys)
  if held.any (·.1 = committee.epoch) then
    ⟨held.map fun other => if other.1 = committee.epoch then entry else other⟩
  else ⟨held ++ [entry]⟩

def dropOlderThan (members : VerifiedMembers) (chainEpoch : ℕ) : VerifiedMembers :=
  ⟨members.networkKeysByEpoch.filter fun held => decide (chainEpoch ≤ held.1)⟩

def add (members : VerifiedMembers) (verified : VerifiedCommittees) : VerifiedMembers :=
  (verified.committees.foldl set members).dropOlderThan verified.chainEpoch

def contains (members : VerifiedMembers) (networkKey : Bytes) : Bool :=
  members.networkKeysByEpoch.any fun held => held.2.contains networkKey

end VerifiedMembers

structure CommitteePin where
  members : VerifiedMembers
  /-- The highest chain epoch read so far. -/
  chainEpoch : Option ℕ
  chainEpochReadAt : ℤ
deriving DecidableEq, Repr

namespace CommitteePin

def new : CommitteePin := ⟨⟨[]⟩, none, 0⟩

/-- A read of an older epoch than one read before does not move the epoch back. -/
def highest (pin : CommitteePin) (chainEpoch : ℕ) : ℕ :=
  match pin.chainEpoch with
  | none => chainEpoch
  | some held => if held < chainEpoch then chainEpoch else held

def recordChainEpoch (pin : CommitteePin) (now : ℤ) (chainEpoch : ℕ) : CommitteePin where
  members := pin.members.dropOlderThan (pin.highest chainEpoch)
  chainEpoch := some (pin.highest chainEpoch)
  chainEpochReadAt := now

/-- Whether the chain's epoch has to be read again before a cached key is accepted. -/
def isStale (pin : CommitteePin) (chainEpochMaxAgeMs now : ℤ) : Bool :=
  pin.chainEpoch.isNone || decide (chainEpochMaxAgeMs < now - pin.chainEpochReadAt)

/-- The step that keeps the committees of a checked answer and says whether one of
them lists the key. -/
def keepCommittees (pin : CommitteePin) (now : ℤ) (verified : VerifiedCommittees)
    (networkKey : Bytes) : Except String Bool × CommitteePin :=
  let pin := pin.recordChainEpoch now verified.chainEpoch
  let heldEpoch := pin.chainEpoch.getD verified.chainEpoch
  if verified.committee.epoch < heldEpoch then
    (.error (s!"the validator answered the committee of epoch {verified.committee.epoch}, " ++
      s!"older than the chain's epoch {heldEpoch} read before"), pin)
  else
    (.ok (verified.committees.any fun committee => committee.networkKeys.contains networkKey),
      { pin with members := (pin.members.add verified).dropOlderThan heldEpoch })

/-- The refusal of a channel's own reconnect, if it is refused. -/
def reconnectCheck (pin : CommitteePin) (chainEpochMaxAgeMs now : ℤ) (networkKey : Bytes) :
    Option String :=
  let readAge := now - pin.chainEpochReadAt
  if chainEpochMaxAgeMs < readAge then
    some (s!"the chain's epoch was last read {readAge} ms ago, more than " ++
      s!"{chainEpochMaxAgeMs} ms; the connection is set up again")
  else if pin.members.contains networkKey then none
  else some (s!"the network key {toHex networkKey} is no longer the network key of a member " ++
    "of a verified committee")

end CommitteePin

/-! ## Operations -/

inductive PinOp
  | now
  | pause (ms : ℤ)
  | fetchServedCertificate (endpoint : String)
  | getCommittee (endpoint : String) (networkKey : Bytes) (deadline : ℤ)
  | currentEpoch
  | isRegisteredNetworkKey (noaPublicKey : Bytes)
  | recordChainEpoch (chainEpoch : ℕ)
  | isStale
  | contains (networkKey : Bytes)
  | keepCommittees (verified : VerifiedCommittees) (networkKey : Bytes)
  | reconnectCheck (networkKey : Bytes)
deriving DecidableEq, Repr

abbrev PinOp.Ans : PinOp → Type
  | now => ℤ
  | pause _ => Unit
  | fetchServedCertificate _ => Except String Bytes
  | getCommittee .. => Except GrpcError Bytes
  | currentEpoch => Except SdkError ℕ
  | isRegisteredNetworkKey _ => Except SdkError Bool
  | recordChainEpoch _ => Unit
  | isStale => Bool
  | contains _ => Bool
  | keepCommittees .. => Except String Bool
  | reconnectCheck _ => Option String

abbrev pinInterface : Interface := ⟨PinOp, PinOp.Ans⟩

/-- Which operations act on the pin, and how; the others wait. -/
def pinSharing (chainEpochMaxAgeMs : ℕ) : Sharing pinInterface CommitteePin where
  act
  | .now => some fun time pin => (time, pin)
  | .recordChainEpoch chainEpoch => some fun time pin => ((), pin.recordChainEpoch time chainEpoch)
  | .isStale => some fun time pin => (pin.isStale chainEpochMaxAgeMs time, pin)
  | .contains networkKey => some fun _ pin => (pin.members.contains networkKey, pin)
  | .keepCommittees verified networkKey => some fun time pin =>
      pin.keepCommittees time verified networkKey
  | .reconnectCheck networkKey => some fun time pin =>
      (pin.reconnectCheck chainEpochMaxAgeMs time networkKey, pin)
  | _ => none

/-- What a setup throws. The transport records a key as refused for the error of an
unexpected network key, and for no other. -/
inductive PinThrown
  | unexpectedNetworkKey (message : String)
  | call (error : GrpcError)
  | reader (error : SdkError)
  | error (message : String)
deriving DecidableEq, Repr

def PinThrown.message : PinThrown → String
  | unexpectedNetworkKey message => message
  | call failure => failure.message
  | reader failure => failure.message
  | error message => message

/-- A call that got no answer. -/
def isUnansweredCall : PinThrown → Bool
  | .call error => error.code == some GrpcStatus.unavailable ||
      error.code == some GrpcStatus.deadlineExceeded
  | _ => false

abbrev PinEff (α : Type) := Eff pinInterface PinThrown α

namespace PinEff

/-- An operation that never throws. -/
def tell (op : PinOp) : PinEff (PinOp.Ans op) := Eff.liftOp (I := pinInterface) op

/-- An operation that throws what `outcome` makes of its answer. -/
def askFor {α : Type} (op : PinOp) (outcome : PinOp.Ans op → Except PinThrown α) : PinEff α :=
  Eff.ofProg (.call (I := pinInterface) op fun a => .pure (outcome a))

end PinEff

/-! ## Certificates -/

/-- Node's reader of a certificate: the key it holds, and whether every rule but
the one about its key holds at a time. -/
structure X509 where
  certificateNetworkKey (der : Bytes) : Except String Bytes
  checkCertificateExceptKey (der : Bytes) (now : ℤ) : Except String Unit

def checkServedNetworkKeyCertificate (x509 : X509) (der : Bytes) (now : ℤ) :
    Except String Bytes := do
  let servedKey ← x509.certificateNetworkKey der
  x509.checkCertificateExceptKey der now
  return servedKey

def checkNetworkKeyCertificate (x509 : X509) (der expectedNetworkKey : Bytes) (now : ℤ) :
    Except String Unit := do
  let servedKey ← x509.certificateNetworkKey der
  ensure (servedKey = expectedNetworkKey)
    (s!"the served certificate's key {toHex servedKey} is not the validator's network key " ++
      s!"{toHex expectedNetworkKey}; refusing the server")
  x509.checkCertificateExceptKey der now

def keyCheckOf (x509 : X509) (der networkKey : Bytes) (now : ℤ) : Option String :=
  match checkNetworkKeyCertificate x509 der networkKey now with
  | .ok _ => none
  | .error refusal => some refusal

/-! ## The tasks -/

def committeeReadTimeoutMs : ℤ := 15000

/-- The end of a read of the chain's epoch, which is recorded at once. -/
def recordRead : Except SdkError ℕ → Prog pinInterface (Except SdkError ℕ)
  | .error error => .pure (.error error)
  | .ok chainEpoch => do
    let _ ← Prog.perform (I := pinInterface) (.recordChainEpoch chainEpoch)
    return .ok chainEpoch

/-- The reader that a committee check uses. -/
def recordingReader : (op : CommitteeOp) → Prog pinInterface (CommitteeOp.Ans op)
  | .now => Prog.perform (I := pinInterface) .now
  | .sleep ms => Prog.perform (I := pinInterface) (.pause ms)
  | .currentEpoch => Prog.perform (I := pinInterface) .currentEpoch >>= recordRead
  | .isRegisteredNetworkKey noaPublicKey =>
    Prog.perform (I := pinInterface) (.isRegisteredNetworkKey noaPublicKey)

/-- The channel of a validator, built with one certificate as its root. -/
structure PinnedChannel where
  endpoint : String
  certificate : Bytes
  networkKey : Bytes
deriving DecidableEq, Repr

section Tasks

variable (P : Primitives) (blake2b256 : Bytes → Bytes) (x509 : X509)
  (decodeCommitteeAnswer : Bytes → Except String CommitteeAnswer) (retry : ChainEpochRetry)
  (fuel : ℕ)

/-- The answer of `GetCommittee`, asked for again while the committee is not signed. -/
def readAnswer (endpoint : String) (networkKey : Bytes) (setupDeadline : ℤ) :
    ℕ → PinEff Bytes
  | 0 => Eff.cut
  | fuel + 1 => do
    let now ← PinEff.tell .now
    let deadline := min (now + committeeReadTimeoutMs) setupDeadline
    match ← PinEff.tell (.getCommittee endpoint networkKey deadline) with
    | .ok response => return response
    | .error error => do
      let now ← PinEff.tell .now
      if error.code ≠ some GrpcStatus.failedPrecondition ∨ setupDeadline ≤ now + retry.pauseMs then
        throw (.call error)
      PinEff.tell (.pause retry.pauseMs)
      readAnswer endpoint networkKey setupDeadline fuel

def verifyRecorded (answer : CommitteeAnswer) : PinEff VerifiedCommittees :=
  Eff.ofProg ((verifyCommitteeAnswer P blake2b256 answer retry fuel).run.interp recordingReader >>=
    fun outcome => .pure (outcome.mapError .reader))

def readCommittee (endpoint : String) (networkKey : Bytes) (setupDeadline : ℤ) :
    PinEff Bool := do
  let response ← readAnswer retry endpoint networkKey setupDeadline fuel
  let answer ← (decodeCommitteeAnswer response).mapError PinThrown.error
  let verified ← verifyRecorded P blake2b256 retry fuel answer
  PinEff.askFor (.keepCommittees verified networkKey) (·.mapError .error)

def readCommitteeFrom (endpoint : String) (networkKey : Bytes) (setupDeadline : ℤ) :
    PinEff Bool :=
  tryCatch (readCommittee P blake2b256 decodeCommitteeAnswer retry fuel endpoint networkKey
      setupDeadline)
    fun error =>
      if isUnansweredCall error then throw error
      else throw (.error s!"the committee read from {endpoint} failed: {error.message}")

def refreshChainEpoch : PinEff Unit := do
  if ← PinEff.tell .isStale then
    let chainEpoch ← PinEff.askFor .currentEpoch (·.mapError .reader)
    PinEff.tell (.recordChainEpoch chainEpoch)

def requireMember (endpoint : String) (networkKey : Bytes) (setupDeadline : ℤ) :
    Bool → PinEff Unit
  | true => return ()
  | false => do
    let isMember ← readCommitteeFrom P blake2b256 decodeCommitteeAnswer retry fuel endpoint
      networkKey setupDeadline
    ensure isMember (PinThrown.unexpectedNetworkKey
      (s!"the validator at {endpoint} serves the network key {toHex networkKey}, which is " ++
        "not the network key of a member of the committee the network signed"))

def connect (endpoint : String) (setupDeadline : ℤ) : PinEff PinnedChannel := do
  let certificate ← PinEff.askFor (.fetchServedCertificate endpoint) (·.mapError .error)
  let now ← PinEff.tell .now
  let networkKey ← (checkServedNetworkKeyCertificate x509 certificate now).mapError PinThrown.error
  refreshChainEpoch
  let held ← PinEff.tell (.contains networkKey)
  requireMember P blake2b256 decodeCommitteeAnswer retry fuel endpoint networkKey setupDeadline held
  return { endpoint, certificate, networkKey }

/-- The check of the server's certificate on every connection of a channel. -/
def checkServerIdentity (networkKey certificate : Bytes) : Prog pinInterface (Option String) := do
  let now ← Prog.perform (I := pinInterface) .now
  match keyCheckOf x509 certificate networkKey now with
  | some refusal => return some refusal
  | none => Prog.perform (I := pinInterface) (.reconnectCheck networkKey)

inductive PinResult
  | connected (outcome : Except PinThrown PinnedChannel)
  | checked (refusal : Option String)

/-- The tasks of a client: setups of channels, and the checks of their connections. -/
inductive PinTask : Prog pinInterface PinResult → Prop
  | connect (endpoint : String) (setupDeadline : ℤ) :
      PinTask ((connect P blake2b256 x509 decodeCommitteeAnswer retry fuel endpoint
        setupDeadline).run >>= fun outcome => .pure (.connected outcome))
  | check (networkKey certificate : Bytes) :
      PinTask (checkServerIdentity x509 networkKey certificate >>= fun refusal =>
        .pure (.checked refusal))

end Tasks

abbrev PinWorld := Interaction.World pinInterface CommitteePin PinResult

end Ika
