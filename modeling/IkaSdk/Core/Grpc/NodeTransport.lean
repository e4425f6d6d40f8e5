import IkaSdk.Core.Grpc.CommitteePin
import IkaSdk.Core.Grpc.WebTransport

/-! The Node transport: one grpc-js channel for each validator, built on first use when
it is pinned, renewed after a connection failure, and closed with the transport. Each
function here is a stretch of code that nothing interrupts; the steps are all the orders
in which the calls, the setups, the timers and the promises' callbacks may come. -/

namespace Ika

open Wire

/-! ## Errors -/

def ikaDWalletGrpcServerName : String := "ika-dwallet-grpc"

def pinnedSetupWindowMs : ℤ := 120000

def startsWith (text part : String) : Bool := decide (part.toList <+: text.toList)

/-- Whether a call reached no server. grpc-js gives the status of a validator's own
answers for that too, so the details tell them apart. -/
def isConnectionFailure (error : GrpcError) : Bool :=
  let details := error.details.getD ""
  error.code = some GrpcStatus.unavailable && !isEpochClosingRefusal error &&
    (startsWith details "No connection established" || startsWith details "Connection dropped" ||
      includes details "ECONNREFUSED" || includes details "Connection refused")

/-- The error of a call on a client after its `close()`. -/
def closedClientError : GrpcError := ⟨none, none, "the client is closed"⟩

/-- What grpc-js throws for a call on a closed channel. -/
def channelShutDown : GrpcError := ⟨none, none, "Channel has been shut down"⟩

/-! ## Validators and channels -/

structure TlsOptions where
  rootCert : Option Bytes
  servername : Option String
deriving DecidableEq, Repr

structure GrpcValidatorEndpoint where
  endpoint : String
  tls : Option TlsOptions
  insecure : Bool
  networkPublicKey : Option Bytes
deriving DecidableEq, Repr

inductive ChannelCredentials
  | createSsl (rootCert : Option Bytes)
  | createInsecure
  | pinned (certificate networkKey : Bytes)
deriving DecidableEq, Repr

/-- What a channel is built for: the calls of a validator, with or without a setup, or
the committee read of a setup. -/
inductive ChannelUse
  | direct
  | setup (build : ℕ)
  | committeeRead (build : ℕ)
deriving DecidableEq, Repr

structure Channel where
  validatorIndex : ℕ
  endpoint : String
  credentials : ChannelCredentials
  servername : Option String
  use : ChannelUse
deriving DecidableEq, Repr

/-- A channel, by its place among those built so far. -/
abbrev Service := ℕ

/-- Who closes a channel. -/
inductive Closer
  | build
  | committeeRead
  | renewal
  | close
deriving DecidableEq, Repr

/-- What is done with a grpc-js client. -/
inductive ClientUse
  | call (method : String) (deadline : ℤ)
  | close (closer : Closer)
deriving DecidableEq, Repr

def ClientUse.isClose : ClientUse → Bool
  | call .. => false
  | close _ => true

/-! ## The transport and what it waits for -/

/-- The promise of a pinned channel. -/
inductive BuildState
  | connecting
  /-- The committee is read over a channel of the setup's own. -/
  | reading (service : Service)
  | committeeRead
  /-- The channel is there, and the callback of `then` is queued. -/
  | connected (service : Service)
  /-- The callback of `finally` is queued. -/
  | settling (outcome : Except GrpcError Service)
  | settled (outcome : Except GrpcError Service)
deriving DecidableEq, Repr

structure Build where
  validatorIndex : ℕ
  setupDeadline : ℤ
  state : BuildState
deriving DecidableEq, Repr

inductive CallState
  /-- The call waits for a setup until the end of its own window. -/
  | waiting (build : ℕ) (deadline : ℤ)
  | ready (service : Service)
  | started (service : Service)
  | ended (outcome : Except GrpcError UnaryAnswer)
deriving DecidableEq, Repr

structure Call where
  validatorIndex : ℕ
  method : String
  request : Bytes
  deadline : ℤ
  setupStarted : ℤ
  state : CallState
deriving DecidableEq, Repr

/-- The transport's own fields come first, then what the runtime and grpc-js hold for
it. A build and a call go by their places in the lists. -/
structure NodeTransport where
  service : Option Service
  furtherServices : List (Option Service)
  /-- The pinned channels being built, by validator index. -/
  pinnedBuilds : ℕ → Option ℕ
  closed : Bool
  /-- The calls that wait for a pinned setup. -/
  setupWaits : List ℕ
  channels : List Channel
  clientUses : List (Service × ClientUse)
  builds : List Build
  calls : List Call
  /-- The waits that `close()` has ended. -/
  endedWaits : List ℕ
  time : ℤ

namespace NodeTransport

section Functions

variable (validators : List GrpcValidatorEndpoint) (setupWindowMs : ℤ)
  (startsCall : List ClientUse → Bool) (t : NodeTransport)

/-! ## grpc-js -/

def serviceWith (channel : Channel) : NodeTransport :=
  { t with channels := t.channels ++ [channel] }

/-- The channel that `serviceWith` builds. -/
def newService : Service := t.channels.length

def closeClient (service : Service) (closer : Closer) : NodeTransport :=
  { t with clientUses := t.clientUses ++ [(service, .close closer)] }

/-- What was done with a channel so far. -/
def usesOf (service : Service) : List ClientUse :=
  (t.clientUses.filter fun entry => entry.1 = service).map (·.2)

/-- A call on a channel, if grpc-js starts it. -/
def callOn (service : Service) (method : String) (deadline : ℤ) : Bool × NodeTransport :=
  if startsCall (t.usesOf service) then
    (true, { t with clientUses := t.clientUses ++ [(service, .call method deadline)] })
  else (false, t)

/-! ## The services -/

def serviceOf : ℕ → Option Service
  | 0 => t.service
  | index + 1 => (t.furtherServices[index]?).join

def setService (index : ℕ) (service : Option Service) : NodeTransport :=
  match index with
  | 0 => { t with service }
  | index + 1 => { t with furtherServices := t.furtherServices.set index service }

/-- The channel of a validator that needs no setup; none for a pinned one. -/
def serviceAt (index : ℕ) : Option Channel := do
  let validator ← validators[index]?
  match validator.tls with
  | some tls =>
    return ⟨index, validator.endpoint, .createSsl tls.rootCert, tls.servername, .direct⟩
  | none =>
    if validator.insecure then
      return ⟨index, validator.endpoint, .createInsecure, none, .direct⟩
    else none

/-- `serviceAt(index)` in the place of the validator's service. -/
def renewService (index : ℕ) : NodeTransport :=
  match serviceAt validators index with
  | some channel => (t.serviceWith channel).setService index (some t.newService)
  | none => t.setService index none

def outOfTime (index : ℕ) : GrpcError :=
  let endpoint := (validators[index]?.map (·.endpoint)).getD ""
  { code := some GrpcStatus.deadlineExceeded
    details := some "pinned TLS setup passed its window"
    message := s!"no pinned TLS connection to {endpoint}: the certificate and " ++
      s!"the committee were not read within the {setupWindowMs} ms setup window" }

def noWayToConnect (endpoint : String) : String :=
  s!"no way to connect to the validator at {endpoint}: pass a committeeReader, " ++
    "for TLS pinned to a member of the committee the network signed; or its " ++
    "networkPublicKey, for TLS pinned to that one key; or tls; or insecure: true for a " ++
    "plaintext localnet node"

/-- A transport that holds no channel. -/
def empty (time : ℤ) : NodeTransport where
  service := none
  furtherServices := List.replicate (validators.length - 1) none
  pinnedBuilds := fun _ => none
  closed := false
  setupWaits := []
  channels := []
  clientUses := []
  builds := []
  calls := []
  endedWaits := []
  time := time

/-- The constructor, with the services in their order. -/
def create (hasCommitteeReader : Bool) (time : ℤ) : Except String NodeTransport :=
  match validators.find? fun validator => validator.tls.isNone && !validator.insecure &&
      validator.networkPublicKey.isNone && !hasCommitteeReader with
  | some validator => .error (noWayToConnect validator.endpoint)
  | none =>
    if validators.isEmpty then .error "Cannot read properties of undefined"
    else .ok ((List.range validators.length).foldl (renewService validators)
      (empty validators time))

/-! ## Pinned setups -/

/-- The failure of a setup, with the status of a call that reached no server. -/
def pinnedSetupFailure (index : ℕ) (reason : String) : GrpcError :=
  match validators[index]? with
  | some validator => ⟨some GrpcStatus.unavailable, some reason,
      s!"no pinned TLS connection to {validator.endpoint}: {reason}"⟩
  | none => ⟨none, none, "Cannot read properties of undefined"⟩

def setBuild (build : ℕ) (state : BuildState) : NodeTransport :=
  { t with builds := t.builds.modify build fun b => { b with state } }

def setCall (call : ℕ) (state : CallState) : NodeTransport :=
  { t with calls := t.calls.modify call fun c => { c with state } }

/-- A setup begins. -/
def pinnedServiceAt (index : ℕ) (setupDeadline : ℤ) : NodeTransport :=
  { t with builds := t.builds ++ [⟨index, setupDeadline, .connecting⟩] }

/-- The setup's channel for its own committee read. -/
def openCommitteeRead (build index : ℕ) (endpoint : String) (certificate networkKey : Bytes) :
    NodeTransport :=
  (t.serviceWith ⟨index, endpoint, .pinned certificate networkKey,
    some ikaDWalletGrpcServerName, .committeeRead build⟩).setBuild build (.reading t.newService)

def endCommitteeRead (build : ℕ) (service : Service) : NodeTransport :=
  (t.closeClient service .committeeRead).setBuild build .committeeRead

/-- The setup ends with the validator's channel. -/
def connectSetup (build index : ℕ) (endpoint : String) (certificate networkKey : Bytes) :
    NodeTransport :=
  (t.serviceWith ⟨index, endpoint, .pinned certificate networkKey,
    some ikaDWalletGrpcServerName, .setup build⟩).setBuild build (.connected t.newService)

/-- Drop a build that is still the validator's entry. -/
def forget (index build : ℕ) : NodeTransport :=
  if t.pinnedBuilds index = some build then
    { t with pinnedBuilds := Function.update t.pinnedBuilds index none }
  else t

/-- The callback of `then`: what the build gives to those who wait, and what becomes of
its channel. -/
def installBuilt (build index : ℕ) (service : Service) :
    Except GrpcError Service × NodeTransport :=
  if t.closed then (.error closedClientError, t.closeClient service .build)
  else if t.pinnedBuilds index ≠ some build then
    match t.serviceOf index with
    | some installedByCurrent => (.ok installedByCurrent, t.closeClient service .build)
    | none => (.error (outOfTime validators setupWindowMs index), t.closeClient service .build)
  else
    match t.serviceOf index with
    | some installed => (.ok installed, t.closeClient service .build)
    | none => (.ok service, t.setService index (some service))

def thenBuilt (build index : ℕ) (service : Service) : NodeTransport :=
  let (outcome, t) := t.installBuilt validators setupWindowMs build index service
  t.setBuild build (.settling outcome)

def finallyBuilt (build index : ℕ) (outcome : Except GrpcError Service) : NodeTransport :=
  (t.forget index build).setBuild build (.settled outcome)

/-! ## Calls -/

/-- What `serviceReady` comes to before it first waits. -/
inductive Ready
  | throws (error : GrpcError)
  | returns (service : Service)
  | waits (build : ℕ) (deadline : ℤ)

/-- The start of `serviceReady`, for the call that would wait. -/
def serviceReady (index wait : ℕ) : Ready × NodeTransport :=
  if t.closed then (.throws closedClientError, t)
  else
    match t.serviceOf index with
    | some current => (.returns current, t)
    | none =>
      let deadline := t.time + setupWindowMs
      if deadline - t.time ≤ 0 then (.throws (outOfTime validators setupWindowMs index), t)
      else
        let (build, t) := match t.pinnedBuilds index with
          | some building => (building, t)
          | none => (t.builds.length, t.pinnedServiceAt index deadline)
        (.waits build deadline,
          { t with
            pinnedBuilds := Function.update t.pinnedBuilds index (some build)
            setupWaits := t.setupWaits ++ [wait] })

def Ready.callState : Ready → CallState
  | throws error => .ended (.error error)
  | returns service => .ready service
  | waits build deadline => .waiting build deadline

def unary (index : ℕ) (method : String) (request : Bytes) (deadline : ℤ) : NodeTransport :=
  let (ready, t) := t.serviceReady validators setupWindowMs index t.calls.length
  { t with calls := t.calls ++ [⟨index, method, request, deadline, t.time, ready.callState⟩] }

/-- A wait for a setup ends. -/
def endWait (call : ℕ) (state : CallState) : NodeTransport :=
  { t.setCall call state with setupWaits := t.setupWaits.erase call }

def afterBuild : Except GrpcError Service → CallState
  | .ok service => .ready service
  | .error error => .ended (.error error)

/-- The time that the setup took is not counted against the call. -/
def send (call : ℕ) (c : Call) (service : Service) : NodeTransport :=
  match t.callOn startsCall service c.method (c.deadline + (t.time - c.setupStarted)) with
  | (true, t) => t.setCall call (.started service)
  | (false, t) => t.setCall call (.ended (.error channelShutDown))

/-- A channel that failed to connect is replaced, and closed. A pinned validator gets no
new one here. -/
def renewAfterConnectionFailure (service : Service) (error : GrpcError) : NodeTransport :=
  if !isConnectionFailure error || t.closed then t
  else if t.service = some service then (t.renewService validators 0).closeClient service .renewal
  else
    let index := t.furtherServices.idxOf (some service)
    if index < t.furtherServices.length then
      (t.renewService validators (index + 1)).closeClient service .renewal
    else t

def answer (call : ℕ) (service : Service) : Except GrpcError UnaryAnswer → NodeTransport
  | .ok answer => t.setCall call (.ended (.ok answer))
  | .error error => (t.renewAfterConnectionFailure validators service error).setCall call
      (.ended (.error error))

/-! ## Closing -/

/-- The services that `close()` goes through. -/
def services : List Service := (t.service :: t.furtherServices).filterMap id

def close : NodeTransport where
  service := t.service
  furtherServices := t.furtherServices
  pinnedBuilds := t.pinnedBuilds
  closed := true
  setupWaits := []
  channels := t.channels
  clientUses := t.clientUses ++ t.services.map fun service => (service, .close .close)
  builds := t.builds
  calls := t.calls
  endedWaits := t.endedWaits ++ t.setupWaits
  time := t.time

end Functions

/-! ## Steps -/

section Steps

variable (validators : List GrpcValidatorEndpoint) (setupWindowMs : ℤ)
  (startsCall : List ClientUse → Bool)

/-- Whether the validator's key is the one that a setup may pin. -/
def MayPin (validator : GrpcValidatorEndpoint) (networkKey : Bytes) : Prop :=
  ∀ networkPublicKey, validator.networkPublicKey = some networkPublicKey →
    networkKey = networkPublicKey

inductive Step (t : NodeTransport) : NodeTransport → Prop
  | calls (index : ℕ) (method : String) (request : Bytes) (deadline : ℤ) :
      Step t (t.unary validators setupWindowMs index method request deadline)
  /-- A setup goes on to read the committee from the validator. -/
  | opensRead {b : ℕ} {build : Build} {validator : GrpcValidatorEndpoint}
      (certificate networkKey : Bytes) : t.builds[b]? = some build →
      build.state = .connecting → validators[build.validatorIndex]? = some validator →
      validator.networkPublicKey = none →
      Step t (t.openCommitteeRead b build.validatorIndex validator.endpoint certificate networkKey)
  | asksCommittee {b : ℕ} {build : Build} {service : Service} (deadline : ℤ) :
      t.builds[b]? = some build → build.state = .reading service →
      Step t (t.callOn startsCall service "GetCommittee" deadline).2
  | endsRead {b : ℕ} {build : Build} {service : Service} : t.builds[b]? = some build →
      build.state = .reading service → Step t (t.endCommitteeRead b service)
  | connects {b : ℕ} {build : Build} {validator : GrpcValidatorEndpoint}
      {certificate networkKey : Bytes} : t.builds[b]? = some build →
      build.state = .connecting ∨ build.state = .committeeRead →
      validators[build.validatorIndex]? = some validator → MayPin validator networkKey →
      Step t (t.connectSetup b build.validatorIndex validator.endpoint certificate networkKey)
  | fails {b : ℕ} {build : Build} (reason : String) : t.builds[b]? = some build →
      build.state = .connecting ∨ build.state = .committeeRead →
      Step t (t.setBuild b
        (.settling (.error (pinnedSetupFailure validators build.validatorIndex reason))))
  | thenRuns {b : ℕ} {build : Build} {service : Service} : t.builds[b]? = some build →
      build.state = .connected service →
      Step t (t.thenBuilt validators setupWindowMs b build.validatorIndex service)
  | finallyRuns {b : ℕ} {build : Build} {outcome : Except GrpcError Service} :
      t.builds[b]? = some build → build.state = .settling outcome →
      Step t (t.finallyBuilt b build.validatorIndex outcome)
  /-- A call whose setup has ended goes on. -/
  | resumes {c b : ℕ} {call : Call} {build : Build} {deadline : ℤ}
      {outcome : Except GrpcError Service} : t.calls[c]? = some call →
      call.state = .waiting b deadline → t.builds[b]? = some build →
      build.state = .settled outcome → Step t (t.endWait c (afterBuild outcome))
  | waitEnded {c b : ℕ} {call : Call} {deadline : ℤ} : t.calls[c]? = some call →
      call.state = .waiting b deadline → c ∈ t.endedWaits →
      Step t (t.endWait c (.ended (.error closedClientError)))
  | windowPasses {c b : ℕ} {call : Call} {deadline : ℤ} : t.calls[c]? = some call →
      call.state = .waiting b deadline → deadline ≤ t.time →
      Step t ((t.forget call.validatorIndex b).endWait c
        (.ended (.error (outOfTime validators setupWindowMs call.validatorIndex))))
  | sends {c : ℕ} {call : Call} {service : Service} : t.calls[c]? = some call →
      call.state = .ready service → Step t (t.send startsCall c call service)
  | answers {c : ℕ} {call : Call} {service : Service} (outcome : Except GrpcError UnaryAnswer) :
      t.calls[c]? = some call → call.state = .started service →
      Step t (t.answer validators c service outcome)
  | closes : Step t t.close
  | passes {time : ℤ} : t.time ≤ time → Step t { t with time }

/-- What any order of steps leads to from a new transport. -/
inductive Reaches : NodeTransport → Prop
  | created {hasCommitteeReader : Bool} {time : ℤ} {t : NodeTransport} :
      create validators hasCommitteeReader time = .ok t → Reaches t
  | step {t t' : NodeTransport} : Reaches t →
      Step validators setupWindowMs startsCall t t' → Reaches t'

end Steps

end NodeTransport

end Ika
