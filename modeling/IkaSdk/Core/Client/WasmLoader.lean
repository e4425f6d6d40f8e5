import Mathlib.Data.Int.Notation
import Mathlib.Data.List.Basic

/-! The computations that run in a worker: the calls sent to each worker, the worker's answers,
its failure and its end, in any order. -/

namespace Ika.Wasm

variable {Value : Type}

/-- A call that the calling thread sends to the worker. -/
structure WasmCall (Value : Type) where
  id : ℕ
  name : String
  args : List Value
deriving DecidableEq, Repr

inductive WasmCallAnswer (Value : Type)
  | result (id : ℕ) (value : Value)
  | error (id : ℕ) (message : String)
deriving DecidableEq, Repr

/-- What the promise of a call settles with. -/
inductive Outcome (Value : Type)
  | resolved (value : Value)
  | rejected (message : String)
deriving DecidableEq, Repr

def WasmCallAnswer.id : WasmCallAnswer Value → ℕ
  | result id _ => id
  | error id _ => id

def WasmCallAnswer.outcome : WasmCallAnswer Value → Outcome Value
  | result _ value => .resolved value
  | error _ message => .rejected message

def outcomeOf : Except String Value → Outcome Value
  | .ok value => .resolved value
  | .error message => .rejected message

/-- The worker's program: the module's function that the call names, run on the arguments. -/
def run (wasm : String → List Value → Except String Value) (call : WasmCall Value) :
    WasmCallAnswer Value :=
  match wasm call.name call.args with
  | .ok value => .result call.id value
  | .error message => .error call.id message

/-! ## The calls sent to one worker -/

/-- A worker: what was posted to it, whether it keeps the process alive, and whether it reported
a failure or was told to end. -/
structure WorkerPort (Value : Type) where
  posted : List (WasmCall Value) := []
  referenced : Bool := false
  stopped : Bool := false
deriving DecidableEq, Repr

/-- Each id with the number of the promise that waits for its answer. -/
structure WorkerCalls (Value : Type) where
  port : WorkerPort Value := {}
  pending : List (ℕ × ℕ) := []
  nextId : ℕ := 0
deriving DecidableEq, Repr

namespace WorkerCalls

def ref (calls : WorkerCalls Value) : WorkerCalls Value :=
  { calls with port := { calls.port with referenced := true } }

def unref (calls : WorkerCalls Value) : WorkerCalls Value :=
  { calls with port := { calls.port with referenced := false } }

def post (calls : WorkerCalls Value) (call : WasmCall Value) : WorkerCalls Value :=
  { calls with port := { calls.port with posted := calls.port.posted ++ [call] } }

/-- One call: its id, and the calls once it was posted or the port refused to post it. -/
def call (calls : WorkerCalls Value) (name : String) (args : List Value) (promise : ℕ)
    (posts : Bool) : WasmCall Value × WorkerCalls Value :=
  let call : WasmCall Value := ⟨calls.nextId, name, args⟩
  let calls := { calls with nextId := calls.nextId + 1 }
  let calls := if calls.pending = [] then calls.ref else calls
  -- the id is a new one, so that the entry goes last
  let calls := { calls with pending := calls.pending ++ [(call.id, promise)] }
  (call, if posts then calls.post call else calls)

/-- The promise that an answer settles, if any. -/
def answered (calls : WorkerCalls Value) (message : WasmCallAnswer Value) :
    Option ℕ × WorkerCalls Value :=
  match calls.pending.lookup message.id with
  | none => (none, calls)
  | some promise =>
    let calls := { calls with pending := calls.pending.filter (·.1 ≠ message.id) }
    (some promise, if calls.pending = [] then calls.unref else calls)

/-- Every promise that waits, to be rejected. -/
def failed (calls : WorkerCalls Value) : List ℕ × WorkerCalls Value :=
  (calls.pending.map Prod.snd, { calls with pending := [] }.unref)

end WorkerCalls

def failureMessage (reason : String) : String :=
  s!"the WASM worker {reason}. If your bundler did not ship the worker file, pass " ++
    "your own worker, made from `@ika.xyz/sdk-core/wasm-worker`, to useWasmWorker"

/-- What a worker reports of its failure. -/
inductive WorkerFailure
  | error (message : Option String)
  | exit (code : ℤ)
deriving DecidableEq, Repr

def WorkerFailure.reason : WorkerFailure → String
  | error message =>
    let message := message.getD "it could not load"
    s!"failed: {message}"
  | exit code => s!"exited with code {code}"

/-! ## The loader -/

/-- A call of one of the package's functions: the worker that it got the module of, none for the
calling thread, what it sent there, and what it settled with. -/
structure Call (Value : Type) where
  worker : Option ℕ
  sent : Option (WasmCall Value) := none
  outcome : Option (Outcome Value) := none
deriving DecidableEq, Repr

/-- A promise settles once. -/
def Call.settle (outcome : Outcome Value) (call : Call Value) : Call Value :=
  { call with outcome := call.outcome.or (some outcome) }

structure WasmLoader (Value : Type) where
  workers : List (WorkerCalls Value) := []
  workerCalls : Option ℕ := none
  calls : List (Call Value) := []
deriving DecidableEq, Repr

/-- A worker may fail to start; the port may refuse to post a call, as when an argument cannot be
copied. -/
inductive Event (Value : Type)
  | useWasmWorker (starts : Bool)
  | stopWasmWorker
  | getWasmModule
  | call (promise : ℕ) (name : String) (args : List Value) (refusal : Option String)
  | answered (worker : ℕ) (message : WasmCallAnswer Value)
  | workerFailed (worker : ℕ) (failure : WorkerFailure)
deriving DecidableEq, Repr

namespace WasmLoader

variable (l : WasmLoader Value)

def settle (promise : ℕ) (outcome : Outcome Value) : WasmLoader Value :=
  { l with calls := l.calls.modify promise (Call.settle outcome) }

def settleAll (promises : List ℕ) (outcome : Outcome Value) : WasmLoader Value :=
  promises.foldl (fun l promise => l.settle promise outcome) l

def setWorker (worker : ℕ) (calls : WorkerCalls Value) : WasmLoader Value :=
  { l with workers := l.workers.set worker calls }

/-- The worker is at its end, and every call that waits for it is rejected. -/
def failed (worker : ℕ) (reason : String) : WasmLoader Value :=
  match l.workers[worker]? with
  | none => l
  | some calls =>
    let (promises, calls) := calls.failed
    (l.setWorker worker { calls with port := { calls.port with stopped := true } }).settleAll
      promises (.rejected (failureMessage reason))

def stopWasmWorker : WasmLoader Value :=
  match l.workerCalls with
  | none => l
  | some worker => { l.failed worker "was stopped" with workerCalls := none }

def useWasmWorker (starts : Bool) : WasmLoader Value :=
  let l := l.stopWasmWorker
  if starts then
    { l with workers := l.workers ++ [{}], workerCalls := some l.workers.length }
  else l

def getWasmModule : WasmLoader Value :=
  { l with calls := l.calls ++ [{ worker := l.workerCalls }] }

/-- The call that a promise stands for goes on, once it has the module. -/
def call (wasm : String → List Value → Except String Value) (promise : ℕ) (name : String)
    (args : List Value) (refusal : Option String) : WasmLoader Value :=
  match l.calls[promise]? with
  | some ⟨none, none, none⟩ => l.settle promise (outcomeOf (wasm name args))
  | some ⟨some worker, none, none⟩ =>
    match l.workers[worker]? with
    | none => l
    | some calls =>
      let (sent, calls) := calls.call name args promise refusal.isNone
      { l.setWorker worker calls with
        calls := l.calls.set promise ⟨some worker, some sent, refusal.map .rejected⟩ }
  | _ => l

def answered (worker : ℕ) (message : WasmCallAnswer Value) : WasmLoader Value :=
  match l.workers[worker]? with
  | none => l
  | some calls =>
    match calls.answered message with
    | (none, calls) => l.setWorker worker calls
    | (some promise, calls) => (l.setWorker worker calls).settle promise message.outcome

def step (wasm : String → List Value → Except String Value) :
    Event Value → WasmLoader Value
  | .useWasmWorker starts => l.useWasmWorker starts
  | .stopWasmWorker => l.stopWasmWorker
  | .getWasmModule => l.getWasmModule
  | .call promise name args refusal => l.call wasm promise name args refusal
  | .answered worker message => l.answered worker message
  | .workerFailed worker failure => l.failed worker failure.reason

/-- The loader after the events, in their order. -/
def after (wasm : String → List Value → Except String Value) (events : List (Event Value)) :
    WasmLoader Value :=
  events.foldl (fun l event => l.step wasm event) {}

end WasmLoader

end Ika.Wasm
