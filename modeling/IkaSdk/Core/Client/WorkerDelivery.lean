import IkaSdk.Core.Client.WasmLoader
import IkaSdk.Lib.Entries
import Mathlib.Data.List.Induction
import Mathlib.Tactic.SplitIfs

/-! What settles a call of the loader: the answer with its own id, its worker's failure or end, or
its own refusal. A call waits for a worker that runs as long as no call is posted to one that
failed or was stopped. -/

namespace Ika.Wasm

open Wire

variable {Value : Type}

@[simp] theorem Call.settle_settle (outcome : Outcome Value) (call : Call Value) :
    (call.settle outcome).settle outcome = call.settle outcome := by
  cases call with
  | mk worker sent settled => cases settled <;> rfl

namespace WasmLoader

/-- The promise stands for a call sent to the worker. -/
def Sent (l : WasmLoader Value) (promise worker : ℕ) (sent : WasmCall Value) : Prop :=
  ∃ outcome, l.calls[promise]? = some ⟨some worker, some sent, outcome⟩

/-- The promise waits for the worker's answer. -/
def Waits (l : WasmLoader Value) (promise worker : ℕ) (sent : WasmCall Value) : Prop :=
  l.calls[promise]? = some ⟨some worker, some sent, none⟩

/-- The worker reported a failure or was told to end. -/
def Stopped (l : WasmLoader Value) (worker : ℕ) : Prop :=
  ∃ calls, l.workers[worker]? = some calls ∧ calls.port.stopped

def outcome (l : WasmLoader Value) (promise : ℕ) : Option (Outcome Value) :=
  (l.calls[promise]?).bind (·.outcome)

variable {l : WasmLoader Value} {promise worker : ℕ} {s : WasmCall Value}

theorem Waits.sent (h : l.Waits promise worker s) : l.Sent promise worker s := ⟨none, h⟩

theorem Sent.unique {s' : WasmCall Value} (h : l.Sent promise worker s)
    (h' : l.Sent promise worker s') : s = s' := by
  obtain ⟨_, h⟩ := h
  obtain ⟨_, h'⟩ := h'
  cases h.symm.trans h'
  rfl

/-! ## Settling -/

theorem calls_settle (p : ℕ) (o : Outcome Value) (c : ℕ) :
    (l.settle p o).calls[c]? =
      if c = p then (l.calls[c]?).map (Call.settle o) else l.calls[c]? := by
  rw [settle, List.getElem?_modify]
  by_cases hc : c = p
  · subst hc
    simp
  · simp [hc, Ne.symm hc]

theorem settleAll_cons (p : ℕ) (ps : List ℕ) (o : Outcome Value) :
    l.settleAll (p :: ps) o = (l.settle p o).settleAll ps o := rfl

@[simp] theorem workers_settleAll (ps : List ℕ) (o : Outcome Value) :
    (l.settleAll ps o).workers = l.workers := by
  induction ps generalizing l with
  | nil => rfl
  | cons p ps ih => exact ih

@[simp] theorem workerCalls_settleAll (ps : List ℕ) (o : Outcome Value) :
    (l.settleAll ps o).workerCalls = l.workerCalls := by
  induction ps generalizing l with
  | nil => rfl
  | cons p ps ih => exact ih

theorem calls_settleAll (ps : List ℕ) (o : Outcome Value) (c : ℕ) :
    (l.settleAll ps o).calls[c]? =
      if c ∈ ps then (l.calls[c]?).map (Call.settle o) else l.calls[c]? := by
  induction ps generalizing l with
  | nil => simp [settleAll]
  | cons p ps ih =>
    rw [settleAll_cons, ih, calls_settle]
    by_cases hp : c = p
    · subst hp
      by_cases hc : c ∈ ps
      · simp [hc, Function.comp_def]
      · simp [hc]
    · simp [hp]

theorem sent_settleAll (ps : List ℕ) (o : Outcome Value) :
    (l.settleAll ps o).Sent promise worker s ↔ l.Sent promise worker s := by
  unfold Sent
  rw [calls_settleAll]
  by_cases hp : promise ∈ ps
  · simp only [if_pos hp, Option.map_eq_some_iff]
    constructor
    · rintro ⟨settled, call, hcall, hsettle⟩
      cases call
      cases hsettle
      exact ⟨_, hcall⟩
    · rintro ⟨settled, hcall⟩
      exact ⟨_, _, hcall, rfl⟩
  · simp only [if_neg hp]

theorem waits_settleAll (ps : List ℕ) (o : Outcome Value) :
    (l.settleAll ps o).Waits promise worker s ↔
      l.Waits promise worker s ∧ promise ∉ ps := by
  unfold Waits
  rw [calls_settleAll]
  by_cases hp : promise ∈ ps
  · rw [if_pos hp]
    constructor
    · intro h
      obtain ⟨call, -, hsettle⟩ := Option.map_eq_some_iff.mp h
      have houtcome : call.outcome.or (some o) = none := congrArg Call.outcome hsettle
      simp at houtcome
    · rintro ⟨-, hnot⟩
      exact absurd hp hnot
  · simp [hp]

/-- What settles newly is among the promises, and settles with the outcome. -/
theorem outcome_settleAll (ps : List ℕ) (o : Outcome Value) (c : ℕ) :
    (l.settleAll ps o).outcome c =
      if c ∈ ps then (l.calls[c]?).bind fun call => call.outcome.or (some o) else l.outcome c := by
  unfold outcome
  rw [calls_settleAll]
  split_ifs
  · cases l.calls[c]? <;> rfl
  · rfl

/-! ## What every run keeps -/

/-- Each call waits under an id of its own, and only calls that were sent are posted. -/
structure Sound (l : WasmLoader Value) : Prop where
  current : ∀ k, l.workerCalls = some k → k < l.workers.length
  given : ∀ (c k : ℕ) sent outcome, l.calls[c]? = some ⟨some k, sent, outcome⟩ →
    k < l.workers.length
  below : ∀ (c k : ℕ) s calls, l.Sent c k s → l.workers[k]? = some calls → s.id < calls.nextId
  distinct : ∀ c c' k s s', l.Sent c k s → l.Sent c' k s' → s.id = s'.id → c = c'
  pending : ∀ (k : ℕ) calls e, l.workers[k]? = some calls → e ∈ calls.pending →
    ∃ s, l.Sent e.2 k s ∧ s.id = e.1
  waiting : ∀ (c k : ℕ) s calls, l.Waits c k s → l.workers[k]? = some calls →
    (s.id, c) ∈ calls.pending
  posted : ∀ (k : ℕ) calls s, l.workers[k]? = some calls → s ∈ calls.port.posted →
    ∃ c, l.Sent c k s

theorem sound_start : Sound ({} : WasmLoader Value) where
  current := fun _ h => nomatch h
  given := fun _ _ _ _ h => (by simp at h)
  below := fun _ _ _ _ _ h => (by simp at h)
  distinct := fun _ _ _ _ _ h => (by simp [Sent] at h)
  pending := fun _ _ _ h => (by simp at h)
  waiting := fun _ _ _ _ h => (by simp [Waits] at h)
  posted := fun _ _ _ h => (by simp at h)

/-- The promise that the id of a waiting call leads to is its own. -/
theorem Sound.lookup (h : Sound l) {calls : WorkerCalls Value} (hs : l.Waits promise worker s)
    (hk : l.workers[worker]? = some calls) : calls.pending.lookup s.id = some promise := by
  have hmem := h.waiting _ _ _ _ hs hk
  cases hfound : calls.pending.lookup s.id with
  | none =>
    have hother := List.lookup_eq_none_iff.mp hfound _ hmem
    simp at hother
  | some found =>
    obtain ⟨s', hsent, hid⟩ := h.pending _ _ _ hk (lookup_mem hfound)
    have hsame : found = promise := h.distinct _ _ _ _ _ hsent hs.sent hid
    rw [hsame]

/-- Promises settle, and the entries that a worker's record drops are theirs. -/
theorem Sound.release (h : Sound l) {k : ℕ} {calls calls' : WorkerCalls Value} {ps : List ℕ}
    {o : Outcome Value} (hk : l.workers[k]? = some calls) (hid : calls'.nextId = calls.nextId)
    (hposted : calls'.port.posted = calls.port.posted)
    (hsub : ∀ e ∈ calls'.pending, e ∈ calls.pending)
    (hdrop : ∀ e ∈ calls.pending, e ∈ calls'.pending ∨ e.2 ∈ ps) :
    Sound ((l.setWorker k calls').settleAll ps o) := by
  have hlength : ((l.setWorker k calls').settleAll ps o).workers.length = l.workers.length := by
    simp [setWorker]
  -- the record of a worker afterwards, and the one before that it comes from
  have hbefore : ∀ {j : ℕ} {calls₁},
      ((l.setWorker k calls').settleAll ps o).workers[j]? = some calls₁ →
      ∃ calls₀, l.workers[j]? = some calls₀ ∧ calls₁.nextId = calls₀.nextId ∧
        calls₁.port.posted = calls₀.port.posted ∧
        (∀ e ∈ calls₁.pending, e ∈ calls₀.pending) ∧
        ∀ e ∈ calls₀.pending, e ∈ calls₁.pending ∨ e.2 ∈ ps := by
    intro j calls₁ hj
    rw [workers_settleAll, setWorker, List.getElem?_set] at hj
    split_ifs at hj with hjk hbound
    · cases hj
      exact ⟨calls, hjk ▸ hk, hid, hposted, hsub, hdrop⟩
    · exact ⟨calls₁, hj, rfl, rfl, fun _ he => he, fun _ he => .inl he⟩
  have hsent : ∀ c j s, ((l.setWorker k calls').settleAll ps o).Sent c j s ↔ l.Sent c j s :=
    fun _ _ _ => sent_settleAll ps o
  constructor
  · intro j hj
    rw [workerCalls_settleAll] at hj
    exact hlength ▸ h.current j hj
  · intro c j sent outcome hc
    rw [calls_settleAll] at hc
    rw [hlength]
    split_ifs at hc
    · obtain ⟨call, hcall, hsettled⟩ := Option.map_eq_some_iff.mp hc
      cases call
      cases hsettled
      exact h.given _ _ _ _ hcall
    · exact h.given _ _ _ _ hc
  · intro c j s calls₁ hs hj
    obtain ⟨calls₀, hj₀, hnext, -⟩ := hbefore hj
    exact hnext ▸ h.below _ _ _ _ ((hsent _ _ _).mp hs) hj₀
  · intro c c' j s s' hs hs' hsame
    exact h.distinct _ _ _ _ _ ((hsent _ _ _).mp hs) ((hsent _ _ _).mp hs') hsame
  · intro j calls₁ e hj he
    obtain ⟨calls₀, hj₀, -, -, hless, -⟩ := hbefore hj
    obtain ⟨s, hs, hse⟩ := h.pending _ _ _ hj₀ (hless e he)
    exact ⟨s, (hsent _ _ _).mpr hs, hse⟩
  · intro c j s calls₁ hs hj
    obtain ⟨calls₀, hj₀, -, -, -, hkept⟩ := hbefore hj
    obtain ⟨hwaits, hnot⟩ := (waits_settleAll ps o).mp hs
    rcases hkept _ (h.waiting _ _ _ _ hwaits hj₀) with hin | hout
    · exact hin
    · exact absurd hout hnot
  · intro j calls₁ s hj hs
    obtain ⟨calls₀, hj₀, -, hsame, -⟩ := hbefore hj
    obtain ⟨c, hc⟩ := h.posted _ _ _ hj₀ (hsame ▸ hs)
    exact ⟨c, (hsent _ _ _).mpr hc⟩

/-! ## The steps -/

/-- A worker's failure is a release of every entry of its record. -/
theorem failed_eq {calls : WorkerCalls Value} (hk : l.workers[worker]? = some calls)
    (reason : String) :
    l.failed worker reason =
      (l.setWorker worker { calls.failed.2 with
        port := { calls.failed.2.port with stopped := true } }).settleAll
          (calls.pending.map Prod.snd) (.rejected (failureMessage reason)) := by
  rw [failed, hk]
  rfl

theorem Sound.failed (h : Sound l) (k : ℕ) (reason : String) : Sound (l.failed k reason) := by
  cases hk : l.workers[k]? with
  | none => rwa [WasmLoader.failed, hk]
  | some calls =>
    rw [failed_eq hk]
    refine h.release hk rfl rfl (fun _ he => (by cases he)) fun e he => .inr ?_
    exact List.mem_map_of_mem he

theorem Sound.withCurrent (h : Sound l) {current : Option ℕ}
    (hcurrent : ∀ k, current = some k → k < l.workers.length) :
    Sound { l with workerCalls := current } where
  current := hcurrent
  given := h.given
  below := h.below
  distinct := h.distinct
  pending := h.pending
  waiting := h.waiting
  posted := h.posted

theorem Sound.stopWasmWorker (h : Sound l) : Sound l.stopWasmWorker := by
  unfold WasmLoader.stopWasmWorker
  split
  · exact h
  · exact (h.failed _ _).withCurrent fun _ hnone => (by cases hnone)

/-- A new worker starts with nothing sent to it. -/
theorem Sound.withWorker (h : Sound l) :
    Sound { l with workers := l.workers ++ [{}], workerCalls := some l.workers.length } := by
  have hlength : (l.workers ++ [({} : WorkerCalls Value)]).length = l.workers.length + 1 := by simp
  have hbefore : ∀ {j : ℕ} {calls}, (l.workers ++ [({} : WorkerCalls Value)])[j]? = some calls →
      l.workers[j]? = some calls ∨ (j = l.workers.length ∧ calls = {}) := of_getElem?_concat
  have hnone : ∀ {c s}, ¬l.Sent c l.workers.length s := by
    rintro c s ⟨outcome, hc⟩
    exact absurd (h.given _ _ _ _ hc) (Nat.lt_irrefl _)
  constructor
  · intro k hk
    cases hk
    exact hlength ▸ Nat.lt_succ_self _
  · intro c k sent outcome hc
    exact hlength ▸ Nat.lt_succ_of_lt (h.given _ _ _ _ hc)
  · intro c k s calls hs hk
    rcases hbefore hk with hold | ⟨rfl, rfl⟩
    · exact h.below _ _ _ _ hs hold
    · exact absurd hs hnone
  · exact h.distinct
  · intro k calls e hk he
    rcases hbefore hk with hold | ⟨rfl, rfl⟩
    · exact h.pending _ _ _ hold he
    · cases he
  · intro c k s calls hs hk
    rcases hbefore hk with hold | ⟨rfl, rfl⟩
    · exact h.waiting _ _ _ _ hs hold
    · exact absurd hs.sent hnone
  · intro k calls s hk hs
    rcases hbefore hk with hold | ⟨rfl, rfl⟩
    · exact h.posted _ _ _ hold hs
    · cases hs

theorem Sound.useWasmWorker (h : Sound l) (starts : Bool) : Sound (l.useWasmWorker starts) := by
  cases starts
  · exact h.stopWasmWorker
  · exact h.stopWasmWorker.withWorker

/-- A call that has only begun is sent nowhere. -/
theorem Sound.getWasmModule (h : Sound l) : Sound l.getWasmModule := by
  have hbefore : ∀ {c : ℕ} {call}, l.getWasmModule.calls[c]? = some call →
      l.calls[c]? = some call ∨ (c = l.calls.length ∧ call = { worker := l.workerCalls }) :=
    of_getElem?_concat
  have hsent : ∀ {c k s}, l.getWasmModule.Sent c k s → l.Sent c k s := by
    rintro c k s ⟨outcome, hc⟩
    rcases hbefore hc with hold | ⟨-, hnew⟩
    · exact ⟨outcome, hold⟩
    · cases congrArg Call.sent hnew
  have hkept : ∀ {c k s}, l.Sent c k s → l.getWasmModule.Sent c k s := by
    rintro c k s ⟨outcome, hc⟩
    obtain ⟨hbound, -⟩ := List.getElem?_eq_some_iff.mp hc
    exact ⟨outcome, (List.getElem?_append_left hbound).trans hc⟩
  constructor
  · exact h.current
  · intro c k sent outcome hc
    rcases hbefore hc with hold | ⟨-, hnew⟩
    · exact h.given _ _ _ _ hold
    · have hworker : some k = l.workerCalls := congrArg Call.worker hnew
      exact h.current _ hworker.symm
  · exact fun c k s calls hs => h.below c k s calls (hsent hs)
  · exact fun c c' k s s' hs hs' => h.distinct c c' k s s' (hsent hs) (hsent hs')
  · intro k calls e hk he
    obtain ⟨s, hs, hid⟩ := h.pending _ _ _ hk he
    exact ⟨s, hkept hs, hid⟩
  · intro c k s calls hs hk
    rcases hbefore hs with hold | ⟨-, hnew⟩
    · exact h.waiting _ _ _ _ hold hk
    · cases congrArg Call.sent hnew
  · intro k calls s hk hs
    obtain ⟨c, hc⟩ := h.posted _ _ _ hk hs
    exact ⟨c, hkept hc⟩

theorem Sound.settleAll (h : Sound l) (ps : List ℕ) (o : Outcome Value) :
    Sound (l.settleAll ps o) := by
  have hsent : ∀ {c k s}, (l.settleAll ps o).Sent c k s ↔ l.Sent c k s := sent_settleAll ps o
  constructor
  · intro k hk
    rw [workers_settleAll]
    exact h.current k (workerCalls_settleAll ps o ▸ hk)
  · intro c k sent outcome hc
    rw [workers_settleAll]
    rw [calls_settleAll] at hc
    split_ifs at hc
    · obtain ⟨call, hcall, hsettled⟩ := Option.map_eq_some_iff.mp hc
      cases call
      cases hsettled
      exact h.given _ _ _ _ hcall
    · exact h.given _ _ _ _ hc
  · intro c k s calls hs hk
    exact h.below c k s calls (hsent.mp hs) (workers_settleAll ps o ▸ hk)
  · exact fun c c' k s s' hs hs' => h.distinct c c' k s s' (hsent.mp hs) (hsent.mp hs')
  · intro k calls e hk he
    obtain ⟨s, hs, hid⟩ := h.pending _ _ _ (workers_settleAll ps o ▸ hk) he
    exact ⟨s, hsent.mpr hs, hid⟩
  · intro c k s calls hs hk
    exact h.waiting c k s calls ((waits_settleAll ps o).mp hs).1 (workers_settleAll ps o ▸ hk)
  · intro k calls s hk hs
    obtain ⟨c, hc⟩ := h.posted _ _ _ (workers_settleAll ps o ▸ hk) hs
    exact ⟨c, hsent.mpr hc⟩

/-! ### A call goes on -/

section Call

variable (calls : WorkerCalls Value) (name : String) (args : List Value) (posts : Bool)

theorem call_nextId :
    (calls.call name args promise posts).2.nextId = calls.nextId + 1 := by
  cases posts <;> simp only [WorkerCalls.call] <;> split_ifs <;> rfl

theorem call_pending : (calls.call name args promise posts).2.pending =
    calls.pending ++ [(calls.nextId, promise)] := by
  cases posts <;> simp only [WorkerCalls.call] <;> split_ifs <;> rfl

theorem call_stopped :
    (calls.call name args promise posts).2.port.stopped = calls.port.stopped := by
  cases posts <;> simp only [WorkerCalls.call] <;> split_ifs <;> rfl

theorem call_posted : (calls.call name args promise posts).2.port.posted =
    if posts then calls.port.posted ++ [⟨calls.nextId, name, args⟩] else calls.port.posted := by
  cases posts <;> simp only [WorkerCalls.call] <;> split_ifs <;> rfl

end Call

/-- The loader once the call that a promise stands for was sent to its worker. -/
def sentTo (l : WasmLoader Value) (promise worker : ℕ) (calls : WorkerCalls Value) (name : String)
    (args : List Value) (refusal : Option String) : WasmLoader Value :=
  { l.setWorker worker (calls.call name args promise refusal.isNone).2 with
    calls := l.calls.set promise
      ⟨some worker, some ⟨calls.nextId, name, args⟩, refusal.map .rejected⟩ }

section SentTo

variable {calls : WorkerCalls Value} {name : String} {args : List Value}
  {refusal : Option String}

theorem workers_sentTo {j : ℕ} {calls' : WorkerCalls Value}
    (h : (l.sentTo promise worker calls name args refusal).workers[j]? = some calls') :
    (j = worker ∧ calls' = (calls.call name args promise refusal.isNone).2) ∨
      (j ≠ worker ∧ l.workers[j]? = some calls') := by
  simp only [sentTo, setWorker, List.getElem?_set] at h
  split_ifs at h with hj
  · exact .inl ⟨hj.symm, (Option.some.inj h).symm⟩
  · exact .inr ⟨Ne.symm hj, h⟩

theorem calls_sentTo {j : ℕ} {call : Call Value}
    (h : (l.sentTo promise worker calls name args refusal).calls[j]? = some call) :
    (j = promise ∧
        call = ⟨some worker, some ⟨calls.nextId, name, args⟩, refusal.map .rejected⟩) ∨
      (j ≠ promise ∧ l.calls[j]? = some call) := by
  simp only [sentTo, List.getElem?_set] at h
  split_ifs at h with hj
  · exact .inl ⟨hj.symm, (Option.some.inj h).symm⟩
  · exact .inr ⟨Ne.symm hj, h⟩

variable (hp : l.calls[promise]? = some ⟨some worker, none, none⟩)

include hp in
theorem sent_sentTo {c k : ℕ} :
    (l.sentTo promise worker calls name args refusal).Sent c k s ↔
      (c = promise ∧ k = worker ∧ s = ⟨calls.nextId, name, args⟩) ∨ l.Sent c k s := by
  have hbound : promise < l.calls.length := (List.getElem?_eq_some_iff.mp hp).1
  constructor
  · rintro ⟨outcome, hc⟩
    rcases calls_sentTo hc with ⟨rfl, hnew⟩ | ⟨-, hold⟩
    · cases hnew
      exact .inl ⟨rfl, rfl, rfl⟩
    · exact .inr ⟨outcome, hold⟩
  · rintro (⟨rfl, rfl, rfl⟩ | ⟨outcome, hc⟩)
    · exact ⟨_, List.getElem?_set_self hbound⟩
    · have hne : promise ≠ c := by
        rintro rfl
        cases hp.symm.trans hc
      exact ⟨outcome, (List.getElem?_set_ne hne).trans hc⟩

theorem waits_sentTo {c k : ℕ}
    (h : (l.sentTo promise worker calls name args refusal).Waits c k s) :
    (c = promise ∧ k = worker ∧ s = ⟨calls.nextId, name, args⟩ ∧ refusal = none) ∨
      l.Waits c k s := by
  rcases calls_sentTo h with ⟨rfl, hnew⟩ | ⟨-, hold⟩
  · have hrefusal : refusal.map Outcome.rejected = (none : Option (Outcome Value)) :=
      (congrArg Call.outcome hnew).symm
    have hworker : some k = some worker := congrArg Call.worker hnew
    have hcall : some s = some ⟨calls.nextId, name, args⟩ := congrArg Call.sent hnew
    exact .inl ⟨rfl, Option.some.inj hworker, Option.some.inj hcall,
      Option.map_eq_none_iff.mp hrefusal⟩
  · exact .inr hold

include hp in
theorem Sound.sentTo (h : Sound l) (hk : l.workers[worker]? = some calls) :
    Sound (l.sentTo promise worker calls name args refusal) := by
  have hlength : (l.sentTo promise worker calls name args refusal).workers.length =
      l.workers.length := by
    simp [WasmLoader.sentTo, setWorker]
  have hsent : ∀ {c k s}, (l.sentTo promise worker calls name args refusal).Sent c k s ↔
      (c = promise ∧ k = worker ∧ s = ⟨calls.nextId, name, args⟩) ∨ l.Sent c k s :=
    sent_sentTo hp
  -- the id of the call is above those of the calls sent before
  have hnew : ∀ {c s}, l.Sent c worker s → s.id ≠ calls.nextId :=
    fun hs => Nat.ne_of_lt (h.below _ _ _ _ hs hk)
  constructor
  · exact fun k hcurrent => hlength ▸ h.current k hcurrent
  · intro c k sent outcome hc
    rw [hlength]
    rcases calls_sentTo hc with ⟨rfl, hcall⟩ | ⟨-, hold⟩
    · have hworker : some k = some worker := congrArg Call.worker hcall
      exact Option.some.inj hworker ▸ h.given _ _ _ _ hp
    · exact h.given _ _ _ _ hold
  · intro c k s calls' hs hk'
    rcases workers_sentTo hk' with ⟨rfl, rfl⟩ | ⟨hne, hold⟩
    · rw [call_nextId]
      rcases hsent.mp hs with ⟨-, -, rfl⟩ | hs
      · exact Nat.lt_succ_self _
      · exact Nat.lt_succ_of_lt (h.below _ _ _ _ hs hk)
    · rcases hsent.mp hs with ⟨-, rfl, -⟩ | hs
      · exact absurd rfl hne
      · exact h.below _ _ _ _ hs hold
  · intro c c' k s s' hs hs' hid
    rcases hsent.mp hs with ⟨rfl, rfl, rfl⟩ | hold
    · rcases hsent.mp hs' with ⟨rfl, -, -⟩ | hold'
      · rfl
      · exact absurd hid.symm (hnew hold')
    · rcases hsent.mp hs' with ⟨rfl, rfl, rfl⟩ | hold'
      · exact absurd hid (hnew hold)
      · exact h.distinct _ _ _ _ _ hold hold' hid
  · intro k calls' e hk' he
    rcases workers_sentTo hk' with ⟨rfl, rfl⟩ | ⟨-, hold⟩
    · rw [call_pending] at he
      rcases List.mem_append.mp he with he | he
      · obtain ⟨s, hs, hid⟩ := h.pending _ _ _ hk he
        exact ⟨s, hsent.mpr (.inr hs), hid⟩
      · obtain rfl := List.mem_singleton.mp he
        exact ⟨_, hsent.mpr (.inl ⟨rfl, rfl, rfl⟩), rfl⟩
    · obtain ⟨s, hs, hid⟩ := h.pending _ _ _ hold he
      exact ⟨s, hsent.mpr (.inr hs), hid⟩
  · intro c k s calls' hs hk'
    rcases workers_sentTo hk' with ⟨rfl, rfl⟩ | ⟨hne, hold⟩
    · rw [call_pending]
      rcases waits_sentTo hs with ⟨rfl, -, rfl, -⟩ | hs
      · exact List.mem_append_right _ (List.mem_singleton.mpr rfl)
      · exact List.mem_append_left _ (h.waiting _ _ _ _ hs hk)
    · rcases waits_sentTo hs with ⟨-, rfl, -, -⟩ | hs
      · exact absurd rfl hne
      · exact h.waiting _ _ _ _ hs hold
  · intro k calls' s hk' hs
    rcases workers_sentTo hk' with ⟨rfl, rfl⟩ | ⟨-, hold⟩
    · rw [call_posted] at hs
      split_ifs at hs
      · rcases List.mem_append.mp hs with hs | hs
        · obtain ⟨c, hc⟩ := h.posted _ _ _ hk hs
          exact ⟨c, hsent.mpr (.inr hc)⟩
        · obtain rfl := List.mem_singleton.mp hs
          exact ⟨promise, hsent.mpr (.inl ⟨rfl, rfl, rfl⟩)⟩
      · obtain ⟨c, hc⟩ := h.posted _ _ _ hk hs
        exact ⟨c, hsent.mpr (.inr hc)⟩
    · obtain ⟨c, hc⟩ := h.posted _ _ _ hold hs
      exact ⟨c, hsent.mpr (.inr hc)⟩

end SentTo

/-- What a call that goes on does: it runs on the calling thread, is sent to its worker, or was
none. -/
theorem call_cases (wasm : String → List Value → Except String Value) (l : WasmLoader Value)
    (promise : ℕ) (name : String) (args : List Value) (refusal : Option String) :
    (l.calls[promise]? = some ⟨none, none, none⟩ ∧
        l.call wasm promise name args refusal =
          l.settleAll [promise] (outcomeOf (wasm name args))) ∨
      (∃ k calls, l.calls[promise]? = some ⟨some k, none, none⟩ ∧ l.workers[k]? = some calls ∧
        l.call wasm promise name args refusal = l.sentTo promise k calls name args refusal) ∨
      l.call wasm promise name args refusal = l := by
  unfold call
  split
  · next hc => exact .inl ⟨hc, rfl⟩
  · next k hc =>
    split
    · exact .inr (.inr rfl)
    · next calls hk => exact .inr (.inl ⟨k, calls, hc, hk, rfl⟩)
  · exact .inr (.inr rfl)

/-- An answer is without effect, or releases the one entry under its id. -/
theorem answered_cases (l : WasmLoader Value) (k : ℕ) (message : WasmCallAnswer Value) :
    l.answered k message = l ∨
      ∃ calls calls' found, l.workers[k]? = some calls ∧
        calls.pending.lookup message.id = some found ∧
        calls'.nextId = calls.nextId ∧ calls'.port.posted = calls.port.posted ∧
        calls'.port.stopped = calls.port.stopped ∧
        calls'.pending = calls.pending.filter (·.1 ≠ message.id) ∧
        l.answered k message = (l.setWorker k calls').settleAll [found] message.outcome := by
  cases hk : l.workers[k]? with
  | none => exact .inl (by rw [answered, hk])
  | some calls =>
    cases hfound : calls.pending.lookup message.id with
    | none =>
      have hsame : calls.answered message = (none, calls) := by rw [WorkerCalls.answered, hfound]
      refine .inl ?_
      rw [answered, hk]
      simp only [hsame, setWorker]
      obtain ⟨hlt, hget⟩ := List.getElem?_eq_some_iff.mp hk
      rw [← hget, List.set_getElem_self]
    | some found =>
      have hrelease : ∃ calls', calls.answered message = (some found, calls') ∧
          calls'.nextId = calls.nextId ∧ calls'.port.posted = calls.port.posted ∧
          calls'.port.stopped = calls.port.stopped ∧
          calls'.pending = calls.pending.filter (·.1 ≠ message.id) := by
        simp only [WorkerCalls.answered, hfound]
        split_ifs <;> exact ⟨_, rfl, rfl, rfl, rfl, rfl⟩
      obtain ⟨calls', hanswered, hnext, hposted, hstopped, hpending⟩ := hrelease
      refine .inr ⟨calls, calls', found, rfl, hfound, hnext, hposted, hstopped, hpending, ?_⟩
      rw [answered, hk]
      simp only [hanswered]
      rfl

theorem Sound.answered (h : Sound l) (k : ℕ) (message : WasmCallAnswer Value) :
    Sound (l.answered k message) := by
  obtain hsame | ⟨calls, calls', found, hk, hfound, hnext, hposted, -, hpending, heq⟩ :=
    answered_cases l k message
  · rwa [hsame]
  · rw [heq]
    refine h.release hk hnext hposted ?_ ?_
    · intro e he
      exact List.mem_of_mem_filter (hpending ▸ he)
    · intro e he
      by_cases hid : e.1 = message.id
      · -- the entry under this id is the one that was found
        obtain ⟨s, hs, hse⟩ := h.pending _ _ _ hk he
        obtain ⟨s', hs', hse'⟩ := h.pending _ _ _ hk (lookup_mem hfound)
        have hsame : e.2 = found := h.distinct _ _ _ _ _ hs hs' (hse.trans (hid.trans hse'.symm))
        exact .inr (by simp [hsame])
      · refine .inl ?_
        rw [hpending]
        exact List.mem_filter.mpr ⟨he, by simpa using hid⟩

theorem Sound.call (h : Sound l) (wasm : String → List Value → Except String Value)
    (promise : ℕ) (name : String) (args : List Value) (refusal : Option String) :
    Sound (l.call wasm promise name args refusal) := by
  obtain ⟨-, heq⟩ | ⟨k, calls, hp, hk, heq⟩ | heq := call_cases wasm l promise name args refusal
  · rw [heq]
    exact h.settleAll _ _
  · rw [heq]
    exact Sound.sentTo hp h hk
  · rwa [heq]

theorem Sound.step (h : Sound l) (wasm : String → List Value → Except String Value)
    (event : Event Value) : Sound (l.step wasm event) := by
  cases event with
  | useWasmWorker starts => exact h.useWasmWorker starts
  | stopWasmWorker => exact h.stopWasmWorker
  | getWasmModule => exact h.getWasmModule
  | call promise name args refusal => exact h.call wasm promise name args refusal
  | answered k message => exact h.answered k message
  | workerFailed k failure => exact h.failed k failure.reason

theorem after_concat (wasm : String → List Value → Except String Value)
    (events : List (Event Value)) (event : Event Value) :
    after wasm (events ++ [event]) = (after wasm events).step wasm event := by
  simp [after]

theorem sound_after (wasm : String → List Value → Except String Value)
    (events : List (Event Value)) : Sound (after wasm events) := by
  induction events using List.reverseRecOn with
  | nil => exact sound_start
  | append_singleton events event ih =>
    rw [after_concat]
    exact ih.step wasm event

/-! ## What settles a call -/

def Event.Stops (event : Event Value) : Prop :=
  event = .stopWasmWorker ∨ ∃ starts, event = .useWasmWorker starts

/-- A call settles with the answer that carries its id, with its worker's failure or end, with the
port's refusal to post it, or with what it computes on the calling thread. -/
inductive SettledBy (wasm : String → List Value → Except String Value) (l : WasmLoader Value)
    (c : ℕ) : Event Value → Outcome Value → Prop
  | answer {k : ℕ} {s : WasmCall Value} {message : WasmCallAnswer Value} :
      l.Waits c k s → message.id = s.id →
        SettledBy wasm l c (.answered k message) message.outcome
  | failure {k : ℕ} {s : WasmCall Value} {failure : WorkerFailure} : l.Waits c k s →
      SettledBy wasm l c (.workerFailed k failure) (.rejected (failureMessage failure.reason))
  | ending {k : ℕ} {s : WasmCall Value} {event : Event Value} : l.Waits c k s →
      l.workerCalls = some k → Event.Stops event →
        SettledBy wasm l c event (.rejected (failureMessage "was stopped"))
  | refused {k : ℕ} {name : String} {args : List Value} {error : String} :
      l.calls[c]? = some ⟨some k, none, none⟩ →
        SettledBy wasm l c (.call c name args (some error)) (.rejected error)
  | here {name : String} {args : List Value} {refusal : Option String} :
      l.calls[c]? = some ⟨none, none, none⟩ →
        SettledBy wasm l c (.call c name args refusal) (outcomeOf (wasm name args))

theorem outcome_settleAll_kept {ps : List ℕ} {o o' : Outcome Value} {c : ℕ}
    (h : l.outcome c = some o) : (l.settleAll ps o').outcome c = some o := by
  rw [outcome_settleAll]
  split_ifs
  · obtain ⟨call, hcall, houtcome⟩ := Option.bind_eq_some_iff.mp h
    rw [hcall, Option.bind_some, houtcome]
    rfl
  · exact h

/-- What settles newly is one of the promises. -/
theorem outcome_settleAll_new {ps : List ℕ} {o o' : Outcome Value} {c : ℕ}
    (h : (l.settleAll ps o').outcome c = some o) (hnone : l.outcome c = none) :
    c ∈ ps ∧ o = o' := by
  rw [outcome_settleAll] at h
  split_ifs at h with hc
  · obtain ⟨call, hcall, houtcome⟩ := Option.bind_eq_some_iff.mp h
    have hopen : call.outcome = none := by simpa [outcome, hcall] using hnone
    rw [hopen] at houtcome
    exact ⟨hc, (Option.some.inj houtcome).symm⟩
  · cases hnone.symm.trans h

theorem Sent.waits {c k : ℕ} (h : l.Sent c k s) (hnone : l.outcome c = none) :
    l.Waits c k s := by
  obtain ⟨settled, hc⟩ := h
  have hopen : settled = none := by simpa [outcome, hc] using hnone
  subst hopen
  exact hc

/-- A failure settles the calls that wait for the worker. -/
theorem failed_new (h : Sound l) {k c : ℕ} {reason : String} {o : Outcome Value}
    (hnone : l.outcome c = none) (hnew : (l.failed k reason).outcome c = some o) :
    (∃ s, l.Waits c k s) ∧ o = .rejected (failureMessage reason) := by
  cases hk : l.workers[k]? with
  | none =>
    rw [failed, hk] at hnew
    cases hnone.symm.trans hnew
  | some calls =>
    rw [failed_eq hk] at hnew
    obtain ⟨hc, rfl⟩ := outcome_settleAll_new hnew hnone
    obtain ⟨e, he, rfl⟩ := List.mem_map.mp hc
    obtain ⟨s, hs, -⟩ := h.pending _ _ _ hk he
    exact ⟨⟨s, hs.waits hnone⟩, rfl⟩

theorem failed_kept {k c : ℕ} {reason : String} {o : Outcome Value} (h : l.outcome c = some o) :
    (l.failed k reason).outcome c = some o := by
  cases hk : l.workers[k]? with
  | none => rwa [failed, hk]
  | some calls =>
    rw [failed_eq hk]
    exact outcome_settleAll_kept h

theorem stop_kept {c : ℕ} {o : Outcome Value} (h : l.outcome c = some o) :
    l.stopWasmWorker.outcome c = some o := by
  unfold stopWasmWorker
  split
  · exact h
  · exact failed_kept h

theorem stop_new (h : Sound l) {c : ℕ} {o : Outcome Value} (hnone : l.outcome c = none)
    (hnew : l.stopWasmWorker.outcome c = some o) :
    ∃ k s, l.Waits c k s ∧ l.workerCalls = some k ∧
      o = .rejected (failureMessage "was stopped") := by
  unfold stopWasmWorker at hnew
  split at hnew
  · cases hnone.symm.trans hnew
  · next k hk =>
    obtain ⟨⟨s, hs⟩, ho⟩ := failed_new h hnone hnew
    exact ⟨k, s, hs, hk, ho⟩

theorem outcome_useWasmWorker (starts : Bool) (c : ℕ) :
    (l.useWasmWorker starts).outcome c = l.stopWasmWorker.outcome c := by
  cases starts <;> rfl

theorem outcome_getWasmModule (c : ℕ) : l.getWasmModule.outcome c = l.outcome c := by
  unfold outcome getWasmModule
  by_cases hc : c < l.calls.length
  · rw [List.getElem?_append_left hc]
  · have hbefore : l.calls[c]? = none := List.getElem?_eq_none (Nat.not_lt.mp hc)
    rw [hbefore]
    cases hnew : (l.calls ++ [({ worker := l.workerCalls } : Call Value)])[c]? with
    | none => rfl
    | some call =>
      rcases of_getElem?_concat hnew with hold | ⟨-, rfl⟩
      · cases hbefore.symm.trans hold
      · rfl

theorem outcome_sentTo {calls : WorkerCalls Value} {name : String} {args : List Value}
    {refusal : Option String} {c : ℕ} (hp : l.calls[promise]? = some ⟨some worker, none, none⟩) :
    (l.sentTo promise worker calls name args refusal).outcome c =
      if c = promise then refusal.map .rejected else l.outcome c := by
  have hbound : promise < l.calls.length := (List.getElem?_eq_some_iff.mp hp).1
  unfold outcome sentTo
  by_cases hc : c = promise
  · subst hc
    simp [hbound]
  · simp [hc, List.getElem?_set_ne (Ne.symm hc)]

/-! ## Delivery -/

section Delivery

variable (wasm : String → List Value → Except String Value)

/-- The event settles the promise with the outcome. -/
def Settles (l : WasmLoader Value) (event : Event Value) (c : ℕ) (o : Outcome Value) : Prop :=
  l.outcome c = none ∧ (l.step wasm event).outcome c = some o

/-- What an event settles: nothing a second time, each call by what is its own, at most one call
by an answer, and by the worker's own program the call that it ran. -/
structure Delivers (l : WasmLoader Value) (event : Event Value) : Prop where
  once : ∀ c o, l.outcome c = some o → (l.step wasm event).outcome c = some o
  own : ∀ c o, Settles wasm l event c o → SettledBy wasm l c event o
  alone : ∀ k message c c' o o', event = .answered k message → Settles wasm l event c o →
    Settles wasm l event c' o' → c = c'
  computed : ∀ (k : ℕ) calls s c o, event = .answered k (run wasm s) →
    l.workers[k]? = some calls → s ∈ calls.port.posted → Settles wasm l event c o →
      l.Waits c k s ∧ o = outcomeOf (wasm s.name s.args)

variable {wasm} {event : Event Value}

theorem step_once {c : ℕ} {o : Outcome Value} (h : l.outcome c = some o) :
    (l.step wasm event).outcome c = some o := by
  cases event with
  | useWasmWorker starts => exact (outcome_useWasmWorker starts c).trans (stop_kept h)
  | stopWasmWorker => exact stop_kept h
  | getWasmModule => exact (outcome_getWasmModule c).trans h
  | call promise name args refusal =>
    obtain ⟨-, heq⟩ | ⟨k, calls, hp, -, heq⟩ | heq := call_cases wasm l promise name args refusal
    · rw [step, heq]
      exact outcome_settleAll_kept h
    · have hne : c ≠ promise := by
        rintro rfl
        simp [outcome, hp] at h
      rw [step, heq, outcome_sentTo hp, if_neg hne]
      exact h
    · rwa [step, heq]
  | answered k message =>
    obtain hsame | ⟨calls, calls', found, -, -, -, -, -, -, heq⟩ := answered_cases l k message
    · rwa [step, hsame]
    · rw [step, heq]
      exact outcome_settleAll_kept h
  | workerFailed k failure => exact failed_kept h

/-- An answer settles the call that waits under its id. -/
theorem answered_new (h : Sound l) {k c : ℕ} {message : WasmCallAnswer Value} {o : Outcome Value}
    (hnew : Settles wasm l (.answered k message) c o) :
    ∃ s, l.Waits c k s ∧ s.id = message.id ∧ o = message.outcome := by
  obtain ⟨hnone, hnew⟩ := hnew
  obtain hsame | ⟨calls, calls', found, hk, hfound, -, -, -, -, heq⟩ := answered_cases l k message
  · rw [step, hsame] at hnew
    cases hnone.symm.trans hnew
  · rw [step, heq] at hnew
    obtain ⟨hc, rfl⟩ := outcome_settleAll_new hnew hnone
    obtain rfl := List.mem_singleton.mp hc
    obtain ⟨s, hs, hid⟩ := h.pending _ _ _ hk (lookup_mem hfound)
    exact ⟨s, hs.waits hnone, hid, rfl⟩

theorem step_own (h : Sound l) {c : ℕ} {o : Outcome Value} (hnew : Settles wasm l event c o) :
    SettledBy wasm l c event o := by
  have hsettles := hnew
  obtain ⟨hnone, hnew⟩ := hnew
  cases event with
  | useWasmWorker starts =>
    have hstop := (outcome_useWasmWorker starts c).symm.trans hnew
    obtain ⟨k, s, hs, hk, rfl⟩ := stop_new h hnone hstop
    exact .ending hs hk (.inr ⟨starts, rfl⟩)
  | stopWasmWorker =>
    obtain ⟨k, s, hs, hk, rfl⟩ := stop_new h hnone hnew
    exact .ending hs hk (.inl rfl)
  | getWasmModule => cases hnone.symm.trans ((outcome_getWasmModule c).symm.trans hnew)
  | call promise name args refusal =>
    obtain ⟨hp, heq⟩ | ⟨k, calls, hp, -, heq⟩ | heq := call_cases wasm l promise name args refusal
    · rw [step, heq] at hnew
      obtain ⟨hc, rfl⟩ := outcome_settleAll_new hnew hnone
      obtain rfl := List.mem_singleton.mp hc
      exact .here hp
    · rw [step, heq, outcome_sentTo hp] at hnew
      split_ifs at hnew with hc
      · subst hc
        obtain ⟨error, rfl, rfl⟩ := Option.map_eq_some_iff.mp hnew
        exact .refused hp
      · cases hnone.symm.trans hnew
    · rw [step, heq] at hnew
      cases hnone.symm.trans hnew
  | answered k message =>
    obtain ⟨s, hs, hid, rfl⟩ := answered_new h hsettles
    exact .answer hs hid.symm
  | workerFailed k failure =>
    obtain ⟨⟨s, hs⟩, rfl⟩ := failed_new h hnone hnew
    exact .failure hs

theorem run_outcome (s : WasmCall Value) :
    (run wasm s).outcome = outcomeOf (wasm s.name s.args) := by
  unfold run
  cases wasm s.name s.args <;> rfl

theorem run_id (s : WasmCall Value) : (run wasm s).id = s.id := by
  unfold run
  cases wasm s.name s.args <;> rfl

theorem Sound.delivers (h : Sound l) (event : Event Value) : Delivers wasm l event where
  once := fun c o => step_once
  own := fun c o => step_own h
  alone := by
    rintro k message c c' o o' rfl hc hc'
    obtain ⟨s, hs, hid, -⟩ := answered_new h hc
    obtain ⟨s', hs', hid', -⟩ := answered_new h hc'
    exact h.distinct _ _ _ _ _ hs.sent hs'.sent (hid.trans hid'.symm)
  computed := by
    rintro k calls s c o rfl hk hposted hc
    obtain ⟨s', hs', hid, rfl⟩ := answered_new h hc
    obtain ⟨c', hs⟩ := h.posted _ _ _ hk hposted
    -- the call with this id at the worker is the one it ran
    have hsame : c' = c := h.distinct _ _ _ _ _ hs hs'.sent ((run_id s).symm.trans hid.symm)
    subst hsame
    obtain rfl := hs.unique hs'.sent
    exact ⟨hs', run_outcome s⟩

/-! ## No call waits for a worker that failed or was stopped -/

def NoneWaits (l : WasmLoader Value) : Prop := ∀ c k s, l.Waits c k s → ¬l.Stopped k

theorem NoneWaits.mono {l' : WasmLoader Value} (h : NoneWaits l)
    (hwaits : ∀ c k s, l'.Waits c k s → l.Waits c k s)
    (hstopped : ∀ k, l'.Stopped k → l.Stopped k) : NoneWaits l' :=
  fun c k s hs hk => h c k s (hwaits c k s hs) (hstopped k hk)

theorem stopped_setWorker {k j : ℕ} {calls : WorkerCalls Value}
    (h : (l.setWorker k calls).Stopped j) :
    (j = k ∧ calls.port.stopped) ∨ (j ≠ k ∧ l.Stopped j) := by
  obtain ⟨found, hj, hstopped⟩ := h
  rw [setWorker, List.getElem?_set] at hj
  split_ifs at hj with hjk
  · cases hj
    exact .inl ⟨hjk.symm, hstopped⟩
  · exact .inr ⟨Ne.symm hjk, found, hj, hstopped⟩

theorem stopped_settleAll {ps : List ℕ} {o : Outcome Value} {k : ℕ} :
    (l.settleAll ps o).Stopped k ↔ l.Stopped k := by
  unfold Stopped
  rw [workers_settleAll]

theorem NoneWaits.failed (h : NoneWaits l) (hsound : Sound l) (k : ℕ) (reason : String) :
    NoneWaits (l.failed k reason) := by
  cases hk : l.workers[k]? with
  | none => rwa [WasmLoader.failed, hk]
  | some calls =>
    rw [failed_eq hk]
    intro c j s hs hj
    obtain ⟨hwaits, hnot⟩ := (waits_settleAll _ _).mp hs
    rcases stopped_setWorker (stopped_settleAll.mp hj) with ⟨rfl, -⟩ | ⟨-, hold⟩
    · -- the promise is among those that the failure rejects
      have hentry := hsound.waiting c j s calls hwaits hk
      exact hnot (List.mem_map_of_mem hentry)
    · exact h c j s hwaits hold

theorem NoneWaits.stopWasmWorker (h : NoneWaits l) (hsound : Sound l) :
    NoneWaits l.stopWasmWorker := by
  unfold WasmLoader.stopWasmWorker
  split
  · exact h
  · exact (h.failed hsound _ _).mono (fun _ _ _ hs => hs) fun _ hk => hk

theorem NoneWaits.useWasmWorker (h : NoneWaits l) (hsound : Sound l) (starts : Bool) :
    NoneWaits (l.useWasmWorker starts) := by
  cases starts
  · exact h.stopWasmWorker hsound
  · refine (h.stopWasmWorker hsound).mono (fun _ _ _ hs => hs) fun k hk => ?_
    obtain ⟨calls, hcalls, hstopped⟩ := hk
    rcases of_getElem?_concat hcalls with hold | ⟨-, rfl⟩
    · exact ⟨calls, hold, hstopped⟩
    · cases hstopped

theorem NoneWaits.getWasmModule (h : NoneWaits l) : NoneWaits l.getWasmModule := by
  refine h.mono (fun c k s hs => ?_) fun _ hk => hk
  rcases of_getElem?_concat hs with hold | ⟨-, hnew⟩
  · exact hold
  · cases congrArg Call.sent hnew

theorem NoneWaits.answered (h : NoneWaits l) (k : ℕ) (message : WasmCallAnswer Value) :
    NoneWaits (l.answered k message) := by
  obtain hsame | ⟨calls, calls', found, hk, -, -, -, hstopped, -, heq⟩ :=
    answered_cases l k message
  · rwa [hsame]
  · rw [heq]
    refine h.mono (fun c j s hs => ((waits_settleAll _ _).mp hs).1) fun j hj => ?_
    rcases stopped_setWorker (stopped_settleAll.mp hj) with ⟨rfl, hnow⟩ | ⟨-, hold⟩
    · exact ⟨calls, hk, hstopped ▸ hnow⟩
    · exact hold

/-- A call that is posted waits for a worker that runs. -/
theorem NoneWaits.call (h : NoneWaits l) {promise : ℕ} {name : String} {args : List Value}
    {refusal : Option String} (hrunning : refusal = none → ∀ k : ℕ,
      l.calls[promise]? = some ⟨some k, none, none⟩ → ¬l.Stopped k) :
    NoneWaits (l.call wasm promise name args refusal) := by
  obtain ⟨-, heq⟩ | ⟨k, calls, hp, hk, heq⟩ | heq := call_cases wasm l promise name args refusal
  · rw [heq]
    exact h.mono (fun c j s hs => ((waits_settleAll _ _).mp hs).1) fun j => stopped_settleAll.mp
  · rw [heq]
    intro c j s hs hj
    have hbefore : l.Stopped j := by
      obtain ⟨found, hfound, hstopped⟩ := hj
      rcases workers_sentTo hfound with ⟨rfl, rfl⟩ | ⟨-, hold⟩
      · exact ⟨calls, hk, call_stopped calls name args _ ▸ hstopped⟩
      · exact ⟨found, hold, hstopped⟩
    rcases waits_sentTo hs with ⟨-, rfl, -, hposted⟩ | hold
    · exact hrunning hposted _ hp hbefore
    · exact h c j s hold hbefore
  · rwa [heq]

/-! ## Whole runs -/

/-- Every event of the run delivers what it settles, and leaves no call to wait for a worker that
failed or was stopped. -/
def Delivery (wasm : String → List Value → Except String Value) (events : List (Event Value)) :
    Prop :=
  ∀ before event rest, events = before ++ event :: rest →
    Delivers wasm (after wasm before) event ∧ NoneWaits ((after wasm before).step wasm event)

/-- Every call that the run posts goes to a worker that has not failed and was not stopped. -/
def PostsToRunning (wasm : String → List Value → Except String Value)
    (events : List (Event Value)) : Prop :=
  ∀ before promise name args rest, events = before ++ .call promise name args none :: rest →
    ∀ k : ℕ, (after wasm before).calls[promise]? = some ⟨some k, none, none⟩ →
      ¬(after wasm before).Stopped k

theorem NoneWaits.step (h : NoneWaits l) (hsound : Sound l)
    (hrunning : ∀ promise name args, event = .call promise name args none →
      ∀ k : ℕ, l.calls[promise]? = some ⟨some k, none, none⟩ → ¬l.Stopped k) :
    NoneWaits (l.step wasm event) := by
  cases event with
  | useWasmWorker starts => exact h.useWasmWorker hsound starts
  | stopWasmWorker => exact h.stopWasmWorker hsound
  | getWasmModule => exact h.getWasmModule
  | call promise name args refusal =>
    exact h.call fun hposted => hrunning promise name args (by rw [hposted])
  | answered k message => exact h.answered k message
  | workerFailed k failure => exact h.failed hsound k failure.reason

theorem noneWaits_after {events : List (Event Value)} (h : PostsToRunning wasm events) :
    NoneWaits (after wasm events) := by
  induction events using List.reverseRecOn with
  | nil => exact fun _ _ _ hs => (by simp [Waits, after] at hs)
  | append_singleton events event ih =>
    rw [after_concat]
    refine (ih ?_).step (sound_after wasm events) ?_
    · intro before promise name args rest hsplit
      exact h before promise name args (rest ++ [event]) (by rw [hsplit]; simp)
    · rintro promise name args rfl
      exact h events promise name args [] rfl

/-- What a call leaves behind that is posted to a stopped worker. -/
theorem call_waits {promise k : ℕ} {name : String} {args : List Value}
    (hp : l.calls[promise]? = some ⟨some k, none, none⟩) (hk : l.Stopped k) :
    ¬NoneWaits (l.step wasm (.call promise name args none)) := by
  intro hnone
  obtain ⟨calls, hcalls, hstopped⟩ := hk
  have hbound : promise < l.calls.length := (List.getElem?_eq_some_iff.mp hp).1
  have hworker : k < l.workers.length := (List.getElem?_eq_some_iff.mp hcalls).1
  have heq : l.step wasm (.call promise name args none) =
      l.sentTo promise k calls name args none := by
    simp only [step, call, hp, hcalls]
    rfl
  rw [heq] at hnone
  refine hnone promise k ⟨calls.nextId, name, args⟩ ?_ ?_
  · simp [Waits, sentTo, hbound]
  · refine ⟨(calls.call name args promise true).2, ?_, ?_⟩
    · simp [sentTo, setWorker, hworker]
    · rwa [call_stopped]

/-- Over every run, every answer, failure and end is delivered and no call waits for a worker that
failed or was stopped, exactly when every call that is posted goes to a running worker. -/
theorem delivered_iff_posts_to_running
    (wasm : String → List Value → Except String Value) (events : List (Event Value)) :
    Delivery wasm events ↔ PostsToRunning wasm events := by
  constructor
  · intro h before promise name args rest hsplit k hp hk
    exact call_waits hp hk (h before _ rest hsplit).2
  · intro h before event rest hsplit
    refine ⟨(sound_after wasm before).delivers event, ?_⟩
    rw [← after_concat]
    refine noneWaits_after fun front promise name args back hfront => ?_
    refine h front promise name args (back ++ rest) ?_
    have hjoined : events = (before ++ [event]) ++ rest := by rw [hsplit]; simp
    rw [hjoined, hfront]
    simp

/-- After the worker failed, a call is posted to it and waits. -/
theorem call_after_failure_waits :
    ¬Delivery (fun _ _ => .ok ()) [.useWasmWorker true, .workerFailed 0 (.error none),
      .getWasmModule, .call 0 "encrypt_secret_share" [] none] := by
  intro h
  have hlast := (h [.useWasmWorker true, .workerFailed 0 (.error none), .getWasmModule] _ [] rfl).2
  exact hlast 0 0 ⟨0, "encrypt_secret_share", []⟩ rfl ⟨_, rfl, rfl⟩

end Delivery

end WasmLoader

end Ika.Wasm
