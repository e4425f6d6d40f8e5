import IkaSdk.Core.Grpc.Errors
import IkaSdk.Lib.Except
import IkaSdk.Lib.Throwing

/-! A read through two endpoints that has to give the same value: while they
differ, the one that lags behind is read again, until a window of time ends. -/

namespace Ika

open Wire Interaction

def crossCheckWindowMs : ℤ := 10000

def crossCheckRetryIntervalMs : ℤ := 1000

structure AnswerAt (T : Type) where
  position : ℕ
  value : Option T
deriving DecidableEq, Repr

/-- An endpoint's answer from chain state at a position; `behind` refuses a read
for a position the endpoint has not reached. -/
inductive EndpointAnswer (T : Type)
  | behind
  | answerAt (answer : AnswerAt T)
deriving DecidableEq, Repr

inductive CrossCheckEndpoint
  | first
  | second
deriving DecidableEq, Repr

/-- What comes of a read raced against a timer: nothing, when the timer was first. -/
abbrev RacedRead (T : Type) := Option (Except SdkError (EndpointAnswer T))

/-- The two reads that begin at once. `secondFirst` is whether the second one
ended before the first. -/
structure FirstReads (T : Type) where
  first : RacedRead T
  second : RacedRead T
  secondFirst : Bool

/-- What a cross-checked read is given. The reads are raced against a timer that
ends at the deadline they are given. -/
structure CrossCheckedRead (I : Interface) (T : Type) where
  endpoints : CrossCheckEndpoint → String
  what : String
  equal : T → T → Bool
  windowMs : ℤ
  retryIntervalMs : ℤ
  now : Eff I SdkError ℤ
  sleep : ℤ → Eff I SdkError Unit
  readBoth : ℤ → Eff I SdkError (FirstReads T)
  readAgain : CrossCheckEndpoint → ℕ → ℤ → Eff I SdkError (RacedRead T)

/-- A read and, at its end, whether the timer had ended before. -/
def raceRead {I : Interface} {T : Type} (read : Eff I SdkError (EndpointAnswer T))
    (windowEnded : Eff I SdkError Bool) : Eff I SdkError (RacedRead T) := do
  let outcome ← Eff.attempt read
  return if ← windowEnded then none else some outcome

namespace CrossCheckedRead

variable {I : Interface} {T : Type} (c : CrossCheckedRead I T)

/-- What a raced read gives, its error naming the endpoint. -/
def settled (endpoint : CrossCheckEndpoint) (read : RacedRead T) :
    Except SdkError (EndpointAnswer T) :=
  (read.getD (.error (.error s!"no answer within the {c.windowMs} ms window"))).mapError fun e =>
    .error s!"read the {c.what} from {c.endpoints endpoint}: {e.message}"

/-- Both first answers, or the error that came first. -/
def firstAnswers (reads : FirstReads T) : Except SdkError (EndpointAnswer T × EndpointAnswer T) :=
  match c.settled .first reads.first, c.settled .second reads.second with
  | .ok first, .ok second => .ok (first, second)
  | .ok _, .error e => .error e
  | .error e, .ok _ => .error e
  | .error e, .error e' => .error (if reads.secondFirst then e' else e)

def answered (endpoint : CrossCheckEndpoint) : EndpointAnswer T → Except SdkError (AnswerAt T)
  | .behind => .error (.error (s!"{c.endpoints endpoint} refused the {c.what} read for a " ++
      "position it has not reached, though none was asked for"))
  | .answerAt answer => .ok answer

def same : Option T → Option T → Bool
  | none, none => true
  | some first, some second => c.equal first second
  | _, _ => false

def disagreement : SdkError :=
  .error (s!"{c.endpoints .first} and {c.endpoints .second} disagree on the " ++
    s!"{c.what} at the same position; refusing the read")

/-- The endpoint to read again, of two that differ. -/
def lagging (first second : AnswerAt T) : Except SdkError CrossCheckEndpoint :=
  if first.value.isNone then .ok .first
  else if second.value.isNone then .ok .second
  else if first.position < second.position then .ok .first
  else if second.position < first.position then .ok .second
  else .error c.disagreement

/-- The answers after a re-read: one below the position asked for changes none. -/
def replaced (first second : AnswerAt T) (lagging : CrossCheckEndpoint) (target : ℕ) :
    EndpointAnswer T → AnswerAt T × AnswerAt T
  | .behind => (first, second)
  | .answerAt answer =>
    if answer.position < target then (first, second)
    else match lagging with
      | .first => (answer, second)
      | .second => (first, answer)

/-- The loop, for as many turns as `fuel` allows. -/
def untilSame (deadline : ℤ) : ℕ → AnswerAt T → AnswerAt T → Eff I SdkError (Option T)
  | 0, _, _ => Eff.cut
  | fuel + 1, first, second =>
    if c.same first.value second.value then return first.value
    else do
      let lagging ← c.lagging first second
      let now ← c.now
      ensure (now + c.retryIntervalMs ≤ deadline)
        (SdkError.error (s!"{c.endpoints .first} and {c.endpoints .second} still disagree on " ++
          s!"the {c.what} after {c.windowMs} ms; refusing the read"))
      c.sleep c.retryIntervalMs
      let target := max first.position second.position
      let answer ← c.settled lagging (← c.readAgain lagging target deadline)
      let (first, second) := replaced first second lagging target answer
      untilSame deadline fuel first second

def fromFirst (deadline : ℤ) (fuel : ℕ) (reads : FirstReads T) : Eff I SdkError (Option T) := do
  let (firstAnswer, secondAnswer) ← c.firstAnswers reads
  let first ← c.answered .first firstAnswer
  let second ← c.answered .second secondAnswer
  c.untilSame deadline fuel first second

def run (fuel : ℕ) : Eff I SdkError (Option T) := do
  let deadline := (← c.now) + c.windowMs
  c.fromFirst deadline fuel (← c.readBoth deadline)

/-! ### Where a value comes from -/

section Agreement

open Eff

variable {c} {tr tr' : List (Event I)}

theorem settled_ok {endpoint : CrossCheckEndpoint} {read : RacedRead T}
    {answer : EndpointAnswer T} (h : c.settled endpoint read = .ok answer) :
    read = some (.ok answer) := by
  rcases read with _ | e | given
  · cases h
  · cases h
  · rw [Except.ok.inj h]

theorem firstAnswers_ok {reads : FirstReads T} {x y : EndpointAnswer T}
    (h : c.firstAnswers reads = .ok (x, y)) :
    reads.first = some (.ok x) ∧ reads.second = some (.ok y) := by
  unfold firstAnswers at h
  split at h
  · next first second hfirst hsecond =>
    cases h
    exact ⟨settled_ok hfirst, settled_ok hsecond⟩
  · cases h
  · cases h
  · cases h

theorem answered_ok {endpoint : CrossCheckEndpoint} {answer : EndpointAnswer T} {a : AnswerAt T}
    (h : c.answered endpoint answer = .ok a) : answer = .answerAt a := by
  cases answer with
  | behind => cases h
  | answerAt given => rw [Except.ok.inj h]

/-- A re-read leaves the answers, or puts a new one in the place of the lagging
endpoint's, when that is at the position asked for, or past it. -/
theorem replaced_cases (first second : AnswerAt T) (endpoint : CrossCheckEndpoint)
    (target : ℕ) (answer : EndpointAnswer T) :
    replaced first second endpoint target answer = (first, second) ∨
      ∃ new, answer = .answerAt new ∧ target ≤ new.position ∧
        (endpoint = .first ∧ replaced first second endpoint target answer = (new, second) ∨
          endpoint = .second ∧ replaced first second endpoint target answer = (first, new)) := by
  cases answer with
  | behind => exact .inl rfl
  | answerAt new =>
    simp only [replaced]
    by_cases hbelow : new.position < target
    · rw [if_pos hbelow]
      exact .inl rfl
    · refine .inr ⟨new, rfl, not_lt.mp hbelow, ?_⟩
      rw [if_neg hbelow]
      cases endpoint with
      | first => exact .inl ⟨rfl, rfl⟩
      | second => exact .inr ⟨rfl, rfl⟩

variable (c) in
/-- What shows, in a run, that an endpoint gave an answer. -/
structure Evidence (G : CrossCheckEndpoint → AnswerAt T → List (Event I) → Prop) : Prop where
  append : ∀ {endpoint a tr₁ tr₂ tr₃}, G endpoint a tr₂ → G endpoint a (tr₁ ++ tr₂ ++ tr₃)
  readBoth : ∀ {deadline tr reads}, Gives (c.readBoth deadline) tr reads →
    (∀ a, reads.first = some (.ok (.answerAt a)) → G .first a tr) ∧
      ∀ a, reads.second = some (.ok (.answerAt a)) → G .second a tr
  readAgain : ∀ {endpoint target deadline tr a},
    Gives (c.readAgain endpoint target deadline) tr (some (.ok (.answerAt a))) → G endpoint a tr

variable {G : CrossCheckEndpoint → AnswerAt T → List (Event I) → Prop}

theorem Evidence.append_left (hG : c.Evidence G) {endpoint : CrossCheckEndpoint} {a : AnswerAt T}
    (h : G endpoint a tr) (tr₁ : List (Event I)) : G endpoint a (tr₁ ++ tr) := by
  simpa using @Evidence.append _ _ _ _ hG endpoint a tr₁ tr [] h

theorem Evidence.append_right (hG : c.Evidence G) {endpoint : CrossCheckEndpoint} {a : AnswerAt T}
    (h : G endpoint a tr) (tr₂ : List (Event I)) : G endpoint a (tr ++ tr₂) := by
  simpa using @Evidence.append _ _ _ _ hG endpoint a [] tr tr₂ h

/-- Both endpoints gave an answer, and the two hold the same value. -/
def Agreed (c : CrossCheckedRead I T)
    (G : CrossCheckEndpoint → AnswerAt T → List (Event I) → Prop) (value : Option T)
    (tr : List (Event I)) : Prop :=
  ∃ a b, G .first a tr ∧ G .second b tr ∧ a.value = value ∧ c.same value b.value = true

theorem untilSame_agreed (hG : c.Evidence G) {fuel : ℕ} {deadline : ℤ} {a b : AnswerAt T}
    {before : List (Event I)} {value : Option T} (ha : G .first a before) (hb : G .second b before)
    (h : Gives (c.untilSame deadline fuel a b) tr value) : c.Agreed G value (before ++ tr) := by
  induction fuel generalizing before tr a b with
  | zero => exact (gives_cut_iff.mp h).elim
  | succ fuel ih =>
    unfold untilSame at h
    split_ifs at h with hsame
    · obtain ⟨rfl, rfl⟩ := gives_pure_iff.mp h
      rw [List.append_nil]
      exact ⟨a, b, ha, hb, rfl, hsame⟩
    obtain ⟨tr₁, tr₂, endpoint, rfl, -, h₁⟩ := gives_bind_iff.mp h
    obtain ⟨tr₃, tr₄, now, rfl, -, h₂⟩ := gives_bind_iff.mp h₁
    obtain ⟨tr₅, tr₆, u, rfl, -, h₃⟩ := gives_bind_iff.mp h₂
    obtain ⟨tr₇, tr₈, u', rfl, -, h₄⟩ := gives_bind_iff.mp h₃
    obtain ⟨tr₉, tr₁₀, read, rfl, hread, h₅⟩ := gives_bind_iff.mp h₄
    obtain ⟨tr₁₁, tr₁₂, answer, rfl, hsettled, h₆⟩ := gives_bind_iff.mp h₅
    obtain ⟨rfl, hok⟩ := gives_lift_iff.mp hsettled
    obtain rfl := settled_ok hok
    have hkeep {endpoint : CrossCheckEndpoint} {a : AnswerAt T} (h : G endpoint a before) :
        G endpoint a (before ++ (tr₁ ++ tr₃ ++ tr₅ ++ tr₇ ++ tr₉)) := hG.append_right h _
    have hnew (a : AnswerAt T) (hanswer : answer = .answerAt a) :
        G endpoint a (before ++ (tr₁ ++ tr₃ ++ tr₅ ++ tr₇ ++ tr₉)) := by
      rw [hanswer] at hread
      have hgave := hG.append_left (hG.readAgain hread) (before ++ (tr₁ ++ tr₃ ++ tr₅ ++ tr₇))
      simpa [List.append_assoc] using hgave
    have hrest : c.Agreed G value (before ++ (tr₁ ++ tr₃ ++ tr₅ ++ tr₇ ++ tr₉) ++ tr₁₂) := by
      rcases replaced_cases a b endpoint (max a.position b.position) answer with
        hsame | ⟨new, hanswer, -, ⟨hend, heq⟩ | ⟨hend, heq⟩⟩
      · rw [hsame] at h₆
        exact ih (hkeep ha) (hkeep hb) h₆
      · rw [heq] at h₆
        exact ih (by rw [← hend]; exact hnew new hanswer) (hkeep hb) h₆
      · rw [heq] at h₆
        exact ih (hkeep ha) (by rw [← hend]; exact hnew new hanswer) h₆
    simpa [List.append_assoc] using hrest

/-- A value is returned only when each endpoint itself gave it. -/
theorem run_agreed (hG : c.Evidence G) {fuel : ℕ} {value : Option T}
    (h : Gives (c.run fuel) tr value) : c.Agreed G value tr := by
  obtain ⟨tr₁, tr₂, start, rfl, -, h₁⟩ := gives_bind_iff.mp h
  obtain ⟨tr₃, tr₄, reads, rfl, hreads, h₂⟩ := gives_bind_iff.mp h₁
  obtain ⟨tr₅, tr₆, ⟨x, y⟩, rfl, hanswers, h₃⟩ := gives_bind_iff.mp h₂
  obtain ⟨tr₇, tr₈, a, rfl, hfirst, h₄⟩ := gives_bind_iff.mp h₃
  obtain ⟨tr₉, tr₁₀, b, rfl, hsecond, h₅⟩ := gives_bind_iff.mp h₄
  obtain ⟨rfl, hboth⟩ := gives_lift_iff.mp hanswers
  obtain ⟨rfl, hone⟩ := gives_lift_iff.mp hfirst
  obtain ⟨rfl, htwo⟩ := gives_lift_iff.mp hsecond
  obtain ⟨hx, hy⟩ := firstAnswers_ok hboth
  rw [answered_ok hone] at hx
  rw [answered_ok htwo] at hy
  obtain ⟨hgaveFirst, hgaveSecond⟩ := hG.readBoth hreads
  have hagreed := untilSame_agreed hG (hG.append_left (hgaveFirst a hx) tr₁)
    (hG.append_left (hgaveSecond b hy) tr₁) h₅
  simpa [List.append_assoc] using hagreed

end Agreement

/-! ### Endpoints that answer the same -/

section Agreeing

open Eff

variable {c} {answer : ∀ op, I.Ans op} {ended : Bool}

theorem eval_raceRead {read : Eff I SdkError (EndpointAnswer T)}
    {windowEnded : Eff I SdkError Bool} {outcome : Except SdkError (EndpointAnswer T)}
    (hended : eval answer windowEnded = some (.ok ended))
    (hread : eval answer read = some outcome) :
    eval answer (raceRead read windowEnded) =
      some (.ok (if ended then none else some outcome)) := by
  rw [raceRead, eval_bind, eval_attempt, hread]
  simp only [Option.map_some, Option.bind_some]
  rw [eval_bind, hended]
  rfl

theorem eval_untilSame {fuel : ℕ} {deadline : ℤ} {position : ℕ} {value : Option T}
    (hequal : ∀ v, c.equal v v = true) :
    eval answer (c.untilSame deadline (fuel + 1) ⟨position, value⟩ ⟨position, value⟩) =
      some (.ok value) := by
  have hsame : c.same value value = true := by
    cases value with
    | none => rfl
    | some v => exact hequal v
  rw [untilSame, if_pos hsame]
  rfl

/-- Two endpoints that read the same come to it at once. -/
theorem eval_run {fuel : ℕ} {start : ℤ} {position : ℕ} {read : Except SdkError (Option T)}
    (hequal : ∀ v, c.equal v v = true) (hnow : eval answer c.now = some (.ok start))
    {raced : RacedRead T} (hraced : raced = if ended then none else
      some (read.map fun value => .answerAt ⟨position, value⟩))
    (hboth : ∀ deadline, eval answer (c.readBoth deadline) =
      some (.ok ⟨raced, raced, false⟩)) :
    eval answer (c.run (fuel + 1)) =
      some ((c.settled .first raced).bind fun _ => read) := by
  rw [run, eval_bind, hnow]
  simp only [Option.bind_some]
  rw [eval_bind, hboth]
  subst hraced
  cases ended with
  | true => rfl
  | false =>
    cases read with
    | error e => rfl
    | ok value => exact eval_untilSame hequal

end Agreeing

end CrossCheckedRead

end Ika
