import IkaSdk.Core.Grpc.ReadCrossCheck
import IkaSdk.Lib.Weakest
import Mathlib.Data.List.Induction
import Mathlib.Tactic.Linarith

/-! Every run of a cross-checked read, whatever the two endpoints answer: what a
value that it returns rests on, and when it ends. -/

namespace Ika

open Wire Interaction

/-! ## The reads as operations -/

/-- The reads are raced against a timer that ends at the deadline. -/
inductive CrossCheckOp
  | now
  | sleep (ms : ℤ)
  | readBoth (deadline : ℤ)
  | readAgain (endpoint : CrossCheckEndpoint) (minPosition : ℕ) (deadline : ℤ)
deriving DecidableEq, Repr

abbrev CrossCheckOp.Ans (T : Type) : CrossCheckOp → Type
  | now => ℤ
  | sleep _ => Unit
  | readBoth _ => FirstReads T
  | readAgain .. => RacedRead T

abbrev crossCheckInterface (T : Type) : Interface := ⟨CrossCheckOp, CrossCheckOp.Ans T⟩

/-- What a caller gives, the two times where it does not take the default. -/
structure CrossCheckParams (T : Type) where
  endpoints : CrossCheckEndpoint → String
  what : String
  equal : T → T → Bool
  windowMs : Option ℤ
  retryIntervalMs : Option ℤ

variable {T : Type}

def CrossCheckParams.crossCheck (params : CrossCheckParams T) :
    CrossCheckedRead (crossCheckInterface T) T where
  endpoints := params.endpoints
  what := params.what
  equal := params.equal
  windowMs := params.windowMs.getD crossCheckWindowMs
  retryIntervalMs := params.retryIntervalMs.getD crossCheckRetryIntervalMs
  now := Eff.liftOp (I := crossCheckInterface T) .now
  sleep ms := Eff.liftOp (I := crossCheckInterface T) (.sleep ms)
  readBoth deadline := Eff.liftOp (I := crossCheckInterface T) (.readBoth deadline)
  readAgain endpoint minPosition deadline :=
    Eff.liftOp (I := crossCheckInterface T) (.readAgain endpoint minPosition deadline)

def crossCheckedRead (params : CrossCheckParams T) (fuel : ℕ) :
    Eff (crossCheckInterface T) SdkError (Option T) := params.crossCheck.run fuel

/-! ## The answers it holds -/

/-- The answers of both endpoints, once each has given one. -/
abbrev HeldAnswers (T : Type) := Option (AnswerAt T × AnswerAt T)

def bothAnswers : RacedRead T → RacedRead T → HeldAnswers T
  | some (.ok (.answerAt first)), some (.ok (.answerAt second)) => some (first, second)
  | _, _ => none

def hold (current : HeldAnswers T) : Event (crossCheckInterface T) → HeldAnswers T
  | ⟨.readBoth _, reads⟩ => bothAnswers reads.first reads.second
  | ⟨.readAgain endpoint minPosition _, some (.ok answer)⟩ => current.map fun answers =>
    CrossCheckedRead.replaced answers.1 answers.2 endpoint minPosition answer
  | _ => current

def held (h : List (Event (crossCheckInterface T))) : HeldAnswers T := h.foldl hold none

@[simp] theorem held_snoc (h : List (Event (crossCheckInterface T)))
    (e : Event (crossCheckInterface T)) : held (h ++ [e]) = hold (held h) e := by
  simp [held]

/-- What an event says that an endpoint answered. -/
def answerOf (endpoint : CrossCheckEndpoint) : Event (crossCheckInterface T) → RacedRead T
  | ⟨.readBoth _, reads⟩ => match endpoint with
    | .first => reads.first
    | .second => reads.second
  | ⟨.readAgain asked _ _, read⟩ => if asked = endpoint then read else none
  | _ => none

/-- The endpoint itself gave the answer. -/
def Gave (endpoint : CrossCheckEndpoint) (answer : AnswerAt T)
    (h : List (Event (crossCheckInterface T))) : Prop :=
  ∃ e ∈ h, answerOf endpoint e = some (.ok (.answerAt answer))

theorem Gave.snoc {endpoint : CrossCheckEndpoint} {answer : AnswerAt T}
    {h : List (Event (crossCheckInterface T))} (hgave : Gave endpoint answer h)
    (e : Event (crossCheckInterface T)) : Gave endpoint answer (h ++ [e]) := by
  obtain ⟨d, hd, hanswer⟩ := hgave
  exact ⟨d, List.mem_append_left _ hd, hanswer⟩

theorem gave_last {endpoint : CrossCheckEndpoint} {answer : AnswerAt T}
    {h : List (Event (crossCheckInterface T))} {e : Event (crossCheckInterface T)}
    (hanswer : answerOf endpoint e = some (.ok (.answerAt answer))) :
    Gave endpoint answer (h ++ [e]) := ⟨e, by simp, hanswer⟩

theorem bothAnswers_some {first second : RacedRead T} {a b : AnswerAt T}
    (h : bothAnswers first second = some (a, b)) :
    first = some (.ok (.answerAt a)) ∧ second = some (.ok (.answerAt b)) := by
  unfold bothAnswers at h
  split at h
  · cases h
    exact ⟨rfl, rfl⟩
  · cases h

/-! ## What each read follows -/

section Reads

variable (params : CrossCheckParams T)

/-- Two present values at one position that are not the same. -/
def Disagree (a b : AnswerAt T) : Prop :=
  ∃ v v', a.value = some v ∧ b.value = some v' ∧ a.position = b.position ∧
    params.equal v v' = false

/-- What holds of the events before an operation: the answers held differ, and
one of them may still catch up. -/
def ReadAllowed (h : List (Event (crossCheckInterface T))) : CrossCheckOp → Prop
  | .readBoth _ => held h = none
  | .readAgain endpoint target _ => ∃ a b, held h = some (a, b) ∧
      params.crossCheck.same a.value b.value = false ∧ ¬Disagree params a b ∧
      params.crossCheck.lagging a b = .ok endpoint ∧ target = max a.position b.position
  | _ => ∀ a b, held h = some (a, b) →
      params.crossCheck.same a.value b.value = false ∧ ¬Disagree params a b

/-- How a read ends: with a value that both endpoints gave, or refused. -/
def ReadEnds : Except SdkError (Option T) → List (Event (crossCheckInterface T)) → Prop
  | .ok value, h => ∃ a b, held h = some (a, b) ∧ a.value = value ∧
      params.crossCheck.same value b.value = true
  | .error e, h => ∀ a b, held h = some (a, b) → Disagree params a b →
      e = params.crossCheck.disagreement

abbrev readHistory : Setting (crossCheckInterface T) (List (Event (crossCheckInterface T))) :=
  historySetting (ReadAllowed params)

variable {params} {h : List (Event (crossCheckInterface T))} {a b : AnswerAt T}

theorem lagging_ok_not_disagree {endpoint : CrossCheckEndpoint}
    (hlagging : params.crossCheck.lagging a b = .ok endpoint) : ¬Disagree params a b := by
  rintro ⟨v, v', ha, hb, hposition, -⟩
  simp [CrossCheckedRead.lagging, ha, hb, hposition] at hlagging

theorem lagging_error {e : SdkError} (hlagging : params.crossCheck.lagging a b = .error e) :
    e = params.crossCheck.disagreement := by
  unfold CrossCheckedRead.lagging at hlagging
  split_ifs at hlagging
  exact (Except.error.inj hlagging).symm

/-- The answers are held through what is not an answer. -/
theorem readEnds_held {e : SdkError} (hheld : held h = some (a, b))
    (hdiffer : ¬Disagree params a b) : ReadEnds params (.error e) h := by
  intro a' b' hheld' hdisagree
  rw [hheld] at hheld'
  cases hheld'
  exact (hdiffer hdisagree).elim

theorem wp_untilSame {fuel : ℕ} {deadline : ℤ} (hheld : held h = some (a, b)) :
    Eff.wp (readHistory params) (params.crossCheck.untilSame deadline fuel a b)
      (ReadEnds params) h := by
  induction fuel generalizing h a b with
  | zero => exact Eff.wp_cut trivial
  | succ fuel ih =>
    unfold CrossCheckedRead.untilSame
    split_ifs with hsame
    · exact Eff.wp_pure ⟨a, b, hheld, rfl, hsame⟩
    have hsame : params.crossCheck.same a.value b.value = false := by simpa using hsame
    refine Eff.wp_lift_bind (fun endpoint hlagging => ?_) fun e he => ?_
    swap
    · intro _ _ _ _
      exact lagging_error he
    have hdiffer := lagging_ok_not_disagree hlagging
    have hgo : ∀ a' b', held h = some (a', b') →
        params.crossCheck.same a'.value b'.value = false ∧ ¬Disagree params a' b' := by
      intro a' b' hheld'
      rw [hheld] at hheld'
      cases hheld'
      exact ⟨hsame, hdiffer⟩
    refine Eff.wp_liftOp_bind hgo ?_
    rintro now _ rfl
    have hheldNow : held (h ++ [⟨.now, now⟩]) = some (a, b) := by
      rw [held_snoc]
      exact hheld
    refine Eff.wp_lift_bind (fun _ _ => ?_) fun e _ => readEnds_held hheldNow hdiffer
    refine Eff.wp_liftOp_bind ?_ ?_
    · intro a' b' hheld'
      rw [hheldNow] at hheld'
      cases hheld'
      exact ⟨hsame, hdiffer⟩
    rintro ⟨⟩ _ rfl
    generalize hslept : h ++ [⟨.now, now⟩] ++
      [(⟨.sleep params.crossCheck.retryIntervalMs, ()⟩ : Event (crossCheckInterface T))] = slept
    have hheldSlept : held slept = some (a, b) := by
      rw [← hslept, held_snoc, hheldNow]
      rfl
    refine Eff.wp_liftOp_bind ⟨a, b, hheldSlept, hsame, hdiffer, hlagging, rfl⟩ ?_
    rintro read _ rfl
    rcases read with _ | e | answer
    · refine Eff.wp_lift_bind (fun _ hsettled => by cases hsettled) fun e _ => ?_
      refine readEnds_held ?_ hdiffer
      rw [held_snoc]
      exact hheldSlept
    · refine Eff.wp_lift_bind (fun _ hsettled => by cases hsettled) fun e _ => ?_
      refine readEnds_held ?_ hdiffer
      rw [held_snoc]
      exact hheldSlept
    · refine Eff.wp_lift_bind (fun given hsettled => ?_) fun e hsettled => by cases hsettled
      obtain rfl : answer = given := Except.ok.inj hsettled
      refine ih ?_
      rw [held_snoc, hold, hheldSlept]
      rfl

/-- Without both answers there is nothing that could disagree. -/
theorem firstAnswers_error {reads : FirstReads T} {e : SdkError}
    (hanswers : params.crossCheck.firstAnswers reads = .error e) :
    bothAnswers reads.first reads.second = none := by
  cases hboth : bothAnswers reads.first reads.second with
  | none => rfl
  | some answers =>
    obtain ⟨hfirst, hsecond⟩ := bothAnswers_some hboth
    rw [CrossCheckedRead.firstAnswers, hfirst, hsecond] at hanswers
    cases hanswers

theorem wp_fromFirst {fuel : ℕ} {deadline : ℤ} {reads : FirstReads T}
    (hheld : held h = bothAnswers reads.first reads.second) :
    Eff.wp (readHistory params) (params.crossCheck.fromFirst deadline fuel reads)
      (ReadEnds params) h := by
  refine Eff.wp_lift_bind (fun answers hanswers => ?_) fun e hanswers => ?_
  swap
  · intro a b hsome
    rw [hheld, firstAnswers_error hanswers] at hsome
    cases hsome
  obtain ⟨x, y⟩ := answers
  obtain ⟨hfirst, hsecond⟩ := CrossCheckedRead.firstAnswers_ok hanswers
  rw [hfirst, hsecond] at hheld
  have hnone (e : SdkError) (hmissing : bothAnswers (some (.ok x)) (some (.ok y)) = none) :
      ReadEnds params (.error e) h := by
    intro a b hsome
    rw [hheld, hmissing] at hsome
    cases hsome
  cases x with
  | behind => exact hnone _ rfl
  | answerAt a =>
    cases y with
    | behind => exact hnone _ rfl
    | answerAt b => exact wp_untilSame hheld

theorem wp_crossCheckedRead (params : CrossCheckParams T) (fuel : ℕ) :
    Eff.wp (readHistory params) (crossCheckedRead params fuel) (ReadEnds params) [] := by
  refine Eff.wp_liftOp_bind (fun _ _ hnone => nomatch hnone) ?_
  rintro start _ rfl
  refine Eff.wp_liftOp_bind rfl ?_
  rintro reads _ rfl
  exact wp_fromFirst rfl

end Reads

/-! ## Time -/

/-- Time passes only while something is awaited, and a raced read ends with its
timer. -/
def ReadTakes (s : ℤ) (e : Event (crossCheckInterface T)) (t : ℤ) : Prop :=
  match e with
  | ⟨.now, time⟩ => time = s ∧ t = s
  | ⟨.sleep ms, _⟩ => t = s + max 0 ms
  | ⟨.readBoth deadline, _⟩ | ⟨.readAgain _ _ deadline, _⟩ => s ≤ t ∧ t ≤ max s deadline

def CrossCheckOp.reads : CrossCheckOp → ℕ
  | readBoth _ => 2
  | readAgain .. => 1
  | _ => 0

def readCount (h : List (Event (crossCheckInterface T))) : ℕ := (h.map fun e => e.op.reads).sum

/-- The time, and how many reads have begun. -/
structure ReadWorld where
  time : ℤ
  reads : ℕ

def ReadWorld.moves (w : ReadWorld) (e : Event (crossCheckInterface T)) (w' : ReadWorld) : Prop :=
  ReadTakes w.time e w'.time ∧ w'.reads = w.reads + e.op.reads

theorem path_reads {s u : ℤ} {tr : List (Event (crossCheckInterface T))}
    (h : Path ReadTakes s tr u) (n : ℕ) :
    Path ReadWorld.moves ⟨s, n⟩ tr ⟨u, n + readCount tr⟩ := by
  induction h generalizing n with
  | nil s => exact .nil _
  | @cons s s' u e tr hmove _ ih =>
    have hrest := ih (n + e.op.reads)
    rw [Nat.add_assoc] at hrest
    exact .cons ⟨hmove, rfl⟩ hrest

section Clock

variable (params : CrossCheckParams T)

/-- How often a lagging endpoint may be read again. -/
def rereads : ℤ := max 0 (params.crossCheck.windowMs / params.crossCheck.retryIntervalMs)

def InWindow (start : ℤ) (w : ReadWorld) : Prop :=
  w.time ≤ start + max 0 params.crossCheck.windowMs ∧ (w.reads : ℤ) ≤ 2 + rereads params

/-- A loop that is long enough for the window is not cut. -/
def readClock (start : ℤ) (tries : ℕ) : Setting (crossCheckInterface T) ReadWorld where
  moves := ReadWorld.moves
  atCall w _ := InWindow params start w
  atCut w := InWindow params start w ∧ ¬rereads params < tries

/-- After the first reads and `n` more, each of them an interval after the last. -/
structure Reread (start : ℤ) (n : ℕ) (w : ReadWorld) : Prop where
  time_le : w.time ≤ start + max 0 params.crossCheck.windowMs
  reads : w.reads = 2 + n
  le_time : start + n * params.crossCheck.retryIntervalMs ≤ w.time
  le_window : n = 0 ∨ n * params.crossCheck.retryIntervalMs ≤ params.crossCheck.windowMs

variable {params} {start : ℤ} {n tries : ℕ} {w w' : ReadWorld}
  (hretry : 0 < params.crossCheck.retryIntervalMs)

include hretry

theorem Reread.le_rereads (hw : Reread params start n w) : (n : ℤ) ≤ rereads params := by
  rcases hw.le_window with rfl | hle
  · exact le_max_left 0 _
  · exact (Int.le_ediv_of_mul_le hretry hle).trans (le_max_right 0 _)

theorem Reread.inWindow (hw : Reread params start n w) : InWindow params start w := by
  have hle := hw.le_rereads hretry
  refine ⟨hw.time_le, ?_⟩
  rw [hw.reads]
  push_cast
  omega

theorem clock_untilSame {fuel : ℕ} {a b : AnswerAt T} (hw : Reread params start n w)
    (hfuel : rereads params < tries → rereads params < fuel + n) :
    Eff.wp (readClock params start tries)
      (params.crossCheck.untilSame (start + params.crossCheck.windowMs) fuel a b)
      (fun _ w' => InWindow params start w') w := by
  induction fuel generalizing n w a b with
  | zero =>
    refine Eff.wp_cut ⟨hw.inWindow hretry, fun htries => ?_⟩
    have hmany := hfuel htries
    have hle := hw.le_rereads hretry
    omega
  | succ fuel ih =>
    unfold CrossCheckedRead.untilSame
    split_ifs with hsame
    · exact Eff.wp_pure (hw.inWindow hretry)
    refine Eff.wp_lift_bind (fun endpoint _ => ?_) fun _ _ => hw.inWindow hretry
    refine Eff.wp_liftOp_bind (hw.inWindow hretry) fun now w₁ hmove₁ => ?_
    obtain ⟨⟨htime, hsame₁⟩, hreads₁⟩ := hmove₁
    have hw₁ : Reread params start n w₁ := ⟨by rw [hsame₁]; exact hw.time_le,
      hreads₁.trans hw.reads, by rw [hsame₁]; exact hw.le_time, hw.le_window⟩
    refine Eff.wp_lift_bind (fun _ hleft => ?_) fun _ _ => hw₁.inWindow hretry
    have hleft := ensure_ok hleft
    refine Eff.wp_liftOp_bind (hw₁.inWindow hretry) fun _ w₂ hmove₂ => ?_
    obtain ⟨hslept, hreads₂⟩ := hmove₂
    have hlater := hw₁.le_time
    have hlate : w₂.time = w₁.time + params.crossCheck.retryIntervalMs := by
      rw [show w₂.time = w₁.time + max 0 _ from hslept, max_eq_right hretry.le]
    have hnext : start + ((n + 1 : ℕ) : ℤ) * params.crossCheck.retryIntervalMs ≤ w₂.time := by
      push_cast
      linarith
    have hwindow : w₂.time ≤ start + params.crossCheck.windowMs := by
      rw [htime, ← hsame₁] at hleft
      omega
    have hinWindow : InWindow params start w₂ := by
      refine ⟨by omega, ?_⟩
      rw [show w₂.reads = w₁.reads from hreads₂]
      exact (hw₁.inWindow hretry).2
    refine Eff.wp_liftOp_bind hinWindow fun read w₃ hmove₃ => ?_
    obtain ⟨⟨hstart₃, hend₃⟩, hreads₃⟩ := hmove₃
    have hw₃ : Reread params start (n + 1) w₃ := {
      time_le := by omega
      reads := by
        rw [hreads₃, show w₂.reads = w₁.reads from hreads₂, hw₁.reads]
        rfl
      le_time := hnext.trans hstart₃
      le_window := .inr (by linarith) }
    refine Eff.wp_lift_bind (fun answer _ => ?_) fun _ _ => hw₃.inWindow hretry
    refine ih hw₃ fun htries => ?_
    have hmany := hfuel htries
    push_cast at hmany ⊢
    omega

theorem clock_fromFirst {reads : FirstReads T} (hw : Reread params start 0 w) :
    Eff.wp (readClock params start tries)
      (params.crossCheck.fromFirst (start + params.crossCheck.windowMs) tries reads)
      (fun _ w' => InWindow params start w') w := by
  refine Eff.wp_lift_bind (fun answers _ => ?_) fun _ _ => hw.inWindow hretry
  refine Eff.wp_lift_bind (fun a _ => ?_) fun _ _ => hw.inWindow hretry
  refine Eff.wp_lift_bind (fun b _ => ?_) fun _ _ => hw.inWindow hretry
  exact clock_untilSame hretry hw fun htries => by simpa using htries

theorem clock_crossCheckedRead (start : ℤ) (tries : ℕ) :
    Eff.wp (readClock params start tries) (crossCheckedRead params tries)
      (fun _ w' => InWindow params start w') ⟨start, 0⟩ := by
  have hrereads : 0 ≤ rereads params := le_max_left 0 _
  have hstart : InWindow params start ⟨start, 0⟩ := ⟨by simp, by push_cast; omega⟩
  refine Eff.wp_liftOp_bind hstart fun now w₁ hmove₁ => ?_
  obtain ⟨⟨htime, hsame⟩, hreads⟩ := hmove₁
  obtain ⟨time, reads⟩ := w₁
  obtain rfl : time = start := hsame
  obtain rfl : reads = 0 := hreads
  rw [htime]
  refine Eff.wp_liftOp_bind hstart fun reads w₂ hmove₂ => ?_
  obtain ⟨⟨hlater, hend⟩, hreads₂⟩ := hmove₂
  refine clock_fromFirst hretry ⟨?_, hreads₂, ?_, .inl rfl⟩
  · simp only at hend
    omega
  · simpa using hlater

end Clock

/-! ## Every run -/

section Runs

variable {params : CrossCheckParams T} {fuel : ℕ} {tr : List (Event (crossCheckInterface T))}

theorem evidence_gave (params : CrossCheckParams T) : params.crossCheck.Evidence Gave where
  append := by
    rintro endpoint a tr₁ tr₂ tr₃ ⟨e, he, hanswer⟩
    exact ⟨e, List.mem_append_left _ (List.mem_append_right _ he), hanswer⟩
  readBoth := by
    intro deadline tr reads h
    obtain rfl := Eff.gives_liftOp_iff.mp h
    exact ⟨fun a ha => gave_last (h := []) ha, fun a ha => gave_last (h := []) ha⟩
  readAgain := by
    intro endpoint target deadline tr a h
    obtain rfl := Eff.gives_liftOp_iff.mp h
    exact gave_last (h := []) (by simp [answerOf])

/-- What an endpoint gave is held, and gives way only to what is later. -/
theorem held_grows {front : List (Event (crossCheckInterface T))}
    {e : Event (crossCheckInterface T)} {a b : AnswerAt T}
    (hallowed : ReadAllowed params front e.op) (hheld : held front = some (a, b)) :
    ∃ a' b', held (front ++ [e]) = some (a', b') ∧ a.position ≤ a'.position ∧
      b.position ≤ b'.position := by
  have hsame {h : List (Event (crossCheckInterface T))} (heq : held h = some (a, b)) :
      ∃ a' b', held h = some (a', b') ∧ a.position ≤ a'.position ∧ b.position ≤ b'.position :=
    ⟨a, b, heq, le_rfl, le_rfl⟩
  rw [held_snoc]
  obtain ⟨op, ans⟩ := e
  cases op with
  | now => exact hsame hheld
  | sleep ms => exact hsame hheld
  | readBoth deadline =>
    rw [show held front = none from hallowed] at hheld
    cases hheld
  | readAgain endpoint target deadline =>
    obtain ⟨a', b', hheld', -, -, -, htarget⟩ := hallowed
    rw [hheld] at hheld'
    cases hheld'
    rcases ans with _ | error | answer
    · exact ⟨a, b, hheld, le_rfl, le_rfl⟩
    · exact ⟨a, b, hheld, le_rfl, le_rfl⟩
    · simp only [hold, hheld, Option.map_some]
      rcases CrossCheckedRead.replaced_cases a b endpoint target answer with
        hkept | ⟨new, -, hpast, ⟨-, hnew⟩ | ⟨-, hnew⟩⟩
      · exact ⟨a, b, congrArg some hkept, le_rfl, le_rfl⟩
      · refine ⟨new, b, congrArg some hnew, ?_, le_rfl⟩
        exact (htarget ▸ le_max_left _ _).trans hpast
      · refine ⟨a, new, congrArg some hnew, le_rfl, ?_⟩
        exact (htarget ▸ le_max_right _ _).trans hpast

theorem crossCheckedRead_allowed {front rest : List (Event (crossCheckInterface T))}
    {e : Event (crossCheckInterface T)}
    (h : Eff.Begins (crossCheckedRead params fuel) (front ++ e :: rest)) :
    ReadAllowed params front e.op :=
  Eff.wp_calls (wp_crossCheckedRead params fuel) h (path_history _ [] front)

theorem crossCheckedRead_ends {r : Except SdkError (Option T)}
    (h : Prog.Returns (crossCheckedRead params fuel).run tr r) : ReadEnds params r tr :=
  Eff.wp_returns (wp_crossCheckedRead params fuel) h (path_history _ [] tr)

theorem crossCheckedRead_agreed {value : Option T}
    (h : Eff.Gives (crossCheckedRead params fuel) tr value) :
    params.crossCheck.Agreed Gave value tr := CrossCheckedRead.run_agreed (evidence_gave params) h

/-- However far a read has come, it is in its window, and its reads are few. -/
theorem crossCheckedRead_inWindow {s u : ℤ} (hretry : 0 < params.crossCheck.retryIntervalMs)
    (h : Eff.Begins (crossCheckedRead params fuel) tr) (hpath : Path ReadTakes s tr u) :
    u ≤ s + max 0 params.crossCheck.windowMs ∧ (readCount tr : ℤ) ≤ 2 + rereads params := by
  have hworld := path_reads hpath 0
  have hin := Eff.wp_begins (clock_crossCheckedRead hretry s fuel) h hworld (fun _ _ h => h)
    (fun _ _ h => h) fun _ h => h.1
  simpa [InWindow] using hin

theorem crossCheckedRead_not_cut {s u : ℤ} (hretry : 0 < params.crossCheck.retryIntervalMs)
    (hfuel : rereads params < fuel) (hpath : Path ReadTakes s tr u) :
    ¬Prog.Run (crossCheckedRead params fuel).run tr .cut := fun hcut =>
  (Eff.wp_cuts (clock_crossCheckedRead hretry s fuel) hcut (path_reads hpath 0)).2 hfuel

/-- What holds of every run of a cross-checked read, whatever the endpoints do. -/
structure CrossChecked (params : CrossCheckParams T) (fuel : ℕ) : Prop where
  absent : ∀ tr, Eff.Gives (crossCheckedRead params fuel) tr none →
    ∃ a b, Gave .first a tr ∧ Gave .second b tr ∧ a.value = none ∧ b.value = none
  present : ∀ tr v, Eff.Gives (crossCheckedRead params fuel) tr (some v) →
    ∃ a b v', Gave .first a tr ∧ Gave .second b tr ∧ a.value = some v ∧ b.value = some v' ∧
      params.equal v v' = true
  forward : ∀ front e rest, Eff.Begins (crossCheckedRead params fuel) (front ++ e :: rest) →
    ∀ a b, held front = some (a, b) → ∃ a' b', held (front ++ [e]) = some (a', b') ∧
      a.position ≤ a'.position ∧ b.position ≤ b'.position
  refused : ∀ tr a b, held tr = some (a, b) → Disagree params a b →
    (∀ e rest, ¬Eff.Begins (crossCheckedRead params fuel) (tr ++ e :: rest)) ∧
      ∀ r, Prog.Returns (crossCheckedRead params fuel).run tr r →
        r = .error params.crossCheck.disagreement
  inWindow : 0 < params.crossCheck.retryIntervalMs → ∀ tr s u,
    Eff.Begins (crossCheckedRead params fuel) tr → Path ReadTakes s tr u →
      u ≤ s + max 0 params.crossCheck.windowMs ∧ (readCount tr : ℤ) ≤ 2 + rereads params
  ends : 0 < params.crossCheck.retryIntervalMs → rereads params < fuel → ∀ tr s u,
    Path ReadTakes s tr u → ¬Prog.Run (crossCheckedRead params fuel).run tr .cut

/-- The operation after answers that are refused would not be allowed. -/
theorem disagree_not_allowed {e : Event (crossCheckInterface T)} {a b : AnswerAt T}
    (hheld : held tr = some (a, b)) (hdisagree : Disagree params a b) :
    ¬ReadAllowed params tr e.op := by
  intro hallowed
  obtain ⟨op, ans⟩ := e
  cases op with
  | now => exact (hallowed a b hheld).2 hdisagree
  | sleep ms => exact (hallowed a b hheld).2 hdisagree
  | readBoth deadline =>
    rw [show held tr = none from hallowed] at hheld
    cases hheld
  | readAgain endpoint target deadline =>
    obtain ⟨a', b', hheld', -, hdiffer, -⟩ := hallowed
    rw [hheld] at hheld'
    cases hheld'
    exact hdiffer hdisagree

theorem crossCheckedRead_crossChecked (params : CrossCheckParams T) (fuel : ℕ) :
    CrossChecked params fuel where
  absent := by
    intro tr h
    obtain ⟨a, b, ha, hb, hvalue, hsame⟩ := crossCheckedRead_agreed h
    refine ⟨a, b, ha, hb, hvalue, ?_⟩
    cases hvalue' : b.value with
    | none => rfl
    | some v =>
      rw [hvalue'] at hsame
      cases hsame
  present := by
    intro tr v h
    obtain ⟨a, b, ha, hb, hvalue, hsame⟩ := crossCheckedRead_agreed h
    cases hvalue' : b.value with
    | none =>
      rw [hvalue'] at hsame
      cases hsame
    | some v' =>
      rw [hvalue'] at hsame
      exact ⟨a, b, v', ha, hb, hvalue, hvalue', hsame⟩
  forward := by
    intro front e rest h a b hheld
    exact held_grows (crossCheckedRead_allowed h) hheld
  refused := by
    intro tr a b hheld hdisagree
    refine ⟨fun e rest h => ?_, fun r h => ?_⟩
    · exact disagree_not_allowed hheld hdisagree (crossCheckedRead_allowed h)
    · have hends := crossCheckedRead_ends h
      cases r with
      | ok value =>
        obtain ⟨a', b', hheld', rfl, hsame⟩ := hends
        rw [hheld] at hheld'
        cases hheld'
        obtain ⟨v, v', ha, hb, -, hdiffer⟩ := hdisagree
        rw [ha, hb] at hsame
        rw [show params.equal v v' = true from hsame] at hdiffer
        cases hdiffer
      | error e => exact congrArg Except.error (hends a b hheld hdisagree)
  inWindow hretry _ _ _ h hpath := crossCheckedRead_inWindow hretry h hpath
  ends hretry hfuel _ _ _ hpath := crossCheckedRead_not_cut hretry hfuel hpath

end Runs

end Ika
