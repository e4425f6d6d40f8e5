import IkaSdk.Core.Grpc.EpochCloseSafety
import Mathlib.Data.List.Induction

/-! How long a submission across the close of an epoch goes on: not past the time
given for the wait, counted from the first refusal of a closing epoch. -/

namespace Ika

open Wire Interaction

/-! ## Time -/

/-- Time passes only while something is awaited: a timer and a race end when
they are due, and a call to a validator by its deadline. -/
def Takes (s : ℤ) (e : Event callInterface) (t : ℤ) : Prop :=
  match e with
  | ⟨.now, time⟩ => time = s ∧ t = s
  | ⟨.sleep ms, _⟩ => s ≤ t ∧ t ≤ s + max 0 ms ∧ (0 < ms → s < t)
  | ⟨.currentEpoch, _⟩ | ⟨.built, _⟩ => s ≤ t
  | ⟨.currentEpochWithin ms, _⟩ | ⟨.builtWithin ms, _⟩ => s ≤ t ∧ t ≤ s + max 0 ms
  | ⟨.unary _ _ deadline, _⟩ => s ≤ t ∧ t ≤ max s deadline
  | _ => t = s

theorem Takes.le {s t : ℤ} {e : Event callInterface} (h : Takes s e t) : s ≤ t := by
  obtain ⟨op, a⟩ := e
  cases op <;> simp only [Takes] at h <;> omega

/-- Whether a validator refused the request because its epoch is closing. -/
def closingRefusal : Event callInterface → Bool
  | ⟨.unary _ _ _, .error error⟩ => error.isEpochClosingRefusal
  | _ => false

/-- The epoch that an event reads. -/
def epochRead : Event callInterface → Option ℕ
  | ⟨.currentEpoch, .ok epoch⟩ => some epoch
  | ⟨.currentEpochWithin _, some (.ok epoch)⟩ => some epoch
  | _ => none

/-- The time, and when the first refusal of a closing epoch came. -/
structure CallWorld where
  time : ℤ
  refusedAt : Option ℤ

/-- The epochs read are among the known ones. -/
def CallWorld.moves (known : ℕ → Prop) (w : CallWorld) (e : Event callInterface)
    (w' : CallWorld) : Prop :=
  Takes w.time e w'.time ∧ (∀ epoch, epochRead e = some epoch → known epoch) ∧
    w'.refusedAt = if closingRefusal e then some (w.refusedAt.getD w'.time) else w.refusedAt

def InTime (epochWaitMs : ℤ) (w : CallWorld) : Prop :=
  ∀ t, w.refusedAt = some t → w.time ≤ t + epochWaitMs

/-- The loops are long enough for the wait and for the known epochs. -/
def Enough (epochWaitMs : ℤ) (known : ℕ → Prop) (tries : ℕ) : Prop :=
  epochWaitMs < tries ∧ ∀ epoch, known epoch → epoch < tries

/-- A loop that is long enough is not cut. -/
def callClock (epochWaitMs : ℤ) (known : ℕ → Prop) (tries : ℕ) :
    Setting callInterface CallWorld where
  moves := CallWorld.moves known
  atCall w _ := InTime epochWaitMs w
  atCut w := InTime epochWaitMs w ∧ ¬Enough epochWaitMs known tries

/-! ## Under a deadline -/

/-- The deadline has not passed, and the first refusal came then, or has not. -/
structure Until (deadline : ℤ) (refusedAt : Option ℤ) (w : CallWorld) : Prop where
  refused : w.refusedAt = refusedAt
  le : w.time ≤ deadline
  since : ∀ t, refusedAt = some t → t ≤ w.time

/-- The deadline keeps to the time given for the wait. -/
def Covers (epochWaitMs deadline : ℤ) (refusedAt : Option ℤ) : Prop :=
  ∀ t, refusedAt = some t → deadline ≤ t + epochWaitMs

/-- An operation that is over by the deadline when it is called at this time. -/
def CallOp.overBy (deadline time : ℤ) : CallOp → Prop
  | .sleep ms | .currentEpochWithin ms | .builtWithin ms => time + max 0 ms ≤ deadline
  | .unary _ _ callDeadline => callDeadline ≤ deadline
  | .currentEpoch | .built => False
  | _ => True

section Until

variable {epochWaitMs : ℤ} {known : ℕ → Prop} {tries : ℕ} {deadline : ℤ} {refusedAt : Option ℤ}
  {w w' : CallWorld} {op : CallOp}

theorem Until.inTime (hcovers : Covers epochWaitMs deadline refusedAt)
    (hw : Until deadline refusedAt w) : InTime epochWaitMs w := by
  intro t ht
  exact hw.le.trans (hcovers t (hw.refused.symm.trans ht))

theorem Until.time_le {a : CallOp.Ans op} (hw : Until deadline refusedAt w)
    (hover : op.overBy deadline w.time) (htakes : Takes w.time ⟨op, a⟩ w'.time) :
    w'.time ≤ deadline := by
  have hnow := hw.le
  cases op <;> simp only [Takes, CallOp.overBy] at htakes hover <;> omega

theorem Until.moves {a : CallOp.Ans op} (hw : Until deadline refusedAt w)
    (hover : op.overBy deadline w.time) (hquiet : closingRefusal ⟨op, a⟩ = false)
    (hmove : CallWorld.moves known w ⟨op, a⟩ w') : Until deadline refusedAt w' := by
  obtain ⟨htakes, -, hrefused⟩ := hmove
  rw [hquiet] at hrefused
  exact {
    refused := hrefused.trans hw.refused
    le := hw.time_le hover htakes
    since := fun t ht => (hw.since t ht).trans htakes.le }

variable {α β : Type} {post : Except Thrown β → CallWorld → Prop}
  (hcovers : Covers epochWaitMs deadline refusedAt)

include hcovers

theorem Until.tellLast {post : Except Thrown (CallOp.Ans op) → CallWorld → Prop}
    (hw : Until deadline refusedAt w) (hover : op.overBy deadline w.time)
    (hquiet : ∀ a, closingRefusal ⟨op, a⟩ = false)
    (hrest : ∀ a w', Takes w.time ⟨op, a⟩ w'.time → Until deadline refusedAt w' →
      post (.ok a) w') : Eff.wp (callClock epochWaitMs known tries) (tell op) post w :=
  Eff.wp_liftOp (hw.inTime hcovers) fun a w' hmove =>
    hrest a w' hmove.1 (hw.moves hover (hquiet a) hmove)

theorem Until.tell {f : CallOp.Ans op → CallEff β} (hw : Until deadline refusedAt w)
    (hover : op.overBy deadline w.time) (hquiet : ∀ a, closingRefusal ⟨op, a⟩ = false)
    (hrest : ∀ a w', Takes w.time ⟨op, a⟩ w'.time → Until deadline refusedAt w' →
      Eff.wp (callClock epochWaitMs known tries) (f a) post w') :
    Eff.wp (callClock epochWaitMs known tries) (tell op >>= f) post w :=
  Eff.wp_bind (hw.tellLast hcovers hover hquiet hrest)

/-- The clock says what time it is, and no time passes. -/
theorem Until.now {f : ℤ → CallEff β} (hw : Until deadline refusedAt w)
    (hrest : ∀ w', w'.time = w.time → Until deadline refusedAt w' →
      Eff.wp (callClock epochWaitMs known tries) (f w'.time) post w') :
    Eff.wp (callClock epochWaitMs known tries) (Ika.tell .now >>= f) post w := by
  refine hw.tell hcovers trivial (fun _ => rfl) fun time w' htakes hw' => ?_
  obtain ⟨htime, hsame⟩ := htakes
  rw [htime, ← hsame]
  exact hrest w' hsame hw'

theorem Until.askFor {outcome : CallOp.Ans op → Except Thrown α}
    {post : Except Thrown α → CallWorld → Prop} (hw : Until deadline refusedAt w)
    (hover : op.overBy deadline w.time) (hquiet : ∀ a, closingRefusal ⟨op, a⟩ = false)
    (hrest : ∀ a w', CallWorld.moves known w ⟨op, a⟩ w' → Until deadline refusedAt w' →
      post (outcome a) w') :
    Eff.wp (callClock epochWaitMs known tries) (askFor op outcome) post w :=
  Eff.wp_ofOp (hw.inTime hcovers) fun a w' hmove =>
    hrest a w' hmove (hw.moves hover (hquiet a) hmove)

/-! ## One submission -/

theorem Until.isRefused {index : ℕ} {f : Bool → CallEff β} (hw : Until deadline refusedAt w)
    (hrest : ∀ b w', w.time ≤ w'.time → Until deadline refusedAt w' →
      Eff.wp (callClock epochWaitMs known tries) (f b) post w') :
    Eff.wp (callClock epochWaitMs known tries) (isRefused index >>= f) post w := by
  refine Eff.wp_bind ?_
  refine hw.tell hcovers trivial (fun _ => rfl) fun time w₁ htakes hw₁ => ?_
  cases time with
  | none => exact hrest _ _ htakes.le hw₁
  | some time =>
    refine hw₁.tell hcovers trivial (fun _ => rfl) fun now w₂ htakes₂ hw₂ => ?_
    exact hrest _ _ (htakes.le.trans htakes₂.le) hw₂

/-- A submission is over by its deadline, and a refusal of a closing epoch is
the last thing that happens in it. -/
def SubmittedBy (deadline : ℤ) (refusedAt : Option ℤ) (start : ℤ) {γ : Type} :
    Except Thrown γ → CallWorld → Prop
  | .ok _, w => Until deadline refusedAt w ∧ start ≤ w.time
  | .error error, w => start ≤ w.time ∧ Until deadline
      (if error.isEpochClosingRefusal then some (refusedAt.getD w.time) else refusedAt) w

/-- No error so far was the refusal of a closing epoch. -/
def NoneClosing (tried : Tried) : Prop :=
  ∀ e, tried.lastError = some e → e.isEpochClosingRefusal = false

omit hcovers in
theorem NoneClosing.error {tried : Tried} (h : NoneClosing tried) :
    tried.error.isEpochClosingRefusal = false := by
  unfold Tried.error
  split_ifs
  · rfl
  · cases hlast : tried.lastError with
    | none => rfl
    | some e => exact h e hlast

def OneSubmittedBy (deadline : ℤ) (refusedAt : Option ℤ) (start : ℤ) :
    Except Thrown (Tried ⊕ TransactionResponseData) → CallWorld → Prop
  | .ok (.inl tried), w => NoneClosing tried ∧ Until deadline refusedAt w ∧ start ≤ w.time
  | .ok (.inr answer), w => SubmittedBy deadline refusedAt start (.ok answer) w
  | .error error, w =>
    SubmittedBy (γ := TransactionResponseData) deadline refusedAt start (.error error) w

theorem clock_afterValidatorAnswer {request : SubmitTransactionRequest} {index : ℕ}
    {callDeadline : ℤ} {tried : Tried} {outcome : Except Thrown TransactionResponseData}
    (hw : Until deadline refusedAt w) (hover : callDeadline ≤ deadline)
    (hmove : CallWorld.moves known w ⟨.unary index request callDeadline, outcome⟩ w') :
    Eff.wp (callClock epochWaitMs known tries) (afterValidatorAnswer index tried outcome)
      (OneSubmittedBy deadline refusedAt w.time) w' := by
  have hlater : w.time ≤ w'.time := hmove.1.le
  have hcall : (CallOp.unary index request callDeadline).overBy deadline w.time := hover
  cases outcome with
  | ok answer => exact ⟨hw.moves hcall rfl hmove, hlater⟩
  | error error =>
    refine Eff.wp_bind ?_
    unfold afterValidatorError
    by_cases hclosing : error.isEpochClosingRefusal = true
    · rw [if_pos (.inr hclosing)]
      refine Eff.wp_throw ⟨hlater, ?_⟩
      rw [if_pos hclosing]
      refine ⟨?_, hw.time_le hcall hmove.1, ?_⟩
      · rw [hmove.2.2, hw.refused]
        simp only [closingRefusal, hclosing, if_true]
      · rintro t ⟨⟩
        cases hfirst : refusedAt with
        | none => exact le_rfl
        | some t => exact (hw.since t hfirst).trans hlater
    · have hquiet : error.isEpochClosingRefusal = false := by simpa using hclosing
      have hw' : Until deadline refusedAt w' :=
        @Until.moves known deadline refusedAt w w' (.unary index request callDeadline)
          (.error error) hw hcall hquiet hmove
      have hnone : ∀ e, some error = some e → e.isEpochClosingRefusal = false := by
        rintro e ⟨⟩
        exact hquiet
      split_ifs with hthrow hpin
      · exact Eff.wp_throw ⟨hlater, by rw [hquiet]; exact hw'⟩
      · refine hw'.tell hcovers trivial (fun _ => rfl) fun time w₁ htakes₁ hw₁ => ?_
        refine hw₁.tell hcovers trivial (fun _ => rfl) fun _ w₂ htakes₂ hw₂ => ?_
        exact ⟨hnone, hw₂, hlater.trans (htakes₁.le.trans htakes₂.le)⟩
      · exact Eff.wp_pure ⟨hnone, hw', hlater⟩

theorem clock_submitTo {request : SubmitTransactionRequest} {index : ℕ} {callDeadline : ℤ}
    {tried : Tried} (htried : NoneClosing tried) (hw : Until deadline refusedAt w)
    (hover : callDeadline ≤ deadline) :
    Eff.wp (callClock epochWaitMs known tries) (submitTo request callDeadline index tried)
      (OneSubmittedBy deadline refusedAt w.time) w := by
  refine hw.isRefused hcovers fun refused w₁ hlater hw₁ => ?_
  cases refused with
  | true => exact ⟨htried, hw₁, hlater⟩
  | false =>
    refine wp_tell (hw₁.inTime hcovers) fun outcome w₂ hmove => ?_
    refine Eff.wp_mono (clock_afterValidatorAnswer hcovers hw₁ hover hmove) ?_
    intro r w₃ hr
    rcases r with error | tried | answer
    · exact ⟨hlater.trans hr.1, hr.2⟩
    · exact ⟨hr.1, hr.2.1, hlater.trans hr.2.2⟩
    · exact ⟨hr.1, hlater.trans hr.2⟩

theorem clock_submitToEach {request : SubmitTransactionRequest} {callDeadline : ℤ}
    {indexes : List ℕ} {tried : Tried} (htried : NoneClosing tried)
    (hw : Until deadline refusedAt w) (hover : callDeadline ≤ deadline) :
    Eff.wp (callClock epochWaitMs known tries) (submitToEach request callDeadline indexes tried)
      (SubmittedBy deadline refusedAt w.time) w := by
  induction indexes generalizing w tried with
  | nil => exact ⟨le_rfl, by rw [htried.error]; exact hw⟩
  | cons index rest ih =>
    refine Eff.wp_bind (Eff.wp_mono (clock_submitTo hcovers htried hw hover) ?_)
    intro r w₁ hr
    rcases r with error | next | answer
    · exact hr
    · obtain ⟨hnone, hw₁, hlater⟩ := hr
      refine Eff.wp_mono (ih hnone hw₁) fun r w₂ hr => ?_
      cases r with
      | ok answer => exact ⟨hr.1, hlater.trans hr.2⟩
      | error error => exact ⟨hlater.trans hr.1, hr.2⟩
    · exact hr

theorem clock_submitTransaction {client : DWalletGrpcClient} {request : SubmitTransactionRequest}
    {timeoutMs : ℤ} (hw : Until deadline refusedAt w) (hover : w.time + timeoutMs ≤ deadline) :
    Eff.wp (callClock epochWaitMs known tries) (client.submitTransaction request timeoutMs)
      (SubmittedBy deadline refusedAt w.time) w := by
  refine hw.now hcovers fun w₁ hsame hw₁ => ?_
  rw [← hsame] at hover ⊢
  exact clock_submitToEach hcovers (fun _ he => nomatch he) hw₁ hover

/-! ## The wait -/

/-- A pause ends by the deadline, and is not over at once. -/
theorem Until.pause {times : EpochCloseTimes} {f : Unit → CallEff β}
    (hpoll : 0 < times.pollIntervalMs) (hw : Until deadline refusedAt w)
    (hrest : ∀ w', w.time ≤ w'.time → (w.time < deadline → w.time < w'.time) →
      Until deadline refusedAt w' → Eff.wp (callClock epochWaitMs known tries) (f ()) post w') :
    Eff.wp (callClock epochWaitMs known tries) (pause times deadline >>= f) post w := by
  refine Eff.wp_bind (hw.now hcovers fun w₁ hsame hw₁ => ?_)
  have hleft := hw₁.le
  refine hw₁.tellLast hcovers ?_ (fun _ => rfl) fun _ w₂ htakes hw₂ => ?_
  · simp only [CallOp.overBy]
    omega
  · have hlater := htakes.le
    simp only [Takes] at htakes
    exact hrest w₂ (by omega) (fun hbefore => by omega) hw₂

/-- A read in the wait begins before the deadline, and reads a known epoch. -/
def AfterReadUntil (known : ℕ → Prop) (deadline : ℤ) (refusedAt : Option ℤ) (start : ℤ)
    (refusedEpoch : ℕ) : Except Thrown (Option ℕ) → CallWorld → Prop
  | .ok (some epoch), w => Until deadline refusedAt w ∧ refusedEpoch < epoch ∧ known epoch
  | .ok none, w => Until deadline refusedAt w ∧ start ≤ w.time ∧ start < deadline
  | .error _, w => Until deadline refusedAt w

theorem clock_readEpochAfter {times : EpochCloseTimes} {refusedEpoch : ℕ}
    (hw : Until deadline refusedAt w) :
    Eff.wp (callClock epochWaitMs known tries) (readEpochAfter times deadline refusedEpoch)
      (AfterReadUntil known deadline refusedAt w.time refusedEpoch) w := by
  refine hw.now hcovers fun w₁ hsame hw₁ => ?_
  split_ifs with hleft
  · exact Eff.wp_throw hw₁
  refine Eff.wp_bind ?_
  refine hw₁.askFor hcovers ?_ (fun _ => rfl) fun a w₂ hmove hw₂ => ?_
  · simp only [CallOp.overBy]
    omega
  have hlater₂ : w₁.time ≤ w₂.time := hmove.1.le
  rcases a with _ | error | epoch
  · exact hw₂
  · exact hw₂
  · have hknown : known epoch := hmove.2.1 epoch rfl
    refine hw₂.now hcovers fun w₃ hsame₃ hw₃ => ?_
    split_ifs with hlate hepoch
    · exact Eff.wp_throw hw₃
    · exact Eff.wp_pure ⟨hw₃, hepoch, hknown⟩
    · exact Eff.wp_pure ⟨hw₃, by omega, by omega⟩

def AfterWaitUntil (known : ℕ → Prop) (deadline : ℤ) (refusedAt : Option ℤ) (refusedEpoch : ℕ) :
    Except Thrown ℕ → CallWorld → Prop
  | .ok epoch, w => Until deadline refusedAt w ∧ refusedEpoch < epoch ∧ known epoch
  | .error _, w => Until deadline refusedAt w

theorem clock_waitForEpochAfter {times : EpochCloseTimes} {refusedEpoch fuel : ℕ}
    (hpoll : 0 < times.pollIntervalMs) (hw : Until deadline refusedAt w)
    (hfuel : Enough epochWaitMs known tries → deadline - w.time < fuel) :
    Eff.wp (callClock epochWaitMs known tries)
      (waitForEpochAfter times deadline refusedEpoch fuel)
      (AfterWaitUntil known deadline refusedAt refusedEpoch) w := by
  induction fuel generalizing w with
  | zero =>
    refine Eff.wp_cut ⟨hw.inTime hcovers, fun henough => ?_⟩
    have hleft := hfuel henough
    have hnow := hw.le
    omega
  | succ fuel ih =>
    refine Eff.wp_bind (Eff.wp_mono (clock_readEpochAfter hcovers hw) ?_)
    intro r w₁ hr
    rcases r with error | _ | epoch
    · exact hr
    · obtain ⟨hw₁, hlater, hbefore⟩ := hr
      refine hw₁.pause hcovers hpoll fun w₂ hlater₂ hpassed hw₂ => ?_
      refine ih hw₂ fun henough => ?_
      have hleft := hfuel henough
      have hend := hw₁.le
      -- Either the pause took time, or it began at the deadline.
      rcases hend.lt_or_eq with hlt | heq
      · have hlt₂ := hpassed hlt
        omega
      · omega
    · exact hr

/-! ## Rounds -/

theorem clock_buildBeforeDeadline {times : EpochCloseTimes} {refusedEpoch epoch : ℕ}
    (hw : Until deadline refusedAt w) :
    Eff.wp (callClock epochWaitMs known tries)
      (buildBeforeDeadline times deadline refusedEpoch epoch)
      (fun _ w' => Until deadline refusedAt w') w := by
  refine hw.tell hcovers trivial (fun _ => rfl) fun _ w₁ _ hw₁ => ?_
  refine hw₁.now hcovers fun w₂ hsame hw₂ => ?_
  split_ifs with hleft
  · exact Eff.wp_throw hw₂
  · refine hw₂.askFor hcovers ?_ (fun _ => rfl) fun a w₃ _ hw₃ => hw₃
    simp only [CallOp.overBy]
    omega

theorem clock_copyOf {built : BuiltArrays} (hw : Until deadline refusedAt w) :
    Eff.wp (callClock epochWaitMs known tries) (copyOf built)
      (fun _ w' => Until deadline refusedAt w') w :=
  hw.tell hcovers trivial (fun _ => rfl) fun _ _ _ hw₁ =>
    hw₁.tell hcovers trivial (fun _ => rfl) fun _ _ _ hw₂ => hw₂

end Until

section Rounds

variable {epochWaitMs : ℤ} {known : ℕ → Prop} {tries : ℕ} {deadline t₀ : ℤ} {w : CallWorld}
  (hcovers : Covers epochWaitMs deadline (some t₀))

/-- After the first refusal, another one changes nothing of when it came. -/
theorem SubmittedBy.until {γ : Type} {start : ℤ} {r : Except Thrown γ}
    (h : SubmittedBy deadline (some t₀) start r w) :
    Until deadline (some t₀) w ∧ start ≤ w.time := by
  cases r with
  | ok answer => exact h
  | error error =>
    obtain ⟨hlater, hw⟩ := h
    refine ⟨?_, hlater⟩
    split_ifs at hw
    · exact hw
    · exact hw

include hcovers

def AfterSendingUntil (deadline t₀ start : ℤ) : Except Thrown Sending → CallWorld → Prop
  | .ok .notAnswered, w => Until deadline (some t₀) w ∧ start ≤ w.time ∧ start < deadline
  | _, w => Until deadline (some t₀) w

theorem clock_afterSending {times : EpochCloseTimes} {refusedEpoch epoch : ℕ} {start : ℤ}
    (hw : Until deadline (some t₀) w) (hlater : start ≤ w.time) (hbefore : start < deadline)
    (outcome : Except Thrown TransactionResponseData) :
    Eff.wp (callClock epochWaitMs known tries)
      (afterSending times deadline refusedEpoch epoch outcome)
      (AfterSendingUntil deadline t₀ start) w := by
  cases outcome with
  | ok answer => exact hw
  | error error =>
    simp only [afterSending]
    by_cases hclosing : error.isEpochClosingRefusal = true
    · rw [if_pos hclosing]
      refine Eff.wp_bind (hw.askFor hcovers trivial (fun _ => rfl) fun a w₁ _ hw₁ => ?_)
      cases a with
      | ok u => exact hw₁
      | error error => exact hw₁
    · rw [if_neg hclosing]
      refine Eff.wp_bind ?_
      unfold requireTimeLeft
      by_cases hdeadline : error.code = some GrpcStatus.deadlineExceeded
      · rw [if_pos hdeadline]
        refine hw.now hcovers fun w₁ hsame hw₁ => ?_
        by_cases htime : deadline ≤ w₁.time
        · rw [if_pos htime]
          exact Eff.wp_throw hw₁
        · rw [if_neg htime]
          refine Eff.wp_pure ?_
          split_ifs with hcode
          · exact hw₁
          · exact ⟨hw₁, by omega, hbefore⟩
      · rw [if_neg hdeadline]
        refine Eff.wp_pure ?_
        split_ifs with hcode
        · exact hw
        · exact ⟨hw, hlater, hbefore⟩

theorem clock_sendOnce {times : EpochCloseTimes} {client : DWalletGrpcClient}
    {refusedEpoch epoch : ℕ} {request : SubmitTransactionRequest}
    (hw : Until deadline (some t₀) w) :
    Eff.wp (callClock epochWaitMs known tries)
      (sendOnce times deadline refusedEpoch client epoch request)
      (AfterSendingUntil deadline t₀ w.time) w := by
  refine hw.now hcovers fun w₁ hsame hw₁ => ?_
  split_ifs with hleft
  · exact Eff.wp_throw hw₁
  have hover : w₁.time + min times.timeoutMs (deadline - w₁.time) ≤ deadline := by omega
  refine Eff.wp_attempt_bind (Eff.wp_mono (clock_submitTransaction hcovers hw₁ hover) ?_)
  intro outcome w₂ hsubmitted
  obtain ⟨hw₂, hlater⟩ := hsubmitted.until
  exact clock_afterSending hcovers hw₂ (by omega) (by omega) outcome

theorem clock_resend {times : EpochCloseTimes} {client : DWalletGrpcClient}
    {refusedEpoch epoch fuel : ℕ} {request : SubmitTransactionRequest}
    (hpoll : 0 < times.pollIntervalMs) (hw : Until deadline (some t₀) w)
    (hfuel : Enough epochWaitMs known tries → deadline - w.time < fuel) :
    Eff.wp (callClock epochWaitMs known tries)
      (resend times deadline refusedEpoch client epoch request fuel)
      (fun _ w' => Until deadline (some t₀) w') w := by
  induction fuel generalizing w with
  | zero =>
    refine Eff.wp_cut ⟨hw.inTime hcovers, fun henough => ?_⟩
    have hleft := hfuel henough
    have hnow := hw.le
    omega
  | succ fuel ih =>
    refine Eff.wp_bind (Eff.wp_mono (clock_sendOnce hcovers hw) ?_)
    intro r w₁ hr
    rcases r with error | answer | _ | _
    · exact hr
    · exact hr
    · exact hr
    · obtain ⟨hw₁, hlater, hbefore⟩ := hr
      refine hw₁.pause hcovers hpoll fun w₂ hlater₂ hpassed hw₂ => ?_
      refine ih hw₂ fun henough => ?_
      have hleft := hfuel henough
      have hend := hw₁.le
      rcases hend.lt_or_eq with hlt | heq
      · have hlt₂ := hpassed hlt
        omega
      · omega

theorem Until.enough {fuel : ℕ} (hw : Until deadline (some t₀) w) (hfuel : epochWaitMs < fuel) :
    deadline - w.time < fuel := by
  have hfirst := hcovers t₀ rfl
  have hsince := hw.since t₀ rfl
  omega

/-- The rounds are no more than the epochs below the bound on the ones read. -/
theorem clock_carry {times : EpochCloseTimes} {client : DWalletGrpcClient}
    {refusedEpoch fuel : ℕ} (hpoll : 0 < times.pollIntervalMs)
    (hw : Until deadline (some t₀) w) (hknown : known refusedEpoch)
    (hfuel : Enough epochWaitMs known tries → tries ≤ refusedEpoch + fuel) :
    Eff.wp (callClock epochWaitMs known tries)
      (carry times deadline client tries fuel refusedEpoch)
      (fun _ w' => Until deadline (some t₀) w') w := by
  induction fuel generalizing w refusedEpoch with
  | zero =>
    refine Eff.wp_cut ⟨hw.inTime hcovers, fun henough => ?_⟩
    have hbelow := henough.2 refusedEpoch hknown
    have hrounds := hfuel henough
    omega
  | succ fuel ih =>
    refine Eff.wp_bind (Eff.wp_mono (clock_waitForEpochAfter hcovers hpoll hw
      fun henough => hw.enough hcovers henough.1) ?_)
    intro r w₁ hwait
    rcases r with error | epoch
    · exact hwait
    obtain ⟨hw₁, hlater, hepoch⟩ := hwait
    refine Eff.wp_bind (Eff.wp_mono (clock_buildBeforeDeadline hcovers hw₁) ?_)
    intro r w₂ hw₂
    rcases r with error | built
    · exact hw₂
    refine Eff.wp_bind (Eff.wp_mono (clock_copyOf hcovers hw₂) ?_)
    intro r w₃ hw₃
    rcases r with error | request
    · exact hw₃
    refine Eff.wp_bind (Eff.wp_mono (clock_resend hcovers hpoll hw₃
      fun henough => hw₃.enough hcovers henough.1) ?_)
    intro r w₄ hw₄
    rcases r with error | _ | answer
    · exact hw₄
    · refine ih hw₄ hepoch fun henough => ?_
      have hrounds := hfuel henough
      omega
    · exact hw₄

end Rounds

/-! ## A whole call -/

theorem positiveMilliseconds_ok {value : Milliseconds} {name : String} {ms : ℤ}
    (h : positiveMilliseconds value name = .ok ms) : 0 < ms := by
  cases value with
  | finite given =>
    obtain ⟨hpositive, heq⟩ := ite_error_ok h
    cases heq
    omega
  | notFinite text => cases h

structure EpochCloseTimes.Positive (times : EpochCloseTimes) : Prop where
  epochWaitMs : 0 < times.epochWaitMs
  pollIntervalMs : 0 < times.pollIntervalMs
  timeoutMs : 0 < times.timeoutMs

theorem times_positive {params : EpochCloseParams} {times : EpochCloseTimes}
    (h : params.times = .ok times) : times.Positive := by
  obtain ⟨epochWaitMs, hwait, h⟩ := bind_ok h
  obtain ⟨pollIntervalMs, hpoll, h⟩ := bind_ok h
  obtain ⟨timeoutMs, htimeout, h⟩ := bind_ok h
  cases h
  exact ⟨positiveMilliseconds_ok hwait, positiveMilliseconds_ok hpoll,
    positiveMilliseconds_ok htimeout⟩

section Whole

variable {epochWaitMs : ℤ} {known : ℕ → Prop} {tries : ℕ} {w : CallWorld}

theorem inTime_none (h : w.refusedAt = none) : InTime epochWaitMs w := by
  intro t ht
  rw [h] at ht
  cases ht

theorem covers_none (epochWaitMs deadline : ℤ) : Covers epochWaitMs deadline none :=
  fun _ ht => nomatch ht

/-- At the first refusal the whole wait is ahead. -/
theorem until_refused {deadline : ℤ} (hpositive : 0 < epochWaitMs)
    (hw : Until deadline (some w.time) w) : Until (w.time + epochWaitMs) (some w.time) w where
  refused := hw.refused
  le := by omega
  since := hw.since

def AfterFirstUntil (epochWaitMs : ℤ) : Except Thrown (Option TransactionResponseData) →
    CallWorld → Prop
  | .ok none, w => Until (w.time + epochWaitMs) (some w.time) w
  | _, w => InTime epochWaitMs w

theorem clock_afterFirst {deadline start : ℤ} {epoch : ℕ} (hpositive : 0 < epochWaitMs)
    (outcome : Except Thrown TransactionResponseData)
    (hw : SubmittedBy deadline none start outcome w) :
    Eff.wp (callClock epochWaitMs known tries) (DWalletGrpcClient.afterFirst epoch outcome)
      (AfterFirstUntil epochWaitMs) w := by
  cases outcome with
  | ok answer => exact inTime_none hw.1.refused
  | error error =>
    obtain ⟨-, hw⟩ := hw
    simp only [DWalletGrpcClient.afterFirst]
    split_ifs at hw ⊢ with hclosing
    · have hfirst := until_refused hpositive hw
      have hcovers : Covers epochWaitMs (w.time + epochWaitMs) (some w.time) := by
        rintro t ⟨⟩
        exact le_rfl
      refine Eff.wp_bind (hfirst.askFor hcovers trivial (fun _ => rfl) fun a w₁ hmove hw₁ => ?_)
      have hsame : w₁.time = w.time := hmove.1
      cases a with
      | error error => exact hw₁.inTime hcovers
      | ok u =>
        refine Eff.wp_pure ?_
        rw [← hsame] at hw₁
        exact hw₁
    · exact Eff.wp_throw (inTime_none hw.refused)

theorem clock_submitTransactionAcrossEpochClose (known : ℕ → Prop) (tries : ℕ)
    (client : DWalletGrpcClient)
    {params : EpochCloseParams} {times : EpochCloseTimes} (htimes : params.times = .ok times)
    (hw : w.refusedAt = none) :
    Eff.wp (callClock times.epochWaitMs known tries)
      (client.submitTransactionAcrossEpochClose params tries)
      (fun _ w' => InTime times.epochWaitMs w') w := by
  have hpositive := times_positive htimes
  refine Eff.wp_lift_bind (fun given hgiven => ?_) fun error herror => ?_
  swap
  · rw [htimes] at herror
    cases herror
  obtain rfl : times = given := Except.ok.inj (htimes.symm.trans hgiven)
  refine wp_askFor (inTime_none hw) fun a w₁ hmove₁ => ?_
  have hw₁ : w₁.refusedAt = none := hmove₁.2.2.trans hw
  cases a with
  | error error => exact inTime_none hw₁
  | ok refusedEpoch =>
    have hknown : known refusedEpoch := hmove₁.2.1 refusedEpoch rfl
    refine wp_tell (inTime_none hw₁) fun _ w₂ hmove₂ => ?_
    have hw₂ : w₂.refusedAt = none := hmove₂.2.2.trans hw₁
    refine wp_askFor (inTime_none hw₂) fun a w₃ hmove₃ => ?_
    have hw₃ : w₃.refusedAt = none := hmove₃.2.2.trans hw₂
    cases a with
    | error error => exact inTime_none hw₃
    | ok first =>
      have huntil (w : CallWorld) (hnone : w.refusedAt = none) (ms : ℤ) (hms : 0 ≤ ms) :
          Until (w.time + ms) none w := ⟨hnone, by omega, fun _ ht => nomatch ht⟩
      refine Eff.wp_bind (Eff.wp_mono
        (clock_copyOf (covers_none _ _) (huntil w₃ hw₃ 0 le_rfl)) ?_)
      intro r w₄ hw₄
      cases r with
      | error error => exact inTime_none hw₄.refused
      | ok request =>
        refine Eff.wp_attempt_bind (Eff.wp_mono (clock_submitTransaction (covers_none _ _)
          (huntil w₄ hw₄.refused times.timeoutMs hpositive.timeoutMs.le) le_rfl) ?_)
        intro outcome w₅ hw₅
        refine Eff.wp_bind (Eff.wp_mono
          (clock_afterFirst hpositive.epochWaitMs outcome hw₅) ?_)
        intro r w₆ hw₆
        rcases r with error | _ | answer
        · exact hw₆
        · have hcovers : Covers times.epochWaitMs (w₆.time + times.epochWaitMs) (some w₆.time) := by
            rintro t ⟨⟩
            exact le_rfl
          refine hw₆.now hcovers fun w₇ hsame hw₇ => ?_
          rw [hsame]
          refine Eff.wp_mono (clock_carry hcovers hpositive.pollIntervalMs hw₇ hknown
            fun _ => Nat.le_add_left _ _) ?_
          intro r w₈ hw₈
          exact hw₈.inTime hcovers
        · exact hw₆

end Whole

/-! ## Every run -/

/-- A path of times is one of worlds, in which the first refusal came no later
than now. -/
theorem path_world (known : ℕ → Prop) {s u : ℤ} {tr : List (Event callInterface)}
    (h : Path Takes s tr u) (hknown : ∀ e ∈ tr, ∀ epoch, epochRead e = some epoch → known epoch)
    (refusedAt : Option ℤ) (hsince : ∀ t, refusedAt = some t → t ≤ s) :
    ∃ refusedAt', Path (CallWorld.moves known) ⟨s, refusedAt⟩ tr ⟨u, refusedAt'⟩ ∧
      (∀ t, refusedAt = some t → refusedAt' = some t) ∧
      ∀ t, refusedAt' = some t → t ≤ u := by
  induction h generalizing refusedAt with
  | nil s => exact ⟨refusedAt, .nil _, fun _ ht => ht, hsince⟩
  | @cons s s' u e tr hmove _ ih =>
    let next := if closingRefusal e then some (refusedAt.getD s') else refusedAt
    have hkept : ∀ t, refusedAt = some t → next = some t := by
      rintro t rfl
      simp [next]
    have hnext : ∀ t, next = some t → t ≤ s' := by
      intro t ht
      cases hfirst : refusedAt with
      | some t₀ =>
        rw [hkept t₀ hfirst] at ht
        rw [← Option.some.inj ht]
        exact (hsince t₀ hfirst).trans hmove.le
      | none =>
        simp only [next, hfirst] at ht
        split_ifs at ht
        cases ht
        exact le_rfl
    obtain ⟨last, hpath, hlast, hle⟩ :=
      ih (fun d hd => hknown d (List.mem_cons_of_mem _ hd)) next hnext
    have hfirstMove : CallWorld.moves known ⟨s, refusedAt⟩ e ⟨s', next⟩ :=
      ⟨hmove, hknown e List.mem_cons_self, rfl⟩
    exact ⟨last, .cons hfirstMove hpath, fun t ht => hlast t (hkept t ht), hle⟩

/-- A refusal is known of from then on. -/
theorem path_refused (known : ℕ → Prop) {s t : ℤ} {front : List (Event callInterface)}
    {e : Event callInterface} (h : Path Takes s (front ++ [e]) t) (he : closingRefusal e = true)
    (hknown : ∀ d ∈ front ++ [e], ∀ epoch, epochRead d = some epoch → known epoch) :
    ∃ t₀, t₀ ≤ t ∧ Path (CallWorld.moves known) ⟨s, none⟩ (front ++ [e]) ⟨t, some t₀⟩ := by
  obtain ⟨t', hfront, hlast⟩ := h.of_append
  have hfrontKnown : ∀ d ∈ front, ∀ epoch, epochRead d = some epoch → known epoch :=
    fun d hd => hknown d (List.mem_append_left _ hd)
  obtain ⟨refusedAt, hpath, -, hle⟩ :=
    path_world known hfront hfrontKnown none (fun _ ht => nomatch ht)
  cases hlast with
  | cons hmove hnil =>
    cases hnil
    refine ⟨refusedAt.getD t, ?_, hpath.append (.cons ⟨hmove, ?_, ?_⟩ (.nil _))⟩
    · cases refusedAt with
      | none => exact le_rfl
      | some t₀ => exact (hle t₀ rfl).trans hmove.le
    · exact hknown e (by simp)
    · simp [he]

/-- What is allowed at every event is a chain of growing epochs. -/
theorem built_increasing {tr : List (Event callInterface)}
    (h : ∀ front e rest, tr = front ++ e :: rest → Allowed front e.op) :
    (ledgerOf tr).built.Pairwise (· < ·) := by
  induction tr using List.reverseRecOn with
  | nil => exact List.Pairwise.nil
  | append_singleton tr e ih =>
    have hfront := ih fun front d rest heq => h front d (rest ++ [e]) (by simp [heq])
    have hlast := h tr e [] rfl
    rw [ledgerOf_snoc]
    obtain ⟨op, a⟩ := e
    cases op with
    | callBuild epoch =>
      refine List.pairwise_append.mpr ⟨hfront, List.pairwise_singleton _ _, ?_⟩
      intro e he d hd
      rw [List.mem_singleton.mp hd]
      exact hlast.2.2 e he
    | unary index request deadline =>
      cases a with
      | ok answer => exact hfront
      | error error =>
        simp only [Ledger.note]
        split_ifs
        · exact hfront
        · exact hfront
    | _ => exact hfront

/-- The submission of a request across the close of an epoch. Before every
operation the ledger is as that operation needs it: `build` is called for an
epoch only when every request so far was refused and recorded, and for a later
one than all of these, and what is sent is what `build` returned. A run that is
over has recorded every refusal. With a transport that keeps to its deadlines,
no run goes on past the wait that a refusal begins, and no loop that is long
enough for the wait and for the epochs read is cut. -/
theorem epoch_close_keeps_requests (client : DWalletGrpcClient) (params : EpochCloseParams)
    (fuel : ℕ) :
    (∀ tr, Eff.Begins (client.submitTransactionAcrossEpochClose params fuel) tr →
      (ledgerOf tr).built.Pairwise (· < ·) ∧
      (∀ front e rest, tr = front ++ e :: rest → Allowed front e.op) ∧
      ∀ times, params.times = .ok times → ∀ front refusal rest, tr = front ++ refusal :: rest →
        closingRefusal refusal = true → ∀ s t u, Path Takes s (front ++ [refusal]) t →
          Path Takes t rest u → u ≤ t + times.epochWaitMs) ∧
    (∀ tr r, Prog.Returns (client.submitTransactionAcrossEpochClose params fuel).run tr r →
      CallEnds params r tr) ∧
    ∀ times, params.times = .ok times → ∀ bound ≤ fuel, times.epochWaitMs < fuel →
      ∀ tr s u, Path Takes s tr u →
        (∀ e ∈ tr, ∀ epoch, epochRead e = some epoch → epoch < bound) →
        ¬Prog.Run (client.submitTransactionAcrossEpochClose params fuel).run tr .cut := by
  have hsafe := wp_submitTransactionAcrossEpochClose client params fuel
  refine ⟨fun tr hbegins => ?_, fun tr r hreturns => ?_, ?_⟩
  · have hallowed : ∀ front e rest, tr = front ++ e :: rest → Allowed front e.op := by
      rintro front e rest rfl
      exact Eff.wp_calls hsafe hbegins (path_history Allowed [] front)
    refine ⟨built_increasing hallowed, hallowed, ?_⟩
    rintro times htimes front refusal rest rfl hclosing s t u hfront hrest
    obtain ⟨t₀, ht₀, hpath⟩ := path_refused (fun _ => True) hfront hclosing
      fun _ _ _ _ => trivial
    obtain ⟨refusedAt, hpath', hkept, -⟩ := path_world (fun _ => True) hrest
      (fun _ _ _ _ => trivial) (some t₀) (by rintro t ⟨⟩; exact ht₀)
    have hwhole := hpath.append hpath'
    rw [List.append_assoc] at hwhole
    have hclock := clock_submitTransactionAcrossEpochClose (fun _ => True) fuel client htimes
      (show (CallWorld.mk s none).refusedAt = none from rfl)
    have hend := Eff.wp_begins hclock hbegins hwhole (fun _ _ h => h) (fun _ _ h => h)
      (fun _ h => h.1) t₀ (hkept t₀ rfl)
    exact hend.trans (by omega)
  · exact Eff.wp_returns hsafe hreturns (path_history Allowed [] tr)
  · intro times htimes bound hbound hfuel tr s u hpath hepochs hcut
    obtain ⟨refusedAt, hworld, -, -⟩ := path_world (fun epoch => epoch < bound) hpath
      hepochs none (fun _ ht => nomatch ht)
    have hclock := clock_submitTransactionAcrossEpochClose (fun epoch => epoch < bound) fuel
      client htimes (show (CallWorld.mk s none).refusedAt = none from rfl)
    exact (Eff.wp_cuts hclock hcut hworld).2 ⟨hfuel, fun epoch hlt => hlt.trans_le hbound⟩

def sampleClosing : Thrown :=
  .call ⟨⟨some GrpcStatus.unavailable, some epochClosingRefusal, "UNAVAILABLE"⟩, false⟩

/-- A validator whose key is not the one that the pinned check expects. -/
def sampleWrongKey : Thrown :=
  .call ⟨⟨some GrpcStatus.unavailable, some "refused", "not a committee member"⟩, true⟩

/-- Epoch 5 closes; the request for epoch 6 gets `later`. Every array holds other
bytes at every read. -/
def sampleCallAnswers (later : Except Thrown TransactionResponseData) (n : ℕ) :
    ∀ op : CallOp, op.Ans
  | .now => (0 : ℤ)
  | .sleep _ => ()
  | .currentEpoch => .ok 5
  | .currentEpochWithin _ => some (.ok 6)
  | .callBuild _ => ()
  | .built => .ok ⟨0, 1⟩
  | .builtWithin _ => some (.ok ⟨0, 1⟩)
  | .contents _ => [UInt8.ofNat n]
  | .recordClosingRefusal _ => .ok ()
  | .refusedAt _ => none
  | .refuse .. => ()
  | .monotonicNow => (0 : ℤ)
  | .unary .. => if n < 10 then .error sampleClosing else later

abbrev CallRun := List (Event callInterface) × Except Thrown TransactionResponseData

def sampleCallRun (fuel : ℕ) (later : Except Thrown TransactionResponseData) : Option CallRun :=
  (DWalletGrpcClient.submitTransactionAcrossEpochClose ⟨0⟩ ⟨none, none, none⟩
    fuel).run.transcript (sampleCallAnswers later) 0

def thrownBy {α : Type} : Except Thrown α → Option Thrown
  | .ok _ => none
  | .error error => some error

def validatorError : Event callInterface → Option Thrown
  | ⟨.unary _ _ _, outcome⟩ => thrownBy outcome
  | _ => none

instance (s t : ℤ) (e : Event callInterface) : Decidable (Takes s e t) := by
  obtain ⟨op, a⟩ := e
  cases op <;> unfold Takes <;> infer_instance

theorem path_takes_still {s : ℤ} {tr : List (Event callInterface)}
    (h : ∀ e ∈ tr, Takes s e s) : Path Takes s tr s := by
  induction tr with
  | nil => exact .nil s
  | cons e tr ih =>
    exact .cons (h e List.mem_cons_self) (ih fun d hd => h d (List.mem_cons_of_mem _ hd))

theorem epoch_close_keeps_requests_sample : ∃ tr front refusal rest,
    Prog.Returns (DWalletGrpcClient.submitTransactionAcrossEpochClose ⟨0⟩ ⟨none, none, none⟩
      1800001).run tr (.ok (.signature [7])) ∧
    tr = front ++ refusal :: rest ∧ closingRefusal refusal = true ∧
    (ledgerOf tr).built = [5, 6] ∧ (ledgerOf tr).built.Pairwise (· < ·) ∧
    (0 : ℤ) ≤ 0 + 1800000 ∧ CallEnds ⟨none, none, none⟩ (.ok (.signature [7])) tr ∧
    ¬Prog.Run (DWalletGrpcClient.submitTransactionAcrossEpochClose ⟨0⟩ ⟨none, none, none⟩
      1800001).run tr .cut := by
  have hsample : (sampleCallRun 1800001 (.ok (.signature [7]))).any (fun r : CallRun =>
      decide ((ledgerOf r.1).built = [5, 6] ∧ (∀ e ∈ r.1, Takes 0 e 0) ∧
        (r.1.drop 7).head?.any closingRefusal = true ∧
        (∀ e ∈ r.1, (epochRead e).all (· < 7) = true) ∧
        r.2.toOption = some (.signature [7]))) = true := by
    decide +kernel
  obtain ⟨⟨tr, r⟩, hrun, hchecked⟩ := (Option.any_eq_true _ _).mp hsample
  obtain ⟨hbuilt, hstill, hclosing, hepochs, hanswer⟩ := of_decide_eq_true hchecked
  have hreturns := Prog.returns_of_transcript hrun
  obtain rfl : r = .ok (.signature [7]) := by
    cases r with
    | ok answer => rw [Option.some.inj hanswer]
    | error error => cases hanswer
  obtain ⟨refusal, hhead, hclosing⟩ := (Option.any_eq_true _ _).mp hclosing
  obtain ⟨rest, hrest⟩ := List.head?_eq_some_iff.mp hhead
  have hsplit : tr = tr.take 7 ++ refusal :: rest := by
    rw [← hrest, List.take_append_drop]
  have hstillIn (part : List (Event callInterface)) (hpart : ∀ e ∈ part, e ∈ tr) :
      Path Takes 0 part 0 := path_takes_still fun e he => hstill e (hpart e he)
  obtain ⟨hbegun, hreturned, hnotCut⟩ :=
    epoch_close_keeps_requests ⟨0⟩ ⟨none, none, none⟩ 1800001
  obtain ⟨hgrows, -, hbound⟩ := hbegun tr ⟨_, hreturns⟩
  have hend := hbound ⟨1800000, 5000, 600000⟩ rfl _ refusal rest hsplit hclosing 0 0 0
    (hstillIn _ fun e he => by
      rw [hsplit]
      rcases List.mem_append.mp he with he | he
      · exact List.mem_append_left _ he
      · exact List.mem_append_right _ (List.mem_cons.mpr (.inl (List.mem_singleton.mp he))))
    (hstillIn _ fun e he => by
      rw [hsplit]
      exact List.mem_append_right _ (List.mem_cons_of_mem _ he))
  refine ⟨tr, _, refusal, rest, hreturns, hsplit, hclosing, hbuilt, hgrows, hend,
    hreturned tr _ hreturns, ?_⟩
  refine hnotCut ⟨1800000, 5000, 600000⟩ rfl 7 (by decide) (by decide) tr 0 0
    (hstillIn tr fun e he => he) fun e he epoch hepoch => ?_
  have hall := hepochs e he
  rw [hepoch] at hall
  exact of_decide_eq_true hall

/-- When the pinned check refuses the key of every validator after a refusal of a
closing epoch, the call ends in an error that no validator gave. -/
theorem epoch_close_ends_in_refused_key : ∃ tr error,
    Prog.Returns (DWalletGrpcClient.submitTransactionAcrossEpochClose ⟨0⟩ ⟨none, none, none⟩ 3).run
      tr (.error error) ∧ Path Takes 0 tr 0 ∧ (ledgerOf tr).refused = [5] ∧
    ¬FromValidator error tr ∧ ∀ refusedEpoch ms, error ≠ outOfTime refusedEpoch ms := by
  have hsample : (sampleCallRun 3 (.error sampleWrongKey)).any (fun r : CallRun =>
      decide ((ledgerOf r.1).refused = [5] ∧ (∀ e ∈ r.1, Takes 0 e 0) ∧
        (∀ e ∈ r.1, validatorError e ≠ some (everyValidatorRefused (some sampleWrongKey))) ∧
        thrownBy r.2 = some (everyValidatorRefused (some sampleWrongKey)))) = true := by
    decide +kernel
  obtain ⟨⟨tr, r⟩, hrun, hchecked⟩ := (Option.any_eq_true _ _).mp hsample
  obtain ⟨hrefused, hstill, hother, hthrown⟩ := of_decide_eq_true hchecked
  have hreturns := Prog.returns_of_transcript hrun
  cases r with
  | ok answer => cases hthrown
  | error error =>
    refine ⟨tr, error, hreturns, path_takes_still hstill, hrefused, ?_, ?_⟩
    · rintro ⟨index, request, deadline, hmem⟩
      exact hother _ hmem hthrown
    · intro refusedEpoch ms heq
      rw [heq] at hthrown
      cases hthrown

end Ika
