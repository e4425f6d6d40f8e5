import IkaSdk.Core.Grpc.EpochClose

/-! What a submission across the close of an epoch signs, sends and records: no
epoch twice, no bytes but those `build` returned, and every refusal once. -/

namespace Ika

open Wire Interaction

/-! ## The ledger of a run -/

/-- The epochs that a run has called `build` for, has been refused for, and has
recorded the refusal of, each in order. -/
structure Ledger where
  built : List ℕ
  refused : List ℕ
  recorded : List ℕ
deriving DecidableEq, Repr

/-- The refused request is the one that was built last. -/
def Ledger.note (ledger : Ledger) : Event callInterface → Ledger
  | ⟨.callBuild epoch, _⟩ => { ledger with built := ledger.built ++ [epoch] }
  | ⟨.recordClosingRefusal epoch, _⟩ => { ledger with recorded := ledger.recorded ++ [epoch] }
  | ⟨.unary _ _ _, .error error⟩ =>
    if error.isEpochClosingRefusal then
      { ledger with refused := ledger.refused ++ ledger.built.getLast?.toList }
    else ledger
  | _ => ledger

def ledgerOf (h : List (Event callInterface)) : Ledger := h.foldl Ledger.note ⟨[], [], []⟩

@[simp] theorem ledgerOf_snoc (h : List (Event callInterface)) (e : Event callInterface) :
    ledgerOf (h ++ [e]) = (ledgerOf h).note e := by
  simp [ledgerOf]

/-- Every refusal so far is recorded. -/
def AllRecorded (h : List (Event callInterface)) : Prop :=
  (ledgerOf h).recorded = (ledgerOf h).refused

/-! ## The bytes that are sent -/

/-- The operations that ask the caller for a request, or read its arrays. -/
def CallOp.readsCaller : CallOp → Bool
  | .callBuild _ | .built | .builtWithin _ | .contents _ => true
  | _ => false

def ReturnsBuilt (built : BuiltArrays) (e : Event callInterface) : Prop :=
  e = ⟨.built, .ok built⟩ ∨ ∃ ms, e = ⟨.builtWithin ms, some (.ok built)⟩

/-- The request is what the arrays held when `build` returned them, and nothing
was asked of the caller, nor read from its arrays, since. -/
def CopiesOf (request : SubmitTransactionRequest) (h : List (Event callInterface)) : Prop :=
  ∃ front back returned built, ReturnsBuilt built returned ∧
    h = front ++ [returned, ⟨.contents built.userSignature, request.userSignature⟩,
      ⟨.contents built.signedRequestData, request.signedRequestData⟩] ++ back ∧
    ∀ e ∈ back, e.op.readsCaller = false

theorem CopiesOf.snoc {request : SubmitTransactionRequest} {h : List (Event callInterface)}
    {e : Event callInterface} (hcopies : CopiesOf request h) (he : e.op.readsCaller = false) :
    CopiesOf request (h ++ [e]) := by
  obtain ⟨front, back, returned, built, hreturned, rfl, hback⟩ := hcopies
  refine ⟨front, back ++ [e], returned, built, hreturned, by simp, ?_⟩
  intro d hd
  rcases List.mem_append.mp hd with hd | hd
  · exact hback d hd
  · rw [List.mem_singleton.mp hd]
    exact he

/-! ## What each operation follows -/

/-- What holds of the events before an operation. -/
def Allowed (h : List (Event callInterface)) : CallOp → Prop
  | .callBuild epoch => AllRecorded h ∧ (ledgerOf h).built = (ledgerOf h).refused ∧
      ∀ e ∈ (ledgerOf h).built, e < epoch
  | .recordClosingRefusal epoch => (ledgerOf h).refused = (ledgerOf h).recorded ++ [epoch]
  | .unary _ request _ => AllRecorded h ∧ CopiesOf request h
  | _ => AllRecorded h

abbrev callHistory : Setting callInterface (List (Event callInterface)) := historySetting Allowed

/-- The operations that neither the ledger nor the sent bytes depend on. -/
def CallOp.quiet : CallOp → Bool
  | .now | .sleep _ | .currentEpoch | .currentEpochWithin _ | .refusedAt _ | .refuse ..
  | .monotonicNow => true
  | _ => false

theorem note_quiet {e : Event callInterface} (he : e.op.quiet = true) (ledger : Ledger) :
    ledger.note e = ledger := by
  obtain ⟨op, a⟩ := e
  cases op <;> first | rfl | cases he

theorem readsCaller_of_quiet {op : CallOp} (h : op.quiet = true) : op.readsCaller = false := by
  cases op <;> first | rfl | cases h

theorem allowed_quiet {op : CallOp} (h : op.quiet = true) {tr : List (Event callInterface)}
    (hall : AllRecorded tr) : Allowed tr op := by
  cases op <;> first | exact hall | cases h

/-- A property of the events so far that quiet operations keep. -/
structure Kept (P : List (Event callInterface) → Prop) : Prop where
  recorded : ∀ {h}, P h → AllRecorded h
  quiet : ∀ {h e}, P h → e.op.quiet = true → P (h ++ [e])

section Kept

variable {α β : Type} {P : List (Event callInterface) → Prop} (hP : Kept P)
  {h : List (Event callInterface)} {op : CallOp} {post : Except Thrown β → _ → Prop}

include hP

theorem Kept.tellLast {post : Except Thrown (CallOp.Ans op) → _ → Prop} (hh : P h)
    (hop : op.quiet = true) (hrest : ∀ a h', P h' → post (.ok a) h') :
    Eff.wp callHistory (tell op) post h := by
  refine Eff.wp_liftOp (allowed_quiet hop (hP.recorded hh)) ?_
  rintro a _ rfl
  exact hrest a _ (hP.quiet hh hop)

theorem Kept.tell {f : CallOp.Ans op → CallEff β} (hh : P h) (hop : op.quiet = true)
    (hrest : ∀ a h', P h' → Eff.wp callHistory (f a) post h') :
    Eff.wp callHistory (tell op >>= f) post h :=
  Eff.wp_bind (hP.tellLast hh hop hrest)

theorem Kept.askFor {outcome : CallOp.Ans op → Except Thrown α} {f : α → CallEff β}
    (hh : P h) (hop : op.quiet = true)
    (hok : ∀ b h', P h' → Eff.wp callHistory (f b) post h')
    (herror : ∀ a e, P (h ++ [⟨op, a⟩]) → outcome a = .error e →
      post (.error e) (h ++ [⟨op, a⟩])) :
    Eff.wp callHistory (askFor op outcome >>= f) post h := by
  refine wp_askFor (allowed_quiet hop (hP.recorded hh)) ?_
  rintro a _ rfl
  have hnext : P (h ++ [⟨op, a⟩]) := hP.quiet hh hop
  cases houtcome : outcome a with
  | ok b => exact hok b _ hnext
  | error e => exact herror a e hnext houtcome

theorem Kept.isRefused {index : ℕ} {f : Bool → CallEff β} (hh : P h)
    (hrest : ∀ b h', P h' → Eff.wp callHistory (f b) post h') :
    Eff.wp callHistory (isRefused index >>= f) post h := by
  refine Eff.wp_bind (hP.tell hh rfl fun refusedAt h₁ hh₁ => ?_)
  cases refusedAt with
  | none => exact hrest _ _ hh₁
  | some time => exact hP.tell hh₁ rfl fun _ h₂ hh₂ => hrest _ _ hh₂

theorem Kept.pause {times : EpochCloseTimes} {deadline : ℤ} {f : Unit → CallEff β} (hh : P h)
    (hrest : ∀ u h', P h' → Eff.wp callHistory (f u) post h') :
    Eff.wp callHistory (pause times deadline >>= f) post h :=
  Eff.wp_bind (hP.tell hh rfl fun _ _ hh₁ => hP.tellLast hh₁ rfl hrest)

end Kept

/-! ## Where a run stands -/

/-- Every request that was built has been refused, and every refusal recorded. -/
def Idle (epochs : List ℕ) (h : List (Event callInterface)) : Prop :=
  ledgerOf h = ⟨epochs, epochs, epochs⟩

/-- A request for the epoch is built, and not refused. -/
def Pending (epochs : List ℕ) (epoch : ℕ) (h : List (Event callInterface)) : Prop :=
  ledgerOf h = ⟨epochs ++ [epoch], epochs, epochs⟩

/-- The request for the epoch is refused, and the refusal not recorded yet. -/
def JustRefused (epochs : List ℕ) (epoch : ℕ) (h : List (Event callInterface)) : Prop :=
  ledgerOf h = ⟨epochs ++ [epoch], epochs ++ [epoch], epochs⟩

/-- The request goes to the validators, as `build` returned it. -/
def InFlight (epochs : List ℕ) (epoch : ℕ) (request : SubmitTransactionRequest)
    (h : List (Event callInterface)) : Prop := Pending epochs epoch h ∧ CopiesOf request h

theorem kept_idle (epochs : List ℕ) : Kept (Idle epochs) where
  recorded h := by rw [AllRecorded, h]
  quiet h he := by rw [Idle, ledgerOf_snoc, note_quiet he, h]

theorem kept_pending (epochs : List ℕ) (epoch : ℕ) : Kept (Pending epochs epoch) where
  recorded h := by rw [AllRecorded, h]
  quiet h he := by rw [Pending, ledgerOf_snoc, note_quiet he, h]

theorem kept_inFlight (epochs : List ℕ) (epoch : ℕ) (request : SubmitTransactionRequest) :
    Kept (InFlight epochs epoch request) where
  recorded h := (kept_pending epochs epoch).recorded h.1
  quiet h he := ⟨(kept_pending epochs epoch).quiet h.1 he, h.2.snoc (readsCaller_of_quiet he)⟩

/-! ## How a run ends -/

def FromValidator (error : Thrown) (h : List (Event callInterface)) : Prop :=
  ∃ index request deadline,
    (⟨.unary index request deadline, .error error⟩ : Event callInterface) ∈ h

/-- The error of a submission that no validator was left for: the pinned check
has refused the key of every one, some of them in this run or none. -/
def FromRefusals (error : Thrown) (h : List (Event callInterface)) : Prop :=
  error = everyValidatorRefused none ∨ ∃ last, FromValidator last h ∧
    last.isNotACommitteeMember = true ∧ error = everyValidatorRefused (some last)

/-- The last event is a function of the caller that threw the error. -/
def FromCaller (error : Thrown) (h : List (Event callInterface)) : Prop :=
  ∃ front last, h = front ++ [last] ∧ (last = ⟨.currentEpoch, .error error⟩ ∨
    last = ⟨.built, .error error⟩ ∨ (∃ epoch, last = ⟨.recordClosingRefusal epoch, .error error⟩) ∨
    (∃ ms, last = ⟨.currentEpochWithin ms, some (.error error)⟩) ∨
    ∃ ms, last = ⟨.builtWithin ms, some (.error error)⟩)

def NamesLastRefusal (epochWaitMs : ℤ) (error : Thrown) (h : List (Event callInterface)) : Prop :=
  ∃ epoch, (ledgerOf h).refused.getLast? = some epoch ∧ error = outOfTime epoch epochWaitMs

def AnsweredLast (answer : TransactionResponseData) (h : List (Event callInterface)) : Prop :=
  ∃ front index request deadline,
    h = front ++ [⟨.unary index request deadline, .ok answer⟩]

/-- How a run that sent something ends. -/
def Ends (epochWaitMs : ℤ) : Except Thrown TransactionResponseData →
    List (Event callInterface) → Prop
  | .ok answer, h => AnsweredLast answer h
  | .error error, h => FromValidator error h ∨ FromRefusals error h ∨
      NamesLastRefusal epochWaitMs error h ∨ FromCaller error h

theorem FromValidator.snoc {error : Thrown} {h : List (Event callInterface)}
    (hfrom : FromValidator error h) (e : Event callInterface) : FromValidator error (h ++ [e]) := by
  obtain ⟨index, request, deadline, hmem⟩ := hfrom
  exact ⟨index, request, deadline, List.mem_append_left _ hmem⟩

/-! ## One submission -/

theorem everyValidatorRefused_not_closing (last : Option Thrown) :
    (everyValidatorRefused last).isEpochClosingRefusal = false := rfl

/-- What the errors so far of one submission show. -/
structure TriedShows (tried : Tried) (h : List (Event callInterface)) : Prop where
  last : ∀ {e}, tried.lastError = some e → FromValidator e h ∧ e.isEpochClosingRefusal = false
  refused : ∀ {e}, tried.everyOneRefused = true → tried.lastError = some e →
    e.isNotACommitteeMember = true
  unavailable : tried.everyOneRefused = false → tried.lastError ≠ none

theorem TriedShows.snoc {tried : Tried} {h : List (Event callInterface)}
    (htried : TriedShows tried h) (e : Event callInterface) : TriedShows tried (h ++ [e]) where
  last he :=
    have hlast := htried.last he
    ⟨hlast.1.snoc e, hlast.2⟩
  refused := htried.refused
  unavailable := htried.unavailable

theorem TriedShows.error {tried : Tried} {h : List (Event callInterface)}
    (htried : TriedShows tried h) : tried.error.isEpochClosingRefusal = false ∧
      (FromValidator tried.error h ∨ FromRefusals tried.error h) := by
  unfold Tried.error
  split_ifs with hrefused
  · refine ⟨everyValidatorRefused_not_closing _, .inr ?_⟩
    cases hlast : tried.lastError with
    | none => exact .inl rfl
    | some e => exact .inr ⟨e, (htried.last hlast).1, htried.refused hrefused hlast, rfl⟩
  · obtain ⟨e, hlast⟩ := Option.ne_none_iff_exists'.mp
      (htried.unavailable (by simpa using hrefused))
    rw [hlast]
    exact ⟨(htried.last hlast).2, .inl (htried.last hlast).1⟩

section Submission

variable (epochs : List ℕ) (epoch : ℕ) (request : SubmitTransactionRequest)

/-- How a submission may end. -/
def Submitted : Except Thrown TransactionResponseData → List (Event callInterface) → Prop
  | .ok answer, h => InFlight epochs epoch request h ∧ AnsweredLast answer h
  | .error error, h => (FromValidator error h ∨ FromRefusals error h) ∧
      if error.isEpochClosingRefusal then JustRefused epochs epoch h
      else InFlight epochs epoch request h

variable {epochs epoch request} {h : List (Event callInterface)}

theorem inFlight_answered (hh : InFlight epochs epoch request h) (index : ℕ) (deadline : ℤ)
    (answer : TransactionResponseData) :
    InFlight epochs epoch request (h ++ [⟨.unary index request deadline, .ok answer⟩]) := by
  refine ⟨?_, hh.2.snoc rfl⟩
  rw [Pending, ledgerOf_snoc, hh.1]
  rfl

theorem inFlight_failed (hh : InFlight epochs epoch request h) (index : ℕ) (deadline : ℤ)
    {error : Thrown} (hclosing : error.isEpochClosingRefusal = false) :
    InFlight epochs epoch request (h ++ [⟨.unary index request deadline, .error error⟩]) := by
  refine ⟨?_, hh.2.snoc rfl⟩
  rw [Pending, ledgerOf_snoc, hh.1]
  simp [Ledger.note, hclosing]

theorem inFlight_refused (hh : InFlight epochs epoch request h) (index : ℕ) (deadline : ℤ)
    {error : Thrown} (hclosing : error.isEpochClosingRefusal = true) :
    JustRefused epochs epoch (h ++ [⟨.unary index request deadline, .error error⟩]) := by
  rw [JustRefused, ledgerOf_snoc, hh.1]
  simp [Ledger.note, hclosing]

theorem kept_tried (tried : Tried) :
    Kept fun h => InFlight epochs epoch request h ∧ TriedShows tried h where
  recorded h := (kept_inFlight epochs epoch request).recorded h.1
  quiet h he := ⟨(kept_inFlight epochs epoch request).quiet h.1 he, h.2.snoc _⟩

/-- What one validator leaves: an answer, or what is known of the ones so far. -/
def AfterOne : Except Thrown (Tried ⊕ TransactionResponseData) →
    List (Event callInterface) → Prop
  | .ok (.inl tried), h => InFlight epochs epoch request h ∧ TriedShows tried h
  | .ok (.inr answer), h => Submitted epochs epoch request (.ok answer) h
  | .error error, h => Submitted epochs epoch request (.error error) h

theorem wp_afterValidatorAnswer {index : ℕ} {deadline : ℤ} {tried : Tried}
    (hh : InFlight epochs epoch request h) (outcome : Except Thrown TransactionResponseData) :
    Eff.wp callHistory (afterValidatorAnswer index tried outcome)
      (@AfterOne epochs epoch request)
      (h ++ [⟨.unary index request deadline, outcome⟩]) := by
  cases outcome with
  | ok answer =>
    exact ⟨inFlight_answered hh index deadline answer, h, index, request, deadline, rfl⟩
  | error error =>
    have hfrom : FromValidator error (h ++ [⟨.unary index request deadline, .error error⟩]) :=
      ⟨index, request, deadline, by simp⟩
    refine Eff.wp_bind ?_
    unfold afterValidatorError
    split_ifs with hthrow hpin
    · refine Eff.wp_throw ⟨.inl hfrom, ?_⟩
      split_ifs with hclosing
      · exact inFlight_refused hh index deadline hclosing
      · exact inFlight_failed hh index deadline (by simpa using hclosing)
    · obtain ⟨-, hclosing⟩ := not_or.mp hthrow
      have hclosing : error.isEpochClosingRefusal = false := by simpa using hclosing
      have hnext : InFlight epochs epoch request
          (h ++ [⟨.unary index request deadline, .error error⟩]) ∧
          TriedShows { tried with lastError := some error } _ :=
        ⟨inFlight_failed hh index deadline hclosing,
          { last := fun he => by cases he; exact ⟨hfrom, hclosing⟩
            refused := fun _ he => by cases he; exact hpin
            unavailable := fun _ => Option.some_ne_none error }⟩
      refine (kept_tried _).tell hnext rfl fun time h₁ hh₁ => ?_
      exact (kept_tried _).tell hh₁ rfl fun _ h₂ hh₂ => hh₂
    · obtain ⟨-, hclosing⟩ := not_or.mp hthrow
      have hclosing : error.isEpochClosingRefusal = false := by simpa using hclosing
      exact ⟨inFlight_failed hh index deadline hclosing,
        { last := fun he => by cases he; exact ⟨hfrom, hclosing⟩
          refused := fun hall _ => nomatch hall
          unavailable := fun _ => Option.some_ne_none error }⟩

theorem wp_submitTo {deadline : ℤ} {index : ℕ} {tried : Tried}
    (hh : InFlight epochs epoch request h) (htried : TriedShows tried h) :
    Eff.wp callHistory (submitTo request deadline index tried)
      (@AfterOne epochs epoch request) h := by
  refine (kept_tried tried).isRefused ⟨hh, htried⟩ fun refused h₁ hh₁ => ?_
  cases refused with
  | true => exact hh₁
  | false =>
    refine wp_tell ⟨(kept_inFlight epochs epoch request).recorded hh₁.1, hh₁.1.2⟩ ?_
    rintro outcome _ rfl
    exact wp_afterValidatorAnswer hh₁.1 outcome

theorem wp_submitToEach {deadline : ℤ} {indexes : List ℕ} {tried : Tried}
    (hh : InFlight epochs epoch request h) (htried : TriedShows tried h) :
    Eff.wp callHistory (submitToEach request deadline indexes tried)
      (Submitted epochs epoch request) h := by
  induction indexes generalizing h tried with
  | nil =>
    obtain ⟨hclosing, hfrom⟩ := htried.error
    exact Eff.wp_throw ⟨hfrom, by rw [hclosing]; exact hh⟩
  | cons index rest ih =>
    refine Eff.wp_bind (Eff.wp_mono (wp_submitTo hh htried) ?_)
    intro r h₁ hr
    rcases r with error | next | answer
    · exact hr
    · exact ih hr.1 hr.2
    · exact hr

theorem wp_submitTransaction {client : DWalletGrpcClient} {timeoutMs : ℤ}
    (hh : InFlight epochs epoch request h) :
    Eff.wp callHistory (client.submitTransaction request timeoutMs)
      (Submitted epochs epoch request) h :=
  (kept_inFlight epochs epoch request).tell hh rfl fun _ _ hh₁ => wp_submitToEach hh₁
    { last := fun he => nomatch he
      refused := fun _ he => nomatch he
      unavailable := fun hfalse => nomatch hfalse }

end Submission

/-! ## Across the close of an epoch -/

/-- A run that is over has recorded every refusal. -/
def Done (epochWaitMs : ℤ) (r : Except Thrown TransactionResponseData)
    (h : List (Event callInterface)) : Prop := AllRecorded h ∧ Ends epochWaitMs r h

section Carrying

variable {times : EpochCloseTimes} {deadline : ℤ} {epochs : List ℕ} {refusedEpoch epoch : ℕ}
  {request : SubmitTransactionRequest} {h : List (Event callInterface)}

theorem done_outOfTime (hrecorded : AllRecorded h)
    (hlast : (ledgerOf h).refused.getLast? = some refusedEpoch) :
    Done times.epochWaitMs (.error (outOfTime refusedEpoch times.epochWaitMs)) h :=
  ⟨hrecorded, .inr (.inr (.inl ⟨refusedEpoch, hlast, rfl⟩))⟩

theorem Idle.outOfTime (hh : Idle epochs h) (hlast : epochs.getLast? = some refusedEpoch) :
    Done times.epochWaitMs (.error (outOfTime refusedEpoch times.epochWaitMs)) h :=
  done_outOfTime ((kept_idle epochs).recorded hh) (by rw [hh]; exact hlast)

theorem Pending.outOfTime (hh : Pending epochs epoch h)
    (hlast : epochs.getLast? = some refusedEpoch) :
    Done times.epochWaitMs (.error (outOfTime refusedEpoch times.epochWaitMs)) h :=
  done_outOfTime ((kept_pending epochs epoch).recorded hh) (by rw [hh]; exact hlast)

/-- After an error of a race: the caller's function threw it, or the time is up. -/
theorem done_raced {α : Type} {a : Option (Except Thrown α)} {front : List (Event callInterface)}
    {e : Event callInterface} {error : Thrown}
    (hraced : raced (outOfTime refusedEpoch times.epochWaitMs) a = .error error)
    (hcaller : a = some (.error error) → FromCaller error (front ++ [e]))
    (htime : Done times.epochWaitMs (.error (outOfTime refusedEpoch times.epochWaitMs))
      (front ++ [e])) : Done times.epochWaitMs (.error error) (front ++ [e]) := by
  cases a with
  | none =>
    cases hraced
    exact htime
  | some outcome =>
    cases hraced
    exact ⟨htime.1, .inr (.inr (.inr (hcaller rfl)))⟩

def AfterRead (times : EpochCloseTimes) (epochs : List ℕ) (refusedEpoch : ℕ) :
    Except Thrown (Option ℕ) → List (Event callInterface) → Prop
  | .ok (some epoch), h => Idle epochs h ∧ refusedEpoch < epoch
  | .ok none, h => Idle epochs h
  | .error error, h => Done times.epochWaitMs (.error error) h

theorem wp_readEpochAfter (hh : Idle epochs h) (hlast : epochs.getLast? = some refusedEpoch) :
    Eff.wp callHistory (readEpochAfter times deadline refusedEpoch)
      (AfterRead times epochs refusedEpoch) h := by
  refine (kept_idle epochs).tell hh rfl fun time h₁ hh₁ => ?_
  split_ifs with hleft
  · exact Eff.wp_throw (hh₁.outOfTime hlast)
  · refine (kept_idle epochs).askFor hh₁ rfl (fun epoch h₂ hh₂ => ?_) ?_
    · refine (kept_idle epochs).tell hh₂ rfl fun time h₃ hh₃ => ?_
      split_ifs with hlate hlater
      · exact Eff.wp_throw (hh₃.outOfTime hlast)
      · exact ⟨hh₃, hlater⟩
      · exact hh₃
    · intro a error hnext herror
      refine done_raced herror (fun ha => ?_) (hnext.outOfTime hlast)
      exact ⟨h₁, _, rfl, .inr (.inr (.inr (.inl ⟨_, by rw [ha]⟩)))⟩

def AfterWait (times : EpochCloseTimes) (epochs : List ℕ) (refusedEpoch : ℕ) :
    Except Thrown ℕ → List (Event callInterface) → Prop
  | .ok epoch, h => Idle epochs h ∧ refusedEpoch < epoch
  | .error error, h => Done times.epochWaitMs (.error error) h

theorem wp_waitForEpochAfter {fuel : ℕ} (hh : Idle epochs h)
    (hlast : epochs.getLast? = some refusedEpoch) :
    Eff.wp callHistory (waitForEpochAfter times deadline refusedEpoch fuel)
      (AfterWait times epochs refusedEpoch) h := by
  induction fuel generalizing h with
  | zero => exact Eff.wp_cut trivial
  | succ fuel ih =>
    refine Eff.wp_bind (Eff.wp_mono (wp_readEpochAfter hh hlast) ?_)
    intro r h₁ hr
    rcases r with error | _ | epoch
    · exact hr
    · exact (kept_idle epochs).pause hr fun _ _ hh₂ => ih hh₂
    · exact hr

/-- `build` has just returned these arrays. -/
def JustBuilt (epochs : List ℕ) (epoch : ℕ) (built : BuiltArrays)
    (h : List (Event callInterface)) : Prop :=
  Pending epochs epoch h ∧ ∃ front returned, ReturnsBuilt built returned ∧ h = front ++ [returned]

def AfterBuild (times : EpochCloseTimes) (epochs : List ℕ) (epoch : ℕ) :
    Except Thrown BuiltArrays → List (Event callInterface) → Prop
  | .ok built, h => JustBuilt epochs epoch built h
  | .error error, h => Done times.epochWaitMs (.error error) h

theorem pending_callBuild (hh : Idle epochs h) (epoch : ℕ) :
    Pending epochs epoch (h ++ [⟨.callBuild epoch, ()⟩]) := by
  rw [Pending, ledgerOf_snoc, hh]
  rfl

theorem allowed_callBuild (hh : Idle epochs h) (hlater : ∀ e ∈ epochs, e < epoch) :
    Allowed h (.callBuild epoch) := by
  refine ⟨(kept_idle epochs).recorded hh, ?_, ?_⟩
  · rw [hh]
  · rw [hh]
    exact hlater

theorem wp_buildBeforeDeadline (hh : Idle epochs h) (hlater : ∀ e ∈ epochs, e < epoch)
    (hlast : epochs.getLast? = some refusedEpoch) :
    Eff.wp callHistory (buildBeforeDeadline times deadline refusedEpoch epoch)
      (AfterBuild times epochs epoch) h := by
  refine wp_tell (allowed_callBuild hh hlater) ?_
  rintro ⟨⟩ _ rfl
  refine (kept_pending epochs epoch).tell (pending_callBuild hh epoch) rfl fun time h₁ hh₁ => ?_
  split_ifs with hleft
  · exact Eff.wp_throw (hh₁.outOfTime hlast)
  · refine Eff.wp_ofOp ((kept_pending epochs epoch).recorded hh₁) ?_
    rintro a _ rfl
    have hnext : Pending epochs epoch (h₁ ++ [⟨.builtWithin (deadline - time), a⟩]) := by
      rw [Pending, ledgerOf_snoc, hh₁]
      rfl
    cases hraced : raced (outOfTime refusedEpoch times.epochWaitMs) a with
    | error error =>
      refine done_raced hraced (fun ha => ?_) (hnext.outOfTime hlast)
      exact ⟨h₁, _, rfl, .inr (.inr (.inr (.inr ⟨_, by rw [ha]⟩)))⟩
    | ok built =>
      refine ⟨hnext, h₁, _, .inr ⟨deadline - time, ?_⟩, rfl⟩
      cases a with
      | none => cases hraced
      | some outcome =>
        rw [show outcome = .ok built from hraced]

theorem wp_copyOf {built : BuiltArrays} {α : Type} {f : SubmitTransactionRequest → CallEff α}
    {post : Except Thrown α → List (Event callInterface) → Prop}
    (hh : JustBuilt epochs epoch built h)
    (hrest : ∀ request h', InFlight epochs epoch request h' →
      Eff.wp callHistory (f request) post h') :
    Eff.wp callHistory (copyOf built >>= f) post h := by
  obtain ⟨hpending, front, returned, hreturned, rfl⟩ := hh
  have hfirst (bytes : Bytes) : Pending epochs epoch
      (front ++ [returned] ++ [⟨.contents built.userSignature, bytes⟩]) := by
    rw [Pending, ledgerOf_snoc, hpending]
    rfl
  refine Eff.wp_bind (wp_tell ((kept_pending epochs epoch).recorded hpending) ?_)
  rintro userSignature _ rfl
  refine wp_tell ((kept_pending epochs epoch).recorded (hfirst userSignature)) ?_
  rintro signedRequestData _ rfl
  refine hrest ⟨userSignature, signedRequestData⟩ _
    ⟨?_, front, [], returned, built, hreturned, ?_, ?_⟩
  · rw [Pending, ledgerOf_snoc, hfirst]
    rfl
  · simp
  · simp

/-- What became of one sending, as the run knows it. -/
def AfterSending (times : EpochCloseTimes) (epochs : List ℕ) (epoch : ℕ)
    (request : SubmitTransactionRequest) :
    Except Thrown Sending → List (Event callInterface) → Prop
  | .ok (.answered answer), h => Done times.epochWaitMs (.ok answer) h
  | .ok .refusedAsClosing, h => Idle (epochs ++ [epoch]) h
  | .ok .notAnswered, h => InFlight epochs epoch request h
  | .error error, h => Done times.epochWaitMs (.error error) h

theorem wp_recordClosingRefusal {β : Type} {f : Unit → CallEff β}
    {post : Except Thrown β → List (Event callInterface) → Prop}
    (hh : JustRefused epochs epoch h)
    (hok : ∀ h', Idle (epochs ++ [epoch]) h' → Eff.wp callHistory (f ()) post h')
    (herror : ∀ error h', Done times.epochWaitMs (.error error) h' → post (.error error) h') :
    Eff.wp callHistory (askFor (.recordClosingRefusal epoch) id >>= f) post h := by
  refine wp_askFor (show (ledgerOf h).refused = _ by rw [hh]) ?_
  rintro a _ rfl
  have hnext : Idle (epochs ++ [epoch]) (h ++ [⟨.recordClosingRefusal epoch, a⟩]) := by
    rw [Idle, ledgerOf_snoc, hh]
    rfl
  cases a with
  | ok u => exact hok _ hnext
  | error error =>
    refine herror error _ ⟨(kept_idle _).recorded hnext, .inr (.inr (.inr ?_))⟩
    exact ⟨h, _, rfl, .inr (.inr (.inl ⟨epoch, rfl⟩))⟩

theorem done_submitted {error : Thrown} {waitMs : ℤ}
    (hfrom : FromValidator error h ∨ FromRefusals error h) (hrecorded : AllRecorded h) :
    Done waitMs (.error error) h := ⟨hrecorded, hfrom.elim .inl fun hall => .inr (.inl hall)⟩

theorem FromRefusals.snoc {error : Thrown} (hfrom : FromRefusals error h)
    (e : Event callInterface) : FromRefusals error (h ++ [e]) := by
  rcases hfrom with hnone | ⟨last, hlast, hpin, heq⟩
  · exact .inl hnone
  · exact .inr ⟨last, hlast.snoc e, hpin, heq⟩

/-- A submission's error, seen from later in the run. -/
theorem kept_submitted (error : Thrown) : Kept fun h => InFlight epochs epoch request h ∧
    (FromValidator error h ∨ FromRefusals error h) where
  recorded h := (kept_inFlight epochs epoch request).recorded h.1
  quiet h he := ⟨(kept_inFlight epochs epoch request).quiet h.1 he,
    h.2.imp (fun hfrom => hfrom.snoc _) fun hall => hall.snoc _⟩

theorem wp_requireTimeLeft {error : Thrown} {β : Type} {f : Unit → CallEff β}
    {post : Except Thrown β → List (Event callInterface) → Prop}
    (hh : InFlight epochs epoch request h ∧ (FromValidator error h ∨ FromRefusals error h))
    (hlast : epochs.getLast? = some refusedEpoch)
    (hrest : ∀ h', InFlight epochs epoch request h' ∧
      (FromValidator error h' ∨ FromRefusals error h') → Eff.wp callHistory (f ()) post h')
    (hdone : ∀ e h', Done times.epochWaitMs (.error e) h' → post (.error e) h') :
    Eff.wp callHistory (requireTimeLeft times deadline refusedEpoch error >>= f) post h := by
  refine Eff.wp_bind ?_
  unfold requireTimeLeft
  split_ifs with hdeadline
  · refine (kept_submitted error).tell hh rfl fun time h₁ hh₁ => ?_
    split_ifs with htime
    · exact Eff.wp_throw (hdone _ _ (hh₁.1.1.outOfTime hlast))
    · exact Eff.wp_pure (hrest h₁ hh₁)
  · exact Eff.wp_pure (hrest h hh)

theorem wp_afterSending (outcome : Except Thrown TransactionResponseData)
    (hh : Submitted epochs epoch request outcome h)
    (hlast : epochs.getLast? = some refusedEpoch) :
    Eff.wp callHistory (afterSending times deadline refusedEpoch epoch outcome)
      (AfterSending times epochs epoch request) h := by
  cases outcome with
  | ok answer => exact ⟨(kept_inFlight epochs epoch request).recorded hh.1, hh.2⟩
  | error error =>
    obtain ⟨hfrom, hstate⟩ := hh
    simp only [afterSending]
    by_cases hclosing : error.isEpochClosingRefusal = true
    · rw [if_pos hclosing] at hstate ⊢
      refine wp_recordClosingRefusal hstate (fun _ hidle => ?_) fun _ _ hdone => hdone
      exact Eff.wp_pure hidle
    · rw [if_neg hclosing] at hstate ⊢
      refine wp_requireTimeLeft ⟨hstate, hfrom⟩ hlast (fun h₁ hh₁ => ?_) fun _ _ hdone => hdone
      split_ifs with hunavailable
      · exact Eff.wp_throw (done_submitted hh₁.2 ((kept_submitted error).recorded hh₁))
      · exact Eff.wp_pure hh₁.1

variable {client : DWalletGrpcClient}

theorem wp_sendOnce (hh : InFlight epochs epoch request h)
    (hlast : epochs.getLast? = some refusedEpoch) :
    Eff.wp callHistory (sendOnce times deadline refusedEpoch client epoch request)
      (AfterSending times epochs epoch request) h := by
  refine (kept_inFlight epochs epoch request).tell hh rfl fun time h₁ hh₁ => ?_
  split_ifs with hleft
  · exact Eff.wp_throw (hh₁.1.outOfTime hlast)
  · refine Eff.wp_attempt_bind (Eff.wp_mono (wp_submitTransaction hh₁) ?_)
    intro outcome h₂ hsubmitted
    exact wp_afterSending outcome hsubmitted hlast

def AfterResend (times : EpochCloseTimes) (epochs : List ℕ) (epoch : ℕ) :
    Except Thrown (Option TransactionResponseData) → List (Event callInterface) → Prop
  | .ok (some answer), h => Done times.epochWaitMs (.ok answer) h
  | .ok none, h => Idle (epochs ++ [epoch]) h
  | .error error, h => Done times.epochWaitMs (.error error) h

theorem wp_resend {fuel : ℕ} (hh : InFlight epochs epoch request h)
    (hlast : epochs.getLast? = some refusedEpoch) :
    Eff.wp callHistory (resend times deadline refusedEpoch client epoch request fuel)
      (AfterResend times epochs epoch) h := by
  induction fuel generalizing h with
  | zero => exact Eff.wp_cut trivial
  | succ fuel ih =>
    refine Eff.wp_bind (Eff.wp_mono (wp_sendOnce hh hlast) ?_)
    intro r h₁ hr
    rcases r with error | answer | _ | _
    · exact hr
    · exact hr
    · exact hr
    · exact (kept_inFlight epochs epoch request).pause hr fun _ _ hh₂ => ih hh₂

/-- The epochs grow, and the last of them refused last. -/
theorem wp_carry {tries fuel : ℕ} (hh : Idle epochs h)
    (hlast : epochs.getLast? = some refusedEpoch) (hle : ∀ e ∈ epochs, e ≤ refusedEpoch) :
    Eff.wp callHistory (carry times deadline client tries fuel refusedEpoch)
      (Done times.epochWaitMs) h := by
  induction fuel generalizing h epochs refusedEpoch with
  | zero => exact Eff.wp_cut trivial
  | succ fuel ih =>
    refine Eff.wp_bind (Eff.wp_mono (wp_waitForEpochAfter hh hlast) ?_)
    intro r h₁ hwait
    rcases r with error | epoch
    · exact hwait
    obtain ⟨hidle, hlater⟩ := hwait
    have hbelow : ∀ e ∈ epochs, e < epoch := fun e he => (hle e he).trans_lt hlater
    refine Eff.wp_bind (Eff.wp_mono (wp_buildBeforeDeadline hidle hbelow hlast) ?_)
    intro r h₂ hbuild
    rcases r with error | built
    · exact hbuild
    refine wp_copyOf hbuild fun request h₃ hflight => ?_
    refine Eff.wp_bind (Eff.wp_mono (wp_resend hflight hlast) ?_)
    intro r h₄ hresend
    rcases r with error | _ | answer
    · exact hresend
    · refine ih hresend (by simp) fun e he => ?_
      rcases List.mem_append.mp he with he | he
      · exact (hbelow e he).le
      · exact (List.mem_singleton.mp he).le
    · exact hresend

theorem wp_afterFirst (outcome : Except Thrown TransactionResponseData)
    (hh : Submitted [] epoch request outcome h) :
    Eff.wp callHistory (DWalletGrpcClient.afterFirst epoch outcome) (AfterResend times [] epoch)
      h := by
  cases outcome with
  | ok answer => exact ⟨(kept_inFlight [] epoch request).recorded hh.1, hh.2⟩
  | error error =>
    obtain ⟨hfrom, hstate⟩ := hh
    simp only [DWalletGrpcClient.afterFirst]
    split_ifs at hstate ⊢ with hclosing
    · refine wp_recordClosingRefusal hstate (fun _ hidle => ?_) fun _ _ hdone => hdone
      exact Eff.wp_pure hidle
    · exact Eff.wp_throw <| done_submitted hfrom ((kept_inFlight [] epoch request).recorded hstate)

end Carrying

/-- How a call ends: nothing happened under times it refuses, or as `Done` says. -/
def CallEnds (params : EpochCloseParams) (r : Except Thrown TransactionResponseData)
    (h : List (Event callInterface)) : Prop :=
  (∃ error, params.times = .error error ∧ r = .error error ∧ h = []) ∨
    ∃ times, params.times = .ok times ∧ Done times.epochWaitMs r h

theorem wp_submitTransactionAcrossEpochClose (client : DWalletGrpcClient)
    (params : EpochCloseParams) (fuel : ℕ) :
    Eff.wp callHistory (client.submitTransactionAcrossEpochClose params fuel) (CallEnds params)
      [] := by
  refine Eff.wp_lift_bind (fun times htimes => ?_) fun error herror =>
    .inl ⟨error, herror, rfl, rfl⟩
  have hends : ∀ r h, Done times.epochWaitMs r h → CallEnds params r h := fun r h hdone =>
    .inr ⟨times, htimes, hdone⟩
  refine Eff.wp_mono ?_ hends
  have hidle : Idle [] ([] : List (Event callInterface)) := rfl
  refine (kept_idle []).askFor hidle rfl (fun epoch h₁ hh₁ => ?_) ?_
  · refine wp_tell (allowed_callBuild hh₁ (by simp)) ?_
    rintro ⟨⟩ _ rfl
    have hpending := pending_callBuild hh₁ epoch
    refine wp_askFor ((kept_pending [] epoch).recorded hpending) ?_
    rintro a _ rfl
    have hnext : Pending [] epoch (h₁ ++ [⟨.callBuild epoch, ()⟩] ++ [⟨.built, a⟩]) := by
      rw [Pending, ledgerOf_snoc, hpending]
      rfl
    cases a with
    | error error =>
      refine ⟨(kept_pending [] epoch).recorded hnext, .inr (.inr (.inr ?_))⟩
      exact ⟨_, _, rfl, .inr (.inl rfl)⟩
    | ok built =>
      refine wp_copyOf ⟨hnext, _, _, .inl rfl, rfl⟩ fun request h₂ hflight => ?_
      refine Eff.wp_attempt_bind (Eff.wp_mono (wp_submitTransaction hflight) ?_)
      intro outcome h₃ hsubmitted
      have hafter := @wp_afterFirst times
      refine Eff.wp_bind (Eff.wp_mono (hafter outcome hsubmitted) ?_)
      intro r h₄ hfirst
      rcases r with error | _ | answer
      · exact hfirst
      · refine (kept_idle _).tell hfirst rfl fun time h₅ hh₅ => ?_
        exact wp_carry hh₅ rfl (by simp)
      · exact hfirst
  · intro a error hnext herror
    refine ⟨(kept_idle []).recorded hnext, .inr (.inr (.inr ?_))⟩
    exact ⟨[], _, rfl, .inl (by rw [show a = .error error from herror])⟩

end Ika
