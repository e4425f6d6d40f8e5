import IkaSdk.Core.Common.OneRun
import Mathlib.Data.List.TakeWhile

/-! The copies of one signed request and when each was sent: the failures in transport that
the two resending loops ride out, and the ones that end them. -/

namespace Ika

open Wire Interaction Eff

variable {T H : Type}

/-! ## Events and their times -/

/-- An event and the time at which it ended. A read of the clock answers that time. -/
structure Timed (T H : Type) where
  event : EngineEvent T H
  time : ℤ
  clock : ∀ answer, event = ⟨.now, answer⟩ → time = answer

def events (run : List (Timed T H)) : List (EngineEvent T H) := run.map Timed.event

@[simp] theorem events_append (run run' : List (Timed T H)) :
    events (run ++ run') = events run ++ events run' := List.map_append

/-- A copy was sent and answered. -/
def isAnswered : EngineEvent T H → Bool
  | ⟨.submitTransaction .., .ok _⟩ => true
  | _ => false

/-- The error that a copy met. -/
def failure : EngineEvent T H → Option GrpcError
  | ⟨.submitTransaction .., .error error⟩ => some error
  | _ => none

/-- A failure in transport: the validator restarts, starts an epoch, or dropped the request. -/
def inTransport (error : GrpcError) : Bool :=
  (isTransportFailure error || isDroppedRequest error) && !isEpochClosingRefusal error

/-- The resending of an unanswered request goes on exactly after a failure in transport. -/
theorem inTransport_eq (error : GrpcError) : inTransport error =
    !(isEpochClosingRefusal error || !(isTransportFailure error || isDroppedRequest error)) := by
  unfold inTransport
  rw [Bool.not_or, Bool.not_not, Bool.and_comm]

/-! ## The loops -/

section Loops

variable {signed : SignedRequest} {deadline : ℤ} {fuel : ℕ} {answer : TransactionResponseData}
  {tr : List (EngineEvent T H)} {r : Except (EngineError T) TransactionResponseData}

/-- How the sending until an answer ends: with the first answer, or with an error that is not
one of transport or came past the deadline. -/
def EndsAnswered (deadline : ℤ) (tr : List (EngineEvent T H)) :
    Except (EngineError T) TransactionResponseData → Prop
  | .ok _ => ∃ before last, tr = before ++ [last] ∧ (∀ e ∈ before, isAnswered e = false) ∧
      isAnswered last = true
  | .error e => (∀ e ∈ tr, isAnswered e = false) ∧ ∃ error, e = .grpc error ∧
      (inTransport error = true → ∃ (before : List (EngineEvent T H)) (now : ℤ),
        tr = before ++ [⟨.now, now⟩] ∧ deadline ≤ now)

theorem EndsAnswered.prepend {first : List (EngineEvent T H)}
    (hfirst : ∀ e ∈ first, isAnswered e = false) (h : EndsAnswered deadline tr r) :
    EndsAnswered deadline (first ++ tr) r := by
  cases r with
  | ok answer =>
    obtain ⟨before, last, rfl, hbefore, hlast⟩ := h
    refine ⟨first ++ before, last, by rw [List.append_assoc], ?_, hlast⟩
    intro e he
    exact (List.mem_append.mp he).elim (hfirst e) (hbefore e)
  | error e =>
    obtain ⟨hnone, error, rfl, htransport⟩ := h
    refine ⟨fun e he => (List.mem_append.mp he).elim (hfirst e) (hnone e), error, rfl, ?_⟩
    intro hridden
    obtain ⟨before, now, rfl, hpast⟩ := htransport hridden
    exact ⟨first ++ before, now, by rw [List.append_assoc], hpast⟩

theorem ends_perform {α : Type} {op : EngineOp T H} {f : op.Ans → EngineEff T H α}
    {r : Except (EngineError T) α} (h : Ends (perform op >>= f) tr r) :
    ∃ a tr', tr = ⟨op, a⟩ :: tr' ∧ Ends (f a) tr' r := by
  rcases h.bind_cases with ⟨e, -, hthrows⟩ | ⟨tr₁, tr₂, a, rfl, hgives, hrest⟩
  · exact (throws_liftOp_iff.mp hthrows).elim
  · obtain rfl := gives_liftOp_iff.mp hgives
    exact ⟨a, tr₂, rfl, hrest⟩

theorem ends_perform_cons {α : Type} (op : EngineOp T H) (a : op.Ans)
    {f : op.Ans → EngineEff T H α} {tr : List (EngineEvent T H)} {r : Except (EngineError T) α}
    (h : Ends (f a) tr r) : Ends (perform op >>= f) (⟨op, a⟩ :: tr) r := by
  have hop : Gives (perform op) [⟨op, a⟩] a := gives_liftOp_iff.mpr rfl
  exact hop.bind_ends h

theorem ends_resendUntilAnswered
    (h : Ends (resendUntilAnswered (T := T) (H := H) signed deadline fuel) tr r) :
    EndsAnswered deadline tr r := by
  induction fuel generalizing tr with
  | zero =>
    obtain ⟨-, hcut⟩ := Prog.run_cut_iff.mp h
    cases hcut
  | succ fuel ih =>
    obtain ⟨start, tr₁, rfl, hsend⟩ := ends_perform h
    obtain ⟨outcome, tr₂, rfl, hrest⟩ := ends_perform hsend
    cases outcome with
    | ok answer =>
      obtain ⟨rfl, rfl⟩ := Prog.returns_pure_iff.mp hrest
      exact ⟨[⟨.now, start⟩], _, rfl, by simp [isAnswered], rfl⟩
    | error error =>
      dsimp only at hrest
      split_ifs at hrest with hends
      · obtain ⟨rfl, rfl⟩ := Prog.returns_pure_iff.mp hrest
        refine ⟨by simp [isAnswered], error, rfl, fun hridden => ?_⟩
        rw [inTransport_eq, hends] at hridden
        cases hridden
      · obtain ⟨now, tr₃, rfl, hwait⟩ := ends_perform hrest
        split_ifs at hwait with hpast
        · obtain ⟨rfl, rfl⟩ := Prog.returns_pure_iff.mp hwait
          refine ⟨by simp [isAnswered], error, rfl, fun _ => ?_⟩
          exact ⟨[_, _], now, rfl, hpast⟩
        · obtain ⟨_, tr₄, rfl, hagain⟩ := ends_perform hwait
          have hnone : ∀ e ∈ [(⟨.now, start⟩ : EngineEvent T H), ⟨.submitTransaction signed
              (max 1 (deadline - start)), .error error⟩, ⟨.now, now⟩,
              ⟨.sleep resendIntervalMs, ()⟩], isAnswered e = false := by
            simp [isAnswered]
          exact EndsAnswered.prepend hnone (ih hagain)

/-- How the resending while the deposit is unread ends: without any failure, or with the
first one that a copy meets. -/
def EndsRead (tr : List (EngineEvent T H)) :
    Except (EngineError T) TransactionResponseData → Prop
  | .ok _ => ∀ e ∈ tr, failure e = none
  | .error e => ∃ before last error, tr = before ++ [last] ∧ e = .grpc error ∧
      (∀ e ∈ before, failure e = none) ∧ failure last = some error

theorem EndsRead.prepend {first : List (EngineEvent T H)}
    (hfirst : ∀ e ∈ first, failure e = none) (h : EndsRead tr r) : EndsRead (first ++ tr) r := by
  cases r with
  | ok answer => exact fun e he => (List.mem_append.mp he).elim (hfirst e) (h e)
  | error e =>
    obtain ⟨before, last, error, rfl, rfl, hbefore, hlast⟩ := h
    refine ⟨first ++ before, last, error, by rw [List.append_assoc], rfl, ?_, hlast⟩
    exact fun e he => (List.mem_append.mp he).elim (hfirst e) (hbefore e)

theorem ends_resendUntilRead
    (h : Ends (resendUntilRead (T := T) (H := H) signed deadline answer fuel) tr r) :
    EndsRead tr r := by
  induction fuel generalizing tr answer with
  | zero =>
    obtain ⟨-, hcut⟩ := Prog.run_cut_iff.mp h
    cases hcut
  | succ fuel ih =>
    unfold resendUntilRead at h
    split_ifs at h with hunread
    · obtain ⟨now, tr₁, rfl, hwait⟩ := ends_perform h
      split_ifs at hwait with hearly
      · obtain ⟨_, tr₂, rfl, hsend⟩ := ends_perform hwait
        obtain ⟨outcome, tr₃, rfl, hrest⟩ := ends_perform hsend
        cases outcome with
        | ok answer =>
          have hnone : ∀ e ∈ [(⟨.now, now⟩ : EngineEvent T H), ⟨.sleep depositReadRetryMs, ()⟩,
              ⟨.submitTransaction signed submitTimeoutMs, .ok answer⟩], failure e = none := by
            simp [failure]
          exact EndsRead.prepend hnone (ih hrest)
        | error error =>
          obtain ⟨rfl, rfl⟩ := Prog.returns_pure_iff.mp hrest
          exact ⟨[⟨.now, now⟩, ⟨.sleep _, _⟩], _, error, rfl, rfl, by simp [failure], rfl⟩
      · obtain ⟨rfl, rfl⟩ := Prog.returns_pure_iff.mp hwait
        exact fun e he => by simp [failure] at he ⊢; simp [he]
    · obtain ⟨rfl, rfl⟩ := Prog.returns_pure_iff.mp h
      exact fun e he => (by cases he)

end Loops

/-! ## Deadlines -/

/-- What follows the first answered copy. -/
def afterAnswer (run : List (Timed T H)) : List (Timed T H) :=
  (run.dropWhile fun moment => !isAnswered moment.event).tail

/-- The deadline of the copies that are sent at the end of a run: the one of its first read of
the clock, and once a copy was answered, the one of the read that follows the answer. -/
def resendDeadline (run : List (Timed T H)) : Option ℤ :=
  match afterAnswer run with
  | start :: _ => some (start.time + depositReadWaitMs)
  | [] => run.head?.map fun start => start.time + submitTimeoutMs

def DeadlinePassed (run : List (Timed T H)) : Prop :=
  ∃ deadline ∈ resendDeadline run, ∃ last ∈ run.getLast?, deadline ≤ last.time

/-- A run of the sending ends with an answer, with the close of its session, with an error of
another status, or with a failure in transport once the deadline has passed. -/
def RidesOut (sent : Sent T) (run : List (Timed T H)) :
    Except (EngineError T) (TransactionResponseData × Sent T) → Prop
  | .ok (_, answered) => answered = sent
  | .error (.closedBeforeAnswer closed _) => closed = sent
  | .error (.grpc error) =>
    isEpochClosingRefusal error = false ∧ (inTransport error = true → DeadlinePassed run)
  | .error _ => False

/-- No copy that is resent while the deposit is unread meets a failure in transport before the
deadline of that loop. -/
def DepositCopiesArrive (run : List (Timed T H)) : Prop :=
  ∀ start deposit, afterAnswer run = start :: deposit → ∀ moment ∈ deposit, ∀ error,
    failure moment.event = some error → inTransport error = true →
      start.time + depositReadWaitMs ≤ moment.time

theorem afterAnswer_none {run : List (Timed T H)}
    (h : ∀ e ∈ events run, isAnswered e = false) : afterAnswer run = [] := by
  have hall : run.dropWhile (fun moment => !isAnswered moment.event) = [] := by
    apply List.dropWhile_eq_nil_iff.mpr
    intro moment hmoment
    rw [h moment.event (List.mem_map_of_mem hmoment)]
    rfl
  rw [afterAnswer, hall]
  rfl

theorem afterAnswer_append {before rest : List (Timed T H)} {last : Timed T H}
    (hbefore : ∀ e ∈ events before, isAnswered e = false) (hlast : isAnswered last.event = true) :
    afterAnswer (before ++ last :: rest) = rest := by
  have hskip : ∀ moment ∈ before, (!isAnswered moment.event) = true := by
    intro moment hmoment
    rw [hbefore moment.event (List.mem_map_of_mem hmoment)]
    rfl
  rw [afterAnswer, List.dropWhile_append_of_pos hskip, List.dropWhile_cons_of_neg]
  · rfl
  · simp [hlast]

/-! ## The sending -/

section Sending

variable {sent : Sent T} {signed : SignedRequest} {fuel : ℕ} {run : List (Timed T H)}
  {r : Except (EngineError T) (TransactionResponseData × Sent T)}

/-- The copies that a validator is sent, until one is read. -/
def copiesSent (signed : SignedRequest) (fuel : ℕ) : EngineEff T H TransactionResponseData := do
  resendWhileDepositUnread (← sendUntilAnswered signed fuel) signed fuel

/-- The sending ends before any answer, or in the loop of the unread deposit. -/
theorem ends_copiesSent {outcome : Except (EngineError T) TransactionResponseData}
    (h : Ends (copiesSent signed fuel) (events run) outcome) :
    (afterAnswer run = [] ∧ ∃ error, outcome = .error (.grpc error) ∧
      (inTransport error = true → DeadlinePassed run)) ∨
    ∃ before start deposit, run = before ++ start :: deposit ∧
      afterAnswer run = start :: deposit ∧ EndsRead (events deposit) outcome := by
  rcases h.bind_cases with ⟨e, rfl, hthrows⟩ | ⟨tr₁, tr₂, answer, hrun, hgives, hread⟩
  · obtain ⟨now, tr, hrun, hloop⟩ := ends_perform hthrows
    obtain ⟨start, run', rfl, hstart, rfl⟩ := List.map_eq_cons_iff.mp hrun
    obtain ⟨hnone, error, rfl, htransport⟩ := ends_resendUntilAnswered hloop
    have hunanswered : afterAnswer (start :: run') = [] := by
      apply afterAnswer_none
      rw [hrun]
      exact List.forall_mem_cons.mpr ⟨rfl, hnone⟩
    refine .inl ⟨hunanswered, error, rfl, fun hridden => ?_⟩
    obtain ⟨before, past, hend, hpast⟩ := htransport hridden
    obtain ⟨before', last', rfl, -, hlast⟩ := List.map_eq_append_iff.mp hend
    obtain ⟨last, rfl, hlast⟩ := List.map_eq_singleton_iff.mp hlast
    refine ⟨start.time + submitTimeoutMs, ?_, last, ?_, ?_⟩
    · rw [resendDeadline, hunanswered]
      rfl
    · rw [← List.cons_append, List.getLast?_concat]
      rfl
    · rw [start.clock now hstart, last.clock past (List.singleton_inj.mp hlast)]
      exact hpast
  · obtain ⟨run₁, run₂, rfl, rfl, rfl⟩ := List.map_eq_append_iff.mp hrun
    obtain ⟨now, tr, hfirst, hloop⟩ := ends_perform hgives.ends
    obtain ⟨before, last, rfl, hbefore, hlast⟩ := ends_resendUntilAnswered hloop
    obtain ⟨now', tr', hstart, hunread⟩ := ends_perform hread
    obtain ⟨start, deposit, rfl, hnow, rfl⟩ := List.map_eq_cons_iff.mp hstart
    rw [← List.cons_append] at hfirst
    obtain ⟨skipped, run₃, rfl, hskipped, hrun₃⟩ := List.map_eq_append_iff.mp hfirst
    obtain ⟨answered, rfl, hanswered⟩ := List.map_eq_singleton_iff.mp hrun₃
    refine .inr ⟨skipped ++ [answered], start, deposit, rfl, ?_, ends_resendUntilRead hunread⟩
    rw [List.append_assoc]
    apply afterAnswer_append
    · rw [show events skipped = _ from hskipped]
      exact List.forall_mem_cons.mpr ⟨rfl, hbefore⟩
    · rw [hanswered]
      exact hlast

theorem deadlinePassed_iff {before deposit : List (Timed T H)} {start last : Timed T H}
    (hrun : run = before ++ start :: deposit) (hafter : afterAnswer run = start :: deposit)
    (hlast : deposit.getLast? = some last) :
    DeadlinePassed run ↔ start.time + depositReadWaitMs ≤ last.time := by
  have hdeadline : resendDeadline run = some (start.time + depositReadWaitMs) := by
    rw [resendDeadline, hafter]
  have hend : run.getLast? = some last := by
    rw [hrun, List.getLast?_append, List.getLast?_cons, hlast]
    rfl
  rw [DeadlinePassed, hdeadline, hend]
  constructor
  · rintro ⟨deadline, hd, moment, hm, hle⟩
    obtain rfl := Option.some.inj hd
    obtain rfl := Option.some.inj hm
    exact hle
  · exact fun hle => ⟨_, rfl, _, rfl, hle⟩

theorem closedByRefusal_grpc (error : GrpcError) :
    closedByRefusal sent (.grpc error) = if isEpochClosingRefusal error = true then
      .closedBeforeAnswer sent (error.details.getD "") else .grpc error := rfl

/-- An error of a copy, past the handler: it is ridden out where it is not one of transport. -/
theorem ridesOut_error_iff {error : GrpcError} :
    RidesOut sent run (.error (closedByRefusal sent (.grpc error))) ↔
      (inTransport error = true → DeadlinePassed run) := by
  rw [closedByRefusal_grpc]
  split_ifs with hclosing
  · have hnot : inTransport error = false := by
      rw [inTransport, hclosing, Bool.not_true, Bool.and_false]
    rw [hnot]
    exact ⟨fun _ h => (by cases h), fun _ => rfl⟩
  · exact ⟨And.right, fun h => ⟨Bool.eq_false_iff.mpr hclosing, h⟩⟩

theorem ridesOut_unlessStale (answer : TransactionResponseData) :
    RidesOut sent run (unlessStale answer sent) := by
  unfold unlessStale
  split <;> rfl

theorem ends_sendSigned {tr : List (EngineEvent T H)}
    (h : Ends (sendSigned (H := H) sent signed fuel) tr r) :
    (∃ answer, Gives (copiesSent signed fuel) tr answer ∧ r = unlessStale answer sent) ∨
      ∃ e, Throws (copiesSent signed fuel) tr e ∧ r = .error (closedByRefusal sent e) := by
  rcases h.bind_cases with ⟨e, rfl, hthrows⟩ | ⟨tr₁, tr₂, answer, rfl, hgives, hlift⟩
  · obtain ⟨tr₁, tr₂, error, rfl, hcopies, hcaught⟩ := throws_tryCatch_iff.mp hthrows
    obtain ⟨rfl, rfl⟩ := throws_throw_iff.mp hcaught
    rw [List.append_nil]
    exact .inr ⟨error, hcopies, rfl⟩
  · obtain ⟨rfl, rfl⟩ := Prog.returns_pure_iff.mp hlift
    rw [List.append_nil]
    rcases gives_tryCatch_iff.mp hgives with hcopies | ⟨_, _, error, -, -, hcaught⟩
    · exact .inl ⟨answer, hcopies, rfl⟩
    · exact (gives_throw_iff.mp hcaught).elim

theorem depositCopiesArrive_iff {start : Timed T H} {before : List (Timed T H)} {last : Timed T H}
    {error : GrpcError} (hafter : afterAnswer run = start :: (before ++ [last]))
    (hbefore : ∀ e ∈ events before, failure e = none) (hlast : failure last.event = some error) :
    DepositCopiesArrive run ↔
      (inTransport error = true → start.time + depositReadWaitMs ≤ last.time) := by
  constructor
  · intro harrive htransport
    have hmem : last ∈ before ++ [last] := List.mem_append_right _ (List.mem_singleton_self last)
    exact harrive start _ hafter last hmem error hlast htransport
  · intro hride start' deposit hafter' moment hmoment error' hfailure htransport
    rw [hafter] at hafter'
    obtain ⟨rfl, rfl⟩ := List.cons.inj hafter'
    rcases List.mem_append.mp hmoment with hearlier | hend
    · rw [hbefore moment.event (List.mem_map_of_mem hearlier)] at hfailure
      cases hfailure
    · obtain rfl := List.mem_singleton.mp hend
      rw [hlast] at hfailure
      obtain rfl := Option.some.inj hfailure
      exact hride htransport

/-- A run of the sending rides out every failure in transport exactly where no copy resent
while the deposit is unread meets one in time. -/
theorem ridesOut_iff (h : Ends (sendSigned (H := H) sent signed fuel) (events run) r) :
    RidesOut sent run r ↔ DepositCopiesArrive run := by
  have harrive : afterAnswer run = [] → DepositCopiesArrive run := by
    intro hnone start deposit hsome
    rw [hnone] at hsome
    cases hsome
  rcases ends_sendSigned h with ⟨answer, hgives, rfl⟩ | ⟨e, hthrows, rfl⟩
  · refine ⟨fun _ => ?_, fun _ => ridesOut_unlessStale answer⟩
    rcases ends_copiesSent hgives.ends with
      ⟨hnone, _⟩ | ⟨before, start, deposit, hrun, hafter, hread⟩
    · exact harrive hnone
    · intro start' deposit' hafter' moment hmoment error hfailure
      rw [hafter] at hafter'
      obtain ⟨rfl, rfl⟩ := List.cons.inj hafter'
      rw [hread moment.event (List.mem_map_of_mem hmoment)] at hfailure
      cases hfailure
  · rcases ends_copiesSent hthrows.ends with
      ⟨hnone, error, he, htransport⟩ | ⟨before, start, deposit, hrun, hafter, hread⟩
    · cases he
      exact ⟨fun _ => harrive hnone, fun _ => ridesOut_error_iff.mpr htransport⟩
    · obtain ⟨unfailed, last, error, hdeposit, rfl, hunfailed, hlast⟩ := hread
      obtain ⟨deposit, last', rfl, rfl, hlast'⟩ := List.map_eq_append_iff.mp hdeposit
      obtain ⟨last, rfl, hevent⟩ := List.map_eq_singleton_iff.mp hlast'
      rw [← hevent] at hlast
      rw [ridesOut_error_iff, depositCopiesArrive_iff hafter hunfailed hlast,
        deadlinePassed_iff hrun hafter List.getLast?_concat]

end Sending

/-! ## Runs of `signAndSend` -/

section Runs

variable {P : Primitives} {network : Network} {requester : Requester} {epoch fuel : ℕ}
  {sign : SignedRequestData → EngineEff T H SignedRequest}
  {build : ℕ → Bytes → EngineEff T H (BuiltRequest T)}

/-- What precedes the sending: the request is built and signed. -/
def signedOnce (P : Primitives) (network : Network) (requester : Requester) (epoch : ℕ)
    (sign : SignedRequestData → EngineEff T H SignedRequest)
    (build : ℕ → Bytes → EngineEff T H (BuiltRequest T)) :
    EngineEff T H (Sent T × SignedRequest) := do
  let preimage ← perform .freshPreimage
  let built ← build epoch (sessionIdentifier P requester epoch preimage)
  let signed ← sign (signedData network requester epoch preimage built.request)
  return (⟨epoch, sessionIdentifier P requester epoch preimage, built.kept⟩, signed)

theorem ends_signAndSend {tr : List (EngineEvent T H)}
    {r : Except (EngineError T) (TransactionResponseData × Sent T)}
    (h : Ends (signAndSend P network requester epoch sign build fuel) tr r) :
    (∃ e, r = .error e ∧ Throws (signedOnce P network requester epoch sign build) tr e) ∨
    ∃ tr₁ tr₂ sent signed, tr = tr₁ ++ tr₂ ∧
      Gives (signedOnce P network requester epoch sign build) tr₁ (sent, signed) ∧
      Ends (sendSigned sent signed fuel) tr₂ r := by
  obtain ⟨preimage, tr₁, rfl, hbuild⟩ := ends_perform h
  rcases hbuild.bind_cases with ⟨e, rfl, hfailed⟩ | ⟨tr₂, tr₃, built, rfl, hbuilt, hsign⟩
  · left
    refine ⟨e, rfl, ends_perform_cons .freshPreimage preimage ?_⟩
    exact throws_bind_iff.mpr (.inl hfailed)
  rcases hsign.bind_cases with ⟨e, rfl, hfailed⟩ | ⟨tr₄, tr₅, signed, rfl, hsigned, hsend⟩
  · left
    refine ⟨e, rfl, ends_perform_cons .freshPreimage preimage ?_⟩
    refine throws_bind_iff.mpr (.inr ⟨tr₂, tr₃, built, rfl, hbuilt, ?_⟩)
    exact throws_bind_iff.mpr (.inl hfailed)
  · right
    refine ⟨⟨.freshPreimage, preimage⟩ :: (tr₂ ++ tr₄), tr₅, _, signed, ?_, ?_, hsend⟩
    · rw [List.cons_append, List.append_assoc]
    · refine ends_perform_cons .freshPreimage preimage ?_
      refine gives_bind_iff.mpr ⟨tr₂, tr₄, built, rfl, hbuilt, ?_⟩
      refine gives_bind_iff.mpr ⟨tr₄, [], signed, (List.append_nil tr₄).symm, hsigned, ?_⟩
      exact gives_pure_iff.mpr ⟨rfl, rfl⟩

theorem ends_signAndSend_of {tr₁ tr₂ : List (EngineEvent T H)} {sent : Sent T}
    {signed : SignedRequest} {r : Except (EngineError T) (TransactionResponseData × Sent T)}
    (hsigned : Gives (signedOnce P network requester epoch sign build) tr₁ (sent, signed))
    (hsend : Ends (sendSigned sent signed fuel) tr₂ r) :
    Ends (signAndSend P network requester epoch sign build fuel) (tr₁ ++ tr₂) r := by
  obtain ⟨tr₃, tr₄, preimage, rfl, hfresh, hrest⟩ := gives_bind_iff.mp hsigned
  obtain ⟨tr₅, tr₆, built, rfl, hbuilt, hrest⟩ := gives_bind_iff.mp hrest
  obtain ⟨tr₇, tr₈, signed', rfl, hsigned', hlast⟩ := gives_bind_iff.mp hrest
  obtain ⟨rfl, hpair⟩ := gives_pure_iff.mp hlast
  obtain ⟨rfl, rfl⟩ := Prod.mk.inj hpair
  rw [List.append_nil, List.append_assoc, List.append_assoc]
  exact hfresh.bind_ends (hbuilt.bind_ends (hsigned'.bind_ends hsend))

/-- A run of `signAndSend` fails before anything is sent, or rides out every failure in
transport exactly where no copy resent while the deposit is unread meets one in time. -/
theorem signAndSend_rides_out_iff {run : List (Timed T H)}
    {r : Except (EngineError T) (TransactionResponseData × Sent T)}
    (h : Ends (signAndSend P network requester epoch sign build fuel) (events run) r) :
    (∃ e, r = .error e ∧
      Throws (signedOnce P network requester epoch sign build) (events run) e) ∨
    ∃ before sending sent signed, run = before ++ sending ∧
      Gives (signedOnce P network requester epoch sign build) (events before) (sent, signed) ∧
      Ends (sendSigned sent signed fuel) (events sending) r ∧
      (RidesOut sent sending r ↔ DepositCopiesArrive sending) := by
  rcases ends_signAndSend h with hfailed | ⟨tr₁, tr₂, sent, signed, hrun, hsigned, hsend⟩
  · exact .inl hfailed
  · obtain ⟨before, sending, rfl, rfl, rfl⟩ := List.map_eq_append_iff.mp hrun
    exact .inr ⟨before, sending, sent, signed, rfl, hsigned, hsend, ridesOut_iff hsend⟩

end Runs

/-! ## A deposit that is read late -/

section Samples

/-- A read of the clock. -/
def clockRead (time : ℤ) : Timed T H where
  event := ⟨.now, time⟩
  time := time
  clock answer h := by
    cases h
    rfl

/-- A copy sent, and what became of it. -/
def copySent (signed : SignedRequest) (timeoutMs : ℤ)
    (outcome : Except GrpcError TransactionResponseData) (time : ℤ) : Timed T H where
  event := ⟨.submitTransaction signed timeoutMs, outcome⟩
  time := time
  clock answer h := by cases h

/-- The first copy is refused at 5 ms as its deposit is unread, and the second, sent a second
later, meets an error. -/
def resentOnce (signed : SignedRequest) (error : GrpcError) : List (Timed T H) := [
  clockRead 0, clockRead 0,
  copySent signed submitTimeoutMs (.ok (.error noGasDepositRefusal)) 5,
  clockRead 5, clockRead 5,
  ⟨⟨.sleep depositReadRetryMs, ()⟩, 1005, fun _ h => by cases h⟩,
  copySent signed submitTimeoutMs (.error error) 1010]

theorem ends_resentOnce (sent : Sent T) (signed : SignedRequest) (error : GrpcError) :
    Ends (sendSigned (H := H) sent signed 2) (events (resentOnce signed error))
      (.error (closedByRefusal sent (.grpc error))) := by
  have hfirst : Ends (sendUntilAnswered (T := T) (H := H) signed 2)
      (events [clockRead 0, clockRead 0,
        copySent signed submitTimeoutMs (.ok (.error noGasDepositRefusal)) 5])
      (.ok (.error noGasDepositRefusal)) := by
    refine ends_perform_cons .now (0 : ℤ) (ends_perform_cons .now (0 : ℤ) ?_)
    exact ends_perform_cons (.submitTransaction signed _) (.ok _)
      (Prog.returns_pure_iff.mpr ⟨rfl, rfl⟩)
  have hagain : Ends (resendWhileDepositUnread (T := T) (H := H) (.error noGasDepositRefusal)
      signed 2)
      (events [clockRead 5, clockRead 5,
        ⟨⟨.sleep depositReadRetryMs, ()⟩, 1005, fun _ h => (by cases h)⟩,
        copySent signed submitTimeoutMs (.error error) 1010])
      (.error (.grpc error)) := by
    refine ends_perform_cons .now (5 : ℤ) (ends_perform_cons .now (5 : ℤ) ?_)
    rw [if_pos (by decide)]
    refine ends_perform_cons (.sleep depositReadRetryMs) () ?_
    exact ends_perform_cons (.submitTransaction signed submitTimeoutMs) (.error error)
      (Prog.returns_pure_iff.mpr ⟨rfl, rfl⟩)
  have hcopies : Throws (copiesSent (T := T) (H := H) signed 2)
      (events (resentOnce signed error)) (.grpc error) :=
    throws_bind_iff.mpr (.inr ⟨_, _, _, rfl, hfirst, hagain⟩)
  refine throws_bind_iff.mpr (.inl (throws_tryCatch_iff.mpr ⟨_, [], _, ?_, hcopies, ?_⟩))
  · rw [List.append_nil]
  · exact throws_throw_iff.mpr ⟨rfl, rfl⟩

end Samples

def sampleTransportFailure : GrpcError :=
  ⟨some GrpcStatus.unavailable, some "connection refused", "14 UNAVAILABLE: connection refused"⟩

def samplePresignRequest : DWalletRequest :=
  .presign ⟨List.replicate 32 17, .secp256k1, .ecdsaSecp256k1⟩

def samplePresignData : SignedRequestData :=
  signedData sampleNetwork sampleRequester 1 (List.replicate 32 3) samplePresignRequest

def samplePresignBuild (_ : ℕ) (_ : Bytes) : EngineEff Unit Unit (BuiltRequest Unit) :=
  pure ⟨samplePresignRequest, ()⟩

def samplePresignSign (data : SignedRequestData) : EngineEff Unit Unit SignedRequest :=
  signFor samplePrimitives sampleRequester fun keypair =>
    signGrpcRequest samplePrimitives keypair data

/-- The events that precede the sending of the sample's request. -/
def sampleSigning : List (Timed Unit Unit) := [
  ⟨⟨.freshPreimage, List.replicate 32 3⟩, 0, fun _ h => by cases h⟩,
  ⟨⟨.waitingRequestHolder samplePresignRequest, none⟩, 0, fun _ h => by cases h⟩]

theorem sampleSigning_signs : ∃ sent signed,
    Gives (signedOnce samplePrimitives sampleNetwork sampleRequester 1 samplePresignSign
      samplePresignBuild) (events sampleSigning) (sent, signed) := by
  have hsome : (signRequestBytes samplePrimitives sampleRequester.keypair
      samplePresignData).toOption.isSome := by
    decide +kernel
  cases hbytes : signRequestBytes samplePrimitives sampleRequester.keypair samplePresignData with
  | error e =>
    rw [hbytes] at hsome
    cases hsome
  | ok signed =>
    have hsign : Gives (samplePresignSign samplePresignData)
        [⟨.waitingRequestHolder samplePresignRequest, none⟩] signed := by
      refine gives_bind_iff.mpr ⟨[], _, (), rfl, gives_sdk_iff.mpr ⟨rfl, rfl⟩, ?_⟩
      refine ends_perform_cons (.waitingRequestHolder _) none ?_
      exact gives_bind_iff.mpr ⟨[], [], (), rfl, gives_sdk_iff.mpr ⟨rfl, rfl⟩,
        gives_sdk_iff.mpr ⟨rfl, hbytes⟩⟩
    refine ⟨⟨1, sessionIdentifier samplePrimitives sampleRequester 1 (List.replicate 32 3), ()⟩,
      signed, ?_⟩
    refine gives_bind_iff.mpr ⟨[_], [_], List.replicate 32 3, rfl, gives_liftOp_iff.mpr rfl, ?_⟩
    refine gives_bind_iff.mpr ⟨[], [_], ⟨samplePresignRequest, ()⟩, rfl,
      gives_pure_iff.mpr ⟨rfl, rfl⟩, ?_⟩
    exact gives_bind_iff.mpr ⟨[_], [], signed, rfl, hsign, gives_pure_iff.mpr ⟨rfl, rfl⟩⟩

/-- The sample's run fails before the sending, or its sending rides out what it meets exactly
where the copies resent arrive. -/
theorem signAndSend_rides_out_sample : ∃ run : List (Timed Unit Unit),
    (∃ e, .error (.grpc sampleTransportFailure) =
        (.error e : Except (EngineError Unit) (TransactionResponseData × Sent Unit)) ∧
      Throws (signedOnce samplePrimitives sampleNetwork sampleRequester 1 samplePresignSign
        samplePresignBuild) (events run) e) ∨
    ∃ before sending sent signed, run = before ++ sending ∧
      Gives (signedOnce samplePrimitives sampleNetwork sampleRequester 1 samplePresignSign
        samplePresignBuild) (events before) (sent, signed) ∧
      Ends (sendSigned sent signed 2) (events sending) (.error (.grpc sampleTransportFailure)) ∧
      (RidesOut sent sending (.error (.grpc sampleTransportFailure)) ↔
        DepositCopiesArrive sending) := by
  obtain ⟨sent, signed, hsigned⟩ := sampleSigning_signs
  refine ⟨sampleSigning ++ resentOnce signed sampleTransportFailure, ?_⟩
  apply signAndSend_rides_out_iff
  rw [events_append]
  exact ends_signAndSend_of hsigned (ends_resentOnce sent signed sampleTransportFailure)

/-- A copy of a presign request, resent as its deposit is unread, meets a validator that
restarts: the call ends with that failure a second after it began. -/
theorem deposit_copy_ends_call : ∃ sent signed,
    Gives (signedOnce samplePrimitives sampleNetwork sampleRequester 1 samplePresignSign
      samplePresignBuild) (events sampleSigning) (sent, signed) ∧
    Ends (signAndSend samplePrimitives sampleNetwork sampleRequester 1 samplePresignSign
      samplePresignBuild 2) (events (sampleSigning ++ resentOnce signed sampleTransportFailure))
        (.error (.grpc sampleTransportFailure)) ∧
    inTransport sampleTransportFailure = true ∧
    ¬DeadlinePassed (resentOnce signed sampleTransportFailure : List (Timed Unit Unit)) ∧
    ¬RidesOut sent (resentOnce signed sampleTransportFailure : List (Timed Unit Unit))
      (.error (.grpc sampleTransportFailure)) := by
  obtain ⟨sent, signed, hsigned⟩ := sampleSigning_signs
  have hends := ends_resentOnce (H := Unit) sent signed sampleTransportFailure
  have hearly : ¬DeadlinePassed
      (resentOnce signed sampleTransportFailure : List (Timed Unit Unit)) := by
    rintro ⟨deadline, hd, last, hlast, hle⟩
    cases hd
    cases hlast
    exact absurd hle (by decide : ¬(5 : ℤ) + depositReadWaitMs ≤ 1010)
  refine ⟨sent, signed, hsigned, ?_, by decide, hearly, fun hrides => hearly (hrides.2 ?_)⟩
  · rw [events_append]
    exact ends_signAndSend_of hsigned hends
  · decide

end Ika
