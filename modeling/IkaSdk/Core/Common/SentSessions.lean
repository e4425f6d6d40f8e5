import IkaSdk.Core.Common.ClosedEpochs

/-! What becomes of a session that was sent and whose epoch a validator said to be closed
before an answer: its lookup needs a description of the request, and only a new dWallet's
can fail. -/

namespace Ika

open Wire Interaction Eff

/-! ## Keeping a session -/

section Keeping

variable {T H : Type}

/-- The result is an answer of the session other than the word that its epoch closed, or an
error that names the session. -/
def CarriesSession (epoch : ℕ) (session : Bytes) :
    Except (EngineError T) (TransactionResponseData × Sent T) → Prop
  | .ok (answer, sent) => sent.epoch = epoch ∧ sent.sessionIdentifier = session ∧
      ¬SaysClosed epoch (.ok answer)
  | .error (.requestRanBeforeAnswer named session' _) => named = epoch ∧ session' = session
  | .error (.epochClosedBeforeAnswer named session' _ _ pending) =>
    named = epoch ∧ session' = session ∧ pending.epoch = epoch ∧
      pending.sessionIdentifier = session
  | .error _ => False

namespace Submission

variable (P : Primitives) (network : Network) (requester : Requester)
  (submission : Submission T H)

/-- One attempt: nothing is sent with a presign whose epoch the chain is past. -/
def attempt (fuel : ℕ) : EngineEff T H (TransactionResponseData × Sent T) :=
  match submission.presign with
  | none => submitOnce P network requester submission.build fuel
  | some (epoch, sign) => do
    let chainEpoch ← readChainEpoch
    if epoch < chainEpoch then throw (.presignExpiredWithTheEpoch epoch chainEpoch)
    else signAndSend P network requester epoch sign (fun _ => submission.build epoch) fuel

/-- Some attempt ends with the close of the session, and none of its copies met another error
after a validator's word of it. -/
def Closes (sent : Sent T) : Prop :=
  ∃ fuel tr refusal, StaysClosed P tr ∧
    Throws (submission.attempt P network requester fuel) tr (.closedBeforeAnswer sent refusal)

/-- The session is one that an attempt builds a request for and signs it. -/
def SignsWith (build : ℕ → Bytes → EngineEff T H (BuiltRequest T)) (epoch : ℕ)
    (sign : SignedRequestData → EngineEff T H SignedRequest) (sent : Sent T) : Prop :=
  ∃ preimage built signed,
    sent = ⟨epoch, sessionIdentifier P requester epoch preimage, built.kept⟩ ∧
    CanGive (build epoch (sessionIdentifier P requester epoch preimage)) built ∧
    CanGive (sign (signedData network requester epoch preimage built.request)) signed

/-- The submission can sign a request of the session: for the epoch of its presign, or else
for any. -/
def SignsFor (sent : Sent T) : Prop :=
  match submission.presign with
  | none => ∃ epoch, SignsWith P network requester submission.build epoch (signGrpc P requester)
      sent
  | some (epoch, sign) => SignsWith P network requester submission.build epoch sign sent

/-- The session of one that the submission signs for was looked up, its epoch settled, and it
never ran. -/
def NeverRan (epoch : ℕ) (session : Bytes) (before found : List (EngineEvent T H)) : Prop :=
  ∃ sent, submission.SignsFor P network requester sent ∧ sent.epoch = epoch ∧
    sent.sessionIdentifier = session ∧
    LookedUp P network requester submission.describeRun sent before found

/-- The run begins with an attempt, and ends with it where none of its copies was answered that
the epoch closed. Where one was, nothing more is sent and the result carries the session, or the
session was looked up and never ran, and `next` holds of what follows. -/
def KeepsFirst (fuel : ℕ)
    (next : List (EngineEvent T H) → Except (EngineError T) (TransactionResponseData × Sent T) →
      Prop)
    (tr : List (EngineEvent T H))
    (r : Except (EngineError T) (TransactionResponseData × Sent T)) : Prop :=
  ∃ tr₁ tr₂ outcome, tr = tr₁ ++ tr₂ ∧
    Ends (submission.attempt P network requester fuel) tr₁ outcome ∧
    ((∀ epoch session, ¬ClosedIn P tr₁ epoch session) → tr₂ = [] ∧ r = outcome) ∧
    ∀ epoch session, ClosedIn P tr₁ epoch session →
      (copies tr₂ = [] ∧ CarriesSession epoch session r) ∨
      ∃ before found rest, tr₂ = before ++ found ++ rest ∧
        submission.NeverRan P network requester epoch session before found ∧ next rest r

/-- Every session of a run that closed is kept; what follows one that never ran is a new
attempt, with one less left. -/
def KeepsRebuilt (fuel : ℕ) : ℕ → List (EngineEvent T H) →
    Except (EngineError T) (TransactionResponseData × Sent T) → Prop
  | 0 => KeepsFirst P network requester submission fuel fun _ _ => False
  | left + 1 => KeepsFirst P network requester submission fuel fun rest r =>
      Ends (submit P network requester submission.build submission.describeRun fuel left) rest r ∧
        KeepsRebuilt fuel left rest r

/-- Every session that a run sent and found closed is kept. A presign expired with a session
that never ran, and the caller takes a new one. -/
def Keeps (fuel : ℕ) (tr : List (EngineEvent T H))
    (r : Except (EngineError T) (TransactionResponseData × Sent T)) : Prop :=
  match submission.presign with
  | none => submission.KeepsRebuilt P network requester fuel rebuildsAfterEpochClose tr r
  | some (epoch, _) => submission.KeepsFirst P network requester fuel
      (fun rest r => copies rest = [] ∧
        ∃ chainEpoch, r = .error (.presignExpiredWithTheEpoch epoch chainEpoch)) tr r

end Submission

section Rules

variable {P : Primitives} {network : Network} {requester : Requester}
  {describe : Bytes → T → EngineEff T H PendingRequestKind} {fuel : ℕ} {sent : Sent T}
  {refusal : String} {tr : List (EngineEvent T H)}
  {r : Except (EngineError T) (TransactionResponseData × Sent T)}

theorem ends_answerOrThrow {outcome : RequestOutcome} {kind : PendingRequestKind}
    (h : Ends (answerOrThrow (H := H) sent refusal outcome
      (pendingRequest network requester sent kind)) tr r) :
    CarriesSession sent.epoch sent.sessionIdentifier r := by
  have hclosed : ∀ {tr}, Ends (do
      let chainEpoch ← perform (T := T) (H := H) .epoch
      (throw (.epochClosedBeforeAnswer sent.epoch sent.sessionIdentifier chainEpoch refusal
        (pendingRequest network requester sent kind)) :
        EngineEff T H (TransactionResponseData × Sent T))) tr r →
      CarriesSession sent.epoch sent.sessionIdentifier r := by
    intro tr h
    rcases gives_or_throws h with ⟨answer, rfl, hgives⟩ | ⟨e, rfl, hthrows⟩
    · obtain ⟨_, _, _, -, -, hthrow⟩ := gives_bind_iff.mp hgives
      exact (gives_throw_iff.mp hthrow).elim
    · rcases throws_bind_iff.mp hthrows with hread | ⟨_, _, _, -, -, hthrow⟩
      · exact (throws_liftOp_iff.mp hread).elim
      · obtain ⟨-, rfl⟩ := throws_throw_iff.mp hthrow
        exact ⟨rfl, rfl, rfl, rfl⟩
  cases outcome with
  | notRun => exact hclosed h
  | unknown => exact hclosed h
  | ran record =>
    obtain ⟨-, rfl⟩ := Prog.returns_pure_iff.mp h
    exact ⟨rfl, rfl⟩
  | signature signature =>
    obtain ⟨-, rfl⟩ := Prog.returns_pure_iff.mp h
    refine ⟨rfl, rfl, ?_⟩
    rintro ⟨⟩

/-- What follows a close, once the request is described, sends nothing and carries the session,
or is what follows a session that never ran. -/
theorem ends_afterClose {kind : PendingRequestKind} {submission : Submission T H}
    {notRun : Option (EngineEff T H (TransactionResponseData × Sent T))}
    (hkind : submission.describe sent.sessionIdentifier sent.kept = .ok kind)
    (h : Ends (afterClose P network requester submission.describeRun fuel notRun
      (.closedBeforeAnswer sent refusal)) tr r) :
    (copies tr = [] ∧ CarriesSession sent.epoch sent.sessionIdentifier r) ∨
      ∃ program before found rest, notRun = some program ∧
      tr = before ++ found ++ rest ∧
      LookedUp P network requester submission.describeRun sent before found ∧
      Ends program rest r := by
  have hpending : Gives (pending network requester submission.describeRun sent)
      ([] : List (EngineEvent T H)) (pendingRequest network requester sent kind) :=
    gives_bind_iff.mpr ⟨[], [], kind, rfl, gives_sdk_iff.mpr ⟨rfl, hkind⟩,
      gives_pure_iff.mpr ⟨rfl, rfl⟩⟩
  have hafter := Ends.after_gives (show Ends _ ([] ++ tr) r from h) hpending
  have hnever : ThrowsOnly (fun _ => False) (outcomeAfterEpochClose (T := T) (H := H) P network
      (pendingRequest network requester sent kind) fuel) := throwsOnly_outcomeAfterEpochClose _ fuel
  rcases hafter.bind_cases with ⟨e, -, hthrows⟩ | ⟨tr₁, tr₂, outcome, rfl, houtcome, hrest⟩
  · exact (hnever tr e hthrows).elim
  have hwaited := always_outcomeAfterEpochClose steady_quiet _ fuel tr₁ houtcome.begins
  split at hrest
  · next next =>
    obtain ⟨tr₃, found, rfl, hbefore, hfound⟩ := outcomeAfterEpochClose_notRun houtcome
    refine .inr ⟨next, tr₃, found, tr₂, rfl, rfl, ⟨hbefore, [], tr₃, kind, rfl, ?_, hfound⟩, hrest⟩
    exact gives_sdk_iff.mpr ⟨rfl, hkind⟩
  · have hlast := always_answerOrThrow steady_quiet _ _ _ _ tr₂ hrest.begins
    exact .inl ⟨(appendable_quiet.append hwaited hlast).2, ends_answerOrThrow hrest⟩

variable {submission : Submission T H}
  {notRun : Option (EngineEff T H (TransactionResponseData × Sent T))}

theorem afterClose_undescribed {error : SdkError}
    (herror : submission.describe sent.sessionIdentifier sent.kept = .error error) :
    Throws (afterClose P network requester submission.describeRun fuel notRun
      (.closedBeforeAnswer sent refusal)) [] (.sdk error) := by
  have hdescribe : Throws (submission.describeRun sent.sessionIdentifier sent.kept) []
      (EngineError.sdk error) := by
    unfold Submission.describeRun
    rw [herror]
    exact throws_throw_iff.mpr ⟨rfl, rfl⟩
  exact throws_bind_iff.mpr (.inl (throws_bind_iff.mpr (.inl hdescribe)))

theorem attempt_of_none (hpresign : submission.presign = none) :
    submission.attempt P network requester fuel =
      submitOnce P network requester submission.build fuel := by
  unfold Submission.attempt
  rw [hpresign]

theorem attempt_of_presign {epoch : ℕ} {sign : SignedRequestData → EngineEff T H SignedRequest}
    (hpresign : submission.presign = some (epoch, sign)) :
    submission.attempt P network requester fuel = (do
      let chainEpoch ← readChainEpoch
      if epoch < chainEpoch then throw (.presignExpiredWithTheEpoch epoch chainEpoch)
      else signAndSend P network requester epoch sign (fun _ => submission.build epoch) fuel) := by
  unfold Submission.attempt
  rw [hpresign]

/-- What an attempt with a presign ends with, other than the presign's expiry or a failed read,
comes from the sending, past the check of its epoch. -/
theorem attempt_presign {epoch : ℕ} {sign : SignedRequestData → EngineEff T H SignedRequest}
    {outcome : Except (EngineError T) (TransactionResponseData × Sent T)}
    (hpresign : submission.presign = some (epoch, sign))
    (h : Ends (submission.attempt P network requester fuel) tr outcome)
    (hsdk : ∀ error, outcome ≠ .error (.sdk error))
    (hexpired : ∀ chainEpoch, outcome ≠ .error (.presignExpiredWithTheEpoch epoch chainEpoch)) :
    ∃ tr₁ tr₂ chainEpoch, tr = tr₁ ++ tr₂ ∧ Gives readChainEpoch tr₁ chainEpoch ∧
      ¬epoch < chainEpoch ∧ Ends (signAndSend P network requester epoch sign
        (fun _ => submission.build epoch) fuel) tr₂ outcome := by
  rw [attempt_of_presign hpresign] at h
  rcases h.bind_cases with ⟨e, rfl, hthrows⟩ | ⟨tr₁, tr₂, chainEpoch, rfl, hread, hrest⟩
  · obtain ⟨error, rfl⟩ := (ends_readChainEpoch hthrows.ends).2 e rfl
    exact (hsdk error rfl).elim
  · split_ifs at hrest with hpast
    · obtain ⟨-, rfl⟩ := Prog.returns_pure_iff.mp hrest
      exact (hexpired chainEpoch rfl).elim
    · exact ⟨tr₁, tr₂, chainEpoch, rfl, hread, hpast, hrest⟩

/-- An attempt of an orderly submission sends nothing and finds nothing closed, or ends as its
last copy was answered. -/
theorem ends_attempt_answered (horderly : submission.Orderly requester)
    {outcome : Except (EngineError T) (TransactionResponseData × Sent T)}
    (h : Ends (submission.attempt P network requester fuel) tr outcome) :
    (copies tr = [] ∧ ∀ sent refusal, outcome ≠ .error (.closedBeforeAnswer sent refusal)) ∨
      ∃ sent a, Attempted P tr sent a ∧ outcome = concluded sent a := by
  cases hpresign : submission.presign with
  | none =>
    rw [attempt_of_none hpresign] at h
    rcases ends_submitOnce_answered horderly h with ⟨hnone, error, rfl⟩ | hattempted
    · exact .inl ⟨hnone, by simp⟩
    · exact .inr hattempted
  | some presign =>
    obtain ⟨epoch, sign⟩ := presign
    rw [attempt_of_presign hpresign] at h
    rcases h.bind_cases with ⟨e, rfl, hthrows⟩ | ⟨tr₁, tr₂, chainEpoch, rfl, hread, hrest⟩
    · obtain ⟨hquiet, hsdk⟩ := ends_readChainEpoch hthrows.ends
      obtain ⟨error, rfl⟩ := hsdk e rfl
      exact .inl ⟨hquiet, by simp⟩
    have hquiet := (ends_readChainEpoch hread.ends).1
    split_ifs at hrest
    · obtain ⟨rfl, rfl⟩ := Prog.returns_pure_iff.mp hrest
      refine .inl ⟨?_, by simp⟩
      rw [copies_append, hquiet]
      rfl
    · rcases ends_signAndSend_answered (horderly.signs epoch sign hpresign)
          (horderly.quiet epoch) (horderly.errors epoch) hrest with
        ⟨hnone, error, rfl⟩ | ⟨sent, a, -, hattempted, rfl⟩
      · refine .inl ⟨?_, by simp⟩
        rw [copies_append, hquiet, hnone]
        rfl
      · exact .inr ⟨sent, a, hattempted.prepend tr₁ hquiet, rfl⟩

/-- An attempt whose copy was answered that the epoch closed ends with the close of the session,
or with a later answer. -/
theorem ends_attempt_closed (horderly : submission.Orderly requester)
    {outcome : Except (EngineError T) (TransactionResponseData × Sent T)} {epoch : ℕ}
    {session : Bytes} (h : Ends (submission.attempt P network requester fuel) tr outcome)
    (hclosed : ClosedIn P tr epoch session) (hstays : StaysClosed P tr) :
    ∃ sent, sent.epoch = epoch ∧ sent.sessionIdentifier = session ∧
      ((∃ refusal, outcome = .error (.closedBeforeAnswer sent refusal)) ∨
        ∃ answer, ¬SaysClosed epoch (.ok answer) ∧ outcome = .ok (answer, sent)) := by
  rcases ends_attempt_answered horderly h with ⟨hnone, -⟩ | ⟨sent, a, hattempted, rfl⟩
  · obtain ⟨c, a, hmem, -⟩ := hclosed
    have hcopy := mem_copies_of_answers hmem
    rw [hnone] at hcopy
    cases hcopy
  · obtain ⟨rfl, rfl, hlast⟩ := hattempted.of_closedIn hclosed hstays
    refine ⟨sent, rfl, rfl, ?_⟩
    by_cases hclosing : SaysClosed sent.epoch a
    · exact .inl (saysClosed_iff.mp hclosing)
    · obtain ⟨answer, rfl⟩ := hlast.resolve_left hclosing
      refine .inr ⟨answer, hclosing, ?_⟩
      rcases concluded_cases sent (.ok answer) with
        ⟨_, hanswer, -, heq⟩ | ⟨_, hnot, -⟩ | ⟨message, -, -, heq⟩ | ⟨_, hnot, -⟩
      · cases hanswer
        exact heq
      · cases hnot
      · exact (hclosing (saysClosed_iff.mpr ⟨message, heq⟩)).elim
      · cases hnot

/-- A session that an attempt of an orderly submission ends with the close of was answered so. -/
theorem closedIn_of_throws (horderly : submission.Orderly requester)
    (h : Throws (submission.attempt P network requester fuel) tr
      (.closedBeforeAnswer sent refusal)) :
    ClosedIn P tr sent.epoch sent.sessionIdentifier := by
  rcases ends_attempt_answered horderly h.ends with ⟨-, hnot⟩ | ⟨sent', a, hattempted, hconcluded⟩
  · exact (hnot sent refusal rfl).elim
  · obtain rfl := concluded_closed hconcluded.symm
    exact hattempted.closedIn (saysClosed_iff.mpr ⟨refusal, hconcluded.symm⟩)

/-- A run that catches a close ends with what it tries, or goes on after the close. -/
theorem ends_caught {p : EngineEff T H (TransactionResponseData × Sent T)}
    {notRun : Option (EngineEff T H (TransactionResponseData × Sent T))}
    (h : Ends (tryCatch p (afterClose P network requester describe fuel notRun)) tr r) :
    ∃ tr₁ tr₂ outcome, tr = tr₁ ++ tr₂ ∧ Ends p tr₁ outcome ∧
      ((∃ sent refusal, outcome = .error (.closedBeforeAnswer sent refusal) ∧
        Ends (afterClose P network requester describe fuel notRun
          (.closedBeforeAnswer sent refusal)) tr₂ r) ∨
        (∀ sent refusal, outcome ≠ .error (.closedBeforeAnswer sent refusal)) ∧
          tr₂ = [] ∧ r = outcome) := by
  rcases h.tryCatch_cases with ⟨answer, rfl, hgives⟩ | ⟨tr₁, tr₂, e, rfl, hthrows, hafter⟩
  · exact ⟨tr, [], _, by simp, hgives, .inr ⟨by simp, rfl, rfl⟩⟩
  · refine ⟨tr₁, tr₂, _, rfl, hthrows, ?_⟩
    cases e with
    | closedBeforeAnswer sent refusal => exact .inl ⟨sent, refusal, rfl, hafter⟩
    | _ =>
      obtain ⟨rfl, rfl⟩ := Prog.returns_pure_iff.mp hafter
      exact .inr ⟨by simp, rfl, rfl⟩

variable (notRun) in
/-- A run that begins with an attempt, and goes on after a close only, keeps the sessions of the
attempt, where every closed session can be described. -/
theorem keepsFirst_of_described (horderly : submission.Orderly requester)
    (hdescribed : ∀ sent, submission.Closes P network requester sent →
      submission.SignsFor P network requester sent ∧
        ∃ kind, submission.describe sent.sessionIdentifier sent.kept = .ok kind)
    {tr₁ tr₂ : List (EngineEvent T H)}
    {outcome : Except (EngineError T) (TransactionResponseData × Sent T)}
    {next : List (EngineEvent T H) → Except (EngineError T) (TransactionResponseData × Sent T) →
      Prop}
    (hstays : StaysClosed P (tr₁ ++ tr₂))
    (hends : Ends (submission.attempt P network requester fuel) tr₁ outcome)
    (hcases : (∃ sent refusal, outcome = .error (.closedBeforeAnswer sent refusal) ∧
        Ends (afterClose P network requester submission.describeRun fuel notRun
          (.closedBeforeAnswer sent refusal)) tr₂ r) ∨
        (∀ sent refusal, outcome ≠ .error (.closedBeforeAnswer sent refusal)) ∧
          tr₂ = [] ∧ r = outcome)
    (hnext : ∀ program rest, notRun = some program → StaysClosed P rest → Ends program rest r →
      next rest r) :
    submission.KeepsFirst P network requester fuel next (tr₁ ++ tr₂) r := by
  refine ⟨tr₁, tr₂, outcome, rfl, hends, fun hnone => ?_, fun epoch session hclosed => ?_⟩
  · rcases hcases with ⟨sent, refusal, rfl, -⟩ | ⟨-, hrest⟩
    · exact absurd (closedIn_of_throws horderly hends) (hnone _ _)
    · exact hrest
  obtain ⟨sent, rfl, rfl, ⟨refusal, rfl⟩ | ⟨answer, hanswer, rfl⟩⟩ :=
    ends_attempt_closed horderly hends hclosed hstays.front
  · rcases hcases with ⟨_, _, heq, hafter⟩ | ⟨hnot, -⟩
    · cases heq
      obtain ⟨hsigns, kind, hkind⟩ := hdescribed sent ⟨fuel, tr₁, refusal, hstays.front, hends⟩
      rcases ends_afterClose hkind hafter with
        hcarries | ⟨program, before, found, rest, hsome, rfl, hlooked, hprogram⟩
      · exact .inl hcarries
      · exact .inr ⟨before, found, rest, rfl, ⟨sent, hsigns, rfl, rfl, hlooked⟩,
          hnext program rest hsome hstays.back.back hprogram⟩
    · exact (hnot sent refusal rfl).elim
  · rcases hcases with ⟨_, _, heq, -⟩ | ⟨-, rfl, rfl⟩
    · cases heq
    · exact .inl ⟨rfl, rfl, rfl, hanswer⟩

theorem keepsRebuilt_of_described (hpresign : submission.presign = none)
    (horderly : submission.Orderly requester)
    (hdescribed : ∀ sent, submission.Closes P network requester sent →
      submission.SignsFor P network requester sent ∧
        ∃ kind, submission.describe sent.sessionIdentifier sent.kept = .ok kind) {left : ℕ}
    (hstays : StaysClosed P tr)
    (h : Ends (submit P network requester submission.build submission.describeRun fuel left)
      tr r) : submission.KeepsRebuilt P network requester fuel left tr r := by
  induction left generalizing tr with
  | zero =>
    obtain ⟨tr₁, tr₂, outcome, rfl, hends, hcases⟩ := ends_caught h
    rw [← attempt_of_none hpresign] at hends
    refine keepsFirst_of_described _ horderly hdescribed hstays hends hcases ?_
    intro program rest hsome
    cases hsome
  | succ left ih =>
    obtain ⟨tr₁, tr₂, outcome, rfl, hends, hcases⟩ := ends_caught h
    rw [← attempt_of_none hpresign] at hends
    refine keepsFirst_of_described _ horderly hdescribed hstays hends hcases ?_
    intro program rest hsome hstays' hrest
    obtain rfl := Option.some.inj hsome
    exact ⟨hrest, ih hstays' hrest⟩

/-- Where every closed session can be described, a run keeps the sessions that it sent and
whose copies met no other error after the word of the close. -/
theorem keeps_of_described (horderly : submission.Orderly requester)
    (hdescribed : ∀ sent, submission.Closes P network requester sent →
      submission.SignsFor P network requester sent ∧
        ∃ kind, submission.describe sent.sessionIdentifier sent.kept = .ok kind)
    (hstays : StaysClosed P tr) (h : Ends (submission.run P network requester fuel) tr r) :
    submission.Keeps P network requester fuel tr r := by
  unfold Submission.run at h
  unfold Submission.Keeps
  cases hpresign : submission.presign with
  | none =>
    rw [hpresign] at h
    exact keepsRebuilt_of_described hpresign horderly hdescribed hstays h
  | some presign =>
    obtain ⟨epoch, sign⟩ := presign
    rw [hpresign] at h
    -- What ends before anything is sent is the attempt's own end.
    have hself : ∀ {e}, Throws (submission.attempt P network requester fuel) tr e →
        (∀ sent refusal, e ≠ .closedBeforeAnswer sent refusal) → r = .error e →
        submission.KeepsFirst P network requester fuel (fun rest r => copies rest = [] ∧
          ∃ chainEpoch, r = .error (.presignExpiredWithTheEpoch epoch chainEpoch)) tr r := by
      rintro e hthrows hnot rfl
      rw [← List.append_nil tr] at hstays ⊢
      refine keepsFirst_of_described none horderly hdescribed hstays hthrows.ends
        (.inr ⟨fun sent refusal heq => hnot sent refusal (Except.error.inj heq), rfl, rfl⟩) ?_
      intro program rest hsome
      cases hsome
    rcases h.bind_cases with ⟨e, rfl, hthrows⟩ | ⟨tr₁, tr₂, chainEpoch, rfl, hread, hrest⟩
    · obtain ⟨error, rfl⟩ := (ends_readChainEpoch hthrows.ends).2 e rfl
      refine hself ?_ (by simp) rfl
      rw [attempt_of_presign hpresign]
      exact throws_bind_iff.mpr (.inl hthrows)
    · split_ifs at hrest with hpast
      · obtain ⟨rfl, rfl⟩ := Prog.returns_pure_iff.mp hrest
        refine hself ?_ (by simp) rfl
        rw [attempt_of_presign hpresign]
        refine throws_bind_iff.mpr (.inr ⟨tr₁, [], chainEpoch, rfl, hread, ?_⟩)
        rw [if_pos hpast]
        exact throws_throw_iff.mpr ⟨rfl, rfl⟩
      · obtain ⟨tr₃, tr₄, outcome, rfl, hends, hcases⟩ := ends_caught hrest
        rw [← List.append_assoc] at hstays ⊢
        have hfirst : Ends (submission.attempt P network requester fuel) (tr₁ ++ tr₃) outcome := by
          rw [attempt_of_presign hpresign]
          refine hread.bind_ends ?_
          rwa [if_neg hpast]
        refine keepsFirst_of_described _ horderly hdescribed hstays hfirst hcases ?_
        intro program rest hsome _ hprogram
        obtain rfl := Option.some.inj hsome
        rcases hprogram.bind_cases with ⟨e, -, hfails⟩ | ⟨tr₅, tr₆, now, rfl, hnow, hthrow⟩
        · exact (throws_liftOp_iff.mp hfails).elim
        · obtain rfl := gives_liftOp_iff.mp hnow
          obtain ⟨rfl, rfl⟩ := Prog.returns_pure_iff.mp hthrow
          exact ⟨rfl, now, rfl⟩

theorem not_keeps_undescribed {error : SdkError} (horderly : submission.Orderly requester)
    (herror : submission.describe sent.sessionIdentifier sent.kept = .error error)
    (hclosed : Throws (submission.attempt P network requester fuel) tr
      (.closedBeforeAnswer sent refusal)) :
    Ends (submission.run P network requester fuel) tr (.error (.sdk error)) ∧
      ¬submission.Keeps P network requester fuel tr (.error (.sdk error)) := by
  have hnext : ∀ {next}, ¬submission.KeepsFirst P network requester fuel next tr
      (.error (.sdk error)) := by
    rintro next ⟨tr₁, tr₂, outcome, rfl, hends, -, hkeeps⟩
    -- The attempt is the whole run, so nothing follows the close.
    obtain ⟨rfl, rfl⟩ := Prog.returns_pure_iff.mp (Prog.Run.rest hends hclosed.ends)
    rcases hkeeps _ _ (by simpa using closedIn_of_throws horderly hclosed) with
      ⟨-, hcarries⟩ | ⟨before, found, rest, hnil, ⟨_, -, -, -, hlooked⟩, -⟩
    · exact hcarries
    · obtain ⟨_, _, _, -, -, -, n, es, rfl, -⟩ := hlooked.notRun
      simp at hnil
  unfold Submission.run Submission.Keeps
  cases hpresign : submission.presign with
  | none =>
    refine ⟨?_, hnext⟩
    rw [attempt_of_none hpresign] at hclosed
    refine throws_tryCatch_iff.mpr ⟨tr, [], _, by simp, hclosed, ?_⟩
    exact afterClose_undescribed herror
  | some presign =>
    obtain ⟨epoch, sign⟩ := presign
    refine ⟨?_, hnext⟩
    obtain ⟨tr₁, tr₂, chainEpoch, rfl, hread, hpast, hsend⟩ :=
      attempt_presign hpresign hclosed.ends (by simp) (by simp)
    refine throws_bind_iff.mpr (.inr ⟨tr₁, tr₂, chainEpoch, rfl, hread, ?_⟩)
    rw [if_neg hpast]
    refine throws_tryCatch_iff.mpr ⟨tr₂, [], _, by simp, hsend, ?_⟩
    exact afterClose_undescribed herror

/-- Every run whose copies met no other error after the word of a close keeps its sessions
exactly where every closed session can be described. -/
theorem keeps_iff_described (horderly : submission.Orderly requester)
    (hsigns : ∀ sent, submission.Closes P network requester sent →
      submission.SignsFor P network requester sent) :
    (∀ fuel tr r, Ends (submission.run P network requester fuel) tr r → StaysClosed P tr →
      submission.Keeps P network requester fuel tr r) ↔
      ∀ sent, submission.Closes P network requester sent →
        ∃ kind, submission.describe sent.sessionIdentifier sent.kept = .ok kind := by
  constructor
  · rintro hkeeps sent ⟨fuel, tr, refusal, hstays, hclosed⟩
    cases hdescribe : submission.describe sent.sessionIdentifier sent.kept with
    | ok kind => exact ⟨kind, rfl⟩
    | error error =>
      obtain ⟨hends, hnot⟩ := not_keeps_undescribed horderly hdescribe hclosed
      exact (hnot (hkeeps fuel tr _ hends hstays)).elim
  · intro hdescribed fuel tr r hends hstays
    refine keeps_of_described horderly (fun sent hclosed => ?_) hstays hends
    exact ⟨hsigns sent hclosed, hdescribed sent hclosed⟩

/-! ## The sessions that close -/

/-- The error of a validator that refuses a request because its epoch closes. -/
def closingRefusalError : GrpcError :=
  ⟨some GrpcStatus.unavailable, some epochClosingRefusal, epochClosingRefusal⟩

/-- A validator refuses the first copy of a request as its epoch closes. -/
theorem throws_sendSigned {signed : SignedRequest} : ∃ tr, (copies tr).length ≤ 1 ∧
    Throws (sendSigned (H := H) sent signed 1) tr
      (.closedBeforeAnswer sent epochClosingRefusal) := by
  have hrefused : Throws (sendUntilAnswered (T := T) (H := H) signed 1)
      [⟨.now, (0 : ℤ)⟩, ⟨.now, (0 : ℤ)⟩,
        ⟨.submitTransaction signed (max 1 (0 + submitTimeoutMs - 0)),
          .error closingRefusalError⟩] (.grpc closingRefusalError) := by
    apply ends_perform_cons
    apply ends_perform_cons
    apply ends_perform_cons
    exact throws_throw_iff.mpr ⟨rfl, rfl⟩
  refine ⟨_, ?_, throws_bind_iff.mpr (.inl (throws_tryCatch_iff.mpr
    ⟨_, [], _, (List.append_nil _).symm, throws_bind_iff.mpr (.inl hrefused),
      throws_throw_iff.mpr ⟨rfl, rfl⟩⟩))⟩
  exact le_refl 1

variable {epoch : ℕ} {sign : SignedRequestData → EngineEff T H SignedRequest}
  {build : ℕ → Bytes → EngineEff T H (BuiltRequest T)}

/-- A session that an attempt finds closed is one it can sign for. -/
theorem signsWith_of_closed (hbuild : ∀ session, ThrowsOnly IsSdk (build epoch session))
    (hsign : ∀ data, ThrowsOnly IsSdk (sign data))
    (h : CanThrow (signAndSend P network requester epoch sign build fuel)
      (.closedBeforeAnswer sent refusal)) :
    Submission.SignsWith P network requester build epoch sign sent := by
  rcases canThrow_bind_iff.mp h with hfresh | ⟨preimage, -, hthrows⟩
  · exact (canThrow_liftOp_iff.mp hfresh).elim
  rcases canThrow_bind_iff.mp hthrows with ⟨tr, hfailed⟩ | ⟨built, hbuilt, hthrows⟩
  · obtain ⟨error, herror⟩ := hbuild _ tr _ hfailed
    cases herror
  rcases canThrow_bind_iff.mp hthrows with ⟨tr, hfailed⟩ | ⟨signed, hsigned, tr, hsend⟩
  · obtain ⟨error, herror⟩ := hsign _ tr _ hfailed
    cases herror
  rcases throwsOnly_sendSigned _ signed fuel tr _ hsend with ⟨error, herror⟩ | ⟨_, hclosed⟩
  · cases herror
  · cases hclosed
    exact ⟨preimage, built, signed, rfl, hbuilt, hsigned⟩

/-- A session that an attempt can sign for may close at the first copy. -/
theorem closed_of_signsWith (hquiet : ∀ session, Always Quiet (build epoch session))
    (hsign : Signs requester.keypair.publicKey sign)
    (h : Submission.SignsWith P network requester build epoch sign sent) :
    ∃ tr refusal, (copies tr).length ≤ 1 ∧
      Throws (signAndSend P network requester epoch sign build 1) tr
        (.closedBeforeAnswer sent refusal) := by
  obtain ⟨preimage, built, signed, rfl, ⟨tr₁, hbuilt⟩, tr₂, hsigned⟩ := h
  have hbuilding := (hquiet _ tr₁ hbuilt.begins).2
  have hsigning := (hsign.still steady_quiet _ tr₂ hsigned.begins).2
  obtain ⟨tr₃, hone, hsend⟩ : ∃ tr₃, (copies tr₃).length ≤ 1 ∧
      Throws (sendSigned (T := T) (H := H)
        ⟨epoch, sessionIdentifier P requester epoch preimage, built.kept⟩ signed 1) tr₃
        (.closedBeforeAnswer ⟨epoch, sessionIdentifier P requester epoch preimage, built.kept⟩
          epochClosingRefusal) := throws_sendSigned
  refine ⟨⟨.freshPreimage, preimage⟩ :: (tr₁ ++ (tr₂ ++ tr₃)), epochClosingRefusal, ?_, ?_⟩
  · have hcopies : copies (⟨.freshPreimage, preimage⟩ :: (tr₁ ++ (tr₂ ++ tr₃))) = copies tr₃ := by
      change copies (tr₁ ++ (tr₂ ++ tr₃)) = copies tr₃
      rw [copies_append, copies_append, hbuilding, hsigning]
      rfl
    rwa [hcopies]
  · apply ends_perform_cons
    refine throws_bind_iff.mpr (.inr ⟨tr₁, tr₂ ++ tr₃, built, rfl, hbuilt, ?_⟩)
    exact throws_bind_iff.mpr (.inr ⟨tr₂, tr₃, signed, rfl, hsigned, hsend⟩)

/-- The sessions of a submission that close are those it can sign for. -/
theorem closes_iff_signsFor (horderly : submission.Orderly requester) :
    submission.Closes P network requester sent ↔
      submission.SignsFor P network requester sent := by
  have hgrpc : Signs requester.keypair.publicKey (signGrpc (T := T) (H := H) P requester) :=
    signs_signFor signs_signGrpcRequest
  unfold Submission.Closes Submission.SignsFor Submission.attempt
  cases hpresign : submission.presign with
  | none =>
    constructor
    · rintro ⟨fuel, tr, refusal, -, hthrows⟩
      rcases throws_bind_iff.mp hthrows with hread | ⟨tr₁, tr₂, epoch, -, -, hsend⟩
      · obtain ⟨error, herror⟩ := (ends_readChainEpoch hread.ends).2 _ rfl
        cases herror
      · exact ⟨epoch, signsWith_of_closed (horderly.errors epoch) hgrpc.errors hsend.canThrow⟩
    · rintro ⟨epoch, hsigns⟩
      obtain ⟨tr, refusal, hone, hsend⟩ :=
        closed_of_signsWith (horderly.quiet epoch) hgrpc hsigns
      obtain ⟨tr₁, hread⟩ := canGive_readChainEpoch (T := T) (H := H) epoch
      refine ⟨1, tr₁ ++ tr, refusal, staysClosed_of_one ?_, ?_⟩
      · rw [copies_append, (ends_readChainEpoch hread.ends).1]
        exact hone
      · exact throws_bind_iff.mpr (.inr ⟨tr₁, tr, epoch, rfl, hread, hsend⟩)
  | some presign =>
    obtain ⟨epoch, sign⟩ := presign
    have hsign := horderly.signs epoch sign hpresign
    constructor
    · rintro ⟨fuel, tr, refusal, -, hthrows⟩
      rcases throws_bind_iff.mp hthrows with hread | ⟨tr₁, tr₂, chainEpoch, -, -, hrest⟩
      · obtain ⟨error, herror⟩ := (ends_readChainEpoch hread.ends).2 _ rfl
        cases herror
      · split_ifs at hrest with hpast
        · cases (throws_throw_iff.mp hrest).2
        · exact signsWith_of_closed (horderly.errors epoch) hsign.errors hrest.canThrow
    · intro hsigns
      obtain ⟨tr, refusal, hone, hsend⟩ := closed_of_signsWith (horderly.quiet epoch) hsign hsigns
      obtain ⟨tr₁, hread⟩ := canGive_readChainEpoch (T := T) (H := H) epoch
      refine ⟨1, tr₁ ++ tr, refusal, staysClosed_of_one ?_, ?_⟩
      · rw [copies_append, (ends_readChainEpoch hread.ends).1]
        exact hone
      · -- The chain still shows the epoch of the presign.
        refine throws_bind_iff.mpr (.inr ⟨tr₁, tr, epoch, rfl, hread, ?_⟩)
        rw [if_neg (lt_irrefl epoch)]
        exact hsend

theorem signsFor_session {submission : Submission T H}
    (h : submission.SignsFor P network requester sent) : sent.sessionIdentifier.length = 32 := by
  have hwith : ∀ {epoch : ℕ} {sign : SignedRequestData → EngineEff T H SignedRequest},
      Submission.SignsWith P network requester submission.build epoch sign sent →
        sent.sessionIdentifier.length = 32 := by
    rintro epoch sign ⟨preimage, built, signed, rfl, -, -⟩
    exact P.keccak256_length _
  unfold Submission.SignsFor at h
  cases hpresign : submission.presign with
  | none =>
    rw [hpresign] at h
    obtain ⟨epoch, hsigns⟩ := h
    exact hwith hsigns
  | some presign =>
    rw [hpresign] at h
    exact hwith h

end Rules

end Keeping

/-! ## What the calls describe -/

namespace EngineCall

/-- The user's output kept of a request for a new dWallet. -/
def userOutput : (call : EngineCall) → call.Kept → Option Bytes
  | createDWallet .., kept => some kept.prepared.userPublicOutput
  | verifyImportedKey .., kept => some kept.prepared.userPublicOutput
  | requestPresign _, _ => none
  | requestPresignForDWallet .., _ => none
  | requestSignature _, _ => none
  | requestFutureSignature _, _ => none
  | completeFutureSignature _, _ => none
  | makeSharePublic .., _ => none
  | reEncryptShare _, _ => none

end EngineCall

section Described

variable {P : Primitives} {H : Type} {connection : Connection} {issued : List IssuedState}
  {requester : Requester} {dwallet : DWallet} {verified : VerifiedDWalletAttestation}

theorem publicShareAttestation_valid {share : PublicShareAttestation}
    (hsession : share.sessionIdentifier.length = 32)
    (hdigest : share.dwalletAttestationDigest.length = 32) :
    versionedPublicUserKeyShareAttestationBcs.valid share := by
  show (share.sessionIdentifier.length == 32 && (true && (true && (true &&
    share.dwalletAttestationDigest.length == 32)))) = true
  simp [hsession, hdigest]

theorem encryptedShareAttestation_valid {share : EncryptedShareAttestation}
    (hsession : share.sessionIdentifier.length = 32)
    (hshare : share.encryptedShareHash.length = 32) (hkey : share.encryptionKeyHash.length = 32)
    (hscheme : share.holder.signatureScheme = .ed25519)
    (hholder : share.holder.signerPublicKey.length = 32)
    (hdigest : share.dwalletAttestationDigest.length = 32) :
    versionedEncryptedUserKeyShareAttestationBcs.valid share := by
  show (share.sessionIdentifier.length == 32 && (true && (true &&
    (share.encryptedShareHash.length == 32 && (share.encryptionKeyHash.length == 32 &&
      ((signatureSchemeBcs.valid share.holder.signatureScheme &&
        share.holder.signerPublicKey.length == 32) &&
          share.dwalletAttestationDigest.length == 32)))))) = true
  have hvalid : signatureSchemeBcs.valid .ed25519 = true := by decide
  simp [hsession, hshare, hkey, hscheme, hholder, hdigest, hvalid]

theorem describeMakeSharePublic_ok {session : Bytes}
    (hverified : verifiedDWallet P connection.trusted dwallet = .ok verified)
    (hsession : session.length = 32) :
    ∃ kind, describeMakeSharePublic P dwallet session = .ok kind := by
  have hbytes : ∃ bytes, publicShareAttestationBytes P session (attestedOf verified)
      dwallet.userSecretKeyShare = .ok bytes :=
    ⟨_, if_pos (publicShareAttestation_valid hsession (P.keccak256_length _))⟩
  obtain ⟨bytes, hbytes⟩ := hbytes
  unfold describeMakeSharePublic
  rw [dwalletAttested_eq hverified, ok_bind, hbytes]
  exact ⟨_, rfl⟩

theorem describeReEncryptShare_ok {session encryptedShareAndProof encryptionKey holder : Bytes}
    (hverified : verifiedDWallet P connection.trusted dwallet = .ok verified)
    (hsession : session.length = 32) (hholder : holder.length = 32) :
    ∃ kind, describeReEncryptShare P dwallet encryptedShareAndProof encryptionKey holder session =
      .ok kind := by
  have hbytes : ∃ bytes, encryptedShareAttestationBytes P session (attestedOf verified)
      encryptedShareAndProof encryptionKey holder = .ok bytes :=
    ⟨_, if_pos (encryptedShareAttestation_valid hsession (P.keccak256_length _)
      (P.keccak256_length _) rfl hholder (P.keccak256_length _))⟩
  obtain ⟨bytes, hbytes⟩ := hbytes
  unfold describeReEncryptShare
  rw [dwalletAttested_eq hverified, ok_bind, hbytes]
  exact ⟨_, rfl⟩

theorem describe_newDWallet_iff {kept : KeptDkg} :
    (∃ kind, describeDkg connection kept = .ok kind) ↔
      ∃ key, connection.cryptography.publicKeyFromCentralizedDKGOutput connection.curve
        kept.prepared.userPublicOutput = .ok key := by
  unfold describeDkg newDWallet
  cases connection.cryptography.publicKeyFromCentralizedDKGOutput connection.curve
    kept.prepared.userPublicOutput with
  | error e => exact ⟨fun ⟨_, h⟩ => (by cases h), fun ⟨_, h⟩ => (by cases h)⟩
  | ok key => exact ⟨fun _ => ⟨key, rfl⟩, fun _ => ⟨_, rfl⟩⟩

theorem describe_importedKey_iff {session : Bytes} {kept : KeptImport} :
    (∃ kind, describeImportedKey connection session kept = .ok kind) ↔
      ∃ key, connection.cryptography.publicKeyFromCentralizedDKGOutput connection.curve
        kept.prepared.userPublicOutput = .ok key := by
  unfold describeImportedKey newDWallet
  cases connection.cryptography.publicKeyFromCentralizedDKGOutput connection.curve
    kept.prepared.userPublicOutput with
  | error e => exact ⟨fun ⟨_, h⟩ => (by cases h), fun ⟨_, h⟩ => (by cases h)⟩
  | ok key => exact ⟨fun _ => ⟨key, rfl⟩, fun _ => ⟨_, rfl⟩⟩

/-- A session that a call can sign for can be described exactly where the key of the user's
output kept for it, if there is one, can be derived. -/
theorem described_iff {call : EngineCall} {tr : List (EngineEvent call.Kept H)}
    {submission : Submission call.Kept H} {sent : Sent call.Kept}
    (h : Gives (call.submission P connection issued requester) tr submission)
    (hsigns : submission.SignsFor P connection.toNetwork requester sent) :
    (∃ kind, submission.describe sent.sessionIdentifier sent.kept = .ok kind) ↔
      ∀ output, call.userOutput sent.kept = some output → ∃ key,
        connection.cryptography.publicKeyFromCentralizedDKGOutput connection.curve output =
          .ok key := by
  have hsome : ∀ {described : Except SdkError PendingRequestKind} {userOutput : Bytes},
      ((∃ kind, described = .ok kind) ↔ ∃ key,
        connection.cryptography.publicKeyFromCentralizedDKGOutput connection.curve userOutput =
          .ok key) →
      ((∃ kind, described = .ok kind) ↔ ∀ output, some userOutput = some output → ∃ key,
        connection.cryptography.publicKeyFromCentralizedDKGOutput connection.curve output =
          .ok key) := by
    intro described userOutput hiff
    rw [hiff]
    constructor
    · intro hkey output houtput
      rwa [← Option.some.inj houtput]
    · exact fun hkey => hkey userOutput rfl
  have hnone : ∀ {described : Except SdkError PendingRequestKind},
      (∃ kind, described = .ok kind) → ((∃ kind, described = .ok kind) ↔
        ∀ output : Bytes, none = some output → ∃ key,
          connection.cryptography.publicKeyFromCentralizedDKGOutput connection.curve output =
            .ok key) := by
    intro described hkind
    exact ⟨fun _ output houtput => (by cases houtput), fun _ => hkind⟩
  have hsession := signsFor_session hsigns
  cases call with
  | createDWallet share sign =>
    obtain ⟨scheme, epoch, rfl⟩ := createDWallet_ok (gives_sdk_iff.mp h).2
    exact hsome describe_newDWallet_iff
  | verifyImportedKey share secretKey =>
    obtain rfl := verifyImportedKey_ok (gives_sdk_iff.mp h).2
    exact hsome describe_importedKey_iff
  | requestPresign signatureScheme =>
    obtain ⟨request, rfl⟩ := requestPresign_ok (gives_sdk_iff.mp h).2
    exact hnone ⟨_, rfl⟩
  | requestPresignForDWallet dwallet signatureScheme =>
    obtain ⟨request, rfl⟩ := requestPresignForDWallet_ok (gives_sdk_iff.mp h).2
    exact hnone ⟨_, rfl⟩
  | requestSignature args =>
    obtain ⟨request, rfl⟩ := requestSignature_ok (gives_sdk_iff.mp h).2
    exact hnone ⟨_, rfl⟩
  | requestFutureSignature args =>
    obtain ⟨verified, scheme, userSignature, now, request, -, -, -, -, rfl⟩ :=
      requestFutureSignature_gives h
    exact hnone ⟨_, rfl⟩
  | completeFutureSignature given =>
    obtain ⟨request, rfl⟩ := completionSubmission_ok (gives_sdk_iff.mp h).2
    exact hnone ⟨_, rfl⟩
  | makeSharePublic dwallet usable =>
    obtain ⟨verified, -, -, hverified, rfl⟩ :=
      makeSharePublicSubmission_ok (gives_sdk_iff.mp h).2
    exact hnone (describeMakeSharePublic_ok hverified hsession)
  | reEncryptShare args =>
    obtain ⟨verified, now, built, encrypted, -, -, hverified, hbuilt, rfl⟩ :=
      reEncryptShareSubmission_gives h
    -- The new holder's key was measured before anything was encrypted to it.
    obtain ⟨_, hholder, -⟩ := bind_ok hbuilt
    exact hnone (describeReEncryptShare_ok hverified hsession (ensure_ok hholder))

/-- The sessions that a call sends are kept, in every run whose copies met no other error after
a validator's word that the epoch closed, exactly where the key of each user's output kept for
a session it can sign for can be derived. -/
theorem sent_sessions_kept_iff (call : EngineCall) :
    (∀ (tr₀ : List (EngineEvent call.Kept H)) submission,
      Gives (call.submission P connection issued requester) tr₀ submission →
      ∀ fuel tr r, Ends (submission.run P connection.toNetwork requester fuel) tr r →
        StaysClosed P tr → submission.Keeps P connection.toNetwork requester fuel tr r) ↔
    ∀ (tr₀ : List (EngineEvent call.Kept H)) submission sent,
      Gives (call.submission P connection issued requester) tr₀ submission →
      submission.SignsFor P connection.toNetwork requester sent →
      ∀ output, call.userOutput sent.kept = some output → ∃ key,
        connection.cryptography.publicKeyFromCentralizedDKGOutput connection.curve output =
          .ok key := by
  constructor
  · intro hkeeps tr₀ submission sent hgives hsigns
    have horderly := submission_orderly hgives
    have hclosed := (closes_iff_signsFor horderly).mpr hsigns
    have hdescribed := (keeps_iff_described horderly fun _ => (closes_iff_signsFor horderly).mp).mp
      (hkeeps tr₀ submission hgives) sent hclosed
    exact (described_iff hgives hsigns).mp hdescribed
  · intro hkeys tr₀ submission hgives
    have horderly := submission_orderly hgives
    refine (keeps_iff_described horderly fun _ => (closes_iff_signsFor horderly).mp).mpr
      fun sent hclosed => ?_
    have hsigns := (closes_iff_signsFor horderly).mp hclosed
    exact (described_iff hgives hsigns).mpr (hkeys tr₀ submission sent hgives hsigns)

end Described

/-! ## The mock cryptography -/

def mockMagic : Bytes := 255 :: textBytes "ika-mock"

inductive MockKind
  | networkKeyOutput
  | protocolPublicParameters
  | keyMessage
  | dWalletOutput
  | encryptedShare
  | signMessage
  | presign
  | userOutput
deriving DecidableEq, Repr

def MockKind.number : MockKind → UInt8
  | networkKeyOutput => 0
  | protocolPublicParameters => 1
  | keyMessage => 2
  | dWalletOutput => 3
  | encryptedShare => 4
  | signMessage => 5
  | presign => 6
  | userOutput => 7

def isMockValue (bytes : Bytes) : Bool :=
  mockMagic.length < bytes.length && bytes.take mockMagic.length = mockMagic

def mockValue (kind : MockKind) (payload : Bytes) : Bytes := mockMagic ++ kind.number :: payload

def payloadOf (bytes : Bytes) (kind : MockKind) (what : String) : Except String Bytes :=
  if isMockValue bytes ∧ bytes[mockMagic.length]? = some kind.number then
    .ok (bytes.drop (mockMagic.length + 1))
  else .error s!"a client in mock mode was given a {what} that is not a mock value of its kind"

def curveOfParameters (protocolPublicParameters : Bytes) (curve : ℕ) : Except String Unit := do
  let payload ← payloadOf protocolPublicParameters .protocolPublicParameters
    "protocol parameters"
  ensure (payload.map UInt8.toNat = [curve])
    s!"the mock protocol parameters are not for curve {curve}"

/-- The user's half of a mock key generation: `share` is the random bytes drawn for it. -/
def mockPrepareDKG (share protocolPublicParameters : Bytes) (curve : ℕ) :
    Except String PreparedDKG := do
  curveOfParameters protocolPublicParameters curve
  return {
    userDKGMessage := mockValue .keyMessage [UInt8.ofNat curve]
    userPublicOutput := mockValue .userOutput [UInt8.ofNat curve]
    userSecretKeyShare := share }

/-- The secret key of a mock import is not read. -/
def mockPrepareImportedKey (share protocolPublicParameters : Bytes) (curve : ℕ) :
    Except String PreparedImport := do
  let prepared ← mockPrepareDKG share protocolPublicParameters curve
  return ⟨prepared.userDKGMessage, prepared.userPublicOutput, prepared.userSecretKeyShare⟩

def mockUserOutputCurve (output : Bytes) : Except String ℕ := do
  let payload ← payloadOf output .userOutput "user's DKG output"
  match payload with
  | [curve] => .ok curve.toNat
  | _ => .error "the mock user's DKG output is not one curve number"

def mockEncryptShare (protocolPublicParameters : Bytes) (curve : ℕ) (share : Bytes) :
    Except String Bytes := do
  curveOfParameters protocolPublicParameters curve
  return mockValue .encryptedShare share

def mockPublicKeyFromCentralizedDKGOutput (userPublicOutput : Bytes) : Except String Bytes := do
  discard (mockUserOutputCurve userPublicOutput)
  throw ("a mock dWallet's key is made by the mock network, so its public key is known only " ++
    "from the network's answer")

/-- The mock cryptography, as far as the making of a dWallet uses it. -/
def mockCryptography (share : Bytes) (rest : ClientCryptography) : ClientCryptography where
  toAnswerCryptography := rest.toAnswerCryptography
  toSignCryptography := rest.toSignCryptography
  prepareDKGForSessionIdentifier protocolPublicParameters curve _ :=
    mockPrepareDKG share protocolPublicParameters (fromCurveToNumber curve)
  prepareImportedKeyVerificationForSessionIdentifier protocolPublicParameters curve _ _ :=
    mockPrepareImportedKey share protocolPublicParameters (fromCurveToNumber curve)
  encryptSecretShare curve userSecretKeyShare _ protocolPublicParameters :=
    mockEncryptShare protocolPublicParameters (fromCurveToNumber curve) userSecretKeyShare
  publicKeyFromCentralizedDKGOutput _ := mockPublicKeyFromCentralizedDKGOutput

def sampleMockCryptography : ClientCryptography :=
  mockCryptography (List.replicate 34 9) {
    toAnswerCryptography := lenientCryptography
    createUserSignMessageWithPublicOutput := fun _ _ _ _ _ _ _ _ _ => .ok []
    createUserSignMessageWithUserPublicOutput := fun _ _ _ _ _ _ _ _ _ => .ok []
    createUserSignMessageEcdsaBlake2b256 := fun _ _ _ _ _ _ _ => .ok []
    prepareDKGForSessionIdentifier := fun _ _ _ => .error ""
    prepareImportedKeyVerificationForSessionIdentifier := fun _ _ _ _ => .error ""
    encryptSecretShare := fun _ _ _ _ => .error ""
    publicKeyFromCentralizedDKGOutput := fun _ _ => .error "" }

def sampleMockConnection : Connection where
  curveNumber := 2
  networkKeyId := List.replicate 32 7
  requestNetworkValue := 2
  requestRecords := true
  shares := false
  curve := .ed25519
  curveNumber_eq := rfl
  latestNetworkKeyId := List.replicate 32 7
  protocolPublicParameters := mockValue .protocolPublicParameters [2]
  trusted := sampleTrustedNetwork
  cryptography := sampleMockCryptography

def sampleMockRequester : Requester where
  keypair := ⟨List.replicate 32 14, List.replicate 32 15⟩
  signer := false
  chain := .solana
  intendedChainSender := List.replicate 32 16

/-- A chain at epoch 7, and a validator that refuses every request as its epoch closes. -/
def sampleClosingEpoch (_ : ℕ) : ∀ op : EngineOp KeptDkg Unit, op.Ans
  | .chainEpoch => .ok 7
  | .keepEpoch read => read
  | .epoch => 7
  | .now => 0
  | .sleep _ => ()
  | .freshPreimage => List.replicate 32 3
  | .build .. => .error (.error "")
  | .describe .. => .error (.error "")
  | .waitingRequestHolder _ => none
  | .signRequest _ => .error (.error "")
  | .submitTransaction .. => .error closingRefusalError
  | .record _ => .error (.error "")

/-- What a mock client submits for a dWallet with a public share. -/
def sampleMockSubmission : Submission KeptDkg Unit where
  build _ session :=
    sdk (fromPackage (dkgRequest samplePrimitives sampleMockConnection none none session))
  describe _ kept := describeDkg sampleMockConnection kept
  presign := none

def sampleMockSent : Sent KeptDkg where
  epoch := 7
  sessionIdentifier :=
    sessionIdentifier samplePrimitives sampleMockRequester 7 (List.replicate 32 3)
  kept := ⟨⟨mockValue .keyMessage [2], mockValue .userOutput [2], List.replicate 34 9⟩, none⟩

def mockKeyUnknown : SdkError :=
  .error ("a mock dWallet's key is made by the mock network, so its public key is known only " ++
    "from the network's answer")

/-- The key generation of a mock client: the one copy of its request was answered that the epoch
closes, and the call ends with an error of the mock cryptography instead of one that names the
session. -/
theorem mock_session_lost :
    Gives ((EngineCall.createDWallet none none).submission samplePrimitives sampleMockConnection
      [] sampleMockRequester) ([] : List (EngineEvent KeptDkg Unit)) sampleMockSubmission ∧
    ∃ tr : List (EngineEvent KeptDkg Unit),
      ClosedIn samplePrimitives tr sampleMockSent.epoch sampleMockSent.sessionIdentifier ∧
      StaysClosed samplePrimitives tr ∧
      Ends (sampleMockSubmission.run samplePrimitives sampleMockConnection.toNetwork
        sampleMockRequester 1) tr (.error (.sdk mockKeyUnknown)) ∧
      ¬sampleMockSubmission.Keeps samplePrimitives sampleMockConnection.toNetwork
        sampleMockRequester 1 tr (.error (.sdk mockKeyUnknown)) := by
  have hdescribe : sampleMockSubmission.describe sampleMockSent.sessionIdentifier
      sampleMockSent.kept = .error mockKeyUnknown := by
    decide +kernel
  have hrun : ((sampleMockSubmission.attempt samplePrimitives sampleMockConnection.toNetwork
      sampleMockRequester 1).run.transcript sampleClosingEpoch 0).any (fun r => decide
        ((copies r.1).length ≤ 1 ∧
          r.2 = .error (.closedBeforeAnswer sampleMockSent epochClosingRefusal))) = true := by
    decide +kernel
  have hgives : Gives ((EngineCall.createDWallet none none).submission samplePrimitives
      sampleMockConnection [] sampleMockRequester) ([] : List (EngineEvent KeptDkg Unit))
        sampleMockSubmission := gives_sdk_iff.mpr ⟨rfl, rfl⟩
  obtain ⟨⟨tr, result⟩, hsome, hchecked⟩ := (Option.any_eq_true _ _).mp hrun
  obtain ⟨hone, hresult⟩ := of_decide_eq_true hchecked
  have hclosed : Throws (sampleMockSubmission.attempt samplePrimitives
      sampleMockConnection.toNetwork sampleMockRequester 1) tr
        (.closedBeforeAnswer sampleMockSent epochClosingRefusal) := by
    obtain rfl : result = .error _ := hresult
    exact Prog.returns_of_transcript hsome
  have horderly := submission_orderly hgives
  obtain ⟨hends, hlost⟩ := not_keeps_undescribed horderly hdescribe hclosed
  exact ⟨hgives, tr, closedIn_of_throws horderly hclosed, staysClosed_of_one hone, hends, hlost⟩

end Ika
