import IkaSdk.Core.Common.EngineCalls
import IkaSdk.Core.Common.Resends

/-! How the run of a submission ends, from the answer to its last copy: the sessions before
the last one were shown never to have run, and the last one's answer decides the rest. -/

namespace Ika

open Wire Interaction Eff

variable {T H : Type}

/-! ## The answers to the copies -/

/-- The copy that an event sends, with its answer. -/
def answerTo : EngineEvent T H → Option (SignedRequest × Except GrpcError TransactionResponseData)
  | ⟨.submitTransaction signed _, answer⟩ => some (signed, answer)
  | _ => none

/-- The last copy of a run, with its answer. -/
def lastAnswer (tr : List (EngineEvent T H)) :
    Option (SignedRequest × Except GrpcError TransactionResponseData) :=
  (tr.filterMap answerTo).getLast?

theorem lastAnswer_append (tr tr' : List (EngineEvent T H)) :
    lastAnswer (tr ++ tr') = (lastAnswer tr').or (lastAnswer tr) := by
  unfold lastAnswer
  rw [List.filterMap_append, List.getLast?_append]

theorem copies_eq_map (tr : List (EngineEvent T H)) :
    copies tr = (tr.filterMap answerTo).map Prod.fst := by
  rw [List.map_filterMap]
  apply List.filterMap_congr
  rintro ⟨op, a⟩ -
  cases op <;> rfl

theorem lastAnswer_none_iff {tr : List (EngineEvent T H)} :
    lastAnswer tr = none ↔ copies tr = [] := by
  rw [copies_eq_map, List.map_eq_nil_iff]
  exact List.getLast?_eq_none_iff

theorem Quiet.lastAnswer {tr : List (EngineEvent T H)} (h : Quiet tr) : lastAnswer tr = none :=
  lastAnswer_none_iff.mpr h.2

theorem lastAnswer_of_rest (tr : List (EngineEvent T H)) {tr' : List (EngineEvent T H)}
    {last : SignedRequest × Except GrpcError TransactionResponseData}
    (h : lastAnswer tr' = some last) : lastAnswer (tr ++ tr') = some last := by
  rw [lastAnswer_append, h]
  rfl

theorem lastAnswer_of_front (tr : List (EngineEvent T H)) {tr' : List (EngineEvent T H)}
    (h : copies tr' = []) :
    lastAnswer (tr ++ tr') = lastAnswer tr := by
  rw [lastAnswer_append, lastAnswer_none_iff.mpr h]
  rfl

theorem mem_copies_of_lastAnswer {tr : List (EngineEvent T H)} {c : SignedRequest}
    {a : Except GrpcError TransactionResponseData} (h : lastAnswer tr = some (c, a)) :
    c ∈ copies tr := by
  rw [copies_eq_map]
  exact List.mem_map_of_mem (f := Prod.fst) (List.mem_of_getLast? h)

/-! ## One attempt -/

section Sending

variable {signed : SignedRequest} {deadline : ℤ} {fuel : ℕ} {tr : List (EngineEvent T H)}
  {outcome : Except (EngineError T) TransactionResponseData}

/-- The resending ends as its last copy was answered. -/
theorem answered_resendUntilAnswered
    (h : Ends (resendUntilAnswered (T := T) (H := H) signed deadline fuel) tr outcome) :
    ∃ a, lastAnswer tr = some (signed, a) ∧ outcome = a.mapError .grpc := by
  induction fuel generalizing tr with
  | zero =>
    obtain ⟨-, hcut⟩ := Prog.run_cut_iff.mp h
    cases hcut
  | succ fuel ih =>
    obtain ⟨start, tr₁, rfl, hsend⟩ := ends_perform h
    obtain ⟨answer, tr₂, rfl, hrest⟩ := ends_perform hsend
    cases answer with
    | ok answer =>
      obtain ⟨rfl, rfl⟩ := Prog.returns_pure_iff.mp hrest
      exact ⟨_, rfl, rfl⟩
    | error error =>
      dsimp only at hrest
      split_ifs at hrest with hends
      · obtain ⟨rfl, rfl⟩ := Prog.returns_pure_iff.mp hrest
        exact ⟨_, rfl, rfl⟩
      · obtain ⟨now, tr₃, rfl, hwait⟩ := ends_perform hrest
        split_ifs at hwait with hpast
        · obtain ⟨rfl, rfl⟩ := Prog.returns_pure_iff.mp hwait
          exact ⟨_, rfl, rfl⟩
        · obtain ⟨_, tr₄, rfl, hagain⟩ := ends_perform hwait
          obtain ⟨a, hlast, rfl⟩ := ih hagain
          -- The copy before the wait is not the last.
          exact ⟨a, lastAnswer_of_rest [_, _, _, _] hlast, rfl⟩

/-- Nothing more is sent, or the resending ends as its last copy was answered. -/
theorem answered_resendUntilRead {answer : TransactionResponseData}
    (h : Ends (resendUntilRead (T := T) (H := H) signed deadline answer fuel) tr outcome) :
    (copies tr = [] ∧ outcome = .ok answer) ∨
      ∃ a, lastAnswer tr = some (signed, a) ∧ outcome = a.mapError .grpc := by
  induction fuel generalizing tr answer with
  | zero =>
    obtain ⟨-, hcut⟩ := Prog.run_cut_iff.mp h
    cases hcut
  | succ fuel ih =>
    unfold resendUntilRead at h
    split_ifs at h with hunread
    · obtain ⟨now, tr₁, rfl, hwait⟩ := ends_perform h
      split_ifs at hwait with hearly
      · obtain ⟨_, tr₂, rfl, hsend⟩ := ends_perform hwait
        obtain ⟨later, tr₃, rfl, hrest⟩ := ends_perform hsend
        cases later with
        | ok later =>
          rcases ih hrest with ⟨hnone, rfl⟩ | ⟨a, hlast, rfl⟩
          · exact .inr ⟨.ok later, lastAnswer_of_front [_, _, _] hnone, rfl⟩
          · exact .inr ⟨a, lastAnswer_of_rest [_, _, _] hlast, rfl⟩
        | error error =>
          obtain ⟨rfl, rfl⟩ := Prog.returns_pure_iff.mp hrest
          exact .inr ⟨_, rfl, rfl⟩
      · obtain ⟨rfl, rfl⟩ := Prog.returns_pure_iff.mp hwait
        exact .inl ⟨rfl, rfl⟩
    · obtain ⟨rfl, rfl⟩ := Prog.returns_pure_iff.mp h
      exact .inl ⟨rfl, rfl⟩

/-- The copies of one request end as the last of them was answered. -/
theorem answered_copies (h : Ends (do
      resendWhileDepositUnread (T := T) (H := H) (← sendUntilAnswered signed fuel) signed fuel)
      tr outcome) :
    ∃ a, lastAnswer tr = some (signed, a) ∧ outcome = a.mapError .grpc := by
  rcases h.bind_cases with ⟨e, rfl, hthrows⟩ | ⟨tr₁, tr₂, answer, rfl, hgives, hread⟩
  · obtain ⟨_, tr₁, rfl, hsend⟩ := ends_perform hthrows.ends
    obtain ⟨a, hlast, houtcome⟩ := answered_resendUntilAnswered hsend
    exact ⟨a, lastAnswer_of_rest [_] hlast, houtcome⟩
  · obtain ⟨_, tr₃, rfl, hsend⟩ := ends_perform hgives.ends
    obtain ⟨start, tr₄, rfl, hresend⟩ := ends_perform hread
    obtain ⟨a, hlast, hanswer⟩ := answered_resendUntilAnswered hsend
    rcases answered_resendUntilRead hresend with ⟨hnone, rfl⟩ | ⟨later, hlater, rfl⟩
    · refine ⟨a, ?_, hanswer⟩
      have hquiet : copies ((⟨.now, start⟩ : EngineEvent T H) :: tr₄) = [] := hnone
      rw [lastAnswer_of_front _ hquiet]
      exact lastAnswer_of_rest [_] hlast
    · exact ⟨later, lastAnswer_of_rest _ (lastAnswer_of_rest [_] hlater), rfl⟩

/-- How an attempt ends whose last copy was answered so. -/
def concluded (sent : Sent T) :
    Except GrpcError TransactionResponseData →
      Except (EngineError T) (TransactionResponseData × Sent T)
  | .ok answer => unlessStale answer sent
  | .error error => .error (closedByRefusal sent (.grpc error))

theorem answered_sendSigned {sent : Sent T}
    {r : Except (EngineError T) (TransactionResponseData × Sent T)}
    (h : Ends (sendSigned (H := H) sent signed fuel) tr r) :
    ∃ a, lastAnswer tr = some (signed, a) ∧ r = concluded sent a := by
  rcases h.bind_cases with ⟨e, rfl, hthrows⟩ | ⟨tr₁, tr₂, answer, rfl, hgives, hlift⟩
  · obtain ⟨tr₁, tr₂, e', rfl, hcopies, hthrow⟩ := throws_tryCatch_iff.mp hthrows
    obtain ⟨rfl, rfl⟩ := throws_throw_iff.mp hthrow
    obtain ⟨a, hlast, houtcome⟩ := answered_copies hcopies.ends
    rw [List.append_nil]
    cases a with
    | ok answer => cases houtcome
    | error error =>
      cases houtcome
      exact ⟨_, hlast, rfl⟩
  · obtain ⟨rfl, rfl⟩ := Prog.returns_pure_iff.mp hlift
    rcases gives_tryCatch_iff.mp hgives with hcopies | ⟨_, _, _, -, -, hthrow⟩
    · obtain ⟨a, hlast, houtcome⟩ := answered_copies hcopies.ends
      rw [List.append_nil]
      cases a with
      | ok answer =>
        cases houtcome
        exact ⟨_, hlast, rfl⟩
      | error error => cases houtcome
    · exact (gives_throw_iff.mp hthrow).elim

end Sending

section Attempts

variable {P : Primitives} {network : Network} {requester : Requester} {epoch fuel : ℕ}
  {sign : SignedRequestData → EngineEff T H SignedRequest}
  {build : ℕ → Bytes → EngineEff T H (BuiltRequest T)} {tr : List (EngineEvent T H)}
  {r : Except (EngineError T) (TransactionResponseData × Sent T)} {sent : Sent T}
  {a : Except GrpcError TransactionResponseData}

/-- All copies are of one session, and the last of them was answered so. -/
structure Attempted (P : Primitives) (tr : List (EngineEvent T H)) (sent : Sent T)
    (a : Except GrpcError TransactionResponseData) : Prop where
  session : ∀ c ∈ copies tr, c.session P = some sent.sessionIdentifier
  epoch : ∀ c ∈ copies tr, c.epoch = some sent.epoch
  last : ∃ c, lastAnswer tr = some (c, a)

theorem Attempted.prepend (h : Attempted P tr sent a) (first : List (EngineEvent T H))
    (hfirst : copies first = []) : Attempted P (first ++ tr) sent a := by
  have hcopies : copies (first ++ tr) = copies tr := by
    rw [copies_append, hfirst, List.nil_append]
  obtain ⟨c, hlast⟩ := h.last
  refine ⟨?_, ?_, c, lastAnswer_of_rest first hlast⟩
  · rw [hcopies]
    exact h.session
  · rw [hcopies]
    exact h.epoch

theorem Attempted.append (h : Attempted P tr sent a) {rest : List (EngineEvent T H)}
    (hrest : copies rest = []) : Attempted P (tr ++ rest) sent a := by
  have hcopies : copies (tr ++ rest) = copies tr := by
    rw [copies_append, hrest, List.append_nil]
  obtain ⟨c, hlast⟩ := h.last
  refine ⟨?_, ?_, c, by rw [lastAnswer_of_front tr hrest, hlast]⟩
  · rw [hcopies]
    exact h.session
  · rw [hcopies]
    exact h.epoch

/-- An attempt sends nothing and ends with an error of the SDK, or ends as its last copy was
answered. -/
theorem ends_signAndSend_answered (hsign : Signs requester.keypair.publicKey sign)
    (hquiet : ∀ session, Always Quiet (build epoch session))
    (herrors : ∀ session, ThrowsOnly IsSdk (build epoch session))
    (h : Ends (signAndSend P network requester epoch sign build fuel) tr r) :
    (copies tr = [] ∧ ∃ e, r = .error (.sdk e)) ∨
      ∃ sent a, sent.epoch = epoch ∧ Attempted P tr sent a ∧ r = concluded sent a := by
  obtain ⟨preimage, tr₁, rfl, hrest⟩ := ends_perform h
  rcases hrest.bind_cases with ⟨e, rfl, hthrows⟩ | ⟨tr₂, tr₃, built, rfl, hbuilt, hsigning⟩
  · obtain ⟨error, rfl⟩ := herrors _ _ _ hthrows
    exact .inl ⟨(hquiet _ _ hthrows.begins).2, error, rfl⟩
  have hbuilding : copies tr₂ = [] := (hquiet _ tr₂ hbuilt.begins).2
  rcases hsigning.bind_cases with ⟨e, rfl, hthrows⟩ | ⟨tr₄, tr₅, signed, rfl, hsigned, hsend⟩
  · obtain ⟨error, rfl⟩ := hsign.errors _ _ _ hthrows
    have hsigns := (hsign.still steady_quiet _ tr₃ hthrows.begins).2
    exact .inl ⟨(copies_append tr₂ tr₃).trans (by rw [hbuilding, hsigns]; rfl), error, rfl⟩
  · have hsigns : copies tr₄ = [] := (hsign.still steady_quiet _ tr₄ hsigned.begins).2
    have hmade := hsign.signed _ tr₄ signed hsigned
    have hcopies := (sendSigned_sendsOnly _ signed fuel tr₅ ⟨_, hsend⟩).2
    obtain ⟨a, hlast, rfl⟩ := answered_sendSigned hsend
    refine .inr ⟨_, a, rfl, ?_, rfl⟩
    have hsent : Attempted P tr₅
        ⟨epoch, sessionIdentifier P requester epoch preimage, built.kept⟩ a := by
      refine ⟨fun c hc => ?_, fun c hc => ?_, signed, hlast⟩
      · rw [hcopies c hc, hmade.session_eq]
        rfl
      · rw [hcopies c hc, hmade.epoch_eq]
        rfl
    exact ((hsent.prepend tr₄ hsigns).prepend tr₂ hbuilding).prepend [_] rfl

end Attempts

/-! ## Whole runs -/

section Runs

variable {P : Primitives} {network : Network} {requester : Requester} {fuel : ℕ}
  {tr : List (EngineEvent T H)} {sent : Sent T} {refusal : String}
  {a : Except GrpcError TransactionResponseData}
  {r : Except (EngineError T) (TransactionResponseData × Sent T)}
  {submission : Submission T H}

/-- What a submission needs so that its attempts end as their last copy was answered. -/
structure Submission.Orderly (requester : Requester) (submission : Submission T H) : Prop where
  quiet : ∀ epoch session, Always Quiet (submission.build epoch session)
  errors : ∀ epoch session, ThrowsOnly IsSdk (submission.build epoch session)
  signs : ∀ epoch sign, submission.presign = some (epoch, sign) →
    Signs requester.keypair.publicKey sign

/-- What a submission needs so that its runs end as their last copy was answered. -/
structure Submission.Regular (requester : Requester) (submission : Submission T H) : Prop
    extends submission.Orderly requester where
  described : ∀ session kept, ∃ kind, submission.describe session kept = .ok kind

/-- The session was looked up in the run, its epoch settled, and it never ran. -/
def ShownNotRun (P : Primitives) (network : Network) (tr : List (EngineEvent T H))
    (session : Bytes) : Prop :=
  ∃ before found after pending, tr = before ++ found ++ after ∧
    pending.sessionIdentifier = session ∧ NotRunLookup P network pending found

theorem ShownNotRun.mono {session : Bytes} (h : ShownNotRun P network tr session)
    (first rest : List (EngineEvent T H)) :
    ShownNotRun P network (first ++ tr ++ rest) session := by
  obtain ⟨before, found, after, pending, rfl, hsession, hfound⟩ := h
  exact ⟨first ++ before, found, after ++ rest, pending, by simp, hsession, hfound⟩

/-- Every session that the run sent a copy under was shown never to have run. -/
def AllShown (P : Primitives) (network : Network) (tr : List (EngineEvent T H)) : Prop :=
  ∀ c ∈ copies tr, ∃ session, c.session P = some session ∧ ShownNotRun P network tr session

theorem allShown_of_quiet (h : copies tr = []) : AllShown P network tr := by
  intro c hc
  rw [h] at hc
  cases hc

theorem AllShown.append {tr' : List (EngineEvent T H)} (h : AllShown P network tr)
    (h' : AllShown P network tr') : AllShown P network (tr ++ tr') := by
  intro c hc
  rw [copies_append, List.mem_append] at hc
  rcases hc with hc | hc
  · obtain ⟨session, hsession, hshown⟩ := h c hc
    exact ⟨session, hsession, hshown.mono [] tr'⟩
  · obtain ⟨session, hsession, hshown⟩ := h' c hc
    refine ⟨session, hsession, ?_⟩
    have hrest := hshown.mono tr []
    rwa [List.append_nil] at hrest

/-- The outcome is unknown, or it is what the lookup answers. -/
def FromLookup (P : Primitives) (network : Network) (H : Type) (pending : PendingRequest)
    (outcome : RequestOutcome) : Prop :=
  outcome = .unknown ∨
    ∃ es, Gives (findSession P (H := H) pending network.shares) es outcome

theorem fromLookup_settledOutcome {pending : PendingRequest} {outcome : RequestOutcome}
    (h : Gives (settledOutcome (T := T) (H := H) P network pending) tr outcome) :
    FromLookup P network H pending outcome := by
  unfold settledOutcome at h
  split_ifs at h
  · obtain ⟨tr₁, tr₂, n, rfl, -, hrest⟩ := gives_bind_iff.mp h
    split_ifs at hrest
    · exact .inl (gives_pure_iff.mp hrest).2.symm
    · obtain ⟨tr₃, tr₄, answer, rfl, hlookup, hlast⟩ := gives_bind_iff.mp hrest
      obtain ⟨es, -, hfound⟩ := gives_lookup hlookup
      cases answer with
      | ok found =>
        obtain ⟨-, rfl⟩ := gives_pure_iff.mp hlast
        exact .inr ⟨es, hfound⟩
      | error e => exact .inl (gives_pure_iff.mp hlast).2.symm
  · exact .inl (gives_pure_iff.mp h).2.symm

/-- How a run may end whose last session's last copy was answered so: as its attempt did, or
after a close with what the lookup of the session told. -/
inductive EndsAs (P : Primitives) (network : Network) (H : Type) (submission : Submission T H)
    (sent : Sent T) (a : Except GrpcError TransactionResponseData) :
    Except (EngineError T) (TransactionResponseData × Sent T) → Prop
  | concluded : (∀ refusal, concluded sent a ≠ .error (.closedBeforeAnswer sent refusal)) →
      EndsAs P network H submission sent a (concluded sent a)
  | signature {refusal : String} {signature : Bytes} :
      concluded sent a = .error (.closedBeforeAnswer sent refusal) →
      EndsAs P network H submission sent a (.ok (.signature signature, sent))
  | ran {refusal record : String} {pending : PendingRequest} :
      concluded sent a = .error (.closedBeforeAnswer sent refusal) →
      submission.describe sent.sessionIdentifier sent.kept = .ok pending.kind →
      FromLookup P network H pending (.ran record) →
      EndsAs P network H submission sent a
        (.error (.requestRanBeforeAnswer sent.epoch sent.sessionIdentifier record))
  | unknown {refusal : String} {chainEpoch : ℕ} {pending : PendingRequest} :
      concluded sent a = .error (.closedBeforeAnswer sent refusal) →
      EndsAs P network H submission sent a
        (.error (.epochClosedBeforeAnswer sent.epoch sent.sessionIdentifier chainEpoch refusal
          pending))

/-- An answer is returned or says that the epoch is over, and a status is thrown on or says that
the epoch is closing. -/
theorem concluded_cases (sent : Sent T) (a : Except GrpcError TransactionResponseData) :
    (∃ answer, a = .ok answer ∧ staleEpochRefusal answer sent.epoch = none ∧
      concluded sent a = .ok (answer, sent)) ∨
    (∃ status, a = .error status ∧ concluded sent a = .error (.grpc status)) ∨
    (∃ message, a = .ok (.error message) ∧
      staleEpochRefusal (.error message) sent.epoch ≠ none ∧
      concluded sent a = .error (.closedBeforeAnswer sent message)) ∨
    ∃ status, a = .error status ∧ isEpochClosingRefusal status = true ∧
      concluded sent a = .error (.closedBeforeAnswer sent (status.details.getD "")) := by
  cases a with
  | ok answer =>
    cases hstale : staleEpochRefusal answer sent.epoch with
    | none =>
      refine .inl ⟨answer, rfl, hstale, ?_⟩
      cases answer with
      | error message => simp [concluded, unlessStale, hstale]
      | _ => rfl
    | some epoch =>
      cases answer with
      | error message =>
        refine .inr (.inr (.inl ⟨message, rfl, by rw [hstale]; exact Option.some_ne_none _, ?_⟩))
        simp [concluded, unlessStale, hstale]
      | _ => cases hstale
  | error status =>
    by_cases hclosing : isEpochClosingRefusal status = true
    · refine .inr (.inr (.inr ⟨status, rfl, hclosing, ?_⟩))
      rw [concluded, closedByRefusal, if_pos hclosing]
    · refine .inr (.inl ⟨status, rfl, ?_⟩)
      rw [concluded, closedByRefusal, if_neg hclosing]

theorem concluded_closed {closed : Sent T}
    (h : concluded sent a = .error (.closedBeforeAnswer closed refusal)) : closed = sent := by
  rcases concluded_cases sent a with ⟨_, -, -, heq⟩ | ⟨_, -, heq⟩ | ⟨_, -, -, heq⟩ | ⟨_, -, -, heq⟩
  all_goals cases heq.symm.trans h
  all_goals rfl

theorem endsAs_of (h : r = concluded sent a)
    (hnot : ∀ refusal, r ≠ .error (.closedBeforeAnswer sent refusal)) :
    EndsAs P network H submission sent a r := by
  rw [h] at hnot ⊢
  exact .concluded hnot

/-- What the caller is told of a closed session. -/
theorem ends_answerOrThrow_answered {outcome : RequestOutcome} {kind : PendingRequestKind}
    (hclosed : concluded sent a = .error (.closedBeforeAnswer sent refusal))
    (hkind : submission.describe sent.sessionIdentifier sent.kept = .ok kind)
    (houtcome : FromLookup P network H (pendingRequest network requester sent kind) outcome)
    (h : Ends (answerOrThrow (H := H) sent refusal outcome
      (pendingRequest network requester sent kind)) tr r) :
    EndsAs P network H submission sent a r := by
  have hunknown : ∀ {tr}, Ends (do
      let chainEpoch ← perform (T := T) (H := H) .epoch
      (throw (.epochClosedBeforeAnswer sent.epoch sent.sessionIdentifier chainEpoch refusal
        (pendingRequest network requester sent kind)) :
        EngineEff T H (TransactionResponseData × Sent T))) tr r →
      EndsAs P network H submission sent a r := by
    intro tr h
    obtain ⟨chainEpoch, _, rfl, hthrow⟩ := ends_perform h
    obtain ⟨-, rfl⟩ := Prog.returns_pure_iff.mp hthrow
    exact .unknown hclosed
  cases outcome with
  | notRun => exact hunknown h
  | unknown => exact hunknown h
  | ran record =>
    obtain ⟨-, rfl⟩ := Prog.returns_pure_iff.mp h
    exact .ran hclosed hkind houtcome
  | signature signature =>
    obtain ⟨-, rfl⟩ := Prog.returns_pure_iff.mp h
    exact .signature hclosed

/-- After a close nothing is sent but by what follows a session that was shown never to have
run. -/
theorem ends_afterClose_answered
    {notRun : Option (EngineEff T H (TransactionResponseData × Sent T))}
    (hclosed : concluded sent a = .error (.closedBeforeAnswer sent refusal))
    (hdescribed : ∃ kind, submission.describe sent.sessionIdentifier sent.kept = .ok kind)
    (h : Ends (afterClose P network requester submission.describeRun fuel notRun
      (.closedBeforeAnswer sent refusal)) tr r) :
    (copies tr = [] ∧ EndsAs P network H submission sent a r) ∨
      ∃ next looked rest, notRun = some next ∧ tr = looked ++ rest ∧ copies looked = [] ∧
        ShownNotRun P network looked sent.sessionIdentifier ∧ Ends next rest r := by
  obtain ⟨kind, hkind⟩ := hdescribed
  have hpending : Gives (pending network requester submission.describeRun sent)
      ([] : List (EngineEvent T H)) (pendingRequest network requester sent kind) :=
    gives_bind_iff.mpr ⟨[], [], kind, rfl, gives_sdk_iff.mpr ⟨rfl, hkind⟩,
      gives_pure_iff.mpr ⟨rfl, rfl⟩⟩
  have hafter := Ends.after_gives (show Ends _ ([] ++ tr) r from h) hpending
  have hnever : ThrowsOnly (fun _ => False) (outcomeAfterEpochClose (T := T) (H := H) P network
      (pendingRequest network requester sent kind) fuel) := throwsOnly_outcomeAfterEpochClose _ fuel
  rcases hafter.bind_cases with ⟨e, -, hthrows⟩ | ⟨tr₁, tr₂, outcome, rfl, houtcome, hrest⟩
  · exact (hnever tr e hthrows).elim
  have hwaited := (always_outcomeAfterEpochClose steady_quiet _ fuel tr₁ houtcome.begins).2
  split at hrest
  · next next =>
    obtain ⟨tr₃, found, rfl, hbefore, hfound⟩ := outcomeAfterEpochClose_notRun houtcome
    refine .inr ⟨next, tr₃ ++ found, tr₂, rfl, rfl, hwaited, ?_, hrest⟩
    exact ⟨tr₃, found, [], _, by simp, rfl, hfound⟩
  · have hquiet := (always_answerOrThrow steady_quiet _ _ _ _ tr₂ ⟨_, hrest⟩).2
    obtain ⟨_, _, _, -, -, htold⟩ := gives_bind_iff.mp houtcome
    obtain ⟨_, tr₄, _, -, -, hsettled⟩ := gives_bind_iff.mp htold
    refine .inl ⟨by rw [copies_append, hwaited, hquiet]; rfl, ?_⟩
    exact ends_answerOrThrow_answered hclosed hkind (fromLookup_settledOutcome hsettled) hrest

/-- The run of a submission sends nothing after sessions that were shown never to have run, and
ends without a validator's word; or one more session is attempted, and the run ends as its
last copy was answered. -/
def RunEnds (P : Primitives) (network : Network) (submission : Submission T H)
    (tr : List (EngineEvent T H)) (r : Except (EngineError T) (TransactionResponseData × Sent T)) :
    Prop :=
  ∃ tr₁ tr₂, tr = tr₁ ++ tr₂ ∧ AllShown P network tr₁ ∧
    ((copies tr₂ = [] ∧ ((∃ e, r = .error (.sdk e)) ∨
      ∃ epoch chainEpoch, r = .error (.presignExpiredWithTheEpoch epoch chainEpoch))) ∨
    ∃ sent a, Attempted P tr₂ sent a ∧ EndsAs P network H submission sent a r)

theorem RunEnds.after (h : RunEnds P network submission tr r)
    {first : List (EngineEvent T H)} (hfirst : AllShown P network first) :
    RunEnds P network submission (first ++ tr) r := by
  obtain ⟨tr₁, tr₂, rfl, hshown, hrest⟩ := h
  exact ⟨first ++ tr₁, tr₂, by rw [List.append_assoc], hfirst.append hshown, hrest⟩

theorem Attempted.allShown {looked : List (EngineEvent T H)} (h : Attempted P tr sent a)
    (hlooked : copies looked = [])
    (hshown : ShownNotRun P network looked sent.sessionIdentifier) :
    AllShown P network (tr ++ looked) := by
  intro c hc
  rw [copies_append, hlooked, List.append_nil] at hc
  refine ⟨_, h.session c hc, ?_⟩
  have hrest := hshown.mono tr []
  rwa [List.append_nil] at hrest

/-- An attempt with what follows it. -/
theorem runEnds_attempt {once : EngineEff T H (TransactionResponseData × Sent T)}
    {notRun : Option (EngineEff T H (TransactionResponseData × Sent T))}
    (hregular : submission.Regular requester)
    (honce : ∀ tr r, Ends once tr r → (copies tr = [] ∧ ∃ e, r = .error (.sdk e)) ∨
      ∃ sent a, Attempted P tr sent a ∧ r = concluded sent a)
    (hnext : ∀ next, notRun = some next → ∀ tr r, Ends next tr r →
      RunEnds P network submission tr r)
    (h : Ends (tryCatch once (afterClose P network requester submission.describeRun fuel notRun))
      tr r) : RunEnds P network submission tr r := by
  have hclean : AllShown P network ([] : List (EngineEvent T H)) := allShown_of_quiet rfl
  rcases h.tryCatch_cases with ⟨answer, rfl, hgives⟩ | ⟨tr₁, tr₂, e, rfl, hthrows, hafter⟩
  · rcases honce tr _ hgives.ends with ⟨-, e, hnot⟩ | ⟨sent, a, hattempted, hconcluded⟩
    · cases hnot
    · exact ⟨[], tr, rfl, hclean, .inr ⟨sent, a, hattempted, endsAs_of hconcluded (by simp)⟩⟩
  · rcases honce tr₁ _ hthrows.ends with ⟨hquiet, error, hsdk⟩ | ⟨sent, a, hattempted, hconcluded⟩
    · cases hsdk
      obtain ⟨rfl, rfl⟩ := Prog.returns_pure_iff.mp hafter
      rw [List.append_nil]
      exact ⟨[], tr₁, rfl, hclean, .inl ⟨hquiet, .inl ⟨error, rfl⟩⟩⟩
    · cases e with
      | closedBeforeAnswer closed refusal =>
        obtain rfl := concluded_closed hconcluded.symm
        rcases ends_afterClose_answered hconcluded.symm (hregular.described _ _) hafter with
          ⟨hquiet, hends⟩ | ⟨next, looked, rest, hsome, rfl, hlooked, hshown, hrest⟩
        · exact ⟨[], tr₁ ++ tr₂, rfl, hclean, .inr ⟨closed, a, hattempted.append hquiet, hends⟩⟩
        · rw [← List.append_assoc]
          exact (hnext next hsome rest r hrest).after (hattempted.allShown hlooked hshown)
      | _ =>
        obtain ⟨rfl, rfl⟩ := Prog.returns_pure_iff.mp hafter
        rw [List.append_nil]
        exact ⟨[], tr₁, rfl, hclean, .inr ⟨sent, a, hattempted, endsAs_of hconcluded (by simp)⟩⟩

theorem ends_readChainEpoch {r : Except (EngineError T) ℕ}
    (h : Ends (readChainEpoch (H := H)) tr r) :
    copies tr = [] ∧ ∀ e, r = .error e → ∃ error, e = .sdk error := by
  refine ⟨(always_readChainEpoch steady_quiet tr ⟨_, h⟩).2, ?_⟩
  rintro e rfl
  exact throwsOnly_readChainEpoch tr e h

theorem ends_submitOnce_answered (horderly : submission.Orderly requester)
    (h : Ends (submitOnce P network requester submission.build fuel) tr r) :
    (copies tr = [] ∧ ∃ e, r = .error (.sdk e)) ∨
      ∃ sent a, Attempted P tr sent a ∧ r = concluded sent a := by
  rcases h.bind_cases with ⟨e, rfl, hthrows⟩ | ⟨tr₁, tr₂, epoch, rfl, hread, hsend⟩
  · obtain ⟨hquiet, hsdk⟩ := ends_readChainEpoch hthrows.ends
    obtain ⟨error, rfl⟩ := hsdk e rfl
    exact .inl ⟨hquiet, error, rfl⟩
  · have hquiet := (ends_readChainEpoch hread.ends).1
    rcases ends_signAndSend_answered (signs_signFor signs_signGrpcRequest) (horderly.quiet epoch)
        (horderly.errors epoch) hsend with ⟨hnone, e, rfl⟩ | ⟨sent, a, -, hattempted, rfl⟩
    · exact .inl ⟨by rw [copies_append, hquiet, hnone]; rfl, e, rfl⟩
    · exact .inr ⟨sent, a, hattempted.prepend tr₁ hquiet, rfl⟩

/-- Every run of a regular submission ends so. -/
theorem runEnds (hregular : submission.Regular requester)
    (h : Ends (submission.run P network requester fuel) tr r) :
    RunEnds P network submission tr r := by
  have hclean : AllShown P network ([] : List (EngineEvent T H)) := allShown_of_quiet rfl
  unfold Submission.run at h
  cases hpresign : submission.presign with
  | none =>
    rw [hpresign] at h
    dsimp only at h
    generalize rebuildsAfterEpochClose = left at h
    induction left generalizing tr r with
    | zero =>
      refine runEnds_attempt hregular (fun tr r => ends_submitOnce_answered hregular.toOrderly) ?_ h
      intro next hnone
      cases hnone
    | succ left ih =>
      refine runEnds_attempt hregular (fun tr r => ends_submitOnce_answered hregular.toOrderly) ?_ h
      intro next hsome tr r hrest
      obtain rfl := Option.some.inj hsome
      exact ih hrest
  | some presign =>
    obtain ⟨epoch, sign⟩ := presign
    rw [hpresign] at h
    rcases h.bind_cases with ⟨e, rfl, hthrows⟩ | ⟨tr₁, tr₂, chainEpoch, rfl, hread, hrest⟩
    · obtain ⟨hquiet, hsdk⟩ := ends_readChainEpoch hthrows.ends
      obtain ⟨error, rfl⟩ := hsdk e rfl
      exact ⟨[], tr, rfl, hclean, .inl ⟨hquiet, .inl ⟨error, rfl⟩⟩⟩
    have hquiet := (ends_readChainEpoch hread.ends).1
    apply RunEnds.after _ (allShown_of_quiet hquiet)
    split_ifs at hrest
    · obtain ⟨rfl, rfl⟩ := Prog.returns_pure_iff.mp hrest
      exact ⟨[], [], rfl, hclean, .inl ⟨rfl, .inr ⟨epoch, chainEpoch, rfl⟩⟩⟩
    · have honce : ∀ tr r, Ends (signAndSend P network requester epoch sign
          (fun _ => submission.build epoch) fuel) tr r →
          (copies tr = [] ∧ ∃ e, r = .error (.sdk e)) ∨
            ∃ sent a, Attempted P tr sent a ∧ r = concluded sent a := by
        intro tr r hsend
        rcases ends_signAndSend_answered (hregular.signs epoch sign hpresign)
            (hregular.quiet epoch) (hregular.errors epoch) hsend with
          hnone | ⟨sent, a, -, hattempted⟩
        · exact .inl hnone
        · exact .inr ⟨sent, a, hattempted⟩
      refine runEnds_attempt hregular honce ?_ hrest
      intro next hsome tr r hexpired
      obtain rfl := Option.some.inj hsome
      obtain ⟨now, _, rfl, hthrow⟩ := ends_perform hexpired
      obtain ⟨rfl, rfl⟩ := Prog.returns_pure_iff.mp hthrow
      exact ⟨[], _, rfl, hclean, .inl ⟨rfl, .inr ⟨epoch, now, rfl⟩⟩⟩

end Runs

end Ika
