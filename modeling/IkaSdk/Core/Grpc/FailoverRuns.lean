import IkaSdk.Core.Grpc.Failover

/-! What the calls of one client do to its validators: each call by itself, in every run, and
all of them together, whatever order they go on in. -/

namespace Ika.Failover

open Wire Interaction Eff

variable {Q D : Type}

/-! ## What a run shows -/

/-- The validator that an event considers, to call it or to pass it over. -/
def considers : FailoverEvent Q D → Option ℕ
  | ⟨.start index _ _, _⟩ => some index
  | _ => none

def answerOf : FailoverEvent Q D → Option (Except TransportError D)
  | ⟨.answered .., answer⟩ => some answer
  | _ => none

def answers (tr : List (FailoverEvent Q D)) : List (Except TransportError D) :=
  tr.filterMap answerOf

/-- The answer is that the validator's key was refused. -/
def KeyRefused (answer : Except TransportError D) : Prop :=
  ∃ error, answer = .error error ∧ error.error.isNotACommitteeMember = true

/-- The error is an `UNAVAILABLE` that does not say that the epoch is closing. -/
def SentOn (error : Thrown) : Prop :=
  error.code = some GrpcStatus.unavailable ∧ error.isEpochClosingRefusal = false

/-- The course of a call over the validators in an order, from the first to the end: one that was
refused of late is passed over, and any other is called, all of them with the same. The call
goes on after the errors that it goes on after, and records at once that a key was refused. -/
inductive Course (goesOn : Thrown → Prop) (request : CallRequest Q) (deadline : ℤ) :
    List ℕ → List (FailoverEvent Q D) → Prop
  | exhausted : Course goesOn request deadline [] []
  | passed {index : ℕ} {order : List ℕ} {tr : List (FailoverEvent Q D)} :
      Course goesOn request deadline order tr →
      Course goesOn request deadline (index :: order)
        (⟨.start index request deadline, false⟩ :: tr)
  | returned {index : ℕ} {order : List ℕ} {answer : D} :
      Course goesOn request deadline (index :: order)
        [⟨.start index request deadline, true⟩, ⟨.answered index request deadline, .ok answer⟩]
  | thrown {index : ℕ} {order : List ℕ} {error : TransportError} : ¬goesOn error.error →
      Course goesOn request deadline (index :: order)
        [⟨.start index request deadline, true⟩, ⟨.answered index request deadline, .error error⟩]
  | refused {index : ℕ} {order : List ℕ} {error : TransportError}
      {tr : List (FailoverEvent Q D)} : goesOn error.error →
      error.error.isNotACommitteeMember = true → Course goesOn request deadline order tr →
      Course goesOn request deadline (index :: order)
        (⟨.start index request deadline, true⟩ ::
          ⟨.answered index request deadline, .error error⟩ :: ⟨.refuse index, ()⟩ :: tr)
  | failed {index : ℕ} {order : List ℕ} {error : TransportError}
      {tr : List (FailoverEvent Q D)} : goesOn error.error →
      error.error.isNotACommitteeMember = false → Course goesOn request deadline order tr →
      Course goesOn request deadline (index :: order)
        (⟨.start index request deadline, true⟩ ::
          ⟨.answered index request deadline, .error error⟩ :: tr)

/-- The events are those of such a course up to where the call got, which is its end for one
that has nothing left to do. -/
def InTurn (goesOn : Thrown → Prop) (request : CallRequest Q) (deadline : ℤ) (order : List ℕ)
    (left : Prog (failoverInterface Q D) (Except ClientError D))
    (tr : List (FailoverEvent Q D)) : Prop :=
  ∃ later, Course goesOn request deadline order (tr ++ later) ∧
    ((∃ r, left = .pure r) → later = [])

/-- Every answer in the events is of the call that the event before it started. -/
def Made (tr : List (FailoverEvent Q D)) : Prop :=
  ∀ front index request deadline answer rest,
    tr = front ++ ⟨.answered index request deadline, answer⟩ :: rest →
    ∃ earlier, front = earlier ++ [⟨.start index request deadline, true⟩]

section Calls

variable {goesOn : Thrown → Bool} {request : CallRequest Q} {deadline : ℤ} {order : List ℕ}
  {tried : Tried} {tr : List (FailoverEvent Q D)}

theorem made_nil : Made ([] : List (FailoverEvent Q D)) := by
  intro front index request deadline answer rest h
  have hlength := congrArg List.length h
  simp at hlength

theorem Made.other {e : FailoverEvent Q D} (h : Made tr) (he : answerOf e = none) :
    Made (e :: tr) := by
  intro front index request deadline answer rest heq
  cases front with
  | nil =>
    obtain ⟨rfl, -⟩ := List.cons.inj heq
    cases he
  | cons first front =>
    obtain ⟨rfl, hrest⟩ := List.cons.inj heq
    obtain ⟨earlier, rfl⟩ := h front index request deadline answer rest hrest
    exact ⟨e :: earlier, rfl⟩

theorem Made.called {index : ℕ} {answer : Except TransportError D} (h : Made tr) :
    Made (⟨.start index request deadline, true⟩ ::
      ⟨.answered index request deadline, answer⟩ :: tr) := by
  intro front index' request' deadline' answer' rest heq
  cases front with
  | nil => cases (List.cons.inj heq).1
  | cons first front =>
    obtain ⟨rfl, hrest⟩ := List.cons.inj heq
    cases front with
    | nil =>
      cases (List.cons.inj hrest).1
      exact ⟨[], rfl⟩
    | cons second front =>
      obtain ⟨rfl, htr⟩ := List.cons.inj hrest
      obtain ⟨earlier, rfl⟩ := h front index' request' deadline' answer' rest htr
      exact ⟨_ :: _ :: earlier, rfl⟩

theorem Made.front {later : List (FailoverEvent Q D)} (h : Made (tr ++ later)) : Made tr := by
  rintro front index request deadline answer rest rfl
  exact h front index request deadline answer (rest ++ later) (by simp)

section Courses

variable {sentOn : Thrown → Prop}

theorem Course.made (h : Course sentOn request deadline order tr) : Made tr := by
  induction h with
  | exhausted => exact made_nil
  | passed _ ih => exact ih.other rfl
  | returned => exact made_nil.called
  | thrown _ => exact made_nil.called
  | refused _ _ _ ih => exact (ih.other rfl).called
  | failed _ _ _ ih => exact ih.called

/-- A course considers the validators in their order. -/
theorem Course.considers_prefix (h : Course sentOn request deadline order tr) :
    tr.filterMap considers <+: order := by
  induction h with
  | exhausted => exact List.nil_prefix
  | passed _ ih => exact List.cons_prefix_cons.mpr ⟨rfl, ih⟩
  | returned => exact List.cons_prefix_cons.mpr ⟨rfl, List.nil_prefix⟩
  | thrown _ => exact List.cons_prefix_cons.mpr ⟨rfl, List.nil_prefix⟩
  | refused _ _ _ ih => exact List.cons_prefix_cons.mpr ⟨rfl, ih⟩
  | failed _ _ _ ih => exact List.cons_prefix_cons.mpr ⟨rfl, ih⟩

variable {left : Prog (failoverInterface Q D) (Except ClientError D)}

theorem InTurn.made (h : InTurn sentOn request deadline order left tr) : Made tr := by
  obtain ⟨later, hcourse, -⟩ := h
  exact hcourse.made.front

theorem InTurn.once (h : InTurn sentOn request deadline order left tr) (horder : order.Nodup) :
    (tr.filterMap considers).Nodup := by
  obtain ⟨later, hcourse, -⟩ := h
  have hprefix := hcourse.considers_prefix
  rw [List.filterMap_append] at hprefix
  exact ((List.prefix_append _ _).trans hprefix).sublist.nodup horder

end Courses

/-- What the error of one validator leaves is at most the record of its refusal. -/
theorem ends_afterError {index : ℕ} {error : Thrown} {r : Except ClientError Tried}
    (h : Eff.Ends (afterError (Q := Q) (D := D) goesOn index tried error) tr r) :
    (goesOn error = true ∧ error.isNotACommitteeMember = true ∧
      tr = [⟨.refuse index, ()⟩] ∧ r = .ok { tried with lastError := some error }) ∨
    (goesOn error = true ∧ error.isNotACommitteeMember = false ∧ tr = [] ∧
      r = .ok { everyOneRefused := false, lastError := some error }) ∨
    (goesOn error = false ∧ tr = [] ∧ r = .error (.thrown error)) := by
  unfold afterError at h
  split_ifs at h with hgoes hrefused
  · obtain ⟨_, rest, rfl, hrest⟩ := ends_liftOp_bind h
    obtain ⟨rfl, rfl⟩ := Prog.returns_pure_iff.mp hrest
    exact .inl ⟨hgoes, hrefused, rfl, rfl⟩
  · obtain ⟨rfl, rfl⟩ := Prog.returns_pure_iff.mp h
    exact .inr (.inl ⟨hgoes, eq_false_of_ne_true hrefused, rfl, rfl⟩)
  · obtain ⟨rfl, rfl⟩ := Prog.returns_pure_iff.mp h
    exact .inr (.inr ⟨eq_false_of_ne_true hgoes, rfl, rfl⟩)

/-- What is kept of the validators that were called so far. -/
structure Keeps (tried : Tried) (given : List (Except TransportError D)) : Prop where
  refused : tried.everyOneRefused = true ↔ ∀ a ∈ given, KeyRefused a
  last : ∀ error, tried.lastError = some error →
    ∃ last, given.getLast? = some (.error last) ∧ last.error = error
  none_last : tried.lastError = none → given = []

theorem Keeps.snoc {given : List (Except TransportError D)} {error : TransportError}
    {tried' : Tried} (h : Keeps tried given) {refused : Bool}
    (hrefused : error.error.isNotACommitteeMember = refused)
    (hall : tried'.everyOneRefused = (tried.everyOneRefused && refused))
    (hlast : tried'.lastError = some error.error) :
    Keeps tried' (given ++ [.error error]) where
  refused := by
    have hone : KeyRefused (D := D) (.error error) ↔ refused = true := by
      constructor
      · rintro ⟨error', heq, hmark⟩
        cases heq
        exact hrefused.symm.trans hmark
      · intro htrue
        exact ⟨error, rfl, hrefused.trans htrue⟩
    simp only [hall, List.forall_mem_append, List.forall_mem_singleton, Bool.and_eq_true,
      h.refused, hone]
  last error' heq := by
    obtain rfl := Option.some.inj (hlast.symm.trans heq)
    exact ⟨error, List.getLast?_concat, rfl⟩
  none_last heq := by
    rw [hlast] at heq
    cases heq

end Calls

/-! ## Submissions and reads -/

section Client

variable {client : DWalletGrpcClient} {tr : List (FailoverEvent Q D)} {r : Except ClientError D}

/-- The validators of a client by their indexes, from one on and wrapping around. -/
def turns (client : DWalletGrpcClient) (start : ℕ) : List ℕ :=
  let indexes := List.range (client.furtherValidatorCount + 1)
  indexes.drop start ++ indexes.take start

theorem turns_nodup (client : DWalletGrpcClient) (start : ℕ) : (turns client start).Nodup := by
  have hsplit := List.take_append_drop start (List.range (client.furtherValidatorCount + 1))
  have hperm := List.perm_append_comm.trans (.of_eq hsplit)
  exact hperm.nodup_iff.mpr List.nodup_range

/-- A submission copies the bytes it is given, and then goes on in turn with them. -/
def SubmitsInTurn (client : DWalletGrpcClient) (userSignature signedRequestData : ArrayRef)
    (timeoutMs : ℤ) (left : Prog (failoverInterface Q D) (Except ClientError D))
    (tr : List (FailoverEvent Q D)) : Prop :=
  ((∀ r, left ≠ .pure r) ∧ ∀ e ∈ tr, considers e = none ∧ answerOf e = none) ∨
    ∃ signature data now rest, tr = ⟨.contents userSignature, signature⟩ ::
      ⟨.contents signedRequestData, data⟩ :: ⟨.now, now⟩ :: rest ∧
      InTurn SentOn (.submitTransaction ⟨signature, data⟩) (now + timeoutMs) (turns client 0)
        left rest

variable {left : Prog (failoverInterface Q D) (Except ClientError D)}

/-- A submission considers each validator once. -/
theorem SubmitsInTurn.once {userSignature signedRequestData : ArrayRef} {timeoutMs : ℤ}
    (h : SubmitsInTurn client userSignature signedRequestData timeoutMs left tr) :
    (tr.filterMap considers).Nodup := by
  rcases h with ⟨-, hnone⟩ | ⟨_, _, _, rest, rfl, hturn⟩
  · have hconsiders : tr.filterMap considers = [] :=
      List.filterMap_eq_nil_iff.mpr fun e he => (hnone e he).1
    rw [hconsiders]
    exact List.nodup_nil
  · exact hturn.once (turns_nodup client 0)

theorem SubmitsInTurn.made {userSignature signedRequestData : ArrayRef} {timeoutMs : ℤ}
    (h : SubmitsInTurn client userSignature signedRequestData timeoutMs left tr) : Made tr := by
  rcases h with ⟨-, hnone⟩ | ⟨_, _, _, rest, rfl, hturn⟩
  · rintro front index request deadline answer rest rfl
    obtain ⟨-, hanswer⟩ := hnone _ (List.mem_append_right front List.mem_cons_self)
    cases hanswer
  · exact ((hturn.made.other rfl).other rfl).other rfl

end Client

/-! ## The submission across epochs -/

section AcrossEpochs

variable {request : SubmitTransactionRequest} {deadline : ℤ} {order : List ℕ} {tried : Tried}
  {tr : List (FailoverEvent Q TransactionResponseData)}
  {r : Except ClientError TransactionResponseData}

/-- The call of a validator in the program that is carried across epochs, with its answer. -/
def unaryOf : Event callInterface → Option (ℕ × Except Thrown TransactionResponseData)
  | ⟨.unary index _ _, answer⟩ => some (index, answer)
  | _ => none

def calledOf : FailoverEvent Q TransactionResponseData →
    Option (ℕ × Except Thrown TransactionResponseData)
  | ⟨.answered index _ _, answer⟩ => some (index, answer.mapError TransportError.error)
  | _ => none

theorem gives_isRefused_none (index : ℕ) :
    Gives (isRefused index) [⟨.refusedAt index, none⟩] false :=
  gives_bind_iff.mpr ⟨[_], [], none, rfl, gives_liftOp_iff.mpr rfl, gives_pure_iff.mpr ⟨rfl, rfl⟩⟩

theorem gives_isRefused_young (index : ℕ) :
    Gives (isRefused index) [⟨.refusedAt index, some 0⟩, ⟨.monotonicNow, (0 : ℤ)⟩] true := by
  refine gives_bind_iff.mpr ⟨[_], [_], some 0, rfl, gives_liftOp_iff.mpr rfl, ?_⟩
  exact gives_bind_iff.mpr ⟨[_], [], (0 : ℤ), rfl, gives_liftOp_iff.mpr rfl,
    gives_pure_iff.mpr ⟨rfl, rfl⟩⟩

theorem ends_submitTo_called {index : ℕ} {answer : Except Thrown TransactionResponseData}
    {noted : List (Event callInterface)} {next : Except Thrown (Tried ⊕ TransactionResponseData)}
    (h : Eff.Ends (afterValidatorAnswer index tried answer) noted next) :
    Eff.Ends (submitTo request deadline index tried)
      (⟨.refusedAt index, none⟩ :: ⟨.unary index request deadline, answer⟩ :: noted) next := by
  have hcalled : Eff.Ends
      (tell (.unary index request deadline) >>= afterValidatorAnswer index tried)
      ([⟨.unary index request deadline, answer⟩] ++ noted) next :=
    Gives.bind_ends (gives_liftOp_iff.mpr rfl) h
  exact (gives_isRefused_none index).bind_ends hcalled

theorem not_submitGoesOn_iff {error : Thrown} : submitGoesOn error = false ↔
    error.code ≠ some GrpcStatus.unavailable ∨ error.isEpochClosingRefusal = true := by
  rw [submitGoesOn, Bool.and_eq_false_iff, decide_eq_false_iff_not, Bool.not_eq_false']

/-- What an error leaves here, it leaves there. -/
theorem ends_afterValidatorError {index : ℕ} {error : Thrown} {next : Except ClientError Tried}
    {noted : List (FailoverEvent Q TransactionResponseData)}
    (h : Eff.Ends (afterError submitGoesOn index tried error) noted next) :
    ∃ noted', Eff.Ends (afterValidatorError index tried error) noted'
        (next.mapError ClientError.toThrown) ∧ noted'.filterMap unaryOf = [] ∧
      noted.filterMap calledOf = [] := by
  rcases ends_afterError h with ⟨hgoes, hmark, rfl, rfl⟩ | ⟨hgoes, hmark, rfl, rfl⟩ |
    ⟨hstops, rfl, rfl⟩
  · have hnot : ¬(error.code ≠ some GrpcStatus.unavailable ∨
        error.isEpochClosingRefusal = true) := fun hor =>
      Bool.false_ne_true ((not_submitGoesOn_iff.mpr hor).symm.trans hgoes)
    refine ⟨[⟨.monotonicNow, (0 : ℤ)⟩, ⟨.refuse index 0, ()⟩], ?_, rfl, rfl⟩
    rw [afterValidatorError, if_neg hnot, if_pos hmark]
    have htime : Gives (tell .monotonicNow) [⟨.monotonicNow, (0 : ℤ)⟩] (0 : ℤ) :=
      gives_liftOp_iff.mpr rfl
    have hrefuse : Gives (tell (.refuse index 0)) [⟨.refuse index 0, ()⟩] () :=
      gives_liftOp_iff.mpr rfl
    exact htime.bind_ends (hrefuse.bind_ends (Prog.returns_pure_iff.mpr ⟨rfl, rfl⟩))
  · have hnot : ¬(error.code ≠ some GrpcStatus.unavailable ∨
        error.isEpochClosingRefusal = true) := fun hor =>
      Bool.false_ne_true ((not_submitGoesOn_iff.mpr hor).symm.trans hgoes)
    refine ⟨[], ?_, rfl, rfl⟩
    rw [afterValidatorError, if_neg hnot, if_neg (Bool.eq_false_iff.mp hmark)]
    exact Prog.returns_pure_iff.mpr ⟨rfl, rfl⟩
  · refine ⟨[], ?_, rfl, rfl⟩
    rw [afterValidatorError, if_pos (not_submitGoesOn_iff.mp hstops)]
    exact Prog.returns_pure_iff.mpr ⟨rfl, rfl⟩

/-- Every run here is one of the submission that is carried across epochs, with the same calls. -/
theorem submitToEach_of_callInTurn
    (h : Eff.Ends (callInTurn submitGoesOn (.submitTransaction request) deadline order tried) tr
      r) :
    ∃ tr', Eff.Ends (submitToEach request deadline order tried) tr'
        (r.mapError ClientError.toThrown) ∧
      tr'.filterMap unaryOf = tr.filterMap calledOf := by
  induction order generalizing tried tr with
  | nil =>
    obtain ⟨rfl, rfl⟩ := Prog.returns_pure_iff.mp h
    refine ⟨[], ?_, rfl⟩
    have hfailure : (failure tried).toThrown = tried.error := by
      unfold failure Tried.error
      split_ifs <;> rfl
    exact Prog.returns_pure_iff.mpr ⟨rfl, by rw [← hfailure]; rfl⟩
  | cons index order ih =>
    obtain ⟨free, rest, rfl, hrest⟩ := ends_liftOp_bind h
    cases free with
    | false =>
      obtain ⟨tr', hends, hcalls⟩ := ih hrest
      have hpassed : Gives (submitTo request deadline index tried)
          [⟨.refusedAt index, some 0⟩, ⟨.monotonicNow, (0 : ℤ)⟩] (.inl tried) :=
        gives_bind_iff.mpr ⟨_, [], true, rfl, gives_isRefused_young index,
          gives_pure_iff.mpr ⟨rfl, rfl⟩⟩
      exact ⟨_, hpassed.bind_ends hends, hcalls⟩
    | true =>
      obtain ⟨answer, rest, rfl, hafter⟩ := ends_liftOp_bind hrest
      cases answer with
      | ok answer =>
        obtain ⟨rfl, rfl⟩ := Prog.returns_pure_iff.mp hafter
        have hanswer : Eff.Ends (afterValidatorAnswer index tried (.ok answer)) []
            (.ok (.inr answer)) := Prog.returns_pure_iff.mpr ⟨rfl, rfl⟩
        have hcalled : Gives (submitTo request deadline index tried) _ (.inr answer) :=
          ends_submitTo_called hanswer
        exact ⟨_, hcalled.bind_ends (Prog.returns_pure_iff.mpr ⟨rfl, rfl⟩), rfl⟩
      | error error =>
        rcases hafter.bind_cases with
          ⟨e, rfl, hthrows⟩ | ⟨noted, rest, tried', rfl, hnoted, hlater⟩
        · obtain ⟨noted', hends, hnone, hnone'⟩ := ends_afterValidatorError hthrows.ends
          have hanswer : Throws (afterValidatorAnswer index tried (.error error.error)) noted'
              e.toThrown := throws_bind_iff.mpr (.inl hends)
          have hcalled : Throws (submitTo request deadline index tried) _ e.toThrown :=
            ends_submitTo_called hanswer.ends
          refine ⟨_, (throws_bind_iff.mpr (.inl hcalled)).ends, ?_⟩
          have hcalls : (index, (Except.error error.error : Except Thrown _)) ::
                noted'.filterMap unaryOf =
              (index, .error error.error) :: rest.filterMap calledOf := by
            rw [hnone, hnone']
          exact hcalls
        · obtain ⟨noted', hends, hnone, hnone'⟩ := ends_afterValidatorError hnoted.ends
          obtain ⟨tr', hrun, hcalls⟩ := ih hlater
          have hanswer : Eff.Ends (afterValidatorAnswer index tried (.error error.error))
              (noted' ++ []) (.ok (.inl tried')) :=
            Gives.bind_ends hends (Prog.returns_pure_iff.mpr ⟨rfl, rfl⟩)
          have hcalled : Gives (submitTo request deadline index tried) _ (.inl tried') :=
            ends_submitTo_called hanswer
          refine ⟨_, hcalled.bind_ends hrun, ?_⟩
          have hsame : (index, (Except.error error.error : Except Thrown _)) ::
              (noted' ++ [] ++ tr').filterMap unaryOf =
                (index, .error error.error) :: (noted ++ rest).filterMap calledOf := by
            rw [List.append_nil, List.filterMap_append, List.filterMap_append, hnone, hnone',
              hcalls]
          exact hsame

end AcrossEpochs

/-! ## All calls of one client -/

section Worlds

variable {client : DWalletGrpcClient}
  {w w' : Interaction.World (failoverInterface Q D) Refusals (Except ClientError D)}

/-- The record holds the last refusal of each validator, and nothing is in the future. -/
structure Recorded (w : Interaction.World (failoverInterface Q D) Refusals (Except ClientError D)) :
    Prop where
  kept : ∀ e ∈ w.log, ∀ index, e.event.op = .refuse index →
    ∃ time, w.shared index = some time ∧ e.time ≤ time
  recorded : ∀ index time, w.shared index = some time →
    ∃ e ∈ w.log, e.event.op = .refuse index ∧ e.time = time
  past : ∀ e ∈ w.log, e.time ≤ w.time

theorem Recorded.refuse (h : Recorded w) {index i : ℕ} {t : Task (failoverInterface Q D) _}
    {left : Prog (failoverInterface Q D) (Except ClientError D)} :
    Recorded (w.goneOn i t ⟨.refuse index, ()⟩ left
      (Function.update w.shared index (some w.time))) where
  kept e he index' hop := by
    change ∃ time, Function.update w.shared index (some w.time) index' = some time ∧ e.time ≤ time
    rcases List.mem_append.mp he with hearlier | hlast
    · obtain ⟨time, htime, hle⟩ := h.kept e hearlier index' hop
      have hpast := h.past e hearlier
      rw [Function.update_apply]
      split_ifs
      · exact ⟨w.time, rfl, hpast⟩
      · exact ⟨time, htime, hle⟩
    · obtain rfl := List.mem_singleton.mp hlast
      cases hop
      exact ⟨w.time, Function.update_self .., le_refl _⟩
  recorded index' time htime := by
    change Function.update w.shared index (some w.time) index' = some time at htime
    rw [Function.update_apply] at htime
    split_ifs at htime with hsame
    · have heq := Option.some.inj htime
      exact ⟨⟨i, w.time, ⟨.refuse index, ()⟩⟩, by simp [Interaction.World.goneOn], hsame ▸ rfl, heq⟩
    · obtain ⟨e, he, hop, heq⟩ := h.recorded index' time htime
      exact ⟨e, List.mem_append_left _ he, hop, heq⟩
  past e he := by
    rcases List.mem_append.mp he with hearlier | hlast
    · exact h.past e hearlier
    · obtain rfl := List.mem_singleton.mp hlast
      exact le_refl _

/-- An operation that records no refusal leaves the record as it is. -/
theorem Recorded.other (h : Recorded w) {i : ℕ} {e : FailoverEvent Q D}
    {t : Task (failoverInterface Q D) _}
    {left : Prog (failoverInterface Q D) (Except ClientError D)}
    (hother : ∀ index, e.op ≠ .refuse index) : Recorded (w.goneOn i t e left w.shared) where
  kept e' he index hop := by
    rcases List.mem_append.mp he with he | he
    · exact h.kept e' he index hop
    · obtain rfl := List.mem_singleton.mp he
      exact absurd hop (hother index)
  recorded index time htime := by
    obtain ⟨e', he, hop, heq⟩ := h.recorded index time htime
    exact ⟨e', List.mem_append_left _ he, hop, heq⟩
  past e' he := by
    rcases List.mem_append.mp he with he | he
    · exact h.past e' he
    · obtain rfl := List.mem_singleton.mp he
      exact le_refl _

variable {programs : Prog (failoverInterface Q D) (Except ClientError D) → Prop}

end Worlds

def sampleRefusal : TransportError where
  error := .call (refusedKey "validator:1" (.anotherKey [1] [2]))
  marked _ := ⟨_, _, rfl⟩

/-- Every validator serves another key. -/
def sampleRefusals : ∀ op : FailoverOp Unit, op.Ans Bytes
  | .now => (0 : ℤ)
  | .contents _ => []
  | .start .. => true
  | .answered .. => .error sampleRefusal
  | .refuse _ => ()

end Ika.Failover
