import IkaSdk.Core.Common.OwnPresigns
import IkaSdk.Core.Common.Resends

/-! The age of an ownership check at each attempt of the call that made it. The check is made
once, and its age is read where an attempt signs or builds its request, so an attempt that comes
too late after the check is refused there. -/

namespace Ika

open Wire Interaction Eff

variable {H : Type}

/-! ## Refusals for age -/

/-- The refusal of a usability result of that age. -/
def staleResult (age : ℤ) : SdkError :=
  .dwalletUsabilityNotChecked
    (s!"the usability result is {age} ms old, over the {dwalletUsableMaxAgeMs} ms a " ++
      "result may be reused; run assertDWalletUsable again")

theorem requireUsableAge_late {age : ℤ} (h : dwalletUsableMaxAgeMs < age) :
    requireUsableAge age = .error (staleResult age) := by
  unfold requireUsableAge ensure
  rw [if_neg (not_le.mpr h)]
  rfl

/-- What an event shows of the clock. -/
def clockShown {T : Type} : EngineEvent T H → Option ℤ
  | ⟨.now, t⟩ => some t
  | _ => none

/-- What the clock showed where it was read, in order. -/
def clockReads {T : Type} (tr : List (EngineEvent T H)) : List ℤ := tr.filterMap clockShown

/-- Nothing was sent, and the events end where the clock shows that the check is too old, with
the refusal for it. -/
def RefusedStale {α : Type} (verifiedAt : ℤ) (tr : List (EngineEvent Unit H))
    (r : Except (EngineError Unit) α) : Prop :=
  copies tr = [] ∧ ∃ (before : List (EngineEvent Unit H)) (t : ℤ), tr = before ++ [⟨.now, t⟩] ∧
    dwalletUsableMaxAgeMs < t - verifiedAt ∧ r = .error (.sdk (staleResult (t - verifiedAt)))

/-- The check is not too old yet at the first reading of the clock, if there is one. -/
def CheckInTime (verifiedAt : ℤ) (tr : List (EngineEvent Unit H)) : Prop :=
  ∀ t ∈ (clockReads tr).head?, t - verifiedAt ≤ dwalletUsableMaxAgeMs

/-! ## How a run decides by the age -/

section Ages

variable {α β : Type} {verifiedAt : ℤ} {tr tr' : List (EngineEvent Unit H)}

@[simp] theorem clockReads_append (tr tr' : List (EngineEvent Unit H)) :
    clockReads (tr ++ tr') = clockReads tr ++ clockReads tr' := List.filterMap_append

@[simp] theorem clockReads_now (t : ℤ) (tr : List (EngineEvent Unit H)) :
    clockReads ((⟨.now, t⟩ : EngineEvent Unit H) :: tr) = t :: clockReads tr := rfl

/-- The clock is not read, and nothing is sent. -/
def Unclocked (tr : List (EngineEvent Unit H)) : Prop := clockReads tr = [] ∧ copies tr = []

theorem appendable_unclocked : Appendable (Unclocked (H := H)) where
  nil := ⟨rfl, rfl⟩
  append h h' := by
    constructor
    · rw [clockReads_append, h.1, h'.1, List.append_nil]
    · rw [copies_append, h.2, h'.2, List.append_nil]

/-- How a run goes by the age of the check: it fails before the clock is read, it is refused
where the check is too old, or it goes on, and reads the clock again only where it sends. -/
inductive DecidedByAge (verifiedAt : ℤ) :
    List (EngineEvent Unit H) → Except (EngineError Unit) α → Prop
  | unread {tr : List (EngineEvent Unit H)} {e : EngineError Unit} : clockReads tr = [] →
      DecidedByAge verifiedAt tr (.error e)
  | late {before : List (EngineEvent Unit H)} {t : ℤ} : Unclocked before →
      dwalletUsableMaxAgeMs < t - verifiedAt →
      DecidedByAge verifiedAt (before ++ [⟨.now, t⟩])
        (.error (.sdk (staleResult (t - verifiedAt))))
  | inTime {before after : List (EngineEvent Unit H)} {t : ℤ}
      {r : Except (EngineError Unit) α} : clockReads before = [] →
      t - verifiedAt ≤ dwalletUsableMaxAgeMs →
      (copies (before ++ ⟨.now, t⟩ :: after) ≠ [] ∨ clockReads after = []) →
      DecidedByAge verifiedAt (before ++ ⟨.now, t⟩ :: after) r

/-- Such a run is not refused for the age of the check exactly where the check is in time. -/
theorem DecidedByAge.not_refused_iff {r : Except (EngineError Unit) α}
    (h : DecidedByAge verifiedAt tr r) :
    ¬RefusedStale verifiedAt tr r ↔ CheckInTime verifiedAt tr := by
  cases h with
  | unread hunread =>
    refine iff_of_true ?_ ?_
    · rintro ⟨-, before, t, rfl, -, -⟩
      simp at hunread
    · intro t ht
      rw [hunread] at ht
      cases ht
  | @late before t hbefore hlate =>
    refine iff_of_false (not_not_intro ?_) fun hintime => ?_
    · refine ⟨?_, before, t, rfl, hlate, rfl⟩
      rw [copies_append, hbefore.2]
      rfl
    · refine absurd (hintime t ?_) (not_le.mpr hlate)
      rw [clockReads_append, hbefore.1]
      rfl
  | @inTime before after t r hbefore hintime hsent =>
    refine iff_of_true ?_ ?_
    · rintro ⟨hnothing, before', t', heq, hlate, -⟩
      have hafter : clockReads after = [] := hsent.resolve_left (not_not_intro hnothing)
      -- The clock was read once, so its last reading is its first.
      have hreads := congrArg clockReads heq
      rw [clockReads_append, clockReads_append, clockReads_now, hbefore, hafter] at hreads
      obtain ⟨-, hlast⟩ := List.append_inj' hreads rfl
      obtain rfl : t = t' := List.singleton_inj.mp hlast
      exact absurd hintime (not_le.mpr hlate)
    · intro t' ht'
      rw [clockReads_append, hbefore, clockReads_now] at ht'
      obtain rfl := Option.some.inj ht'
      exact hintime

theorem DecidedByAge.read {r : Except (EngineError Unit) α} {t : ℤ}
    (h : t - verifiedAt ≤ dwalletUsableMaxAgeMs) :
    DecidedByAge (H := H) verifiedAt [⟨.now, t⟩] r :=
  @DecidedByAge.inTime H α verifiedAt [] [] t r rfl h (.inr rfl)

theorem DecidedByAge.prepend {r : Except (EngineError Unit) α} (hfirst : Unclocked tr')
    (h : DecidedByAge verifiedAt tr r) : DecidedByAge verifiedAt (tr' ++ tr) r := by
  cases h with
  | unread hunread =>
    apply DecidedByAge.unread
    rw [clockReads_append, hfirst.1, hunread, List.append_nil]
  | late hbefore hlate =>
    rw [← List.append_assoc]
    exact .late (appendable_unclocked.append hfirst hbefore) hlate
  | inTime hbefore hintime hsent =>
    rw [← List.append_assoc]
    refine .inTime ?_ hintime ?_
    · rw [clockReads_append, hfirst.1, hbefore, List.append_nil]
    · rwa [List.append_assoc, copies_append, hfirst.2]

/-- What follows where the check was in time: it sends, or leaves the clock alone. -/
def SendsOrUnread (tr : List (EngineEvent Unit H)) : Prop := copies tr ≠ [] ∨ clockReads tr = []

theorem SendsOrUnread.append (h : SendsOrUnread tr) (h' : SendsOrUnread tr') :
    SendsOrUnread (tr ++ tr') := by
  unfold SendsOrUnread
  rw [copies_append, clockReads_append, ne_eq, List.append_eq_nil_iff, List.append_eq_nil_iff]
  rcases h with hsent | hunread
  · exact .inl fun hnone => hsent hnone.1
  · rcases h' with hsent | hunread'
    · exact .inl fun hnone => hsent hnone.2
    · exact .inr ⟨hunread, hunread'⟩

theorem Unclocked.sendsOrUnread (h : Unclocked tr) : SendsOrUnread tr := .inr h.1

/-- An error ends what follows it too. -/
theorem DecidedByAge.error {e : EngineError Unit}
    (h : DecidedByAge (α := α) verifiedAt tr (.error e)) :
    DecidedByAge (α := β) verifiedAt tr (.error e) := by
  cases h with
  | unread hunread => exact .unread hunread
  | late hbefore hlate => exact .late hbefore hlate
  | inTime hbefore hintime hsent => exact .inTime hbefore hintime hsent

/-- What was decided in time stays so whatever is sent after. -/
theorem DecidedByAge.ok {a : α} {r : Except (EngineError Unit) β}
    (h : DecidedByAge verifiedAt tr (.ok a)) (hrest : SendsOrUnread tr') :
    DecidedByAge verifiedAt (tr ++ tr') r := by
  cases h with
  | inTime hbefore hintime hsent =>
    rw [List.append_assoc, List.cons_append]
    refine .inTime hbefore hintime ?_
    rw [← List.cons_append, ← List.append_assoc, copies_append, clockReads_append, ne_eq,
      List.append_eq_nil_iff, List.append_eq_nil_iff]
    rcases hsent with hsent | hunread
    · exact .inl fun hnone => hsent hnone.1
    · rcases hrest with hsent | hunread'
      · exact .inl fun hnone => hsent hnone.2
      · exact .inr ⟨hunread, hunread'⟩

/-- What was sent after the clock was read was decided in time. -/
theorem DecidedByAge.sent {r : Except (EngineError Unit) α}
    (h : DecidedByAge verifiedAt tr r) (hcopies : copies tr ≠ []) (hreads : clockReads tr ≠ [])
    (tr' : List (EngineEvent Unit H)) (r' : Except (EngineError Unit) β) :
    DecidedByAge verifiedAt (tr ++ tr') r' := by
  cases h with
  | unread hunread => exact absurd hunread hreads
  | late hbefore hlate =>
    refine absurd ?_ hcopies
    rw [copies_append, hbefore.2]
    rfl
  | inTime hbefore hintime hsent =>
    rw [List.append_assoc, List.cons_append]
    refine .inTime hbefore hintime (.inl ?_)
    rw [← List.cons_append, ← List.append_assoc, copies_append]
    exact List.append_ne_nil_of_left_ne_nil hcopies _

/-- Every run that ended is decided by the age of the check. -/
def AgeChecked (verifiedAt : ℤ) (p : EngineEff Unit H α) : Prop :=
  ∀ tr r, Ends p tr r → DecidedByAge verifiedAt tr r

/-- Every run that ended read the clock only where it sent something. -/
def ReadsToSend (p : EngineEff Unit H α) : Prop := ∀ tr r, Ends p tr r → SendsOrUnread tr

theorem readsToSend_of {p : EngineEff Unit H α} (hp : Always Unclocked p) : ReadsToSend p :=
  fun tr _ h => (hp tr h.begins).sendsOrUnread

theorem readsToSend_bind {p : EngineEff Unit H α} {f : α → EngineEff Unit H β}
    (hp : ReadsToSend p) (hf : ∀ tr a, Gives p tr a → ReadsToSend (f a)) :
    ReadsToSend (p >>= f) := by
  intro tr r h
  rcases h.bind_cases with ⟨e, rfl, hthrows⟩ | ⟨tr₁, tr₂, a, rfl, hgives, hrest⟩
  · exact hp tr _ hthrows.ends
  · exact (hp tr₁ _ hgives.ends).append (hf tr₁ a hgives tr₂ r hrest)

theorem ageChecked_after {p : EngineEff Unit H α} {f : α → EngineEff Unit H β}
    (hp : Always Unclocked p) (hf : ∀ tr a, Gives p tr a → AgeChecked verifiedAt (f a)) :
    AgeChecked verifiedAt (p >>= f) := by
  intro tr r h
  rcases h.bind_cases with ⟨e, rfl, hthrows⟩ | ⟨tr₁, tr₂, a, rfl, hgives, hrest⟩
  · exact .unread (hp tr hthrows.begins).1
  · exact (hf tr₁ a hgives tr₂ r hrest).prepend (hp tr₁ hgives.begins)

theorem ageChecked_bind {p : EngineEff Unit H α} {f : α → EngineEff Unit H β}
    (hp : AgeChecked verifiedAt p) (hf : ∀ tr a, Gives p tr a → ReadsToSend (f a)) :
    AgeChecked verifiedAt (p >>= f) := by
  intro tr r h
  rcases h.bind_cases with ⟨e, rfl, hthrows⟩ | ⟨tr₁, tr₂, a, rfl, hgives, hrest⟩
  · exact (hp tr _ hthrows.ends).error
  · exact (hp tr₁ _ hgives.ends).ok (hf tr₁ a hgives tr₂ r hrest)

end Ages

/-! ## What is sent -/

section Sending

variable {α : Type} {P : Primitives} {network : Network} {requester : Requester} {epoch fuel : ℕ}
  {tr tr' : List (EngineEvent Unit H)}

/-- Something is sent, after the clock was read. -/
def Sends (tr : List (EngineEvent Unit H)) : Prop := copies tr ≠ [] ∧ clockReads tr ≠ []

theorem Sends.append_left (h : Sends tr) (tr' : List (EngineEvent Unit H)) :
    Sends (tr ++ tr') := by
  constructor
  · rw [copies_append]
    exact List.append_ne_nil_of_left_ne_nil h.1 _
  · rw [clockReads_append]
    exact List.append_ne_nil_of_left_ne_nil h.2 _

theorem Sends.append_right (tr : List (EngineEvent Unit H)) (h : Sends tr') :
    Sends (tr ++ tr') := by
  constructor
  · rw [copies_append]
    exact List.append_ne_nil_of_right_ne_nil _ h.1
  · rw [clockReads_append]
    exact List.append_ne_nil_of_right_ne_nil _ h.2

theorem sends_sendUntilAnswered {signed : SignedRequest}
    {r : Except (EngineError Unit) TransactionResponseData}
    (h : Ends (sendUntilAnswered (H := H) signed fuel) tr r) : Sends tr := by
  obtain ⟨start, tr₁, rfl, hsend⟩ := ends_perform h
  cases fuel with
  | zero =>
    obtain ⟨-, hcut⟩ := Prog.run_cut_iff.mp hsend
    cases hcut
  | succ fuel =>
    obtain ⟨now, tr₂, rfl, hsubmit⟩ := ends_perform hsend
    obtain ⟨outcome, tr₃, rfl, -⟩ := ends_perform hsubmit
    constructor
    · apply List.cons_ne_nil
    · apply List.cons_ne_nil

/-- However the sending of a signed request ends, the request was sent. -/
theorem sends_sendSigned {sent : Sent Unit} {signed : SignedRequest}
    {r : Except (EngineError Unit) (TransactionResponseData × Sent Unit)}
    (h : Ends (sendSigned (H := H) sent signed fuel) tr r) : Sends tr := by
  have hcopies : ∀ {tr r}, Ends (do
      resendWhileDepositUnread (← sendUntilAnswered (T := Unit) (H := H) signed fuel) signed
        fuel) tr r → Sends tr := by
    intro tr r h
    rcases h.bind_cases with ⟨e, rfl, hthrows⟩ | ⟨tr₁, tr₂, a, rfl, hgives, -⟩
    · exact sends_sendUntilAnswered hthrows.ends
    · exact (sends_sendUntilAnswered hgives.ends).append_left _
  have hcaught : ∀ {tr r}, Ends (tryCatch (do
      resendWhileDepositUnread (← sendUntilAnswered (T := Unit) (H := H) signed fuel) signed
        fuel) fun error => throw (closedByRefusal sent error)) tr r → Sends tr := by
    intro tr r h
    rcases h.tryCatch_cases with ⟨a, rfl, hgives⟩ | ⟨tr₁, tr₂, e, rfl, hthrows, -⟩
    · exact hcopies hgives.ends
    · exact (hcopies hthrows.ends).append_left _
  rcases h.bind_cases with ⟨e, rfl, hthrows⟩ | ⟨tr₁, tr₂, a, rfl, hgives, -⟩
  · exact hcaught hthrows.ends
  · exact (hcaught hgives.ends).append_left _

variable {sign : SignedRequestData → EngineEff Unit H SignedRequest}
  {build : ℕ → Bytes → EngineEff Unit H (BuiltRequest Unit)}

/-- A request whose epoch closed was sent. -/
theorem sends_of_closed {sent : Sent Unit} {refusal : String}
    (hbuild : ∀ session, ThrowsOnly IsSdk (build epoch session))
    (hsign : ∀ data, ThrowsOnly IsSdk (sign data))
    (h : Throws (signAndSend P network requester epoch sign build fuel) tr
      (.closedBeforeAnswer sent refusal)) : Sends tr := by
  rcases ends_signAndSend h.ends with ⟨e, heq, hthrows⟩ | ⟨tr₁, tr₂, sent', signed, rfl, -, hsend⟩
  · have hsdk : ThrowsOnly IsSdk (signedOnce P network requester epoch sign build) := by
      refine throwsOnly_bind (throwsOnly_perform _) fun preimage => ?_
      refine throwsOnly_bind (hbuild _) fun built => ?_
      exact throwsOnly_bind (hsign _) fun signed => throwsOnly_pure _
    obtain ⟨error, rfl⟩ := hsdk tr e hthrows
    cases heq
  · exact (sends_sendSigned hsend).append_right _

end Sending

/-! ## The signing of a sign -/

section Signing

variable {P : Primitives} {issued : List IssuedState} {usable : DWalletUsableOf}
  {state : IssuedState} {data : SignedRequestData} {tr : List (EngineEvent Unit H)}
  {es : List (Event (ownershipInterface H))}

theorem implements_answered {op : OwnershipOp H} {a b : op.Ans}
    (hop : usableAnswers (H := H) (T := Unit) data usable op = .pure b)
    (h : Prog.Implements (usableAnswers data usable) (⟨op, a⟩ :: es) tr) :
    a = b ∧ Prog.Implements (usableAnswers data usable) es tr := by
  cases h with
  | cons hfirst hrest =>
    rw [hop] at hfirst
    obtain ⟨rfl, rfl⟩ := Prog.returns_pure_iff.mp hfirst
    exact ⟨rfl, hrest⟩

theorem implements_nil (h : @Prog.Implements (ownershipInterface H) (engineInterface Unit H)
    (usableAnswers data usable) [] tr) : tr = [] := by
  cases h
  rfl

theorem implements_now {t : ℤ}
    (h : @Prog.Implements (ownershipInterface H) (engineInterface Unit H)
      (usableAnswers data usable) (⟨.now, t⟩ :: es) tr) :
    ∃ rest, tr = ⟨.now, t⟩ :: rest ∧ @Prog.Implements (ownershipInterface H)
      (engineInterface Unit H) (usableAnswers data usable) es rest := by
  cases h with
  | cons hfirst hrest =>
    obtain ⟨_, _, rfl, hlast⟩ := Prog.returns_call_iff.mp hfirst
    obtain ⟨rfl, rfl⟩ := Prog.returns_pure_iff.mp hlast
    exact ⟨_, rfl, hrest⟩

theorem ends_getSigningPublicKeyBytes {α : Type} {f : Bytes → OwnershipEff H α}
    {r : Except SdkError α} (h : Ends (getSigningPublicKeyBytes >>= f) es r) :
    ∃ answer rest, es = ⟨.getSigningPublicKeyBytes, answer⟩ :: rest ∧
      ∀ key, answer = .ok key → Ends (f key) rest r := by
  obtain ⟨tr₁, tr₂, answer, rfl, hcall, hrest⟩ := Prog.returns_bind_iff.mp h
  obtain ⟨_, _, rfl, hlast⟩ := Prog.returns_call_iff.mp hcall
  obtain ⟨rfl, rfl⟩ := Prog.returns_pure_iff.mp hlast
  refine ⟨_, tr₂, rfl, ?_⟩
  rintro key rfl
  exact hrest

/-- The check of an earlier result reads the clock once at most. -/
theorem ends_requireUsableFor (hstate : issuedGet issued usable.object = some state)
    {attestation : DWalletAttestation} {attestationData networkPublicKey userKey : Bytes}
    {r : Except SdkError Unit}
    (h : Ends (requireUsableFor (H := H) issued usable.object attestation attestationData
      networkPublicKey userKey) es r) :
    (es = [] ∧ ∃ e, r = .error e) ∨ ∃ t, es = [⟨.now, t⟩] ∧
      r = requireUsableAge (t - state.verifiedAt) := by
  unfold requireUsableFor at h
  rw [hstate] at h
  rcases ends_lift_bind h with ⟨e, -, rfl, rfl⟩ | ⟨_, -, hnow⟩
  · exact .inl ⟨rfl, e, rfl⟩
  obtain ⟨t, rest, rfl, hage⟩ := ends_liftOp_bind hnow
  obtain ⟨rfl, rfl⟩ := Prog.returns_pure_iff.mp hage
  exact .inr ⟨t, rfl, rfl⟩

/-- The signing of a sign request reads the clock once at most, and refuses a result that is
too old then. -/
theorem ends_signWithUsable (hstate : issuedGet issued usable.object = some state)
    {keypair : TransportKeypair} {r : Except (EngineError Unit) SignedRequest}
    (h : Ends (signWithUsable P issued usable keypair data) tr r) :
    (tr = [] ∧ ∃ e, r = .error e) ∨
      ∃ t, tr = [⟨.now, t⟩] ∧ (dwalletUsableMaxAgeMs < t - state.verifiedAt →
        r = .error (.sdk (staleResult (t - state.verifiedAt)))) := by
  obtain ⟨tr, tr₂, outcome, rfl, hinterp, hlast⟩ := Prog.returns_bind_iff.mp h
  obtain ⟨rfl, rfl⟩ := Prog.returns_pure_iff.mp hlast
  rw [List.append_nil]
  obtain ⟨es, hrun, himplements⟩ := Prog.returns_interp hinterp
  obtain ⟨signedData, es₁, rfl, hprepare⟩ := ends_liftOp_bind hrun
  obtain ⟨-, hprepared⟩ := implements_answered rfl himplements
  rcases ends_lift_bind hprepare with ⟨e, -, rfl, rfl⟩ | ⟨prepared, -, hownership⟩
  · exact .inl ⟨implements_nil hprepared, _, rfl⟩
  obtain ⟨ownership, es₂, rfl, hchain⟩ := ends_liftOp_bind hownership
  obtain ⟨rfl, hanswered⟩ := implements_answered rfl hprepared
  rcases ends_lift_bind hchain with ⟨e, -, rfl, rfl⟩ | ⟨_, -, husable⟩
  · exact .inl ⟨implements_nil hanswered, _, rfl⟩
  rcases husable.bind_cases with
    ⟨e, rfl, hthrows⟩ | ⟨es₃, es₄, ⟨object, issued'⟩, rfl, hgives, hrest⟩
  · obtain ⟨answer, es₃, rfl, hkey⟩ := ends_getSigningPublicKeyBytes hthrows.ends
    obtain ⟨rfl, hread⟩ := implements_answered rfl hanswered
    rcases ends_lift_bind (hkey _ rfl) with ⟨e, -, rfl, -⟩ | ⟨attestation, -, hchecks⟩
    · exact .inl ⟨implements_nil hread, _, rfl⟩
    rcases hchecks.bind_cases with ⟨e', heq, hrefused⟩ | ⟨es₄, es₅, _, rfl, hpassed, hwaiting⟩
    · cases heq
      rcases ends_requireUsableFor hstate hrefused.ends with ⟨rfl, -⟩ | ⟨t, rfl, hage⟩
      · exact .inl ⟨implements_nil hread, _, rfl⟩
      · obtain ⟨rest, rfl, hnone⟩ := implements_now hread
        obtain rfl := implements_nil hnone
        refine .inr ⟨t, rfl, fun hlate => ?_⟩
        rw [requireUsableAge_late hlate] at hage
        cases hage
        rfl
    · rcases ends_requireUsableFor hstate hpassed.ends with ⟨-, e', heq⟩ | ⟨t, rfl, hage⟩
      · cases heq
      · obtain ⟨rest, rfl, hnone⟩ := implements_now hread
        obtain rfl : es₅ = [] := by
          rcases ends_lift_bind hwaiting with ⟨e, -, rfl, -⟩ | ⟨_, -, hlast⟩
          · rfl
          · exact (Prog.returns_pure_iff.mp hlast).1
        obtain rfl := implements_nil hnone
        refine .inr ⟨t, rfl, fun hlate => ?_⟩
        rw [requireUsableAge_late hlate] at hage
        cases hage
  · obtain ⟨userKey, verified, t, rfl, hverified, hreusable, rfl, rfl⟩ :=
      requireDWalletUsable_result_iff.mp hgives
    obtain rfl := Option.some.inj (hverified.symm.trans hstate)
    obtain ⟨-, hread⟩ := implements_answered rfl hanswered
    obtain ⟨rest, rfl, hnone⟩ := implements_now hread
    obtain rfl : es₄ = [] := by
      dsimp only at hrest
      rw [hverified] at hrest
      rcases ends_lift_bind hrest with ⟨e, -, rfl, -⟩ | ⟨_, -, hsign⟩
      · rfl
      · rcases ends_lift_bind hsign with ⟨e, -, rfl, -⟩ | ⟨_, -, hlast⟩
        · rfl
        · exact (Prog.returns_pure_iff.mp hlast).1
    obtain rfl := implements_nil hnone
    exact .inr ⟨t, rfl, fun hlate => absurd hlate (not_lt.mpr hreusable.age)⟩

end Signing

/-! ## One attempt -/

section Attempts

variable {α : Type} {P : Primitives} {network : Network} {connection : Connection}
  {requester : Requester} {issued : List IssuedState} {state : IssuedState} {verifiedAt : ℤ}
  {epoch fuel : ℕ} {tr : List (EngineEvent Unit H)}
  {sign : SignedRequestData → EngineEff Unit H SignedRequest}
  {build : ℕ → Bytes → EngineEff Unit H (BuiltRequest Unit)}

theorem always_unclocked_sdk (x : Except SdkError α) :
    Always Unclocked (sdk x : EngineEff Unit H α) := always_sdk appendable_unclocked x

/-- An operation that neither reads the clock nor sends. -/
theorem always_unclocked_perform {op : EngineOp Unit H} (hclock : ∀ a, clockShown ⟨op, a⟩ = none)
    (hcopy : op.copy = none) : Always Unclocked (perform op) := by
  refine always_liftOp appendable_unclocked fun a => ⟨?_, ?_⟩
  · simp [clockReads, hclock]
  · simp [copies, hcopy]

theorem always_unclocked_readChainEpoch : Always Unclocked (readChainEpoch (T := Unit) (H := H)) :=
  always_bind appendable_unclocked
    (always_bind appendable_unclocked (always_unclocked_perform (fun _ => rfl) rfl) fun read =>
      always_unclocked_sdk read)
    fun _ => always_unclocked_perform (fun _ => rfl) rfl

theorem always_unclocked_signGrpc (data : SignedRequestData) :
    Always Unclocked (signGrpc (T := Unit) (H := H) P requester data) := by
  have happend := appendable_unclocked (H := H)
  have hsign : ∀ keypair,
      Always Unclocked (signGrpcRequest (T := Unit) (H := H) P keypair data) := by
    intro keypair
    refine always_bind happend (always_unclocked_sdk _) fun _ => ?_
    refine always_bind happend (always_unclocked_perform (fun _ => rfl) rfl) fun holder => ?_
    exact always_bind happend (always_unclocked_sdk _) fun _ => always_unclocked_sdk _
  unfold signGrpc signFor
  split_ifs
  · refine always_bind happend (hsign _) fun signed => ?_
    refine always_bind happend (always_unclocked_perform (fun _ => rfl) rfl) fun signature => ?_
    exact always_bind happend (always_unclocked_sdk _) fun _ => always_unclocked_sdk _
  · exact hsign _

theorem ageChecked_signWithUsable {usable : DWalletUsableOf}
    (hstate : issuedGet issued usable.object = some state) (keypair : TransportKeypair)
    (data : SignedRequestData) :
    AgeChecked state.verifiedAt (signWithUsable (H := H) P issued usable keypair data) := by
  intro tr r h
  rcases ends_signWithUsable hstate h with ⟨rfl, e, rfl⟩ | ⟨t, rfl, hrefused⟩
  · exact .unread rfl
  · rcases lt_or_ge dwalletUsableMaxAgeMs (t - state.verifiedAt) with hlate | hintime
    · rw [hrefused hlate]
      exact .late appendable_unclocked.nil hlate
    · exact .read hintime

theorem ageChecked_signFor {sign : TransportKeypair → EngineEff Unit H SignedRequest}
    (h : ∀ keypair, AgeChecked verifiedAt (sign keypair)) :
    AgeChecked verifiedAt (signFor P requester sign) := by
  have happend := appendable_unclocked (H := H)
  unfold signFor
  split_ifs
  · refine ageChecked_bind (h _) fun _ signed _ => readsToSend_of ?_
    refine always_bind happend (always_unclocked_perform (fun _ => rfl) rfl) fun signature => ?_
    exact always_bind happend (always_unclocked_sdk _) fun _ => always_unclocked_sdk _
  · exact h _

/-- A builder that is given the moment, and refuses a check that is too old then. -/
theorem ageChecked_now {β : Type} {make : ℤ → Except SdkError α} {give : α → β}
    (hlate : ∀ t, dwalletUsableMaxAgeMs < t - verifiedAt →
      make t = .error (staleResult (t - verifiedAt))) :
    AgeChecked (H := H) verifiedAt (do
      let now ← nowMs
      let made ← sdk (make now)
      return give made) := by
  intro tr r h
  obtain ⟨t, tr₁, rfl, hmake⟩ := ends_perform h
  rcases ends_lift_bind hmake with ⟨e, hfailed, rfl, rfl⟩ | ⟨made, hmade, hlast⟩
  · rcases lt_or_ge dwalletUsableMaxAgeMs (t - verifiedAt) with hpast | hintime
    · rw [hlate t hpast] at hfailed
      obtain rfl := Except.error.inj hfailed
      exact .late appendable_unclocked.nil hpast
    · exact .read hintime
  · obtain ⟨rfl, rfl⟩ := Prog.returns_pure_iff.mp hlast
    refine .read (not_lt.mp fun hpast => ?_)
    rw [hlate t hpast] at hmade
    cases hmade

/-! ### Sending and looking up -/

theorem readsToSend_sendSigned (sent : Sent Unit) (signed : SignedRequest) :
    ReadsToSend (sendSigned (H := H) sent signed fuel) :=
  fun _ _ h => .inl (sends_sendSigned h).1

theorem ageChecked_signAndSend_sign (hbuild : ∀ session, Always Unclocked (build epoch session))
    (hsign : ∀ data, AgeChecked verifiedAt (sign data)) :
    AgeChecked verifiedAt (signAndSend P network requester epoch sign build fuel) := by
  refine ageChecked_after (always_unclocked_perform (fun _ => rfl) rfl) fun _ preimage _ => ?_
  refine ageChecked_after (hbuild _) fun _ built _ => ?_
  exact ageChecked_bind (hsign _) fun _ signed _ => readsToSend_sendSigned _ signed

theorem ageChecked_signAndSend_build
    (hbuild : ∀ session, AgeChecked verifiedAt (build epoch session))
    (hsign : ∀ data, Always Unclocked (sign data)) :
    AgeChecked verifiedAt (signAndSend P network requester epoch sign build fuel) := by
  refine ageChecked_after (always_unclocked_perform (fun _ => rfl) rfl) fun _ preimage _ => ?_
  refine ageChecked_bind (hbuild _) fun _ built _ => ?_
  refine readsToSend_bind (readsToSend_of (hsign _)) fun _ signed _ => ?_
  exact readsToSend_sendSigned _ signed

theorem readsToSend_signAndSend (hbuild : ∀ session, Always Unclocked (build epoch session))
    (hsign : ∀ data, Always Unclocked (sign data)) :
    ReadsToSend (signAndSend P network requester epoch sign build fuel) := by
  have hfresh : Always Unclocked (perform (T := Unit) (H := H) .freshPreimage) :=
    always_unclocked_perform (fun _ => rfl) rfl
  refine readsToSend_bind (readsToSend_of hfresh) fun _ preimage _ => ?_
  refine readsToSend_bind (readsToSend_of (hbuild _)) fun _ built _ => ?_
  refine readsToSend_bind (readsToSend_of (hsign _)) fun _ signed _ => ?_
  exact readsToSend_sendSigned _ signed

variable {once : EngineEff Unit H (TransactionResponseData × Sent Unit)}
  {describe : Bytes → Unit → EngineEff Unit H PendingRequestKind}
  {notRun : Option (EngineEff Unit H (TransactionResponseData × Sent Unit))}

/-- An attempt ends as what it submits does, or goes on after something was sent. -/
theorem ends_attempt {r : Except (EngineError Unit) (TransactionResponseData × Sent Unit)}
    (hclosed : ∀ tr sent refusal, Throws once tr (.closedBeforeAnswer sent refusal) → Sends tr)
    (h : Ends (tryCatch once (afterClose P network requester describe fuel notRun)) tr r) :
    Ends once tr r ∨ ∃ tr₁ tr₂ e, tr = tr₁ ++ tr₂ ∧ Throws once tr₁ e ∧ Sends tr₁ := by
  rcases h.tryCatch_cases with ⟨a, rfl, hgives⟩ | ⟨tr₁, tr₂, e, rfl, hthrows, hafter⟩
  · exact .inl hgives.ends
  · cases e with
    | closedBeforeAnswer sent refusal =>
      exact .inr ⟨tr₁, tr₂, _, rfl, hthrows, hclosed tr₁ sent refusal hthrows⟩
    | _ =>
      obtain ⟨rfl, rfl⟩ := Prog.returns_pure_iff.mp hafter
      rw [List.append_nil]
      exact .inl hthrows.ends

theorem ageChecked_attempt (honce : AgeChecked verifiedAt once)
    (hclosed : ∀ tr sent refusal, Throws once tr (.closedBeforeAnswer sent refusal) → Sends tr) :
    AgeChecked verifiedAt
      (tryCatch once (afterClose P network requester describe fuel notRun)) := by
  intro tr r h
  rcases ends_attempt hclosed h with hends | ⟨tr₁, tr₂, e, rfl, hthrows, hsends⟩
  · exact honce tr r hends
  · exact (honce tr₁ _ hthrows.ends).sent hsends.1 hsends.2 tr₂ r

theorem readsToSend_attempt (honce : ReadsToSend once)
    (hclosed : ∀ tr sent refusal, Throws once tr (.closedBeforeAnswer sent refusal) → Sends tr) :
    ReadsToSend (tryCatch once (afterClose P network requester describe fuel notRun)) := by
  intro tr r h
  rcases ends_attempt hclosed h with hends | ⟨tr₁, tr₂, e, rfl, hthrows, hsends⟩
  · exact honce tr r hends
  · exact .inl (hsends.append_left tr₂).1

/-! ### Signs -/

variable {request : DWalletRequest} {kind : PendingRequestKind}

theorem sends_of_closed_sign (herrors : ∀ data, ThrowsOnly IsSdk (sign data)) {sent : Sent Unit}
    {refusal : String}
    (h : Throws (signAndSend P network requester epoch sign
      (fun _ _ => pure (BuiltRequest.mk request ())) fuel) tr (.closedBeforeAnswer sent refusal)) :
    Sends tr :=
  sends_of_closed (fun _ => throwsOnly_pure _) herrors h

theorem ageChecked_signSubmission (hsign : ∀ data, AgeChecked verifiedAt (sign data))
    (herrors : ∀ data, ThrowsOnly IsSdk (sign data)) :
    AgeChecked verifiedAt
      ((signSubmission request kind epoch sign).run P network requester fuel) := by
  refine ageChecked_after always_unclocked_readChainEpoch fun _ chainEpoch _ => ?_
  split_ifs
  · intro tr r h
    obtain ⟨rfl, rfl⟩ := Prog.returns_pure_iff.mp h
    exact .unread rfl
  · refine ageChecked_attempt ?_ fun _ _ _ => sends_of_closed_sign herrors
    exact ageChecked_signAndSend_sign (fun _ => always_pure appendable_unclocked _) hsign

theorem readsToSend_signSubmission (hsign : ∀ data, Always Unclocked (sign data))
    (herrors : ∀ data, ThrowsOnly IsSdk (sign data)) :
    ReadsToSend ((signSubmission request kind epoch sign).run P network requester fuel) := by
  refine readsToSend_bind (readsToSend_of always_unclocked_readChainEpoch) fun _ chainEpoch _ => ?_
  split_ifs
  · exact readsToSend_of (always_throw appendable_unclocked _)
  · refine readsToSend_attempt ?_ fun _ _ _ => sends_of_closed_sign herrors
    exact readsToSend_signAndSend (fun _ => always_pure appendable_unclocked _) hsign

/-- A sign with a presign is refused for the age of its check where the clock says so. -/
theorem ageChecked_signatureOf {args : SignArgs}
    (hstate : issuedGet issued args.usable.object = some state) :
    AgeChecked state.verifiedAt (signatureOf (H := H) P connection issued requester args fuel) := by
  refine ageChecked_after (always_unclocked_sdk _) fun tr submission hmade => ?_
  obtain ⟨request, rfl⟩ := requestSignature_ok (gives_sdk_iff.mp hmade).2
  refine ageChecked_bind ?_ fun _ answered _ => readsToSend_of (always_unclocked_sdk _)
  apply ageChecked_signSubmission
  · intro data
    exact ageChecked_signFor fun keypair => ageChecked_signWithUsable hstate keypair data
  · exact (signs_signFor (signs_signWithUsable args.usable)).errors

/-! ### First steps of future signs -/

theorem checkedStateOf_late {object : UsableObject} {now : ℤ}
    (hstate : issuedGet issued object = some state)
    (hlate : dwalletUsableMaxAgeMs < now - state.verifiedAt) :
    checkedStateOf issued now object = .error (staleResult (now - state.verifiedAt)) := by
  unfold checkedStateOf
  rw [hstate]
  dsimp only
  rw [requireUsableAge_late hlate, error_bind]

/-- The builder of step 1 of a future sign comes to ask for the age of the check. -/
def AsksAge (P : Primitives) (connection : Connection) (args : SignArgs) : Prop :=
  args.voucher.length = 32 ∧ ∀ scheme, signatureSchemeNumber args.signatureScheme = .ok scheme →
    userSignMessage P connection args.dwallet args.presign args.message
      (args.messageMetadata.getD []) scheme ≠ .ok []

theorem futureSignRequest_late {args : FutureSignArgs} {now : ℤ}
    (hstate : issuedGet issued args.usable = some state)
    (hvoucher : args.futureSignatureVoucher.length = 32)
    (hsignature : args.messageCentralizedSignature ≠ [])
    (hlate : dwalletUsableMaxAgeMs < now - state.verifiedAt) :
    futureSignRequest P issued now args =
      .error (staleResult (now - state.verifiedAt)) := by
  unfold futureSignRequest requireVoucherAddress
  rw [ensure_of hvoucher, ok_bind, ensure_of (by simpa using hsignature), ok_bind,
    checkedStateOf_late hstate hlate, error_bind]

/-- A builder that does not come to ask for the age refuses for another reason. -/
theorem futureSignRequest_unasked {args : FutureSignArgs} {now : ℤ}
    (h : ¬(args.futureSignatureVoucher.length = 32 ∧ args.messageCentralizedSignature ≠ [])) :
    ∃ text, futureSignRequest P issued now args = .error (.error text) := by
  unfold futureSignRequest requireVoucherAddress
  by_cases hvoucher : args.futureSignatureVoucher.length = 32
  · have hempty : ¬args.messageCentralizedSignature.length ≠ 0 := by
      intro hlength
      exact h ⟨hvoucher, by simpa using hlength⟩
    rw [ensure_of hvoucher, ok_bind]
    unfold ensure
    rw [if_neg hempty, error_bind]
    exact ⟨_, rfl⟩
  · unfold ensure
    rw [if_neg hvoucher, error_bind]
    exact ⟨_, rfl⟩

/-- The making of step 1 of a future sign fails at once, or reads the clock for its builder. -/
theorem ends_requestFutureSignature {args : SignArgs}
    {r : Except (EngineError Unit) (Submission Unit H)}
    (h : Ends (requestFutureSignature (H := H) P connection issued requester args) tr r) :
    (tr = [] ∧ ∃ e, r = .error e) ∨ ∃ scheme userSignature t,
      signatureSchemeNumber args.signatureScheme = .ok scheme ∧
      userSignMessage P connection args.dwallet args.presign args.message
        (args.messageMetadata.getD []) scheme = .ok userSignature ∧
      tr = [⟨.now, t⟩] ∧ ∀ e, futureSignRequest P issued t
        (futureSignArgsOf connection requester args scheme userSignature) = .error e →
        r = .error (.sdk e) := by
  rcases ends_lift_bind h with ⟨e, -, rfl, rfl⟩ | ⟨scheme, hscheme, h⟩
  · exact .inl ⟨rfl, e, rfl⟩
  rcases ends_lift_bind h with ⟨e, -, rfl, rfl⟩ | ⟨_, -, h⟩
  · exact .inl ⟨rfl, e, rfl⟩
  rcases ends_lift_bind h with ⟨e, -, rfl, rfl⟩ | ⟨_, -, h⟩
  · exact .inl ⟨rfl, e, rfl⟩
  rcases ends_lift_bind h with ⟨e, -, rfl, rfl⟩ | ⟨_, -, h⟩
  · exact .inl ⟨rfl, e, rfl⟩
  rcases ends_lift_bind h with ⟨e, -, rfl, rfl⟩ | ⟨userSignature, hsigned, h⟩
  · exact .inl ⟨rfl, e, rfl⟩
  obtain ⟨t, tr₁, rfl, hbuild⟩ := ends_perform h
  refine .inr ⟨scheme, userSignature, t, mapError_ok hscheme, mapError_ok hsigned, ?_⟩
  rcases ends_lift_bind hbuild with ⟨e, hfailed, rfl, rfl⟩ | ⟨request, hrequest, hlast⟩
  · refine ⟨rfl, fun e' he' => ?_⟩
    unfold futureSignArgsOf at he'
    rw [he'] at hfailed
    obtain rfl := Except.error.inj hfailed
    rfl
  · obtain ⟨rfl, rfl⟩ := Prog.returns_pure_iff.mp hlast
    refine ⟨rfl, fun e' he' => ?_⟩
    unfold futureSignArgsOf at he'
    rw [he'] at hrequest
    cases hrequest

theorem ageChecked_requestFutureSignature {args : SignArgs}
    (hstate : issuedGet issued args.usable.object = some state)
    (hasks : AsksAge P connection args) :
    AgeChecked state.verifiedAt
      (requestFutureSignature (H := H) P connection issued requester args) := by
  intro tr r h
  rcases ends_requestFutureSignature h with
    ⟨rfl, e, rfl⟩ | ⟨scheme, userSignature, t, hscheme, hsigned, rfl, hfailed⟩
  · exact .unread rfl
  rcases lt_or_ge dwalletUsableMaxAgeMs (t - state.verifiedAt) with hlate | hintime
  · have hsignature : userSignature ≠ [] := by
      rintro rfl
      exact hasks.2 scheme hscheme hsigned
    rw [hfailed _ (futureSignRequest_late hstate hasks.1 hsignature hlate)]
    exact .late appendable_unclocked.nil hlate
  · exact .read hintime

theorem ageChecked_partialSignatureOf {args : SignArgs}
    (hstate : issuedGet issued args.usable.object = some state)
    (hasks : AsksAge P connection args) :
    AgeChecked state.verifiedAt
      (partialSignatureOf (H := H) P connection issued requester args fuel) := by
  refine ageChecked_bind (ageChecked_requestFutureSignature hstate hasks)
    fun tr submission hmade => ?_
  obtain ⟨_, _, _, _, request, -, -, -, -, rfl⟩ := requestFutureSignature_gives hmade
  refine readsToSend_bind ?_ fun _ answered _ => readsToSend_of (always_unclocked_sdk _)
  exact readsToSend_signSubmission always_unclocked_signGrpc
    (signs_signFor signs_signGrpcRequest).errors

/-- A step that does not come to ask for the age of the check is not refused for it. -/
theorem not_refused_unasked {args : SignArgs} {r : Except (EngineError Unit) PartialSignature}
    (hunasked : ¬AsksAge P connection args)
    (h : Ends (partialSignatureOf (H := H) P connection issued requester args fuel) tr r) :
    ¬RefusedStale verifiedAt tr r := by
  have hrefused : ∀ scheme userSignature t,
      signatureSchemeNumber args.signatureScheme = .ok scheme →
      userSignMessage P connection args.dwallet args.presign args.message
        (args.messageMetadata.getD []) scheme = .ok userSignature →
      ∃ text, futureSignRequest P issued t
        (futureSignArgsOf connection requester args scheme userSignature) =
          .error (.error text) := by
    intro scheme userSignature t hscheme hsigned
    refine futureSignRequest_unasked fun hasks => hunasked ⟨hasks.1, fun scheme' hscheme' => ?_⟩
    obtain rfl := Except.ok.inj (hscheme.symm.trans hscheme')
    rw [hsigned]
    exact fun hempty => hasks.2 (Except.ok.inj hempty)
  rintro ⟨-, before, t, rfl, -, hstale⟩
  rcases h.bind_cases with ⟨e, heq, hthrows⟩ | ⟨tr₁, tr₂, submission, -, hmade, -⟩
  · rcases ends_requestFutureSignature hthrows.ends with
      ⟨hnil, -⟩ | ⟨scheme, userSignature, t', hscheme, hsigned, -, hfailed⟩
    · exact List.append_ne_nil_of_right_ne_nil _ (List.cons_ne_nil _ _) hnil
    · obtain ⟨text, htext⟩ := hrefused scheme userSignature t' hscheme hsigned
      obtain rfl := Except.error.inj (hfailed _ htext)
      rw [hstale] at heq
      cases heq
  · rcases ends_requestFutureSignature hmade.ends with
      ⟨-, e, he⟩ | ⟨scheme, userSignature, t', hscheme, hsigned, -, hfailed⟩
    · cases he
    · obtain ⟨text, htext⟩ := hrefused scheme userSignature t' hscheme hsigned
      cases hfailed _ htext

/-! ### Requests about shares -/

theorem makeSharePublicRequest_late {object : UsableObject} {share : Bytes} {now : ℤ}
    (hstate : issuedGet issued object = some state)
    (hlate : dwalletUsableMaxAgeMs < now - state.verifiedAt) :
    makeSharePublicRequest issued now object share =
      .error (staleResult (now - state.verifiedAt)) := by
  unfold makeSharePublicRequest
  rw [checkedStateOf_late hstate hlate, error_bind]

theorem reEncryptShareRequest_late {args : ReEncryptShareArgs} {now : ℤ}
    (hstate : issuedGet issued args.usable = some state)
    (hlength : args.newHolderSignerPublicKey.length = 32)
    (hlate : dwalletUsableMaxAgeMs < now - state.verifiedAt) :
    reEncryptShareRequest issued now args = .error (staleResult (now - state.verifiedAt)) := by
  unfold reEncryptShareRequest
  rw [ensure_of hlength, ok_bind, checkedStateOf_late hstate hlate, error_bind]

/-- An attempt of a request that is built from the check is refused for its age where the clock
says so. -/
theorem ageChecked_submitOnce {request : ℤ → Except SdkError RequestOfResult}
    (hlate : ∀ t, dwalletUsableMaxAgeMs < t - verifiedAt →
      request t = .error (staleResult (t - verifiedAt))) :
    AgeChecked (H := H) verifiedAt
      (submitOnce P network requester (fun _ _ => builtNow request) fuel) := by
  refine ageChecked_after always_unclocked_readChainEpoch fun _ chainEpoch _ => ?_
  exact ageChecked_signAndSend_build (fun _ => ageChecked_now hlate) always_unclocked_signGrpc

end Attempts

/-! ## Calls that retry -/

/-- A presign that was taken, and the run of the sign with it, which ended. -/
abbrev EndedSign (H α : Type) : Type :=
  Presign × List (EngineEvent Unit H) × Except (EngineError Unit) α

/-- The attempts of a call that ended, with so many left: another follows one exactly where its
presign expired and attempts are left. -/
inductive EndedSigns {α : Type} (take : EngineEff Unit H Presign)
    (step : Presign → EngineEff Unit H α) :
    ℕ → List (EngineEvent Unit H) → Except (EngineError Unit) α → List (EndedSign H α) → Prop
  | taking {left : ℕ} {tr : List (EngineEvent Unit H)} {e : EngineError Unit} : Throws take tr e →
      EndedSigns take step (left + 1) tr (.error e) []
  | signing {left : ℕ} {taken tr : List (EngineEvent Unit H)} {presign : Presign}
      {r : Except (EngineError Unit) α} : Gives take taken presign → Ends (step presign) tr r →
      (left = 0 ∨ ∀ presignEpoch chainEpoch,
        r ≠ .error (.presignExpiredWithTheEpoch presignEpoch chainEpoch)) →
      EndedSigns take step (left + 1) (taken ++ tr) r [(presign, tr, r)]
  | again {left presignEpoch chainEpoch : ℕ} {taken tr rest : List (EngineEvent Unit H)}
      {presign : Presign} {r : Except (EngineError Unit) α} {attempts : List (EndedSign H α)} :
      Gives take taken presign →
      Throws (step presign) tr (.presignExpiredWithTheEpoch presignEpoch chainEpoch) →
      EndedSigns take step left rest r attempts →
      EndedSigns take step (left + 1) (taken ++ (tr ++ rest)) r
        ((presign, tr, .error (.presignExpiredWithTheEpoch presignEpoch chainEpoch)) :: attempts)

section Signs

variable {α : Type} {take : EngineEff Unit H Presign} {step : Presign → EngineEff Unit H α}
  {left : ℕ} {tr : List (EngineEvent Unit H)} {r : Except (EngineError Unit) α}
  {attempts : List (EndedSign H α)}

theorem EndedSigns.ended (h : EndedSigns take step left tr r attempts) :
    ∀ attempt ∈ attempts, Ends (step attempt.1) attempt.2.1 attempt.2.2 := by
  induction h with
  | taking _ => simp
  | signing _ hsign _ =>
    intro attempt hattempt
    obtain rfl := List.mem_singleton.mp hattempt
    exact hsign
  | again _ hsign _ ih =>
    intro attempt hattempt
    rcases List.mem_cons.mp hattempt with rfl | hlater
    · exact hsign.ends
    · exact ih attempt hlater

/-- A call that ended made such attempts. -/
theorem endedSigns_of_ends (htake : ThrowsOnly NotExpired take)
    (h : Ends (retry replacesPresign (take >>= step) left) tr r) :
    ∃ attempts, EndedSigns take step left tr r attempts := by
  induction left generalizing tr with
  | zero =>
    obtain ⟨-, hcut⟩ := Prog.run_cut_iff.mp h
    cases hcut
  | succ left ih =>
    rcases h.tryCatch_cases with ⟨a, rfl, hgives⟩ | ⟨tr₁, tr₂, e, rfl, hthrows, hrest⟩
    · obtain ⟨taken, tr', presign, rfl, htaken, hsign⟩ := gives_bind_iff.mp hgives
      exact ⟨_, .signing htaken hsign.ends (.inr fun _ _ heq => by cases heq)⟩
    have hstops : replacesPresign (H := H) left e = pure false → (left = 0 ∨ NotExpired e) →
        ∃ attempts, EndedSigns take step (left + 1) (tr₁ ++ tr₂) r attempts := by
      intro hask hlast
      rw [hask] at hrest
      obtain ⟨rfl, rfl⟩ := Prog.returns_pure_iff.mp hrest
      rw [List.append_nil]
      rcases throws_bind_iff.mp hthrows with hfailed | ⟨taken, tr', presign, rfl, htaken, hsign⟩
      · exact ⟨_, .taking hfailed⟩
      · refine ⟨_, .signing htaken hsign.ends (hlast.imp_right fun hnot => ?_)⟩
        exact fun presignEpoch chainEpoch heq =>
          hnot presignEpoch chainEpoch (Except.error.inj heq)
    cases e with
    | presignExpiredWithTheEpoch presignEpoch chainEpoch =>
      cases left with
      | zero => exact hstops rfl (.inl rfl)
      | succ left =>
        rcases throws_bind_iff.mp hthrows with hfailed | ⟨taken, tr', presign, rfl, htaken, hsign⟩
        · exact absurd rfl (htake _ _ hfailed presignEpoch chainEpoch)
        · obtain ⟨attempts, hattempts⟩ := ih hrest
          rw [List.append_assoc]
          exact ⟨_, .again htaken hsign hattempts⟩
    | _ => exact hstops rfl (.inr fun _ _ heq => by cases heq)

/-- Such attempts are a run of the call. -/
theorem EndedSigns.ends (htake : ThrowsOnly NotExpired take)
    (h : EndedSigns take step left tr r attempts) :
    Ends (retry replacesPresign (take >>= step) left) tr r := by
  have hthrown : ∀ {left tr e}, Throws (take >>= step) tr e → (left = 0 ∨ NotExpired e) →
      Ends (retry replacesPresign (take >>= step) (left + 1)) tr (.error e) := by
    intro left tr e hthrows hlast
    have hstops : replacesPresign (H := H) left e = pure false := by
      cases e with
      | presignExpiredWithTheEpoch presignEpoch chainEpoch =>
        obtain rfl := hlast.resolve_right fun hnot => hnot presignEpoch chainEpoch rfl
        rfl
      | _ => rfl
    rw [← List.append_nil tr]
    apply hthrows.tryCatch_ends
    rw [hstops]
    exact Prog.returns_pure_iff.mpr ⟨rfl, rfl⟩
  induction h with
  | taking hfailed =>
    exact hthrown (throws_bind_iff.mpr (.inl hfailed)) (.inr (htake _ _ hfailed))
  | @signing left taken tr presign r htaken hsign hlast =>
    cases r with
    | ok a => exact gives_tryCatch_iff.mpr (.inl (htaken.bind_ends hsign))
    | error e =>
      refine hthrown (htaken.bind_ends hsign) (hlast.imp_right fun hnot => ?_)
      rintro presignEpoch chainEpoch rfl
      exact hnot presignEpoch chainEpoch rfl
  | @again left presignEpoch chainEpoch taken tr rest presign r attempts htaken hsign hrest ih =>
    rw [← List.append_assoc]
    apply Throws.tryCatch_ends (htaken.bind_ends hsign.ends)
    cases left with
    | zero => cases hrest
    | succ left => exact ih

end Signs

/-- An attempt of a submission, which ended. -/
abbrev EndedTry (H : Type) : Type :=
  List (EngineEvent Unit H) × Except (EngineError Unit) (TransactionResponseData × Sent Unit)

/-- The attempts of a submission that ended, with so many left to follow: another follows one
exactly where its session was looked up and never ran, and attempts are left. -/
inductive EndedTries (P : Primitives) (network : Network) (requester : Requester)
    (once : EngineEff Unit H (TransactionResponseData × Sent Unit))
    (describe : Bytes → Unit → EngineEff Unit H PendingRequestKind) (fuel : ℕ) :
    ℕ → List (EngineEvent Unit H) →
      Except (EngineError Unit) (TransactionResponseData × Sent Unit) → List (EndedTry H) → Prop
  | answered {left : ℕ} {tr : List (EngineEvent Unit H)}
      {r : Except (EngineError Unit) (TransactionResponseData × Sent Unit)} : Ends once tr r →
      (∀ sent refusal, r ≠ .error (.closedBeforeAnswer sent refusal)) →
      EndedTries P network requester once describe fuel left tr r [(tr, r)]
  | undescribed {left : ℕ} {tr describing : List (EngineEvent Unit H)} {sent : Sent Unit}
      {refusal : String} {e : EngineError Unit} :
      Throws once tr (.closedBeforeAnswer sent refusal) →
      Throws (pending network requester describe sent) describing e →
      EndedTries P network requester once describe fuel left (tr ++ describing) (.error e)
        [(tr, .error (.closedBeforeAnswer sent refusal))]
  | settled {left : ℕ} {tr describing waiting last : List (EngineEvent Unit H)} {sent : Sent Unit}
      {refusal : String} {request : PendingRequest} {outcome : RequestOutcome}
      {r : Except (EngineError Unit) (TransactionResponseData × Sent Unit)} :
      Throws once tr (.closedBeforeAnswer sent refusal) →
      Gives (pending network requester describe sent) describing request →
      Gives (outcomeAfterEpochClose P network request fuel) waiting outcome →
      (left = 0 ∨ outcome ≠ .notRun) →
      Ends (answerOrThrow sent refusal outcome request) last r →
      EndedTries P network requester once describe fuel left
        (tr ++ (describing ++ (waiting ++ last))) r
        [(tr, .error (.closedBeforeAnswer sent refusal))]
  | again {left : ℕ} {tr describing waiting rest : List (EngineEvent Unit H)} {sent : Sent Unit}
      {refusal : String} {request : PendingRequest}
      {r : Except (EngineError Unit) (TransactionResponseData × Sent Unit)}
      {tries : List (EndedTry H)} :
      Throws once tr (.closedBeforeAnswer sent refusal) →
      Gives (pending network requester describe sent) describing request →
      Gives (outcomeAfterEpochClose P network request fuel) waiting .notRun →
      EndedTries P network requester once describe fuel left rest r tries →
      EndedTries P network requester once describe fuel (left + 1)
        (tr ++ (describing ++ (waiting ++ rest))) r
        ((tr, .error (.closedBeforeAnswer sent refusal)) :: tries)

section Submissions

variable {P : Primitives} {network : Network} {requester : Requester} {left fuel : ℕ}
  {describe : Bytes → Unit → EngineEff Unit H PendingRequestKind}
  {once : EngineEff Unit H (TransactionResponseData × Sent Unit)}
  {build : ℕ → Bytes → EngineEff Unit H (BuiltRequest Unit)}
  {tr : List (EngineEvent Unit H)} {tries : List (EndedTry H)}
  {r : Except (EngineError Unit) (TransactionResponseData × Sent Unit)}

theorem EndedTries.ended (h : EndedTries P network requester once describe fuel left tr r tries) :
    ∀ attempt ∈ tries, Ends once attempt.1 attempt.2 := by
  induction h with
  | answered honce _ =>
    intro attempt hattempt
    obtain rfl := List.mem_singleton.mp hattempt
    exact honce
  | undescribed honce _ =>
    intro attempt hattempt
    obtain rfl := List.mem_singleton.mp hattempt
    exact honce.ends
  | settled honce _ _ _ _ =>
    intro attempt hattempt
    obtain rfl := List.mem_singleton.mp hattempt
    exact honce.ends
  | again honce _ _ _ ih =>
    intro attempt hattempt
    rcases List.mem_cons.mp hattempt with rfl | hlater
    · exact honce.ends
    · exact ih attempt hlater

/-- An attempt that another follows was closed. -/
theorem EndedTries.closed (h : EndedTries P network requester once describe fuel left tr r tries)
    (hnext : tries.tail ≠ []) :
    ∃ before sent refusal, Throws once before (.closedBeforeAnswer sent refusal) := by
  cases h with
  | again honce _ _ _ => exact ⟨_, _, _, honce⟩
  | _ => exact absurd rfl hnext

/-- An attempt is the last, or its session never ran and what is left follows. -/
theorem endedTries_attempt
    {notRun : Option (EngineEff Unit H (TransactionResponseData × Sent Unit))}
    (hleft : notRun = none → left = 0)
    (h : Ends (tryCatch once (afterClose P network requester describe fuel notRun)) tr r) :
    (∃ tries, EndedTries P network requester once describe fuel left tr r tries) ∨
    ∃ next before describing waiting rest sent refusal request, notRun = some next ∧
      tr = before ++ (describing ++ (waiting ++ rest)) ∧
      Throws once before (.closedBeforeAnswer sent refusal) ∧
      Gives (pending network requester describe sent) describing request ∧
      Gives (outcomeAfterEpochClose P network request fuel) waiting .notRun ∧
      Ends next rest r := by
  rcases h.tryCatch_cases with ⟨a, rfl, hgives⟩ | ⟨before, tr₂, e, rfl, hthrows, hafter⟩
  · exact .inl ⟨_, .answered hgives.ends fun _ _ heq => by cases heq⟩
  cases e with
  | closedBeforeAnswer sent refusal =>
    rcases hafter.bind_cases with ⟨e, rfl, hfailed⟩ | ⟨tr₃, tr₄, request, rfl, hmade, hrest⟩
    · exact .inl ⟨_, .undescribed hthrows hfailed⟩
    rcases hrest.bind_cases with ⟨e, -, hfailed⟩ | ⟨tr₅, tr₆, outcome, rfl, houtcome, hnext⟩
    · have hnever : ThrowsOnly (fun _ => False)
          (outcomeAfterEpochClose (T := Unit) (H := H) P network request fuel) :=
        throwsOnly_outcomeAfterEpochClose _ fuel
      exact (hnever tr₄ e hfailed).elim
    split at hnext
    · next _ _ next =>
      exact .inr ⟨next, before, tr₃, tr₅, tr₆, sent, refusal, request, rfl, rfl, hthrows, hmade,
        houtcome, hnext⟩
    · next hother =>
      refine .inl ⟨_, .settled hthrows hmade houtcome ?_ hnext⟩
      cases notRun with
      | none => exact .inl (hleft rfl)
      | some next => exact .inr fun hran => hother next hran rfl
  | _ =>
    obtain ⟨rfl, rfl⟩ := Prog.returns_pure_iff.mp hafter
    rw [List.append_nil]
    exact .inl ⟨_, .answered hthrows.ends fun _ _ heq => by cases heq⟩

/-- A submission that ended made such attempts. -/
theorem endedTries_of_ends
    (h : Ends (submit P network requester build describe fuel left) tr r) :
    ∃ tries, EndedTries P network requester (submitOnce P network requester build fuel) describe
      fuel left tr r tries := by
  induction left generalizing tr with
  | zero =>
    rcases endedTries_attempt (fun _ => rfl) h with htries | ⟨_, _, _, _, _, _, _, _, hnone, -⟩
    · exact htries
    · cases hnone
  | succ left ih =>
    have hsome : some (submit P network requester build describe fuel left) = none →
        left + 1 = 0 := fun hnone => by cases hnone
    rcases endedTries_attempt hsome h with htries |
      ⟨next, before, describing, waiting, rest, sent, refusal, request, hnext, rfl, hclosed, hmade,
        hran, hrest⟩
    · exact htries
    · obtain rfl := Option.some.inj hnext
      obtain ⟨tries, htries⟩ := ih hrest
      exact ⟨_, .again hclosed hmade hran htries⟩

end Submissions

/-! ## Retries that come too late -/

section Late

variable {P : Primitives} {connection : Connection} {issued : List IssuedState}
  {state : IssuedState} {network : Network} {requester : Requester} {fuel : ℕ}
  {tr : List (EngineEvent Unit H)}

/-- A request that was closed was built. -/
theorem built_of_closed {request : ℤ → Except SdkError RequestOfResult} {sent : Sent Unit}
    {refusal : String}
    (h : Throws (submitOnce (H := H) P network requester (fun _ _ => builtNow request) fuel) tr
      (.closedBeforeAnswer sent refusal)) : ∃ now built, request now = .ok built := by
  have hbuild : ∀ session : Bytes, ThrowsOnly IsSdk (builtNow (H := H) request) :=
    fun _ => throwsOnly_bind (throwsOnly_perform .now) fun now =>
      throwsOnly_bind (throwsOnly_sdk _) fun built => throwsOnly_pure _
  rcases throws_bind_iff.mp h with hfailed | ⟨tr₁, tr₂, epoch, rfl, -, hsend⟩
  · obtain ⟨error, herror⟩ := throwsOnly_readChainEpoch tr _ hfailed
    cases herror
  rcases throws_signAndSend (signs_signFor signs_signGrpcRequest) hbuild hsend with
    ⟨error, herror⟩ | ⟨preimage, tr₃, tr₄, made, rfl, hmade, -, -⟩
  · cases herror
  obtain ⟨_, _, now, rfl, -, hmade⟩ := gives_bind_iff.mp hmade
  obtain ⟨_, _, built, rfl, hbuilt, -⟩ := gives_bind_iff.mp hmade
  exact ⟨now, built, (gives_sdk_iff.mp hbuilt).2⟩

theorem reEncryptionOf_length {args : ReEncryptArgs} {share : Bytes} {now : ℤ}
    {built : RequestOfResult} (h : reEncryptionOf issued args share now = .ok built) :
    args.newHolderSignerPublicKey.length = 32 := by
  obtain ⟨_, hlength, -⟩ := bind_ok h
  exact ensure_iff.mp hlength

/-- An attempt of a submission of a request that is built from the check. -/
theorem EndedTries.not_refused_iff {request : ℤ → Except SdkError RequestOfResult}
    {describe : Bytes → Unit → EngineEff Unit H PendingRequestKind} {left : ℕ}
    {r : Except (EngineError Unit) (TransactionResponseData × Sent Unit)}
    {tries : List (EndedTry H)} {verifiedAt : ℤ}
    (hlate : ∀ t, dwalletUsableMaxAgeMs < t - verifiedAt →
      request t = .error (staleResult (t - verifiedAt)))
    (h : EndedTries P network requester
      (submitOnce P network requester (fun _ _ => builtNow request) fuel) describe fuel left tr r
      tries) {attempt : EndedTry H} (hattempt : attempt ∈ tries) :
    ¬RefusedStale verifiedAt attempt.1 attempt.2 ↔ CheckInTime verifiedAt attempt.1 :=
  (ageChecked_submitOnce hlate _ _ (h.ended attempt hattempt)).not_refused_iff

end Late

/-- However long the waits of a sign, of step 1 of a future sign, or of the submission of a
make-public or a re-encryption took, an attempt after its first is not refused for the age of
the ownership check exactly where the check is in time when the attempt first reads the clock,
or where step 1 of a future sign does not come to ask for the age. -/
theorem retry_not_refused_iff (P : Primitives) (H : Type) (connection : Connection)
    (issued : List IssuedState) (state : IssuedState) (requester : Requester) (fuel : ℕ)
    (tr : List (EngineEvent Unit H)) :
    (∀ (params : SignParams) (poolWaitMs : ℤ) (waits : ℕ) (r : Except (EngineError Unit) Bytes),
      issuedGet issued params.usable.object = some state →
      Ends (requestSign P connection issued requester poolWaitMs params none fuel waits) tr r →
      let take := takePresign P connection requester poolWaitMs params.dWallet params.terms fuel
        waits
      let step := fun presign =>
        signatureOf P connection issued requester (params.args presign) fuel
      (∃ attempts, EndedSigns take step ownPresignAttempts tr r attempts) ∧
      ∀ attempts, EndedSigns take step ownPresignAttempts tr r attempts →
        ∀ attempt ∈ attempts.tail,
          (¬RefusedStale state.verifiedAt attempt.2.1 attempt.2.2 ↔
            CheckInTime state.verifiedAt attempt.2.1)) ∧
    (∀ (params : SignParams) (poolWaitMs : ℤ) (waits : ℕ)
      (r : Except (EngineError Unit) PartialSignature),
      issuedGet issued params.usable.object = some state →
      Ends (requestFutureSign P connection issued requester poolWaitMs params none fuel waits) tr
        r →
      let take := takePresign P connection requester poolWaitMs params.dWallet params.terms fuel
        waits
      let step := fun presign =>
        partialSignatureOf P connection issued requester (params.args presign) fuel
      (∃ attempts, EndedSigns take step ownPresignAttempts tr r attempts) ∧
      ∀ attempts, EndedSigns take step ownPresignAttempts tr r attempts →
        ∀ attempt ∈ attempts.tail,
          (¬RefusedStale state.verifiedAt attempt.2.1 attempt.2.2 ↔
            CheckInTime state.verifiedAt attempt.2.1 ∨
              ¬AsksAge P connection (params.args attempt.1))) ∧
    (∀ (dwallet : DWallet) (usable : DWalletUsable) (submission : Submission Unit H)
      (r : Except (EngineError Unit) (TransactionResponseData × Sent Unit)),
      issuedGet issued usable.object = some state →
      makeSharePublicSubmission P connection issued dwallet usable = .ok submission →
      Ends (submission.run P connection.toNetwork requester fuel) tr r →
      let once := submitOnce P connection.toNetwork requester submission.build fuel
      (∃ tries, EndedTries P connection.toNetwork requester once submission.describeRun fuel
        rebuildsAfterEpochClose tr r tries) ∧
      ∀ tries, EndedTries P connection.toNetwork requester once submission.describeRun fuel
        rebuildsAfterEpochClose tr r tries → ∀ attempt ∈ tries.tail,
          (¬RefusedStale state.verifiedAt attempt.1 attempt.2 ↔
            CheckInTime state.verifiedAt attempt.1)) ∧
    (∀ (args : ReEncryptArgs) (before : List (EngineEvent Unit H)) (submission : Submission Unit H)
      (r : Except (EngineError Unit) (TransactionResponseData × Sent Unit)),
      issuedGet issued args.usable.object = some state →
      Gives (reEncryptShareSubmission P connection issued args) before submission →
      Ends (submission.run P connection.toNetwork requester fuel) tr r →
      let once := submitOnce P connection.toNetwork requester submission.build fuel
      (∃ tries, EndedTries P connection.toNetwork requester once submission.describeRun fuel
        rebuildsAfterEpochClose tr r tries) ∧
      ∀ tries, EndedTries P connection.toNetwork requester once submission.describeRun fuel
        rebuildsAfterEpochClose tr r tries → ∀ attempt ∈ tries.tail,
          (¬RefusedStale state.verifiedAt attempt.1 attempt.2 ↔
            CheckInTime state.verifiedAt attempt.1)) := by
  refine ⟨?_, ?_, ?_, ?_⟩
  · intro params poolWaitMs waits r hstate h take step
    refine ⟨endedSigns_of_ends takePresign_notExpired h, ?_⟩
    intro attempts hattempts attempt hattempt
    have hended := hattempts.ended attempt (List.mem_of_mem_tail hattempt)
    exact (ageChecked_signatureOf hstate _ _ hended).not_refused_iff
  · intro params poolWaitMs waits r hstate h take step
    refine ⟨endedSigns_of_ends takePresign_notExpired h, ?_⟩
    intro attempts hattempts attempt hattempt
    have hended := hattempts.ended attempt (List.mem_of_mem_tail hattempt)
    by_cases hasks : AsksAge P connection (params.args attempt.1)
    · rw [(ageChecked_partialSignatureOf hstate hasks _ _ hended).not_refused_iff]
      exact (or_iff_left (not_not_intro hasks)).symm
    · exact iff_of_true (not_refused_unasked hasks hended) (.inr hasks)
  · intro dwallet usable submission r hstate hmade h once
    obtain ⟨_, -, -, -, rfl⟩ := makeSharePublicSubmission_ok hmade
    refine ⟨endedTries_of_ends h, ?_⟩
    intro tries htries attempt hattempt
    refine EndedTries.not_refused_iff (fun t hlate => ?_) htries (List.mem_of_mem_tail hattempt)
    exact makeSharePublicRequest_late hstate hlate
  · intro args before submission r hstate hmade h once
    obtain ⟨_, _, _, share, -, -, -, -, rfl⟩ := reEncryptShareSubmission_gives hmade
    refine ⟨endedTries_of_ends h, ?_⟩
    intro tries htries attempt hattempt
    obtain ⟨first, sent, refusal, hclosed⟩ := htries.closed (List.ne_nil_of_mem hattempt)
    obtain ⟨now, built, hbuilt⟩ := built_of_closed hclosed
    refine EndedTries.not_refused_iff (fun t hlate => ?_) htries (List.mem_of_mem_tail hattempt)
    exact reEncryptShareRequest_late hstate (reEncryptionOf_length hbuilt) hlate

/-! ### A sign whose epoch takes long to close -/

/-- Every operation takes five seconds. The network refuses every sign as its epoch closes, and
the chain goes on to epoch 8 some minutes later, without a record of the sign. -/
def sampleSlowClose (n : ℕ) : ∀ op : EngineOp Unit Unit, op.Ans
  | .chainEpoch => .ok (if n < 75 then 7 else 8)
  | .keepEpoch read => read
  | .epoch => if n < 75 then 7 else 8
  | .now => 5000 * n
  | .sleep _ => ()
  | .freshPreimage => List.replicate 32 (UInt8.ofNat n)
  | .build .. => .error (.error "")
  | .describe .. => .error (.error "")
  | .waitingRequestHolder _ => none
  | .signRequest _ => .error (.error "")
  | .submitTransaction signed _ =>
    if signed.data.any fun data => data.request.isSign then .error closingRefusalError
    else .ok (.attestation (samplePresignFor signed))
  | .record (.hasGasCharge ..) => .ok false
  | .record (.voucherSignature _) => .ok none
  | .record _ => .error (.error "")

def sampleTake : EngineEff Unit Unit Presign :=
  takePresign samplePrimitives sampleShareConnection sampleMockRequester 180000
    sampleSignParams.dWallet sampleSignParams.terms 20 2

def sampleStep (presign : Presign) : EngineEff Unit Unit Bytes :=
  signatureOf samplePrimitives sampleShareConnection [sampleHeldState] sampleMockRequester
    (sampleSignParams.args presign) 20

/-- The presign that is taken from the `n`-th operation on. -/
def sampleTaken (n : ℕ) : Option (List (EngineEvent Unit Unit) × Presign) :=
  (sampleTake.run.transcript sampleSlowClose n).bind fun taken =>
    taken.2.toOption.map fun presign => (taken.1, presign)

theorem gives_sampleTaken {n : ℕ} {taken : List (EngineEvent Unit Unit)} {presign : Presign}
    (h : sampleTaken n = some (taken, presign)) : Gives sampleTake taken presign := by
  obtain ⟨⟨tr, result⟩, hsome, hmap⟩ := Option.bind_eq_some_iff.mp h
  obtain ⟨presign', hresult, heq⟩ := Option.map_eq_some_iff.mp hmap
  cases heq
  cases result with
  | error e => cases hresult
  | ok made =>
    cases hresult
    exact Prog.returns_of_transcript hsome

abbrev SampleRetried : Type :=
  (List (EngineEvent Unit Unit) × Presign) × SampleSigned ×
    (List (EngineEvent Unit Unit) × Presign) × SampleSigned

/-- The events and outcomes of both attempts, each after the taking of its presign. -/
def sampleLateSign : Option SampleRetried := do
  let taken ← sampleTaken 0
  let closed ← (sampleStep taken.2).run.transcript sampleSlowClose taken.1.length
  let again ← sampleTaken (taken.1.length + closed.1.length)
  let refused ← (sampleStep again.2).run.transcript sampleSlowClose
    (taken.1.length + closed.1.length + again.1.length)
  return (taken, closed, again, refused)

theorem sampleHeldState_issued :
    issuedGet [sampleHeldState] sampleSignParams.usable.object = some sampleHeldState := by
  decide +kernel

/-- The first attempt sends its sign and finds that it never ran. The second comes too late. -/
theorem sampleLateSign_attempts : ∃ (tr : List (EngineEvent Unit Unit))
    (r : Except (EngineError Unit) Bytes) (first second : EndedSign Unit Bytes),
    EndedSigns sampleTake sampleStep ownPresignAttempts tr r [first, second] ∧
    (∀ t ∈ clockReads tr, 0 ≤ t ∧ t ≤ epochCloseWaitMs) ∧ copies first.2.1 ≠ [] ∧
    NeverRan samplePrimitives sampleShareConnection.toNetwork sampleMockRequester
      (.sign sampleSignParams.voucher) first.1.epoch first.2.1 ∧
    ¬CheckInTime sampleHeldState.verifiedAt second.2.1 := by
  have hsample : sampleLateSign.any (fun r : SampleRetried => decide
      ((∀ t ∈ clockReads r.1.1 ++ (clockReads r.2.1.1 ++ (clockReads r.2.2.1.1 ++
        clockReads r.2.2.2.1)), 0 ≤ t ∧ t ≤ epochCloseWaitMs) ∧
      copies r.2.1.1 ≠ [] ∧ r.2.1.2 = .error (.presignExpiredWithTheEpoch 7 8) ∧
      r.2.2.2.2 = .error (.sdk (staleResult 475000)) ∧
      (clockReads r.2.2.2.1).head? = some 475000)) = true := by
    decide +kernel
  obtain ⟨⟨⟨taken, presign⟩, ⟨closed, result⟩, ⟨again, presign'⟩, refused, result'⟩, hsome,
    hchecked⟩ := (Option.any_eq_true _ _).mp hsample
  obtain ⟨hclock, hcopies, hresult, hresult', hlate⟩ := of_decide_eq_true hchecked
  unfold sampleLateSign at hsome
  obtain ⟨_, htaken, hsome⟩ := Option.bind_eq_some_iff.mp hsome
  obtain ⟨_, hclosed, hsome⟩ := Option.bind_eq_some_iff.mp hsome
  obtain ⟨_, hagain, hsome⟩ := Option.bind_eq_some_iff.mp hsome
  obtain ⟨_, hrefused, hsome⟩ := Option.bind_eq_some_iff.mp hsome
  cases hsome
  dsimp only at hresult hresult' hclock hcopies hlate
  obtain rfl := hresult
  obtain rfl := hresult'
  have hexpired : Throws (sampleStep presign) closed (.presignExpiredWithTheEpoch 7 8) :=
    Prog.returns_of_transcript hclosed
  refine ⟨_, _, _, _, .again (gives_sampleTaken htaken) hexpired
    (.signing (gives_sampleTaken hagain) (Prog.returns_of_transcript hrefused) (.inr ?_)), ?_,
    hcopies, ?_, ?_⟩
  · intro presignEpoch chainEpoch heq
    cases heq
  · rwa [clockReads_append, clockReads_append, clockReads_append]
  · exact (signStep_signatureOf sampleSignParams).neverRan _ _ _ _ hexpired
  · intro hintime
    exact absurd (hintime _ hlate) (by decide)

/-- The second attempt of such a sign is refused for the age of the check that this same call
made, after the first sent a sign that never ran. -/
theorem late_retry_refused : ∃ (tr : List (EngineEvent Unit Unit))
    (r : Except (EngineError Unit) Bytes) (first second : EndedSign Unit Bytes),
    Ends (requestSign samplePrimitives sampleShareConnection [sampleHeldState] sampleMockRequester
      180000 sampleSignParams none 20 2) tr r ∧
    EndedSigns sampleTake sampleStep ownPresignAttempts tr r [first, second] ∧
    (∀ t ∈ clockReads tr, 0 ≤ t ∧ t ≤ epochCloseWaitMs) ∧ copies first.2.1 ≠ [] ∧
    NeverRan samplePrimitives sampleShareConnection.toNetwork sampleMockRequester
      (.sign sampleSignParams.voucher) first.1.epoch first.2.1 ∧
    RefusedStale sampleHeldState.verifiedAt second.2.1 second.2.2 := by
  obtain ⟨tr, r, first, second, hattempts, hclock, hcopies, hran, hlate⟩ :=
    sampleLateSign_attempts
  refine ⟨tr, r, first, second, hattempts.ends takePresign_notExpired, hattempts, hclock, hcopies,
    hran, ?_⟩
  have hended : Ends (sampleStep second.1) second.2.1 second.2.2 := hattempts.ended second (by simp)
  have hdecided := ageChecked_signatureOf sampleHeldState_issued _ _ hended
  exact not_not.mp (mt hdecided.not_refused_iff.mp hlate)

/-- A sign with a second attempt. -/
theorem retry_not_refused_sample : ∃ (tr : List (EngineEvent Unit Unit))
    (r : Except (EngineError Unit) Bytes) (attempts : List (EndedSign Unit Bytes)),
    EndedSigns sampleTake sampleStep ownPresignAttempts tr r attempts ∧ attempts.tail ≠ [] ∧
    ∀ attempt ∈ attempts.tail,
      (¬RefusedStale sampleHeldState.verifiedAt attempt.2.1 attempt.2.2 ↔
        CheckInTime sampleHeldState.verifiedAt attempt.2.1) := by
  obtain ⟨tr, r, first, second, hattempts, -⟩ := sampleLateSign_attempts
  refine ⟨tr, r, _, hattempts, by simp, ?_⟩
  exact ((retry_not_refused_iff samplePrimitives Unit sampleShareConnection [sampleHeldState]
    sampleHeldState sampleMockRequester 20 tr).1 sampleSignParams 180000 2 r sampleHeldState_issued
    (hattempts.ends takePresign_notExpired)).2 _ hattempts

end Ika
