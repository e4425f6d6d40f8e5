import IkaSdk.Core.Grpc.Committee

/-! What stands behind a committee that a client got from a validator: the
network's signature over its members and its epoch, a signer that the chain
registers, and an epoch that the chain had while the answer was checked. -/

namespace Ika

open Wire Interaction

/-! ## One committee -/

theorem decodeCommitteeAttestation_ok {bytes : Bytes} {attestation : CommitteeAttestation}
    (h : decodeCommitteeAttestation bytes = .ok attestation) :
    encodeCommitteeAttestation attestation = .ok bytes := by
  cases bytes with
  | nil => cases h
  | cons variant fields =>
    obtain ⟨_, hvariant, h₁⟩ := bind_ok h
    obtain ⟨_, hlength, h₂⟩ := bind_ok h₁
    cases h₂
    obtain rfl := ensure_ok hvariant
    have hfields : fields.length = 40 := by
      have hall := ensure_ok hlength
      rw [List.length_cons, committeeAttestationLength] at hall
      omega
    have hlow : (fields.take 8).length = 8 := by simp [hfields]
    have hhigh : (fields.drop 8).length = 32 := by simp [hfields]
    have hepoch := leValue_lt (fields.take 8)
    rw [hlow] at hepoch
    have hbytes := leBytes_leValue (fields.take 8)
    rw [hlow] at hbytes
    unfold encodeCommitteeAttestation
    rw [ensure_of hhigh, ok_bind, ensure_of (by norm_num at hepoch ⊢; omega), ok_bind]
    simp only [hbytes, List.take_append_drop]
    rfl

/-- The network's signer signed the committee: its epoch, and the digest of its
members, which are in order and not none. -/
structure CommitteeSigned (P : Primitives) (blake2b256 : Bytes → Bytes) (signed : SignedCommittee)
    (verified : VerifiedCommittee) : Prop where
  signature : P.ed25519Verify signed.signature (committeeSigningMessage signed.attestation)
    signed.signerNoaPublicKey = .ok true
  attestation : encodeCommitteeAttestation
    ⟨verified.epoch, committeeMembersDigest blake2b256 signed.members⟩ = .ok signed.attestation
  members : committeeMembersBcs.serialize verified.members = .ok signed.members
  ascending : strictlyAscending verified.members
  nonempty : verified.members ≠ []

section Answers

variable {P : Primitives} {blake2b256 : Bytes → Bytes}

theorem decodeCommitteeMembers_ok {members digest : Bytes} {list : List CommitteeMember}
    (h : decodeCommitteeMembers P blake2b256 members digest = .ok list) :
    committeeMembersDigest blake2b256 members = digest ∧
      committeeMembersBcs.serialize list = .ok members ∧ strictlyAscending list ∧ list ≠ [] := by
  obtain ⟨_, hdigest, h₁⟩ := bind_ok h
  obtain ⟨parsed, -, h₂⟩ := bind_ok h₁
  obtain ⟨_, hserialize, h₃⟩ := bind_ok h₂
  obtain ⟨_, hlength, h₄⟩ := bind_ok h₃
  obtain ⟨_, hascending, h₅⟩ := bind_ok h₄
  cases h₅
  refine ⟨ensure_ok hdigest, ensure_ok hserialize, ensure_ok hascending, ?_⟩
  rintro rfl
  exact ensure_ok hlength rfl

theorem verifySignedCommittee_ok {signed : SignedCommittee} {which : String}
    {verified : VerifiedCommittee}
    (h : verifySignedCommittee P blake2b256 signed which = .ok verified) :
    CommitteeSigned P blake2b256 signed verified := by
  obtain ⟨_, -, h₁⟩ := bind_ok h
  obtain ⟨_, -, h₂⟩ := bind_ok h₁
  obtain ⟨attestation, hattestation, h₃⟩ := bind_ok h₂
  obtain ⟨_, hsignature, h₄⟩ := bind_ok h₃
  obtain ⟨members, hmembers, h₅⟩ := bind_ok h₄
  cases h₅
  obtain ⟨hdigest, hserialize, hascending, hnonempty⟩ :=
    decodeCommitteeMembers_ok (mapError_ok hmembers)
  refine ⟨signatureVerifies_iff.mp (ensure_ok hsignature), ?_, hserialize, hascending, hnonempty⟩
  rw [hdigest]
  exact decodeCommitteeAttestation_ok (mapError_ok hattestation)

/-- The committee is signed, by a key that the chain answered is registered. -/
structure CommitteeChecked (P : Primitives) (blake2b256 : Bytes → Bytes)
    (signed : SignedCommittee) (tr : List (Event committeeInterface))
    (verified : VerifiedCommittee) : Prop extends CommitteeSigned P blake2b256 signed verified where
  registered : ⟨.isRegisteredNetworkKey signed.signerNoaPublicKey, .ok true⟩ ∈ tr

theorem CommitteeChecked.mono {signed : SignedCommittee} {verified : VerifiedCommittee}
    {tr tr' : List (Event committeeInterface)}
    (h : CommitteeChecked P blake2b256 signed tr verified) (hsub : ∀ e ∈ tr, e ∈ tr') :
    CommitteeChecked P blake2b256 signed tr' verified :=
  { h with registered := hsub _ h.registered }

@[simp] theorem gives_isRegisteredNetworkKey_iff {key : Bytes} {registered : Bool}
    {tr : List (Event committeeInterface)} :
    Eff.Gives (CommitteeEff.isRegisteredNetworkKey key) tr registered ↔
      tr = [⟨.isRegisteredNetworkKey key, .ok registered⟩] := by
  simp [Eff.Gives, CommitteeEff.isRegisteredNetworkKey, Prog.perform, Prog.returns_call_iff]

@[simp] theorem gives_currentEpoch_iff {epoch : ℕ} {tr : List (Event committeeInterface)} :
    Eff.Gives CommitteeEff.currentEpoch tr epoch ↔ tr = [⟨.currentEpoch, .ok epoch⟩] := by
  simp [Eff.Gives, CommitteeEff.currentEpoch, Prog.perform, Prog.returns_call_iff]

theorem verifyCommitteeSigner_gives {signed : SignedCommittee} {which : String}
    {tr : List (Event committeeInterface)} {verified : VerifiedCommittee}
    (h : Eff.Gives (verifyCommitteeSigner P blake2b256 signed which) tr verified) :
    CommitteeChecked P blake2b256 signed tr verified := by
  obtain ⟨checked, hchecked, h₁⟩ := Eff.gives_lift_bind_iff.mp h
  obtain ⟨tr₁, tr₂, registered, rfl, hread, h₂⟩ := Eff.gives_bind_iff.mp h₁
  obtain rfl := gives_isRegisteredNetworkKey_iff.mp hread
  obtain ⟨_, hregistered, h₃⟩ := Eff.gives_lift_bind_iff.mp h₂
  obtain ⟨rfl, rfl⟩ := Eff.gives_pure_iff.mp h₃
  obtain rfl : registered = true := ensure_ok hregistered
  exact { verifySignedCommittee_ok hchecked with registered := List.mem_cons_self }

/-! ## The answer -/

theorem epochStanding_fresh_iff {epoch chainEpoch : ℕ} :
    epochStanding epoch chainEpoch = .fresh ↔ epoch = chainEpoch ∨ epoch = chainEpoch + 1 := by
  unfold epochStanding
  split_ifs <;> simp <;> omega

theorem epochStanding_old_iff {epoch chainEpoch : ℕ} :
    epochStanding epoch chainEpoch = .old ↔ epoch < chainEpoch := by
  unfold epochStanding
  split_ifs <;> simp <;> omega

theorem settledByChainEpoch_old {epoch chainEpoch : ℕ} (h : epoch < chainEpoch) :
    ∃ message, settledByChainEpoch epoch chainEpoch = some (.error (.error message)) := by
  unfold settledByChainEpoch
  rw [epochStanding_old_iff.mpr h]
  exact ⟨_, rfl⟩

theorem freshChainEpoch_gives {epoch chainEpoch : ℕ} {retry : ChainEpochRetry} {fuel : ℕ}
    {tr : List (Event committeeInterface)}
    (h : Eff.Gives (freshChainEpoch epoch retry fuel) tr chainEpoch) :
    (∃ front, tr = front ++ [⟨.currentEpoch, .ok chainEpoch⟩]) ∧
      epochStanding epoch chainEpoch = .fresh := by
  obtain ⟨tr₁, tr₂, now, rfl, -, hpoll⟩ := Eff.gives_bind_iff.mp h
  obtain ⟨front, last, read, rfl, hread, hsettled⟩ := Polling.gives_poll hpoll
  obtain rfl := gives_currentEpoch_iff.mp hread
  change settledByChainEpoch epoch read = _ at hsettled
  unfold settledByChainEpoch at hsettled
  cases hstanding : epochStanding epoch read with
  | fresh =>
    simp only [hstanding] at hsettled
    cases hsettled
    exact ⟨⟨tr₁ ++ front, by simp⟩, hstanding⟩
  | old =>
    simp only [hstanding] at hsettled
    cases hsettled
  | ahead =>
    simp only [hstanding] at hsettled
    cases hsettled

/-- An answer passes when its committees do: each of an epoch that the chain had
during the check or of the one after, the next one right after the other. A
next committee that is served has to be good, also when it is left out. -/
structure AnswerChecked (P : Primitives) (blake2b256 : Bytes → Bytes) (answer : CommitteeAnswer)
    (tr : List (Event committeeInterface)) (result : VerifiedCommittees) : Prop where
  chainEpoch : ⟨.currentEpoch, .ok result.chainEpoch⟩ ∈ tr
  committee : ∃ signed, answer.committee = some signed ∧
    CommitteeChecked P blake2b256 signed tr result.committee
  epoch : result.committee.epoch = result.chainEpoch ∨
    result.committee.epoch = result.chainEpoch + 1
  next : ∀ next, result.nextCommittee = some next →
    (∃ signed, answer.nextCommittee = some signed ∧
      CommitteeChecked P blake2b256 signed tr next) ∧
    next.epoch = result.committee.epoch + 1 ∧
    (next.epoch = result.chainEpoch ∨ next.epoch = result.chainEpoch + 1)
  served : ∀ signed, answer.nextCommittee = some signed →
    ∃ next, CommitteeChecked P blake2b256 signed tr next ∧
      (next.epoch = result.committee.epoch + 1 ∧ next.epoch ≤ result.chainEpoch + 1 →
        result.nextCommittee = some next)

theorem verifyNextCommittee_gives {served : Option SignedCommittee}
    {tr : List (Event committeeInterface)} {next : Option VerifiedCommittee}
    (h : Eff.Gives (verifyNextCommittee P blake2b256 served) tr next) :
    (served = none ∧ next = none) ∨ ∃ signed verified, served = some signed ∧
      next = some verified ∧ CommitteeChecked P blake2b256 signed tr verified := by
  cases served with
  | none =>
    obtain ⟨-, rfl⟩ := Eff.gives_pure_iff.mp h
    exact .inl ⟨rfl, rfl⟩
  | some signed =>
    obtain ⟨tr₁, tr₂, verified, rfl, hverify, hpure⟩ := Eff.gives_bind_iff.mp h
    obtain ⟨rfl, rfl⟩ := Eff.gives_pure_iff.mp hpure
    rw [List.append_nil]
    exact .inr ⟨signed, verified, rfl, rfl, verifyCommitteeSigner_gives hverify⟩

theorem verifyCommitteeAnswer_gives {answer : CommitteeAnswer} {retry : ChainEpochRetry}
    {fuel : ℕ} {tr : List (Event committeeInterface)} {result : VerifiedCommittees}
    (h : Eff.Gives (verifyCommitteeAnswer P blake2b256 answer retry fuel) tr result) :
    AnswerChecked P blake2b256 answer tr result := by
  unfold verifyCommitteeAnswer at h
  cases hcommittee : answer.committee with
  | none => simp [hcommittee] at h
  | some signed =>
    simp only [hcommittee] at h
    obtain ⟨tr₁, tr₂, committee, rfl, hfirst, h₁⟩ := Eff.gives_bind_iff.mp h
    obtain ⟨tr₃, tr₄, next, rfl, hnext, h₂⟩ := Eff.gives_bind_iff.mp h₁
    obtain ⟨tr₅, tr₆, chainEpoch, rfl, hepoch, h₃⟩ := Eff.gives_bind_iff.mp h₂
    obtain ⟨rfl, rfl⟩ := Eff.gives_pure_iff.mp h₃
    obtain ⟨⟨front, rfl⟩, hfresh⟩ := freshChainEpoch_gives hepoch
    have hchecked := (verifyCommitteeSigner_gives hfirst).mono fun e he =>
      List.mem_append_left (tr₃ ++ (front ++ [⟨.currentEpoch, .ok chainEpoch⟩] ++ [])) he
    have hchain := epochStanding_fresh_iff.mp hfresh
    rcases verifyNextCommittee_gives hnext with
      ⟨hserved, rfl⟩ | ⟨signed', next, hserved, rfl, hgood⟩
    · exact {
        chainEpoch := by simp
        committee := ⟨signed, hcommittee, hchecked⟩
        epoch := hchain
        next := fun _ hsome => by simp at hsome
        served := fun _ hsome => by simp [hserved] at hsome }
    · have hgood' : CommitteeChecked P blake2b256 signed'
          (tr₁ ++ (tr₃ ++ (front ++ [⟨.currentEpoch, .ok chainEpoch⟩] ++ []))) next :=
        hgood.mono fun e he => by simp [he]
      refine {
        chainEpoch := by simp
        committee := ⟨signed, hcommittee, hchecked⟩
        epoch := hchain
        next := fun kept hkept => ?_
        served := fun other hother => ?_ }
      · dsimp only at hkept
        obtain ⟨hsame, hkeep⟩ := Option.filter_eq_some_iff.mp hkept
        obtain rfl := Option.some.inj hsame
        obtain ⟨hafter, hstanding⟩ := Bool.and_eq_true_iff.mp hkeep
        exact ⟨⟨signed', hserved, hgood'⟩, beq_iff_eq.mp hafter,
          epochStanding_fresh_iff.mp (beq_iff_eq.mp hstanding)⟩
      · obtain rfl : signed' = other := Option.some.inj (hserved.symm.trans hother)
        refine ⟨next, hgood', fun ⟨hafter, hle⟩ => ?_⟩
        dsimp only
        refine Option.filter_eq_some_iff.mpr ⟨rfl, Bool.and_eq_true_iff.mpr ⟨?_, ?_⟩⟩
        · exact beq_iff_eq.mpr hafter
        · refine beq_iff_eq.mpr (epochStanding_fresh_iff.mpr ?_)
          simp only at hafter hle ⊢
          omega

/-- The last thing that a check that passed did was to read the chain's epoch. -/
theorem verifyCommitteeAnswer_last {answer : CommitteeAnswer} {retry : ChainEpochRetry}
    {fuel : ℕ} {tr : List (Event committeeInterface)} {result : VerifiedCommittees}
    (h : Eff.Gives (verifyCommitteeAnswer P blake2b256 answer retry fuel) tr result) :
    ∃ front, tr = front ++ [⟨.currentEpoch, .ok result.chainEpoch⟩] := by
  unfold verifyCommitteeAnswer at h
  cases hcommittee : answer.committee with
  | none => simp [hcommittee] at h
  | some signed =>
    simp only [hcommittee] at h
    obtain ⟨tr₁, tr₂, committee, rfl, -, h₁⟩ := Eff.gives_bind_iff.mp h
    obtain ⟨tr₃, tr₄, next, rfl, -, h₂⟩ := Eff.gives_bind_iff.mp h₁
    obtain ⟨tr₅, tr₆, chainEpoch, rfl, hepoch, h₃⟩ := Eff.gives_bind_iff.mp h₂
    obtain ⟨rfl, rfl⟩ := Eff.gives_pure_iff.mp h₃
    obtain ⟨⟨front, rfl⟩, -⟩ := freshChainEpoch_gives hepoch
    exact ⟨tr₁ ++ (tr₃ ++ front), by simp⟩

/-! ## An older committee -/

/-- No epoch read so far is above the committee's. -/
def NoneAbove (epoch : ℕ) (h : List (Event committeeInterface)) : Prop :=
  ∀ e, ⟨.currentEpoch, .ok e⟩ ∈ h → e ≤ epoch

/-- Nothing is called once an epoch above the committee's was read. -/
def untilAbove (epoch : ℕ) : Setting committeeInterface (List (Event committeeInterface)) where
  moves h e h' := h' = h ++ [e]
  atCall h _ := NoneAbove epoch h
  atCut := NoneAbove epoch

/-- A program that ends with an error as soon as an epoch above was read. -/
def ThrownAbove {α : Type} (epoch : ℕ) (r : Except SdkError α)
    (h : List (Event committeeInterface)) : Prop :=
  NoneAbove epoch h ∨ ∃ message, r = .error (.error message)

theorem NoneAbove.append {epoch : ℕ} {h : List (Event committeeInterface)}
    {e : Event committeeInterface} (hnone : NoneAbove epoch h)
    (hother : ∀ read, e ≠ ⟨.currentEpoch, .ok read⟩) : NoneAbove epoch (h ++ [e]) := by
  intro read hread
  rcases List.mem_append.mp hread with hold | hnew
  · exact hnone read hold
  · exact absurd (List.mem_singleton.mp hnew).symm (hother read)

theorem NoneAbove.append_read {epoch read : ℕ} {h : List (Event committeeInterface)}
    (hnone : NoneAbove epoch h) (hle : read ≤ epoch) :
    NoneAbove epoch (h ++ [⟨.currentEpoch, .ok read⟩]) := by
  intro other hother
  rcases List.mem_append.mp hother with hold | hnew
  · exact hnone other hold
  · simp only [List.mem_singleton, Event.mk.injEq, heq_eq_eq, true_and, Except.ok.injEq] at hnew
    exact hnew ▸ hle

theorem wp_freshChainEpoch {epoch : ℕ} {retry : ChainEpochRetry} {fuel : ℕ}
    {h : List (Event committeeInterface)} (hnone : NoneAbove epoch h) :
    Eff.wp (untilAbove epoch) (freshChainEpoch epoch retry fuel) (ThrownAbove epoch) h := by
  refine Eff.wp_liftOp_bind hnone ?_
  rintro now _ rfl
  have hstart : NoneAbove epoch (h ++ [⟨.now, now⟩]) := hnone.append (by simp)
  refine Polling.wp_poll (fun _ => NoneAbove epoch) (fun _ hw => hw) ?_ hstart
  intro fuel w hw
  refine ⟨hw, ?_⟩
  rintro answer _ rfl
  cases answer with
  | error e => exact .inl (hw.append (by simp))
  | ok read =>
    by_cases hold : epoch < read
    · -- The chain has left the committee behind: the poll ends with this read.
      obtain ⟨message, hsettled⟩ := settledByChainEpoch_old hold
      exact Polling.afterRead_settled hsettled (.inr ⟨message, rfl⟩)
    · have hread := hw.append_read (Nat.le_of_not_lt hold)
      cases hsettled : settledByChainEpoch epoch read with
      | some outcome => exact Polling.afterRead_settled hsettled (.inl hread)
      | none =>
        refine Polling.afterRead_pause hsettled (Eff.wp_liftOp hread ?_)
        rintro now _ rfl
        have hnow := hread.append (e := ⟨.now, now⟩) (by simp)
        refine ⟨fun _ => Eff.wp_liftOp hnow ?_, fun _ => .inl hnow⟩
        rintro _ _ rfl
        exact hnow.append (by simp)

theorem wp_verifyCommitteeSigner {epoch : ℕ} {signed : SignedCommittee} {which : String}
    {h : List (Event committeeInterface)} (hnone : NoneAbove epoch h) :
    Eff.wp (untilAbove epoch) (verifyCommitteeSigner P blake2b256 signed which)
      (fun r h => NoneAbove epoch h ∧
        ∀ verified, r = .ok verified → verifySignedCommittee P blake2b256 signed which = r) h := by
  refine Eff.wp_lift_bind (fun verified hverified => ?_) fun e _ => ⟨hnone, by simp⟩
  refine Eff.wp_bind ⟨hnone, ?_⟩
  rintro answer _ rfl
  have hasked := hnone.append (e := ⟨.isRegisteredNetworkKey signed.signerNoaPublicKey, answer⟩)
    (by simp)
  cases answer with
  | error e => exact ⟨hasked, by simp⟩
  | ok registered =>
    refine Eff.wp_lift_bind (fun _ _ => ?_) fun e _ => ⟨hasked, by simp⟩
    exact ⟨hasked, fun _ _ => hverified⟩

theorem wp_verifyNextCommittee {epoch : ℕ} {served : Option SignedCommittee}
    {h : List (Event committeeInterface)} (hnone : NoneAbove epoch h) :
    Eff.wp (untilAbove epoch) (verifyNextCommittee P blake2b256 served)
      (fun _ h => NoneAbove epoch h) h := by
  cases served with
  | none => exact hnone
  | some signed =>
    refine Eff.wp_bind (Eff.wp_mono (wp_verifyCommitteeSigner hnone) ?_)
    rintro r h ⟨hnone, -⟩
    cases r with
    | error e => exact hnone
    | ok verified => exact hnone

theorem wp_verifyCommitteeAnswer {answer : CommitteeAnswer} {retry : ChainEpochRetry} {fuel : ℕ}
    {signed : SignedCommittee} {verified : VerifiedCommittee}
    (hanswer : answer.committee = some signed)
    (hverified : verifySignedCommittee P blake2b256 signed "committee" = .ok verified) :
    Eff.wp (untilAbove verified.epoch) (verifyCommitteeAnswer P blake2b256 answer retry fuel)
      (ThrownAbove verified.epoch) [] := by
  have hnone : NoneAbove verified.epoch [] := fun _ h => by cases h
  unfold verifyCommitteeAnswer
  simp only [hanswer]
  refine Eff.wp_bind (Eff.wp_mono (wp_verifyCommitteeSigner hnone) ?_)
  rintro r h ⟨hnone, hsame⟩
  cases r with
  | error e => exact .inl hnone
  | ok committee =>
    obtain rfl : verified = committee :=
      Except.ok.inj (hverified.symm.trans (hsame committee rfl))
    refine Eff.wp_bind (Eff.wp_mono (wp_verifyNextCommittee hnone) ?_)
    intro r h hnone
    cases r with
    | error e => exact .inl hnone
    | ok next =>
      refine Eff.wp_bind (Eff.wp_mono (wp_freshChainEpoch hnone) ?_)
      intro r h hthrown
      cases r with
      | error e =>
        exact hthrown.imp_right fun ⟨message, hmessage⟩ => ⟨message, by cases hmessage; rfl⟩
      | ok chainEpoch =>
        rcases hthrown with hnone | ⟨message, hmessage⟩
        · exact .inl hnone
        · cases hmessage

theorem path_untilAbove (epoch : ℕ) (h tr : List (Event committeeInterface)) :
    Path (untilAbove epoch).moves h tr (h ++ tr) :=
  path_history (fun h _ => NoneAbove epoch h) h tr

/-- A committee older than the chain is refused at the read that shows it, with
no operation after it. -/
theorem older_committee_refused {answer : CommitteeAnswer} {retry : ChainEpochRetry} {fuel : ℕ}
    {signed : SignedCommittee} {verified : VerifiedCommittee}
    (hanswer : answer.committee = some signed)
    (hverified : verifySignedCommittee P blake2b256 signed "committee" = .ok verified)
    {chainEpoch : ℕ} (hold : verified.epoch < chainEpoch)
    {front back : List (Event committeeInterface)}
    {q : Prog committeeInterface (Except SdkError VerifiedCommittees)}
    (hrun : Prog.Run (verifyCommitteeAnswer P blake2b256 answer retry fuel).run
      (front ++ ⟨.currentEpoch, .ok chainEpoch⟩ :: back) q) :
    back = [] ∧ ∃ message, q = .pure (.error (.error message)) := by
  have hwp := @wp_verifyCommitteeAnswer P blake2b256 answer retry fuel _ _ hanswer hverified
  rw [List.append_cons] at hrun
  obtain ⟨q', hfront, hback⟩ := Prog.run_of_append hrun
  have hleft := Prog.wp_run hfront hwp (path_untilAbove verified.epoch [] _)
  have habove : ¬NoneAbove verified.epoch
      ([] ++ (front ++ [(⟨.currentEpoch, .ok chainEpoch⟩ : Event committeeInterface)])) :=
    fun hnone => absurd (hnone chainEpoch (by simp)) (Nat.not_le.mpr hold)
  cases q' with
  | pure r =>
    rcases hleft with hnone | ⟨message, rfl⟩
    · exact absurd hnone habove
    · obtain ⟨rfl, rfl⟩ := Prog.run_pure_iff.mp hback
      exact ⟨rfl, message, rfl⟩
  | cut => exact absurd hleft habove
  | call op k => exact absurd hleft.1 habove

/-! ## The end of a check -/

/-- A clock that goes forward in every pause. -/
def Ticks (s : ℤ) (e : Event committeeInterface) (t : ℤ) : Prop :=
  match e with
  | ⟨.now, time⟩ => s ≤ t ∧ time = t
  | ⟨.sleep ms, _⟩ => s ≤ t ∧ (0 < ms → s < t)
  | _ => s ≤ t

/-- Where a check is cut, on a ticking clock, would be never. -/
def tickingClock : Setting committeeInterface ℤ where
  moves := Ticks
  atCall _ _ := True
  atCut _ := False

theorem wp_freshChainEpoch_ends {epoch : ℕ} {retry : ChainEpochRetry} {fuel : ℕ}
    (hpause : 0 < retry.pauseMs) (hfuel : retry.budgetMs < fuel) (time : ℤ) :
    Eff.wp tickingClock (freshChainEpoch epoch retry (fuel + 1)) (fun _ _ => True) time := by
  refine Eff.wp_liftOp_bind trivial fun now start hnow => ?_
  refine Polling.wp_poll_within id (fun _ => True) True ?_ ?_ ?_ ?_
    (fun _ => hpause) (fun _ => ?_) trivial
  · exact fun w _ h => h trivial
  · refine fun w _ => ⟨trivial, fun answer w' hmove => ?_⟩
    cases answer with
    | error e => trivial
    | ok epoch => exact ⟨trivial, hmove, fun _ _ => trivial⟩
  · exact fun w _ => Eff.wp_liftOp trivial fun now w' hmove =>
      ⟨trivial, hmove.1, hmove.2, fun _ => trivial⟩
  · exact fun w _ _ => Eff.wp_liftOp trivial fun _ w' hmove => ⟨trivial, hmove.2⟩
  · have hstart : (now : ℤ) = start := hnow.2
    have hbudget : start + retry.budgetMs < start + fuel := by omega
    rw [← hstart] at hbudget ⊢
    exact hbudget

/-- With turns enough for the time given, a check is never cut short. -/
theorem verifyCommitteeAnswer_ends {answer : CommitteeAnswer} {retry : ChainEpochRetry} {fuel : ℕ}
    (hpause : 0 < retry.pauseMs) (hfuel : retry.budgetMs < fuel)
    {tr : List (Event committeeInterface)} {s t : ℤ} (hpath : Path Ticks s tr t) :
    ¬Prog.Run (verifyCommitteeAnswer P blake2b256 answer retry (fuel + 1)).run tr .cut := by
  have hsigner (signed : SignedCommittee) (which : String) (time : ℤ) : Eff.wp tickingClock
      (verifyCommitteeSigner P blake2b256 signed which) (fun _ _ => True) time := by
    refine Eff.wp_lift_bind (fun _ _ => ?_) fun _ _ => trivial
    refine Eff.wp_bind ⟨trivial, fun answer w' _ => ?_⟩
    cases answer with
    | error e => trivial
    | ok registered => exact Eff.wp_lift_bind (fun _ _ => trivial) fun _ _ => trivial
  have hnext (served : Option SignedCommittee) (time : ℤ) : Eff.wp tickingClock
      (verifyNextCommittee P blake2b256 served) (fun _ _ => True) time := by
    cases served with
    | none => trivial
    | some signed =>
      refine Eff.wp_bind (Eff.wp_mono (hsigner signed _ time) fun r w' _ => ?_)
      cases r <;> trivial
  have hends : Eff.wp tickingClock (verifyCommitteeAnswer P blake2b256 answer retry (fuel + 1))
      (fun _ _ => True) s := ?_
  · exact fun hrun => Eff.wp_cuts hends hrun hpath
  unfold verifyCommitteeAnswer
  cases answer.committee with
  | none => trivial
  | some signed =>
    refine Eff.wp_bind (Eff.wp_mono (hsigner signed _ s) fun r w₁ _ => ?_)
    cases r with
    | error e => trivial
    | ok committee =>
      refine Eff.wp_bind (Eff.wp_mono (hnext answer.nextCommittee w₁) fun r w₂ _ => ?_)
      cases r with
      | error e => trivial
      | ok next =>
        refine Eff.wp_bind (Eff.wp_mono (wp_freshChainEpoch_ends hpause hfuel w₂) fun r w₃ _ => ?_)
        cases r <;> trivial

end Answers

/-! ## Every answer -/

theorem committee_answers_checked (P : Primitives) (blake2b256 : Bytes → Bytes)
    (answer : CommitteeAnswer) (retry : ChainEpochRetry) (fuel : ℕ) :
    (∀ tr result, Eff.Gives (verifyCommitteeAnswer P blake2b256 answer retry fuel) tr result →
      AnswerChecked P blake2b256 answer tr result) ∧
    ∀ signed verified chainEpoch front back q, answer.committee = some signed →
      verifySignedCommittee P blake2b256 signed "committee" = .ok verified →
      verified.epoch < chainEpoch →
      Prog.Run (verifyCommitteeAnswer P blake2b256 answer retry fuel).run
        (front ++ ⟨.currentEpoch, .ok chainEpoch⟩ :: back) q →
      back = [] ∧ ∃ message, q = .pure (.error (.error message)) := by
  refine ⟨fun tr result h => verifyCommitteeAnswer_gives h, ?_⟩
  intro signed verified chainEpoch front back q hanswer hverified hold hrun
  exact older_committee_refused hanswer hverified hold hrun

def sampleMember : CommitteeMember := ⟨List.replicate 32 1, List.replicate 32 2⟩

def sampleSignedCommittee (epoch : ℕ) : SignedCommittee where
  members := committeeMembersBcs.encode [sampleMember]
  attestation := 0 :: (leBytes 8 epoch ++
    samplePrimitives.keccak256 (committeeMembersBcs.encode [sampleMember]))
  signerNoaPublicKey := List.replicate 32 7
  signature := List.replicate 64 0

def sampleCommitteeAnswer : CommitteeAnswer :=
  ⟨some (sampleSignedCommittee 5), some (sampleSignedCommittee 6)⟩

/-- A chain that stands at epoch 3 until its fourth answer, and at epoch 5 from then. -/
def sampleChain (n : ℕ) : ∀ op : CommitteeOp, CommitteeOp.Ans op
  | .now => n
  | .sleep _ => ()
  | .currentEpoch => .ok (if n < 4 then 3 else 5)
  | .isRegisteredNetworkKey _ => .ok true

theorem committee_answers_checked_sample : ∃ tr result,
    Eff.Gives (verifyCommitteeAnswer samplePrimitives samplePrimitives.keccak256
      sampleCommitteeAnswer chainEpochRetry 3) tr result ∧
    result.nextCommittee = some ⟨6, [sampleMember]⟩ ∧
    ⟨.currentEpoch, .ok result.chainEpoch⟩ ∈ tr := by
  have hsample : (Prog.transcript (I := committeeInterface) sampleChain 0 (verifyCommitteeAnswer
      samplePrimitives samplePrimitives.keccak256 sampleCommitteeAnswer chainEpochRetry 3).run).any
      (fun r => decide (r.2 = .ok ⟨5, ⟨5, [sampleMember]⟩, some ⟨6, [sampleMember]⟩⟩)) = true := by
    decide +kernel
  obtain ⟨⟨tr, r⟩, hrun, hresult⟩ := (Option.any_eq_true _ _).mp hsample
  obtain rfl := of_decide_eq_true hresult
  have hgives := Prog.returns_of_transcript hrun
  refine ⟨tr, _, hgives, rfl, ?_⟩
  exact ((committee_answers_checked samplePrimitives samplePrimitives.keccak256
    sampleCommitteeAnswer chainEpochRetry 3).1 tr _ hgives).chainEpoch

end Ika
