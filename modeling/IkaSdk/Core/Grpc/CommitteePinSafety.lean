import IkaSdk.Core.Grpc.CommitteePin
import IkaSdk.Core.Grpc.CommitteeSafety
import IkaSdk.Lib.Sequels

/-! What holds in every order of setups, committee reads, reads of the chain's epoch
and reconnects: a key is accepted only as that of a member of a held committee, and
only while the chain's epoch was read a short time ago. -/

namespace Ika

open Wire Interaction

/-! ## What one task has done when it acts on the pin -/

/-- The key that an event accepts for a call's channel. -/
def acceptedKey : Event pinInterface → Option Bytes
  | ⟨.contains networkKey, true⟩ => some networkKey
  | ⟨.keepCommittees _ networkKey, .ok true⟩ => some networkKey
  | ⟨.reconnectCheck networkKey, none⟩ => some networkKey
  | _ => none

/-- The failures of a setup that the transport marks as those of a key that is not a
committee member's. -/
def marksNotACommitteeMember : PinThrown → Bool
  | .unexpectedNetworkKey _ => true
  | _ => false

section Tasks

variable {P : Primitives} {blake2b256 : Bytes → Bytes} {x509 : X509}
  {decodeCommitteeAnswer : Bytes → Except String CommitteeAnswer} {retry : ChainEpochRetry}
  {fuel : ℕ} {h : List (Event pinInterface)}

/-- The events of a check of some answer that passed. -/
def PassedCheck (P : Primitives) (blake2b256 : Bytes → Bytes) (retry : ChainEpochRetry)
    (fuel : ℕ) (verified : VerifiedCommittees) (tr : List (Event pinInterface)) : Prop :=
  ∃ answer es, Eff.Gives (verifyCommitteeAnswer P blake2b256 answer retry fuel) es verified ∧
    Prog.Implements recordingReader es tr

/-- What a task did just before it acts on the pin. -/
def PinCall (P : Primitives) (blake2b256 : Bytes → Bytes) (retry : ChainEpochRetry) (fuel : ℕ)
    (h : List (Event pinInterface)) : PinOp → Prop
  | .recordChainEpoch chainEpoch => ∃ front, h = front ++ [⟨.currentEpoch, .ok chainEpoch⟩]
  | .contains _ => (∃ front, h = front ++ [⟨.isStale, false⟩]) ∨
      ∃ front chainEpoch, h = front ++ [⟨.recordChainEpoch chainEpoch, ()⟩]
  | .keepCommittees verified _ => ∃ front tr, h = front ++ tr ∧
      PassedCheck P blake2b256 retry fuel verified tr
  | _ => True

/-- The first that a setup did: the endpoint served the certificate, whose key this
is, and it was right at the time that the clock said then. -/
structure ServedFirst (x509 : X509) (endpoint : String) (certificate networkKey : Bytes)
    (h : List (Event pinInterface)) : Prop where
  served : ∃ now tr, h = ⟨.fetchServedCertificate endpoint, .ok certificate⟩ ::
    ⟨.now, now⟩ :: tr ∧ x509.checkCertificateExceptKey certificate now = .ok ()
  key : x509.certificateNetworkKey certificate = .ok networkKey

theorem ServedFirst.append {endpoint : String} {certificate networkKey : Bytes}
    (hserved : ServedFirst x509 endpoint certificate networkKey h)
    (tr : List (Event pinInterface)) :
    ServedFirst x509 endpoint certificate networkKey (h ++ tr) := by
  obtain ⟨⟨now, tr', rfl, hcheck⟩, hkey⟩ := hserved
  exact ⟨⟨now, tr' ++ tr, rfl, hcheck⟩, hkey⟩

/-- The committees of an answer that just passed its check do not list the key. -/
def NotListed (P : Primitives) (blake2b256 : Bytes → Bytes) (retry : ChainEpochRetry) (fuel : ℕ)
    (networkKey : Bytes) (h : List (Event pinInterface)) : Prop :=
  ∃ front tr verified, h = front ++ tr ++ [⟨.keepCommittees verified networkKey, .ok false⟩] ∧
    PassedCheck P blake2b256 retry fuel verified tr

def LastAccepts (networkKey : Bytes) (h : List (Event pinInterface)) : Prop :=
  ∃ front event, h = front ++ [event] ∧ acceptedKey event = some networkKey

/-- What a task did that ended so. -/
def PinEnd (P : Primitives) (blake2b256 : Bytes → Bytes) (x509 : X509) (retry : ChainEpochRetry)
    (fuel : ℕ) (result : PinResult) (h : List (Event pinInterface)) : Prop :=
  match result with
  | .connected (.ok channel) =>
    ServedFirst x509 channel.endpoint channel.certificate channel.networkKey h ∧
      LastAccepts channel.networkKey h
  | .connected (.error thrown) => marksNotACommitteeMember thrown = true →
    ∃ endpoint certificate networkKey, ServedFirst x509 endpoint certificate networkKey h ∧
      NotListed P blake2b256 retry fuel networkKey h
  | .checked _ => True

abbrev pinSetting (P : Primitives) (blake2b256 : Bytes → Bytes) (retry : ChainEpochRetry)
    (fuel : ℕ) : Setting pinInterface (List (Event pinInterface)) :=
  historySetting (PinCall P blake2b256 retry fuel)

theorem wp_recordingReader (op : CommitteeOp) (h : List (Event pinInterface)) :
    (recordingReader op).wp (pinSetting P blake2b256 retry fuel) (fun _ _ => True) h := by
  cases op with
  | now => exact ⟨trivial, fun _ _ _ => trivial⟩
  | sleep ms => exact ⟨trivial, fun _ _ _ => trivial⟩
  | isRegisteredNetworkKey key => exact ⟨trivial, fun _ _ _ => trivial⟩
  | currentEpoch =>
    refine ⟨trivial, ?_⟩
    rintro (error | chainEpoch) _ rfl
    · trivial
    · exact ⟨⟨h, rfl⟩, fun _ _ _ => trivial⟩

/-- A check over the recording reader that passed leaves its events at the end. -/
theorem wp_verifyRecorded {answer : CommitteeAnswer} :
    Eff.wp (pinSetting P blake2b256 retry fuel) (verifyRecorded P blake2b256 retry fuel answer)
      (fun r h' => (∃ error, r = .error (.reader error)) ∨
        ∃ verified tr, r = .ok verified ∧ h' = h ++ tr ∧
          PassedCheck P blake2b256 retry fuel verified tr) h := by
  refine Prog.wp_bind ?_
  have hall := Prog.wp_interp (S := pinSetting P blake2b256 retry fuel) (fun _ => trivial)
    wp_recordingReader (verifyCommitteeAnswer P blake2b256 answer retry fuel).run h
  refine Prog.wp_mono (Prog.wp_history_returns hall) ?_
  rintro (error | verified) h' ⟨tr, rfl, hreturns⟩
  · exact .inl ⟨error, rfl⟩
  · obtain ⟨es, hes, himplements⟩ := Prog.returns_interp hreturns
    exact .inr ⟨verified, tr, rfl, rfl, answer, es, hes, himplements⟩

/-- What a committee read did that ended so. -/
def ReadEnd (P : Primitives) (blake2b256 : Bytes → Bytes) (retry : ChainEpochRetry) (fuel : ℕ)
    (networkKey : Bytes) (r : Except PinThrown Bool) (h : List (Event pinInterface)) : Prop :=
  match r with
  | .ok true => LastAccepts networkKey h
  | .ok false => NotListed P blake2b256 retry fuel networkKey h
  | .error thrown => marksNotACommitteeMember thrown = false

theorem wp_readAnswer {endpoint : String} {networkKey : Bytes} {setupDeadline : ℤ} {rounds : ℕ} :
    Eff.wp (pinSetting P blake2b256 retry fuel)
      (readAnswer retry endpoint networkKey setupDeadline rounds)
      (fun r _ => ∀ thrown, r = .error thrown → marksNotACommitteeMember thrown = false) h := by
  induction rounds generalizing h with
  | zero => exact Eff.wp_cut trivial
  | succ rounds ih =>
    refine Eff.wp_liftOp_bind trivial fun now _ _ => ?_
    refine Eff.wp_liftOp_bind trivial fun answer _ _ => ?_
    cases answer with
    | ok response => exact Eff.wp_pure (by simp)
    | error error =>
      refine Eff.wp_liftOp_bind trivial fun now _ _ => ?_
      dsimp only
      split_ifs
      · refine Eff.wp_bind (Eff.wp_throw fun thrown hthrown => ?_)
        cases hthrown
        rfl
      · exact Eff.wp_liftOp_bind trivial fun _ _ _ => ih

theorem wp_readCommittee {endpoint : String} {networkKey : Bytes} {setupDeadline : ℤ} :
    Eff.wp (pinSetting P blake2b256 retry fuel) (readCommittee P blake2b256 decodeCommitteeAnswer
      retry fuel endpoint networkKey setupDeadline)
      (ReadEnd P blake2b256 retry fuel networkKey) h := by
  refine Eff.wp_bind (Eff.wp_mono wp_readAnswer ?_)
  rintro (thrown | response) h₁ hread
  · exact hread thrown rfl
  refine Eff.wp_lift_bind (fun answer _ => ?_) fun thrown hthrown => ?_
  · refine Eff.wp_bind (Eff.wp_mono wp_verifyRecorded ?_)
    rintro _ h₂ (⟨error, rfl⟩ | ⟨verified, tr, rfl, rfl, hpassed⟩)
    · exact rfl
    refine Eff.wp_ofOp ⟨h₁, tr, rfl, hpassed⟩ ?_
    rintro (refusal | _ | _) _ rfl
    · exact rfl
    · exact ⟨h₁, tr, verified, rfl, hpassed⟩
    · exact ⟨h₁ ++ tr, _, rfl, rfl⟩
  · obtain ⟨message, -, rfl⟩ : ∃ message, decodeCommitteeAnswer response = .error message ∧
        PinThrown.error message = thrown := by
      cases hdecode : decodeCommitteeAnswer response with
      | error message =>
        rw [hdecode] at hthrown
        exact ⟨message, rfl, Except.error.inj hthrown⟩
      | ok answer =>
        rw [hdecode] at hthrown
        cases hthrown
    exact rfl

theorem wp_readCommitteeFrom {endpoint : String} {networkKey : Bytes} {setupDeadline : ℤ} :
    Eff.wp (pinSetting P blake2b256 retry fuel) (readCommitteeFrom P blake2b256
      decodeCommitteeAnswer retry fuel endpoint networkKey setupDeadline)
      (ReadEnd P blake2b256 retry fuel networkKey) h := by
  refine Eff.wp_tryCatch (Eff.wp_mono wp_readCommittee ?_)
  rintro (thrown | isMember) h' hend
  · dsimp only
    split_ifs
    · exact Eff.wp_throw hend
    · exact Eff.wp_throw rfl
  · exact hend

/-- Before a cached key is looked up, the last read is not too old, or was just made. -/
def Refreshed (h : List (Event pinInterface)) : Prop :=
  (∃ front, h = front ++ [⟨.isStale, false⟩]) ∨
    ∃ front chainEpoch, h = front ++ [⟨.recordChainEpoch chainEpoch, ()⟩]

theorem wp_refreshChainEpoch :
    Eff.wp (pinSetting P blake2b256 retry fuel) refreshChainEpoch (fun r h' =>
      (∃ error, r = .error (.reader error)) ∨ r = .ok () ∧ Refreshed h') h := by
  refine Eff.wp_liftOp_bind trivial ?_
  rintro (_ | _) h₁ rfl
  · exact .inr ⟨rfl, .inl ⟨h, rfl⟩⟩
  · refine Eff.wp_ofOp_bind trivial ?_
    rintro (error | chainEpoch) h₂ rfl
    · exact .inl ⟨error, rfl⟩
    · refine Eff.wp_liftOp ⟨_, rfl⟩ ?_
      rintro _ h₃ rfl
      exact .inr ⟨rfl, .inr ⟨_, chainEpoch, rfl⟩⟩

theorem wp_requireMember {endpoint : String} {networkKey : Bytes} {setupDeadline : ℤ}
    {held : Bool} (hheld : held = true → LastAccepts networkKey h) :
    Eff.wp (pinSetting P blake2b256 retry fuel) (requireMember P blake2b256 decodeCommitteeAnswer
      retry fuel endpoint networkKey setupDeadline held)
      (fun r h' => match r with
        | .ok _ => LastAccepts networkKey h'
        | .error thrown => marksNotACommitteeMember thrown = true →
            NotListed P blake2b256 retry fuel networkKey h') h := by
  cases held with
  | true => exact Eff.wp_pure (hheld rfl)
  | false =>
    refine Eff.wp_bind (Eff.wp_mono wp_readCommitteeFrom ?_)
    rintro (thrown | _ | _) h' hend
    · -- No failure of the read itself is that of a key.
      intro hmarked
      have hnot : marksNotACommitteeMember thrown = false := hend
      rw [hnot] at hmarked
      cases hmarked
    · exact Eff.wp_lift fun _ => hend
    · exact Eff.wp_lift hend

theorem checkServedNetworkKeyCertificate_ok {certificate networkKey : Bytes} {now : ℤ}
    (h : checkServedNetworkKeyCertificate x509 certificate now = .ok networkKey) :
    x509.certificateNetworkKey certificate = .ok networkKey ∧
      x509.checkCertificateExceptKey certificate now = .ok () := by
  obtain ⟨servedKey, hkey, h₁⟩ := bind_ok h
  obtain ⟨_, hcheck, h₂⟩ := bind_ok h₁
  cases h₂
  exact ⟨hkey, hcheck⟩

/-- How a setup ends after its server showed a right certificate. -/
theorem wp_admit {endpoint : String} {certificate networkKey : Bytes} {setupDeadline : ℤ} :
    Eff.wp (pinSetting P blake2b256 retry fuel) (do
      refreshChainEpoch
      let held ← PinEff.tell (.contains networkKey)
      requireMember P blake2b256 decodeCommitteeAnswer retry fuel endpoint networkKey setupDeadline
        held
      return ({ endpoint, certificate, networkKey } : PinnedChannel))
      (fun r h' => match r with
        | .ok channel => channel = ⟨endpoint, certificate, networkKey⟩ ∧ LastAccepts networkKey h'
        | .error thrown => marksNotACommitteeMember thrown = true →
            NotListed P blake2b256 retry fuel networkKey h') h := by
  refine Eff.wp_bind (Eff.wp_mono wp_refreshChainEpoch ?_)
  rintro _ h₁ (⟨error, rfl⟩ | ⟨rfl, hrefreshed⟩)
  · exact fun hmarked => by cases hmarked
  refine Eff.wp_liftOp_bind hrefreshed ?_
  rintro held h₂ rfl
  have hheld : held = true → LastAccepts networkKey (h₁ ++ [⟨.contains networkKey, held⟩]) := by
    rintro rfl
    exact ⟨h₁, _, rfl, rfl⟩
  refine Eff.wp_bind (Eff.wp_mono (wp_requireMember hheld) ?_)
  rintro (thrown | _) h₃ hend
  · exact hend
  · exact Eff.wp_pure ⟨rfl, hend⟩

/-- A setup acts on the pin as it should, and ends so. -/
theorem wp_connect {endpoint : String} {setupDeadline : ℤ} :
    Eff.wp (pinSetting P blake2b256 retry fuel) (connect P blake2b256 x509 decodeCommitteeAnswer
      retry fuel endpoint setupDeadline)
      (fun r h => PinEnd P blake2b256 x509 retry fuel (.connected r) h) [] := by
  have hnotMarked : ∀ {thrown} {h' : List (Event pinInterface)},
      marksNotACommitteeMember thrown = false →
      PinEnd P blake2b256 x509 retry fuel (.connected (.error thrown)) h' := by
    intro thrown h' hnot hmarked
    rw [hnot] at hmarked
    cases hmarked
  refine Eff.wp_ofOp_bind trivial ?_
  rintro (message | certificate) h₁ rfl
  · exact hnotMarked rfl
  refine Eff.wp_liftOp_bind trivial ?_
  rintro now h₂ rfl
  refine Eff.wp_lift_bind (fun networkKey hkey => ?_) fun thrown hthrown => ?_
  · have hserved : ServedFirst x509 endpoint certificate networkKey
        [⟨.fetchServedCertificate endpoint, .ok certificate⟩, ⟨.now, now⟩] := by
      cases hshown : checkServedNetworkKeyCertificate x509 certificate now with
      | error message =>
        rw [hshown] at hkey
        cases hkey
      | ok key =>
        rw [hshown] at hkey
        cases hkey
        obtain ⟨hkey, hcheck⟩ := checkServedNetworkKeyCertificate_ok hshown
        exact ⟨⟨now, [], rfl, hcheck⟩, hkey⟩
    refine Prog.wp_mono (Prog.wp_history_grows wp_admit) ?_
    rintro (thrown | channel) h₃ ⟨⟨tr, rfl⟩, hend⟩
    · exact fun hmarked => ⟨endpoint, certificate, networkKey, hserved.append tr, hend hmarked⟩
    · obtain ⟨rfl, haccepts⟩ := hend
      exact ⟨hserved.append tr, haccepts⟩
  · cases hserved : checkServedNetworkKeyCertificate x509 certificate now with
    | error message =>
      rw [hserved] at hthrown
      cases hthrown
      exact hnotMarked rfl
    | ok key =>
      rw [hserved] at hthrown
      cases hthrown

theorem keyCheckOf_none {certificate networkKey : Bytes} {now : ℤ}
    (h : keyCheckOf x509 certificate networkKey now = none) :
    x509.certificateNetworkKey certificate = .ok networkKey ∧
      x509.checkCertificateExceptKey certificate now = .ok () := by
  unfold keyCheckOf at h
  split at h
  · next hchecked =>
    obtain ⟨servedKey, hkey, h₁⟩ := bind_ok hchecked
    obtain ⟨_, hsame, hcheck⟩ := bind_ok h₁
    obtain rfl := ensure_ok hsame
    exact ⟨hkey, hcheck⟩
  · cases h

/-- The certificate that a connection shows is a right one of the channel's key, and
the reconnect check of that key let it through at once. -/
def LetThrough (x509 : X509) (networkKey certificate : Bytes) (h : List (Event pinInterface)) :
    Prop :=
  ∃ now, h = [⟨.now, now⟩, ⟨.reconnectCheck networkKey, none⟩] ∧
    x509.certificateNetworkKey certificate = .ok networkKey ∧
    x509.checkCertificateExceptKey certificate now = .ok ()

theorem wp_checkServerIdentity {networkKey certificate : Bytes} :
    (checkServerIdentity x509 networkKey certificate).wp (pinSetting P blake2b256 retry fuel)
      (fun refusal h => refusal = none → LetThrough x509 networkKey certificate h) [] := by
  refine ⟨trivial, ?_⟩
  rintro now h₁ rfl
  dsimp only [bind_pure_comp, Prog.bind]
  cases hcheck : keyCheckOf x509 certificate networkKey now with
  | some refusal => exact fun hnone => by cases hnone
  | none =>
    refine ⟨trivial, ?_⟩
    rintro (_ | refusal) h₂ rfl
    · exact fun _ => ⟨now, rfl, keyCheckOf_none hcheck⟩
    · exact fun hnone => by cases hnone

theorem wp_pinTask {p : Prog pinInterface PinResult}
    (hp : PinTask P blake2b256 x509 decodeCommitteeAnswer retry fuel p) :
    p.wp (pinSetting P blake2b256 retry fuel) (PinEnd P blake2b256 x509 retry fuel) [] := by
  cases hp with
  | connect endpoint setupDeadline => exact Prog.wp_bind wp_connect
  | check networkKey certificate =>
    exact Prog.wp_bind (Prog.wp_mono wp_checkServerIdentity fun _ _ _ => trivial)

/-! ### Every read is recorded -/

/-- What a task calls right after a read of the chain's epoch that answered. -/
def recordsNext : Event pinInterface → Option PinOp
  | ⟨.currentEpoch, .ok chainEpoch⟩ => some (.recordChainEpoch chainEpoch)
  | _ => none

theorem follows_recordingReader (op : CommitteeOp) :
    (recordingReader op).Follows recordsNext := by
  cases op with
  | now => exact Prog.Follows.call (fun _ => rfl) fun _ => trivial
  | sleep ms => exact Prog.Follows.call (fun _ => rfl) fun _ => trivial
  | isRegisteredNetworkKey key =>
    exact Prog.Follows.call (fun _ => rfl) fun _ => trivial
  | currentEpoch =>
    rintro (error | chainEpoch)
    · exact ⟨fun op hop => (by cases hop), trivial⟩
    · refine ⟨?_, Prog.Follows.call (fun _ => rfl) fun _ => trivial⟩
      rintro op hop
      cases hop
      exact ⟨_, rfl⟩

theorem follows_readAnswer {endpoint : String} {networkKey : Bytes} {setupDeadline : ℤ}
    {rounds : ℕ} : Prog.Follows recordsNext
      (readAnswer retry endpoint networkKey setupDeadline rounds).run := by
  induction rounds with
  | zero => trivial
  | succ rounds ih =>
    refine Eff.follows_liftOp_bind (fun _ => rfl) fun now => ?_
    refine Eff.follows_liftOp_bind (fun _ => rfl) fun answer => ?_
    cases answer with
    | ok response => trivial
    | error error =>
      refine Eff.follows_liftOp_bind (fun _ => rfl) fun now => ?_
      dsimp only
      split_ifs
      · exact Eff.follows_bind trivial fun _ => Eff.follows_liftOp_bind (fun _ => rfl) fun _ => ih
      · exact Eff.follows_liftOp_bind (fun _ => rfl) fun _ => ih

theorem follows_readCommitteeFrom {endpoint : String} {networkKey : Bytes} {setupDeadline : ℤ} :
    Prog.Follows recordsNext (readCommitteeFrom P blake2b256 decodeCommitteeAnswer retry fuel
      endpoint networkKey setupDeadline).run := by
  refine Eff.follows_tryCatch ?_ fun error => ?_
  · refine Eff.follows_bind follows_readAnswer fun response => ?_
    refine Eff.follows_lift_bind fun answer => ?_
    refine Eff.follows_bind ?_ fun verified => ?_
    · exact Prog.Follows.bind (Prog.Follows.interp follows_recordingReader _) fun _ => trivial
    · exact Prog.Follows.call (fun _ => rfl) fun _ => trivial
  · split_ifs <;> trivial

theorem follows_refreshChainEpoch : Prog.Follows recordsNext refreshChainEpoch.run := by
  refine Eff.follows_liftOp_bind (fun _ => rfl) fun stale => ?_
  cases stale with
  | false => trivial
  | true =>
    rintro (error | chainEpoch)
    · exact ⟨fun op hop => (by cases hop), trivial⟩
    · refine ⟨?_, Prog.Follows.call (fun _ => rfl) fun _ => trivial⟩
      rintro op hop
      cases hop
      exact ⟨_, rfl⟩

theorem follows_pinTask {p : Prog pinInterface PinResult}
    (hp : PinTask P blake2b256 x509 decodeCommitteeAnswer retry fuel p) :
    p.Follows recordsNext := by
  cases hp with
  | connect endpoint setupDeadline =>
    refine Prog.Follows.bind ?_ fun _ => trivial
    refine Eff.follows_bind (Prog.Follows.call (fun _ => rfl) fun _ => trivial)
      fun certificate => ?_
    refine Eff.follows_liftOp_bind (fun _ => rfl) fun now => ?_
    refine Eff.follows_lift_bind fun networkKey => ?_
    refine Eff.follows_bind follows_refreshChainEpoch fun _ => ?_
    refine Eff.follows_liftOp_bind (fun _ => rfl) fun held => ?_
    refine Eff.follows_bind ?_ fun _ => trivial
    cases held with
    | true => trivial
    | false => exact Eff.follows_bind follows_readCommitteeFrom fun _ => Eff.follows_lift
  | check networkKey certificate =>
    refine Prog.Follows.bind ?_ fun _ => trivial
    refine Prog.Follows.call (fun _ => rfl) fun now => ?_
    dsimp only [bind_pure_comp, Prog.bind]
    cases keyCheckOf x509 certificate networkKey now with
    | some refusal => trivial
    | none => exact Prog.Follows.call (fun _ => rfl) fun _ => trivial

end Tasks

/-! ## The pin -/

namespace VerifiedMembers

variable {members : VerifiedMembers} {committee : VerifiedCommittee} {held : ℕ × List Bytes}

theorem mem_dropOlderThan {chainEpoch : ℕ} :
    held ∈ (members.dropOlderThan chainEpoch).networkKeysByEpoch ↔
      held ∈ members.networkKeysByEpoch ∧ chainEpoch ≤ held.1 := by
  simp [dropOlderThan]

theorem mem_of_set (h : held ∈ (members.set committee).networkKeysByEpoch) :
    held ∈ members.networkKeysByEpoch ∨ held = (committee.epoch, committee.networkKeys) := by
  unfold set at h
  dsimp only at h
  split_ifs at h
  · obtain ⟨other, hmem, hsame⟩ := List.mem_map.mp h
    split_ifs at hsame
    · exact .inr hsame.symm
    · exact .inl (hsame ▸ hmem)
  · rcases List.mem_append.mp h with hmem | hlast
    · exact .inl hmem
    · exact .inr (List.mem_singleton.mp hlast)

theorem set_self :
    (committee.epoch, committee.networkKeys) ∈ (members.set committee).networkKeysByEpoch := by
  unfold set
  dsimp only
  split_ifs with hany
  · obtain ⟨other, hmem, hepoch⟩ := List.any_eq_true.mp hany
    exact List.mem_map.mpr ⟨other, hmem, if_pos (of_decide_eq_true hepoch)⟩
  · exact List.mem_append_right _ (List.mem_singleton.mpr rfl)

theorem set_keeps (h : held ∈ members.networkKeysByEpoch) (hne : held.1 ≠ committee.epoch) :
    held ∈ (members.set committee).networkKeysByEpoch := by
  unfold set
  dsimp only
  split_ifs
  · exact List.mem_map.mpr ⟨held, h, if_neg hne⟩
  · exact List.mem_append_left _ h

theorem mem_of_foldl_set {committees : List VerifiedCommittee}
    (h : held ∈ (committees.foldl set members).networkKeysByEpoch) :
    held ∈ members.networkKeysByEpoch ∨
      ∃ committee ∈ committees, held = (committee.epoch, committee.networkKeys) := by
  induction committees generalizing members with
  | nil => exact .inl h
  | cons first rest ih =>
    rcases ih h with hset | ⟨committee, hmem, hheld⟩
    · rcases mem_of_set hset with hmem | hfirst
      · exact .inl hmem
      · exact .inr ⟨first, List.mem_cons_self, hfirst⟩
    · exact .inr ⟨committee, List.mem_cons_of_mem _ hmem, hheld⟩

theorem contains_of_mem {epoch : ℕ} {networkKeys : List Bytes} {networkKey : Bytes}
    (h : (epoch, networkKeys) ∈ members.networkKeysByEpoch)
    (hkey : networkKeys.contains networkKey = true) : members.contains networkKey = true :=
  List.any_eq_true.mpr ⟨_, h, hkey⟩

end VerifiedMembers

namespace CommitteePin

variable {pin : CommitteePin} {now : ℤ} {chainEpoch : ℕ}

theorem le_highest : chainEpoch ≤ pin.highest chainEpoch := by
  unfold highest
  split
  · exact le_rfl
  · split_ifs <;> omega

theorem held_le_highest {held : ℕ} (h : pin.chainEpoch = some held) :
    held ≤ pin.highest chainEpoch := by
  unfold highest
  rw [h]
  dsimp only
  split_ifs <;> omega

theorem highest_cases (pin : CommitteePin) (chainEpoch : ℕ) :
    pin.highest chainEpoch = chainEpoch ∨ pin.chainEpoch = some (pin.highest chainEpoch) := by
  unfold highest
  split
  · exact .inl rfl
  · next held hheld =>
    split_ifs
    · exact .inl rfl
    · exact .inr hheld

theorem isStale_false {chainEpochMaxAgeMs : ℕ}
    (h : pin.isStale chainEpochMaxAgeMs now = false) :
    ∃ high ∈ pin.chainEpoch, now - pin.chainEpochReadAt ≤ chainEpochMaxAgeMs := by
  obtain ⟨hsome, hage⟩ := Bool.or_eq_false_iff.mp h
  obtain ⟨high, hhigh⟩ := Option.isSome_iff_exists.mp (by simpa using hsome)
  exact ⟨high, hhigh, not_lt.mp (of_decide_eq_false hage)⟩

theorem reconnectCheck_none {chainEpochMaxAgeMs : ℕ} {networkKey : Bytes}
    (h : pin.reconnectCheck chainEpochMaxAgeMs now networkKey = none) :
    now - pin.chainEpochReadAt ≤ chainEpochMaxAgeMs ∧ pin.members.contains networkKey = true := by
  unfold reconnectCheck at h
  dsimp only at h
  split_ifs at h with hage hcontains
  exact ⟨not_lt.mp hage, hcontains⟩

/-- The pin after the committees of a checked answer were kept, or refused as old. -/
theorem keepCommittees_cases (pin : CommitteePin) (now : ℤ) (verified : VerifiedCommittees)
    (networkKey : Bytes) :
    (∃ refusal, pin.keepCommittees now verified networkKey =
      (.error refusal, pin.recordChainEpoch now verified.chainEpoch)) ∨
    (pin.highest verified.chainEpoch ≤ verified.committee.epoch ∧
      pin.keepCommittees now verified networkKey =
        (.ok (verified.committees.any fun committee => committee.networkKeys.contains networkKey),
          { pin.recordChainEpoch now verified.chainEpoch with
            members := ((pin.recordChainEpoch now verified.chainEpoch).members.add
              verified).dropOlderThan (pin.highest verified.chainEpoch) })) := by
  unfold keepCommittees
  dsimp only
  split_ifs with hold
  · exact .inl ⟨_, rfl⟩
  · exact .inr ⟨Nat.le_of_not_lt hold, rfl⟩

end CommitteePin

/-! ## What is so of every order of steps -/

section Worlds

variable {P : Primitives} {blake2b256 : Bytes → Bytes} {x509 : X509}
  {decodeCommitteeAnswer : Bytes → Except String CommitteeAnswer} {retry : ChainEpochRetry}
  {fuel chainEpochMaxAgeMs : ℕ} {w w' : PinWorld}

/-- A read of the chain's epoch answered so at the time. -/
def ReadAt (w : PinWorld) (time : ℤ) (chainEpoch : ℕ) : Prop :=
  ∃ task, ⟨task, time, ⟨.currentEpoch, .ok chainEpoch⟩⟩ ∈ w.log

/-- A read of the chain's epoch answered no longer ago than the maximum age. -/
def ReadRecently (chainEpochMaxAgeMs : ℕ) (w : PinWorld) (now : ℤ) : Prop :=
  ∃ time chainEpoch, ReadAt w time chainEpoch ∧ now - time ≤ chainEpochMaxAgeMs

/-- A read of the chain's epoch was recorded. -/
def Recorded (w : PinWorld) (chainEpoch : ℕ) : Prop :=
  ∃ task time, ⟨task, time, ⟨.recordChainEpoch chainEpoch, ()⟩⟩ ∈ w.log

/-- The committee is one of an answer that a task checked, and that passed. -/
def PassedIn (P : Primitives) (blake2b256 : Bytes → Bytes) (retry : ChainEpochRetry) (fuel : ℕ)
    (w : PinWorld) (committee : VerifiedCommittee) : Prop :=
  ∃ task front tr back verified, w.eventsOf task = front ++ tr ++ back ∧
    PassedCheck P blake2b256 retry fuel verified tr ∧ committee ∈ verified.committees

/-- What the pin holds, in every order of steps. -/
structure PinInv (P : Primitives) (blake2b256 : Bytes → Bytes) (retry : ChainEpochRetry)
    (fuel chainEpochMaxAgeMs : ℕ) (w : PinWorld) : Prop where
  fresh : ∀ held ∈ w.shared.members.networkKeysByEpoch,
    ∃ high ∈ w.shared.chainEpoch, high ≤ held.1
  known : ∀ held ∈ w.shared.members.networkKeysByEpoch, ∃ committee,
    PassedIn P blake2b256 retry fuel w committee ∧
      held = (committee.epoch, committee.networkKeys)
  recorded : ∀ chainEpoch, Recorded w chainEpoch →
    ∃ high ∈ w.shared.chainEpoch, chainEpoch ≤ high
  highest : ∀ high ∈ w.shared.chainEpoch, Recorded w high
  readAt : ∀ high ∈ w.shared.chainEpoch,
    ∃ chainEpoch, ReadAt w w.shared.chainEpochReadAt chainEpoch
  /-- A read is recorded at the time at which it answered. -/
  recordedRead : ∀ task time chainEpoch,
    ⟨task, time, ⟨.recordChainEpoch chainEpoch, ()⟩⟩ ∈ w.log → ReadAt w time chainEpoch
  /-- Where a task found the last read not too old, a read was made shortly before. -/
  notStale : ∀ task time, ⟨task, time, ⟨.isStale, false⟩⟩ ∈ w.log →
    ReadRecently chainEpochMaxAgeMs w time

section GoneOn

variable {i : ℕ} {t : Task pinInterface PinResult} {e : Event pinInterface}
  {left : Prog pinInterface PinResult} {pin : CommitteePin}

theorem ReadAt.goneOn {time : ℤ} {chainEpoch : ℕ} (h : ReadAt w time chainEpoch) :
    ReadAt (w.goneOn i t e left pin) time chainEpoch := by
  obtain ⟨task, hmem⟩ := h
  exact ⟨task, List.mem_append_left _ hmem⟩

theorem ReadRecently.goneOn {now : ℤ} (h : ReadRecently chainEpochMaxAgeMs w now) :
    ReadRecently chainEpochMaxAgeMs (w.goneOn i t e left pin) now := by
  obtain ⟨time, chainEpoch, hread, hage⟩ := h
  exact ⟨time, chainEpoch, hread.goneOn, hage⟩

theorem Recorded.goneOn {chainEpoch : ℕ} (h : Recorded w chainEpoch) :
    Recorded (w.goneOn i t e left pin) chainEpoch := by
  obtain ⟨task, time, hmem⟩ := h
  exact ⟨task, time, List.mem_append_left _ hmem⟩

theorem PassedIn.goneOn {committee : VerifiedCommittee}
    (h : PassedIn P blake2b256 retry fuel w committee) :
    PassedIn P blake2b256 retry fuel (w.goneOn i t e left pin) committee := by
  obtain ⟨task, front, tr, back, verified, hevents, hpassed, hmem⟩ := h
  by_cases htask : task = i
  · subst htask
    refine ⟨task, front, tr, back ++ [e], verified, ?_, hpassed, hmem⟩
    rw [World.eventsOf_goneOn_self, hevents]
    simp
  · refine ⟨task, front, tr, back, verified, ?_, hpassed, hmem⟩
    rw [World.eventsOf_goneOn_other _ _ _ _ _ _ htask, hevents]

theorem recorded_goneOn {chainEpoch : ℕ} (h : Recorded (w.goneOn i t e left pin) chainEpoch) :
    Recorded w chainEpoch ∨ e = ⟨.recordChainEpoch chainEpoch, ()⟩ := by
  obtain ⟨task, time, hmem⟩ := h
  rcases List.mem_append.mp hmem with hold | hnew
  · exact .inl ⟨task, time, hold⟩
  · have hentry := List.mem_singleton.mp hnew
    exact .inr (congrArg Entry.event hentry).symm

/-- An operation that leaves the pin as it is keeps the invariant, if it does not say
wrongly that the last read is not too old. -/
theorem PinInv.goneOn (h : PinInv P blake2b256 retry fuel chainEpochMaxAgeMs w)
    (hrecord : ∀ chainEpoch, e ≠ ⟨.recordChainEpoch chainEpoch, ()⟩)
    (hstale : e = ⟨.isStale, false⟩ → ReadRecently chainEpochMaxAgeMs w w.time) :
    PinInv P blake2b256 retry fuel chainEpochMaxAgeMs (w.goneOn i t e left w.shared) where
  fresh := h.fresh
  known held hmem := by
    obtain ⟨committee, hpassed, rfl⟩ := h.known held hmem
    exact ⟨committee, hpassed.goneOn, rfl⟩
  recorded chainEpoch hrecorded := by
    rcases recorded_goneOn hrecorded with hold | hnew
    · exact h.recorded chainEpoch hold
    · exact absurd hnew (hrecord chainEpoch)
  highest high hhigh := (h.highest high hhigh).goneOn
  readAt high hhigh := by
    obtain ⟨chainEpoch, hread⟩ := h.readAt high hhigh
    exact ⟨chainEpoch, hread.goneOn⟩
  recordedRead task time chainEpoch hmem := by
    rcases List.mem_append.mp hmem with hold | hnew
    · exact (h.recordedRead task time chainEpoch hold).goneOn
    · have hentry := List.mem_singleton.mp hnew
      exact absurd (congrArg Entry.event hentry).symm (hrecord chainEpoch)
  notStale task time hmem := by
    rcases List.mem_append.mp hmem with hold | hnew
    · exact (h.notStale task time hold).goneOn
    · have hentry := List.mem_singleton.mp hnew
      obtain rfl : time = w.time := congrArg Entry.time hentry
      exact (hstale (congrArg Entry.event hentry).symm).goneOn

/-- An operation that records a read at the time it answered keeps the invariant, if
what it leaves in the pin passed a check and is not older. -/
theorem PinInv.goneOn_records (h : PinInv P blake2b256 retry fuel chainEpochMaxAgeMs w)
    {chainEpoch : ℕ} (hread : ReadAt w w.time chainEpoch)
    (hchain : pin.chainEpoch = some (w.shared.highest chainEpoch))
    (htime : pin.chainEpochReadAt = w.time)
    (hmembers : ∀ held ∈ pin.members.networkKeysByEpoch, w.shared.highest chainEpoch ≤ held.1 ∧
      (held ∈ w.shared.members.networkKeysByEpoch ∨ ∃ committee,
        PassedIn P blake2b256 retry fuel w committee ∧
          held = (committee.epoch, committee.networkKeys)))
    (hrecords : e = ⟨.recordChainEpoch chainEpoch, ()⟩ ∨ Recorded w chainEpoch)
    (honly : ∀ other, e = ⟨.recordChainEpoch other, ()⟩ → other = chainEpoch)
    (hstale : e ≠ ⟨.isStale, false⟩) :
    PinInv P blake2b256 retry fuel chainEpochMaxAgeMs (w.goneOn i t e left pin) where
  fresh held hmem := ⟨_, hchain, (hmembers held hmem).1⟩
  known held hmem := by
    rcases (hmembers held hmem).2 with hheld | ⟨committee, hpassed, rfl⟩
    · obtain ⟨committee, hpassed, rfl⟩ := h.known held hheld
      exact ⟨committee, hpassed.goneOn, rfl⟩
    · exact ⟨committee, hpassed.goneOn, rfl⟩
  recorded other hrecorded := by
    refine ⟨_, hchain, ?_⟩
    rcases recorded_goneOn hrecorded with hold | hnew
    · obtain ⟨high, hhigh, hle⟩ := h.recorded other hold
      exact hle.trans (CommitteePin.held_le_highest hhigh)
    · rw [honly other hnew]
      exact CommitteePin.le_highest
  highest high hhigh := by
    obtain rfl : w.shared.highest chainEpoch = high :=
      Option.some.inj (hchain.symm.trans hhigh)
    rcases w.shared.highest_cases chainEpoch with
      hnew | hold
    · rw [hnew]
      rcases hrecords with rfl | hrecorded
      · exact ⟨i, w.time, List.mem_append_right _ (List.mem_singleton.mpr rfl)⟩
      · exact hrecorded.goneOn
    · exact (h.highest _ hold).goneOn
  readAt _ _ := by
    show ∃ chainEpoch, ReadAt _ pin.chainEpochReadAt chainEpoch
    rw [htime]
    exact ⟨chainEpoch, hread.goneOn⟩
  recordedRead task time other hmem := by
    rcases List.mem_append.mp hmem with hold | hnew
    · exact (h.recordedRead task time other hold).goneOn
    · have hentry := List.mem_singleton.mp hnew
      obtain rfl : time = w.time := congrArg Entry.time hentry
      rw [honly other (congrArg Entry.event hentry).symm]
      exact hread.goneOn
  notStale task time hmem := by
    rcases List.mem_append.mp hmem with hold | hnew
    · exact (h.notStale task time hold).goneOn
    · exact absurd (congrArg Entry.event (List.mem_singleton.mp hnew)).symm hstale

theorem PinInv.goneOn_recordChainEpoch (h : PinInv P blake2b256 retry fuel chainEpochMaxAgeMs w)
    {chainEpoch : ℕ} (hread : ReadAt w w.time chainEpoch) :
    PinInv P blake2b256 retry fuel chainEpochMaxAgeMs
      (w.goneOn i t ⟨.recordChainEpoch chainEpoch, ()⟩ left
        (w.shared.recordChainEpoch w.time chainEpoch)) := by
  refine h.goneOn_records hread rfl rfl (fun held hmem => ?_) (.inl rfl) (by simp) (by simp)
  obtain ⟨hheld, hle⟩ := VerifiedMembers.mem_dropOlderThan.mp hmem
  exact ⟨hle, .inl hheld⟩

theorem PinInv.goneOn_keepCommittees (h : PinInv P blake2b256 retry fuel chainEpochMaxAgeMs w)
    {verified : VerifiedCommittees} {networkKey : Bytes} {answer : Except String Bool}
    (hread : ReadAt w w.time verified.chainEpoch) (hrecorded : Recorded w verified.chainEpoch)
    (hpassed : ∀ committee ∈ verified.committees,
      PassedIn P blake2b256 retry fuel w committee)
    (hkeeps : w.shared.keepCommittees w.time verified networkKey = (answer, pin)) :
    PinInv P blake2b256 retry fuel chainEpochMaxAgeMs
      (w.goneOn i t ⟨.keepCommittees verified networkKey, answer⟩ left pin) := by
  rcases w.shared.keepCommittees_cases w.time verified networkKey with
    ⟨refusal, hrefused⟩ | ⟨-, hkept⟩
  · obtain ⟨-, rfl⟩ := Prod.mk.injEq .. ▸ hrefused.symm.trans hkeeps
    refine h.goneOn_records hread rfl rfl (fun held hmem => ?_) (.inr hrecorded) (by simp)
      (by simp)
    obtain ⟨hheld, hle⟩ := VerifiedMembers.mem_dropOlderThan.mp hmem
    exact ⟨hle, .inl hheld⟩
  · obtain ⟨-, rfl⟩ := Prod.mk.injEq .. ▸ hkept.symm.trans hkeeps
    refine h.goneOn_records hread rfl rfl (fun held hmem => ?_) (.inr hrecorded) (by simp)
      (by simp)
    obtain ⟨hadded, hle⟩ := VerifiedMembers.mem_dropOlderThan.mp hmem
    obtain ⟨hset, -⟩ := VerifiedMembers.mem_dropOlderThan.mp hadded
    refine ⟨hle, ?_⟩
    rcases VerifiedMembers.mem_of_foldl_set hset with hheld | ⟨committee, hmem, hsame⟩
    · exact .inl (VerifiedMembers.mem_dropOlderThan.mp hheld).1
    · exact .inr ⟨committee, hpassed committee hmem, hsame⟩

end GoneOn

/-- The last thing that a check that passed did was to record a read. -/
theorem passedCheck_last {verified : VerifiedCommittees} {tr : List (Event pinInterface)}
    (h : PassedCheck P blake2b256 retry fuel verified tr) :
    ∃ front, tr = front ++ [⟨.recordChainEpoch verified.chainEpoch, ()⟩] := by
  obtain ⟨answer, es, hgives, himplements⟩ := h
  obtain ⟨front, rfl⟩ := verifyCommitteeAnswer_last hgives
  obtain ⟨before, tr', rfl, hread⟩ := himplements.last
  obtain ⟨tr₁, tr₂, read, rfl, hread, hrecord⟩ := Prog.returns_bind_iff.mp hread
  cases read with
  | error error => cases (Prog.returns_pure_iff.mp hrecord).2
  | ok chainEpoch =>
    obtain ⟨tr₃, tr₄, _, rfl, hperform, hlast⟩ := Prog.returns_bind_iff.mp hrecord
    obtain ⟨_, _, rfl, hnil⟩ := Prog.returns_call_iff.mp hperform
    obtain ⟨rfl, -⟩ := Prog.returns_pure_iff.mp hnil
    obtain ⟨rfl, hsame⟩ := Prog.returns_pure_iff.mp hlast
    cases hsame
    exact ⟨before ++ tr₁, by simp⟩

/-- What a task did before the operation that it calls next. -/
theorem pinCall_of_reaches (h : Reaches (pinSharing chainEpochMaxAgeMs)
      (PinTask P blake2b256 x509 decodeCommitteeAnswer retry fuel) .new w) {i : ℕ}
    {t : Task pinInterface PinResult} {op : PinOp}
    {k : PinOp.Ans op → Prog pinInterface PinResult} (hi : w.tasks i = some t)
    (hleft : t.left = .call op k) : PinCall P blake2b256 retry fuel (w.eventsOf i) op := by
  have hwp := h.wp (fun p hp => wp_pinTask hp) hi
  rw [hleft] at hwp
  exact hwp.1

/-- A task that is about to act did so right after its last event. -/
theorem mem_log_of_last (h : Reaches (pinSharing chainEpochMaxAgeMs)
      (PinTask P blake2b256 x509 decodeCommitteeAnswer retry fuel) .new w) {i : ℕ}
    {t : Task pinInterface PinResult} {op : PinOp}
    {k : PinOp.Ans op → Prog pinInterface PinResult} (hi : w.tasks i = some t)
    (hleft : t.left = .call op k) (hacts : ((pinSharing chainEpochMaxAgeMs).act op).isSome)
    {front : List (Event pinInterface)} {e : Event pinInterface}
    (hlast : w.eventsOf i = front ++ [e]) : ⟨i, w.time, e⟩ ∈ w.log := by
  have hacting : Acting (pinSharing chainEpochMaxAgeMs) t.left := by
    rw [hleft]
    exact hacts
  exact h.acting_mem hi hacting hlast

/-- Every world that is reached has the invariant. -/
theorem pinInv_of_reaches (h : Reaches (pinSharing chainEpochMaxAgeMs)
      (PinTask P blake2b256 x509 decodeCommitteeAnswer retry fuel) .new w) :
    PinInv P blake2b256 retry fuel chainEpochMaxAgeMs w := by
  induction h with
  | start time =>
    refine ⟨?_, ?_, ?_, ?_, ?_, ?_, ?_⟩ <;> simp [CommitteePin.new, Recorded]
  | @step w w' hreach hstep ih =>
    cases hstep with
    | begins _ _ => exact ⟨ih.fresh, ih.known, ih.recorded, ih.highest, ih.readAt,
        ih.recordedRead, ih.notStale⟩
    | passes _ _ => exact ⟨ih.fresh, ih.known, ih.recorded, ih.highest, ih.readAt,
        ih.recordedRead, ih.notStale⟩
    | @goesOn i t op k a pin hi hleft hanswers =>
      have hcall := pinCall_of_reaches hreach hi hleft
      cases op with
      | recordChainEpoch chainEpoch =>
        obtain ⟨front, hlast⟩ := hcall
        have hmem := mem_log_of_last hreach hi hleft rfl hlast
        obtain ⟨rfl, rfl⟩ := Prod.mk.inj (show ((), _) = (a, pin) from hanswers)
        exact ih.goneOn_recordChainEpoch ⟨i, hmem⟩
      | keepCommittees verified networkKey =>
        obtain ⟨front, tr, hevents, hpassed⟩ := hcall
        obtain ⟨front', rfl⟩ := passedCheck_last hpassed
        have hmem := mem_log_of_last hreach hi hleft rfl
          (hevents.trans (List.append_assoc ..).symm)
        refine ih.goneOn_keepCommittees (ih.recordedRead _ _ _ hmem) ⟨i, w.time, hmem⟩
          (fun committee hcommittee => ?_) hanswers
        exact ⟨i, front, _, [], verified, by rw [hevents, List.append_nil], hpassed, hcommittee⟩
      | isStale =>
        obtain ⟨hanswer, rfl⟩ := Prod.mk.inj (show (_, w.shared) = (a, pin) from hanswers)
        refine ih.goneOn (by simp) fun hfalse => ?_
        have hnotStale : w.shared.isStale chainEpochMaxAgeMs w.time = false := by
          rw [hanswer]
          simpa using hfalse
        obtain ⟨high, hhigh, hage⟩ := CommitteePin.isStale_false hnotStale
        obtain ⟨chainEpoch, hread⟩ := ih.readAt high hhigh
        exact ⟨_, chainEpoch, hread, hage⟩
      | now =>
        obtain ⟨-, rfl⟩ := Prod.mk.inj (show (_, w.shared) = (a, pin) from hanswers)
        exact ih.goneOn (by simp) (by simp)
      | contains networkKey =>
        obtain ⟨-, rfl⟩ := Prod.mk.inj (show (_, w.shared) = (a, pin) from hanswers)
        exact ih.goneOn (by simp) (by simp)
      | reconnectCheck networkKey =>
        obtain ⟨-, rfl⟩ := Prod.mk.inj (show (_, w.shared) = (a, pin) from hanswers)
        exact ih.goneOn (by simp) (by simp)
      | _ =>
        obtain rfl : pin = w.shared := hanswers
        exact ih.goneOn (by simp) (by simp)

/-! ## Acceptance -/

/-- A key that is accepted now: that of a member of a held committee, which passed
its check and is not older than any read, while the last read is not too old. -/
structure KeyAccepted (P : Primitives) (blake2b256 : Bytes → Bytes) (retry : ChainEpochRetry)
    (fuel chainEpochMaxAgeMs : ℕ) (w : PinWorld) (networkKey : Bytes) : Prop where
  member : ∃ committee, PassedIn P blake2b256 retry fuel w committee ∧
    (committee.epoch, committee.networkKeys) ∈ w.shared.members.networkKeysByEpoch ∧
    networkKey ∈ committee.networkKeys ∧
    ∀ chainEpoch, Recorded w chainEpoch → chainEpoch ≤ committee.epoch
  recent : ReadRecently chainEpochMaxAgeMs w w.time

theorem PinInv.not_older (h : PinInv P blake2b256 retry fuel chainEpochMaxAgeMs w)
    {held : ℕ × List Bytes} (hheld : held ∈ w.shared.members.networkKeysByEpoch) {chainEpoch : ℕ}
    (hrecorded : Recorded w chainEpoch) : chainEpoch ≤ held.1 := by
  obtain ⟨high, hhigh, hfresh⟩ := h.fresh held hheld
  obtain ⟨high', hhigh', hle⟩ := h.recorded chainEpoch hrecorded
  obtain rfl : high = high' := Option.some.inj (hhigh.symm.trans hhigh')
  exact hle.trans hfresh

/-- A key that the pin holds is accepted while the last read is not too old. -/
theorem PinInv.accepted (h : PinInv P blake2b256 retry fuel chainEpochMaxAgeMs w)
    {networkKey : Bytes} (hcontains : w.shared.members.contains networkKey = true)
    (hrecent : ReadRecently chainEpochMaxAgeMs w w.time) :
    KeyAccepted P blake2b256 retry fuel chainEpochMaxAgeMs w networkKey := by
  obtain ⟨held, hheld, hkey⟩ := List.any_eq_true.mp hcontains
  obtain ⟨committee, hpassed, rfl⟩ := h.known held hheld
  exact ⟨⟨committee, hpassed, hheld, List.contains_iff_mem.mp hkey, fun chainEpoch hrecorded =>
    h.not_older hheld hrecorded⟩, hrecent⟩

/-- The committees of a checked answer are of two epochs, not older than the read. -/
theorem PassedCheck.epochs {verified : VerifiedCommittees} {tr : List (Event pinInterface)}
    (h : PassedCheck P blake2b256 retry fuel verified tr) :
    verified.chainEpoch ≤ verified.committee.epoch ∧
      ∀ next, verified.nextCommittee = some next → next.epoch = verified.committee.epoch + 1 := by
  obtain ⟨answer, es, hgives, -⟩ := h
  have hchecked := verifyCommitteeAnswer_gives hgives
  refine ⟨?_, fun next hnext => (hchecked.next next hnext).2.1⟩
  rcases hchecked.epoch with hsame | hafter <;> omega

/-- Every committee of an answer that is kept is held. -/
theorem held_of_kept {pin : CommitteePin} (now : ℤ) {verified : VerifiedCommittees}
    {tr : List (Event pinInterface)} (hpassed : PassedCheck P blake2b256 retry fuel verified tr)
    (hnotOlder : pin.highest verified.chainEpoch ≤ verified.committee.epoch)
    {committee : VerifiedCommittee} (hmem : committee ∈ verified.committees) :
    (committee.epoch, committee.networkKeys) ∈
      (((pin.recordChainEpoch now verified.chainEpoch).members.add verified).dropOlderThan
        (pin.highest verified.chainEpoch)).networkKeysByEpoch := by
  obtain ⟨hchain, hnext⟩ := hpassed.epochs
  have hset : (committee.epoch, committee.networkKeys) ∈ (verified.committees.foldl
      VerifiedMembers.set
        (pin.recordChainEpoch now verified.chainEpoch).members).networkKeysByEpoch ∧
      verified.committee.epoch ≤ committee.epoch := by
    unfold VerifiedCommittees.committees at hmem ⊢
    cases hafter : verified.nextCommittee with
    | none =>
      obtain rfl : committee = verified.committee := by simpa [hafter] using hmem
      exact ⟨VerifiedMembers.set_self, le_rfl⟩
    | some next =>
      have hepoch := hnext next hafter
      rw [hafter] at hmem
      rcases List.mem_cons.mp hmem with rfl | hlast
      · refine ⟨VerifiedMembers.set_keeps VerifiedMembers.set_self ?_, le_rfl⟩
        dsimp only
        omega
      · obtain rfl : committee = next := by simpa using hlast
        exact ⟨VerifiedMembers.set_self, by omega⟩
  refine VerifiedMembers.mem_dropOlderThan.mpr ⟨?_, hnotOlder.trans hset.2⟩
  exact VerifiedMembers.mem_dropOlderThan.mpr ⟨hset.1, hchain.trans hset.2⟩

/-- Every acceptance is of a key that may be accepted then. -/
theorem accepted_of_step (hreach : Reaches (pinSharing chainEpochMaxAgeMs)
      (PinTask P blake2b256 x509 decodeCommitteeAnswer retry fuel) .new w)
    (hstep : Step (pinSharing chainEpochMaxAgeMs)
      (PinTask P blake2b256 x509 decodeCommitteeAnswer retry fuel) w w')
    {entry : Entry pinInterface} (hlog : w'.log = w.log ++ [entry]) {networkKey : Bytes}
    (haccepted : acceptedKey entry.event = some networkKey) :
    KeyAccepted P blake2b256 retry fuel chainEpochMaxAgeMs w' networkKey := by
  have hinv := pinInv_of_reaches hreach
  have hinv' := pinInv_of_reaches (hreach.step hstep)
  cases hstep with
  | begins _ _ => simp [World.begun] at hlog
  | passes _ _ => simp at hlog
  | @goesOn i t op k a pin hi hleft hanswers =>
    obtain rfl : ⟨i, w.time, ⟨op, a⟩⟩ = entry :=
      List.singleton_inj.mp (List.append_cancel_left hlog)
    have hcall := pinCall_of_reaches hreach hi hleft
    cases op with
    | contains key =>
      obtain ⟨hanswer, rfl⟩ := Prod.mk.inj (show (_, w.shared) = (a, pin) from hanswers)
      have hrecent : ReadRecently chainEpochMaxAgeMs w w.time := by
        rcases hcall with ⟨front, hlast⟩ | ⟨front, chainEpoch, hlast⟩
        · exact hinv.notStale _ _ (mem_log_of_last hreach hi hleft rfl hlast)
        · have hread := hinv.recordedRead _ _ _ (mem_log_of_last hreach hi hleft rfl hlast)
          exact ⟨w.time, chainEpoch, hread, by simp⟩
      cases a with
      | false => cases haccepted
      | true =>
        obtain rfl : key = networkKey := Option.some.inj haccepted
        exact hinv'.accepted hanswer hrecent.goneOn
    | keepCommittees verified key =>
      obtain ⟨front, tr, hevents, hpassed⟩ := hcall
      obtain ⟨front', rfl⟩ := passedCheck_last hpassed
      have hread := hinv.recordedRead _ _ _
        (mem_log_of_last hreach hi hleft rfl (hevents.trans (List.append_assoc ..).symm))
      have hkeeps : w.shared.keepCommittees w.time verified key = (a, pin) := hanswers
      rcases w.shared.keepCommittees_cases w.time verified key with
        ⟨refusal, hrefused⟩ | ⟨hnotOlder, hkept⟩
      · obtain ⟨rfl, -⟩ := Prod.mk.inj (hrefused.symm.trans hkeeps)
        cases haccepted
      · obtain ⟨hanswer, rfl⟩ := Prod.mk.inj (hkept.symm.trans hkeeps)
        cases a with
        | error refusal => cases haccepted
        | ok lists =>
          cases lists with
          | false => cases haccepted
          | true =>
            obtain rfl : key = networkKey := Option.some.inj haccepted
            obtain ⟨committee, hmem, hkey⟩ := List.any_eq_true.mp (Except.ok.inj hanswer)
            have hheld := held_of_kept w.time hpassed hnotOlder hmem
            refine hinv'.accepted (VerifiedMembers.contains_of_mem hheld hkey) ⟨w.time,
              verified.chainEpoch, hread.goneOn, ?_⟩
            show w.time - w.time ≤ _
            simp
    | reconnectCheck key =>
      obtain ⟨hanswer, rfl⟩ := Prod.mk.inj (show (_, w.shared) = (a, pin) from hanswers)
      cases a with
      | some refusal => cases haccepted
      | none =>
        obtain rfl : key = networkKey := Option.some.inj haccepted
        obtain ⟨hage, hcontains⟩ := CommitteePin.reconnectCheck_none hanswer
        -- A key is held only once the chain's epoch was read.
        obtain ⟨held, hheld, -⟩ := List.any_eq_true.mp hcontains
        obtain ⟨high, hhigh, -⟩ := hinv.fresh held hheld
        obtain ⟨chainEpoch, hread⟩ := hinv.readAt high hhigh
        exact hinv'.accepted hcontains ⟨_, chainEpoch, hread.goneOn, hage⟩
    | _ => cases haccepted

/-- A refusal by the committees is their answer: they do not list the key. -/
theorem keepCommittees_answered (hreach : Reaches (pinSharing chainEpochMaxAgeMs)
      (PinTask P blake2b256 x509 decodeCommitteeAnswer retry fuel) .new w)
    {entry : Entry pinInterface} {verified : VerifiedCommittees} {networkKey : Bytes}
    (hmem : entry ∈ w.log) (hfalse : entry.event = ⟨.keepCommittees verified networkKey, .ok false⟩)
    {committee : VerifiedCommittee} (hcommittee : committee ∈ verified.committees) :
    networkKey ∉ committee.networkKeys := by
  induction hreach with
  | start time => cases hmem
  | @step w w' hreach hstep ih =>
    cases hstep with
    | begins _ _ => exact ih hmem
    | passes _ _ => exact ih hmem
    | @goesOn i t op k a pin hi hleft hanswers =>
      rcases List.mem_append.mp hmem with hold | hnew
      · exact ih hold
      obtain rfl := List.mem_singleton.mp hnew
      cases hfalse
      have hkeeps : w.shared.keepCommittees w.time verified networkKey = (.ok false, pin) :=
        hanswers
      rcases w.shared.keepCommittees_cases w.time verified networkKey with
        ⟨refusal, hrefused⟩ | ⟨-, hkept⟩
      · cases (Prod.mk.inj (hrefused.symm.trans hkeeps)).1
      · have hlisted := Except.ok.inj (Prod.mk.inj (hkept.symm.trans hkeeps)).1
        intro hkey
        have hnot := List.any_eq_false.mp hlisted committee hcommittee
        exact hnot (List.contains_iff_mem.mpr hkey)

/-- A read of the chain's epoch that answered is recorded, or is about to be. -/
theorem readRecorded_of_reaches (hreach : Reaches (pinSharing chainEpochMaxAgeMs)
      (PinTask P blake2b256 x509 decodeCommitteeAnswer retry fuel) .new w) {time : ℤ}
    {chainEpoch : ℕ} (hread : ReadAt w time chainEpoch) : Recorded w chainEpoch ∨
      ∃ i t k, w.tasks i = some t ∧ t.left = .call (.recordChainEpoch chainEpoch) k := by
  obtain ⟨task, hmem⟩ := hread
  rcases hreach.followed (fun p hp => follows_pinTask hp) hmem rfl with
    ⟨⟨other, at', op, a⟩, hother, rfl⟩ | hleft
  · exact .inl ⟨other, at', hother⟩
  · exact .inr hleft

/-- What the pin promises at every moment of every order of steps. -/
structure PinSafe (P : Primitives) (blake2b256 : Bytes → Bytes) (x509 : X509)
    (decodeCommitteeAnswer : Bytes → Except String CommitteeAnswer) (retry : ChainEpochRetry)
    (fuel chainEpochMaxAgeMs : ℕ) (w : PinWorld) : Prop where
  /-- No held committee is older than a read of the chain's epoch. -/
  fresh : ∀ held ∈ w.shared.members.networkKeysByEpoch, ∀ chainEpoch, Recorded w chainEpoch →
    chainEpoch ≤ held.1
  highest : ∀ high ∈ w.shared.chainEpoch, Recorded w high ∧
    ∀ chainEpoch, Recorded w chainEpoch → chainEpoch ≤ high
  reads : ∀ chainEpoch, Recorded w chainEpoch → ∃ time, ReadAt w time chainEpoch
  /-- A read that answered is recorded, or its task does so before it waits again. -/
  readRecorded : ∀ time chainEpoch, ReadAt w time chainEpoch → Recorded w chainEpoch ∨
    ∃ i t k, w.tasks i = some t ∧ t.left = .call (.recordChainEpoch chainEpoch) k
  /-- While every task waits, no read that answered is newer than what the pin holds. -/
  freshReads : (∀ i t, w.tasks i = some t → ¬Acting (pinSharing chainEpochMaxAgeMs) t.left) →
    ∀ time chainEpoch, ReadAt w time chainEpoch →
      (∃ high ∈ w.shared.chainEpoch, chainEpoch ≤ high) ∧
        ∀ held ∈ w.shared.members.networkKeysByEpoch, chainEpoch ≤ held.1
  accepted : ∀ w', Step (pinSharing chainEpochMaxAgeMs)
      (PinTask P blake2b256 x509 decodeCommitteeAnswer retry fuel) w w' →
    ∀ entry, w'.log = w.log ++ [entry] → ∀ networkKey,
      acceptedKey entry.event = some networkKey →
      KeyAccepted P blake2b256 retry fuel chainEpochMaxAgeMs w' networkKey
  /-- A channel is set up only for the key of the certificate that its endpoint served,
  right after that key was accepted. -/
  connected : ∀ i t channel, w.tasks i = some t → t.left = .pure (.connected (.ok channel)) →
    ServedFirst x509 channel.endpoint channel.certificate channel.networkKey (w.eventsOf i) ∧
      LastAccepts channel.networkKey (w.eventsOf i)
  /-- A channel's connection is let through only where the certificate it shows is one
  of the channel's key, right after that key was accepted. -/
  checked : ∀ i t networkKey certificate, w.tasks i = some t →
    t.program = (checkServerIdentity x509 networkKey certificate >>= fun refusal =>
      .pure (.checked refusal)) → t.left = .pure (.checked none) →
    LetThrough x509 networkKey certificate (w.eventsOf i) ∧
      LastAccepts networkKey (w.eventsOf i)
  /-- The key of a served certificate is recorded as refused only by the committees of an
  answer just checked. -/
  refused : ∀ i t thrown, w.tasks i = some t → t.left = .pure (.connected (.error thrown)) →
    marksNotACommitteeMember thrown = true →
    ∃ endpoint certificate networkKey front tr verified,
      ServedFirst x509 endpoint certificate networkKey (w.eventsOf i) ∧
      w.eventsOf i = front ++ tr ++ [⟨.keepCommittees verified networkKey, .ok false⟩] ∧
      PassedCheck P blake2b256 retry fuel verified tr ∧
      ∀ committee ∈ verified.committees, networkKey ∉ committee.networkKeys

end Worlds

theorem committee_pin_safe (P : Primitives) (blake2b256 : Bytes → Bytes) (x509 : X509)
    (decodeCommitteeAnswer : Bytes → Except String CommitteeAnswer) (retry : ChainEpochRetry)
    (fuel chainEpochMaxAgeMs : ℕ) (w : PinWorld)
    (hreach : Reaches (pinSharing chainEpochMaxAgeMs)
      (PinTask P blake2b256 x509 decodeCommitteeAnswer retry fuel) .new w) :
    PinSafe P blake2b256 x509 decodeCommitteeAnswer retry fuel chainEpochMaxAgeMs w := by
  have hinv := pinInv_of_reaches hreach
  have hend : ∀ {i t result}, w.tasks i = some t → t.left = .pure result →
      PinEnd P blake2b256 x509 retry fuel result (w.eventsOf i) := by
    intro i t result hi hleft
    have hwp := hreach.wp (fun p hp => wp_pinTask hp) hi
    rwa [hleft] at hwp
  refine ⟨fun held hheld chainEpoch => hinv.not_older hheld, fun high hhigh => ⟨?_, ?_⟩, ?_,
    fun time chainEpoch => readRecorded_of_reaches hreach, ?_, ?_,
    fun i t channel hi hleft => hend hi hleft, ?_, ?_⟩
  · exact hinv.highest high hhigh
  · intro chainEpoch hrecorded
    obtain ⟨high', hhigh', hle⟩ := hinv.recorded chainEpoch hrecorded
    obtain rfl : high = high' := Option.some.inj (hhigh.symm.trans hhigh')
    exact hle
  · rintro chainEpoch ⟨task, time, hmem⟩
    exact ⟨time, hinv.recordedRead task time chainEpoch hmem⟩
  · intro hwaits time chainEpoch hread
    rcases readRecorded_of_reaches hreach hread with hrecorded | ⟨i, t, k, hi, hleft⟩
    · exact ⟨hinv.recorded chainEpoch hrecorded, fun held hheld => hinv.not_older hheld hrecorded⟩
    · refine absurd ?_ (hwaits i t hi)
      rw [hleft]
      exact rfl
  · intro w' hstep entry hlog networkKey haccepted
    exact accepted_of_step hreach hstep hlog haccepted
  · intro i t networkKey certificate hi hprogram hleft
    obtain ⟨-, hrun⟩ := hreach.run hi
    rw [hprogram, hleft] at hrun
    have htask : Prog.wp (pinSetting P blake2b256 retry fuel)
        (checkServerIdentity x509 networkKey certificate >>= fun refusal =>
          .pure (.checked refusal)) (fun (result : PinResult) h => result = .checked none →
            LetThrough x509 networkKey certificate h) [] := by
      refine Prog.wp_bind (Prog.wp_mono wp_checkServerIdentity fun refusal h hlast hnone => ?_)
      exact hlast (PinResult.checked.inj hnone)
    obtain ⟨now, hevents, hright⟩ :=
      Prog.wp_run hrun htask (path_history _ [] (w.eventsOf i)) rfl
    exact ⟨⟨now, hevents, hright⟩, [⟨.now, now⟩], _, hevents, rfl⟩
  · intro i t thrown hi hleft hmarks
    obtain ⟨endpoint, certificate, networkKey, hserved, front, tr, verified, hevents, hpassed⟩ :=
      hend hi hleft hmarks
    refine ⟨endpoint, certificate, networkKey, front, tr, verified, hserved, hevents, hpassed,
      fun committee hcommittee => ?_⟩
    have hlast : (⟨.keepCommittees verified networkKey, .ok false⟩ : Event pinInterface) ∈
        w.eventsOf i := by
      rw [hevents]
      exact List.mem_append_right _ (List.mem_singleton.mpr rfl)
    obtain ⟨entry, hentry, hevent⟩ := List.mem_map.mp hlast
    exact keepCommittees_answered hreach (List.mem_filter.mp hentry).1 hevent hcommittee

/-! ## A sample setup -/

/-- What a setup is told from outside: the chain stands at epoch 5. -/
def sampleOutside : ∀ op : PinOp, PinOp.Ans op
  | .now => 0
  | .pause _ => ()
  | .fetchServedCertificate _ => .ok [1]
  | .getCommittee .. => .ok []
  | .currentEpoch => .ok 5
  | .isRegisteredNetworkKey _ => .ok true
  | .recordChainEpoch _ => ()
  | .isStale => false
  | .contains _ => false
  | .keepCommittees .. => .ok false
  | .reconnectCheck _ => none

def sampleX509 : X509 := ⟨fun _ => .ok sampleMember.networkPubkey, fun _ _ => .ok ()⟩

/-- A setup of a channel to a member of the committee of epoch 5, as far as it comes. -/
def samplePinWorld : PinWorld :=
  (Interaction.World.goOn (pinSharing 60000) sampleOutside 0)^[20]
    (Interaction.World.begun ⟨.new, 1000, fun _ => none, []⟩ 0
      ((connect samplePrimitives samplePrimitives.keccak256 sampleX509
        (fun _ => .ok sampleCommitteeAnswer) chainEpochRetry 3 "sample" 2000).run >>=
          fun outcome => .pure (.connected outcome)))

theorem committee_pin_safe_sample :
    samplePinWorld.shared = ⟨⟨[(5, [sampleMember.networkPubkey]),
        (6, [sampleMember.networkPubkey])]⟩, some 5, 1000⟩ ∧
      ∀ chainEpoch, Recorded samplePinWorld chainEpoch → chainEpoch ≤ 5 := by
  have hshared : samplePinWorld.shared = ⟨⟨[(5, [sampleMember.networkPubkey]),
      (6, [sampleMember.networkPubkey])]⟩, some 5, 1000⟩ := by decide +kernel
  have hsafe := committee_pin_safe samplePrimitives samplePrimitives.keccak256 sampleX509
    (fun _ => .ok sampleCommitteeAnswer) chainEpochRetry 3 60000 samplePinWorld
    (((Reaches.start 1000).step (.begins rfl (PinTask.connect "sample" 2000))).goOn
      sampleOutside 0 20)
  refine ⟨hshared, fun chainEpoch hrecorded => ?_⟩
  have hheld : (5, [sampleMember.networkPubkey]) ∈
      samplePinWorld.shared.members.networkKeysByEpoch := by
    rw [hshared]
    exact List.mem_cons_self
  exact hsafe.fresh _ hheld chainEpoch hrecorded

end Ika
