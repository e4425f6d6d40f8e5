import IkaSdk.Programs.Histories
import IkaSdk.Programs.VotingSteps

/-! What holds of the voting program in every run, whatever the other programs do in between:
councils and votes never change, each proposal is a poll of its dWallet's council, and a voucher is
issued for an approved proposal only. -/

namespace Ika.Programs.Voting

open Wire Ledgers Solana Crates Polls VotingError

abbrev process (d : Deployment) (c : Call) (w : World) : Except ProgramError World :=
  processInstruction d c.accounts c.data w

variable {d : Deployment} {w w' : World} {c : Call}

/-- Which instruction went through. -/
inductive Went (d : Deployment) (c : Call) (w w' : World) : Prop
  | proposal {rest : Bytes} {a : CreateProposalAccounts} {cnData propData : Bytes} :
      c.data = 0 :: rest → CreateProposalAccounts.of c.accounts = .ok a →
      ProposalMade d c.accounts a rest cnData propData w w' → Went d c w w'
  | vote {rest : Bytes} {a : VoteAccounts} {cnData propData propData' record : Bytes} :
      c.data = 1 :: rest → VoteAccounts.of c.accounts = .ok a →
      sliceAt propProposalId 32 propData = sliceAt 0 32 rest →
      Voted d c.accounts a (decide (nthByte rest 32 = 1)) (nthByte rest 33) cnData propData
        propData' record w w' → Went d c w w'
  | council {rest : Bytes} {a : CreateCouncilAccounts} {cnData : Bytes} : c.data = 2 :: rest →
      CreateCouncilAccounts.of c.accounts = .ok a → CouncilMade d a rest cnData w w' →
      Went d c w w'

theorem went_of_ok (hd : d.Sound) (h : process d c w = .ok w') : Went d c w w' := by
  unfold process processInstruction at h
  split at h
  · cases h
  · next discriminator rest hdata =>
    split_ifs at h with hzero hone htwo
    · obtain ⟨a, cnData, propData, ha, hmade⟩ := createProposal_made hd h
      exact .proposal (hdata.trans (by rw [hzero])) ha hmade
    · obtain ⟨a, cnData, propData, propData', record, ha, hid, hvoted⟩ := castVote_voted hd h
      exact .vote (hdata.trans (by rw [hone])) ha hid hvoted
    · obtain ⟨a, cnData, ha, hmade⟩ := createCouncil_made hd h
      exact .council (hdata.trans (by rw [htwo])) ha hmade

/-! ## A run to try -/

def sampleCouncil : PublicKey :=
  sampleAddress [textBytes "council", (repeatedKey 10).toBytes, [255]]

def sampleId : Bytes := List.replicate 32 9

def sampleProposal : PublicKey := sampleAddress [textBytes "proposal", sampleId, [255]]

def sampleVoucher : PublicKey := sampleAddress [textBytes "signature_voucher", sampleId, [255]]

def sampleAuthority : PublicKey := sampleAddress [textBytes "__ika_cpi_authority", [255]]

/-- The owner of the dWallet makes a council of three wallets, two of which are a quorum. -/
def sampleCreate : Call where
  accounts := [⟨sampleCouncil, false, true⟩, ⟨repeatedKey 10, false, false⟩,
    ⟨repeatedKey 101, false, false⟩, ⟨repeatedKey 1, true, false⟩, ⟨repeatedKey 1, true, true⟩,
    ⟨systemProgramId, false, false⟩]
  data := 2 :: (leBytes 4 2 ++ leBytes 2 3 ++ (repeatedKey 1).toBytes ++ (repeatedKey 2).toBytes ++
    (repeatedKey 3).toBytes)

def samplePropose : Call where
  accounts := [⟨sampleProposal, false, true⟩, ⟨sampleCouncil, false, false⟩,
    ⟨repeatedKey 10, false, false⟩, ⟨repeatedKey 2, true, false⟩, ⟨repeatedKey 2, true, true⟩,
    ⟨systemProgramId, false, false⟩]
  data := 0 :: (sampleId ++ List.replicate 32 7 ++ List.replicate 32 8 ++ leBytes 2 5 ++ [255, 255])

def sampleVote (voter : PublicKey) (vote : UInt8) : Call where
  accounts := [⟨sampleProposal, false, true⟩,
    ⟨sampleAddress [textBytes "vote", sampleId, voter.toBytes, [255]], false, true⟩,
    ⟨sampleCouncil, false, false⟩, ⟨voter, true, false⟩, ⟨voter, true, true⟩,
    ⟨systemProgramId, false, false⟩, ⟨repeatedKey 20, false, false⟩, ⟨sampleVoucher, false, true⟩,
    ⟨repeatedKey 10, false, false⟩, ⟨repeatedKey 100, false, false⟩,
    ⟨sampleAuthority, false, false⟩, ⟨repeatedKey 101, false, false⟩]
  data := 1 :: (sampleId ++ [vote, 255, 255])

def sampleVotes : List Call :=
  [sampleVote (repeatedKey 1) 1, sampleVote (repeatedKey 3) 0, sampleVote (repeatedKey 2) 1]

def sampleOpen : World := worldAfter (process sampleDeployment) [sampleCreate, samplePropose]

def sampleClosed : World :=
  worldAfter (process sampleDeployment) ([sampleCreate, samplePropose] ++ sampleVotes)

theorem sample_went :
    ([sampleCreate, samplePropose].foldlM (fun w c => process sampleDeployment c w)
      sampleStart).isOk = true ∧
    (([sampleCreate, samplePropose] ++ sampleVotes).foldlM
      (fun w c => process sampleDeployment c w) sampleStart).isOk = true := by
  decide +kernel

theorem sampleClosed_run : Run (process sampleDeployment) sampleDeployment
    ([sampleCreate, samplePropose] ++ sampleVotes) sampleClosed :=
  run_worldAfter sample_went.2

theorem sampleClosed_onward :
    Onward (process sampleDeployment) sampleDeployment sampleOpen sampleClosed :=
  onward_of_calls (foldlM_worldAfter_append sample_went.1 sample_went.2)

/-! ## What never changes -/

/-- How an account of the program may change: an open proposal takes votes, and nothing else
moves. -/
structure Kept (data data' : Bytes) : Prop where
  proposal : nthByte data 0 = proposalDiscriminator → SameProposal data data' ∧
    yesVotesOf data ≤ yesVotesOf data' ∧ noVotesOf data ≤ noVotesOf data'
  closed : nthByte data 0 = proposalDiscriminator → nthByte data propStatus ≠ statusOpen →
    data' = data
  other : nthByte data 0 ≠ proposalDiscriminator → data' = data

theorem Kept.refl (data : Bytes) : Kept data data where
  proposal := fun _ => ⟨.refl data, le_rfl, le_rfl⟩
  closed := fun _ _ => rfl
  other := fun _ => rfl

theorem Kept.discriminator {data data' : Bytes} (h : Kept data data') :
    nthByte data' 0 = nthByte data 0 := by
  by_cases hprop : nthByte data 0 = proposalDiscriminator
  · exact (h.proposal hprop).1.discriminator
  · rw [h.other hprop]

theorem Kept.trans {data data' data'' : Bytes} (h : Kept data data') (h' : Kept data' data'') :
    Kept data data'' := by
  refine ⟨?_, ?_, ?_⟩
  · intro hprop
    obtain ⟨hsame, hyes, hno⟩ := h.proposal hprop
    obtain ⟨hsame', hyes', hno'⟩ := h'.proposal (h.discriminator.trans hprop)
    exact ⟨hsame.trans hsame', hyes.trans hyes', hno.trans hno'⟩
  · intro hprop hclosed
    have heq := h.closed hprop hclosed
    rw [heq] at h'
    rw [h'.closed hprop hclosed]
  · intro hprop
    have heq := h.other hprop
    rw [heq] at h'
    rw [h'.other hprop]

instance : IsPreorder Bytes Kept where
  refl := Kept.refl
  trans := fun _ _ _ h h' => h.trans h'

theorem Voted.kept {accounts : List AccountInfo} {a : VoteAccounts} {yes : Bool} {bump : UInt8}
    {cnData propData propData' record : Bytes}
    (h : Voted d accounts a yes bump cnData propData propData' record w w') :
    Kept propData propData' := by
  have hyes := h.yesVotes
  have hno := h.noVotes
  refine ⟨?_, ?_, ?_⟩
  · intro _
    exact ⟨h.same, by omega, by omega⟩
  · intro _ hclosed
    exact absurd h.undecided hclosed
  · intro hother
    exact absurd h.discriminator hother

theorem Went.later (h : Went d c w w') :
    Later Kept (heldBy d.programId w.ledger) (heldBy d.programId w'.ledger) := by
  cases h with
  | proposal _ _ hmade =>
    rw [hmade.after]
    exact .new hmade.new _
  | vote _ _ _ hvoted =>
    refine (Later.new hvoted.new _).trans (Later.trans (.update ?_ hvoted.kept)
      (.of_grown hvoted.after))
    rw [Function.update_of_ne]
    · exact hvoted.proposal
    · intro heq
      have hnew := hvoted.new
      rw [← heq, hvoted.proposal] at hnew
      cases hnew
  | council _ _ hmade =>
    rw [hmade.after]
    exact .new hmade.new _

theorem Kept.blank {data data' : Bytes} (h : Kept data data') (hblank : isBlank data) :
    isBlank data' := by
  rw [h.other (by rw [nthByte_of_isBlank hblank]; decide)]
  exact hblank

theorem process_keeps (hd : d.Sound) : Keeps (process d) d Kept where
  order := inferInstance
  blank := Kept.blank
  call := fun hok => (went_of_ok hd hok).later

/-- Councils, records and what was proposed never change, an approved proposal stays as it is, and
counts only go up. -/
theorem onward_kept (hd : d.Sound) (h : Onward (process d) d w w') :
    Later Kept (heldBy d.programId w.ledger) (heldBy d.programId w'.ledger) :=
  (process_keeps hd).onward h

theorem onward_kept_sample : Later Kept (heldBy sampleDeployment.programId sampleOpen.ledger)
    (heldBy sampleDeployment.programId sampleClosed.ledger) :=
  onward_kept sampleDeployment_sound sampleClosed_onward

/-! ## Proposals as polls -/

/-- The side a vote is on. Every byte but one is against. -/
def voteOf (data : Bytes) : Option Bool :=
  if data.head? = some 1 then some (decide (nthByte data 33 = 1)) else none

/-- The ballot that a call casts, if it is a vote. -/
def ballotOf (c : Call) : Option (Ballot PublicKey Bytes) := do
  let yes ← voteOf c.data
  let a ← (VoteAccounts.of c.accounts).toOption
  return ⟨a.proposalAccount.key, a.voter.key.toBytes, yes, a.voteRecordAccount.key⟩

/-- The council of the proposal's dWallet. -/
def CouncilAt (s : PublicKey → Option Bytes) (propData : Bytes) (m : PublicKey)
    (cnData : Bytes) : Prop :=
  s m = some cnData ∧ nthByte cnData 0 = councilDiscriminator ∧
    sliceAt cnDwallet 32 cnData = sliceAt propDwallet 32 propData

theorem CouncilAt.later {s s' : PublicKey → Option Bytes} {propData propData' cnData : Bytes}
    {m : PublicKey} (h : CouncilAt s propData m cnData) (hlater : Later Kept s s')
    (hsame : SameProposal propData propData') : CouncilAt s' propData' m cnData := by
  obtain ⟨hheld, hdisc, hdwallet⟩ := h
  obtain ⟨cnData', hheld', hkept⟩ := hlater m cnData hheld
  rw [hkept.other (by rw [hdisc]; decide)] at hheld'
  exact ⟨hheld', hdisc, hdwallet.trans hsame.dwallet.symm⟩

/-- A voucher call for an approved proposal that the program holds. -/
def VoucherFor (d : Deployment) (s : PublicKey → Option Bytes) (invocation : Invocation)
    (key : PublicKey) : Prop :=
  ∃ propData, s key = some propData ∧ nthByte propData 0 = proposalDiscriminator ∧
    nthByte propData propStatus = statusApproved ∧ IsVoucher d propData invocation

theorem VoucherFor.later {s s' : PublicKey → Option Bytes} (hlater : Later Kept s s')
    {invocation : Invocation} {key : PublicKey} (h : VoucherFor d s invocation key) :
    VoucherFor d s' invocation key := by
  obtain ⟨propData, hheld, hdisc, happroved, hvoucher⟩ := h
  obtain ⟨propData', hheld', hkept⟩ := hlater key propData hheld
  -- an approved proposal stays as it is, its counts too
  have heq := hkept.closed hdisc (by rw [happroved]; decide)
  rw [heq] at hheld'
  exact ⟨propData, hheld', hdisc, happroved, hvoucher⟩

/-- The poll of a proposal that the program holds. -/
def PollAt (s : PublicKey → Option Bytes) (h : Hall PublicKey Bytes) (key : PublicKey)
    (propData : Bytes) : Prop :=
  nthByte propData propStatus ∈ [statusOpen, statusApproved] ∧
    ∃ m cnData, CouncilAt s propData m cnData ∧
      leValue (sliceAt propQuorum 4 propData) = quorumOf cnData ∧
      h.polls key = some (pollOf cnData propData)

theorem PollAt.later {s s' : PublicKey → Option Bytes} {h h' : Hall PublicKey Bytes}
    {key : PublicKey} {propData : Bytes} (hpoll : PollAt s h key propData)
    (hlater : Later Kept s s') (hsame : h'.polls key = h.polls key) :
    PollAt s' h' key propData := by
  obtain ⟨hstatus, m, cnData, hcouncil, hquorum, hpoll⟩ := hpoll
  exact ⟨hstatus, m, cnData, hcouncil.later hlater (.refl propData), hquorum, hsame.trans hpoll⟩

/-- The accounts of the program show a hall: each proposal is a poll of its dWallet's council. -/
structure Shows (d : Deployment) (calls : List Call) (w : World) (h : Hall PublicKey Bytes) :
    Prop where
  council : ∀ {key cnData}, heldBy d.programId w.ledger key = some cnData →
    nthByte cnData 0 = councilDiscriminator → CouncilOk d key cnData
  poll : ∀ {key propData}, heldBy d.programId w.ledger key = some propData →
    nthByte propData 0 = proposalDiscriminator →
    PollAt (heldBy d.programId w.ledger) h key propData
  account : ∀ {key}, (h.polls key).isSome → (heldBy d.programId w.ledger key).isSome
  records : ∀ r ∈ h.records, (heldBy d.programId w.ledger r).isSome
  ballots : h.ballots = calls.filterMap ballotOf
  vouchers : List.Forall₂ (VoucherFor d (heldBy d.programId w.ledger)) w.issued h.carried

theorem Shows.start (h : Fresh d w) : Shows d [] w Hall.empty where
  council := by
    intro key cnData hheld hdisc
    rw [nthByte_of_isBlank (h.blank hheld)] at hdisc
    exact absurd hdisc (by decide)
  poll := by
    intro key propData hheld hdisc
    rw [nthByte_of_isBlank (h.blank hheld)] at hdisc
    exact absurd hdisc (by decide)
  account := by simp [Hall.empty]
  records := by simp [Hall.empty, Hall.records]
  ballots := rfl
  vouchers := by
    rw [h.issued]
    exact .nil

/-- Blank accounts are neither councils nor proposals. -/
theorem Shows.grown {calls : List Call} {h : Hall PublicKey Bytes} (hshows : Shows d calls w h)
    (hgrown : Grown (heldBy d.programId w.ledger) (heldBy d.programId w'.ledger))
    (hissued : w'.issued = w.issued) : Shows d calls w' h := by
  have hlater : Later Kept (heldBy d.programId w.ledger) (heldBy d.programId w'.ledger) :=
    .of_grown hgrown
  refine ⟨?_, ?_, ?_, ?_, hshows.ballots, ?_⟩
  · intro key cnData hheld hdisc
    exact hshows.council (before_grown hgrown hheld (by rw [hdisc]; decide)) hdisc
  · intro key propData hheld hdisc
    exact (hshows.poll (before_grown hgrown hheld (by rw [hdisc]; decide)) hdisc).later hlater rfl
  · intro key hsome
    exact hlater.isSome (hshows.account hsome)
  · intro r hr
    exact hlater.isSome (hshows.records r hr)
  · rw [hissued]
    exact hshows.vouchers.imp fun _ _ hvoucher => hvoucher.later hlater

theorem ballotOf_eq_none {rest : Bytes} {b : UInt8} (hdata : c.data = b :: rest) (hone : b ≠ 1) :
    ballotOf c = none := by
  simp [ballotOf, voteOf, hdata, hone]

theorem Shows.councilMade {calls : List Call} {h : Hall PublicKey Bytes}
    (hshows : Shows d calls w h) {a : CreateCouncilAccounts} {cnData rest : Bytes}
    (hdata : c.data = 2 :: rest) (hmade : CouncilMade d a rest cnData w w') :
    Shows d (calls ++ [c]) w' h := by
  have hlater : Later Kept (heldBy d.programId w.ledger) (heldBy d.programId w'.ledger) := by
    rw [hmade.after]
    exact .new hmade.new _
  refine ⟨?_, ?_, ?_, ?_, ?_, ?_⟩
  · intro key data hheld hdisc
    rw [hmade.after, Function.update_apply] at hheld
    split_ifs at hheld with hkey
    · obtain rfl := Option.some.inj hheld
      rw [hkey]
      exact hmade.ok
    · exact hshows.council hheld hdisc
  · intro key propData hheld hdisc
    rw [hmade.after, Function.update_apply] at hheld
    split_ifs at hheld with hkey
    · obtain rfl := Option.some.inj hheld
      rw [hmade.ok.discriminator] at hdisc
      exact absurd hdisc (by decide)
    · exact (hshows.poll hheld hdisc).later hlater rfl
  · intro key hsome
    exact hlater.isSome (hshows.account hsome)
  · intro r hr
    exact hlater.isSome (hshows.records r hr)
  · rw [List.filterMap_append, hshows.ballots]
    simp [ballotOf_eq_none hdata (by decide)]
  · rw [hmade.issued]
    exact hshows.vouchers.imp fun _ _ hvoucher => hvoucher.later hlater

theorem outcome_of_open {cnData propData : Bytes} (h : nthByte propData propStatus = statusOpen) :
    (pollOf cnData propData).outcome = .undecided := by
  simp [pollOf, outcomeOf, h]

/-- A proposal as it is made is a poll as it is opened. -/
theorem ProposalMade.fresh {accounts : List AccountInfo} {a : CreateProposalAccounts}
    {rest cnData propData : Bytes} (h : ProposalMade d accounts a rest cnData propData w w')
    (hok : CouncilOk d a.council.key cnData) :
    (pollOf cnData propData).Fresh ∧ nthByte propData propStatus = statusOpen ∧
      leValue (sliceAt propQuorum 4 propData) = quorumOf cnData := by
  have hyes : sliceAt propYesVotes 4 propData = leBytes 4 0 :=
    h.read (by simp [proposalFields]) rfl
  have hno : sliceAt propNoVotes 4 propData = leBytes 4 0 :=
    h.read (by simp [proposalFields]) rfl
  have hstatus : nthByte propData propStatus = statusOpen :=
    nthByte_of_slice (h.read (by simp [proposalFields]) rfl)
  have hbytes : sliceAt propQuorum 4 propData = leBytes 4 (quorumOf cnData) :=
    h.read (by simp [proposalFields, proposalOf]) (leBytes_length ..)
  have hsmall : quorumOf cnData < 256 ^ 4 :=
    (hok.quorum_le.trans hok.count_le).trans_lt (by decide)
  have hquorum : leValue (sliceAt propQuorum 4 propData) = quorumOf cnData := by
    rw [hbytes, leValue_leBytes, Nat.mod_eq_of_lt hsmall]
  refine ⟨⟨?_, ?_, outcome_of_open hstatus, ?_, by simp [pollOf]⟩, hstatus, hquorum⟩
  · simp only [pollOf]
    rw [hyes]
    rfl
  · simp only [pollOf]
    rw [hno]
    rfl
  · simp only [pollOf]
    rw [hquorum]
    exact hok.quorum_pos

theorem Shows.proposalMade {calls : List Call} {h : Hall PublicKey Bytes}
    (hshows : Shows d calls w h) {a : CreateProposalAccounts} {rest cnData propData : Bytes}
    (hdata : c.data = 0 :: rest) (hmade : ProposalMade d c.accounts a rest cnData propData w w') :
    Polls.Step h (h.opened a.proposalAccount.key (pollOf cnData propData)) ∧
      Shows d (calls ++ [c]) w' (h.opened a.proposalAccount.key (pollOf cnData propData)) := by
  have hverified := hmade.verified
  obtain ⟨hfresh, hopen, hquorum⟩ :=
    hmade.fresh (hshows.council hverified.account hverified.discriminator)
  have hlater : Later Kept (heldBy d.programId w.ledger) (heldBy d.programId w'.ledger) := by
    rw [hmade.after]
    exact .new hmade.new _
  have hnone : h.polls a.proposalAccount.key = none := by
    by_contra hsome
    have hheld := hshows.account (Option.isSome_iff_ne_none.mpr hsome)
    rw [hmade.new] at hheld
    cases hheld
  refine ⟨.opened hnone hfresh, ?_, ?_, ?_, ?_, ?_, ?_⟩
  · intro key data hheld hdisc
    rw [hmade.after, Function.update_apply] at hheld
    split_ifs at hheld with hkey
    · obtain rfl := Option.some.inj hheld
      rw [hmade.discriminator] at hdisc
      exact absurd hdisc (by decide)
    · exact hshows.council hheld hdisc
  · intro key data hheld hdisc
    rw [hmade.after, Function.update_apply] at hheld
    split_ifs at hheld with hkey
    · subst hkey
      obtain rfl := Option.some.inj hheld
      have hdwallet : sliceAt propDwallet 32 propData = a.dwallet.key.toBytes :=
        hmade.read (by simp [proposalFields, proposalOf]) a.dwallet.key.length_eq
      refine ⟨by simp [hopen], a.council.key, cnData, ⟨?_, hverified.discriminator, ?_⟩, hquorum,
        Function.update_self ..⟩
      · rw [hmade.after, Function.update_of_ne (hverified.ne_new hmade.new)]
        exact hverified.account
      · rw [hdwallet, hverified.dwallet]
    · exact (hshows.poll hheld hdisc).later hlater (h.opened_other _ hkey)
  · intro key hsome
    by_cases hkey : key = a.proposalAccount.key
    · rw [hkey, hmade.after, Function.update_self]
      rfl
    · rw [h.opened_other _ hkey] at hsome
      exact hlater.isSome (hshows.account hsome)
  · intro r hr
    exact hlater.isSome (hshows.records r hr)
  · change h.ballots = _
    rw [List.filterMap_append, hshows.ballots]
    simp [ballotOf_eq_none hdata (by decide)]
  · rw [hmade.issued]
    exact hshows.vouchers.imp fun _ _ hvoucher => hvoucher.later hlater

def ballot (a : VoteAccounts) (yes : Bool) : Ballot PublicKey Bytes :=
  ⟨a.proposalAccount.key, a.voter.key.toBytes, yes, a.voteRecordAccount.key⟩

theorem voteOf_vote {rest : Bytes} (hdata : c.data = 1 :: rest) :
    voteOf c.data = some (decide (nthByte rest 32 = 1)) := by
  rw [voteOf, hdata]
  rfl

theorem ballotOf_vote {rest : Bytes} {a : VoteAccounts} (hdata : c.data = 1 :: rest)
    (ha : VoteAccounts.of c.accounts = .ok a) :
    ballotOf c = some (ballot a (decide (nthByte rest 32 = 1))) := by
  simp [ballotOf, voteOf_vote hdata, ha, ballot, Except.toOption]

/-- A vote is counted as a poll counts it. While a proposal is open its yes votes are short of the
quorum, so a vote against it never passes it. -/
theorem Voted.counted {accounts : List AccountInfo} {a : VoteAccounts} {yes : Bool} {bump : UInt8}
    {cnData propData propData' record : Bytes}
    (h : Voted d accounts a yes bump cnData propData propData' record w w')
    (hdecided : (pollOf cnData propData).Decided) :
    pollOf cnData propData' = (pollOf cnData propData).counted yes := by
  have hshort : yesVotesOf propData < leValue (sliceAt propQuorum 4 propData) :=
    (hdecided.open_iff.mp (outcome_of_open h.undecided)).1
  have hyes := h.yesVotes
  have hno := h.noVotes
  have hstatus := h.status
  have hquorum := h.same.quorum
  unfold yesVotesOf at hyes hshort hstatus
  unfold noVotesOf at hno
  cases yes with
  | true =>
    rw [if_pos rfl] at hyes hno
    rw [hyes] at hstatus
    simp only [pollOf, Poll.counted, if_true, Poll.mk.injEq, true_and]
    rw [hquorum, hyes, hno, hstatus]
    exact ⟨rfl, rfl, rfl, apply_ite outcomeOf _ _ _⟩
  | false =>
    rw [if_neg Bool.false_ne_true] at hyes hno
    rw [hyes, Nat.add_zero, if_neg (not_le.mpr hshort)] at hstatus
    simp only [pollOf, Poll.counted, Bool.false_eq_true, if_false, Poll.mk.injEq, true_and]
    rw [hquorum, hyes, hno, hstatus]
    exact ⟨rfl, rfl, rfl, rfl⟩

theorem outcome_carried {cnData propData : Bytes}
    (h : nthByte propData propStatus ∈ [statusOpen, statusApproved]) :
    (pollOf cnData propData).outcome = .carried ↔ nthByte propData propStatus = statusApproved := by
  simp only [List.mem_cons, List.not_mem_nil, or_false] at h
  obtain hopen | happroved := h
  · rw [outcome_of_open hopen, hopen]
    decide
  · simp only [pollOf, outcomeOf, happroved]
    decide

theorem Voted.status_mem {accounts : List AccountInfo} {a : VoteAccounts} {yes : Bool}
    {bump : UInt8} {cnData propData propData' record : Bytes}
    (h : Voted d accounts a yes bump cnData propData propData' record w w') :
    nthByte propData' propStatus ∈ [statusOpen, statusApproved] := by
  rw [h.status]
  split_ifs <;> simp

/-- A vote that passes its proposal issues a voucher for it, and no other vote issues one. -/
theorem Voted.vouchers {accounts : List AccountInfo} {a : VoteAccounts} {yes : Bool}
    {bump : UInt8} {cnData propData propData' record : Bytes} {carried : List PublicKey}
    (h : Voted d accounts a yes bump cnData propData propData' record w w')
    (hcounted : pollOf cnData propData' = (pollOf cnData propData).counted yes)
    (hbefore : List.Forall₂ (VoucherFor d (heldBy d.programId w'.ledger)) w.issued carried) :
    List.Forall₂ (VoucherFor d (heldBy d.programId w'.ledger)) w'.issued
      (carried ++ if ((pollOf cnData propData).counted yes).outcome = .carried
        then [a.proposalAccount.key] else []) := by
  have hissued := h.issued
  have hstatus := h.status
  have hcarried := @outcome_carried cnData propData' h.status_mem
  rw [hcounted] at hcarried
  by_cases hreached : leValue (sliceAt propQuorum 4 propData) ≤ yesVotesOf propData'
  · rw [if_pos hreached] at hissued hstatus
    rw [if_pos (hcarried.mpr hstatus)]
    obtain ⟨invocation, hvoucher, hissued⟩ := hissued
    have hafter : heldBy d.programId w'.ledger a.proposalAccount.key = some propData' :=
      h.after.kept (Function.update_self ..)
    have hdisc := h.same.discriminator.trans h.discriminator
    rw [hissued]
    exact List.rel_append hbefore (.cons ⟨propData', hafter, hdisc, hstatus, hvoucher⟩ .nil)
  · rw [if_neg hreached] at hissued hstatus
    have hopen : ((pollOf cnData propData).counted yes).outcome ≠ .carried := by
      rw [ne_eq, hcarried, hstatus]
      decide
    rw [if_neg hopen, hissued, List.append_nil]
    exact hbefore

/-- The council that voted is the one of the proposal: a dWallet has one council. -/
theorem Shows.council_unique {calls : List Call} {h : Hall PublicKey Bytes}
    (hshows : Shows d calls w h) {propData cnData cnData' : Bytes} {m m' : PublicKey}
    (hm : CouncilAt (heldBy d.programId w.ledger) propData m cnData)
    (hm' : CouncilAt (heldBy d.programId w.ledger) propData m' cnData') :
    m = m' ∧ cnData = cnData' := by
  obtain ⟨hheld, hdisc, hdwallet⟩ := hm
  obtain ⟨hheld', hdisc', hdwallet'⟩ := hm'
  have haddress := (hshows.council hheld hdisc).address
  rw [hdwallet, ← hdwallet', (hshows.council hheld' hdisc').address] at haddress
  obtain rfl : m' = m := congrArg Prod.fst (Except.ok.inj haddress)
  rw [hheld] at hheld'
  exact ⟨rfl, Option.some.inj hheld'⟩

theorem Shows.voted {calls : List Call} {h : Hall PublicKey Bytes} (hshows : Shows d calls w h)
    (hsound : Sound h) {a : VoteAccounts} {cnData propData propData' record rest : Bytes}
    (hdata : c.data = 1 :: rest) (ha : VoteAccounts.of c.accounts = .ok a)
    (hid : sliceAt propProposalId 32 propData = sliceAt 0 32 rest)
    (hvoted : Voted d c.accounts a (decide (nthByte rest 32 = 1)) (nthByte rest 33) cnData propData
      propData' record w w') :
    ∃ b, Polls.Step h (h.cast b (pollOf cnData propData)) ∧
      Shows d (calls ++ [c]) w' (h.cast b (pollOf cnData propData)) := by
  have hlater := Went.later (.vote hdata ha hid hvoted)
  obtain ⟨-, m, cnData', hcouncil, hquorum, hpoll⟩ :=
    hshows.poll hvoted.proposal hvoted.discriminator
  have hverified := hvoted.verified
  obtain ⟨rfl, rfl⟩ := hshows.council_unique
    ⟨hverified.account, hverified.discriminator, hverified.dwallet⟩ hcouncil
  have hcounted := hvoted.counted (hsound.decided hpoll)
  have hdisc : nthByte propData' 0 = proposalDiscriminator :=
    hvoted.same.discriminator.trans hvoted.discriminator
  have hafter : heldBy d.programId w'.ledger a.proposalAccount.key = some propData' :=
    hvoted.after.kept (Function.update_self ..)
  refine ⟨ballot a (decide (nthByte rest 32 = 1)), .cast hpoll (outcome_of_open hvoted.undecided)
    hverified.member ?_, ?_, ?_, ?_, ?_, ?_, ?_⟩
  · intro hmem
    have hsome := hshows.records _ hmem
    rw [show (ballot a _).record = a.voteRecordAccount.key from rfl, hvoted.new] at hsome
    cases hsome
  · intro key data hheld hcn
    obtain hblank | ⟨-, rfl⟩ | ⟨-, rfl⟩ | ⟨-, hold⟩ := hvoted.after.of_updates hheld
    · rw [nthByte_of_isBlank hblank] at hcn
      exact absurd hcn (by decide)
    · rw [hdisc] at hcn
      exact absurd hcn (by decide)
    · rw [hvoted.record] at hcn
      exact absurd hcn (by decide)
    · exact hshows.council hold hcn
  · intro key data hheld hprop
    obtain hblank | ⟨rfl, rfl⟩ | ⟨-, rfl⟩ | ⟨hother, hold⟩ := hvoted.after.of_updates hheld
    · rw [nthByte_of_isBlank hblank] at hprop
      exact absurd hprop (by decide)
    · refine ⟨hvoted.status_mem, _, cnData, hcouncil.later hlater hvoted.same, ?_, ?_⟩
      · rw [hvoted.same.quorum, hquorum]
      · rw [hcounted]
        exact Function.update_self ..
    · rw [hvoted.record] at hprop
      exact absurd hprop (by decide)
    · exact (hshows.poll hold hprop).later hlater (h.cast_other _ hother)
  · intro key hsome
    by_cases hkey : key = a.proposalAccount.key
    · rw [hkey, hafter]
      rfl
    · rw [h.cast_other _ hkey] at hsome
      exact hlater.isSome (hshows.account hsome)
  · intro r hr
    rw [Hall.records, Hall.cast, List.map_append] at hr
    rcases List.mem_append.mp hr with hold | hnew
    · exact hlater.isSome (hshows.records r hold)
    · obtain rfl : r = a.voteRecordAccount.key := by simpa [ballot] using hnew
      have hne : a.voteRecordAccount.key ≠ a.proposalAccount.key := by
        intro heq
        have hnone := hvoted.new
        rw [heq, hvoted.proposal] at hnone
        cases hnone
      have hrecord : heldBy d.programId w'.ledger a.voteRecordAccount.key = some record := by
        apply hvoted.after.kept
        rw [Function.update_of_ne hne, Function.update_self]
      rw [hrecord]
      rfl
  · rw [List.filterMap_append, ← hshows.ballots]
    simp [ballotOf_vote hdata ha, Hall.cast]
  · exact hvoted.vouchers hcounted (hshows.vouchers.imp fun _ _ hvoucher => hvoucher.later hlater)

/-- Every run of the program is a run of polls. -/
theorem run_shows (hd : d.Sound) {calls : List Call} (hrun : Run (process d) d calls w) :
    ∃ h, Reached h ∧ Shows d calls w h := by
  induction hrun with
  | start hfresh => exact ⟨Hall.empty, .refl, .start hfresh⟩
  | call _ hok ih =>
    obtain ⟨h, hreached, hshows⟩ := ih
    cases went_of_ok hd hok with
    | proposal hdata _ hmade =>
      obtain ⟨hstep, hshows'⟩ := hshows.proposalMade hdata hmade
      exact ⟨_, hreached.tail hstep, hshows'⟩
    | vote hdata ha hid hvoted =>
      obtain ⟨b, hstep, hshows'⟩ := hshows.voted hreached.sound hdata ha hid hvoted
      exact ⟨_, hreached.tail hstep, hshows'⟩
    | council hdata _ hmade => exact ⟨h, hreached, hshows.councilMade hdata hmade⟩
  | others _ hothers ih =>
    obtain ⟨h, hreached, hshows⟩ := ih
    exact ⟨h, hreached, hshows.grown hothers.grown rfl⟩

/-! ## One member, one vote -/

/-- The record of a vote is not an account that signed the call. -/
def RecordUnsigned (c : Call) : Prop :=
  ∀ a, c.data.head? = some 1 → VoteAccounts.of c.accounts = .ok a →
    Unsigned c.accounts a.voteRecordAccount.key

/-- A vote of a member on a proposal, with the member's signature. -/
def Votes (c : Call) (yes : Bool) (key : PublicKey) (voter : Bytes) : Prop :=
  voteOf c.data = some yes ∧ ∃ a, VoteAccounts.of c.accounts = .ok a ∧
    a.proposalAccount.key = key ∧ a.voter.key.toBytes = voter ∧ a.voter.isSigner = true

/-- The address that belongs to a member's vote on the proposals of an id. -/
def voteAddress (d : Deployment) (proposalId voter : Bytes) : PublicKey :=
  ((findProgramAddress d [textBytes "vote", proposalId, voter]).toOption.map
    Prod.fst).getD systemProgramId

/-- The id of the proposal at an address. -/
def idAt (s : PublicKey → Option Bytes) (key : PublicKey) : Bytes :=
  ((s key).map (sliceAt propProposalId 32)).getD []

theorem idAt_of_later {s s' : PublicKey → Option Bytes} (h : Later Kept s s') {key : PublicKey}
    {propData : Bytes} (hheld : s key = some propData)
    (hdisc : nthByte propData 0 = proposalDiscriminator) :
    idAt s' key = sliceAt propProposalId 32 propData := by
  obtain ⟨propData', hheld', hkept⟩ := h key propData hheld
  rw [idAt, hheld']
  exact (hkept.proposal hdisc).1.id

theorem ballot_of_ok (hd : d.Sound) (hok : process d c w = .ok w')
    {b : Ballot PublicKey Bytes} (hb : ballotOf c = some b) : Votes c b.yes b.poll b.voter ∧
      (RecordUnsigned c → b.record = voteAddress d (sliceAt 1 32 c.data) b.voter) ∧
      ∃ propData, heldBy d.programId w'.ledger b.poll = some propData ∧
        nthByte propData 0 = proposalDiscriminator ∧
        sliceAt propProposalId 32 propData = sliceAt 1 32 c.data := by
  cases went_of_ok hd hok with
  | proposal hdata _ _ =>
    rw [ballotOf_eq_none hdata (by decide)] at hb
    cases hb
  | council hdata _ _ =>
    rw [ballotOf_eq_none hdata (by decide)] at hb
    cases hb
  | @vote rest a _ propData propData' _ hdata ha hid hvoted =>
    rw [ballotOf_vote hdata ha] at hb
    obtain rfl := Option.some.inj hb
    have hcast : sliceAt propProposalId 32 propData = sliceAt 1 32 c.data := by
      rw [hid, hdata]
      rfl
    refine ⟨⟨voteOf_vote hdata, a, ha, rfl, rfl, hvoted.signed⟩, ?_, propData',
      hvoted.after.kept (Function.update_self ..),
      hvoted.same.discriminator.trans hvoted.discriminator, hvoted.same.id.trans hcast⟩
    intro hunsigned
    have haddress := hvoted.address (hunsigned a (by rw [hdata]; rfl) ha)
    rw [hcast] at haddress
    simp [voteAddress, ballot, haddress, Except.toOption]

theorem run_addressed (hd : d.Sound) {calls : List Call} {h : Hall PublicKey Bytes}
    (hrun : Run (process d) d calls w) (hunsigned : ∀ c ∈ calls, RecordUnsigned c)
    (hshows : Shows d calls w h) :
    Addressed h fun key => voteAddress d (idAt (heldBy d.programId w.ledger) key) := by
  intro b hb
  rw [hshows.ballots] at hb
  obtain ⟨c, hc, hballot⟩ := List.mem_filterMap.mp hb
  obtain ⟨w₁, w₂, hok, honward⟩ := hrun.accepted hc
  obtain ⟨-, hrecord, propData, hheld, hdisc, hid⟩ := ballot_of_ok hd hok hballot
  -- the id that the ballot was cast on is the one that the proposal has now
  change b.record = voteAddress d (idAt _ b.poll) b.voter
  rw [idAt_of_later ((process_keeps hd).onward honward) hheld hdisc, hid]
  exact hrecord (hunsigned c hc)

/-- Those who voted on a side are those whose signed votes went through. -/
theorem mem_voters_iff (hd : d.Sound) {calls : List Call} {h : Hall PublicKey Bytes}
    (hrun : Run (process d) d calls w) (hshows : Shows d calls w h) {key : PublicKey} {yes : Bool}
    {voter : Bytes} : voter ∈ h.voters key yes ↔ ∃ c ∈ calls, Votes c yes key voter := by
  rw [Hall.mem_voters, hshows.ballots]
  constructor
  · rintro ⟨b, hb, rfl, rfl, rfl⟩
    obtain ⟨c, hc, hballot⟩ := List.mem_filterMap.mp hb
    obtain ⟨w₁, w₂, hok, -⟩ := hrun.accepted hc
    exact ⟨c, hc, (ballot_of_ok hd hok hballot).1⟩
  · rintro ⟨c, hc, hside, a, ha, rfl, rfl, -⟩
    have hballot : ballotOf c = some (ballot a yes) := by
      simp [ballotOf, hside, ha, ballot, Except.toOption]
    exact ⟨ballot a yes, List.mem_filterMap.mpr ⟨c, hc, hballot⟩, rfl, rfl, rfl⟩

end Ika.Programs.Voting
