import IkaSdk.Lib.Entries
import IkaSdk.Programs.VotingRuns

/-! What the members of a council can rely on: how proposals are decided, that nobody votes twice,
which vouchers are issued, and where each account comes from. -/

namespace Ika.Programs.Voting

open Wire Ledgers Solana Crates Polls VotingError

variable {d : Deployment} {w w' : World} {calls : List Call}

/-! ## Decisions -/

/-- The status of a proposal, and the rules it is decided by. -/
structure DecidedBy (d : Deployment) (m : PublicKey) (cnData propData : Bytes) : Prop where
  rules : CouncilOk d m cnData
  quorum : leValue (sliceAt propQuorum 4 propData) = quorumOf cnData
  status : nthByte propData propStatus ∈ [statusOpen, statusApproved]
  approved : nthByte propData propStatus = statusApproved ↔ quorumOf cnData ≤ yesVotesOf propData

theorem decidedBy_of_sound {h : Hall PublicKey Bytes} (hsound : Sound h) {key m : PublicKey}
    {cnData propData : Bytes} (hok : CouncilOk d m cnData)
    (hquorum : leValue (sliceAt propQuorum 4 propData) = quorumOf cnData)
    (hstatus : nthByte propData propStatus ∈ [statusOpen, statusApproved])
    (hpoll : h.polls key = some (pollOf cnData propData)) : DecidedBy d m cnData propData := by
  have hcarried := (hsound.decided hpoll).carried
  refine ⟨hok, hquorum, hstatus, ?_⟩
  rw [← outcome_carried hstatus, hcarried, ← hquorum]
  rfl

/-- In every run, a proposal is approved when its yes votes reach the quorum of the council of its
dWallet, and it is open until then. -/
theorem proposal_decided (hd : d.Sound) (hrun : Run (process d) d calls w) {key : PublicKey}
    {propData : Bytes} (hheld : heldBy d.programId w.ledger key = some propData)
    (hdisc : nthByte propData 0 = proposalDiscriminator) :
    ∃ m cnData, CouncilAt (heldBy d.programId w.ledger) propData m cnData ∧
      DecidedBy d m cnData propData := by
  obtain ⟨h, hreached, hshows⟩ := run_shows hd hrun
  obtain ⟨hstatus, m, cnData, hcouncil, hquorum, hpoll⟩ := hshows.poll hheld hdisc
  have hok := hshows.council hcouncil.1 hcouncil.2.1
  exact ⟨m, cnData, hcouncil, decidedBy_of_sound hreached.sound hok hquorum hstatus hpoll⟩

def samplePropData : Bytes := (sampleClosed.ledger sampleProposal).data

def sampleCnData : Bytes := (sampleClosed.ledger sampleCouncil).data

def sampleInvocation : Invocation :=
  sampleClosed.issued.getD 0 ⟨⟨systemProgramId, [], []⟩, [], []⟩

theorem sampleClosed_facts :
    (heldBy sampleDeployment.programId sampleClosed.ledger sampleProposal = some samplePropData ∧
      nthByte samplePropData 0 = proposalDiscriminator) ∧
    (heldBy sampleDeployment.programId sampleClosed.ledger sampleCouncil = some sampleCnData ∧
      nthByte sampleCnData 0 = councilDiscriminator) ∧
    sampleInvocation ∈ sampleClosed.issued := by
  decide +kernel

theorem proposal_decided_sample : ∃ m cnData,
    CouncilAt (heldBy sampleDeployment.programId sampleClosed.ledger) samplePropData m cnData ∧
      DecidedBy sampleDeployment m cnData samplePropData :=
  proposal_decided sampleDeployment_sound sampleClosed_run sampleClosed_facts.1.1
    sampleClosed_facts.1.2

/-- The votes on a proposal, member by member. -/
structure CountedBy (calls : List Call) (key : PublicKey) (cnData propData : Bytes) : Prop where
  votes : ∃ yes no : Finset Bytes, Disjoint yes no ∧ yes ∪ no ⊆ (membersOf cnData).toFinset ∧
    (∀ voter, voter ∈ yes ↔ ∃ c ∈ calls, Votes c true key voter) ∧
    (∀ voter, voter ∈ no ↔ ∃ c ∈ calls, Votes c false key voter) ∧
    yes.card = yesVotesOf propData ∧ no.card = noVotesOf propData
  turnout : yesVotesOf propData + noVotesOf propData ≤ memberCountOf cnData
  lost : memberCountOf cnData < quorumOf cnData + noVotesOf propData →
    nthByte propData propStatus = statusOpen

/-- Where no record of a vote signs its call, the counts of a proposal are numbers of members. A
proposal that too many have voted against stays open for good. -/
theorem proposal_counted (hd : d.Sound) (hrun : Run (process d) d calls w)
    (hunsigned : ∀ c ∈ calls, RecordUnsigned c) {key : PublicKey} {propData : Bytes}
    (hheld : heldBy d.programId w.ledger key = some propData)
    (hdisc : nthByte propData 0 = proposalDiscriminator) :
    ∃ m cnData, CouncilAt (heldBy d.programId w.ledger) propData m cnData ∧
      CountedBy calls key cnData propData := by
  obtain ⟨h, hreached, hshows⟩ := run_shows hd hrun
  obtain ⟨hstatus, m, cnData, hcouncil, hquorum, hpoll⟩ := hshows.poll hheld hdisc
  have hsound := hreached.sound
  have haddressed := run_addressed hd hrun hunsigned hshows
  have hok := hshows.council hcouncil.1 hcouncil.2.1
  have hdecided := decidedBy_of_sound hsound hok hquorum hstatus hpoll
  have hturnout : yesVotesOf propData + noVotesOf propData ≤ memberCountOf cnData := by
    rw [← hok.count]
    exact hsound.turnout_le haddressed hpoll
  refine ⟨m, cnData, hcouncil, ⟨h.voters key true, h.voters key false,
    hsound.voters_disjoint haddressed key, ?_, ?_, ?_, hsound.card_yes haddressed hpoll,
    hsound.card_no haddressed hpoll⟩, hturnout, ?_⟩
  · exact Finset.union_subset (hsound.voters_subset hpoll true) (hsound.voters_subset hpoll false)
  · intro voter
    exact mem_voters_iff hd hrun hshows
  · intro voter
    exact mem_voters_iff hd hrun hshows
  · intro hlost
    have hshort : ¬quorumOf cnData ≤ yesVotesOf propData := by omega
    simpa [mt hdecided.approved.mp hshort] using hstatus

theorem sampleVote_unsigned (voter : PublicKey) (vote : UInt8) (hne : voter ≠ sampleAddress
    [textBytes "vote", sampleId, voter.toBytes, [255]]) :
    RecordUnsigned (sampleVote voter vote) := by
  intro a _ ha
  obtain rfl := Except.ok.inj ha
  simp [Unsigned, sampleVote, hne]

theorem sampleClosed_unsigned :
    ∀ c ∈ [sampleCreate, samplePropose] ++ sampleVotes, RecordUnsigned c := by
  have hne : ∀ n ∈ [1, 2, 3], repeatedKey n ≠ sampleAddress
      [textBytes "vote", sampleId, (repeatedKey n).toBytes, [255]] := by decide +kernel
  intro c hc
  simp only [sampleVotes, List.cons_append, List.nil_append, List.mem_cons, List.not_mem_nil,
    or_false] at hc
  obtain rfl | rfl | rfl | rfl | rfl := hc
  · intro a hvote
    exact absurd hvote (by decide)
  · intro a hvote
    exact absurd hvote (by decide)
  · exact sampleVote_unsigned _ _ (hne 1 (by decide))
  · exact sampleVote_unsigned _ _ (hne 3 (by decide))
  · exact sampleVote_unsigned _ _ (hne 2 (by decide))

theorem proposal_counted_sample : ∃ m cnData,
    CouncilAt (heldBy sampleDeployment.programId sampleClosed.ledger) samplePropData m cnData ∧
      CountedBy ([sampleCreate, samplePropose] ++ sampleVotes) sampleProposal cnData
        samplePropData :=
  proposal_counted sampleDeployment_sound sampleClosed_run sampleClosed_unsigned
    sampleClosed_facts.1.1 sampleClosed_facts.1.2

/-- The id that a call votes on, and its voter. -/
def castOf (c : Call) : Option (Bytes × Bytes) :=
  (ballotOf c).map fun b => (sliceAt 1 32 c.data, b.voter)

/-- Where no record of a vote signs its call, nobody votes twice on an id, whatever proposals carry
it. -/
theorem votes_nodup (hd : d.Sound) (hrun : Run (process d) d calls w)
    (hunsigned : ∀ c ∈ calls, RecordUnsigned c) : (calls.filterMap castOf).Nodup := by
  obtain ⟨h, hreached, hshows⟩ := run_shows hd hrun
  have hrecords : (calls.filterMap castOf).map (fun p => voteAddress d p.1 p.2) =
      h.records := by
    rw [Hall.records, hshows.ballots, List.map_filterMap, List.map_filterMap]
    apply List.filterMap_congr
    intro c hc
    cases hballot : ballotOf c with
    | none => simp [castOf, hballot]
    | some b =>
      obtain ⟨w₁, w₂, hok, -⟩ := hrun.accepted hc
      have hrecord := (ballot_of_ok hd hok hballot).2.1 (hunsigned c hc)
      simp [castOf, hballot, hrecord]
  exact List.Nodup.of_map _ (hrecords ▸ hreached.sound.records)

theorem votes_nodup_sample : (([sampleCreate, samplePropose] ++ sampleVotes).filterMap
    castOf).Nodup :=
  votes_nodup sampleDeployment_sound sampleClosed_run sampleClosed_unsigned

/-! ## Vouchers -/

/-- The proposals for which a voucher was issued are those that are approved, and each of them has
one. -/
theorem approved_vouchers (hd : d.Sound) (hrun : Run (process d) d calls w) :
    ∃ keys : List PublicKey, keys.Nodup ∧
      List.Forall₂ (VoucherFor d (heldBy d.programId w.ledger)) w.issued keys ∧
      ∀ key, key ∈ keys ↔ ∃ propData, heldBy d.programId w.ledger key = some propData ∧
        nthByte propData 0 = proposalDiscriminator ∧
        nthByte propData propStatus = statusApproved := by
  obtain ⟨h, hreached, hshows⟩ := run_shows hd hrun
  have hsound := hreached.sound
  refine ⟨h.carried, hsound.once, hshows.vouchers, ?_⟩
  intro key
  constructor
  · intro hmem
    obtain ⟨invocation, -, propData, hheld, hdisc, happroved, -⟩ :=
      related_of_mem hshows.vouchers hmem
    exact ⟨propData, hheld, hdisc, happroved⟩
  · rintro ⟨propData, hheld, hdisc, happroved⟩
    obtain ⟨hstatus, m, cnData, -, -, hpoll⟩ := hshows.poll hheld hdisc
    rw [hsound.carried key]
    exact ⟨_, hpoll, (outcome_carried hstatus).mpr happroved⟩

theorem approved_vouchers_sample : ∃ keys : List PublicKey, keys.Nodup ∧
    List.Forall₂ (VoucherFor sampleDeployment
      (heldBy sampleDeployment.programId sampleClosed.ledger)) sampleClosed.issued keys ∧
    ∀ key, key ∈ keys ↔ ∃ propData,
      heldBy sampleDeployment.programId sampleClosed.ledger key = some propData ∧
        nthByte propData 0 = proposalDiscriminator ∧
        nthByte propData propStatus = statusApproved :=
  approved_vouchers sampleDeployment_sound sampleClosed_run

/-- Where no record of a vote signs its call, a voucher has a quorum of the council behind it,
each with a signature of their own. -/
theorem voucher_carried (hd : d.Sound) (hrun : Run (process d) d calls w)
    (hunsigned : ∀ c ∈ calls, RecordUnsigned c) {invocation : Invocation}
    (hissued : invocation ∈ w.issued) :
    ∃ key propData m cnData, heldBy d.programId w.ledger key = some propData ∧
      CouncilAt (heldBy d.programId w.ledger) propData m cnData ∧
      IsVoucher d propData invocation ∧
      ∃ voters : Finset Bytes, voters ⊆ (membersOf cnData).toFinset ∧
        quorumOf cnData ≤ voters.card ∧ ∀ voter ∈ voters, ∃ c ∈ calls, Votes c true key voter := by
  obtain ⟨h, hreached, hshows⟩ := run_shows hd hrun
  have hsound := hreached.sound
  have haddressed := run_addressed hd hrun hunsigned hshows
  obtain ⟨key, hkey, propData, hheld, hdisc, -, hvoucher⟩ :=
    related_of_mem hshows.vouchers.flip hissued
  obtain ⟨-, m, cnData, hcouncil, hquorum, hpoll⟩ := hshows.poll hheld hdisc
  obtain ⟨p, hp, hsubset, hreached'⟩ := hsound.quorum_of_carried haddressed hkey
  rw [hpoll] at hp
  obtain rfl := Option.some.inj hp
  refine ⟨key, propData, m, cnData, hheld, hcouncil, hvoucher, h.voters key true, hsubset, ?_, ?_⟩
  · rw [← hquorum]
    exact hreached'
  · intro voter hvoter
    exact (mem_voters_iff hd hrun hshows).mp hvoter

theorem voucher_carried_sample : ∃ key propData m cnData,
    heldBy sampleDeployment.programId sampleClosed.ledger key = some propData ∧
      CouncilAt (heldBy sampleDeployment.programId sampleClosed.ledger) propData m cnData ∧
      IsVoucher sampleDeployment propData sampleInvocation ∧
      ∃ voters : Finset Bytes, voters ⊆ (membersOf cnData).toFinset ∧
        quorumOf cnData ≤ voters.card ∧ ∀ voter ∈ voters,
          ∃ c ∈ [sampleCreate, samplePropose] ++ sampleVotes, Votes c true key voter :=
  voucher_carried sampleDeployment_sound sampleClosed_run sampleClosed_unsigned
    sampleClosed_facts.2.2

/-! ## Where the accounts come from -/

/-- A council that was not there is the one that was made. -/
theorem Went.new_council {c : Call} {key : PublicKey} {data : Bytes} (h : Went d c w w')
    (hnone : heldBy d.programId w.ledger key = none)
    (hsome : heldBy d.programId w'.ledger key = some data)
    (hdisc : nthByte data 0 = councilDiscriminator) : ∃ rest a, c.data = 2 :: rest ∧
      CreateCouncilAccounts.of c.accounts = .ok a ∧ key = a.councilAccount.key ∧
      CouncilMade d a rest data w w' := by
  cases h with
  | proposal _ _ hmade =>
    rw [hmade.after, Function.update_apply] at hsome
    split_ifs at hsome with hkey
    · obtain rfl := Option.some.inj hsome
      rw [hmade.discriminator] at hdisc
      exact absurd hdisc (by decide)
    · rw [hnone] at hsome
      cases hsome
  | vote _ _ _ hvoted =>
    obtain hblank | ⟨rfl, -⟩ | ⟨-, rfl⟩ | ⟨-, hold⟩ := hvoted.after.of_updates hsome
    · rw [nthByte_of_isBlank hblank] at hdisc
      exact absurd hdisc (by decide)
    · rw [hvoted.proposal] at hnone
      cases hnone
    · rw [hvoted.record] at hdisc
      exact absurd hdisc (by decide)
    · rw [hnone] at hold
      cases hold
  | @council rest a cnData hdata ha hmade =>
    rw [hmade.after, Function.update_apply] at hsome
    split_ifs at hsome with hkey
    · obtain rfl := Option.some.inj hsome
      exact ⟨rest, a, hdata, ha, hkey, hmade⟩
    · rw [hnone] at hsome
      cases hsome

/-- A proposal that was not there is the one that was made. -/
theorem Went.new_proposal {c : Call} {key : PublicKey} {data : Bytes} (h : Went d c w w')
    (hnone : heldBy d.programId w.ledger key = none)
    (hsome : heldBy d.programId w'.ledger key = some data)
    (hdisc : nthByte data 0 = proposalDiscriminator) :
    ∃ rest a cnData, c.data = 0 :: rest ∧ CreateProposalAccounts.of c.accounts = .ok a ∧
      key = a.proposalAccount.key ∧ ProposalMade d c.accounts a rest cnData data w w' := by
  cases h with
  | @proposal rest a cnData propData hdata ha hmade =>
    rw [hmade.after, Function.update_apply] at hsome
    split_ifs at hsome with hkey
    · obtain rfl := Option.some.inj hsome
      exact ⟨rest, a, cnData, hdata, ha, hkey, hmade⟩
    · rw [hnone] at hsome
      cases hsome
  | vote _ _ _ hvoted =>
    obtain hblank | ⟨rfl, -⟩ | ⟨-, rfl⟩ | ⟨-, hold⟩ := hvoted.after.of_updates hsome
    · rw [nthByte_of_isBlank hblank] at hdisc
      exact absurd hdisc (by decide)
    · rw [hvoted.proposal] at hnone
      cases hnone
    · rw [hvoted.record] at hdisc
      exact absurd hdisc (by decide)
    · rw [hnone] at hold
      cases hold
  | council _ _ hmade =>
    rw [hmade.after, Function.update_apply] at hsome
    split_ifs at hsome with hkey
    · obtain rfl := Option.some.inj hsome
      rw [hmade.ok.discriminator] at hdisc
      exact absurd hdisc (by decide)
    · rw [hnone] at hsome
      cases hsome

/-- A council as the owner of its dWallet set it up. -/
structure FoundedBy (d : Deployment) (c : Call) (key : PublicKey) (cnData : Bytes)
    (w : World) : Prop where
  instruction : c.data.head? = some 2
  founded : ∃ a, CreateCouncilAccounts.of c.accounts = .ok a ∧ a.councilAccount.key = key ∧
    a.owner.isSigner = true ∧ sliceAt cnDwallet 32 cnData = a.dwallet.key.toBytes ∧
    ∃ stored, dwalletOwner d invalidDWalletAccount.toProgramError a.dwallet a.dwalletProgram w =
      .ok stored ∧ stored.val = a.owner.key.toBytes
  quorum : quorumOf cnData = leValue (sliceAt 1 4 c.data)
  members : membersOf cnData = chunks (sliceAt 7 (leValue (sliceAt 5 2 c.data) * 32) c.data)

/-- A council stands at the one address that belongs to its dWallet, with the quorum and the
members that the dWallet's owner signed for. -/
theorem council_founded (hd : d.Sound) (hrun : Run (process d) d calls w) {key : PublicKey}
    {cnData : Bytes} (hheld : heldBy d.programId w.ledger key = some cnData)
    (hdisc : nthByte cnData 0 = councilDiscriminator) :
    CouncilOk d key cnData ∧ ∃ c ∈ calls, ∃ w₁ w₂, process d c w₁ = .ok w₂ ∧
      Onward (process d) d w₂ w ∧ FoundedBy d c key cnData w₁ := by
  rcases (process_keeps hd).origin hrun hheld with hblank | hmade
  · rw [nthByte_of_isBlank hblank] at hdisc
    exact absurd hdisc (by decide)
  obtain ⟨c, hc, w₁, w₂, cnData₀, hok, hnone, hsome, honward, hkept⟩ := hmade
  have hdisc₀ := hkept.discriminator.symm.trans hdisc
  obtain rfl := hkept.other (by rw [hdisc₀]; decide)
  obtain ⟨rest, a, hdata, ha, rfl, hmade⟩ := (went_of_ok hd hok).new_council hnone hsome hdisc
  refine ⟨hmade.ok, c, hc, w₁, w₂, hok, honward, by rw [hdata]; rfl,
    ⟨a, ha, rfl, hmade.owner, hmade.dwallet, hmade.dwalletOwner⟩, ?_, ?_⟩
  · rw [hdata]
    exact hmade.quorum
  · rw [hdata]
    exact hmade.members

theorem council_founded_sample : CouncilOk sampleDeployment sampleCouncil sampleCnData ∧
    ∃ c ∈ [sampleCreate, samplePropose] ++ sampleVotes, ∃ w₁ w₂,
      process sampleDeployment c w₁ = .ok w₂ ∧
      Onward (process sampleDeployment) sampleDeployment w₂ sampleClosed ∧
      FoundedBy sampleDeployment c sampleCouncil sampleCnData w₁ :=
  council_founded sampleDeployment_sound sampleClosed_run sampleClosed_facts.2.1.1
    sampleClosed_facts.2.1.2

/-- The proposal account of a call does not sign the call that makes it. -/
def ProposalUnsigned (c : Call) : Prop :=
  ∀ a, c.data.head? = some 0 → CreateProposalAccounts.of c.accounts = .ok a →
    Unsigned c.accounts a.proposalAccount.key

/-- Where no proposal account signs for itself, a proposal stands at the one address of its id. Its
voucher has the one address that is derived from the id in any case. -/
theorem proposal_addressed (hd : d.Sound) (hrun : Run (process d) d calls w)
    (hunsigned : ∀ c ∈ calls, ProposalUnsigned c) {key : PublicKey} {propData : Bytes}
    (hheld : heldBy d.programId w.ledger key = some propData)
    (hdisc : nthByte propData 0 = proposalDiscriminator) :
    findProgramAddress d [textBytes "proposal", sliceAt propProposalId 32 propData] =
      .ok (key, nthByte propData propBump) ∧
    ∃ voucher, findProgramAddress d
      [textBytes "signature_voucher", sliceAt propProposalId 32 propData] =
        .ok (voucher, nthByte propData propSignatureVoucherBump) := by
  rcases (process_keeps hd).origin hrun hheld with hblank | hmade
  · rw [nthByte_of_isBlank hblank] at hdisc
    exact absurd hdisc (by decide)
  obtain ⟨c, hc, w₁, w₂, propData₀, hok, hnone, hsome, -, hkept⟩ := hmade
  have hdisc₀ := hkept.discriminator.symm.trans hdisc
  obtain ⟨rest, a, cnData, hdata, ha, rfl, hmade⟩ :=
    (went_of_ok hd hok).new_proposal hnone hsome hdisc₀
  have hsame := (hkept.proposal hdisc₀).1
  have hbump : nthByte propData propBump = nthByte rest 99 := by
    rw [hsame.outside.nthByte (.inr (by decide))]
    exact nthByte_of_slice (hmade.read (by simp [proposalFields, proposalOf]) rfl)
  have hvoucherBump : nthByte propData propSignatureVoucherBump = nthByte rest 98 := by
    rw [hsame.outside.nthByte (.inr (by decide))]
    exact nthByte_of_slice (hmade.read (by simp [proposalFields, proposalOf]) rfl)
  rw [hsame.id, hmade.id, hbump, hvoucherBump]
  exact ⟨hmade.address (hunsigned c hc a (by rw [hdata]; rfl) ha), hmade.voucher⟩

theorem samplePropose_unsigned :
    ∀ c ∈ [sampleCreate, samplePropose] ++ sampleVotes, ProposalUnsigned c := by
  intro c hc a hcreate ha
  simp only [sampleVotes, List.cons_append, List.nil_append, List.mem_cons, List.not_mem_nil,
    or_false] at hc
  obtain rfl | rfl | rfl | rfl | rfl := hc
  · exact absurd hcreate (by decide)
  · obtain rfl := Except.ok.inj ha
    have hne : repeatedKey 2 ≠ sampleProposal := by decide +kernel
    simp [Unsigned, samplePropose, hne]
  · exact absurd hcreate (by decide)
  · exact absurd hcreate (by decide)
  · exact absurd hcreate (by decide)

theorem proposal_addressed_sample :
    findProgramAddress sampleDeployment
      [textBytes "proposal", sliceAt propProposalId 32 samplePropData] =
        .ok (sampleProposal, nthByte samplePropData propBump) ∧
    ∃ voucher, findProgramAddress sampleDeployment
      [textBytes "signature_voucher", sliceAt propProposalId 32 samplePropData] =
        .ok (voucher, nthByte samplePropData propSignatureVoucherBump) :=
  proposal_addressed sampleDeployment_sound sampleClosed_run samplePropose_unsigned
    sampleClosed_facts.1.1 sampleClosed_facts.1.2

/-- What a voucher is for, as a member proposed and signed it. -/
structure CreatedBy (c : Call) (cnData proposalId : Bytes) (terms : CallTerms) : Prop where
  instruction : c.data.head? = some 0
  creator : ∃ a, CreateProposalAccounts.of c.accounts = .ok a ∧ a.creator.isSigner = true ∧
    a.creator.key.toBytes ∈ membersOf cnData
  id : proposalId = sliceAt 1 32 c.data
  messageDigest : terms.messageDigest.val = sliceAt 33 32 c.data
  userPubkey : terms.userPubkey.val = sliceAt 65 32 c.data
  signatureScheme : terms.signatureScheme = leValue (sliceAt 97 2 c.data)
  signatureVoucherBump : terms.signatureVoucherBump = nthByte c.data 99

theorem ProposalMade.createdBy {c : Call} {rest : Bytes} {a : CreateProposalAccounts}
    {cnData propData propData' : Bytes} {terms : CallTerms} (hdata : c.data = 0 :: rest)
    (ha : CreateProposalAccounts.of c.accounts = .ok a)
    (hmade : ProposalMade d c.accounts a rest cnData propData w w')
    (hsame : SameProposal propData propData') (hterms : CallTerms.read propData' = .ok terms) :
    CreatedBy c cnData (sliceAt propProposalId 32 propData') terms := by
  obtain ⟨-, -, hdigest, hkey, hscheme, hbump⟩ := CallTerms.read_ok hterms
  have hread : ∀ {offset bytes width},
      (offset, bytes) ∈ proposalFields (proposalOf a (quorumOf cnData) rest) →
      bytes.length = width → sliceAt offset width propData = bytes := hmade.read
  have hfits := hmade.fits
  refine ⟨by rw [hdata]; rfl, ⟨a, ha, hmade.signed, hmade.verified.member⟩, ?_, ?_, ?_, ?_, ?_⟩
  · rw [hsame.id, hmade.id, hdata]
    rfl
  · rw [hdigest, hsame.outside.slices propMessageDigest 32 (.inl (by decide)), hdata]
    change _ = sliceAt 32 32 rest
    exact hread (by simp [proposalFields, proposalOf]) (length_sliceAt (by omega))
  · rw [hkey, hsame.outside.slices propUserPubkey 32 (.inl (by decide)), hdata]
    change _ = sliceAt 64 32 rest
    exact hread (by simp [proposalFields, proposalOf]) (length_sliceAt (by omega))
  · rw [hscheme, hsame.outside.slices propSignatureScheme 2 (.inl (by decide)), hdata]
    change _ = leValue (sliceAt 96 2 rest)
    exact congrArg leValue
      (hread (by simp [proposalFields, proposalOf]) (length_sliceAt (by omega)))
  · rw [hbump, hsame.outside.nthByte (.inr (by decide)), hdata]
    change _ = nthByte rest 98
    exact nthByte_of_slice (hread (by simp [proposalFields, proposalOf]) rfl)

/-- Every voucher that is issued is on the council's dWallet, for what one of its members proposed
and signed. -/
theorem voucher_created (hd : d.Sound) (hrun : Run (process d) d calls w)
    {invocation : Invocation} (hissued : invocation ∈ w.issued) :
    ∃ a v proposalId bump terms m cnData,
      voucherCall d a v proposalId bump terms = .ok invocation ∧
      heldBy d.programId w.ledger m = some cnData ∧ CouncilOk d m cnData ∧
      v.dwallet.key.toBytes = sliceAt cnDwallet 32 cnData ∧ quorumOf cnData ≤ terms.yesVotes ∧
      ∃ c ∈ calls, CreatedBy c cnData proposalId terms := by
  obtain ⟨h, hreached, hshows⟩ := run_shows hd hrun
  obtain ⟨key, -, propData, hheld, hdisc, happroved, a, v, bump, terms, hterms, hcall, hdwallet,
    -⟩ := related_of_mem hshows.vouchers.flip hissued
  obtain ⟨hstatus, m, cnData, hcouncil, hquorum, hpoll⟩ := hshows.poll hheld hdisc
  have hok := hshows.council hcouncil.1 hcouncil.2.1
  have hdecided := decidedBy_of_sound hreached.sound hok hquorum hstatus hpoll
  refine ⟨a, v, _, bump, terms, m, cnData, hcall, hcouncil.1, hok, ?_, ?_, ?_⟩
  · rw [hdwallet, hcouncil.2.2]
  · rw [(CallTerms.read_ok hterms).1]
    exact hdecided.approved.mp happroved
  rcases (process_keeps hd).origin hrun hheld with hblank | hmade
  · rw [nthByte_of_isBlank hblank] at hdisc
    exact absurd hdisc (by decide)
  obtain ⟨c, hc, w₁, w₂, propData₀, hproc, hnone, hsome, honward, hkept⟩ := hmade
  have hdisc₀ := hkept.discriminator.symm.trans hdisc
  obtain ⟨rest, p, cnData₁, hdata, hp, rfl, hmade⟩ :=
    (went_of_ok hd hproc).new_proposal hnone hsome hdisc₀
  have hsame := (hkept.proposal hdisc₀).1
  -- the council that checked the creator is the one there is now
  have hfirst : CouncilAt (heldBy d.programId w₁.ledger) propData p.council.key cnData₁ := by
    refine ⟨hmade.verified.account, hmade.verified.discriminator, ?_⟩
    rw [hmade.verified.dwallet, hsame.dwallet]
    exact (hmade.read (by simp [proposalFields, proposalOf]) p.dwallet.key.length_eq).symm
  have hlater := (process_keeps hd).onward (honward.head (.call hproc))
  obtain ⟨-, rfl⟩ := hshows.council_unique hcouncil (hfirst.later hlater (.refl propData))
  exact ⟨c, hc, hmade.createdBy hdata hp hsame hterms⟩

theorem voucher_created_sample : ∃ a v proposalId bump terms m cnData,
    voucherCall sampleDeployment a v proposalId bump terms = .ok sampleInvocation ∧
      heldBy sampleDeployment.programId sampleClosed.ledger m = some cnData ∧
      CouncilOk sampleDeployment m cnData ∧
      v.dwallet.key.toBytes = sliceAt cnDwallet 32 cnData ∧ quorumOf cnData ≤ terms.yesVotes ∧
      ∃ c ∈ [sampleCreate, samplePropose] ++ sampleVotes,
        CreatedBy c cnData proposalId terms :=
  voucher_created sampleDeployment_sound sampleClosed_run sampleClosed_facts.2.2

end Ika.Programs.Voting
