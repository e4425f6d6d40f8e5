import IkaSdk.Lib.Entries
import IkaSdk.Programs.MultisigRuns

/-! What the members of a multisig can rely on: how transactions are decided, which vouchers
are issued, and where each account comes from. -/

namespace Ika.Programs.Multisig

open Wire Ledgers Solana Crates Polls MultisigError

variable {d : Deployment} {w w' : World} {calls : List Call}

/-! ## Decisions -/

theorem outcomeOf_carried {status : UInt8} : outcomeOf status = .carried ↔
    status = statusApproved := by
  unfold outcomeOf
  split_ifs with hactive happroved
  · subst hactive
    decide
  · simp [happroved]
  · simp [happroved]

theorem outcomeOf_lost {status : UInt8}
    (h : status ∈ [statusActive, statusApproved, statusRejected]) :
    outcomeOf status = .lost ↔ status = statusRejected := by
  simp only [List.mem_cons, List.not_mem_nil, or_false] at h
  obtain rfl | rfl | rfl := h <;> decide

/-- The status of a transaction, and the rules it is decided by. -/
structure DecidedBy (msData txData : Bytes) : Prop where
  rules : MultisigOk msData
  status : nthByte txData txStatus ∈ [statusActive, statusApproved, statusRejected]
  approved : nthByte txData txStatus = statusApproved ↔
    thresholdOf msData ≤ leValue (sliceAt txApprovalCount 2 txData)
  rejected : nthByte txData txStatus = statusRejected ↔
    memberCountOf msData - thresholdOf msData + 1 ≤ leValue (sliceAt txRejectionCount 2 txData)

theorem decidedBy_of_sound {h : Hall PublicKey Bytes} (hsound : Sound h) {key : PublicKey}
    {msData txData : Bytes} (hok : MultisigOk msData)
    (hstatus : nthByte txData txStatus ∈ [statusActive, statusApproved, statusRejected])
    (hpoll : h.polls key = some (pollOf msData txData)) : DecidedBy msData txData := by
  have hdecided := hsound.decided hpoll
  refine ⟨hok, hstatus, ?_, ?_⟩
  · rw [← outcomeOf_carried]
    exact hdecided.carried
  · rw [← outcomeOf_lost hstatus]
    have hlost := hdecided.lost
    simpa [pollOf] using hlost

/-- In every run, a transaction is approved when its approvals reach the threshold of its
multisig, and rejected when its rejections leave too few members for the threshold. -/
theorem transaction_decided (hd : d.Sound) (hrun : Run (process d) d calls w) {key : PublicKey}
    {txData : Bytes} (hheld : heldBy d.programId w.ledger key = some txData)
    (hdisc : nthByte txData 0 = transactionDiscriminator) :
    ∃ m msData, sliceAt txMultisig 32 txData = m.toBytes ∧
      heldBy d.programId w.ledger m = some msData ∧ DecidedBy msData txData := by
  obtain ⟨h, hreached, hshows⟩ := run_shows hd hrun
  obtain ⟨-, hstatus, m, msData, hm, hms, hmsDisc, hpoll⟩ := hshows.poll hheld hdisc
  exact ⟨m, msData, hm, hms, decidedBy_of_sound hreached.sound (hshows.multisig hms hmsDisc)
    hstatus hpoll⟩

def sampleTxData : Bytes := (sampleClosed.ledger sampleTransaction).data

def sampleMsData : Bytes := (sampleClosed.ledger sampleMultisig).data

def sampleInvocation : Invocation :=
  sampleClosed.issued.getD 0 ⟨⟨systemProgramId, [], []⟩, [], []⟩

theorem sampleClosed_facts :
    (heldBy sampleDeployment.programId sampleClosed.ledger sampleTransaction = some sampleTxData ∧
      nthByte sampleTxData 0 = transactionDiscriminator) ∧
    (heldBy sampleDeployment.programId sampleClosed.ledger sampleMultisig = some sampleMsData ∧
      nthByte sampleMsData 0 = multisigDiscriminator) ∧
    sampleInvocation ∈ sampleClosed.issued := by
  decide +kernel

theorem transaction_decided_sample : ∃ m msData, sliceAt txMultisig 32 sampleTxData = m.toBytes ∧
    heldBy sampleDeployment.programId sampleClosed.ledger m = some msData ∧
    DecidedBy msData sampleTxData :=
  transaction_decided sampleDeployment_sound sampleClosed_run sampleClosed_facts.1.1
    sampleClosed_facts.1.2

/-- The votes on a transaction, member by member. -/
structure CountedBy (calls : List Call) (key : PublicKey) (msData txData : Bytes) : Prop where
  votes : ∃ yes no : Finset Bytes, Disjoint yes no ∧ yes ∪ no ⊆ (membersOf msData).toFinset ∧
    (∀ member, member ∈ yes ↔ ∃ c ∈ calls, Votes c true key member) ∧
    (∀ member, member ∈ no ↔ ∃ c ∈ calls, Votes c false key member) ∧
    yes.card = leValue (sliceAt txApprovalCount 2 txData) ∧
    no.card = leValue (sliceAt txRejectionCount 2 txData)
  turnout : leValue (sliceAt txApprovalCount 2 txData) +
    leValue (sliceAt txRejectionCount 2 txData) ≤ memberCountOf msData
  all : leValue (sliceAt txApprovalCount 2 txData) + leValue (sliceAt txRejectionCount 2 txData) =
    memberCountOf msData → nthByte txData txStatus ≠ statusActive
  rejected : nthByte txData txStatus = statusRejected →
    memberCountOf msData - leValue (sliceAt txRejectionCount 2 txData) < thresholdOf msData

/-- Where no record of a vote signs its call, the counts of a transaction are numbers of members:
nobody is counted twice, a full turnout decides, and a rejection is final in fact. -/
theorem transaction_counted (hd : d.Sound) (hrun : Run (process d) d calls w)
    (hunsigned : ∀ c ∈ calls, RecordUnsigned c) {key : PublicKey} {txData : Bytes}
    (hheld : heldBy d.programId w.ledger key = some txData)
    (hdisc : nthByte txData 0 = transactionDiscriminator) :
    ∃ m msData, sliceAt txMultisig 32 txData = m.toBytes ∧
      heldBy d.programId w.ledger m = some msData ∧ CountedBy calls key msData txData := by
  obtain ⟨h, hreached, hshows⟩ := run_shows hd hrun
  obtain ⟨-, hstatus, m, msData, hm, hms, hmsDisc, hpoll⟩ := hshows.poll hheld hdisc
  have hsound := hreached.sound
  have haddressed := run_addressed hd hrun hunsigned hshows
  have hok := hshows.multisig hms hmsDisc
  have hle := hok.threshold_le
  have hdecided := decidedBy_of_sound hsound hok hstatus hpoll
  have hturnout : leValue (sliceAt txApprovalCount 2 txData) +
      leValue (sliceAt txRejectionCount 2 txData) ≤ memberCountOf msData := by
    rw [← hok.count]
    exact hsound.turnout_le haddressed hpoll
  refine ⟨m, msData, hm, hms, ⟨h.voters key true, h.voters key false,
    hsound.voters_disjoint haddressed key, ?_, ?_, ?_, hsound.card_yes haddressed hpoll,
    hsound.card_no haddressed hpoll⟩, hturnout, ?_, ?_⟩
  · exact Finset.union_subset (hsound.voters_subset hpoll true) (hsound.voters_subset hpoll false)
  · intro member
    exact mem_voters_iff hd hrun hshows
  · intro member
    exact mem_voters_iff hd hrun hshows
  · intro hall hactive
    apply hsound.decided_of_turnout hpoll rfl
    · simp only [pollOf]
      rw [hok.count]
      omega
    · simp only [pollOf]
      rw [hok.count]
      omega
    · exact outcome_of_status msData hactive
  · intro hrejected
    have hlimit := hdecided.rejected.mp hrejected
    omega

theorem sampleApprove_unsigned (member : PublicKey) (hne : member ≠ sampleAddress
    [textBytes "approval", sampleTransaction.toBytes, member.toBytes, [255]]) :
    RecordUnsigned (sampleApprove member) := by
  intro a _ ha
  obtain rfl := Except.ok.inj ha
  simp [Unsigned, sampleApprove, hne]

theorem sampleClosed_unsigned :
    ∀ c ∈ [sampleCreate, samplePropose] ++ sampleApprovals, RecordUnsigned c := by
  intro c hc
  simp only [sampleApprovals, List.cons_append, List.nil_append, List.mem_cons, List.not_mem_nil,
    or_false] at hc
  obtain rfl | rfl | rfl | rfl := hc
  · intro a hside
    exact absurd hside (by decide)
  · intro a hside
    exact absurd hside (by decide)
  · exact sampleApprove_unsigned _ (by decide +kernel)
  · exact sampleApprove_unsigned _ (by decide +kernel)

theorem transaction_counted_sample : ∃ m msData, sliceAt txMultisig 32 sampleTxData = m.toBytes ∧
    heldBy sampleDeployment.programId sampleClosed.ledger m = some msData ∧
    CountedBy ([sampleCreate, samplePropose] ++ sampleApprovals) sampleTransaction msData
      sampleTxData :=
  transaction_counted sampleDeployment_sound sampleClosed_run sampleClosed_unsigned
    sampleClosed_facts.1.1 sampleClosed_facts.1.2

/-! ## Vouchers -/

/-- The transactions for which a voucher was issued are those that are approved, and each of
them has one. -/
theorem voucher_once (hd : d.Sound) (hrun : Run (process d) d calls w) :
    ∃ keys : List PublicKey, keys.Nodup ∧
      List.Forall₂ (VoucherFor d (heldBy d.programId w.ledger)) w.issued keys ∧
      ∀ key, key ∈ keys ↔ ∃ txData, heldBy d.programId w.ledger key = some txData ∧
        nthByte txData 0 = transactionDiscriminator ∧ nthByte txData txStatus = statusApproved := by
  obtain ⟨h, hreached, hshows⟩ := run_shows hd hrun
  have hsound := hreached.sound
  refine ⟨h.carried, hsound.once, hshows.vouchers, ?_⟩
  intro key
  rw [hsound.carried key]
  constructor
  · rintro ⟨p, hp, hcarried⟩
    have hmem : key ∈ h.carried := (hsound.carried key).mpr ⟨p, hp, hcarried⟩
    obtain ⟨invocation, -, txData, -, -, hheld, hdisc, -⟩ := related_of_mem hshows.vouchers hmem
    obtain ⟨-, -, m, msData, -, -, -, hpoll⟩ := hshows.poll hheld hdisc
    rw [hp] at hpoll
    rw [Option.some.inj hpoll] at hcarried
    exact ⟨txData, hheld, hdisc, outcomeOf_carried.mp hcarried⟩
  · rintro ⟨txData, hheld, hdisc, hstatus⟩
    obtain ⟨-, -, m, msData, -, -, -, hpoll⟩ := hshows.poll hheld hdisc
    exact ⟨_, hpoll, outcomeOf_carried.mpr hstatus⟩

theorem voucher_once_sample : ∃ keys : List PublicKey, keys.Nodup ∧
    List.Forall₂ (VoucherFor sampleDeployment
      (heldBy sampleDeployment.programId sampleClosed.ledger)) sampleClosed.issued keys ∧
    ∀ key, key ∈ keys ↔ ∃ txData,
      heldBy sampleDeployment.programId sampleClosed.ledger key = some txData ∧
        nthByte txData 0 = transactionDiscriminator ∧ nthByte txData txStatus = statusApproved :=
  voucher_once sampleDeployment_sound sampleClosed_run

/-- Where no record of a vote signs its call, a voucher was approved by a threshold of the
members, each with a signature of their own. -/
theorem voucher_approved (hd : d.Sound) (hrun : Run (process d) d calls w)
    (hunsigned : ∀ c ∈ calls, RecordUnsigned c) {invocation : Invocation}
    (hissued : invocation ∈ w.issued) :
    ∃ key txData m msData, heldBy d.programId w.ledger key = some txData ∧
      sliceAt txMultisig 32 txData = m.toBytes ∧ heldBy d.programId w.ledger m = some msData ∧
      IsVoucher d msData txData key invocation ∧
      ∃ approvers : Finset Bytes, approvers ⊆ (membersOf msData).toFinset ∧
        thresholdOf msData ≤ approvers.card ∧
        ∀ member ∈ approvers, ∃ c ∈ calls, Votes c true key member := by
  obtain ⟨h, hreached, hshows⟩ := run_shows hd hrun
  have hsound := hreached.sound
  have haddressed := run_addressed hd hrun hunsigned hshows
  obtain ⟨key, hkey, txData, m, msData, hheld, hdisc, hm, hms, -, hvoucher⟩ :=
    related_of_mem hshows.vouchers.flip hissued
  obtain ⟨-, -, m', msData', hm', hms', -, hpoll⟩ := hshows.poll hheld hdisc
  obtain rfl := publicKey_ext (hm.symm.trans hm')
  rw [hms] at hms'
  obtain rfl := Option.some.inj hms'
  obtain ⟨p, hp, hsubset, hquorum⟩ := hsound.quorum_of_carried haddressed hkey
  rw [hpoll] at hp
  obtain rfl := Option.some.inj hp
  refine ⟨key, txData, m, msData, hheld, hm, hms, hvoucher, h.voters key true, hsubset, hquorum, ?_⟩
  intro member hmember
  exact (mem_voters_iff hd hrun hshows).mp hmember

theorem voucher_approved_sample : ∃ key txData m msData,
    heldBy sampleDeployment.programId sampleClosed.ledger key = some txData ∧
      sliceAt txMultisig 32 txData = m.toBytes ∧
      heldBy sampleDeployment.programId sampleClosed.ledger m = some msData ∧
      IsVoucher sampleDeployment msData txData key sampleInvocation ∧
      ∃ approvers : Finset Bytes, approvers ⊆ (membersOf msData).toFinset ∧
        thresholdOf msData ≤ approvers.card ∧ ∀ member ∈ approvers,
          ∃ c ∈ [sampleCreate, samplePropose] ++ sampleApprovals, Votes c true key member :=
  voucher_approved sampleDeployment_sound sampleClosed_run sampleClosed_unsigned
    sampleClosed_facts.2.2

/-! ## Where the accounts come from -/

/-- A multisig that was not there is the one that was made. -/
theorem Went.new_multisig {c : Call} {key : PublicKey} {data : Bytes} (h : Went d c w w')
    (hnone : heldBy d.programId w.ledger key = none)
    (hsome : heldBy d.programId w'.ledger key = some data)
    (hdisc : nthByte data 0 = multisigDiscriminator) : ∃ rest a, c.data = 0 :: rest ∧
      CreateMultisigAccounts.of c.accounts = .ok a ∧ key = a.multisigAccount.key ∧
      MultisigMade d a rest data w w' := by
  cases h with
  | @multisig rest a msData hdata ha hmade =>
    rw [hmade.after, Function.update_apply] at hsome
    split_ifs at hsome with hkey
    · obtain rfl := Option.some.inj hsome
      exact ⟨rest, a, hdata, ha, hkey, hmade⟩
    · rw [hnone] at hsome
      cases hsome
  | transaction _ _ hmade =>
    rw [hmade.after, Function.update_apply, Function.update_apply] at hsome
    split_ifs at hsome with hms htx
    · rw [hms, hmade.verified.account] at hnone
      cases hnone
    · obtain rfl := Option.some.inj hsome
      rw [hmade.ok.discriminator] at hdisc
      exact absurd hdisc (by decide)
    · rw [hnone] at hsome
      cases hsome
  | vote _ _ hvoted =>
    obtain hblank | ⟨rfl, -⟩ | ⟨-, rfl⟩ | ⟨-, hold⟩ := hvoted.held_after hsome
    · rw [nthByte_of_isBlank hblank] at hdisc
      exact absurd hdisc (by decide)
    · rw [hvoted.transaction] at hnone
      cases hnone
    · rw [hvoted.record_discriminator] at hdisc
      exact absurd hdisc (by decide)
    · rw [hnone] at hold
      cases hold

/-- A transaction that was not there is the one that was made. -/
theorem Went.new_transaction {c : Call} {key : PublicKey} {data : Bytes} (h : Went d c w w')
    (hnone : heldBy d.programId w.ledger key = none)
    (hsome : heldBy d.programId w'.ledger key = some data)
    (hdisc : nthByte data 0 = transactionDiscriminator) :
    ∃ rest a index msData msData', c.data = 1 :: rest ∧
      CreateTransactionAccounts.of c.accounts = .ok a ∧ key = a.txAccount.key ∧
      TransactionMade d c.accounts a rest (proposalOf a index rest) msData msData' data w w' := by
  cases h with
  | multisig _ _ hmade =>
    rw [hmade.after, Function.update_apply] at hsome
    split_ifs at hsome with hkey
    · obtain rfl := Option.some.inj hsome
      rw [hmade.ok.discriminator] at hdisc
      exact absurd hdisc (by decide)
    · rw [hnone] at hsome
      cases hsome
  | @transaction rest a index msData msData' txData hdata ha hmade =>
    rw [hmade.after, Function.update_apply, Function.update_apply] at hsome
    split_ifs at hsome with hms htx
    · rw [hms, hmade.verified.account] at hnone
      cases hnone
    · obtain rfl := Option.some.inj hsome
      exact ⟨rest, a, index, msData, msData', hdata, ha, htx, hmade⟩
    · rw [hnone] at hsome
      cases hsome
  | vote _ _ hvoted =>
    obtain hblank | ⟨rfl, -⟩ | ⟨-, rfl⟩ | ⟨-, hold⟩ := hvoted.held_after hsome
    · rw [nthByte_of_isBlank hblank] at hdisc
      exact absurd hdisc (by decide)
    · rw [hvoted.transaction] at hnone
      cases hnone
    · rw [hvoted.record_discriminator] at hdisc
      exact absurd hdisc (by decide)
    · rw [hnone] at hold
      cases hold

/-- A multisig as the owner of its dWallet set it up. -/
structure FoundedBy (d : Deployment) (c : Call) (key : PublicKey) (msData : Bytes)
    (w : World) : Prop where
  instruction : c.data.head? = some 0
  founded : ∃ a, CreateMultisigAccounts.of c.accounts = .ok a ∧ a.multisigAccount.key = key ∧
    a.owner.isSigner = true ∧ sliceAt msDwallet 32 msData = a.dwallet.key.toBytes ∧
    ∃ stored, dwalletOwner d invalidDWalletAccount.toProgramError a.dwallet a.dwalletProgram w =
      .ok stored ∧ stored.val = a.owner.key.toBytes
  threshold : thresholdOf msData = leValue (sliceAt 1 2 c.data)
  members : membersOf msData = chunks (sliceAt 5 (leValue (sliceAt 3 2 c.data) * 32) c.data)

theorem MultisigMade.foundedBy {c : Call} {rest : Bytes} {a : CreateMultisigAccounts}
    {msData msData₀ : Bytes} (hdata : c.data = 0 :: rest)
    (ha : CreateMultisigAccounts.of c.accounts = .ok a)
    (hmade : MultisigMade d a rest msData₀ w w')
    (hagree : AgreeOutside msTxIndex (msTxIndex + 4) msData₀ msData) :
    FoundedBy d c a.multisigAccount.key msData w := by
  have hpoll := pollOf_congr [] hagree
  refine ⟨by rw [hdata]; rfl, ⟨a, ha, rfl, hmade.owner, ?_, hmade.dwalletOwner⟩, ?_, ?_⟩
  · rw [hagree.slices msDwallet 32 (.inl (by decide)), hmade.dwallet]
  · rw [hdata]
    exact (congrArg Poll.quorum hpoll).trans hmade.threshold
  · rw [hdata]
    exact (congrArg Poll.electors hpoll).trans hmade.members

/-- A multisig stands at the one address that belongs to its dWallet. It was made with the
signature of the dWallet's owner at the time, and its rules are those the owner gave. -/
theorem multisig_founded (hd : d.Sound) (hrun : Run (process d) d calls w) {key : PublicKey}
    {msData : Bytes} (hheld : heldBy d.programId w.ledger key = some msData)
    (hdisc : nthByte msData 0 = multisigDiscriminator) :
    findProgramAddress d [textBytes "multisig", sliceAt msDwallet 32 msData] =
      .ok (key, nthByte msData msBump) ∧
    ∃ c ∈ calls, ∃ w₁ w₂, process d c w₁ = .ok w₂ ∧ Onward (process d) d w₂ w ∧
      FoundedBy d c key msData w₁ := by
  rcases (process_keeps hd).origin hrun hheld with hblank | hmade
  · rw [nthByte_of_isBlank hblank] at hdisc
    exact absurd hdisc (by decide)
  obtain ⟨c, hc, w₁, w₂, msData₀, hok, hnone, hsome, honward, hkept⟩ := hmade
  have hdisc₀ := hkept.discriminator.symm.trans hdisc
  obtain ⟨rest, a, hdata, ha, rfl, hmade⟩ :=
    (went_of_ok hd hok).new_multisig hnone hsome hdisc₀
  have hagree := (hkept.multisig hdisc₀).1
  refine ⟨?_, c, hc, w₁, w₂, hok, honward, hmade.foundedBy hdata ha hagree⟩
  rw [hagree.slices msDwallet 32 (.inl (by decide)), hmade.dwallet,
    hagree.nthByte (.inr (by decide)), hmade.address]

theorem multisig_founded_sample :
    findProgramAddress sampleDeployment [textBytes "multisig", sliceAt msDwallet 32 sampleMsData] =
      .ok (sampleMultisig, nthByte sampleMsData msBump) ∧
    ∃ c ∈ [sampleCreate, samplePropose] ++ sampleApprovals, ∃ w₁ w₂,
      process sampleDeployment c w₁ = .ok w₂ ∧
      Onward (process sampleDeployment) sampleDeployment w₂ sampleClosed ∧
      FoundedBy sampleDeployment c sampleMultisig sampleMsData w₁ :=
  multisig_founded sampleDeployment_sound sampleClosed_run sampleClosed_facts.2.1.1
    sampleClosed_facts.2.1.2

/-- The terms of a voucher are those of the proposal that made its transaction, and the proposer
was a member who signed it. -/
structure ProposedBy (c : Call) (key : PublicKey) (msData : Bytes) (terms : CallTerms) : Prop where
  instruction : c.data.head? = some 1
  proposer : ∃ a, CreateTransactionAccounts.of c.accounts = .ok a ∧ a.txAccount.key = key ∧
    a.proposer.isSigner = true ∧ a.proposer.key.toBytes ∈ membersOf msData ∧
    terms.proposer.val = a.proposer.key.toBytes
  messageHash : terms.messageHash.val = sliceAt 1 32 c.data
  userPubkey : terms.userPubkey.val = sliceAt 33 32 c.data
  signatureScheme : terms.signatureScheme = leValue (sliceAt 65 2 c.data)
  signatureVoucherBump : terms.signatureVoucherBump = nthByte c.data 67
  futureSign : terms.futureSign = decide (nthByte c.data 68 ≠ 0)

theorem CallTerms.read_ok {txData : Bytes} {terms : CallTerms}
    (h : CallTerms.read txData = .ok terms) :
    terms.messageHash.val = sliceAt txMessageHash 32 txData ∧
      terms.userPubkey.val = sliceAt txUserPubkey 32 txData ∧
      terms.signatureScheme = leValue (sliceAt txSignatureScheme 2 txData) ∧
      terms.signatureVoucherBump = nthByte txData txSignatureVoucherBump ∧
      terms.futureSign = decide (nthByte txData txFutureSign ≠ 0) ∧
      terms.proposer.val = sliceAt txProposer 32 txData := by
  obtain ⟨messageHash, hhash, h⟩ := bind_ok h
  obtain ⟨userPubkey, hkey, h⟩ := bind_ok h
  obtain ⟨signatureScheme, hscheme, h⟩ := bind_ok h
  obtain ⟨proposer, hproposer, h⟩ := bind_ok h
  obtain rfl := Except.ok.inj h
  exact ⟨(readKey_ok hhash).2, (readKey_ok hkey).2, (readU16_ok hscheme).2, rfl, rfl,
    (readKey_ok hproposer).2⟩

theorem TransactionMade.proposedBy {c : Call} {rest : Bytes} {a : CreateTransactionAccounts}
    {index : ℕ} {msData msData' msData'' txData txData' : Bytes} {terms : CallTerms}
    (hdata : c.data = 1 :: rest) (ha : CreateTransactionAccounts.of c.accounts = .ok a)
    (hmade : TransactionMade d c.accounts a rest (proposalOf a index rest) msData msData' txData
      w w')
    (hmembers : membersOf msData'' = membersOf msData) (hsame : SameTransaction txData txData')
    (hterms : CallTerms.read txData' = .ok terms) :
    ProposedBy c a.txAccount.key msData'' terms := by
  rw [hsame.terms] at hterms
  obtain ⟨hhash, hkey, hscheme, hbump, hfuture, hproposer⟩ := CallTerms.read_ok hterms
  have hread : ∀ {offset bytes width},
      (offset, bytes) ∈ transactionFields (proposalOf a index rest) → bytes.length = width →
      sliceAt offset width txData = bytes := hmade.read
  have hfits := hmade.fits
  refine ⟨by rw [hdata]; rfl, ⟨a, ha, rfl, hmade.signed, ?_, ?_⟩, ?_, ?_, ?_, ?_, ?_⟩
  · rw [hmembers]
    exact hmade.member
  · rw [hproposer]
    exact hread (by simp [transactionFields, proposalOf]) a.proposer.key.length_eq
  · rw [hhash, hdata]
    change _ = sliceAt 0 32 rest
    exact hread (by simp [transactionFields, proposalOf]) (length_sliceAt (by omega))
  · rw [hkey, hdata]
    change _ = sliceAt 32 32 rest
    exact hread (by simp [transactionFields, proposalOf]) (length_sliceAt (by omega))
  · rw [hscheme, hdata]
    change _ = leValue (sliceAt 64 2 rest)
    exact congrArg leValue
      (hread (by simp [transactionFields, proposalOf]) (length_sliceAt (by omega)))
  · rw [hbump, hdata]
    change _ = nthByte rest 66
    exact nthByte_of_slice (hread (by simp [transactionFields, proposalOf]) rfl)
  · have hflag : nthByte txData txFutureSign = nthByte rest 67 :=
      nthByte_of_slice (hread (by simp [transactionFields, proposalOf]) rfl)
    rw [hfuture, hdata, hflag]
    rfl

/-- Every voucher that is issued is on the multisig's dWallet, for what one of its members
proposed and signed. -/
theorem voucher_proposed (hd : d.Sound) (hrun : Run (process d) d calls w)
    {invocation : Invocation} (hissued : invocation ∈ w.issued) :
    ∃ a v bump terms m msData, voucherCall d a v bump terms = .ok invocation ∧
      heldBy d.programId w.ledger m = some msData ∧ MultisigOk msData ∧
      v.dwallet.key.toBytes = sliceAt msDwallet 32 msData ∧
      ∃ c ∈ calls, ProposedBy c a.txAccount.key msData terms := by
  obtain ⟨h, -, hshows⟩ := run_shows hd hrun
  obtain ⟨key, -, txData, m, msData, hheld, hdisc, hm, hms, hmsDisc, a, v, bump, terms, hterms, rfl,
    hcall, hdwallet, -⟩ := related_of_mem hshows.vouchers.flip hissued
  refine ⟨a, v, bump, terms, m, msData, hcall, hms, hshows.multisig hms hmsDisc, hdwallet, ?_⟩
  rcases (process_keeps hd).origin hrun hheld with hblank | hmade
  · rw [nthByte_of_isBlank hblank] at hdisc
    exact absurd hdisc (by decide)
  obtain ⟨c, hc, w₁, w₂, txData₀, hok, hnone, hsome, honward, hkept⟩ := hmade
  have hdisc₀ := hkept.discriminator.symm.trans hdisc
  obtain ⟨rest, p, index, msData₁, msData₂, hdata, hp, hkey, hmade⟩ :=
    (went_of_ok hd hok).new_transaction hnone hsome hdisc₀
  have hsame := (hkept.transaction hdisc₀).1
  have hmultisig : p.multisigAccount.key = m := by
    apply publicKey_ext
    rw [← hm, AgreeOutside.slices hsame txMultisig 32 (.inl (by decide))]
    exact (hmade.read (by simp [transactionFields, proposalOf])
      p.multisigAccount.key.length_eq).symm
  obtain ⟨msData', hms', hkept'⟩ := (process_keeps hd).onward (honward.head (.call hok))
    p.multisigAccount.key msData₁ hmade.verified.account
  rw [hmultisig, hms] at hms'
  obtain rfl := Option.some.inj hms'
  have hagree := (hkept'.multisig hmade.verified.discriminator).1
  have hmembers := congrArg Poll.electors (pollOf_congr [] hagree)
  refine ⟨c, hc, ?_⟩
  rw [hkey]
  exact hmade.proposedBy hdata hp hmembers hsame hterms

theorem voucher_proposed_sample : ∃ a v bump terms m msData,
    voucherCall sampleDeployment a v bump terms = .ok sampleInvocation ∧
      heldBy sampleDeployment.programId sampleClosed.ledger m = some msData ∧ MultisigOk msData ∧
      v.dwallet.key.toBytes = sliceAt msDwallet 32 msData ∧
      ∃ c ∈ [sampleCreate, samplePropose] ++ sampleApprovals,
        ProposedBy c a.txAccount.key msData terms :=
  voucher_proposed sampleDeployment_sound sampleClosed_run sampleClosed_facts.2.2

end Ika.Programs.Multisig
