import IkaSdk.Programs.Histories
import IkaSdk.Programs.MultisigSteps

/-! What holds of the multisig program in every run, whatever the other programs do in between:
nothing that was agreed on changes, each transaction is a poll of the members, and a voucher is
issued for an approved transaction only, once, on the terms that were proposed. -/

namespace Ika.Programs.Multisig

open Wire Ledgers Solana Crates Polls MultisigError

abbrev process (d : Deployment) (c : Call) (w : World) : Except ProgramError World :=
  processInstruction d c.accounts c.data w

variable {d : Deployment} {w w' : World} {c : Call}

/-- Which instruction went through. -/
inductive Went (d : Deployment) (c : Call) (w w' : World) : Prop
  | multisig {rest : Bytes} {a : CreateMultisigAccounts} {msData : Bytes} : c.data = 0 :: rest →
      CreateMultisigAccounts.of c.accounts = .ok a → MultisigMade d a rest msData w w' →
      Went d c w w'
  | transaction {rest : Bytes} {a : CreateTransactionAccounts} {index : ℕ}
      {msData msData' txData : Bytes} : c.data = 1 :: rest →
      CreateTransactionAccounts.of c.accounts = .ok a →
      TransactionMade d c.accounts a rest (proposalOf a index rest) msData msData' txData w w' →
      Went d c w w'
  | vote {rest : Bytes} {a : VoteAccounts} {yes : Bool} {msData txData txData' record : Bytes} :
      c.data = (if yes then 2 else 3) :: rest → VoteAccounts.of c.accounts = .ok a →
      Voted d c.accounts a yes (nthByte rest 4) msData txData txData' record w w' → Went d c w w'

theorem went_of_ok (hd : d.Sound) (h : process d c w = .ok w') : Went d c w w' := by
  unfold process processInstruction at h
  split at h
  · cases h
  · next discriminator rest hdata =>
    split_ifs at h with hzero hone htwo hthree
    · obtain ⟨a, msData, ha, hmade⟩ := createMultisig_made hd h
      exact .multisig (hdata.trans (by rw [hzero])) ha hmade
    · obtain ⟨a, index, msData, msData', txData, ha, hmade⟩ := createTransaction_made hd h
      exact .transaction (hdata.trans (by rw [hone])) ha hmade
    · obtain ⟨a, msData, txData, txData', record, ha, hvoted⟩ := approve_voted hd h
      exact .vote (hdata.trans (by rw [htwo]; rfl)) ha hvoted
    · obtain ⟨a, msData, txData, txData', record, ha, hvoted⟩ := reject_voted hd h
      exact .vote (hdata.trans (by rw [hthree]; rfl)) ha hvoted

/-! ## A run to try -/

def sampleMultisig : PublicKey :=
  sampleAddress [textBytes "multisig", (repeatedKey 10).toBytes, [255]]

def sampleTransaction : PublicKey :=
  sampleAddress [textBytes "transaction", sampleMultisig.toBytes, leBytes 4 0, [255]]

def sampleVoucher : PublicKey :=
  sampleAddress [textBytes "signature_voucher", sampleTransaction.toBytes, [255]]

def sampleAuthority : PublicKey := sampleAddress [textBytes "__ika_cpi_authority", [255]]

/-- The owner of the dWallet makes a multisig of itself and another wallet. -/
def sampleCreate : Call where
  accounts := [⟨sampleMultisig, false, true⟩, ⟨repeatedKey 10, false, false⟩,
    ⟨repeatedKey 101, false, false⟩, ⟨repeatedKey 1, true, false⟩, ⟨repeatedKey 1, true, true⟩,
    ⟨systemProgramId, false, false⟩]
  data := 0 :: (leBytes 2 2 ++ leBytes 2 2 ++ (repeatedKey 1).toBytes ++ (repeatedKey 2).toBytes)

def samplePropose : Call where
  accounts := [⟨sampleMultisig, false, true⟩, ⟨sampleTransaction, false, true⟩,
    ⟨repeatedKey 2, true, false⟩, ⟨repeatedKey 2, true, true⟩, ⟨systemProgramId, false, false⟩]
  data := 1 :: (List.replicate 32 7 ++ List.replicate 32 8 ++ leBytes 2 5 ++ [255, 0, 255] ++
    leBytes 2 0)

def sampleApprove (member : PublicKey) : Call where
  accounts := [⟨sampleMultisig, false, false⟩, ⟨sampleTransaction, false, true⟩,
    ⟨sampleAddress [textBytes "approval", sampleTransaction.toBytes, member.toBytes, [255]], false,
      true⟩,
    ⟨member, true, false⟩, ⟨member, true, true⟩, ⟨systemProgramId, false, false⟩,
    ⟨repeatedKey 20, false, false⟩, ⟨sampleVoucher, false, true⟩, ⟨repeatedKey 10, false, false⟩,
    ⟨repeatedKey 100, false, false⟩, ⟨sampleAuthority, false, false⟩,
    ⟨repeatedKey 101, false, false⟩]
  data := [2, 0, 0, 0, 0, 255, 255]

def sampleApprovals : List Call := [sampleApprove (repeatedKey 1), sampleApprove (repeatedKey 2)]

def sampleOpen : World := worldAfter (process sampleDeployment) [sampleCreate, samplePropose]

def sampleClosed : World :=
  worldAfter (process sampleDeployment) ([sampleCreate, samplePropose] ++ sampleApprovals)

theorem sample_accepted :
    ([sampleCreate, samplePropose].foldlM (fun w c => process sampleDeployment c w)
      sampleStart).isOk = true ∧
    (([sampleCreate, samplePropose] ++ sampleApprovals).foldlM
      (fun w c => process sampleDeployment c w) sampleStart).isOk = true := by
  decide +kernel

theorem sampleOpen_run : Run (process sampleDeployment) sampleDeployment
    [sampleCreate, samplePropose] sampleOpen :=
  run_worldAfter sample_accepted.1

theorem sampleClosed_run : Run (process sampleDeployment) sampleDeployment
    ([sampleCreate, samplePropose] ++ sampleApprovals) sampleClosed :=
  run_worldAfter sample_accepted.2

theorem sampleClosed_onward :
    Onward (process sampleDeployment) sampleDeployment sampleOpen sampleClosed :=
  onward_of_calls (foldlM_worldAfter_append sample_accepted.1 sample_accepted.2)

/-! ## What never changes -/

def txIndexOf (msData : Bytes) : ℕ := leValue (sliceAt msTxIndex 4 msData)

/-- How an account of the program may change: a multisig goes on numbering its transactions,
an active transaction takes votes, and nothing else moves. -/
structure Kept (data data' : Bytes) : Prop where
  multisig : nthByte data 0 = multisigDiscriminator →
    AgreeOutside msTxIndex (msTxIndex + 4) data data' ∧ txIndexOf data ≤ txIndexOf data'
  transaction : nthByte data 0 = transactionDiscriminator → SameTransaction data data' ∧
    leValue (sliceAt txApprovalCount 2 data) ≤ leValue (sliceAt txApprovalCount 2 data') ∧
    leValue (sliceAt txRejectionCount 2 data) ≤ leValue (sliceAt txRejectionCount 2 data')
  closed : nthByte data 0 = transactionDiscriminator → nthByte data txStatus ≠ statusActive →
    data' = data
  other : nthByte data 0 ≠ multisigDiscriminator → nthByte data 0 ≠ transactionDiscriminator →
    data' = data

theorem Kept.refl (data : Bytes) : Kept data data where
  multisig := fun _ => ⟨.refl .., le_rfl⟩
  transaction := fun _ => ⟨AgreeOutside.refl .., le_rfl, le_rfl⟩
  closed := fun _ _ => rfl
  other := fun _ _ => rfl

theorem Kept.discriminator {data data' : Bytes} (h : Kept data data') :
    nthByte data' 0 = nthByte data 0 := by
  by_cases hms : nthByte data 0 = multisigDiscriminator
  · exact (h.multisig hms).1.nthByte (.inl (by decide))
  · by_cases htx : nthByte data 0 = transactionDiscriminator
    · exact AgreeOutside.nthByte (h.transaction htx).1 (.inl (by decide))
    · rw [h.other hms htx]

theorem Kept.trans {data data' data'' : Bytes} (h : Kept data data') (h' : Kept data' data'') :
    Kept data data'' := by
  have hdisc := h.discriminator
  refine ⟨?_, ?_, ?_, ?_⟩
  · intro hms
    obtain ⟨hagree, hle⟩ := h.multisig hms
    obtain ⟨hagree', hle'⟩ := h'.multisig (hdisc.trans hms)
    exact ⟨hagree.trans hagree', hle.trans hle'⟩
  · intro htx
    obtain ⟨hsame, hyes, hno⟩ := h.transaction htx
    obtain ⟨hsame', hyes', hno'⟩ := h'.transaction (hdisc.trans htx)
    exact ⟨AgreeOutside.trans hsame hsame', hyes.trans hyes', hno.trans hno'⟩
  · intro htx hclosed
    have heq := h.closed htx hclosed
    rw [heq] at h'
    rw [h'.closed htx hclosed]
  · intro hms htx
    have heq := h.other hms htx
    rw [heq] at h'
    rw [h'.other hms htx]

instance : IsPreorder Bytes Kept where
  refl := Kept.refl
  trans := fun _ _ _ h h' => h.trans h'

theorem kept_of_multisig {data data' : Bytes} (hdisc : nthByte data 0 = multisigDiscriminator)
    (hagree : AgreeOutside msTxIndex (msTxIndex + 4) data data')
    (hle : txIndexOf data ≤ txIndexOf data') : Kept data data' where
  multisig := fun _ => ⟨hagree, hle⟩
  transaction := fun htx => absurd (hdisc.symm.trans htx) (by decide)
  closed := fun htx => absurd (hdisc.symm.trans htx) (by decide)
  other := fun hms => absurd hdisc hms

theorem Voted.kept_transaction {accounts : List AccountInfo} {a : VoteAccounts} {yes : Bool}
    {bump : UInt8} {msData txData txData' record : Bytes}
    (h : Voted d accounts a yes bump msData txData txData' record w w') : Kept txData txData' := by
  have hdisc := h.discriminator
  have hyes : leValue (sliceAt txApprovalCount 2 txData') =
      leValue (sliceAt txApprovalCount 2 txData) + if yes then 1 else 0 :=
    (congrArg Poll.yes h.counted).trans (Poll.counted_yes _ yes)
  have hno : leValue (sliceAt txRejectionCount 2 txData') =
      leValue (sliceAt txRejectionCount 2 txData) + if yes then 0 else 1 :=
    (congrArg Poll.no h.counted).trans (Poll.counted_no _ yes)
  refine ⟨fun hms => absurd (hdisc.symm.trans hms) (by decide), ?_, ?_, ?_⟩
  · intro _
    exact ⟨h.kept, by omega, by omega⟩
  · intro _ hclosed
    have hopen := h.undecided
    simp only [pollOf, outcomeOf, if_neg hclosed] at hopen
    split_ifs at hopen
  · intro _ htx
    exact absurd hdisc htx

theorem TransactionMade.later {accounts : List AccountInfo} {a : CreateTransactionAccounts}
    {p : Proposal} {rest msData msData' txData : Bytes}
    (hmade : TransactionMade d accounts a rest p msData msData' txData w w') :
    Later Kept (heldBy d.programId w.ledger) (heldBy d.programId w'.ledger) := by
  rw [hmade.after]
  apply (Later.new hmade.new _).trans
  refine .update ?_ (kept_of_multisig hmade.verified.discriminator hmade.kept ?_)
  · rw [Function.update_of_ne (hmade.verified.ne_new hmade.new)]
    exact hmade.verified.account
  · rw [txIndexOf, txIndexOf, hmade.indexSucc]
    omega

theorem Went.later (h : Went d c w w') :
    Later Kept (heldBy d.programId w.ledger) (heldBy d.programId w'.ledger) := by
  cases h with
  | multisig _ _ hmade =>
    rw [hmade.after]
    exact .new hmade.new _
  | transaction _ _ hmade => exact hmade.later
  | vote _ _ hvoted =>
    refine (Later.new hvoted.new _).trans (Later.trans (.update ?_ hvoted.kept_transaction)
      (.of_grown hvoted.after))
    rw [Function.update_of_ne]
    · exact hvoted.transaction
    · intro heq
      have hnew := hvoted.new
      rw [← heq, hvoted.transaction] at hnew
      cases hnew

theorem Kept.blank {data data' : Bytes} (h : Kept data data') (hblank : isBlank data) :
    isBlank data' := by
  have hzero := nthByte_of_isBlank hblank
  rw [h.other (by rw [hzero]; decide) (by rw [hzero]; decide)]
  exact hblank

theorem process_keeps (hd : d.Sound) : Keeps (process d) d Kept where
  order := inferInstance
  blank := Kept.blank
  call := fun hok => (went_of_ok hd hok).later

/-- Members, thresholds, records and proposals never change, a decided transaction stays as it
is, and counts only go up. -/
theorem onward_later (hd : d.Sound) (h : Onward (process d) d w w') :
    Later Kept (heldBy d.programId w.ledger) (heldBy d.programId w'.ledger) :=
  (process_keeps hd).onward h

theorem onward_later_sample : Later Kept (heldBy sampleDeployment.programId sampleOpen.ledger)
    (heldBy sampleDeployment.programId sampleClosed.ledger) :=
  onward_later sampleDeployment_sound sampleClosed_onward

/-! ## Transactions as polls -/

def sideOf (data : Bytes) : Option Bool :=
  if data.head? = some 2 then some true else if data.head? = some 3 then some false else none

/-- The ballot that a call casts, if it is a vote. -/
def ballotOf (c : Call) : Option (Ballot PublicKey Bytes) := do
  let yes ← sideOf c.data
  let a ← (VoteAccounts.of c.accounts).toOption
  return ⟨a.txAccount.key, a.member.key.toBytes, yes, a.approvalRecordAccount.key⟩

/-- A voucher call for a transaction that the program holds. -/
def VoucherFor (d : Deployment) (s : PublicKey → Option Bytes) (invocation : Invocation)
    (key : PublicKey) : Prop :=
  ∃ txData m msData, s key = some txData ∧ nthByte txData 0 = transactionDiscriminator ∧
    sliceAt txMultisig 32 txData = m.toBytes ∧ s m = some msData ∧
    nthByte msData 0 = multisigDiscriminator ∧ IsVoucher d msData txData key invocation

theorem VoucherFor.later {s s' : PublicKey → Option Bytes} (hlater : Later Kept s s')
    {invocation : Invocation} {key : PublicKey} (h : VoucherFor d s invocation key) :
    VoucherFor d s' invocation key := by
  obtain ⟨txData, m, msData, htx, hdisc, hmultisig, hms, hmsDisc, a, c, bump, terms, hterms, hkey,
    hcall, hdwallet, hvoucher⟩ := h
  obtain ⟨txData', htx', hkept⟩ := hlater key txData htx
  obtain ⟨msData', hms', hkept'⟩ := hlater m msData hms
  have hsame := (hkept.transaction hdisc).1
  have hagree := (hkept'.multisig hmsDisc).1
  refine ⟨txData', m, msData', htx', hkept.discriminator.trans hdisc, ?_, hms',
    hkept'.discriminator.trans hmsDisc, a, c, bump, terms, ?_, hkey, hcall, ?_, hvoucher⟩
  · rw [AgreeOutside.slices hsame txMultisig 32 (.inl (by decide)), hmultisig]
  · rw [hsame.terms, hterms]
  · rw [hagree.slices msDwallet 32 (.inl (by decide)), hdwallet]

theorem pollOf_congr {msData msData' : Bytes} (txData : Bytes)
    (h : AgreeOutside msTxIndex (msTxIndex + 4) msData msData') :
    pollOf msData' txData = pollOf msData txData := by
  unfold pollOf thresholdOf memberCountOf membersOf
  rw [h.slices msThreshold 2 (.inl (by decide)), h.slices msMemberCount 2 (.inl (by decide)),
    h.drop (by decide)]

theorem MultisigOk.kept {msData msData' : Bytes} (hok : MultisigOk msData)
    (h : AgreeOutside msTxIndex (msTxIndex + 4) msData msData') : MultisigOk msData' := by
  have hpoll := pollOf_congr [] h
  have hmembers : membersOf msData' = membersOf msData := congrArg Poll.electors hpoll
  have hthreshold : thresholdOf msData' = thresholdOf msData := congrArg Poll.quorum hpoll
  have hcount : memberCountOf msData' = memberCountOf msData := by
    rw [memberCountOf, memberCountOf, h.slices msMemberCount 2 (.inl (by decide))]
  refine ⟨h.length.trans hok.length, (h.nthByte (.inl (by decide))).trans hok.discriminator, ?_, ?_,
    ?_, ?_, ?_⟩
  · rw [hthreshold]
    exact hok.threshold_pos
  · rw [hthreshold, hcount]
    exact hok.threshold_le
  · rw [hcount]
    exact hok.count_le
  · rw [hmembers]
    exact hok.members
  · rw [hmembers, hcount]
    exact hok.count

/-- The poll of a transaction that the program holds. -/
def PollAt (s : PublicKey → Option Bytes) (h : Hall PublicKey Bytes) (key : PublicKey)
    (txData : Bytes) : Prop :=
  txData.length = transactionLen ∧
    nthByte txData txStatus ∈ [statusActive, statusApproved, statusRejected] ∧
    ∃ m msData, sliceAt txMultisig 32 txData = m.toBytes ∧ s m = some msData ∧
      nthByte msData 0 = multisigDiscriminator ∧
    h.polls key = some (pollOf msData txData)

/-- The accounts of the program show a hall: each transaction is a poll of its multisig. -/
structure Shows (d : Deployment) (calls : List Call) (w : World) (h : Hall PublicKey Bytes) :
    Prop where
  multisig : ∀ {key msData}, heldBy d.programId w.ledger key = some msData →
    nthByte msData 0 = multisigDiscriminator → MultisigOk msData
  poll : ∀ {key txData}, heldBy d.programId w.ledger key = some txData →
    nthByte txData 0 = transactionDiscriminator → PollAt (heldBy d.programId w.ledger) h key txData
  account : ∀ {key}, (h.polls key).isSome → (heldBy d.programId w.ledger key).isSome
  records : ∀ r ∈ h.records, (heldBy d.programId w.ledger r).isSome
  ballots : h.ballots = calls.filterMap ballotOf
  vouchers : List.Forall₂ (VoucherFor d (heldBy d.programId w.ledger)) w.issued h.carried

theorem PollAt.later {s s' : PublicKey → Option Bytes} {h h' : Hall PublicKey Bytes}
    {key : PublicKey} {txData : Bytes} (hpoll : PollAt s h key txData) (hlater : Later Kept s s')
    (hsame : h'.polls key = h.polls key) : PollAt s' h' key txData := by
  obtain ⟨hlength, hstatus, m, msData, hmultisig, hms, hdisc, hpoll⟩ := hpoll
  obtain ⟨msData', hms', hkept⟩ := hlater m msData hms
  refine ⟨hlength, hstatus, m, msData', hmultisig, hms', hkept.discriminator.trans hdisc, ?_⟩
  rw [hsame, hpoll, pollOf_congr txData (hkept.multisig hdisc).1]

theorem Shows.start (h : Fresh d w) : Shows d [] w Hall.empty where
  multisig := by
    intro key msData hheld hdisc
    rw [nthByte_of_isBlank (h.blank hheld)] at hdisc
    exact absurd hdisc (by decide)
  poll := by
    intro key txData hheld hdisc
    rw [nthByte_of_isBlank (h.blank hheld)] at hdisc
    exact absurd hdisc (by decide)
  account := by simp [Hall.empty]
  records := by simp [Hall.empty, Hall.records]
  ballots := rfl
  vouchers := by
    rw [h.issued]
    exact .nil

/-- Blank accounts are neither multisigs nor transactions. -/
theorem Shows.grown {calls : List Call} {h : Hall PublicKey Bytes} (hshows : Shows d calls w h)
    (hgrown : Grown (heldBy d.programId w.ledger) (heldBy d.programId w'.ledger))
    (hissued : w'.issued = w.issued) : Shows d calls w' h := by
  have hlater : Later Kept (heldBy d.programId w.ledger) (heldBy d.programId w'.ledger) :=
    .of_grown hgrown
  refine ⟨?_, ?_, ?_, ?_, hshows.ballots, ?_⟩
  · intro key msData hheld hdisc
    exact hshows.multisig (before_grown hgrown hheld (by rw [hdisc]; decide)) hdisc
  · intro key txData hheld hdisc
    exact (hshows.poll (before_grown hgrown hheld (by rw [hdisc]; decide)) hdisc).later hlater rfl
  · intro key hsome
    exact hlater.isSome (hshows.account hsome)
  · intro r hr
    exact hlater.isSome (hshows.records r hr)
  · rw [hissued]
    exact hshows.vouchers.imp fun _ _ hvoucher => hvoucher.later hlater

theorem ballotOf_eq_none {rest : Bytes} {b : UInt8} (hdata : c.data = b :: rest) (htwo : b ≠ 2)
    (hthree : b ≠ 3) : ballotOf c = none := by
  simp [ballotOf, sideOf, hdata, htwo, hthree]

theorem Shows.multisigMade {calls : List Call} {h : Hall PublicKey Bytes}
    (hshows : Shows d calls w h) {a : CreateMultisigAccounts} {msData : Bytes} {rest : Bytes}
    (hdata : c.data = 0 :: rest) (hmade : MultisigMade d a rest msData w w') :
    Shows d (calls ++ [c]) w' h := by
  have hlater : Later Kept (heldBy d.programId w.ledger) (heldBy d.programId w'.ledger) := by
    rw [hmade.after]
    exact .new hmade.new _
  refine ⟨?_, ?_, ?_, ?_, ?_, ?_⟩
  · intro key data hheld hdisc
    rw [hmade.after, Function.update_apply] at hheld
    split_ifs at hheld with hkey
    · obtain rfl := Option.some.inj hheld
      exact hmade.ok
    · exact hshows.multisig hheld hdisc
  · intro key txData hheld hdisc
    rw [hmade.after, Function.update_apply] at hheld
    split_ifs at hheld with hkey
    · obtain rfl := Option.some.inj hheld
      rw [hmade.ok.discriminator] at hdisc
      exact absurd hdisc (by decide)
    · exact (hshows.poll hheld hdisc).later hlater rfl
  · intro key hsome
    exact hlater.isSome (hshows.account hsome)
  · intro r hr
    exact hlater.isSome (hshows.records r hr)
  · rw [List.filterMap_append, hshows.ballots]
    simp [ballotOf_eq_none hdata (by decide) (by decide)]
  · rw [hmade.issued]
    exact hshows.vouchers.imp fun _ _ hvoucher => hvoucher.later hlater

/-- A transaction as it is made is a poll as it is opened. -/
theorem TransactionMade.fresh {accounts : List AccountInfo} {a : CreateTransactionAccounts}
    {p : Proposal} {rest msData msData' txData : Bytes}
    (h : TransactionMade d accounts a rest p msData msData' txData w w') (hok : MultisigOk msData) :
    (pollOf msData txData).Fresh := by
  have hyes : sliceAt txApprovalCount 2 txData = leBytes 2 0 :=
    h.read (by simp [transactionFields]) rfl
  have hno : sliceAt txRejectionCount 2 txData = leBytes 2 0 :=
    h.read (by simp [transactionFields]) rfl
  have hstatus : nthByte txData txStatus = statusActive :=
    nthByte_of_slice (h.read (by simp [transactionFields]) rfl)
  refine ⟨?_, ?_, outcome_of_status msData hstatus, hok.threshold_pos, ?_⟩
  · simp only [pollOf]
    rw [hyes]
    rfl
  · simp only [pollOf]
    rw [hno]
    rfl
  · intro n hn
    obtain rfl := Option.some.inj hn
    omega

theorem Shows.transactionMade {calls : List Call} {h : Hall PublicKey Bytes}
    (hshows : Shows d calls w h) {a : CreateTransactionAccounts} {p : Proposal}
    {msData msData' txData : Bytes} {rest : Bytes} (hdata : c.data = 1 :: rest)
    (hmade : TransactionMade d c.accounts a rest p msData msData' txData w w') :
    Polls.Step h (h.opened a.txAccount.key (pollOf msData txData)) ∧
      Shows d (calls ++ [c]) w' (h.opened a.txAccount.key (pollOf msData txData)) := by
  have hverified := hmade.verified
  have hok := hshows.multisig hverified.account hverified.discriminator
  have hne := hverified.ne_new hmade.new
  have hlater : Later Kept (heldBy d.programId w.ledger) (heldBy d.programId w'.ledger) :=
    hmade.later
  have hnone : h.polls a.txAccount.key = none := by
    by_contra hsome
    have hheld := hshows.account (Option.isSome_iff_ne_none.mpr hsome)
    rw [hmade.new] at hheld
    cases hheld
  refine ⟨.opened hnone (hmade.fresh hok), ?_, ?_, ?_, ?_, ?_, ?_⟩
  · intro key data hheld hdisc
    rw [hmade.after, Function.update_apply, Function.update_apply] at hheld
    split_ifs at hheld with hms htx
    · obtain rfl := Option.some.inj hheld
      exact hok.kept hmade.kept
    · obtain rfl := Option.some.inj hheld
      rw [hmade.ok.discriminator] at hdisc
      exact absurd hdisc (by decide)
    · exact hshows.multisig hheld hdisc
  · intro key data hheld hdisc
    rw [hmade.after, Function.update_apply, Function.update_apply] at hheld
    split_ifs at hheld with hms htx
    · obtain rfl := Option.some.inj hheld
      rw [(hok.kept hmade.kept).discriminator] at hdisc
      exact absurd hdisc (by decide)
    · subst htx
      obtain rfl := Option.some.inj hheld
      have hmultisig : sliceAt txMultisig 32 txData = a.multisigAccount.key.toBytes := by
        rw [← hmade.multisig]
        exact hmade.read (by simp [transactionFields]) p.multisig.length_eq
      have hstatus : nthByte txData txStatus = statusActive :=
        nthByte_of_slice (hmade.read (by simp [transactionFields]) rfl)
      refine ⟨hmade.ok.length, by simp [hstatus], a.multisigAccount.key, msData', hmultisig, ?_, ?_,
        ?_⟩
      · rw [hmade.after, Function.update_self]
      · exact (hok.kept hmade.kept).discriminator
      · rw [pollOf_congr txData hmade.kept]
        exact Function.update_self ..
    · exact (hshows.poll hheld hdisc).later hlater (h.opened_other _ htx)
  · intro key hsome
    by_cases htx : key = a.txAccount.key
    · subst htx
      rw [hmade.after, Function.update_of_ne hne.symm, Function.update_self]
      rfl
    · rw [h.opened_other _ htx] at hsome
      exact hlater.isSome (hshows.account hsome)
  · intro r hr
    exact hlater.isSome (hshows.records r hr)
  · change h.ballots = _
    rw [List.filterMap_append, hshows.ballots]
    simp [ballotOf_eq_none hdata (by decide) (by decide)]
  · rw [hmade.issued]
    exact hshows.vouchers.imp fun _ _ hvoucher => hvoucher.later hlater

def ballot (a : VoteAccounts) (yes : Bool) : Ballot PublicKey Bytes :=
  ⟨a.txAccount.key, a.member.key.toBytes, yes, a.approvalRecordAccount.key⟩

theorem ballotOf_vote {rest : Bytes} {a : VoteAccounts} {yes : Bool}
    (hdata : c.data = (if yes then 2 else 3) :: rest) (ha : VoteAccounts.of c.accounts = .ok a) :
    ballotOf c = some (ballot a yes) := by
  cases yes <;> simp [ballotOf, sideOf, hdata, ha, ballot, Except.toOption]

/-- The accounts after a vote, before blank ones come in. -/
theorem Voted.held_after {accounts : List AccountInfo} {a : VoteAccounts} {yes : Bool}
    {bump : UInt8} {msData txData txData' record : Bytes}
    (h : Voted d accounts a yes bump msData txData txData' record w w') {key : PublicKey}
    {data : Bytes} (hheld : heldBy d.programId w'.ledger key = some data) :
    isBlank data ∨ (key = a.txAccount.key ∧ data = txData') ∨
      (key = a.approvalRecordAccount.key ∧ data = record) ∨
      (key ≠ a.txAccount.key ∧ heldBy d.programId w.ledger key = some data) :=
  h.after.of_updates hheld

theorem Voted.record_discriminator {accounts : List AccountInfo} {a : VoteAccounts} {yes : Bool}
    {bump : UInt8} {msData txData txData' record : Bytes}
    (h : Voted d accounts a yes bump msData txData txData' record w w') :
    nthByte record 0 = approvalRecordDiscriminator :=
  nthByte_of_slice (h.read (by simp [recordFields]) rfl)

theorem Voted.record_ne {accounts : List AccountInfo} {a : VoteAccounts} {yes : Bool}
    {bump : UInt8} {msData txData txData' record : Bytes}
    (h : Voted d accounts a yes bump msData txData txData' record w w') :
    a.approvalRecordAccount.key ≠ a.txAccount.key := by
  intro heq
  have hnew := h.new
  rw [heq, h.transaction] at hnew
  cases hnew

theorem Shows.voted {calls : List Call} {h : Hall PublicKey Bytes} (hshows : Shows d calls w h)
    {a : VoteAccounts} {yes : Bool} {msData txData txData' record rest : Bytes}
    (hdata : c.data = (if yes then 2 else 3) :: rest) (ha : VoteAccounts.of c.accounts = .ok a)
    (hvoted : Voted d c.accounts a yes (nthByte rest 4) msData txData txData' record w w') :
    Polls.Step h (h.cast (ballot a yes) (pollOf msData txData)) ∧
      Shows d (calls ++ [c]) w' (h.cast (ballot a yes) (pollOf msData txData)) := by
  have hlater := Went.later (.vote hdata ha hvoted)
  obtain ⟨hlength, -, m, msData', hm, hms, -, hpoll⟩ :=
    hshows.poll hvoted.transaction hvoted.discriminator
  -- the multisig that the transaction names is the one that was passed
  obtain rfl := publicKey_ext (hm.symm.trans hvoted.multisig)
  rw [hvoted.verified.account] at hms
  obtain rfl := Option.some.inj hms
  have hrecords : a.approvalRecordAccount.key ∉ h.records := by
    intro hmem
    have hsome := hshows.records _ hmem
    rw [hvoted.new] at hsome
    cases hsome
  have htxKept := hvoted.kept_transaction
  have hafter : heldBy d.programId w'.ledger a.txAccount.key = some txData' :=
    hvoted.after.kept (Function.update_self ..)
  have hne := hvoted.verified.ne_transaction hvoted.transaction hvoted.discriminator
  have hmsAfter : heldBy d.programId w'.ledger a.multisigAccount.key = some msData := by
    apply hvoted.after.kept
    rw [Function.update_of_ne hne, Function.update_of_ne (hvoted.verified.ne_new hvoted.new)]
    exact hvoted.verified.account
  refine ⟨.cast hpoll hvoted.undecided hvoted.member hrecords, ?_, ?_, ?_, ?_, ?_, ?_⟩
  · intro key data hheld hdisc
    obtain hblank | ⟨-, rfl⟩ | ⟨-, rfl⟩ | ⟨-, hold⟩ := hvoted.held_after hheld
    · rw [nthByte_of_isBlank hblank] at hdisc
      exact absurd hdisc (by decide)
    · rw [htxKept.discriminator, hvoted.discriminator] at hdisc
      exact absurd hdisc (by decide)
    · rw [hvoted.record_discriminator] at hdisc
      exact absurd hdisc (by decide)
    · exact hshows.multisig hold hdisc
  · intro key data hheld hdisc
    obtain hblank | ⟨rfl, rfl⟩ | ⟨-, rfl⟩ | ⟨hother, hold⟩ := hvoted.held_after hheld
    · rw [nthByte_of_isBlank hblank] at hdisc
      exact absurd hdisc (by decide)
    · refine ⟨?_, hvoted.status, a.multisigAccount.key, msData, ?_, hmsAfter,
        hvoted.verified.discriminator, ?_⟩
      · rw [AgreeOutside.length hvoted.kept, hlength]
      · rw [AgreeOutside.slices hvoted.kept txMultisig 32 (.inl (by decide)), hm]
      · rw [hvoted.counted]
        exact Function.update_self ..
    · rw [hvoted.record_discriminator] at hdisc
      exact absurd hdisc (by decide)
    · exact (hshows.poll hold hdisc).later hlater (h.cast_other _ hother)
  · intro key hsome
    by_cases htx : key = a.txAccount.key
    · rw [htx, hafter]
      rfl
    · rw [h.cast_other _ htx] at hsome
      exact hlater.isSome (hshows.account hsome)
  · intro r hr
    rw [Hall.records, Hall.cast, List.map_append] at hr
    rcases List.mem_append.mp hr with hold | hnew
    · exact hlater.isSome (hshows.records r hold)
    · obtain rfl : r = a.approvalRecordAccount.key := by simpa [ballot] using hnew
      have hrecord : heldBy d.programId w'.ledger a.approvalRecordAccount.key = some record := by
        apply hvoted.after.kept
        rw [Function.update_of_ne hvoted.record_ne, Function.update_self]
      rw [hrecord]
      rfl
  · rw [List.filterMap_append, ← hshows.ballots]
    simp [ballotOf_vote hdata ha, Hall.cast]
  · have hissued := hvoted.issued
    have hbefore := hshows.vouchers.imp fun _ _ hvoucher => hvoucher.later hlater
    have hdisc := htxKept.discriminator.trans hvoted.discriminator
    have hmultisig : sliceAt txMultisig 32 txData' = a.multisigAccount.key.toBytes := by
      rw [AgreeOutside.slices hvoted.kept txMultisig 32 (.inl (by decide)), hm]
    rw [hvoted.counted] at hissued
    change List.Forall₂ _ _ (h.carried ++ if ((pollOf msData txData).counted yes).outcome = _
      then [a.txAccount.key] else [])
    split_ifs at hissued ⊢ with hcarried
    · obtain ⟨invocation, hvoucher, hissued⟩ := hissued
      rw [hissued]
      refine List.rel_append hbefore (.cons ?_ .nil)
      exact ⟨txData', a.multisigAccount.key, msData, hafter, hdisc, hmultisig, hmsAfter,
        hvoted.verified.discriminator, hvoucher⟩
    · rw [hissued, List.append_nil]
      exact hbefore

/-- Every run of the program is a run of polls. -/
theorem run_shows (hd : d.Sound) {calls : List Call} (hrun : Run (process d) d calls w) :
    ∃ h, Reached h ∧ Shows d calls w h := by
  induction hrun with
  | start hfresh => exact ⟨Hall.empty, .refl, .start hfresh⟩
  | call _ hok ih =>
    obtain ⟨h, hreached, hshows⟩ := ih
    cases went_of_ok hd hok with
    | multisig hdata _ hmade => exact ⟨h, hreached, hshows.multisigMade hdata hmade⟩
    | transaction hdata _ hmade =>
      obtain ⟨hstep, hshows'⟩ := hshows.transactionMade hdata hmade
      exact ⟨_, hreached.tail hstep, hshows'⟩
    | vote hdata ha hvoted =>
      obtain ⟨hstep, hshows'⟩ := hshows.voted hdata ha hvoted
      exact ⟨_, hreached.tail hstep, hshows'⟩
  | others _ hothers ih =>
    obtain ⟨h, hreached, hshows⟩ := ih
    exact ⟨h, hreached, hshows.grown hothers.grown rfl⟩

/-! ## One member, one vote -/

/-- The record of a vote is not an account that signed the call. -/
def RecordUnsigned (c : Call) : Prop :=
  ∀ a, (sideOf c.data).isSome → VoteAccounts.of c.accounts = .ok a →
    Unsigned c.accounts a.approvalRecordAccount.key

/-- A vote of a member on a transaction, with the member's signature. -/
def Votes (c : Call) (yes : Bool) (key : PublicKey) (member : Bytes) : Prop :=
  sideOf c.data = some yes ∧ ∃ a, VoteAccounts.of c.accounts = .ok a ∧ a.txAccount.key = key ∧
    a.member.key.toBytes = member ∧ a.member.isSigner = true

/-- The address that belongs to a member's vote on a transaction. -/
def approvalAddress (d : Deployment) (key : PublicKey) (member : Bytes) : PublicKey :=
  ((findProgramAddress d [textBytes "approval", key.toBytes, member]).toOption.map
    Prod.fst).getD systemProgramId

theorem ballot_of_ok (hd : d.Sound) (hok : process d c w = .ok w')
    {b : Ballot PublicKey Bytes} (hb : ballotOf c = some b) : Votes c b.yes b.poll b.voter ∧
      (RecordUnsigned c → b.record = approvalAddress d b.poll b.voter) := by
  cases went_of_ok hd hok with
  | multisig hdata _ _ =>
    rw [ballotOf_eq_none hdata (by decide) (by decide)] at hb
    cases hb
  | transaction hdata _ _ =>
    rw [ballotOf_eq_none hdata (by decide) (by decide)] at hb
    cases hb
  | @vote rest a yes _ _ _ _ hdata ha hvoted =>
    rw [ballotOf_vote hdata ha] at hb
    obtain rfl := Option.some.inj hb
    have hside : sideOf c.data = some yes := by
      cases yes <;> simp [sideOf, hdata]
    refine ⟨⟨hside, a, ha, rfl, rfl, hvoted.signed⟩, ?_⟩
    intro hunsigned
    have haddress := hvoted.address (hunsigned a (by rw [hside]; rfl) ha)
    simp [approvalAddress, ballot, haddress, Except.toOption]

theorem run_addressed (hd : d.Sound) {calls : List Call} {h : Hall PublicKey Bytes}
    (hrun : Run (process d) d calls w) (hunsigned : ∀ c ∈ calls, RecordUnsigned c)
    (hshows : Shows d calls w h) : Addressed h (approvalAddress d) := by
  intro b hb
  rw [hshows.ballots] at hb
  obtain ⟨c, hc, hballot⟩ := List.mem_filterMap.mp hb
  obtain ⟨w₁, w₂, hok, -⟩ := hrun.accepted hc
  exact (ballot_of_ok hd hok hballot).2 (hunsigned c hc)

/-- Those who voted on a side are those whose signed votes went through. -/
theorem mem_voters_iff (hd : d.Sound) {calls : List Call} {h : Hall PublicKey Bytes}
    (hrun : Run (process d) d calls w) (hshows : Shows d calls w h) {key : PublicKey} {yes : Bool}
    {member : Bytes} : member ∈ h.voters key yes ↔ ∃ c ∈ calls, Votes c yes key member := by
  rw [Hall.mem_voters, hshows.ballots]
  constructor
  · rintro ⟨b, hb, rfl, rfl, rfl⟩
    obtain ⟨c, hc, hballot⟩ := List.mem_filterMap.mp hb
    obtain ⟨w₁, w₂, hok, -⟩ := hrun.accepted hc
    exact ⟨c, hc, (ballot_of_ok hd hok hballot).1⟩
  · rintro ⟨c, hc, hside, a, ha, rfl, rfl, -⟩
    have hballot : ballotOf c = some (ballot a yes) := by
      simp [ballotOf, hside, ha, ballot, Except.toOption]
    exact ⟨ballot a yes, List.mem_filterMap.mpr ⟨c, hc, hballot⟩, rfl, rfl, rfl⟩

end Ika.Programs.Multisig
