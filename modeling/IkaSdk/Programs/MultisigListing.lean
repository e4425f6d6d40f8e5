import IkaSdk.Lib.Entries
import IkaSdk.Programs.MultisigPage
import IkaSdk.Programs.MultisigSafety
import IkaSdk.Solana.EncryptionKeyEntries

/-! The transactions of a multisig are numbered: there is one for every number below its count,
at the address of the number. The page asks for them one by one while the program goes on. -/

namespace Ika.Programs.Multisig

open Wire Ledgers Solana Crates MultisigError

variable {d : Deployment} {w w' : World} {c : Call} {calls : List Call}

/-! ## Numbers -/

/-- A transaction that the program holds at the address of its number. -/
structure NumberedAt (d : Deployment) (s : PublicKey → Option Bytes) (m : PublicKey) (i : ℕ)
    (key : PublicKey) (txData : Bytes) : Prop where
  account : s key = some txData
  discriminator : nthByte txData 0 = transactionDiscriminator
  multisig : sliceAt txMultisig 32 txData = m.toBytes
  index : leValue (sliceAt txIndex 4 txData) = i
  address : ∃ bump,
    findProgramAddress d [textBytes "transaction", m.toBytes, leBytes 4 i] = .ok (key, bump)

/-- Every number below the count of a multisig is taken, and no transaction goes without one. -/
structure Numbered (d : Deployment) (s : PublicKey → Option Bytes) : Prop where
  complete : ∀ {m msData}, s m = some msData → nthByte msData 0 = multisigDiscriminator →
    ∀ i < txIndexOf msData, ∃ key txData, NumberedAt d s m i key txData
  placed : ∀ {key txData}, s key = some txData → nthByte txData 0 = transactionDiscriminator →
    ∃ m msData i, s m = some msData ∧ nthByte msData 0 = multisigDiscriminator ∧
      i < txIndexOf msData ∧ NumberedAt d s m i key txData

/-- A transaction that is made is not an account that signs the call. -/
def TransactionUnsigned (c : Call) : Prop :=
  ∀ a, c.data.head? = some 1 → CreateTransactionAccounts.of c.accounts = .ok a →
    Unsigned c.accounts a.txAccount.key

theorem NumberedAt.later {s s' : PublicKey → Option Bytes} {m key : PublicKey} {i : ℕ}
    {txData : Bytes} (h : NumberedAt d s m i key txData) (hlater : Later Kept s s') :
    ∃ txData', NumberedAt d s' m i key txData' ∧ Kept txData txData' := by
  obtain ⟨txData', hheld, hkept⟩ := hlater key txData h.account
  have hsame := (hkept.transaction h.discriminator).1
  refine ⟨txData', ⟨hheld, hkept.discriminator.trans h.discriminator, ?_, ?_, h.address⟩, hkept⟩
  · rw [AgreeOutside.slices hsame txMultisig 32 (.inl (by decide))]
    exact h.multisig
  · rw [AgreeOutside.slices hsame txIndex 4 (.inl (by decide))]
    exact h.index

theorem txIndexOf_lt {msData : Bytes} (h : multisigLen ≤ msData.length) :
    txIndexOf msData < 256 ^ 4 := by
  have hfits : msTxIndex + 4 ≤ msData.length := le_trans (by decide) h
  have hlt := leValue_lt (sliceAt msTxIndex 4 msData)
  rwa [length_sliceAt hfits] at hlt

theorem TransactionMade.numberedAt {accounts : List AccountInfo} {a : CreateTransactionAccounts}
    {p : Proposal} {rest msData msData' txData : Bytes}
    (h : TransactionMade d accounts a rest p msData msData' txData w w')
    (hunsigned : Unsigned accounts a.txAccount.key) :
    NumberedAt d (heldBy d.programId w'.ledger) a.multisigAccount.key (txIndexOf msData)
      a.txAccount.key txData := by
  have hindex : p.index = txIndexOf msData := h.index
  have hsmall := txIndexOf_lt h.verified.length
  have hbytes : sliceAt txIndex 4 txData = leBytes 4 p.index :=
    h.read (by simp [transactionFields]) (leBytes_length ..)
  refine ⟨?_, h.ok.discriminator, ?_, ?_, p.bump, ?_⟩
  · rw [h.after, Function.update_of_ne (h.verified.ne_new h.new).symm, Function.update_self]
  · rw [← h.multisig]
    exact h.read (by simp [transactionFields]) p.multisig.length_eq
  · rw [hbytes, leValue_leBytes, hindex, Nat.mod_eq_of_lt hsmall]
  · rw [← hindex]
    exact h.address hunsigned

/-- The count of a multisig goes up when a transaction is made, and by one. -/
theorem Went.new_number {m : PublicKey} {before after : Bytes} (h : Went d c w w')
    (hbefore : heldBy d.programId w.ledger m = some before)
    (hafter : heldBy d.programId w'.ledger m = some after)
    (hdisc : nthByte before 0 = multisigDiscriminator)
    (hlt : txIndexOf before < txIndexOf after) : ∃ rest a index txData, c.data = 1 :: rest ∧
      CreateTransactionAccounts.of c.accounts = .ok a ∧ m = a.multisigAccount.key ∧
      txIndexOf after = txIndexOf before + 1 ∧
      TransactionMade d c.accounts a rest (proposalOf a index rest) before after txData w w' := by
  have hmoved : after ≠ before := by
    rintro rfl
    exact hlt.false
  obtain ⟨after', hafter', hkept⟩ := h.later m before hbefore
  obtain rfl := Option.some.inj (hafter.symm.trans hafter')
  cases h with
  | multisig _ _ hmade =>
    rw [hmade.after, Function.update_apply] at hafter
    split_ifs at hafter with hm
    · rw [hm, hmade.new] at hbefore
      cases hbefore
    · exact absurd (Option.some.inj (hafter.symm.trans hbefore)) hmoved
  | @transaction rest a index msData msData' txData hdata ha hmade =>
    rw [hmade.after, Function.update_apply, Function.update_apply] at hafter
    split_ifs at hafter with hm htx
    · rw [hm, hmade.verified.account] at hbefore
      obtain rfl := Option.some.inj hbefore
      obtain rfl := Option.some.inj hafter
      exact ⟨rest, a, index, txData, hdata, ha, hm, hmade.indexSucc, hmade⟩
    · rw [htx, hmade.new] at hbefore
      cases hbefore
    · exact absurd (Option.some.inj (hafter.symm.trans hbefore)) hmoved
  | vote _ _ hvoted =>
    obtain hblank | ⟨rfl, -⟩ | ⟨rfl, -⟩ | ⟨-, hold⟩ := hvoted.held_after hafter
    · have hzero := nthByte_of_isBlank hblank
      rw [hkept.discriminator, hdisc] at hzero
      exact absurd hzero (by decide)
    · rw [hvoted.transaction] at hbefore
      rw [← Option.some.inj hbefore, hvoted.discriminator] at hdisc
      exact absurd hdisc (by decide)
    · rw [hvoted.new] at hbefore
      cases hbefore
    · exact absurd (Option.some.inj (hold.symm.trans hbefore)) hmoved

theorem Numbered.start (h : Fresh d w) : Numbered d (heldBy d.programId w.ledger) where
  complete := by
    intro m msData hheld hdisc
    rw [nthByte_of_isBlank (h.blank hheld)] at hdisc
    exact absurd hdisc (by decide)
  placed := by
    intro key txData hheld hdisc
    rw [nthByte_of_isBlank (h.blank hheld)] at hdisc
    exact absurd hdisc (by decide)

/-- Blank accounts are neither multisigs nor transactions. -/
theorem Numbered.grown {s s' : PublicKey → Option Bytes} (h : Numbered d s) (hgrown : Grown s s') :
    Numbered d s' where
  complete := by
    intro m msData hheld hdisc i hi
    have hold := before_grown hgrown hheld (by rw [hdisc]; decide)
    obtain ⟨key, txData, hat⟩ := h.complete hold hdisc i hi
    obtain ⟨txData', hat', -⟩ := hat.later (.of_grown hgrown)
    exact ⟨key, txData', hat'⟩
  placed := by
    intro key txData hheld hdisc
    have hold := before_grown hgrown hheld (by rw [hdisc]; decide)
    obtain ⟨m, msData, i, hms, hmsDisc, hi, hat⟩ := h.placed hold hdisc
    exact ⟨m, msData, i, hgrown.kept hms, hmsDisc, hi, hheld, hdisc, hat.multisig, hat.index,
      hat.address⟩

/-- A number below the count is an old one, or the one that the call has taken. -/
theorem Numbered.complete_after (h : Numbered d (heldBy d.programId w.ledger))
    (hwent : Went d c w w') (hunsigned : TransactionUnsigned c) {m : PublicKey} {after : Bytes}
    (hafter : heldBy d.programId w'.ledger m = some after)
    (hdisc : nthByte after 0 = multisigDiscriminator) {i : ℕ} (hi : i < txIndexOf after) :
    ∃ key txData, NumberedAt d (heldBy d.programId w'.ledger) m i key txData := by
  have hlater := hwent.later
  cases hbefore : heldBy d.programId w.ledger m with
  | none =>
    obtain ⟨rest, a, -, -, -, hmade⟩ := hwent.new_multisig hbefore hafter hdisc
    rw [txIndexOf, hmade.index] at hi
    exact absurd hi (Nat.not_lt_zero i)
  | some before =>
    obtain ⟨data, hdata, hkept⟩ := hlater m before hbefore
    rw [hafter] at hdata
    obtain rfl := Option.some.inj hdata
    have hdisc₀ := hkept.discriminator.symm.trans hdisc
    by_cases hold : i < txIndexOf before
    · obtain ⟨key, txData, hat⟩ := h.complete hbefore hdisc₀ i hold
      obtain ⟨txData', hat', -⟩ := hat.later hlater
      exact ⟨key, txData', hat'⟩
    · obtain ⟨rest, a, index, txData, hdata, ha, rfl, hsucc, hmade⟩ :=
        hwent.new_number hbefore hafter hdisc₀ (by omega)
      obtain rfl : i = txIndexOf before := by omega
      exact ⟨a.txAccount.key, txData, hmade.numberedAt (hunsigned a (by rw [hdata]; rfl) ha)⟩

/-- A transaction is an old one, or the one that the call has made under the last number. -/
theorem Numbered.placed_after (h : Numbered d (heldBy d.programId w.ledger))
    (hwent : Went d c w w') (hunsigned : TransactionUnsigned c) {key : PublicKey} {data : Bytes}
    (hheld : heldBy d.programId w'.ledger key = some data)
    (hdisc : nthByte data 0 = transactionDiscriminator) :
    ∃ m msData i, heldBy d.programId w'.ledger m = some msData ∧
      nthByte msData 0 = multisigDiscriminator ∧ i < txIndexOf msData ∧
      NumberedAt d (heldBy d.programId w'.ledger) m i key data := by
  have hlater := hwent.later
  cases hbefore : heldBy d.programId w.ledger key with
  | none =>
    obtain ⟨rest, a, index, msData, msData', hdata, ha, rfl, hmade⟩ :=
      hwent.new_transaction hbefore hheld hdisc
    refine ⟨a.multisigAccount.key, msData', txIndexOf msData, ?_, ?_, ?_,
      hmade.numberedAt (hunsigned a (by rw [hdata]; rfl) ha)⟩
    · rw [hmade.after, Function.update_self]
    · exact (hmade.kept.nthByte (.inl (by decide))).trans hmade.verified.discriminator
    · rw [txIndexOf, txIndexOf, hmade.indexSucc]
      exact Nat.lt_succ_self _
  | some before =>
    obtain ⟨after, hafter, hkept⟩ := hlater key before hbefore
    rw [hheld] at hafter
    obtain rfl := Option.some.inj hafter
    obtain ⟨m, msData, i, hms, hmsDisc, hi, hat⟩ :=
      h.placed hbefore (hkept.discriminator.symm.trans hdisc)
    obtain ⟨msData', hms', hmsKept⟩ := hlater m msData hms
    obtain ⟨after, hat', -⟩ := hat.later hlater
    obtain rfl := Option.some.inj (hat'.account.symm.trans hheld)
    exact ⟨m, msData', i, hms', hmsKept.discriminator.trans hmsDisc,
      hi.trans_le (hmsKept.multisig hmsDisc).2, hat'⟩

theorem Numbered.call (hd : d.Sound) (h : Numbered d (heldBy d.programId w.ledger))
    (hok : process d c w = .ok w') (hunsigned : TransactionUnsigned c) :
    Numbered d (heldBy d.programId w'.ledger) where
  complete hafter hdisc _ hi := h.complete_after (went_of_ok hd hok) hunsigned hafter hdisc hi
  placed hheld hdisc := h.placed_after (went_of_ok hd hok) hunsigned hheld hdisc

theorem run_numbered (hd : d.Sound) (hrun : Run (process d) d calls w)
    (hunsigned : ∀ c ∈ calls, TransactionUnsigned c) :
    Numbered d (heldBy d.programId w.ledger) := by
  induction hrun with
  | start hfresh => exact .start hfresh
  | call _ hok ih =>
    exact (ih fun c hc => hunsigned c (List.mem_append_left _ hc)).call hd hok
      (hunsigned _ (by simp))
  | others _ hothers ih => exact (ih hunsigned).grown hothers.grown

/-! ## Accounts as the page reads them -/

/-- What the page reads of a multisig is what the program keeps of it. -/
structure ShowsMultisig (msData : Bytes) (account : MultisigAccount) : Prop where
  threshold : account.threshold = thresholdOf msData
  memberCount : account.memberCount = memberCountOf msData
  txIndex : account.txIndex = txIndexOf msData
  dwallet : account.dwallet.toBytes = sliceAt msDwallet 32 msData
  members : account.members.map PublicKey.toBytes = membersOf msData

structure ShowsTransaction (txData : Bytes) (account : TransactionAccount) : Prop where
  txIndex : account.txIndex = leValue (sliceAt Multisig.txIndex 4 txData)
  proposer : account.proposer.toBytes = sliceAt txProposer 32 txData
  messageHash : account.messageHash = sliceAt txMessageHash 32 txData
  approvalCount : account.approvalCount = leValue (sliceAt txApprovalCount 2 txData)
  rejectionCount : account.rejectionCount = leValue (sliceAt txRejectionCount 2 txData)
  status : account.status = nthByte txData txStatus
  signatureVoucherBump : account.signatureVoucherBump = nthByte txData txSignatureVoucherBump
  messageData : account.messageData =
    sliceAt txMessageData (leValue (sliceAt txMessageDataLen 2 txData)) txData

theorem getUint_of {width offset : ℕ} {bytes : Bytes} (h : offset + width ≤ bytes.length) :
    getUint width bytes offset = .ok (leValue (sliceAt offset width bytes)) := if_pos h

theorem publicKeyOf_of_length {bytes : Bytes} (h : bytes.length = 32) :
    ∃ key, publicKeyOf bytes = .ok key ∧ key.toBytes = bytes :=
  ⟨⟨bytes, h⟩, publicKeyOf_of_toBytes ⟨bytes, h⟩, rfl⟩

theorem take_chunks_eq {n : ℕ} {bytes : Bytes} (h : n * 32 ≤ bytes.length) :
    (chunks bytes).take n = (List.range n).map fun i => sliceAt (i * 32) 32 bytes := by
  induction n generalizing bytes with
  | zero => rfl
  | succ n ih =>
    have hnil : bytes ≠ [] := by
      rintro rfl
      simp at h
    have hrest : n * 32 ≤ (bytes.drop 32).length := by
      rw [List.length_drop]
      omega
    rw [chunks_eq_cons hnil, List.take_succ_cons, ih hrest, List.range_succ_eq_map, List.map_cons,
      List.map_map]
    congr 1
    apply List.map_congr_left
    intro i _
    simp only [Function.comp, sliceAt, List.drop_drop]
    congr 2
    omega

/-- A member as the page cuts it out of the account. -/
theorem slice_member (msData : Bytes) (i : ℕ) :
    slice msData (43 + i * 32) (75 + i * 32) = sliceAt (i * 32) 32 (msData.drop msMembers) := by
  have hwidth : 75 + i * 32 - (43 + i * 32) = 32 := by omega
  rw [slice, sliceAt, List.drop_drop, hwidth]
  rfl

theorem parseMultisig_of {msData : Bytes} (h : MultisigOk msData) :
    ∃ account, parseMultisig msData = .ok account ∧ ShowsMultisig msData account := by
  have hcount := h.count_le
  have hlength : msData.length = 363 := h.length
  have hroom : memberCountOf msData * 32 ≤ (msData.drop msMembers).length := by
    rw [List.length_drop, hlength]
    exact (Nat.mul_le_mul_right 32 hcount).trans (by decide)
  obtain ⟨members, hmembers, hall⟩ := @exists_mapM ℕ PublicKey String PublicKey
    (fun i => publicKeyOf (slice msData (43 + i * 32) (75 + i * 32))) id
    (fun i key => sliceAt (i * 32) 32 (msData.drop msMembers) = key.toBytes)
    (List.range (memberCountOf msData)) (by
      intro i hi
      have hlt := List.mem_range.mp hi
      rw [slice_member]
      obtain ⟨key, hkey, hbytes⟩ := publicKeyOf_of_length
        (@length_sliceAt (msData.drop msMembers) (i * 32) 32 (by omega))
      exact ⟨key, hkey, hbytes.symm⟩)
  obtain ⟨dwallet, hdwallet, hbytes⟩ := publicKeyOf_of_length
    (@length_sliceAt msData msDwallet 32 (by rw [hlength]; decide))
  refine ⟨⟨thresholdOf msData, memberCountOf msData, txIndexOf msData, dwallet, members⟩, ?_, rfl,
    rfl, rfl, hbytes, ?_⟩
  · unfold parseMultisig
    rw [List.map_id] at hmembers
    rw [getUint_of (by omega), ok_bind]
    apply bind_ok_iff.mpr
    refine ⟨members, hmembers, ?_⟩
    rw [getUint_of (by omega), ok_bind, getUint_of (by omega), ok_bind]
    apply bind_ok_iff.mpr
    exact ⟨dwallet, hdwallet, rfl⟩
  · have heq : List.Forall₂ Eq ((List.range (memberCountOf msData)).map fun i =>
        sliceAt (i * 32) 32 (msData.drop msMembers)) (members.map PublicKey.toBytes) := by
      rw [List.forall₂_map_left_iff, List.forall₂_map_right_iff]
      exact hall
    rw [List.forall₂_eq_eq_eq] at heq
    exact heq.symm.trans (take_chunks_eq hroom).symm

theorem parseTransaction_of {txData : Bytes} (h : transactionLen ≤ txData.length) :
    ∃ account, parseTransaction txData = .ok account ∧ ShowsTransaction txData account := by
  have hlength : 402 ≤ txData.length := h
  obtain ⟨proposer, hproposer, hbytes⟩ := publicKeyOf_of_length
    (@length_sliceAt txData txProposer 32 (le_trans (by decide) hlength))
  have hslice : slice txData 146 (146 + leValue (sliceAt 144 2 txData)) =
      sliceAt 146 (leValue (sliceAt 144 2 txData)) txData := by
    rw [slice, Nat.add_sub_cancel_left]
    rfl
  refine ⟨{
    txIndex := leValue (sliceAt Multisig.txIndex 4 txData)
    proposer
    messageHash := sliceAt txMessageHash 32 txData
    approvalCount := leValue (sliceAt txApprovalCount 2 txData)
    rejectionCount := leValue (sliceAt txRejectionCount 2 txData)
    status := nthByte txData txStatus
    signatureVoucherBump := nthByte txData txSignatureVoucherBump
    messageDataLen := leValue (sliceAt txMessageDataLen 2 txData)
    messageData := sliceAt txMessageData (leValue (sliceAt txMessageDataLen 2 txData)) txData },
    ?_, rfl, hbytes, rfl, rfl, rfl, rfl, rfl, rfl⟩
  unfold parseTransaction
  rw [getUint_of (by omega), ok_bind, getUint_of (by omega), ok_bind]
  apply bind_ok_iff.mpr
  refine ⟨proposer, hproposer, ?_⟩
  dsimp only
  rw [getUint_of (by omega), ok_bind, getUint_of (by omega), ok_bind, hslice]
  rfl

/-! ## The list of the page -/

/-- The connection answers for an account with what the program keeps in it. -/
def Answers (d : Deployment) (getAccountInfo : PublicKey → Except String (Option Bytes))
    (w : World) (key : PublicKey) : Prop :=
  ∀ data, heldBy d.programId w.ledger key = some data → ¬isBlank data →
    getAccountInfo key = .ok (some data)

/-- The multisig is read first, and the program may go on before each of the other reads. -/
structure Connected (d : Deployment) (getAccountInfo : PublicKey → Except String (Option Bytes))
    (w : World) (m : PublicKey) : Prop where
  first : Answers d getAccountInfo w m
  later : ∀ key, ∃ w', Onward (process d) d w w' ∧ Answers d getAccountInfo w' key

/-- An entry of the list: the transaction of a number, as it was or as it is a while later. -/
def Listed (d : Deployment) (w : World) (m : PublicKey) (i : ℕ)
    (entry : PublicKey × TransactionAccount) : Prop :=
  ∃ txData txData', NumberedAt d (heldBy d.programId w.ledger) m i entry.1 txData ∧
    Kept txData txData' ∧ ShowsTransaction txData' entry.2

/-- The page shows the multisig, and all of its transactions in the order of their numbers. -/
structure Lists (d : Deployment) (w : World) (m : PublicKey) (msData : Bytes) (loaded : Loaded) :
    Prop where
  multisig : ShowsMultisig msData loaded.multisigData
  numbered : List.Forall₂ (Listed d w m) (List.range (txIndexOf msData)) loaded.transactions
  complete : ∀ {key txData}, heldBy d.programId w.ledger key = some txData →
    nthByte txData 0 = transactionDiscriminator → sliceAt txMultisig 32 txData = m.toBytes →
    key ∈ loaded.transactions.map Prod.fst

theorem findTransactionPda_of {m key : PublicKey} {i : ℕ} {bump : UInt8} (hi : i < 256 ^ 4)
    (h : findProgramAddress d [textBytes "transaction", m.toBytes, leBytes 4 i] =
      .ok (key, bump)) : findTransactionPda d m i = .ok (key, bump) := by
  unfold findTransactionPda writeUInt findPda
  rw [if_pos hi, ok_bind, h]
  rfl

theorem not_isBlank {data : Bytes} (h : nthByte data 0 ≠ 0) : ¬isBlank data :=
  mt nthByte_of_isBlank h

/-- What the page reads for a number of the multisig. -/
theorem Numbered.reads (hd : d.Sound) (hrun : Run (process d) d calls w)
    (hnumbered : Numbered d (heldBy d.programId w.ledger)) {m : PublicKey} {msData : Bytes}
    (hheld : heldBy d.programId w.ledger m = some msData)
    (hdisc : nthByte msData 0 = multisigDiscriminator)
    (hsmall : txIndexOf msData < 256 ^ 4)
    {getAccountInfo : PublicKey → Except String (Option Bytes)}
    (hconnected : Connected d getAccountInfo w m) {i : ℕ} (hi : i < txIndexOf msData) :
    ∃ key bump data account, findTransactionPda d m i = .ok (key, bump) ∧
      getAccountInfo key = .ok (some data) ∧ parseTransaction data = .ok account ∧
      Listed d w m i (key, account) := by
  obtain ⟨h, -, hshows⟩ := run_shows hd hrun
  obtain ⟨key, txData, hat⟩ := hnumbered.complete hheld hdisc i hi
  obtain ⟨bump, haddress⟩ := hat.address
  obtain ⟨w', honward, hanswers⟩ := hconnected.later key
  obtain ⟨txData', hat', hkept⟩ := hat.later ((process_keeps hd).onward honward)
  have hlength := (hshows.poll hat.account hat.discriminator).1
  have hlength' := (AgreeOutside.length (hkept.transaction hat.discriminator).1).trans hlength
  obtain ⟨account, hparse, hshown⟩ := parseTransaction_of hlength'.ge
  have hinfo := hanswers txData' hat'.account (not_isBlank (by rw [hat'.discriminator]; decide))
  exact ⟨key, bump, txData', account, findTransactionPda_of (hi.trans hsmall) haddress, hinfo,
    hparse, txData, txData', hat, hkept, hshown⟩

theorem fetchTransactions_lists (hd : d.Sound) (hrun : Run (process d) d calls w)
    (hnumbered : Numbered d (heldBy d.programId w.ledger)) {m : PublicKey} {msData : Bytes}
    (hheld : heldBy d.programId w.ledger m = some msData)
    (hdisc : nthByte msData 0 = multisigDiscriminator)
    (hsmall : txIndexOf msData < 256 ^ 4)
    {getAccountInfo : PublicKey → Except String (Option Bytes)}
    (hconnected : Connected d getAccountInfo w m) :
    ∃ txs, fetchTransactions d getAccountInfo m (txIndexOf msData) = .ok txs ∧
      List.Forall₂ (Listed d w m) (List.range (txIndexOf msData)) txs := by
  obtain ⟨txs, htxs, hall⟩ := @exists_mapM ℕ (Option (PublicKey × TransactionAccount)) String
    (PublicKey × TransactionAccount) (fun i => do
      let found ← findTransactionPda d m i
      return (getAccountInfo found.1).toOption.join.bind fun data =>
        (parseTransaction data).toOption.map fun account => (found.1, account))
    some (Listed d w m) (List.range (txIndexOf msData)) (by
      intro i hi
      obtain ⟨key, bump, data, account, hfound, hinfo, hparse, hlisted⟩ :=
        hnumbered.reads hd hrun hheld hdisc hsmall hconnected (List.mem_range.mp hi)
      refine ⟨(key, account), ?_, hlisted⟩
      rw [hfound, ok_bind]
      dsimp only
      rw [hinfo]
      simp [Except.toOption, hparse]
      rfl)
  -- Every read has an entry, so none is left out of the list.
  have hread : (txs.map some).reduceOption = txs :=
    List.filterMap_map.trans List.filterMap_some
  refine ⟨txs, bind_ok_iff.mpr ⟨txs.map some, htxs, ?_⟩, hall⟩
  exact congrArg Except.ok hread

/-- Whatever the program does while the page reads, the page shows the multisig as it was at the
first read and each of its transactions once, by number, none of them missing. -/
theorem page_lists (hd : d.Sound) (hrun : Run (process d) d calls w)
    (hunsigned : ∀ c ∈ calls, TransactionUnsigned c) {m : PublicKey} {msData : Bytes}
    (hheld : heldBy d.programId w.ledger m = some msData)
    (hdisc : nthByte msData 0 = multisigDiscriminator)
    {getAccountInfo : PublicKey → Except String (Option Bytes)}
    (hconnected : Connected d getAccountInfo w m) :
    ∃ loaded, loadMultisig d getAccountInfo m = .ok loaded ∧ Lists d w m msData loaded := by
  obtain ⟨h, -, hshows⟩ := run_shows hd hrun
  have hok := hshows.multisig hheld hdisc
  have hnumbered := run_numbered hd hrun hunsigned
  have hsmall := txIndexOf_lt hok.length.ge
  obtain ⟨account, hparse, hshown⟩ := parseMultisig_of hok
  obtain ⟨txs, htxs, hall⟩ := fetchTransactions_lists hd hrun hnumbered hheld hdisc hsmall
    hconnected
  have hinfo := hconnected.first msData hheld (not_isBlank (by rw [hdisc]; decide))
  refine ⟨⟨account, txs⟩, ?_, hshown, hall, ?_⟩
  · unfold loadMultisig
    rw [hinfo, ok_bind]
    dsimp only
    rw [hparse, ok_bind, hshown.txIndex, htxs, ok_bind]
    rfl
  · intro key txData htx htxDisc hmultisig
    obtain ⟨m', msData', i, hms, -, hi, hat⟩ := hnumbered.placed htx htxDisc
    obtain rfl := publicKey_ext (hmultisig.symm.trans hat.multisig)
    obtain rfl := Option.some.inj (hheld.symm.trans hms)
    obtain ⟨entry, hentry, txData', -, hat', -, -⟩ :=
      related_of_mem hall.flip (List.mem_range.mpr hi)
    obtain ⟨bump, haddress⟩ := hat.address
    obtain ⟨bump', haddress'⟩ := hat'.address
    have hkey : key = entry.1 :=
      congrArg Prod.fst (Except.ok.inj (haddress.symm.trans haddress'))
    exact List.mem_map.mpr ⟨entry, hentry, hkey.symm⟩

/-! ### Two transactions, and a vote while the page reads -/

def sampleSecond : PublicKey :=
  sampleAddress [textBytes "transaction", sampleMultisig.toBytes, leBytes 4 1, [255]]

def sampleProposeSecond : Call where
  accounts := [⟨sampleMultisig, false, true⟩, ⟨sampleSecond, false, true⟩,
    ⟨repeatedKey 2, true, false⟩, ⟨repeatedKey 2, true, true⟩, ⟨systemProgramId, false, false⟩]
  data := samplePropose.data

def sampleProposals : List Call := [sampleCreate, samplePropose, sampleProposeSecond]

def sampleListed : World := worldAfter (process sampleDeployment) sampleProposals

/-- The first transaction is approved once. -/
def sampleVoted : World :=
  worldAfter (process sampleDeployment) (sampleProposals ++ [sampleApprove (repeatedKey 1)])

theorem sampleProposals_accepted :
    (sampleProposals.foldlM (fun w c => process sampleDeployment c w) sampleStart).isOk = true ∧
    ((sampleProposals ++ [sampleApprove (repeatedKey 1)]).foldlM
      (fun w c => process sampleDeployment c w) sampleStart).isOk = true := by
  decide +kernel

theorem sampleListed_onward :
    Onward (process sampleDeployment) sampleDeployment sampleListed sampleVoted :=
  onward_of_calls (foldlM_worldAfter_append sampleProposals_accepted.1 sampleProposals_accepted.2)

theorem sampleProposals_unsigned : ∀ c ∈ sampleProposals, TransactionUnsigned c := by
  intro c hc a hdata ha
  simp only [sampleProposals, List.mem_cons, List.not_mem_nil, or_false] at hc
  obtain rfl | rfl | rfl := hc
  · exact absurd hdata (by decide)
  · obtain rfl := Except.ok.inj ha
    have hne : repeatedKey 2 ≠ sampleTransaction := by decide +kernel
    simp [Unsigned, samplePropose, hne]
  · obtain rfl := Except.ok.inj ha
    have hne : repeatedKey 2 ≠ sampleSecond := by decide +kernel
    simp [Unsigned, sampleProposeSecond, hne]

/-- The vote comes after the multisig is read, and before its transactions are. -/
def sampleConnection (key : PublicKey) : Except String (Option Bytes) :=
  .ok (some ((if key = sampleMultisig then sampleListed else sampleVoted).ledger key).data)

theorem sampleConnection_connected :
    Connected sampleDeployment sampleConnection sampleListed sampleMultisig where
  first data hheld _ := by
    rw [sampleConnection, if_pos rfl, (heldBy_eq_some.mp hheld).2]
  later key := by
    by_cases hkey : key = sampleMultisig
    · refine ⟨sampleListed, .refl, fun data hheld _ => ?_⟩
      rw [sampleConnection, if_pos hkey, (heldBy_eq_some.mp hheld).2]
    · refine ⟨sampleVoted, sampleListed_onward, fun data hheld _ => ?_⟩
      rw [sampleConnection, if_neg hkey, (heldBy_eq_some.mp hheld).2]

theorem page_lists_sample :
    (∃ loaded, loadMultisig sampleDeployment sampleConnection sampleMultisig = .ok loaded ∧
      Lists sampleDeployment sampleListed sampleMultisig
        (sampleListed.ledger sampleMultisig).data loaded) ∧
    (loadMultisig sampleDeployment sampleConnection sampleMultisig).map
      (fun loaded => loaded.transactions.map fun tx => (tx.2.txIndex, tx.2.approvalCount)) =
        .ok [(0, 1), (1, 0)] := by
  have hrun : Run (process sampleDeployment) sampleDeployment sampleProposals sampleListed :=
    run_worldAfter sampleProposals_accepted.1
  have hfacts : heldBy sampleDeployment.programId sampleListed.ledger sampleMultisig =
        some (sampleListed.ledger sampleMultisig).data ∧
      nthByte (sampleListed.ledger sampleMultisig).data 0 = multisigDiscriminator := by
    decide +kernel
  refine ⟨?_, by decide +kernel⟩
  exact page_lists sampleDeployment_sound hrun sampleProposals_unsigned hfacts.1 hfacts.2
    sampleConnection_connected

end Ika.Programs.Multisig
