import IkaSdk.Lib.Polls
import IkaSdk.Programs.Multisig

/-! What each instruction of the multisig program does to the accounts it holds. -/

namespace Ika.Programs.Multisig

open Wire Ledgers Solana Crates Polls MultisigError

/-! ## What the accounts say -/

def thresholdOf (msData : Bytes) : ℕ := leValue (sliceAt msThreshold 2 msData)

def memberCountOf (msData : Bytes) : ℕ := leValue (sliceAt msMemberCount 2 msData)

def outcomeOf (status : UInt8) : Outcome :=
  if status = statusActive then .undecided
  else if status = statusApproved then .carried else .lost

/-- A transaction as a poll of the members. -/
def pollOf (msData txData : Bytes) : Poll Bytes where
  electors := membersOf msData
  quorum := thresholdOf msData
  limit := some (memberCountOf msData - thresholdOf msData + 1)
  yes := leValue (sliceAt txApprovalCount 2 txData)
  no := leValue (sliceAt txRejectionCount 2 txData)
  outcome := outcomeOf (nthByte txData txStatus)

/-- A multisig account as `create_multisig` leaves it, and as it stays. -/
structure MultisigOk (msData : Bytes) : Prop where
  length : msData.length = multisigLen
  discriminator : nthByte msData 0 = multisigDiscriminator
  threshold_pos : 0 < thresholdOf msData
  threshold_le : thresholdOf msData ≤ memberCountOf msData
  count_le : memberCountOf msData ≤ maxMembers
  members : (membersOf msData).Nodup
  count : (membersOf msData).length = memberCountOf msData

structure TransactionOk (txData : Bytes) : Prop where
  length : txData.length = transactionLen
  discriminator : nthByte txData 0 = transactionDiscriminator

variable {d : Deployment} {w w' : World} {accounts : List AccountInfo} {data : Bytes}

/-! ## The multisig of a dWallet -/

/-- What `create_multisig` has done: the multisig stands at the address that is derived from
its dWallet, made by the owner of the dWallet at the time. -/
structure MultisigMade (d : Deployment) (a : CreateMultisigAccounts) (data msData : Bytes)
    (w w' : World) : Prop where
  issued : w'.issued = w.issued
  new : heldBy d.programId w.ledger a.multisigAccount.key = none
  after : heldBy d.programId w'.ledger = Function.update (heldBy d.programId w.ledger)
    a.multisigAccount.key (some msData)
  ok : MultisigOk msData
  threshold : thresholdOf msData = leValue (sliceAt 0 2 data)
  members : membersOf msData = chunks (sliceAt 4 (leValue (sliceAt 2 2 data) * 32) data)
  dwallet : sliceAt msDwallet 32 msData = a.dwallet.key.toBytes
  index : leValue (sliceAt msTxIndex 4 msData) = 0
  address : findProgramAddress d [textBytes "multisig", a.dwallet.key.toBytes] =
    .ok (a.multisigAccount.key, nthByte msData msBump)
  owner : a.owner.isSigner = true
  dwalletOwner : ∃ stored, Programs.dwalletOwner d invalidDWalletAccount.toProgramError
    a.dwallet a.dwalletProgram w = .ok stored ∧ stored.val = a.owner.key.toBytes

theorem CreateMultisigAccounts.of_ok {a : CreateMultisigAccounts}
    (h : CreateMultisigAccounts.of accounts = .ok a) : a.multisigAccount ∈ accounts := by
  unfold CreateMultisigAccounts.of at h
  split at h
  · cases h
    simp
  · cases h

theorem multisigFields_inOrder {dwallet : PublicKey} {threshold memberCount : ℕ} {bump : UInt8}
    {members : Bytes} :
    InOrder (multisigFields dwallet threshold memberCount bump members) := by
  have hkey : dwallet.toBytes.length = 32 := dwallet.length_eq
  simp [InOrder, multisigFields, hkey, msDwallet, msThreshold, msMemberCount, msTxIndex, msBump,
    msMembers]

/-- The rules of a multisig read back as they were written. -/
theorem multisigFields_read {dwallet : PublicKey} {threshold memberCount : ℕ} {bump : UInt8}
    {members msData : Bytes} (hle : threshold ≤ memberCount) (hmax : memberCount ≤ maxMembers)
    (hlength : members.length = memberCount * 32)
    (hput : putFields (List.replicate multisigLen 0)
      (multisigFields dwallet threshold memberCount bump members) = .ok msData) :
    thresholdOf msData = threshold ∧ memberCountOf msData = memberCount ∧
      membersOf msData = chunks members := by
  have hlow : threshold < 256 ^ 2 := (hle.trans hmax).trans_lt (by decide)
  have hsmall : memberCount < 256 ^ 2 := hmax.trans_lt (by decide)
  have hthreshold : sliceAt msThreshold 2 msData = leBytes 2 threshold :=
    sliceAt_written hput multisigFields_inOrder (by simp [multisigFields]) (leBytes_length ..)
  have hcountBytes : sliceAt msMemberCount 2 msData = leBytes 2 memberCount :=
    sliceAt_written hput multisigFields_inOrder (by simp [multisigFields]) (leBytes_length ..)
  have hmembers : sliceAt msMembers (memberCount * 32) msData = members :=
    sliceAt_written hput multisigFields_inOrder (by simp [multisigFields]) hlength
  have hcount : memberCountOf msData = memberCount := by
    rw [memberCountOf, hcountBytes, leValue_leBytes, Nat.mod_eq_of_lt hsmall]
  refine ⟨?_, hcount, ?_⟩
  · rw [thresholdOf, hthreshold, leValue_leBytes, Nat.mod_eq_of_lt hlow]
  · rw [memberCountOf] at hcount
    rw [membersOf, hcount, take_chunks_written hmembers]

theorem createMultisig_made (hd : d.Sound) (h : createMultisig d accounts data w = .ok w') :
    ∃ a msData, CreateMultisigAccounts.of accounts = .ok a ∧
      MultisigMade d a data msData w w' := by
  obtain ⟨hlength, h⟩ := ensure_bind_iff.mp h
  obtain ⟨a, ha, h⟩ := bind_ok h
  obtain ⟨howner, h⟩ := ensure_bind_iff.mp h
  obtain ⟨-, h⟩ := ensure_bind_iff.mp h
  obtain ⟨⟨-, hmax⟩, h⟩ := ensure_bind_iff.mp h
  obtain ⟨⟨hpos, hle⟩, h⟩ := ensure_bind_iff.mp h
  obtain ⟨hfits, h⟩ := ensure_bind_iff.mp h
  obtain ⟨hnodup, h⟩ := ensure_bind_iff.mp h
  obtain ⟨stored, hstored, h⟩ := bind_ok h
  obtain ⟨hsame, h⟩ := ensure_bind_iff.mp h
  obtain ⟨⟨expected, bump⟩, hfound, h⟩ := bind_ok h
  obtain ⟨hkey, h⟩ := ensure_bind_iff.mp h
  obtain ⟨made, hmade, h⟩ := bind_ok h
  obtain ⟨msData, hwrote⟩ := writeFields_ok h
  have hmade := createPdaAccount_ok hmade
  obtain ⟨hput, hissued, hafter⟩ := hmade.filled hwrote
  have hunique : (chunks (sliceAt 4 (leValue (sliceAt 2 2 data) * 32) data)).Nodup :=
    not_not.mp (mt (hasDuplicate_iff _).mpr hnodup)
  have hread : ∀ {offset bytes width}, (offset, bytes) ∈ multisigFields a.dwallet.key
      (leValue (sliceAt 0 2 data)) (leValue (sliceAt 2 2 data)) bump
      (sliceAt 4 (leValue (sliceAt 2 2 data) * 32) data) → bytes.length = width →
      sliceAt offset width msData = bytes :=
    fun hmem hwidth => sliceAt_written hput multisigFields_inOrder hmem hwidth
  have hindex : sliceAt msTxIndex 4 msData = leBytes 4 0 := hread (by simp [multisigFields]) rfl
  have hbump : sliceAt msBump 1 msData = [bump] := hread (by simp [multisigFields]) rfl
  obtain ⟨hthreshold, hcount, hmembers⟩ := multisigFields_read hle hmax (length_sliceAt hfits) hput
  refine ⟨a, msData, ha, hissued, hmade.new hd.notSystem, hafter, ?_, hthreshold, hmembers, ?_, ?_,
    ?_, howner, stored, hstored, hsame⟩
  · refine ⟨?_, ?_, ?_, ?_, ?_, ?_, ?_⟩
    · rw [putFields_length hput, List.length_replicate]
    · exact nthByte_of_slice (hread (by simp [multisigFields]) rfl)
    · rw [hthreshold]
      exact Nat.pos_of_ne_zero hpos
    · rwa [hthreshold, hcount]
    · rwa [hcount]
    · rwa [hmembers]
    · rw [hmembers, hcount]
      exact length_chunks ((length_sliceAt hfits).trans (Nat.mul_comm ..))
  · exact hread (by simp [multisigFields]) a.dwallet.key.length_eq
  · rw [hindex]
    rfl
  · rw [hfound, hkey, nthByte_of_slice hbump]

/-! ## Checks of a multisig -/

/-- What `verify_multisig` has checked. -/
structure Verified (d : Deployment) (key : PublicKey) (msData : Bytes) (w : World) : Prop where
  account : heldBy d.programId w.ledger key = some msData
  length : multisigLen ≤ msData.length
  discriminator : nthByte msData 0 = multisigDiscriminator
  address : d.createProgramAddress [textBytes "multisig", sliceAt msDwallet 32 msData,
    [nthByte msData msBump]] d.programId = some key

theorem verifyMultisig_ok {multisig : AccountInfo} {u : Unit}
    (h : verifyMultisig d multisig w = .ok u) :
    Verified d multisig.key (w.ledger multisig.key).data w := by
  obtain ⟨howner, h⟩ := ensure_bind_iff.mp h
  obtain ⟨⟨hlength, hdisc⟩, h⟩ := ensure_bind_iff.mp h
  obtain ⟨dwallet, hdwallet, h⟩ := bind_ok h
  have haddress := ensure_ok h
  rw [(readKey_ok hdwallet).2] at haddress
  exact ⟨heldBy_eq_some.mpr ⟨howner, rfl⟩, hlength, hdisc, haddress⟩

theorem mem_of_isMember {msData member : Bytes} (h : isMember msData member = true) :
    member ∈ membersOf msData := by
  unfold isMember at h
  split_ifs at h
  obtain ⟨candidate, hmem, heq⟩ := List.any_eq_true.mp h
  rw [← of_decide_eq_true heq]
  exact hmem

/-! ## Transactions -/

theorem transactionFields_inOrder {p : Proposal} (hhash : p.messageHash.length = 32)
    (hkey : p.userPubkey.length = 32) (hscheme : p.signatureScheme.length = 2) :
    InOrder (transactionFields p) := by
  have hmultisig : p.multisig.toBytes.length = 32 := p.multisig.length_eq
  have hproposer : p.proposer.toBytes.length = 32 := p.proposer.length_eq
  simp [InOrder, transactionFields, hmultisig, hproposer, hhash, hkey, hscheme, txMultisig,
    txIndex, txProposer, txMessageHash, txUserPubkey, txSignatureScheme, txApprovalCount,
    txRejectionCount, txStatus, txSignatureVoucherBump, txFutureSign, txBump, txMessageDataLen,
    txMessageData]

/-- What `create_transaction` has done. The address is the derived one unless the account
signed for itself. -/
structure TransactionMade (d : Deployment) (accounts : List AccountInfo)
    (a : CreateTransactionAccounts) (data : Bytes) (p : Proposal)
    (msData msData' txData : Bytes) (w w' : World) : Prop where
  fits : 71 ≤ data.length
  issued : w'.issued = w.issued
  signed : a.proposer.isSigner = true
  verified : Verified d a.multisigAccount.key msData w
  member : a.proposer.key.toBytes ∈ membersOf msData
  new : heldBy d.programId w.ledger a.txAccount.key = none
  after : heldBy d.programId w'.ledger = Function.update
    (Function.update (heldBy d.programId w.ledger) a.txAccount.key (some txData))
    a.multisigAccount.key (some msData')
  multisig : p.multisig = a.multisigAccount.key
  proposer : p.proposer = a.proposer.key
  index : p.index = leValue (sliceAt msTxIndex 4 msData)
  read : ∀ {offset bytes width}, (offset, bytes) ∈ transactionFields p → bytes.length = width →
    sliceAt offset width txData = bytes
  ok : TransactionOk txData
  kept : AgreeOutside msTxIndex (msTxIndex + 4) msData msData'
  indexSucc : leValue (sliceAt msTxIndex 4 msData') = leValue (sliceAt msTxIndex 4 msData) + 1
  address : Unsigned accounts a.txAccount.key → findProgramAddress d [textBytes "transaction",
    a.multisigAccount.key.toBytes, leBytes 4 p.index] = .ok (a.txAccount.key, p.bump)
  voucher : ∃ key, findProgramAddress d [textBytes "signature_voucher", a.txAccount.key.toBytes] =
    .ok (key, p.signatureVoucherBump)

theorem CreateTransactionAccounts.of_ok {a : CreateTransactionAccounts}
    (h : CreateTransactionAccounts.of accounts = .ok a) : a.txAccount ∈ accounts := by
  unfold CreateTransactionAccounts.of at h
  split at h
  · cases h
    simp
  · cases h

/-- The proposal in the data of the instruction. -/
def proposalOf (a : CreateTransactionAccounts) (index : ℕ) (data : Bytes) : Proposal where
  multisig := a.multisigAccount.key
  index := index
  proposer := a.proposer.key
  messageHash := sliceAt 0 32 data
  userPubkey := sliceAt 32 32 data
  signatureScheme := sliceAt 64 2 data
  signatureVoucherBump := nthByte data 66
  futureSign := nthByte data 67
  bump := nthByte data 68
  messageDataLen := leValue (sliceAt 69 2 data)
  messageData := sliceAt 71 (leValue (sliceAt 69 2 data)) data

theorem createTransaction_made (hd : d.Sound)
    (h : createTransaction d accounts data w = .ok w') :
    ∃ a index msData msData' txData, CreateTransactionAccounts.of accounts = .ok a ∧
      TransactionMade d accounts a data (proposalOf a index data) msData msData' txData w w' := by
  obtain ⟨hlength, h⟩ := ensure_bind_iff.mp h
  obtain ⟨a, ha, h⟩ := bind_ok h
  obtain ⟨hsigned, h⟩ := ensure_bind_iff.mp h
  obtain ⟨-, h⟩ := ensure_bind_iff.mp h
  obtain ⟨u, hverified, h⟩ := bind_ok h
  obtain ⟨hmember, h⟩ := ensure_bind_iff.mp h
  obtain ⟨index, hindex, h⟩ := bind_ok h
  obtain ⟨u', hvoucher, h⟩ := bind_ok h
  obtain ⟨-, h⟩ := ensure_bind_iff.mp h
  obtain ⟨-, h⟩ := ensure_bind_iff.mp h
  obtain ⟨hfits, h⟩ := ensure_bind_iff.mp h
  obtain ⟨u'', hbump, h⟩ := bind_ok h
  obtain ⟨made, hmade, h⟩ := bind_ok h
  obtain ⟨written, hwritten, h⟩ := bind_ok h
  obtain ⟨newIndex, hnewIndex, h⟩ := bind_ok h
  have hmade := createPdaAccount_ok hmade
  obtain ⟨txData, hwrote⟩ := writeFields_ok hwritten
  obtain ⟨msData', hwrote'⟩ := writeFields_ok h
  obtain ⟨hput, hissued, hafter⟩ := hmade.filled hwrote
  have hverified := verifyMultisig_ok hverified
  obtain ⟨-, rfl⟩ := readU32_ok hindex
  obtain ⟨rfl, hsmall⟩ := checkedSucc_ok hnewIndex
  have hnew := hmade.new hd.notSystem
  have hne : a.multisigAccount.key ≠ a.txAccount.key := by
    intro heq
    rw [← heq, hverified.account] at hnew
    cases hnew
  have horder := transactionFields_inOrder (p := proposalOf a
    (leValue (sliceAt msTxIndex 4 (w.ledger a.multisigAccount.key).data)) data)
    (length_sliceAt (by omega)) (length_sliceAt (by omega)) (length_sliceAt (by omega))
  have hbefore := hwrote'.before
  rw [hafter, Function.update_of_ne hne, hverified.account] at hbefore
  have hput' := hwrote'.put
  rw [← Option.some.inj hbefore] at hput'
  obtain ⟨found, hfound⟩ := requireCanonicalBump_iff.mp hbump
  refine ⟨a, _, _, msData', txData, ha, hlength, hwrote'.issued.trans hissued, hsigned, hverified,
    mem_of_isMember hmember, hnew, ?_, rfl, rfl, rfl, ?_, ?_, ?_, ?_, ?_, ?_⟩
  · rw [hwrote'.after, hafter]
  · intro offset bytes width hmem hwidth
    exact sliceAt_written hput horder hmem hwidth
  · refine ⟨?_, ?_⟩
    · rw [putFields_length hput, List.length_replicate]
    · exact nthByte_of_slice (sliceAt_written hput horder (by simp [transactionFields]) rfl)
  · exact agreeOutside_putFields hput' (by simp)
  · have hwritten : sliceAt msTxIndex 4 msData' = leBytes 4
        (leValue (sliceAt msTxIndex 4 (w.ledger a.multisigAccount.key).data) + 1) :=
      sliceAt_written hput' (by simp [InOrder]) (by simp) (leBytes_length ..)
    rw [hwritten, leValue_leBytes, Nat.mod_eq_of_lt hsmall]
  · intro hunsigned
    exact hmade.canonical hfound hunsigned
  · exact requireCanonicalBump_iff.mp hvoucher

/-! ## Votes -/

theorem recordFields_inOrder {member transaction : PublicKey} {approved bump : UInt8} :
    InOrder (recordFields member transaction approved bump) := by
  have hmember : member.toBytes.length = 32 := member.length_eq
  have htransaction : transaction.toBytes.length = 32 := transaction.length_eq
  simp [InOrder, recordFields, hmember, htransaction, arMember, arTransaction, arApproved, arBump]

/-- What `record_vote` has done. The record is at its canonical address unless it signed for
itself. -/
structure Recorded (d : Deployment) (accounts : List AccountInfo) (a : VoteAccounts)
    (approved bump : UInt8) (msData txData record : Bytes) (w w' : World) : Prop where
  issued : w'.issued = w.issued
  signed : a.member.isSigner = true
  verified : Verified d a.multisigAccount.key msData w
  member : a.member.key.toBytes ∈ membersOf msData
  length : transactionLen ≤ txData.length
  discriminator : nthByte txData 0 = transactionDiscriminator
  active : nthByte txData txStatus = statusActive
  multisig : sliceAt txMultisig 32 txData = a.multisigAccount.key.toBytes
  ne : a.txAccount.key ≠ a.approvalRecordAccount.key
  new : heldBy d.programId w.ledger a.approvalRecordAccount.key = none
  after : heldBy d.programId w'.ledger = Function.update (heldBy d.programId w.ledger)
    a.approvalRecordAccount.key (some record)
  read : ∀ {offset bytes width}, (offset, bytes) ∈ recordFields a.member.key a.txAccount.key
    approved bump → bytes.length = width → sliceAt offset width record = bytes
  address : Unsigned accounts a.approvalRecordAccount.key → findProgramAddress d
    [textBytes "approval", a.txAccount.key.toBytes, a.member.key.toBytes] =
      .ok (a.approvalRecordAccount.key, bump)

theorem recordVote_recorded (hd : d.Sound) {a : VoteAccounts} {approved bump : UInt8}
    {threshold memberCount : ℕ}
    (h : recordVote d accounts a bump approved w = .ok ((threshold, memberCount), w')) :
    ∃ msData record, Recorded d accounts a approved bump msData (w.ledger a.txAccount.key).data
      record w w' ∧ threshold = thresholdOf msData ∧ memberCount = memberCountOf msData := by
  obtain ⟨hsigned, h⟩ := ensure_bind_iff.mp h
  obtain ⟨-, h⟩ := ensure_bind_iff.mp h
  obtain ⟨u, hverified, h⟩ := bind_ok h
  obtain ⟨hmember, h⟩ := ensure_bind_iff.mp h
  obtain ⟨threshold', hthreshold, h⟩ := bind_ok h
  obtain ⟨memberCount', hcount, h⟩ := bind_ok h
  obtain ⟨⟨hlength, hdisc⟩, h⟩ := ensure_bind_iff.mp h
  obtain ⟨hactive, h⟩ := ensure_bind_iff.mp h
  obtain ⟨hmultisig, h⟩ := ensure_bind_iff.mp h
  obtain ⟨u', hbump, h⟩ := bind_ok h
  obtain ⟨made, hmade, h⟩ := bind_ok h
  obtain ⟨written, hwritten, h⟩ := bind_ok h
  have hresult := Except.ok.inj h
  obtain rfl : threshold' = threshold := congrArg (fun r => r.1.1) hresult
  obtain rfl : memberCount' = memberCount := congrArg (fun r => r.1.2) hresult
  obtain rfl : written = w' := congrArg (fun r => r.2) hresult
  have hmade := createPdaAccount_ok hmade
  obtain ⟨record, hwrote⟩ := writeFields_ok hwritten
  obtain ⟨hput, hissued, hafter⟩ := hmade.filled hwrote
  obtain ⟨found, hfound⟩ := requireCanonicalBump_iff.mp hbump
  refine ⟨_, record, ⟨hissued, hsigned, verifyMultisig_ok hverified, mem_of_isMember hmember,
    hlength, hdisc, hactive, hmultisig, ?_, hmade.new hd.notSystem, hafter, ?_, ?_⟩,
    (readU16_ok hthreshold).2, (readU16_ok hcount).2⟩
  · -- the new account was empty, the transaction is not
    intro heq
    rw [heq, hmade.unused.data] at hlength
    exact absurd hlength (by decide)
  · intro offset bytes width hmem hwidth
    exact sliceAt_written hput recordFields_inOrder hmem hwidth
  · intro hunsigned
    exact hmade.canonical hfound hunsigned

/-! ## The counts of a transaction -/

/-- The counts and the status of a transaction; everything else stays. -/
def SameTransaction (txData txData' : Bytes) : Prop :=
  AgreeOutside txApprovalCount (txStatus + 1) txData txData'

/-- The terms of the voucher are among what stays. -/
theorem SameTransaction.terms {txData txData' : Bytes} (h : SameTransaction txData txData') :
    CallTerms.read txData' = CallTerms.read txData := by
  have hhash : readKey txData' txMessageHash = _ := readKey_congr h (.inl (by decide))
  have hkey : readKey txData' txUserPubkey = _ := readKey_congr h (.inl (by decide))
  have hscheme : readU16 txData' txSignatureScheme = _ := readU16_congr h (.inl (by decide))
  have hproposer : readKey txData' txProposer = _ := readKey_congr h (.inl (by decide))
  have hbump : nthByte txData' txSignatureVoucherBump = _ := h.nthByte (.inr (by decide))
  have hfuture : nthByte txData' txFutureSign = _ := h.nthByte (.inr (by decide))
  unfold CallTerms.read
  rw [hhash, hkey, hscheme, hproposer, hbump, hfuture]

theorem pollOf_approved {msData txData txData' : Bytes} {n : ℕ}
    (hput : putFields txData [(txApprovalCount, leBytes 2 n)] = .ok txData')
    (hsmall : n < 256 ^ 2) : (pollOf msData txData').yes = n ∧
      (pollOf msData txData').no = (pollOf msData txData).no ∧
      nthByte txData' txStatus = nthByte txData txStatus := by
  have hkept : AgreeOutside txApprovalCount (txApprovalCount + 2) txData txData' :=
    agreeOutside_putFields hput (by simp)
  have hcount : sliceAt txApprovalCount 2 txData' = leBytes 2 n :=
    sliceAt_written hput (by simp [InOrder]) (by simp) (leBytes_length ..)
  refine ⟨?_, ?_, ?_⟩
  · simp only [pollOf]
    rw [hcount, leValue_leBytes, Nat.mod_eq_of_lt hsmall]
  · simp only [pollOf]
    rw [hkept.slices txRejectionCount 2 (.inr (by decide))]
  · exact hkept.nthByte (.inr (by decide))

theorem pollOf_rejected {msData txData txData' : Bytes} {n : ℕ}
    (hput : putFields txData [(txRejectionCount, leBytes 2 n)] = .ok txData')
    (hsmall : n < 256 ^ 2) : (pollOf msData txData').no = n ∧
      (pollOf msData txData').yes = (pollOf msData txData).yes ∧
      nthByte txData' txStatus = nthByte txData txStatus := by
  have hkept : AgreeOutside txRejectionCount (txRejectionCount + 2) txData txData' :=
    agreeOutside_putFields hput (by simp)
  have hcount : sliceAt txRejectionCount 2 txData' = leBytes 2 n :=
    sliceAt_written hput (by simp [InOrder]) (by simp) (leBytes_length ..)
  refine ⟨?_, ?_, ?_⟩
  · simp only [pollOf]
    rw [hcount, leValue_leBytes, Nat.mod_eq_of_lt hsmall]
  · simp only [pollOf]
    rw [hkept.slices txApprovalCount 2 (.inl (by decide))]
  · exact hkept.nthByte (.inr (by decide))

theorem pollOf_closed {msData txData txData' : Bytes} {status : UInt8}
    (hput : putFields txData [(txStatus, [status])] = .ok txData') :
    (pollOf msData txData').yes = (pollOf msData txData).yes ∧
      (pollOf msData txData').no = (pollOf msData txData).no ∧
      nthByte txData' txStatus = status := by
  have hkept : AgreeOutside txStatus (txStatus + 1) txData txData' :=
    agreeOutside_putFields hput (by simp)
  refine ⟨?_, ?_, ?_⟩
  · simp only [pollOf]
    rw [hkept.slices txApprovalCount 2 (.inl (by decide))]
  · simp only [pollOf]
    rw [hkept.slices txRejectionCount 2 (.inl (by decide))]
  · exact nthByte_of_slice (sliceAt_written hput (by simp [InOrder]) (by simp) rfl)

/-- The two polls have the same rules, so their counts and outcomes decide. -/
theorem pollOf_eq_counted_yes {msData txData txData' : Bytes}
    (hyes : (pollOf msData txData').yes = leValue (sliceAt txApprovalCount 2 txData) + 1)
    (hno : (pollOf msData txData').no = (pollOf msData txData).no)
    (houtcome : (pollOf msData txData').outcome =
      if thresholdOf msData ≤ leValue (sliceAt txApprovalCount 2 txData) + 1 then .carried
      else .undecided) : pollOf msData txData' = (pollOf msData txData).counted true := by
  apply Poll.ext
  · rw [Poll.counted_electors]
    rfl
  · rw [Poll.counted_quorum]
    rfl
  · rw [Poll.counted_limit]
    rfl
  · rw [hyes, Poll.counted_yes]
    rfl
  · rw [hno, Poll.counted_no]
    rfl
  · rw [houtcome, Poll.counted_outcome_yes]
    rfl

theorem pollOf_eq_counted_no {msData txData txData' : Bytes}
    (hno : (pollOf msData txData').no = leValue (sliceAt txRejectionCount 2 txData) + 1)
    (hyes : (pollOf msData txData').yes = (pollOf msData txData).yes)
    (houtcome : (pollOf msData txData').outcome =
      if memberCountOf msData - thresholdOf msData + 1 ≤
        leValue (sliceAt txRejectionCount 2 txData) + 1 then .lost
      else .undecided) : pollOf msData txData' = (pollOf msData txData).counted false := by
  apply Poll.ext
  · rw [Poll.counted_electors]
    rfl
  · rw [Poll.counted_quorum]
    rfl
  · rw [Poll.counted_limit]
    rfl
  · rw [hyes, Poll.counted_yes]
    rfl
  · rw [hno, Poll.counted_no]
    rfl
  · rw [houtcome, Poll.counted_outcome_no]
    simp [pollOf]

/-! ## Approvals and rejections -/

/-- A call for the voucher of a transaction: on the multisig's dWallet, at the voucher's
address, on the terms that the transaction has. -/
def IsVoucher (d : Deployment) (msData txData : Bytes) (key : PublicKey)
    (invocation : Invocation) : Prop :=
  ∃ a c bump terms, CallTerms.read txData = .ok terms ∧ a.txAccount.key = key ∧
    voucherCall d a c bump terms = .ok invocation ∧
    c.dwallet.key.toBytes = sliceAt msDwallet 32 msData ∧
    d.createProgramAddress [textBytes "signature_voucher", key.toBytes,
      [terms.signatureVoucherBump]] d.programId = some c.signatureVoucher.key

/-- What `approve` or `reject` has done. Blank accounts may have come in while the ika
program ran. -/
structure Voted (d : Deployment) (accounts : List AccountInfo) (a : VoteAccounts) (yes : Bool)
    (bump : UInt8) (msData txData txData' record : Bytes) (w w' : World) : Prop where
  signed : a.member.isSigner = true
  verified : Verified d a.multisigAccount.key msData w
  member : a.member.key.toBytes ∈ membersOf msData
  multisig : sliceAt txMultisig 32 txData = a.multisigAccount.key.toBytes
  transaction : heldBy d.programId w.ledger a.txAccount.key = some txData
  discriminator : nthByte txData 0 = transactionDiscriminator
  undecided : (pollOf msData txData).outcome = .undecided
  new : heldBy d.programId w.ledger a.approvalRecordAccount.key = none
  after : Grown (Function.update (Function.update (heldBy d.programId w.ledger)
    a.approvalRecordAccount.key (some record)) a.txAccount.key (some txData'))
    (heldBy d.programId w'.ledger)
  kept : SameTransaction txData txData'
  counted : pollOf msData txData' = (pollOf msData txData).counted yes
  status : nthByte txData' txStatus ∈ [statusActive, statusApproved, statusRejected]
  read : ∀ {offset bytes width}, (offset, bytes) ∈ recordFields a.member.key a.txAccount.key
    (if yes then 1 else 0) bump → bytes.length = width → sliceAt offset width record = bytes
  address : Unsigned accounts a.approvalRecordAccount.key → findProgramAddress d
    [textBytes "approval", a.txAccount.key.toBytes, a.member.key.toBytes] =
      .ok (a.approvalRecordAccount.key, bump)
  issued : if (pollOf msData txData').outcome = .carried then
      ∃ invocation, IsVoucher d msData txData' a.txAccount.key invocation ∧
        w'.issued = w.issued ++ [invocation]
    else w'.issued = w.issued

theorem outcome_of_status {txData : Bytes} (msData : Bytes) {status : UInt8}
    (h : nthByte txData txStatus = status) : (pollOf msData txData).outcome = outcomeOf status := by
  unfold pollOf
  rw [h]

/-- What `issue_signature_voucher` or its future sibling, and the closing write, have done. -/
theorem issueAndClose_ok (hd : d.Sound) {a : VoteAccounts} {bump : UInt8} {terms : CallTerms}
    {txData : Bytes} (htx : heldBy d.programId w.ledger a.txAccount.key = some txData)
    (h : issueAndClose d accounts a bump terms w = .ok w') :
    ∃ c invocation txData', voucherCall d a c bump terms = .ok invocation ∧
      w'.issued = w.issued ++ [invocation] ∧
      c.dwallet.key.toBytes = sliceAt msDwallet 32 (w.ledger a.multisigAccount.key).data ∧
      d.createProgramAddress [textBytes "signature_voucher", a.txAccount.key.toBytes,
        [terms.signatureVoucherBump]] d.programId = some c.signatureVoucher.key ∧
      putFields txData [(txStatus, [statusApproved])] = .ok txData' ∧
      Grown (Function.update (heldBy d.programId w.ledger) a.txAccount.key (some txData'))
        (heldBy d.programId w'.ledger) := by
  obtain ⟨c, hc, h⟩ := bind_ok h
  obtain ⟨multisigDwallet, hdwallet, h⟩ := bind_ok h
  obtain ⟨hsame, h⟩ := ensure_bind_iff.mp h
  obtain ⟨hvoucher, h⟩ := ensure_bind_iff.mp h
  obtain ⟨called, hcalled, h⟩ := bind_ok h
  obtain ⟨invocation, hcall, hissued, hika⟩ := invokeIka_ok hcalled
  obtain ⟨txData', hwrote⟩ := writeFields_ok h
  have hgrown := (hd.owners invocation _ _ hika).grown
  have hbefore := hwrote.before
  rw [hgrown.kept htx] at hbefore
  have hput := hwrote.put
  rw [← Option.some.inj hbefore] at hput
  refine ⟨c, invocation, txData', hcall, hwrote.issued.trans hissued, ?_, hvoucher, hput, ?_⟩
  · rw [hsame, (readKey_ok hdwallet).2]
  · rw [hwrote.after]
    exact hgrown.update _ _

/-- The count of a vote that was recorded: the transaction is an account of the program. -/
theorem Recorded.counted {a : VoteAccounts} {approved bump : UInt8} {msData record : Bytes}
    {fields : List Field} {txData' : Bytes} {w₁ w₂ : World}
    (hrecorded : Recorded d accounts a approved bump msData (w.ledger a.txAccount.key).data record
      w w₁)
    (hwrote : Wrote d a.txAccount.key fields (w₁.ledger a.txAccount.key).data txData' w₁ w₂) :
    (w₁.ledger a.txAccount.key).data = (w.ledger a.txAccount.key).data ∧
      heldBy d.programId w.ledger a.txAccount.key = some (w.ledger a.txAccount.key).data ∧
      w₂.issued = w.issued ∧
      heldBy d.programId w₂.ledger = Function.update (Function.update (heldBy d.programId w.ledger)
        a.approvalRecordAccount.key (some record)) a.txAccount.key (some txData') := by
  have hbefore := hwrote.before
  rw [hrecorded.after, Function.update_of_ne hrecorded.ne] at hbefore
  have hsame := (heldBy_eq_some.mp hbefore).2
  refine ⟨hsame.symm, ?_, hwrote.issued.trans hrecorded.issued, ?_⟩
  · rw [hbefore, hsame]
  · rw [hwrote.after, hrecorded.after]

theorem Verified.ne_transaction {key key' : PublicKey} {msData txData : Bytes}
    (hms : Verified d key msData w) (htx : heldBy d.programId w.ledger key' = some txData)
    (hdisc : nthByte txData 0 = transactionDiscriminator) : key ≠ key' := by
  rintro rfl
  have hheld := hms.account
  rw [htx] at hheld
  have hms' := hms.discriminator
  rw [← Option.some.inj hheld, hdisc] at hms'
  exact absurd hms' (by decide)

theorem Verified.ne_new {key key' : PublicKey} {msData : Bytes} (hms : Verified d key msData w)
    (hnew : heldBy d.programId w.ledger key' = none) : key ≠ key' := by
  rintro rfl
  rw [hms.account] at hnew
  cases hnew

theorem approve_voted (hd : d.Sound) (h : approve d accounts data w = .ok w') :
    ∃ a msData txData txData' record, VoteAccounts.of accounts = .ok a ∧
      Voted d accounts a true (nthByte data 4) msData txData txData' record w w' := by
  obtain ⟨hlength, h⟩ := ensure_bind_iff.mp h
  obtain ⟨a, ha, h⟩ := bind_ok h
  obtain ⟨⟨⟨threshold, memberCount⟩, w₁⟩, hrecord, h⟩ := bind_ok h
  obtain ⟨approvals, happrovals, h⟩ := bind_ok h
  obtain ⟨newApprovals, hnew, h⟩ := bind_ok h
  obtain ⟨w₂, hwritten, h⟩ := bind_ok h
  obtain ⟨terms, hterms, h⟩ := bind_ok h
  obtain ⟨msData, record, hrecorded, rfl, -⟩ := recordVote_recorded hd hrecord
  obtain ⟨txData₁, hwrote⟩ := writeFields_ok hwritten
  obtain ⟨hsame, hheld, hissued, hafter⟩ := hrecorded.counted hwrote
  have hput := hwrote.put
  rw [hsame] at hput
  rw [hsame] at happrovals
  obtain ⟨-, rfl⟩ := readU16_ok happrovals
  obtain ⟨rfl, hsmall⟩ := checkedSucc_ok hnew
  obtain ⟨hyes, hno, hstatus⟩ := @pollOf_approved msData _ _ _ hput hsmall
  have houtcome := outcome_of_status msData (hstatus.trans hrecorded.active)
  have hkept : SameTransaction (w.ledger a.txAccount.key).data txData₁ :=
    agreeOutside_putFields hput (by simp; decide)
  have hlast : heldBy d.programId w₂.ledger a.txAccount.key = some txData₁ := by
    rw [hafter, Function.update_self]
  rw [(heldBy_eq_some.mp hlast).2] at hterms
  have hundecided := outcome_of_status msData hrecorded.active
  have hms : heldBy d.programId w₂.ledger a.multisigAccount.key = some msData := by
    rw [hafter, Function.update_of_ne (hrecorded.verified.ne_transaction hheld
      hrecorded.discriminator), Function.update_of_ne (hrecorded.verified.ne_new hrecorded.new)]
    exact hrecorded.verified.account
  split_ifs at h with hreached
  · obtain ⟨c, invocation, txData', hcall, hcalled, hdwallet, hvoucher, hclosed, hgrown⟩ :=
      issueAndClose_ok hd hlast h
    obtain ⟨hyes', hno', hstatus'⟩ := @pollOf_closed msData _ _ _ hclosed
    have houtcome' := outcome_of_status msData hstatus'
    have hkept' : SameTransaction txData₁ txData' :=
      agreeOutside_putFields hclosed (by simp; decide)
    refine ⟨a, msData, _, txData', record, ha, hrecorded.signed, hrecorded.verified,
      hrecorded.member, hrecorded.multisig, hheld, hrecorded.discriminator, hundecided,
      hrecorded.new, ?_, hkept.trans hkept', ?_, by simp [hstatus'], hrecorded.read,
      hrecorded.address, ?_⟩
    · rwa [hafter, Function.update_idem] at hgrown
    · apply pollOf_eq_counted_yes (hyes'.trans hyes) (hno'.trans hno)
      rw [houtcome', if_pos hreached]
      rfl
    · rw [houtcome', if_pos (by decide)]
      refine ⟨invocation, ⟨a, c, _, terms, ?_, rfl, hcall, ?_, hvoucher⟩, ?_⟩
      · rw [hkept'.terms, hterms]
      · rw [hdwallet, (heldBy_eq_some.mp hms).2]
      · rw [hcalled, hissued]
  · obtain rfl := Except.ok.inj h
    refine ⟨a, msData, _, txData₁, record, ha, hrecorded.signed, hrecorded.verified,
      hrecorded.member, hrecorded.multisig, hheld, hrecorded.discriminator, hundecided,
      hrecorded.new, ?_, hkept, ?_, by simp [hstatus, hrecorded.active], hrecorded.read,
      hrecorded.address, ?_⟩
    · rw [hafter]
      exact Grown.refl _
    · apply pollOf_eq_counted_yes hyes hno
      rw [houtcome, if_neg hreached]
      rfl
    · rw [houtcome, if_neg (by decide)]
      exact hissued

theorem reject_voted (hd : d.Sound) (h : reject d accounts data w = .ok w') :
    ∃ a msData txData txData' record, VoteAccounts.of accounts = .ok a ∧
      Voted d accounts a false (nthByte data 4) msData txData txData' record w w' := by
  obtain ⟨hlength, h⟩ := ensure_bind_iff.mp h
  obtain ⟨a, ha, h⟩ := bind_ok h
  obtain ⟨⟨⟨threshold, memberCount⟩, w₁⟩, hrecord, h⟩ := bind_ok h
  obtain ⟨rejections, hrejections, h⟩ := bind_ok h
  obtain ⟨newRejections, hnew, h⟩ := bind_ok h
  obtain ⟨w₂, hwritten, h⟩ := bind_ok h
  obtain ⟨hle, h⟩ := ensure_bind_iff.mp h
  obtain ⟨rejectionThreshold, hlimit, h⟩ := bind_ok h
  obtain ⟨msData, record, hrecorded, rfl, rfl⟩ := recordVote_recorded hd hrecord
  obtain ⟨txData₁, hwrote⟩ := writeFields_ok hwritten
  obtain ⟨hsame, hheld, hissued, hafter⟩ := hrecorded.counted hwrote
  have hput := hwrote.put
  rw [hsame] at hput
  rw [hsame] at hrejections
  obtain ⟨-, rfl⟩ := readU16_ok hrejections
  obtain ⟨rfl, hsmall⟩ := checkedSucc_ok hnew
  obtain ⟨rfl, -⟩ := checkedSucc_ok hlimit
  obtain ⟨hno, hyes, hstatus⟩ := @pollOf_rejected msData _ _ _ hput hsmall
  have houtcome := outcome_of_status msData (hstatus.trans hrecorded.active)
  have hkept : SameTransaction (w.ledger a.txAccount.key).data txData₁ :=
    agreeOutside_putFields hput (by simp; decide)
  have hundecided := outcome_of_status msData hrecorded.active
  split_ifs at h with hreached
  · obtain ⟨txData', hwrote'⟩ := writeFields_ok h
    have hput' := hwrote'.put
    have hbefore := hwrote'.before
    rw [hafter, Function.update_self] at hbefore
    rw [← Option.some.inj hbefore] at hput'
    obtain ⟨hyes', hno', hstatus'⟩ := @pollOf_closed msData _ _ _ hput'
    have houtcome' := outcome_of_status msData hstatus'
    have hkept' : SameTransaction txData₁ txData' :=
      agreeOutside_putFields hput' (by simp; decide)
    refine ⟨a, msData, _, txData', record, ha, hrecorded.signed, hrecorded.verified,
      hrecorded.member, hrecorded.multisig, hheld, hrecorded.discriminator, hundecided,
      hrecorded.new, ?_, hkept.trans hkept', ?_, by simp [hstatus'], hrecorded.read,
      hrecorded.address, ?_⟩
    · rw [hwrote'.after, hafter, Function.update_idem]
      exact Grown.refl _
    · apply pollOf_eq_counted_no (hno'.trans hno) (hyes'.trans hyes)
      rw [houtcome', if_pos hreached]
      rfl
    · rw [houtcome', if_neg (by decide)]
      exact hwrote'.issued.trans hissued
  · obtain rfl := Except.ok.inj h
    refine ⟨a, msData, _, txData₁, record, ha, hrecorded.signed, hrecorded.verified,
      hrecorded.member, hrecorded.multisig, hheld, hrecorded.discriminator, hundecided,
      hrecorded.new, ?_, hkept, ?_, by simp [hstatus, hrecorded.active], hrecorded.read,
      hrecorded.address, ?_⟩
    · rw [hafter]
      exact Grown.refl _
    · apply pollOf_eq_counted_no hno hyes
      rw [houtcome, if_neg hreached]
      rfl
    · rw [houtcome, if_neg (by decide)]
      exact hissued

end Ika.Programs.Multisig
