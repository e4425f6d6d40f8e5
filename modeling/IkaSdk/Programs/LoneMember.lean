import IkaSdk.Programs.MultisigSafety

/-! Votes that go through. A record that signs its call may stand at any unused address, so
one member can vote on a transaction as often as it takes, and alone have the voucher issued. -/

namespace Ika.Programs.Multisig

open Wire Ledgers Solana Crates Polls MultisigError

variable {d : Deployment} {w w' : World} {accounts : List AccountInfo}

/-! ## What a vote needs -/

/-- Everything that `record_vote` asks for. -/
structure CanVote (d : Deployment) (accounts : List AccountInfo) (a : VoteAccounts)
    (bump : UInt8) (msData txData : Bytes) (w : World) : Prop where
  signed : a.member.isSigner = true
  payer : a.payer ∈ accounts
  pays : a.payer.isSigner = true ∧ a.payer.isWritable = true
  system : ∃ s ∈ accounts, s.key = systemProgramId
  verified : Verified d a.multisigAccount.key msData w
  member : a.member.key.toBytes ∈ membersOf msData
  transaction : heldBy d.programId w.ledger a.txAccount.key = some txData
  txWritable : a.txAccount.isWritable = true
  length : transactionLen ≤ txData.length
  discriminator : nthByte txData 0 = transactionDiscriminator
  active : nthByte txData txStatus = statusActive
  multisig : sliceAt txMultisig 32 txData = a.multisigAccount.key.toBytes
  record : a.approvalRecordAccount ∈ accounts
  recordWritable : a.approvalRecordAccount.isWritable = true
  address : ∃ found, findProgramAddress d [textBytes "approval", a.txAccount.key.toBytes,
    a.member.key.toBytes] = .ok (found, bump) ∧
    signs accounts [found] a.approvalRecordAccount.key = true
  unused : Unused systemProgramId (w.ledger a.approvalRecordAccount.key)
  funds : CanPay systemProgramId (d.minimumBalance approvalRecordLen) (w.ledger a.payer.key)
  ne : a.payer.key ≠ a.approvalRecordAccount.key

theorem readKey_of {bytes : Bytes} {offset : ℕ} (h : offset + 32 ≤ bytes.length) :
    ∃ key, readKey bytes offset = .ok key :=
  ⟨_, dif_pos h⟩

theorem readU16_of {bytes : Bytes} {offset : ℕ} (h : offset + 2 ≤ bytes.length) :
    readU16 bytes offset = .ok (leValue (sliceAt offset 2 bytes)) := if_pos h

theorem verifyMultisig_of {multisig : AccountInfo} {msData : Bytes}
    (h : Verified d multisig.key msData w) : verifyMultisig d multisig w = .ok () := by
  obtain ⟨howner, hdata⟩ := heldBy_eq_some.mp h.account
  have hlength := h.length
  obtain ⟨dwallet, hdwallet⟩ := @readKey_of msData msDwallet
    (le_trans (by decide) hlength)
  have haddress := h.address
  rw [← (readKey_ok hdwallet).2] at haddress
  subst hdata
  unfold verifyMultisig
  rw [ensure_of howner, ok_bind]
  dsimp only
  rw [ensure_of ⟨hlength, h.discriminator⟩, ok_bind, hdwallet, ok_bind]
  exact ensure_of haddress

theorem isMember_of_mem {msData member : Bytes} (hlength : multisigLen ≤ msData.length)
    (h : member ∈ membersOf msData) : isMember msData member = true := by
  have hcount : msMemberCount + 2 ≤ msData.length := le_trans (by decide) hlength
  rw [isMember, if_pos hcount, List.any_eq_true]
  exact ⟨member, h, by simp⟩

/-- What a vote has done to the other accounts: the payer has paid for the record. -/
structure PaidFor (d : Deployment) (a : VoteAccounts) (w w' : World) : Prop where
  other : ∀ {key}, key ≠ a.approvalRecordAccount.key → key ≠ a.payer.key → key ≠ a.txAccount.key →
    w'.ledger key = w.ledger key
  payer : w'.ledger a.payer.key = { w.ledger a.payer.key with
    lamports := (w.ledger a.payer.key).lamports - d.minimumBalance approvalRecordLen }

theorem CanVote.ne_transaction {a : VoteAccounts} {bump : UInt8} {msData txData : Bytes}
    (hd : d.Sound) (h : CanVote d accounts a bump msData txData w) :
    a.txAccount.key ≠ a.approvalRecordAccount.key ∧ a.payer.key ≠ a.txAccount.key := by
  have howner := (heldBy_eq_some.mp h.transaction).1
  refine ⟨?_, ?_⟩
  · intro heq
    rw [heq, h.unused.owner] at howner
    exact hd.notSystem howner.symm
  · intro heq
    rw [← heq, h.funds.owner] at howner
    exact hd.notSystem howner.symm

theorem recordVote_of {a : VoteAccounts} {bump approved : UInt8} {msData txData : Bytes}
    (h : CanVote d accounts a bump msData txData w) :
    ∃ w', recordVote d accounts a bump approved w =
      .ok ((thresholdOf msData, memberCountOf msData), w') ∧ PaidFor d a w w' := by
  have hms := (heldBy_eq_some.mp h.verified.account).2
  have htx := (heldBy_eq_some.mp h.transaction).2
  have hlength := h.verified.length
  obtain ⟨found, hfound, hsigns⟩ := h.address
  obtain ⟨w₁, hmade⟩ := createPdaAccount_of (findProgramAddress_derives hfound) h.system h.payer
    h.pays h.record hsigns h.recordWritable h.unused h.funds h.ne
  have hpaid := createPdaAccount_ok hmade
  have hledger := hpaid.ledger
  obtain ⟨w₂, hwritten⟩ : ∃ w₂, writeFields d a.approvalRecordAccount
      (recordFields a.member.key a.txAccount.key approved bump) w₁ = .ok w₂ := by
    apply writeFields_of
    · rw [hledger]
      simp [allocated]
    · exact h.recordWritable
    · have hmember : a.member.key.toBytes.length = 32 := a.member.key.length_eq
      have htransaction : a.txAccount.key.toBytes.length = 32 := a.txAccount.key.length_eq
      rw [hledger]
      simp [allocated, recordFields, hmember, htransaction, approvalRecordLen, arMember,
        arTransaction, arApproved, arBump]
  obtain ⟨record, hwrote⟩ := writeFields_ok hwritten
  refine ⟨w₂, ?_, ?_, ?_⟩
  · subst hms htx
    unfold recordVote
    rw [ensure_of h.signed, ok_bind, ensure_of h.pays, ok_bind, verifyMultisig_of h.verified,
      ok_bind]
    dsimp only
    rw [ensure_of (isMember_of_mem hlength h.member), ok_bind,
      readU16_of (le_trans (by decide) hlength), ok_bind,
      readU16_of (le_trans (by decide) hlength), ok_bind,
      ensure_of ⟨h.length, h.discriminator⟩, ok_bind, ensure_of h.active, ok_bind,
      ensure_of h.multisig, ok_bind, (requireCanonicalBump_iff (u := ())).mpr ⟨found, hfound⟩,
      ok_bind, hmade, ok_bind, hwritten, ok_bind]
    rfl
  · intro key hrecord hpayer _
    rw [hwrote.ledger, setData_other _ _ hrecord, hpaid.other hrecord hpayer]
  · rw [hwrote.ledger, setData_other _ _ h.ne, hpaid.payer h.ne]

theorem CallTerms.read_of {txData : Bytes} (h : transactionLen ≤ txData.length) :
    ∃ terms, CallTerms.read txData = .ok terms := by
  obtain ⟨messageHash, hhash⟩ := @readKey_of txData txMessageHash (le_trans (by decide) h)
  obtain ⟨userPubkey, hkey⟩ := @readKey_of txData txUserPubkey (le_trans (by decide) h)
  obtain ⟨proposer, hproposer⟩ := @readKey_of txData txProposer (le_trans (by decide) h)
  exact exists_ok_bind hhash (exists_ok_bind hkey (exists_ok_bind
    (readU16_of (le_trans (by decide) h)) (exists_ok_bind hproposer ⟨_, rfl⟩)))

/-- An approval up to where the threshold is compared: the vote is recorded and counted. -/
structure Counted (d : Deployment) (accounts : List AccountInfo) (a : VoteAccounts)
    (bump : UInt8) (msData txData txData' : Bytes) (w w' : World) : Prop where
  votes : ∃ w₁, recordVote d accounts a bump 1 w =
    .ok ((thresholdOf msData, memberCountOf msData), w₁) ∧
    (w₁.ledger a.txAccount.key).data = txData ∧ writeFields d a.txAccount
      [(txApprovalCount, leBytes 2 (leValue (sliceAt txApprovalCount 2 txData) + 1))] w₁ = .ok w'
  put : putFields txData
    [(txApprovalCount, leBytes 2 (leValue (sliceAt txApprovalCount 2 txData) + 1))] = .ok txData'
  paid : PaidFor d a w w'
  issued : w'.issued = w.issued
  transaction : heldBy d.programId w'.ledger a.txAccount.key = some txData'

theorem counted_of (hd : d.Sound) {a : VoteAccounts} {bump : UInt8} {msData txData : Bytes}
    (h : CanVote d accounts a bump msData txData w) :
    ∃ txData' w', Counted d accounts a bump msData txData txData' w w' := by
  obtain ⟨w₁, hvote, hpaid⟩ := @recordVote_of _ _ _ _ _ 1 _ _ h
  obtain ⟨msData', record, hrecorded, -, -⟩ := recordVote_recorded hd hvote
  obtain ⟨hne, hpayer⟩ := h.ne_transaction hd
  have hheld : heldBy d.programId w₁.ledger a.txAccount.key = some txData := by
    rw [hrecorded.after, Function.update_of_ne hne]
    exact h.transaction
  obtain ⟨howner, hdata⟩ := heldBy_eq_some.mp hheld
  have hlength := h.length
  obtain ⟨w', hwritten⟩ : ∃ w', writeFields d a.txAccount [(txApprovalCount,
      leBytes 2 (leValue (sliceAt txApprovalCount 2 txData) + 1))] w₁ = .ok w' := by
    apply writeFields_of howner h.txWritable
    have hfits : txApprovalCount + 2 ≤ txData.length := le_trans (by decide) hlength
    simpa [hdata] using hfits
  obtain ⟨txData', hwrote⟩ := writeFields_ok hwritten
  have hput := hwrote.put
  rw [hdata] at hput
  refine ⟨txData', w', ⟨w₁, hvote, hdata, hwritten⟩, hput, ⟨?_, ?_⟩,
    hwrote.issued.trans hrecorded.issued, ?_⟩
  · intro key hrecord hpayer' htx
    rw [hwrote.ledger, setData_other _ _ htx, hpaid.other hrecord hpayer' htx]
  · rw [hwrote.ledger, setData_other _ _ hpayer, hpaid.payer]
  · rw [hwrote.after, Function.update_self]

/-- What `approve` does after that. -/
theorem approve_eq {a : VoteAccounts} {data msData txData txData' : Bytes} {terms : CallTerms}
    (hlength : 6 ≤ data.length) (ha : VoteAccounts.of accounts = .ok a)
    (h : Counted d accounts a (nthByte data 4) msData txData txData' w w')
    (hcount : leValue (sliceAt txApprovalCount 2 txData) + 1 < 256 ^ 2)
    (hfits : transactionLen ≤ txData.length) (hterms : CallTerms.read txData' = .ok terms) :
    approve d accounts data w =
      if thresholdOf msData ≤ leValue (sliceAt txApprovalCount 2 txData) + 1 then
        issueAndClose d accounts a (nthByte data 5) terms w'
      else .ok w' := by
  obtain ⟨w₁, hvote, hdata, hwritten⟩ := h.votes
  have hread : readU16 (w₁.ledger a.txAccount.key).data txApprovalCount =
      .ok (leValue (sliceAt txApprovalCount 2 txData)) := by
    rw [hdata, readU16_of (le_trans (by decide) hfits)]
  have hsucc : checkedSucc 2 (leValue (sliceAt txApprovalCount 2 txData)) =
      .ok (leValue (sliceAt txApprovalCount 2 txData) + 1) := if_pos hcount
  have hlast := (heldBy_eq_some.mp h.transaction).2
  unfold approve
  rw [ensure_of hlength, ok_bind]
  dsimp only
  rw [ha, ok_bind, hvote, ok_bind]
  dsimp only
  rw [hread, ok_bind, hsucc, ok_bind, hwritten, ok_bind, hlast, hterms, ok_bind]
  rfl

/-! ## One member alone -/

/-- A member who votes alone, with the accounts that its calls need. -/
structure Loner where
  multisigAccount : PublicKey
  txAccount : PublicKey
  member : PublicKey
  payer : PublicKey
  coordinator : PublicKey
  signatureVoucher : PublicKey
  dwallet : PublicKey
  cpiAuthority : PublicKey
  approvalRecordBump : UInt8
  cpiAuthorityBump : UInt8

def Loner.vote (p : Loner) (d : Deployment) (record : PublicKey) : VoteAccounts where
  multisigAccount := ⟨p.multisigAccount, false, false⟩
  txAccount := ⟨p.txAccount, false, true⟩
  approvalRecordAccount := ⟨record, true, true⟩
  member := ⟨p.member, true, false⟩
  payer := ⟨p.payer, true, true⟩
  systemProgram := ⟨systemProgramId, false, false⟩
  rest := [⟨p.coordinator, false, false⟩, ⟨p.signatureVoucher, false, true⟩,
    ⟨p.dwallet, false, false⟩, ⟨d.programId, false, false⟩, ⟨p.cpiAuthority, false, false⟩,
    ⟨d.ikaProgramId, false, false⟩]

def Loner.voucher (p : Loner) (d : Deployment) : CallAccounts where
  coordinator := ⟨p.coordinator, false, false⟩
  signatureVoucher := ⟨p.signatureVoucher, false, true⟩
  dwallet := ⟨p.dwallet, false, false⟩
  callerProgram := ⟨d.programId, false, false⟩
  cpiAuthority := ⟨p.cpiAuthority, false, false⟩
  dwalletProgram := ⟨d.ikaProgramId, false, false⟩

/-- An approval whose record is an account with a signature of its own. -/
def Loner.call (p : Loner) (d : Deployment) (record : PublicKey) : Call where
  accounts :=
    let a := p.vote d record
    [a.multisigAccount, a.txAccount, a.approvalRecordAccount, a.member, a.payer,
      a.systemProgram] ++ a.rest
  data := [2, 0, 0, 0, 0, p.approvalRecordBump, p.cpiAuthorityBump]

/-- The member's transaction is open, and there is an unused address with a key for every
approval that it lacks. -/
structure Able (d : Deployment) (p : Loner) (msData txData : Bytes) (records : List PublicKey)
    (reserve : ℕ) (w : World) : Prop where
  verified : Verified d p.multisigAccount msData w
  member : p.member.toBytes ∈ membersOf msData
  transaction : heldBy d.programId w.ledger p.txAccount = some txData
  length : transactionLen ≤ txData.length
  discriminator : nthByte txData 0 = transactionDiscriminator
  active : nthByte txData txStatus = statusActive
  multisig : sliceAt txMultisig 32 txData = p.multisigAccount.toBytes
  lacks : leValue (sliceAt txApprovalCount 2 txData) + records.length = thresholdOf msData
  record : ∃ found, findProgramAddress d [textBytes "approval", p.txAccount.toBytes,
    p.member.toBytes] = .ok (found, p.approvalRecordBump)
  unused : ∀ record ∈ records, Unused systemProgramId (w.ledger record)
  nodup : records.Nodup
  payer : p.payer ∉ records
  funds : CanPay systemProgramId
    (records.length * d.minimumBalance approvalRecordLen + reserve) (w.ledger p.payer)
  dwallet : p.dwallet.toBytes = sliceAt msDwallet 32 msData
  voucher : d.createProgramAddress [textBytes "signature_voucher", p.txAccount.toBytes,
    [nthByte txData txSignatureVoucherBump]] d.programId = some p.signatureVoucher
  cpiAuthority : d.createProgramAddress [Pinocchio.cpiAuthoritySeed, [p.cpiAuthorityBump]]
    d.programId = some p.cpiAuthority

/-- The ika program takes the voucher call, whatever the votes have done to the ledger before. -/
def Accepts (d : Deployment) (p : Loner) (txData : Bytes) (records : List PublicKey)
    (reserve : ℕ) (w : World) : Prop :=
  ∀ record terms invocation L, CallTerms.read txData = .ok terms →
    voucherCall d (p.vote d record) (p.voucher d) p.cpiAuthorityBump terms = .ok invocation →
    (∀ key, key ∉ records → key ≠ p.payer → key ≠ p.txAccount → L key = w.ledger key) →
    reserve ≤ (L p.payer).lamports → ∃ L', d.ika invocation L = .ok L'

variable {p : Loner} {msData txData : Bytes} {record : PublicKey} {records : List PublicKey}
  {reserve : ℕ}

theorem Loner.of_vote (p : Loner) (d : Deployment) (record : PublicKey) :
    VoteAccounts.of (p.call d record).accounts = .ok (p.vote d record) := rfl

/-- Each of the calls is a vote of the member, and nobody signs it but the member, the payer and
the record. -/
theorem Loner.votes (p : Loner) (d : Deployment) (record : PublicKey) :
    Votes (p.call d record) true p.txAccount p.member.toBytes ∧
      ∀ a ∈ (p.call d record).accounts, a.isSigner = true →
        a.key ∈ [p.member, p.payer, record] := by
  refine ⟨⟨rfl, p.vote d record, rfl, rfl, rfl, rfl⟩, ?_⟩
  simp [Loner.call, Loner.vote]

theorem Able.canVote (h : Able d p msData txData (record :: records) reserve w) :
    CanVote d (p.call d record).accounts (p.vote d record) p.approvalRecordBump msData txData
      w := by
  obtain ⟨found, hfound⟩ := h.record
  have hpayer := List.ne_of_not_mem_cons h.payer
  have hfunds := h.funds.funds
  rw [List.length_cons, Nat.add_one_mul] at hfunds
  have hrent := le_trans (by omega : d.minimumBalance approvalRecordLen ≤ _) hfunds
  refine ⟨rfl, ?_, ⟨rfl, rfl⟩, ?_, h.verified, h.member, h.transaction, rfl, h.length,
    h.discriminator, h.active, h.multisig, ?_, rfl, ⟨found, hfound, ?_⟩,
    h.unused record List.mem_cons_self, ⟨h.funds.data, h.funds.owner, hrent⟩, hpayer⟩
  · simp [Loner.call]
  · exact ⟨(p.vote d record).systemProgram, by simp [Loner.call], rfl⟩
  · simp [Loner.call]
  · exact @signs_of_mem _ _ (p.vote d record).approvalRecordAccount (by simp [Loner.call]) rfl

theorem Able.ne_record (hd : d.Sound) (h : Able d p msData txData records reserve w)
    {key : PublicKey} {data : Bytes} (hheld : heldBy d.programId w.ledger key = some data) :
    key ∉ records ∧ key ≠ p.payer := by
  have howner := (heldBy_eq_some.mp hheld).1
  refine ⟨?_, ?_⟩
  · intro hmem
    rw [(h.unused key hmem).owner] at howner
    exact hd.notSystem howner.symm
  · intro heq
    rw [heq, h.funds.owner] at howner
    exact hd.notSystem howner.symm

theorem Able.count_lt (h : Able d p msData txData (record :: records) reserve w) :
    leValue (sliceAt txApprovalCount 2 txData) + 1 < 256 ^ 2 := by
  have hlacks := h.lacks
  have hthreshold : thresholdOf msData < 256 ^ 2 := by
    have hlength := h.verified.length
    have hfits : msThreshold + 2 ≤ msData.length := le_trans (by decide) hlength
    have hlt := leValue_lt (sliceAt msThreshold 2 msData)
    rwa [length_sliceAt hfits] at hlt
  rw [List.length_cons] at hlacks
  omega

/-- A vote that was counted leaves everything as the next one needs it. -/
theorem Able.counted (hd : d.Sound) {txData' : Bytes} {w₂ : World}
    (h : Able d p msData txData (record :: records) reserve w)
    (hcounted : Counted d (p.call d record).accounts (p.vote d record) p.approvalRecordBump msData
      txData txData' w w₂) :
    SameTransaction txData txData' ∧ Able d p msData txData' records reserve w₂ := by
  have hput := hcounted.put
  have hpaid := hcounted.paid
  obtain ⟨hyes, -, hstatus⟩ := @pollOf_approved msData _ _ _ hput h.count_lt
  have hkept : SameTransaction txData txData' := agreeOutside_putFields hput (by simp; decide)
  have hlacks := h.lacks
  have hfunds := h.funds.funds
  have hne := h.ne_record hd h.verified.account
  have htx := h.ne_record hd h.transaction
  have hnodup := List.nodup_cons.mp h.nodup
  have hother : ∀ {key}, key ≠ record → key ≠ p.payer → key ≠ p.txAccount →
      w₂.ledger key = w.ledger key := hpaid.other
  have hpayer : w₂.ledger p.payer = { w.ledger p.payer with
    lamports := (w.ledger p.payer).lamports - d.minimumBalance approvalRecordLen } := hpaid.payer
  rw [List.length_cons] at hlacks
  rw [List.length_cons, Nat.add_one_mul] at hfunds
  refine ⟨hkept, ⟨⟨?_, h.verified.length, h.verified.discriminator, h.verified.address⟩, h.member,
    hcounted.transaction, ?_, ?_, hstatus.trans h.active, ?_, ?_, h.record, ?_, hnodup.2,
    fun hmem => h.payer (List.mem_cons_of_mem _ hmem), ⟨?_, ?_, ?_⟩, h.dwallet, ?_,
    h.cpiAuthority⟩⟩
  · have hms := h.verified.account
    have hsame : w₂.ledger p.multisigAccount = w.ledger p.multisigAccount :=
      hother (List.ne_of_not_mem_cons hne.1) hne.2
        (h.verified.ne_transaction h.transaction h.discriminator)
    unfold heldBy at hms ⊢
    rw [hsame]
    exact hms
  · rw [AgreeOutside.length hkept]
    exact h.length
  · rw [AgreeOutside.nthByte hkept (.inl (by decide))]
    exact h.discriminator
  · rw [AgreeOutside.slices hkept txMultisig 32 (.inl (by decide))]
    exact h.multisig
  · have hcount : leValue (sliceAt txApprovalCount 2 txData') = _ := hyes
    omega
  · intro other hmem
    have hcons := List.mem_cons_of_mem record hmem
    rw [hother (fun heq => hnodup.1 (heq ▸ hmem)) (fun heq => h.payer (heq ▸ hcons))
      (fun heq => htx.1 (heq ▸ hcons))]
    exact h.unused other hcons
  · rw [hpayer]
    exact h.funds.data
  · rw [hpayer]
    exact h.funds.owner
  · rw [hpayer]
    exact Nat.le_sub_of_add_le (le_trans (by omega) hfunds)
  · rw [AgreeOutside.nthByte hkept (.inr (by decide))]
    exact h.voucher

theorem Accepts.counted {txData' : Bytes} {w₂ : World}
    (hika : Accepts d p txData (record :: records) reserve w)
    (hsame : SameTransaction txData txData') (hpaid : PaidFor d (p.vote d record) w w₂) :
    Accepts d p txData' records reserve w₂ := by
  intro other terms invocation L hterms hcall hledger hreserve
  rw [hsame.terms] at hterms
  apply hika other terms invocation L hterms hcall _ hreserve
  intro key hrecords hpayer htx
  rw [List.mem_cons, not_or] at hrecords
  rw [hledger key hrecords.2 hpayer htx]
  exact hpaid.other hrecords.1 hpayer htx

/-- The call of a voucher: the program it is for, the accounts it needs, and what it is signed
with. -/
structure VoucherInvocation (program : PublicKey) (ctx : DWalletContext) (a : IssueAccounts)
    (seeds : List Bytes) (invocation : Invocation) : Prop where
  program : invocation.instruction.programId = program
  accounts : invocation.instruction.accounts = [
    AccountMeta.newReadonly a.coordinator false,
    AccountMeta.new a.signatureVoucher true,
    AccountMeta.newReadonly a.dwallet false,
    AccountMeta.newReadonly ctx.callerProgram false,
    AccountMeta.newReadonly ctx.cpiAuthority true,
    AccountMeta.new a.payer true,
    AccountMeta.newReadonly a.systemProgram false]
  seeds : invocation.signersSeeds =
    [[Pinocchio.cpiAuthoritySeed, [ctx.cpiAuthorityBump]], seeds]

theorem issueVoucher_of {ID : PublicKey} {ctx : DWalletContext} {discriminator : UInt8}
    {a : IssueAccounts} {digest metadata : Bytes32} {scheme : UInt16} {keys : VoucherKeys}
    {seeds : List Bytes} (h : ctx.dwalletProgram = ID) :
    ∃ invocation, Pinocchio.issueVoucher ID ctx discriminator a digest metadata scheme keys
      (some seeds) = .ok invocation ∧ VoucherInvocation ID ctx a seeds invocation := by
  unfold Pinocchio.issueVoucher Pinocchio.requireIkaProgram
  rw [if_neg (not_not.mpr h)]
  exact ⟨_, rfl, h, rfl, rfl⟩

theorem voucherCall_of (hcrate : d.crate = .native ∨ d.crate = .pinocchio) (a : VoteAccounts)
    (c : CallAccounts) (bump : UInt8) (terms : CallTerms)
    (hika : c.dwalletProgram.key = d.ikaProgramId) :
    ∃ invocation, voucherCall d a c bump terms = .ok invocation ∧
      VoucherInvocation d.ikaProgramId
        ⟨c.dwalletProgram.key, c.cpiAuthority.key, c.callerProgram.key, bump⟩
        ⟨c.coordinator.key, c.signatureVoucher.key, c.dwallet.key, a.payer.key,
          a.systemProgram.key⟩
        [textBytes "signature_voucher", a.txAccount.key.toBytes, [terms.signatureVoucherBump]]
        invocation := by
  -- the two crates make the same calls
  have hpinocchio : d.crate = .pinocchio := hcrate.elim id id
  unfold voucherCall
  rw [hpinocchio]
  by_cases hfuture : terms.futureSign = true
  · rw [if_pos hfuture]
    exact issueVoucher_of hika
  · rw [if_neg hfuture]
    exact issueVoucher_of hika

/-- The member's accounts are all that the voucher call needs. -/
theorem Loner.granted (p : Loner) (d : Deployment) (record : PublicKey) {invocation : Invocation}
    {bump : UInt8} {seeds : List Bytes}
    (h : VoucherInvocation d.ikaProgramId
      ⟨d.ikaProgramId, p.cpiAuthority, d.programId, bump⟩
      ⟨p.coordinator, p.signatureVoucher, p.dwallet, p.payer, systemProgramId⟩ seeds invocation) :
    ∀ needed ∈ invocation.instruction.accounts,
      Granted (p.call d record).accounts [p.cpiAuthority, p.signatureVoucher] needed := by
  intro needed hneeded
  rw [h.accounts] at hneeded
  simp only [List.mem_cons, List.not_mem_nil, or_false] at hneeded
  obtain rfl | rfl | rfl | rfl | rfl | rfl | rfl := hneeded <;>
    simp [Granted, Loner.call, Loner.vote, AccountMeta.new, AccountMeta.newReadonly, signs, writes]

/-- The last approval: the ika program is called, and the transaction is closed. -/
theorem issueAndClose_of (hd : d.Sound) (hcrate : d.crate = .native ∨ d.crate = .pinocchio)
    (h : Able d p msData txData [] reserve w) (hika : Accepts d p txData [] reserve w)
    {terms : CallTerms} (hterms : CallTerms.read txData = .ok terms) :
    ∃ w', issueAndClose d (p.call d record).accounts (p.vote d record) p.cpiAuthorityBump terms w =
      .ok w' := by
  have hms := (heldBy_eq_some.mp h.verified.account).2
  have hlength := h.verified.length
  obtain ⟨dwallet, hdwallet⟩ := @readKey_of msData msDwallet (le_trans (by decide) hlength)
  have hsame : p.dwallet.toBytes = dwallet.val := h.dwallet.trans (readKey_ok hdwallet).2.symm
  have hvoucher := h.voucher
  rw [← (CallTerms.read_ok hterms).2.2.2.1] at hvoucher
  obtain ⟨invocation, hcall, hinvocation⟩ := voucherCall_of hcrate (p.vote d record) (p.voucher d)
    p.cpiAuthorityBump terms rfl
  have hreserve := h.funds.funds
  rw [List.length_nil, Nat.zero_mul, Nat.zero_add] at hreserve
  obtain ⟨L, hL⟩ := hika record terms _ w.ledger hterms hcall (fun _ _ _ _ => rfl) hreserve
  have hderived : invocation.signersSeeds.mapM (signerKey d) =
      .ok [p.cpiAuthority, p.signatureVoucher] := by
    rw [hinvocation.seeds]
    simp [signerKey, h.cpiAuthority, Loner.vote, hvoucher]
  have hprogram : ∃ a ∈ (p.call d record).accounts, a.key = invocation.instruction.programId := by
    rw [hinvocation.program]
    exact ⟨⟨d.ikaProgramId, false, false⟩, by simp [Loner.call, Loner.vote], rfl⟩
  have hinvoked := invokeIka_of hcall hderived hprogram (p.granted d record hinvocation) hL
  have hkept := (hd.owners _ _ _ hL).grown.kept h.transaction
  obtain ⟨howner, hdata⟩ := heldBy_eq_some.mp hkept
  have hwritten : ∃ w', writeFields d (p.vote d record).txAccount [(txStatus, [statusApproved])]
      ⟨L, w.issued ++ [invocation]⟩ = .ok w' := by
    apply writeFields_of howner rfl
    have hfits : txStatus + 1 ≤ txData.length := le_trans (by decide) h.length
    simpa [Loner.vote, hdata] using hfits
  have hrest : CallAccounts.of (p.vote d record).rest = .ok (p.voucher d) := rfl
  have hread : readKey (w.ledger (p.vote d record).multisigAccount.key).data msDwallet =
      .ok dwallet := by
    rw [← hdwallet, ← hms]
    rfl
  unfold issueAndClose
  apply exists_ok_bind hrest
  apply exists_ok_bind hread
  apply exists_ok_bind (ensure_of hsame)
  apply exists_ok_bind (ensure_of hvoucher)
  exact exists_ok_bind hinvoked hwritten

/-- An approval of the member is counted, and what follows is up to the threshold. -/
theorem Able.counts (hd : d.Sound) (h : Able d p msData txData (record :: records) reserve w)
    (hika : Accepts d p txData (record :: records) reserve w) :
    ∃ txData' w', w'.issued = w.issued ∧ SameTransaction txData txData' ∧
      Able d p msData txData' records reserve w' ∧ Accepts d p txData' records reserve w' ∧
      ∃ terms, CallTerms.read txData' = .ok terms ∧ process d (p.call d record) w =
        if records = [] then issueAndClose d (p.call d record).accounts (p.vote d record)
          p.cpiAuthorityBump terms w'
        else .ok w' := by
  obtain ⟨txData', w', hcounted⟩ := counted_of hd h.canVote
  obtain ⟨hsame, hable⟩ := h.counted hd hcounted
  obtain ⟨terms, hterms⟩ := CallTerms.read_of hable.length
  have hlacks := h.lacks
  rw [List.length_cons] at hlacks
  have hreached : thresholdOf msData ≤ leValue (sliceAt txApprovalCount 2 txData) + 1 ↔
      records = [] := by
    rw [← List.length_eq_zero_iff]
    omega
  refine ⟨txData', w', hcounted.issued, hsame, hable, hika.counted hsame hcounted.paid, terms,
    hterms, ?_⟩
  rw [← if_congr hreached rfl rfl]
  exact approve_eq le_rfl (p.of_vote d record) hcounted h.count_lt h.length hterms

/-- The transaction is approved, and its voucher is the last call of the ika program. -/
def Approved (d : Deployment) (key : PublicKey) (msData : Bytes) (issued : List Invocation)
    (w : World) : Prop :=
  ∃ txData invocation, heldBy d.programId w.ledger key = some txData ∧
    nthByte txData txStatus = statusApproved ∧ w.issued = issued ++ [invocation] ∧
    IsVoucher d msData txData key invocation

/-- The last approval. -/
theorem Able.approves (hd : d.Sound) (hcrate : d.crate = .native ∨ d.crate = .pinocchio)
    (h : Able d p msData txData [record] reserve w) (hika : Accepts d p txData [record] reserve w) :
    ∃ w', process d (p.call d record) w = .ok w' ∧
      Approved d p.txAccount msData w.issued w' := by
  obtain ⟨txData', w₂, hissued, -, hable, hika', terms, hterms, hprocess⟩ := h.counts hd hika
  obtain ⟨w', hclosed⟩ := @issueAndClose_of _ _ _ _ _ record _ hd hcrate hable hika' _ hterms
  obtain ⟨c, invocation, txData'', hcall, hissued', hdwallet, hvoucher, hput, hgrown⟩ :=
    issueAndClose_ok hd hable.transaction hclosed
  have hkept : SameTransaction txData' txData'' := agreeOutside_putFields hput (by simp; decide)
  have hms : (w₂.ledger p.multisigAccount).data = msData :=
    (heldBy_eq_some.mp hable.verified.account).2
  rw [if_pos rfl, hclosed] at hprocess
  refine ⟨w', hprocess, txData'', invocation, hgrown.kept (Function.update_self ..),
    (@pollOf_closed msData _ _ _ hput).2.2, ?_, p.vote d record, c, p.cpiAuthorityBump, terms,
    ?_, rfl, hcall, ?_, hvoucher⟩
  · rw [hissued', hissued]
  · rw [hkept.terms, hterms]
  · rw [hdwallet, ← hms]
    rfl

/-- In any run, a member with an unused address for every approval that an open transaction
lacks has it approved alone, and its voucher issued: `record_vote` makes the record at whatever
account signs for itself. -/
theorem lone_member (hd : d.Sound) (hcrate : d.crate = .native ∨ d.crate = .pinocchio)
    {calls : List Call} (hrun : Run (process d) d calls w) (hne : records ≠ [])
    (h : Able d p msData txData records reserve w) (hika : Accepts d p txData records reserve w) :
    ∃ w', Run (process d) d (calls ++ records.map (p.call d)) w' ∧
      Approved d p.txAccount msData w.issued w' ∧
      ∀ c ∈ records.map (p.call d), Votes c true p.txAccount p.member.toBytes ∧
        ∀ a ∈ c.accounts, a.isSigner = true → a.key ∈ p.member :: p.payer :: records := by
  obtain ⟨w', hrun', happroved⟩ : ∃ w', Run (process d) d (calls ++ records.map (p.call d)) w' ∧
      Approved d p.txAccount msData w.issued w' := by
    induction records generalizing calls txData w with
    | nil => exact absurd rfl hne
    | cons record records ih =>
      by_cases hlast : records = []
      · subst hlast
        obtain ⟨w', hprocess, happroved⟩ := h.approves hd hcrate hika
        exact ⟨w', hrun.call hprocess, happroved⟩
      · obtain ⟨txData', w₂, hissued, -, hable, hika', terms, -, hprocess⟩ := h.counts hd hika
        rw [if_neg hlast] at hprocess
        obtain ⟨w', hrun', happroved⟩ := ih (hrun.call hprocess) hlast hable hika'
        rw [hissued] at happroved
        refine ⟨w', ?_, happroved⟩
        rwa [List.map_cons, List.append_cons]
  refine ⟨w', hrun', happroved, ?_⟩
  intro c hc
  obtain ⟨record, hrecord, rfl⟩ := List.mem_map.mp hc
  obtain ⟨hvotes, hsigners⟩ := p.votes d record
  refine ⟨hvotes, ?_⟩
  intro a ha hsigner
  have hmem := hsigners a ha hsigner
  simp only [List.mem_cons, List.not_mem_nil, or_false] at hmem ⊢
  obtain hmember | hpayer | hkey := hmem
  · exact .inl hmember
  · exact .inr (.inl hpayer)
  · exact .inr (.inr (hkey ▸ hrecord))

def sampleLoner : Loner where
  multisigAccount := sampleMultisig
  txAccount := sampleTransaction
  member := repeatedKey 2
  payer := repeatedKey 3
  coordinator := repeatedKey 20
  signatureVoucher := sampleVoucher
  dwallet := repeatedKey 10
  cpiAuthority := sampleAuthority
  approvalRecordBump := 255
  cpiAuthorityBump := 255

def sampleRecords : List PublicKey := [repeatedKey 30, repeatedKey 31]

def sampleOpenMultisig : Bytes := (sampleOpen.ledger sampleMultisig).data

def sampleOpenTransaction : Bytes := (sampleOpen.ledger sampleTransaction).data

theorem sampleOpen_facts :
    heldBy sampleDeployment.programId sampleOpen.ledger sampleMultisig = some sampleOpenMultisig ∧
    (multisigLen ≤ sampleOpenMultisig.length ∧
      nthByte sampleOpenMultisig 0 = multisigDiscriminator ∧
      sampleLoner.dwallet.toBytes = sliceAt msDwallet 32 sampleOpenMultisig ∧
      nthByte sampleOpenMultisig msBump = 255 ∧
      sampleLoner.member.toBytes ∈ membersOf sampleOpenMultisig) ∧
    heldBy sampleDeployment.programId sampleOpen.ledger sampleTransaction =
      some sampleOpenTransaction ∧
    (transactionLen ≤ sampleOpenTransaction.length ∧
      nthByte sampleOpenTransaction 0 = transactionDiscriminator ∧
      nthByte sampleOpenTransaction txStatus = statusActive ∧
      sliceAt txMultisig 32 sampleOpenTransaction = sampleMultisig.toBytes ∧
      nthByte sampleOpenTransaction txSignatureVoucherBump = 255 ∧
      leValue (sliceAt txApprovalCount 2 sampleOpenTransaction) + sampleRecords.length =
        thresholdOf sampleOpenMultisig) ∧
    (∀ key ∈ sampleVoucher :: sampleRecords, (sampleOpen.ledger key).lamports = 0 ∧
      (sampleOpen.ledger key).data = [] ∧ (sampleOpen.ledger key).owner = systemProgramId) ∧
    (sampleOpen.ledger sampleLoner.payer).data = [] ∧
    (sampleOpen.ledger sampleLoner.payer).owner = systemProgramId ∧
    sampleRecords.length * sampleDeployment.minimumBalance approvalRecordLen + 0 ≤
      (sampleOpen.ledger sampleLoner.payer).lamports := by
  decide +kernel

theorem sampleLoner_able : Able sampleDeployment sampleLoner sampleOpenMultisig
    sampleOpenTransaction sampleRecords 0 sampleOpen := by
  obtain ⟨hms, ⟨hmsLength, hmsDisc, hdwallet, hbump, hmember⟩, htx, ⟨hlength, hdisc, hactive,
    hmultisig, hvoucher, hlacks⟩, hunused, hdata, howner, hlamports⟩ := sampleOpen_facts
  refine ⟨⟨hms, hmsLength, hmsDisc, ?_⟩, hmember, htx, hlength, hdisc, hactive, hmultisig, hlacks,
    ⟨_, rfl⟩, ?_, by decide, by decide, ⟨hdata, howner, hlamports⟩, hdwallet, ?_, rfl⟩
  · rw [← hdwallet, hbump]
    rfl
  · intro record hrecord
    obtain ⟨hzero, hnil, hsystem⟩ := hunused record (List.mem_cons_of_mem _ hrecord)
    exact ⟨hzero, hnil, hsystem⟩
  · rw [hvoucher]
    rfl

theorem sampleLoner_accepts : Accepts sampleDeployment sampleLoner sampleOpenTransaction
    sampleRecords 0 sampleOpen := by
  intro record terms invocation L hterms hcall hledger _
  obtain ⟨built, hbuilt, hinvocation⟩ := voucherCall_of (.inl rfl)
    (sampleLoner.vote sampleDeployment record) (sampleLoner.voucher sampleDeployment) 255 terms rfl
  obtain rfl := Except.ok.inj (hcall.symm.trans hbuilt)
  have hvoucher : (invocation.instruction.accounts.map (·.pubkey)).getD 1 systemProgramId =
      sampleVoucher := by
    rw [hinvocation.accounts]
    rfl
  have hsame := hledger sampleVoucher (by decide +kernel) (by decide +kernel) (by decide +kernel)
  obtain ⟨hzero, -, hsystem⟩ := sampleOpen_facts.2.2.2.2.1 sampleVoucher List.mem_cons_self
  change ∃ L', sampleIka invocation L = .ok L'
  unfold sampleIka
  dsimp only
  rw [hvoucher, hsame]
  exact exists_ok_bind (ensure_of ⟨hzero, hsystem⟩) ⟨_, rfl⟩

theorem lone_member_sample : ∃ w', Run (process sampleDeployment) sampleDeployment
    ([sampleCreate, samplePropose] ++ sampleRecords.map (sampleLoner.call sampleDeployment)) w' ∧
    Approved sampleDeployment sampleTransaction sampleOpenMultisig sampleOpen.issued w' ∧
    ∀ c ∈ sampleRecords.map (sampleLoner.call sampleDeployment),
      Votes c true sampleTransaction (repeatedKey 2).toBytes ∧ ∀ a ∈ c.accounts,
        a.isSigner = true → a.key ∈ repeatedKey 2 :: repeatedKey 3 :: sampleRecords :=
  lone_member sampleDeployment_sound (.inl rfl) sampleOpen_run (by decide) sampleLoner_able
    sampleLoner_accepts

end Ika.Programs.Multisig
