import IkaSdk.Programs.MultisigListing

/-! What is asked for with the page's instructions is what the page shows from then on, whatever
else the program is called for. -/

namespace Ika.Programs.Multisig

open Wire Ledgers Solana Crates Polls MultisigError

variable {d : Deployment} {w w' : World} {c : Call} {calls : List Call}

/-! ## Instructions as the program reads them -/

/-- A call of an instruction. The flags of its accounts are up to the transaction it is in. -/
structure Carries (c : Call) (ix : TransactionInstruction) : Prop where
  data : c.data = ix.data
  keys : c.accounts.map (·.key) = ix.keys.map (·.pubkey)

theorem writeUInt_ok {width n : ℕ} {bytes : Bytes} (h : writeUInt width n = .ok bytes) :
    n < 256 ^ width ∧ bytes = leBytes width n := by
  unfold writeUInt at h
  split_ifs at h with hfits
  exact ⟨hfits, (Except.ok.inj h).symm⟩

/-- Keys one behind the other. -/
theorem consecutive_keys (members : List PublicKey) (first start : ℕ) :
    Consecutive (first + start * 32)
      ((members.zipIdx start).map fun (m, i) => (first + i * 32, m.toBytes)) := by
  induction members generalizing start with
  | nil => trivial
  | cons m members ih =>
    refine ⟨rfl, ?_⟩
    have hkey : m.toBytes.length = 32 := m.length_eq
    have hnext : first + start * 32 + m.toBytes.length = first + (start + 1) * 32 := by
      rw [hkey]
      omega
    dsimp only
    rw [hnext]
    exact ih (start + 1)

theorem flatMap_keys (members : List PublicKey) (first start : ℕ) :
    ((members.zipIdx start).map fun (m, i) => (first + i * 32, m.toBytes)).flatMap Prod.snd =
      members.flatMap PublicKey.toBytes := by
  induction members generalizing start with
  | nil => rfl
  | cons m members ih =>
    rw [List.zipIdx_cons, List.map_cons, List.flatMap_cons, List.flatMap_cons, ih]

theorem length_flatMap_keys (members : List PublicKey) :
    (members.flatMap PublicKey.toBytes).length = members.length * 32 := by
  induction members with
  | nil => rfl
  | cons m members ih =>
    have hkey : m.toBytes.length = 32 := m.length_eq
    rw [List.flatMap_cons, List.length_append, ih, hkey, List.length_cons]
    omega

theorem chunks_flatMap_keys (members : List PublicKey) :
    chunks (members.flatMap PublicKey.toBytes) = members.map PublicKey.toBytes := by
  induction members with
  | nil => rfl
  | cons m members ih =>
    have hkey : m.toBytes.length = 32 := m.length_eq
    have hnil : m.toBytes ++ members.flatMap PublicKey.toBytes ≠ [] := by
      intro h
      rw [(List.append_eq_nil_iff.mp h).1] at hkey
      cases hkey
    rw [List.flatMap_cons, chunks_eq_cons hnil, List.take_left' hkey, List.drop_left' hkey, ih,
      List.map_cons]

/-! ## The multisig that was asked for -/

/-- The program reads back what the page has written. -/
theorem buildCreateMultisigIx_ok {programId pda dwallet dwalletProgramId owner payer : PublicKey}
    {threshold : ℕ} {members : List PublicKey} {ix : TransactionInstruction}
    (h : buildCreateMultisigIx programId pda dwallet dwalletProgramId owner payer threshold
      members = .ok ix) :
    ix.keys.map (·.pubkey) = [pda, dwallet, dwalletProgramId, owner, payer, systemProgramId] ∧
      ∃ rest, ix.data = 0 :: rest ∧ leValue (sliceAt 0 2 rest) = threshold ∧
        chunks (sliceAt 4 (leValue (sliceAt 2 2 rest) * 32) rest) =
          members.map PublicKey.toBytes := by
  obtain ⟨thresholdBytes, hthreshold, h⟩ := bind_ok h
  obtain ⟨countBytes, hcount, h⟩ := bind_ok h
  obtain rfl := Except.ok.inj h
  obtain ⟨hlow, rfl⟩ := writeUInt_ok hthreshold
  obtain ⟨hsmall, rfl⟩ := writeUInt_ok hcount
  have hlowBytes := leBytes_length 2 threshold
  have hcountBytes := leBytes_length 2 members.length
  have hfirst : sliceAt 0 2 (leBytes 2 threshold ++ leBytes 2 members.length ++
      members.flatMap PublicKey.toBytes) = leBytes 2 threshold :=
    sliceAt_of_append [] (leBytes 2 members.length ++ members.flatMap PublicKey.toBytes)
      (by simp) rfl hlowBytes
  have hsecond : sliceAt 2 2 (leBytes 2 threshold ++ leBytes 2 members.length ++
      members.flatMap PublicKey.toBytes) = leBytes 2 members.length :=
    sliceAt_of_append (leBytes 2 threshold) _ rfl hlowBytes hcountBytes
  have hlast : sliceAt 4 (members.length * 32) (leBytes 2 threshold ++ leBytes 2 members.length ++
      members.flatMap PublicKey.toBytes) = members.flatMap PublicKey.toBytes :=
    sliceAt_of_append (leBytes 2 threshold ++ leBytes 2 members.length) [] (by simp) (by simp)
      (length_flatMap_keys members)
  refine ⟨rfl, leBytes 2 threshold ++ leBytes 2 members.length ++
    members.flatMap PublicKey.toBytes, ?_, ?_, ?_⟩
  · dsimp only
    rw [copyFields_filled]
    · rw [List.flatMap_append, flatMap_keys]
      simp
    · have hkeys := consecutive_keys members 5 0
      simpa [Consecutive] using hkeys
    · rw [List.flatMap_append, flatMap_keys, List.length_append, length_flatMap_keys]
      simp
  · rw [hfirst, leValue_leBytes, Nat.mod_eq_of_lt hlow]
  · rw [hsecond, leValue_leBytes, Nat.mod_eq_of_lt hsmall, hlast, chunks_flatMap_keys]

theorem CreateMultisigAccounts.of_keys {accounts : List AccountInfo} {a : CreateMultisigAccounts}
    {pda dwallet : PublicKey} {rest : List PublicKey}
    (h : CreateMultisigAccounts.of accounts = .ok a)
    (hkeys : accounts.map (·.key) = pda :: dwallet :: rest) :
    a.multisigAccount.key = pda ∧ a.dwallet.key = dwallet := by
  unfold CreateMultisigAccounts.of at h
  split at h
  · cases h
    rw [List.map_cons, List.map_cons, List.cons.injEq, List.cons.injEq] at hkeys
    exact ⟨hkeys.1, hkeys.2.1⟩
  · cases h

/-- A multisig made by the page's instruction: from then on the page shows it with the threshold
and the members that were asked for, at the address it derives from the dWallet. -/
theorem created_shown (hd : d.Sound) (hrun : Run (process d) d calls w)
    {pda dwallet owner payer : PublicKey} {threshold : ℕ} {members : List PublicKey}
    {ix : TransactionInstruction}
    (hbuilt : buildCreateMultisigIx d.programId pda dwallet d.ikaProgramId owner payer threshold
      members = .ok ix) (hc : c ∈ calls) (hcarries : Carries c ix) :
    ∃ msData account bump, heldBy d.programId w.ledger pda = some msData ∧
      nthByte msData 0 = multisigDiscriminator ∧ parseMultisig msData = .ok account ∧
      account.threshold = threshold ∧ account.members = members ∧ account.dwallet = dwallet ∧
      findMultisigPda d dwallet = .ok (pda, bump) := by
  obtain ⟨w₁, w₂, hok, honward⟩ := hrun.accepted hc
  obtain ⟨hkeys, rest, hdata, hthreshold, hmembers⟩ := buildCreateMultisigIx_ok hbuilt
  have hcreate : createMultisig d c.accounts rest w₁ = .ok w₂ := by
    simpa [process, processInstruction, hcarries.data, hdata] using hok
  obtain ⟨a, msData₀, ha, hmade⟩ := createMultisig_made hd hcreate
  obtain ⟨rfl, rfl⟩ := CreateMultisigAccounts.of_keys ha (hcarries.keys.trans hkeys)
  have hafter : heldBy d.programId w₂.ledger a.multisigAccount.key = some msData₀ := by
    rw [hmade.after, Function.update_self]
  obtain ⟨msData, hheld, hkept⟩ := (process_keeps hd).onward honward _ _ hafter
  obtain ⟨h, -, hshows⟩ := run_shows hd hrun
  have hagree := (hkept.multisig hmade.ok.discriminator).1
  have hdisc := hkept.discriminator.trans hmade.ok.discriminator
  obtain ⟨account, hparse, hshown⟩ := parseMultisig_of (hshows.multisig hheld hdisc)
  have hpoll := pollOf_congr [] hagree
  have hquorum : thresholdOf msData = thresholdOf msData₀ := congrArg Poll.quorum hpoll
  have helectors : membersOf msData = membersOf msData₀ := congrArg Poll.electors hpoll
  refine ⟨msData, account, nthByte msData₀ msBump, hheld, hdisc, hparse, ?_, ?_, ?_, ?_⟩
  · rw [hshown.threshold, hquorum, hmade.threshold, hthreshold]
  · apply List.map_injective_iff.mpr fun _ _ => publicKey_ext
    rw [hshown.members, helectors, hmade.members, hmembers]
  · apply publicKey_ext
    rw [hshown.dwallet, hagree.slices msDwallet 32 (.inl (by decide)), hmade.dwallet]
  · unfold findMultisigPda findPda
    rw [hmade.address]
    rfl

theorem ok_getD {ε α : Type} {x : Except ε α} (a : α) (h : x.isOk = true) :
    x = .ok (x.toOption.getD a) := by
  cases x with
  | ok b => rfl
  | error e => cases h

def sampleCreateIx : TransactionInstruction :=
  (buildCreateMultisigIx (repeatedKey 100) sampleMultisig (repeatedKey 10) (repeatedKey 101)
    (repeatedKey 1) (repeatedKey 1) 2 [repeatedKey 1, repeatedKey 2]).toOption.getD
    ⟨systemProgramId, [], []⟩

theorem created_shown_sample : ∃ msData account bump,
    heldBy sampleDeployment.programId sampleClosed.ledger sampleMultisig = some msData ∧
      nthByte msData 0 = multisigDiscriminator ∧ parseMultisig msData = .ok account ∧
      account.threshold = 2 ∧ account.members = [repeatedKey 1, repeatedKey 2] ∧
      account.dwallet = repeatedKey 10 ∧
      findMultisigPda sampleDeployment (repeatedKey 10) = .ok (sampleMultisig, bump) :=
  @created_shown _ _ sampleCreate _ sampleDeployment_sound sampleClosed_run sampleMultisig
    (repeatedKey 10) (repeatedKey 1) (repeatedKey 1) 2 [repeatedKey 1, repeatedKey 2] sampleCreateIx
    (ok_getD _ (by decide +kernel)) (by simp)
    ⟨by decide +kernel, by decide +kernel⟩

/-! ## The transaction that was proposed -/

theorem buildCreateTransactionIx_ok {programId multisigPda txPda proposer payer : PublicKey}
    {messageHash userPubkey messageData : Bytes} {signatureScheme : ℕ}
    {signatureVoucherBump txBump : UInt8} {futureSign : Bool} {ix : TransactionInstruction}
    (hhash : messageHash.length = 32) (hkey : userPubkey.length = 32)
    (h : buildCreateTransactionIx programId multisigPda txPda proposer payer messageHash userPubkey
      signatureScheme signatureVoucherBump txBump messageData futureSign = .ok ix) :
    messageData.length < 256 ^ 2 ∧
      ix.keys.map (·.pubkey) = [multisigPda, txPda, proposer, payer, systemProgramId] ∧
      ∃ rest, ix.data = 1 :: rest ∧ sliceAt 0 32 rest = messageHash ∧
        leValue (sliceAt 69 2 rest) = messageData.length ∧
        sliceAt 71 messageData.length rest = messageData := by
  obtain ⟨schemeBytes, hscheme, h⟩ := bind_ok h
  obtain ⟨lengthBytes, hlength, h⟩ := bind_ok h
  obtain rfl := Except.ok.inj h
  obtain ⟨-, rfl⟩ := writeUInt_ok hscheme
  obtain ⟨hsmall, rfl⟩ := writeUInt_ok hlength
  have hlength' := leBytes_length 2 messageData.length
  refine ⟨hsmall, rfl, messageHash ++ userPubkey ++ leBytes 2 signatureScheme ++
    [signatureVoucherBump, if futureSign then 1 else 0, txBump] ++ leBytes 2 messageData.length ++
    messageData, ?_, ?_, ?_, ?_⟩
  · dsimp only
    rw [copyFields_filled]
    · simp
    · simp [Consecutive, hhash, hkey]
    · simp [hhash, hkey]
      omega
  · exact sliceAt_of_append [] (userPubkey ++ leBytes 2 signatureScheme ++
      [signatureVoucherBump, if futureSign then 1 else 0, txBump] ++
      leBytes 2 messageData.length ++ messageData) (by simp) rfl hhash
  · rw [sliceAt_of_append (messageHash ++ userPubkey ++ leBytes 2 signatureScheme ++
      [signatureVoucherBump, if futureSign then 1 else 0, txBump]) messageData rfl
      (by simp [hhash, hkey]) hlength', leValue_leBytes, Nat.mod_eq_of_lt hsmall]
  · exact sliceAt_of_append (messageHash ++ userPubkey ++ leBytes 2 signatureScheme ++
      [signatureVoucherBump, if futureSign then 1 else 0, txBump] ++ leBytes 2 messageData.length)
      [] (by simp) (by simp [hhash, hkey]) rfl

theorem CreateTransactionAccounts.of_keys {accounts : List AccountInfo}
    {a : CreateTransactionAccounts} {multisigPda txPda proposer : PublicKey} {rest : List PublicKey}
    (h : CreateTransactionAccounts.of accounts = .ok a)
    (hkeys : accounts.map (·.key) = multisigPda :: txPda :: proposer :: rest) :
    a.multisigAccount.key = multisigPda ∧ a.txAccount.key = txPda ∧ a.proposer.key = proposer := by
  unfold CreateTransactionAccounts.of at h
  split at h
  · cases h
    simp only [List.map_cons, List.cons.injEq] at hkeys
    exact ⟨hkeys.1, hkeys.2.1, hkeys.2.2.1⟩
  · cases h

/-- What is written when a transaction is made stays, but for its counts and its status. -/
theorem TransactionMade.read_after {accounts : List AccountInfo} {a : CreateTransactionAccounts}
    {p : Proposal} {rest msData msData' txData txData' : Bytes}
    (h : TransactionMade d accounts a rest p msData msData' txData w w')
    (hkept : Kept txData txData') {offset width : ℕ} {bytes : Bytes}
    (hmem : (offset, bytes) ∈ transactionFields p) (hwidth : bytes.length = width)
    (hout : offset + width ≤ txApprovalCount ∨ txStatus + 1 ≤ offset) :
    sliceAt offset width txData' = bytes := by
  have hsame := (hkept.transaction h.ok.discriminator).1
  exact (hsame.slices offset width hout).trans (h.read hmem hwidth)

/-- A transaction made by the page's instruction: from then on the page shows it with its proposer,
its message and the digest of it, and lists it under the number that its address is derived from. -/
theorem proposed_shown (hd : d.Sound) (hrun : Run (process d) d calls w)
    {multisigPda txPda proposer payer : PublicKey} {messageHash userPubkey messageData : Bytes}
    {signatureScheme : ℕ} {signatureVoucherBump txBump : UInt8} {futureSign : Bool}
    {ix : TransactionInstruction} (hhash : messageHash.length = 32) (hkey : userPubkey.length = 32)
    (hbuilt : buildCreateTransactionIx d.programId multisigPda txPda proposer payer messageHash
      userPubkey signatureScheme signatureVoucherBump txBump messageData futureSign = .ok ix)
    (hc : c ∈ calls) (hcarries : Carries c ix) :
    ∃ txData account, heldBy d.programId w.ledger txPda = some txData ∧
      parseTransaction txData = .ok account ∧ account.proposer = proposer ∧
      account.messageHash = messageHash ∧ account.messageData = messageData ∧
      (∃ voucher, findSignatureVoucherPda d txPda =
        .ok (voucher, account.signatureVoucherBump)) ∧
      (Unsigned c.accounts txPda → ∃ bump,
        findTransactionPda d multisigPda account.txIndex = .ok (txPda, bump)) := by
  obtain ⟨w₁, w₂, hok, honward⟩ := hrun.accepted hc
  obtain ⟨hsmall, hkeys, rest, hdata, hdigest, hlen, hmessage⟩ :=
    buildCreateTransactionIx_ok hhash hkey hbuilt
  have hcreate : createTransaction d c.accounts rest w₁ = .ok w₂ := by
    simpa [process, processInstruction, hcarries.data, hdata] using hok
  obtain ⟨a, index, msData, msData', txData₀, ha, hmade⟩ := createTransaction_made hd hcreate
  obtain ⟨rfl, rfl, rfl⟩ :=
    CreateTransactionAccounts.of_keys ha (hcarries.keys.trans hkeys)
  have hlater := (process_keeps hd).onward honward
  have hafter : heldBy d.programId w₂.ledger a.txAccount.key = some txData₀ := by
    rw [hmade.after, Function.update_of_ne (hmade.verified.ne_new hmade.new).symm,
      Function.update_self]
  obtain ⟨txData, hheld, hkept⟩ := hlater _ _ hafter
  obtain ⟨h, -, hshows⟩ := run_shows hd hrun
  have hdisc := hkept.discriminator.trans hmade.ok.discriminator
  obtain ⟨account, hparse, hshown⟩ := parseTransaction_of (hshows.poll hheld hdisc).1.ge
  have hbump : nthByte txData txSignatureVoucherBump = nthByte rest 66 :=
    nthByte_of_slice (hmade.read_after hkept (by simp [transactionFields, proposalOf]) rfl
      (.inr (by decide)))
  have hlenBytes : sliceAt txMessageDataLen 2 txData = leBytes 2 messageData.length :=
    hmade.read_after hkept (by simp [transactionFields, proposalOf, hlen]) (leBytes_length ..)
      (.inr (by decide))
  have hcount : leValue (sliceAt txMessageDataLen 2 txData) = messageData.length := by
    rw [hlenBytes, leValue_leBytes, Nat.mod_eq_of_lt hsmall]
  refine ⟨txData, account, hheld, hparse, ?_, ?_, ?_, ?_, ?_⟩
  · apply publicKey_ext
    rw [hshown.proposer]
    exact hmade.read_after hkept (by simp [transactionFields, proposalOf]) a.proposer.key.length_eq
      (.inl (by decide))
  · rw [hshown.messageHash]
    exact hmade.read_after hkept (by simp [transactionFields, proposalOf, hdigest]) hhash
      (.inl (by decide))
  · rw [hshown.messageData, hcount]
    exact hmade.read_after hkept (by simp [transactionFields, proposalOf, hlen, hmessage]) rfl
      (.inr (by decide))
  · obtain ⟨voucher, hvoucher⟩ := hmade.voucher
    refine ⟨voucher, ?_⟩
    unfold findSignatureVoucherPda findPda
    rw [hvoucher, hshown.signatureVoucherBump, hbump]
    rfl
  · intro hunsigned
    obtain ⟨txData', hat, -⟩ := (hmade.numberedAt hunsigned).later hlater
    obtain rfl := Option.some.inj (hat.account.symm.trans hheld)
    obtain ⟨bump, haddress⟩ := hat.address
    refine ⟨bump, ?_⟩
    rw [hshown.txIndex, hat.index]
    exact findTransactionPda_of (txIndexOf_lt hmade.verified.length) haddress

def sampleProposeIx : TransactionInstruction :=
  (buildCreateTransactionIx (repeatedKey 100) sampleMultisig sampleTransaction (repeatedKey 2)
    (repeatedKey 2) (List.replicate 32 7) (List.replicate 32 8) 5 255 255 [] false).toOption.getD
    ⟨systemProgramId, [], []⟩

theorem proposed_shown_sample : ∃ txData account,
    heldBy sampleDeployment.programId sampleClosed.ledger sampleTransaction = some txData ∧
      parseTransaction txData = .ok account ∧ account.proposer = repeatedKey 2 ∧
      account.messageHash = List.replicate 32 7 ∧ account.messageData = [] ∧
      (∃ voucher, findSignatureVoucherPda sampleDeployment sampleTransaction =
        .ok (voucher, account.signatureVoucherBump)) ∧
      (Unsigned samplePropose.accounts sampleTransaction → ∃ bump,
        findTransactionPda sampleDeployment sampleMultisig account.txIndex =
          .ok (sampleTransaction, bump)) :=
  @proposed_shown _ _ samplePropose _ sampleDeployment_sound sampleClosed_run sampleMultisig
    sampleTransaction (repeatedKey 2) (repeatedKey 2) (List.replicate 32 7) (List.replicate 32 8) []
    5 255 255 false sampleProposeIx (by decide) (by decide) (ok_getD _ (by decide +kernel))
    (by simp) ⟨by decide +kernel, by decide +kernel⟩

end Ika.Programs.Multisig
