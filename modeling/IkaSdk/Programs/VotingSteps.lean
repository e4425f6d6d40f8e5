import IkaSdk.Lib.Polls
import IkaSdk.Programs.Voting

/-! What each instruction of the voting program does to the accounts it holds. -/

namespace Ika.Programs.Voting

open Wire Ledgers Solana Crates Polls VotingError

/-! ## What the accounts say -/

def quorumOf (cnData : Bytes) : ℕ := leValue (sliceAt cnQuorum 4 cnData)

def memberCountOf (cnData : Bytes) : ℕ := leValue (sliceAt cnMemberCount 2 cnData)

def outcomeOf (status : UInt8) : Outcome :=
  if status = statusOpen then .undecided else .carried

/-- A proposal as a poll of the council. No number of votes against it closes it. -/
def pollOf (cnData propData : Bytes) : Poll Bytes where
  electors := membersOf cnData
  quorum := leValue (sliceAt propQuorum 4 propData)
  limit := none
  yes := leValue (sliceAt propYesVotes 4 propData)
  no := leValue (sliceAt propNoVotes 4 propData)
  outcome := outcomeOf (nthByte propData propStatus)

/-- A council account as `create_council` leaves it. -/
structure CouncilOk (d : Deployment) (key : PublicKey) (cnData : Bytes) : Prop where
  discriminator : nthByte cnData 0 = councilDiscriminator
  quorum_pos : 0 < quorumOf cnData
  quorum_le : quorumOf cnData ≤ memberCountOf cnData
  count_le : memberCountOf cnData ≤ maxMembers
  members : (membersOf cnData).Nodup
  count : (membersOf cnData).length = memberCountOf cnData
  address : findProgramAddress d [textBytes "council", sliceAt cnDwallet 32 cnData] =
    .ok (key, nthByte cnData cnBump)

variable {d : Deployment} {w w' : World} {accounts : List AccountInfo} {data : Bytes}

/-! ## The council of a dWallet -/

/-- What `create_council` has done: the council stands at the address that is derived from its
dWallet, made by the owner of the dWallet at the time. -/
structure CouncilMade (d : Deployment) (a : CreateCouncilAccounts) (data cnData : Bytes)
    (w w' : World) : Prop where
  issued : w'.issued = w.issued
  new : heldBy d.programId w.ledger a.councilAccount.key = none
  after : heldBy d.programId w'.ledger = Function.update (heldBy d.programId w.ledger)
    a.councilAccount.key (some cnData)
  ok : CouncilOk d a.councilAccount.key cnData
  quorum : quorumOf cnData = leValue (sliceAt 0 4 data)
  members : membersOf cnData = chunks (sliceAt 6 (leValue (sliceAt 4 2 data) * 32) data)
  dwallet : sliceAt cnDwallet 32 cnData = a.dwallet.key.toBytes
  owner : a.owner.isSigner = true
  dwalletOwner : ∃ stored, Programs.dwalletOwner d invalidDWalletAccount.toProgramError
    a.dwallet a.dwalletProgram w = .ok stored ∧ stored.val = a.owner.key.toBytes

theorem councilFields_inOrder {dwallet : PublicKey} {quorum memberCount : ℕ} {bump : UInt8}
    {members : Bytes} : InOrder (councilFields dwallet quorum memberCount bump members) := by
  have hkey : dwallet.toBytes.length = 32 := dwallet.length_eq
  simp [InOrder, councilFields, hkey, cnDwallet, cnQuorum, cnMemberCount, cnBump, cnMembers]

/-- The rules of a council read back as they were written. -/
theorem councilFields_read {dwallet : PublicKey} {quorum memberCount : ℕ} {bump : UInt8}
    {members cnData : Bytes} (hle : quorum ≤ memberCount) (hmax : memberCount ≤ maxMembers)
    (hlength : members.length = memberCount * 32)
    (hput : putFields (List.replicate councilLen 0)
      (councilFields dwallet quorum memberCount bump members) = .ok cnData) :
    quorumOf cnData = quorum ∧ memberCountOf cnData = memberCount ∧
      membersOf cnData = chunks members := by
  have hlow : quorum < 256 ^ 4 := (hle.trans hmax).trans_lt (by decide)
  have hsmall : memberCount < 256 ^ 2 := hmax.trans_lt (by decide)
  have hquorum : sliceAt cnQuorum 4 cnData = leBytes 4 quorum :=
    sliceAt_written hput councilFields_inOrder (by simp [councilFields]) (leBytes_length ..)
  have hcountBytes : sliceAt cnMemberCount 2 cnData = leBytes 2 memberCount :=
    sliceAt_written hput councilFields_inOrder (by simp [councilFields]) (leBytes_length ..)
  have hmembers : sliceAt cnMembers (memberCount * 32) cnData = members :=
    sliceAt_written hput councilFields_inOrder (by simp [councilFields]) hlength
  have hcount : memberCountOf cnData = memberCount := by
    rw [memberCountOf, hcountBytes, leValue_leBytes, Nat.mod_eq_of_lt hsmall]
  refine ⟨?_, hcount, ?_⟩
  · rw [quorumOf, hquorum, leValue_leBytes, Nat.mod_eq_of_lt hlow]
  · rw [memberCountOf] at hcount
    rw [membersOf, hcount, take_chunks_written hmembers]

theorem createCouncil_made (hd : d.Sound) (h : createCouncil d accounts data w = .ok w') :
    ∃ a cnData, CreateCouncilAccounts.of accounts = .ok a ∧ CouncilMade d a data cnData w w' := by
  obtain ⟨-, h⟩ := ensure_bind_iff.mp h
  obtain ⟨a, ha, h⟩ := bind_ok h
  obtain ⟨howner, h⟩ := ensure_bind_iff.mp h
  obtain ⟨-, h⟩ := ensure_bind_iff.mp h
  obtain ⟨⟨-, hmax⟩, h⟩ := ensure_bind_iff.mp h
  obtain ⟨hfits, h⟩ := ensure_bind_iff.mp h
  obtain ⟨⟨hpos, hle⟩, h⟩ := ensure_bind_iff.mp h
  obtain ⟨hnodup, h⟩ := ensure_bind_iff.mp h
  obtain ⟨stored, hstored, h⟩ := bind_ok h
  obtain ⟨hsame, h⟩ := ensure_bind_iff.mp h
  obtain ⟨⟨expected, bump⟩, hfound, h⟩ := bind_ok h
  obtain ⟨hkey, h⟩ := ensure_bind_iff.mp h
  obtain ⟨made, hmade, h⟩ := bind_ok h
  obtain ⟨cnData, hwrote⟩ := writeFields_ok h
  have hmade := createPdaAccount_ok hmade
  obtain ⟨hput, hissued, hafter⟩ := hmade.filled hwrote
  have hunique : (chunks (sliceAt 6 (leValue (sliceAt 4 2 data) * 32) data)).Nodup :=
    not_not.mp (mt (hasDuplicate_iff _).mpr hnodup)
  have hread : ∀ {offset bytes width}, (offset, bytes) ∈ councilFields a.dwallet.key
      (leValue (sliceAt 0 4 data)) (leValue (sliceAt 4 2 data)) bump
      (sliceAt 6 (leValue (sliceAt 4 2 data) * 32) data) → bytes.length = width →
      sliceAt offset width cnData = bytes :=
    fun hmem hwidth => sliceAt_written hput councilFields_inOrder hmem hwidth
  have hdwallet : sliceAt cnDwallet 32 cnData = a.dwallet.key.toBytes :=
    hread (by simp [councilFields]) a.dwallet.key.length_eq
  have hbump : nthByte cnData cnBump = bump :=
    nthByte_of_slice (hread (by simp [councilFields]) rfl)
  obtain ⟨hquorum, hcount, hmembers⟩ := councilFields_read hle hmax (length_sliceAt hfits) hput
  refine ⟨a, cnData, ha, hissued, hmade.new hd.notSystem, hafter, ?_, hquorum, hmembers, hdwallet,
    howner, stored, hstored, hsame⟩
  refine ⟨nthByte_of_slice (hread (by simp [councilFields]) rfl), ?_, ?_, ?_, ?_, ?_, ?_⟩
  · rw [hquorum]
    exact Nat.pos_of_ne_zero hpos
  · rwa [hquorum, hcount]
  · rwa [hcount]
  · rwa [hmembers]
  · rw [hmembers, hcount]
    exact length_chunks ((length_sliceAt hfits).trans (Nat.mul_comm ..))
  · rw [hdwallet, hbump, hfound, hkey]

/-! ## Checks of a council -/

/-- What `verify_council_member` has checked. -/
structure Verified (d : Deployment) (key : PublicKey) (dwallet member cnData : Bytes)
    (w : World) : Prop where
  account : heldBy d.programId w.ledger key = some cnData
  discriminator : nthByte cnData 0 = councilDiscriminator
  dwallet : sliceAt cnDwallet 32 cnData = dwallet
  member : member ∈ membersOf cnData

theorem verifyCouncilMember_ok {council : AccountInfo} {dwallet member : Bytes} {quorum : ℕ}
    (h : verifyCouncilMember d council dwallet member w = .ok quorum) :
    Verified d council.key dwallet member (w.ledger council.key).data w ∧
      quorum = quorumOf (w.ledger council.key).data := by
  obtain ⟨howner, h⟩ := ensure_bind_iff.mp h
  obtain ⟨⟨-, hdisc⟩, h⟩ := ensure_bind_iff.mp h
  obtain ⟨hdwallet, h⟩ := ensure_bind_iff.mp h
  obtain ⟨-, h⟩ := ensure_bind_iff.mp h
  obtain ⟨memberCount, hcount, h⟩ := bind_ok h
  obtain ⟨hmember, h⟩ := ensure_bind_iff.mp h
  refine ⟨⟨heldBy_eq_some.mpr ⟨howner, rfl⟩, hdisc, hdwallet, ?_⟩, (readU32_ok h).2⟩
  obtain ⟨candidate, hmem, heq⟩ := List.any_eq_true.mp hmember
  rw [(readU16_ok hcount).2] at hmem
  rw [← of_decide_eq_true heq]
  exact hmem

theorem Verified.ne_new {key key' : PublicKey} {dwallet member cnData : Bytes}
    (h : Verified d key dwallet member cnData w) (hnew : heldBy d.programId w.ledger key' = none) :
    key ≠ key' := by
  rintro rfl
  rw [h.account] at hnew
  cases hnew

/-! ## Proposals -/

theorem proposalFields_inOrder {p : Proposal} (hid : p.proposalId.length = 32)
    (hdigest : p.messageDigest.length = 32) (hkey : p.userPubkey.length = 32)
    (hscheme : p.signatureScheme.length = 2) : InOrder (proposalFields p) := by
  have hdwallet : p.dwallet.toBytes.length = 32 := p.dwallet.length_eq
  have hcreator : p.creator.toBytes.length = 32 := p.creator.length_eq
  simp [InOrder, proposalFields, hid, hdwallet, hdigest, hkey, hscheme, hcreator, propProposalId,
    propDwallet, propMessageDigest, propUserPubkey, propSignatureScheme, propCreator, propYesVotes,
    propNoVotes, propQuorum, propStatus, propSignatureVoucherBump, propBump]

/-- What `create_proposal` has done. The proposal is at its canonical address unless it signed for
itself. -/
structure ProposalMade (d : Deployment) (accounts : List AccountInfo) (a : CreateProposalAccounts)
    (data cnData propData : Bytes) (w w' : World) : Prop where
  fits : 100 ≤ data.length
  issued : w'.issued = w.issued
  signed : a.creator.isSigner = true
  verified : Verified d a.council.key a.dwallet.key.toBytes a.creator.key.toBytes cnData w
  new : heldBy d.programId w.ledger a.proposalAccount.key = none
  after : heldBy d.programId w'.ledger = Function.update (heldBy d.programId w.ledger)
    a.proposalAccount.key (some propData)
  read : ∀ {offset bytes width}, (offset, bytes) ∈ proposalFields (proposalOf a (quorumOf cnData)
    data) → bytes.length = width → sliceAt offset width propData = bytes
  address : Unsigned accounts a.proposalAccount.key → findProgramAddress d
    [textBytes "proposal", sliceAt 0 32 data] = .ok (a.proposalAccount.key, nthByte data 99)
  voucher : ∃ voucher, findProgramAddress d [textBytes "signature_voucher", sliceAt 0 32 data] =
    .ok (voucher, nthByte data 98)

theorem ProposalMade.discriminator {a : CreateProposalAccounts} {cnData propData : Bytes}
    (h : ProposalMade d accounts a data cnData propData w w') :
    nthByte propData 0 = proposalDiscriminator :=
  nthByte_of_slice (h.read (by simp [proposalFields]) rfl)

theorem ProposalMade.id {a : CreateProposalAccounts} {cnData propData : Bytes}
    (h : ProposalMade d accounts a data cnData propData w w') :
    sliceAt propProposalId 32 propData = sliceAt 0 32 data := by
  have hfits := h.fits
  exact h.read (by simp [proposalFields, proposalOf]) (length_sliceAt (by omega))

theorem createProposal_made (hd : d.Sound) (h : createProposal d accounts data w = .ok w') :
    ∃ a cnData propData, CreateProposalAccounts.of accounts = .ok a ∧
      ProposalMade d accounts a data cnData propData w w' := by
  obtain ⟨hlength, h⟩ := ensure_bind_iff.mp h
  obtain ⟨a, ha, h⟩ := bind_ok h
  obtain ⟨hsigned, h⟩ := ensure_bind_iff.mp h
  obtain ⟨-, h⟩ := ensure_bind_iff.mp h
  obtain ⟨quorum, hquorum, h⟩ := bind_ok h
  obtain ⟨u, hvoucher, h⟩ := bind_ok h
  obtain ⟨u', hbump, h⟩ := bind_ok h
  obtain ⟨made, hmade, h⟩ := bind_ok h
  obtain ⟨propData, hwrote⟩ := writeFields_ok h
  have hmade := createPdaAccount_ok hmade
  obtain ⟨hput, hissued, hafter⟩ := hmade.filled hwrote
  obtain ⟨hverified, rfl⟩ := verifyCouncilMember_ok hquorum
  obtain ⟨found, hfound⟩ := requireCanonicalBump_iff.mp hbump
  have horder : InOrder (proposalFields (proposalOf a (quorumOf (w.ledger a.council.key).data)
      data)) :=
    proposalFields_inOrder (length_sliceAt (by omega)) (length_sliceAt (by omega))
      (length_sliceAt (by omega)) (length_sliceAt (by omega))
  refine ⟨a, _, propData, ha, hlength, hissued, hsigned, hverified, hmade.new hd.notSystem, hafter,
    ?_, ?_, ?_⟩
  · intro offset bytes width hmem hwidth
    exact sliceAt_written hput horder hmem hwidth
  · intro hunsigned
    exact hmade.canonical hfound hunsigned
  · exact requireCanonicalBump_iff.mp hvoucher

/-! ## Records of votes -/

theorem voteRecordFields_inOrder {voter : PublicKey} {proposalId : Bytes} {vote bump : UInt8}
    (hid : proposalId.length = 32) : InOrder (voteRecordFields voter proposalId vote bump) := by
  have hvoter : voter.toBytes.length = 32 := voter.length_eq
  simp [InOrder, voteRecordFields, hvoter, hid, vrVoter, vrProposalId, vrVote, vrBump]

/-- What the first part of `cast_vote` has done. The record is at its canonical address unless it
signed for itself. -/
structure Recorded (d : Deployment) (accounts : List AccountInfo) (a : VoteAccounts)
    (proposalId : Bytes) (bump : UInt8) (cnData propData record : Bytes) (w w' : World) :
    Prop where
  issued : w'.issued = w.issued
  signed : a.voter.isSigner = true
  verified : Verified d a.council.key (sliceAt propDwallet 32 propData) a.voter.key.toBytes cnData w
  length : proposalLen ≤ propData.length
  discriminator : nthByte propData 0 = proposalDiscriminator
  undecided : nthByte propData propStatus = statusOpen
  id : sliceAt propProposalId 32 propData = proposalId
  ne : a.proposalAccount.key ≠ a.voteRecordAccount.key
  new : heldBy d.programId w.ledger a.voteRecordAccount.key = none
  after : heldBy d.programId w'.ledger = Function.update (heldBy d.programId w.ledger)
    a.voteRecordAccount.key (some record)
  record : nthByte record 0 = voteRecordDiscriminator
  address : Unsigned accounts a.voteRecordAccount.key → findProgramAddress d
    [textBytes "vote", proposalId, a.voter.key.toBytes] = .ok (a.voteRecordAccount.key, bump)

theorem recordVote_recorded (hd : d.Sound) {a : VoteAccounts} {proposalId : Bytes}
    {vote bump : UInt8} {proposalDwallet : Bytes32}
    (h : recordVote d accounts a proposalId vote bump w = .ok (proposalDwallet, w')) :
    ∃ cnData record, Recorded d accounts a proposalId bump cnData
      (w.ledger a.proposalAccount.key).data record w w' ∧
      proposalDwallet.val = sliceAt propDwallet 32 (w.ledger a.proposalAccount.key).data := by
  obtain ⟨hsigned, h⟩ := ensure_bind_iff.mp h
  obtain ⟨-, h⟩ := ensure_bind_iff.mp h
  obtain ⟨-, h⟩ := ensure_bind_iff.mp h
  obtain ⟨⟨hlength, hdisc⟩, h⟩ := ensure_bind_iff.mp h
  obtain ⟨hopen, h⟩ := ensure_bind_iff.mp h
  obtain ⟨hid, h⟩ := ensure_bind_iff.mp h
  obtain ⟨dwallet, hdwallet, h⟩ := bind_ok h
  obtain ⟨quorum, hquorum, h⟩ := bind_ok h
  obtain ⟨u, hbump, h⟩ := bind_ok h
  obtain ⟨made, hmade, h⟩ := bind_ok h
  obtain ⟨written, hwritten, h⟩ := bind_ok h
  have hresult := Except.ok.inj h
  obtain rfl : dwallet = proposalDwallet := congrArg Prod.fst hresult
  obtain rfl : written = w' := congrArg Prod.snd hresult
  have hmade := createPdaAccount_ok hmade
  obtain ⟨record, hwrote⟩ := writeFields_ok hwritten
  obtain ⟨hput, hissued, hafter⟩ := hmade.filled hwrote
  obtain ⟨found, hfound⟩ := requireCanonicalBump_iff.mp hbump
  obtain ⟨hverified, -⟩ := verifyCouncilMember_ok hquorum
  rw [(readKey_ok hdwallet).2] at hverified
  have hwidth : proposalId.length = 32 := by
    rw [← hid]
    exact length_sliceAt (le_trans (by decide) hlength)
  refine ⟨_, record, ⟨hissued, hsigned, hverified, hlength, hdisc, hopen, hid, ?_,
    hmade.new hd.notSystem, hafter, ?_, ?_⟩, (readKey_ok hdwallet).2⟩
  · -- the new account was empty, the proposal is not
    intro heq
    rw [heq, hmade.unused.data] at hlength
    exact absurd hlength (by decide)
  · exact nthByte_of_slice (sliceAt_written hput (voteRecordFields_inOrder hwidth)
      (by simp [voteRecordFields]) rfl)
  · intro hunsigned
    exact hmade.canonical hfound hunsigned

/-! ## The counts of a proposal -/

/-- The counts and the status of a proposal may change; everything else stays. -/
structure SameProposal (propData propData' : Bytes) : Prop where
  outside : AgreeOutside propYesVotes (propStatus + 1) propData propData'
  quorum : sliceAt propQuorum 4 propData' = sliceAt propQuorum 4 propData

theorem SameProposal.refl (propData : Bytes) : SameProposal propData propData :=
  ⟨AgreeOutside.refl .., rfl⟩

theorem SameProposal.trans {propData propData' propData'' : Bytes}
    (h : SameProposal propData propData') (h' : SameProposal propData' propData'') :
    SameProposal propData propData'' :=
  ⟨h.outside.trans h'.outside, h'.quorum.trans h.quorum⟩

theorem SameProposal.discriminator {propData propData' : Bytes}
    (h : SameProposal propData propData') : nthByte propData' 0 = nthByte propData 0 :=
  h.outside.nthByte (.inl (by decide))

theorem SameProposal.id {propData propData' : Bytes} (h : SameProposal propData propData') :
    sliceAt propProposalId 32 propData' = sliceAt propProposalId 32 propData :=
  h.outside.slices propProposalId 32 (.inl (by decide))

theorem SameProposal.dwallet {propData propData' : Bytes} (h : SameProposal propData propData') :
    sliceAt propDwallet 32 propData' = sliceAt propDwallet 32 propData :=
  h.outside.slices propDwallet 32 (.inl (by decide))

def yesVotesOf (propData : Bytes) : ℕ := leValue (sliceAt propYesVotes 4 propData)

def noVotesOf (propData : Bytes) : ℕ := leValue (sliceAt propNoVotes 4 propData)

/-- A vote that was counted on its side. -/
structure Tallied (yes : Bool) (propData propData' : Bytes) : Prop where
  same : SameProposal propData propData'
  yesVotes : yesVotesOf propData' = yesVotesOf propData + if yes then 1 else 0
  noVotes : noVotesOf propData' = noVotesOf propData + if yes then 0 else 1
  status : nthByte propData' propStatus = nthByte propData propStatus

theorem tallied_yes {propData propData' : Bytes} (hsmall : yesVotesOf propData + 1 < 256 ^ 4)
    (hput : putFields propData [(propYesVotes, leBytes 4 (yesVotesOf propData + 1))] =
      .ok propData') : Tallied true propData propData' := by
  have hkept : AgreeOutside propYesVotes (propYesVotes + 4) propData propData' :=
    agreeOutside_putFields hput (by simp)
  have hcount : sliceAt propYesVotes 4 propData' = leBytes 4 (yesVotesOf propData + 1) :=
    sliceAt_written hput (by simp [InOrder]) (by simp) (leBytes_length ..)
  refine ⟨⟨agreeOutside_putFields hput (by simp; decide), ?_⟩, ?_, ?_, ?_⟩
  · exact hkept.slices propQuorum 4 (.inr (by decide))
  · rw [yesVotesOf, hcount, leValue_leBytes, Nat.mod_eq_of_lt hsmall]
    rfl
  · rw [noVotesOf, hkept.slices propNoVotes 4 (.inr (by decide))]
    rfl
  · exact hkept.nthByte (.inr (by decide))

theorem tallied_no {propData propData' : Bytes} (hsmall : noVotesOf propData + 1 < 256 ^ 4)
    (hput : putFields propData [(propNoVotes, leBytes 4 (noVotesOf propData + 1))] =
      .ok propData') : Tallied false propData propData' := by
  have hkept : AgreeOutside propNoVotes (propNoVotes + 4) propData propData' :=
    agreeOutside_putFields hput (by simp)
  have hcount : sliceAt propNoVotes 4 propData' = leBytes 4 (noVotesOf propData + 1) :=
    sliceAt_written hput (by simp [InOrder]) (by simp) (leBytes_length ..)
  refine ⟨⟨agreeOutside_putFields hput (by simp; decide), ?_⟩, ?_, ?_, ?_⟩
  · exact hkept.slices propQuorum 4 (.inr (by decide))
  · rw [yesVotesOf, hkept.slices propYesVotes 4 (.inl (by decide))]
    rfl
  · rw [noVotesOf, hcount, leValue_leBytes, Nat.mod_eq_of_lt hsmall]
    rfl
  · exact hkept.nthByte (.inr (by decide))

/-- The runtime refuses the count in an account that is not the program's. -/
theorem countVote_held {proposal : AccountInfo} {vote : UInt8} {terms : CallTerms}
    (h : countVote d proposal vote w = .ok (terms, w')) :
    ∃ propData, heldBy d.programId w.ledger proposal.key = some propData := by
  obtain ⟨count, -, h⟩ := bind_ok h
  obtain ⟨newCount, -, h⟩ := bind_ok h
  obtain ⟨written, hwritten, -⟩ := bind_ok h
  obtain ⟨propData', hwrote⟩ := writeFields_ok hwritten
  exact ⟨_, hwrote.before⟩

theorem countVote_tallied {proposal : AccountInfo} {vote : UInt8} {terms : CallTerms}
    {propData : Bytes} (hheld : heldBy d.programId w.ledger proposal.key = some propData)
    (h : countVote d proposal vote w = .ok (terms, w')) :
    ∃ propData', Tallied (decide (vote = 1)) propData propData' ∧
      CallTerms.read propData' = .ok terms ∧ w'.issued = w.issued ∧
      heldBy d.programId w'.ledger =
        Function.update (heldBy d.programId w.ledger) proposal.key (some propData') := by
  obtain ⟨count, hcount, h⟩ := bind_ok h
  obtain ⟨newCount, hnew, h⟩ := bind_ok h
  obtain ⟨written, hwritten, h⟩ := bind_ok h
  obtain ⟨read, hterms, h⟩ := bind_ok h
  have hresult := Except.ok.inj h
  obtain rfl : read = terms := congrArg Prod.fst hresult
  obtain rfl : written = w' := congrArg Prod.snd hresult
  obtain ⟨propData', hwrote⟩ := writeFields_ok hwritten
  have hdata := (heldBy_eq_some.mp hheld).2
  have hput := hwrote.put
  obtain ⟨hadd, hsmall⟩ := checkedSucc_ok hnew
  have hread := (readU32_ok hcount).2
  have hafter : heldBy d.programId written.ledger proposal.key = some propData' := by
    rw [hwrote.after, Function.update_self]
  rw [(heldBy_eq_some.mp hafter).2] at hterms
  rw [hdata] at hput hread
  rw [hadd, hread] at hput
  rw [hread] at hsmall
  refine ⟨propData', ?_, hterms, hwrote.issued, hwrote.after⟩
  by_cases hvote : vote = 1
  · simp only [hvote, if_true] at hput hsmall
    rw [decide_eq_true hvote]
    exact tallied_yes hsmall hput
  · simp only [hvote, if_false] at hput hsmall
    rw [decide_eq_false hvote]
    exact tallied_no hsmall hput

/-! ## Votes -/

/-- A call for the voucher of a proposal: on the proposal's dWallet, at the voucher's address, on
the terms that the proposal has. -/
def IsVoucher (d : Deployment) (propData : Bytes) (invocation : Invocation) : Prop :=
  ∃ a c bump terms, CallTerms.read propData = .ok terms ∧
    voucherCall d a c (sliceAt propProposalId 32 propData) bump terms = .ok invocation ∧
    c.dwallet.key.toBytes = sliceAt propDwallet 32 propData ∧
    d.createProgramAddress [textBytes "signature_voucher", sliceAt propProposalId 32 propData,
      [terms.signatureVoucherBump]] d.programId = some c.signatureVoucher.key

theorem CallTerms.read_ok {propData : Bytes} {terms : CallTerms}
    (h : CallTerms.read propData = .ok terms) :
    terms.yesVotes = yesVotesOf propData ∧ terms.quorum = leValue (sliceAt propQuorum 4 propData) ∧
      terms.messageDigest.val = sliceAt propMessageDigest 32 propData ∧
      terms.userPubkey.val = sliceAt propUserPubkey 32 propData ∧
      terms.signatureScheme = leValue (sliceAt propSignatureScheme 2 propData) ∧
      terms.signatureVoucherBump = nthByte propData propSignatureVoucherBump := by
  obtain ⟨yesVotes, hyes, h⟩ := bind_ok h
  obtain ⟨quorum, hquorum, h⟩ := bind_ok h
  obtain ⟨messageDigest, hdigest, h⟩ := bind_ok h
  obtain ⟨userPubkey, hkey, h⟩ := bind_ok h
  obtain ⟨signatureScheme, hscheme, h⟩ := bind_ok h
  obtain rfl := Except.ok.inj h
  exact ⟨(readU32_ok hyes).2, (readU32_ok hquorum).2, (readKey_ok hdigest).2, (readKey_ok hkey).2,
    (readU16_ok hscheme).2, rfl⟩

/-- The write that closes a proposal leaves its terms alone. -/
theorem CallTerms.read_closed {propData propData' : Bytes}
    (h : AgreeOutside propStatus (propStatus + 1) propData propData') :
    CallTerms.read propData' = CallTerms.read propData := by
  have hyes : readU32 propData' propYesVotes = _ := readU32_congr h (.inl (by decide))
  have hquorum : readU32 propData' propQuorum = _ := readU32_congr h (.inl (by decide))
  have hdigest : readKey propData' propMessageDigest = _ := readKey_congr h (.inl (by decide))
  have hkey : readKey propData' propUserPubkey = _ := readKey_congr h (.inl (by decide))
  have hscheme : readU16 propData' propSignatureScheme = _ := readU16_congr h (.inl (by decide))
  have hbump : nthByte propData' propSignatureVoucherBump = _ := h.nthByte (.inr (by decide))
  unfold CallTerms.read
  rw [hyes, hquorum, hdigest, hkey, hscheme, hbump]

/-- What `cast_vote` has done. Blank accounts may have come in while the ika program ran. -/
structure Voted (d : Deployment) (accounts : List AccountInfo) (a : VoteAccounts) (yes : Bool)
    (bump : UInt8) (cnData propData propData' record : Bytes) (w w' : World) : Prop where
  signed : a.voter.isSigner = true
  verified : Verified d a.council.key (sliceAt propDwallet 32 propData) a.voter.key.toBytes cnData w
  proposal : heldBy d.programId w.ledger a.proposalAccount.key = some propData
  discriminator : nthByte propData 0 = proposalDiscriminator
  undecided : nthByte propData propStatus = statusOpen
  new : heldBy d.programId w.ledger a.voteRecordAccount.key = none
  after : Grown (Function.update (Function.update (heldBy d.programId w.ledger)
    a.voteRecordAccount.key (some record)) a.proposalAccount.key (some propData'))
    (heldBy d.programId w'.ledger)
  same : SameProposal propData propData'
  yesVotes : yesVotesOf propData' = yesVotesOf propData + if yes then 1 else 0
  noVotes : noVotesOf propData' = noVotesOf propData + if yes then 0 else 1
  status : nthByte propData' propStatus =
    if leValue (sliceAt propQuorum 4 propData) ≤ yesVotesOf propData' then statusApproved
    else statusOpen
  record : nthByte record 0 = voteRecordDiscriminator
  address : Unsigned accounts a.voteRecordAccount.key → findProgramAddress d
    [textBytes "vote", sliceAt propProposalId 32 propData, a.voter.key.toBytes] =
      .ok (a.voteRecordAccount.key, bump)
  issued : if leValue (sliceAt propQuorum 4 propData) ≤ yesVotesOf propData' then
      ∃ invocation, IsVoucher d propData' invocation ∧ w'.issued = w.issued ++ [invocation]
    else w'.issued = w.issued

/-- What `issue_signature_voucher` and the closing write have done. -/
theorem issueAndApprove_ok (hd : d.Sound) {a : VoteAccounts} {proposalId : Bytes}
    {proposalDwallet : Bytes32} {bump : UInt8} {terms : CallTerms} {propData : Bytes}
    (hheld : heldBy d.programId w.ledger a.proposalAccount.key = some propData)
    (h : issueAndApprove d accounts a proposalId proposalDwallet bump terms w = .ok w') :
    ∃ c invocation propData', voucherCall d a c proposalId bump terms = .ok invocation ∧
      w'.issued = w.issued ++ [invocation] ∧ c.dwallet.key.toBytes = proposalDwallet.val ∧
      d.createProgramAddress [textBytes "signature_voucher", proposalId,
        [terms.signatureVoucherBump]] d.programId = some c.signatureVoucher.key ∧
      putFields propData [(propStatus, [statusApproved])] = .ok propData' ∧
      Grown (Function.update (heldBy d.programId w.ledger) a.proposalAccount.key (some propData'))
        (heldBy d.programId w'.ledger) := by
  obtain ⟨c, -, h⟩ := bind_ok h
  obtain ⟨hdwallet, h⟩ := ensure_bind_iff.mp h
  obtain ⟨hvoucher, h⟩ := ensure_bind_iff.mp h
  obtain ⟨called, hcalled, h⟩ := bind_ok h
  obtain ⟨invocation, hcall, hissued, hika⟩ := invokeIka_ok hcalled
  obtain ⟨propData', hwrote⟩ := writeFields_ok h
  have hgrown := (hd.owners invocation _ _ hika).grown
  have hbefore := hwrote.before
  rw [hgrown.kept hheld] at hbefore
  have hput := hwrote.put
  rw [← Option.some.inj hbefore] at hput
  refine ⟨c, invocation, propData', hcall, hwrote.issued.trans hissued, hdwallet, hvoucher, hput,
    ?_⟩
  rw [hwrote.after]
  exact hgrown.update _ _

theorem castVote_voted (hd : d.Sound) (h : castVote d accounts data w = .ok w') :
    ∃ a cnData propData propData' record, VoteAccounts.of accounts = .ok a ∧
      sliceAt propProposalId 32 propData = sliceAt 0 32 data ∧
      Voted d accounts a (decide (nthByte data 32 = 1)) (nthByte data 33) cnData propData propData'
        record w w' := by
  obtain ⟨-, h⟩ := ensure_bind_iff.mp h
  obtain ⟨a, ha, h⟩ := bind_ok h
  obtain ⟨⟨proposalDwallet, w₁⟩, hrecord, h⟩ := bind_ok h
  obtain ⟨⟨terms, w₂⟩, hcount, h⟩ := bind_ok h
  obtain ⟨cnData, record, hrecorded, hdwallet⟩ := recordVote_recorded hd hrecord
  obtain ⟨propData, hheld₁⟩ := countVote_held hcount
  have hheld := hheld₁
  rw [hrecorded.after, Function.update_of_ne hrecorded.ne] at hheld
  have hdata := (heldBy_eq_some.mp hheld).2
  rw [hdata] at hrecorded hdwallet
  obtain ⟨propData₁, htallied, hterms, hissued, hafter⟩ := countVote_tallied hheld₁ hcount
  rw [hrecorded.after] at hafter
  obtain ⟨hyes, hquorum, -⟩ := CallTerms.read_ok hterms
  rw [htallied.same.quorum] at hquorum
  have hlast : heldBy d.programId w₂.ledger a.proposalAccount.key = some propData₁ := by
    rw [hafter, Function.update_self]
  have haddress := hrecorded.address
  rw [← hrecorded.id] at haddress
  dsimp only at h
  rw [hyes, hquorum] at h
  split_ifs at h with hreached
  · obtain ⟨c, invocation, propData', hcall, hcalled, hsame, hvoucher, hclosed, hgrown⟩ :=
      issueAndApprove_ok hd hlast h
    have hkept : AgreeOutside propStatus (propStatus + 1) propData₁ propData' :=
      agreeOutside_putFields hclosed (by simp)
    have hyes' : yesVotesOf propData' = yesVotesOf propData₁ := by
      rw [yesVotesOf, hkept.slices propYesVotes 4 (.inl (by decide)), yesVotesOf]
    have hno' : noVotesOf propData' = noVotesOf propData₁ := by
      rw [noVotesOf, hkept.slices propNoVotes 4 (.inl (by decide)), noVotesOf]
    have hsame' : SameProposal propData₁ propData' :=
      ⟨agreeOutside_putFields hclosed (by simp; decide),
        hkept.slices propQuorum 4 (.inl (by decide))⟩
    refine ⟨a, cnData, propData, propData', record, ha, hrecorded.id, hrecorded.signed,
      hrecorded.verified, hheld, hrecorded.discriminator, hrecorded.undecided, hrecorded.new, ?_,
      htallied.same.trans hsame', ?_, ?_, ?_, hrecorded.record, haddress, ?_⟩
    · rwa [hafter, Function.update_idem] at hgrown
    · rw [hyes', htallied.yesVotes]
    · rw [hno', htallied.noVotes]
    · rw [hyes', if_pos hreached]
      exact nthByte_of_slice (sliceAt_written hclosed (by simp [InOrder]) (by simp) rfl)
    · rw [hyes', if_pos hreached]
      have hid : sliceAt propProposalId 32 propData' = sliceAt 0 32 data :=
        (htallied.same.trans hsame').id.trans hrecorded.id
      refine ⟨invocation, ⟨a, c, nthByte data 34, terms, ?_, ?_, ?_, ?_⟩, ?_⟩
      · rw [CallTerms.read_closed hkept, hterms]
      · rw [hid, hcall]
      · rw [(htallied.same.trans hsame').dwallet, hsame, hdwallet]
      · rw [hid, hvoucher]
      · rw [hcalled, hissued, hrecorded.issued]
  · obtain rfl := Except.ok.inj h
    refine ⟨a, cnData, propData, propData₁, record, ha, hrecorded.id, hrecorded.signed,
      hrecorded.verified, hheld, hrecorded.discriminator, hrecorded.undecided, hrecorded.new, ?_,
      htallied.same, htallied.yesVotes, htallied.noVotes, ?_, hrecorded.record, haddress, ?_⟩
    · rw [hafter]
      exact Grown.refl _
    · rw [if_neg hreached, htallied.status, hrecorded.undecided]
    · rw [if_neg hreached, hissued, hrecorded.issued]

end Ika.Programs.Voting
