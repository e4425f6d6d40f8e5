import IkaSdk.Programs.Runtime

/-! The voting program: a dWallet's council and quorum, the proposals its members make, and the
votes that pass them. -/

namespace Ika.Programs.Voting

open Wire Ledgers Solana Crates

def maxMembers : ℕ := 10

def proposalDiscriminator : UInt8 := 1

def voteRecordDiscriminator : UInt8 := 2

def councilDiscriminator : UInt8 := 3

def statusOpen : UInt8 := 0

def statusApproved : UInt8 := 1

def councilLen : ℕ := 2 + 32 + 4 + 2 + 1 + 32 * maxMembers

def proposalLen : ℕ := 2 + 194

def voteRecordLen : ℕ := 2 + 67

def cnDwallet : ℕ := 2

def cnQuorum : ℕ := 34

def cnMemberCount : ℕ := 38

def cnBump : ℕ := 40

def cnMembers : ℕ := 41

def propProposalId : ℕ := 2

def propDwallet : ℕ := 34

def propMessageDigest : ℕ := 66

def propUserPubkey : ℕ := 98

def propSignatureScheme : ℕ := 130

def propCreator : ℕ := 132

def propYesVotes : ℕ := 164

def propNoVotes : ℕ := 168

def propQuorum : ℕ := 172

def propStatus : ℕ := 176

def propSignatureVoucherBump : ℕ := 177

def propBump : ℕ := 178

def vrVoter : ℕ := 2

def vrProposalId : ℕ := 34

def vrVote : ℕ := 66

def vrBump : ℕ := 67

inductive VotingError
  | dWalletMismatch
  | notAMember
  | notDWalletOwner
  | invalidCouncil
  | invalidDWalletAccount
  | invalidQuorum
  | duplicateMember
  | proposalClosed
  | proposalMismatch
  | invalidVoucherBump
  | voucherMismatch
  | invalidBump
deriving DecidableEq, Repr

def VotingError.code : VotingError → ℕ
  | dWalletMismatch => 0
  | notAMember => 1
  | notDWalletOwner => 2
  | invalidCouncil => 3
  | invalidDWalletAccount => 4
  | invalidQuorum => 5
  | duplicateMember => 6
  | proposalClosed => 7
  | proposalMismatch => 8
  | invalidVoucherBump => 9
  | voucherMismatch => 10
  | invalidBump => 11

def VotingError.toProgramError (e : VotingError) : ProgramError := .custom e.code

open VotingError

/-! ## Accounts -/

/-- The members that a council lists: as many as its count. -/
def membersOf (cnData : Bytes) : List Bytes :=
  (chunks (cnData.drop cnMembers)).take (leValue (sliceAt cnMemberCount 2 cnData))

section Program

variable (d : Deployment)

/-- Returns the quorum. -/
def verifyCouncilMember (council : AccountInfo) (dwallet member : Bytes) (w : World) :
    Except ProgramError ℕ := do
  ensure ((w.ledger council.key).owner = d.programId) invalidCouncil.toProgramError
  let data := (w.ledger council.key).data
  ensure (councilLen ≤ data.length ∧ nthByte data 0 = councilDiscriminator)
    invalidCouncil.toProgramError
  ensure (sliceAt cnDwallet 32 data = dwallet) invalidCouncil.toProgramError
  let bump := nthByte data cnBump
  ensure (d.createProgramAddress [textBytes "council", dwallet, [bump]] d.programId =
    some council.key) invalidCouncil.toProgramError
  let memberCount ← readU16 data cnMemberCount
  let members := (chunks (data.drop cnMembers)).take memberCount
  ensure (members.any (· = member)) notAMember.toProgramError
  readU32 data cnQuorum

/-! ## The council of a dWallet -/

structure CreateCouncilAccounts where
  councilAccount : AccountInfo
  dwallet : AccountInfo
  dwalletProgram : AccountInfo
  owner : AccountInfo
  payer : AccountInfo
  systemProgram : AccountInfo

def CreateCouncilAccounts.of : List AccountInfo → Except ProgramError CreateCouncilAccounts
  | councilAccount :: dwallet :: dwalletProgram :: owner :: payer :: systemProgram :: _ =>
    .ok { councilAccount, dwallet, dwalletProgram, owner, payer, systemProgram }
  | _ => .error .notEnoughAccountKeys

def councilFields (dwallet : PublicKey) (quorum memberCount : ℕ) (bump : UInt8)
    (members : Bytes) : List Field := [
  (0, [councilDiscriminator]),
  (1, [1]),
  (cnDwallet, dwallet.toBytes),
  (cnQuorum, leBytes 4 quorum),
  (cnMemberCount, leBytes 2 memberCount),
  (cnBump, [bump]),
  (cnMembers, members)]

def createCouncil (accounts : List AccountInfo) (data : Bytes) (w : World) :
    Except ProgramError World := do
  ensure (6 ≤ data.length) .invalidInstructionData
  let a ← CreateCouncilAccounts.of accounts
  ensure a.owner.isSigner .missingRequiredSignature
  ensure (a.payer.isSigner ∧ a.payer.isWritable) .missingRequiredSignature
  let quorum := leValue (sliceAt 0 4 data)
  let memberCount := leValue (sliceAt 4 2 data)
  ensure (memberCount ≠ 0 ∧ memberCount ≤ maxMembers) .invalidInstructionData
  let membersLen := memberCount * 32
  ensure (6 + membersLen ≤ data.length) .invalidInstructionData
  let members := sliceAt 6 membersLen data
  ensure (quorum ≠ 0 ∧ quorum ≤ memberCount) invalidQuorum.toProgramError
  ensure (¬hasDuplicate (chunks members)) duplicateMember.toProgramError
  let stored ← dwalletOwner d invalidDWalletAccount.toProgramError a.dwallet a.dwalletProgram w
  ensure (stored.val = a.owner.key.toBytes) notDWalletOwner.toProgramError
  let (expected, bump) ← findProgramAddress d [textBytes "council", a.dwallet.key.toBytes]
  ensure (a.councilAccount.key = expected) invalidCouncil.toProgramError
  let signerSeeds := [textBytes "council", a.dwallet.key.toBytes, [bump]]
  let w ← createPdaAccount d accounts a.payer a.councilAccount councilLen signerSeeds w
  writeFields d a.councilAccount (councilFields a.dwallet.key quorum memberCount bump members) w

/-! ## Proposals -/

structure CreateProposalAccounts where
  proposalAccount : AccountInfo
  council : AccountInfo
  dwallet : AccountInfo
  creator : AccountInfo
  payer : AccountInfo
  systemProgram : AccountInfo

def CreateProposalAccounts.of : List AccountInfo → Except ProgramError CreateProposalAccounts
  | proposalAccount :: council :: dwallet :: creator :: payer :: systemProgram :: _ =>
    .ok { proposalAccount, council, dwallet, creator, payer, systemProgram }
  | _ => .error .notEnoughAccountKeys

/-- What a creator asks for. -/
structure Proposal where
  proposalId : Bytes
  dwallet : PublicKey
  messageDigest : Bytes
  userPubkey : Bytes
  signatureScheme : Bytes
  creator : PublicKey
  quorum : ℕ
  signatureVoucherBump : UInt8
  bump : UInt8

def proposalFields (p : Proposal) : List Field := [
  (0, [proposalDiscriminator]),
  (1, [1]),
  (propProposalId, p.proposalId),
  (propDwallet, p.dwallet.toBytes),
  (propMessageDigest, p.messageDigest),
  (propUserPubkey, p.userPubkey),
  (propSignatureScheme, p.signatureScheme),
  (propCreator, p.creator.toBytes),
  (propYesVotes, leBytes 4 0),
  (propNoVotes, leBytes 4 0),
  (propQuorum, leBytes 4 p.quorum),
  (propStatus, [statusOpen]),
  (propSignatureVoucherBump, [p.signatureVoucherBump]),
  (propBump, [p.bump])]

/-- The proposal in the data of the instruction. -/
def proposalOf (a : CreateProposalAccounts) (quorum : ℕ) (data : Bytes) : Proposal where
  proposalId := sliceAt 0 32 data
  dwallet := a.dwallet.key
  messageDigest := sliceAt 32 32 data
  userPubkey := sliceAt 64 32 data
  signatureScheme := sliceAt 96 2 data
  creator := a.creator.key
  quorum := quorum
  signatureVoucherBump := nthByte data 98
  bump := nthByte data 99

def createProposal (accounts : List AccountInfo) (data : Bytes) (w : World) :
    Except ProgramError World := do
  ensure (100 ≤ data.length) .invalidInstructionData
  let a ← CreateProposalAccounts.of accounts
  ensure a.creator.isSigner .missingRequiredSignature
  ensure (a.payer.isSigner ∧ a.payer.isWritable) .missingRequiredSignature
  let quorum ← verifyCouncilMember d a.council a.dwallet.key.toBytes a.creator.key.toBytes w
  let p := proposalOf a quorum data
  requireCanonicalBump d invalidVoucherBump.toProgramError
    [textBytes "signature_voucher", p.proposalId] p.signatureVoucherBump
  requireCanonicalBump d invalidBump.toProgramError [textBytes "proposal", p.proposalId] p.bump
  let signerSeeds := [textBytes "proposal", p.proposalId, [p.bump]]
  let w ← createPdaAccount d accounts a.payer a.proposalAccount proposalLen signerSeeds w
  writeFields d a.proposalAccount (proposalFields p) w

/-! ## Votes -/

structure VoteAccounts where
  proposalAccount : AccountInfo
  voteRecordAccount : AccountInfo
  council : AccountInfo
  voter : AccountInfo
  payer : AccountInfo
  systemProgram : AccountInfo
  rest : List AccountInfo

def VoteAccounts.of : List AccountInfo → Except ProgramError VoteAccounts
  | proposalAccount :: voteRecordAccount :: council :: voter :: payer :: systemProgram :: rest =>
    .ok { proposalAccount, voteRecordAccount, council, voter, payer, systemProgram, rest }
  | _ => .error .notEnoughAccountKeys

def voteRecordFields (voter : PublicKey) (proposalId : Bytes) (vote bump : UInt8) :
    List Field := [
  (0, [voteRecordDiscriminator]),
  (1, [1]),
  (vrVoter, voter.toBytes),
  (vrProposalId, proposalId),
  (vrVote, [vote]),
  (vrBump, [bump])]

/-- The checks of `cast_vote`, and the record; returns the dWallet of the proposal. -/
def recordVote (accounts : List AccountInfo) (a : VoteAccounts) (proposalId : Bytes)
    (vote voteRecordBump : UInt8) (w : World) : Except ProgramError (Bytes32 × World) := do
  ensure a.voter.isSigner .missingRequiredSignature
  ensure (a.payer.isSigner ∧ a.payer.isWritable) .missingRequiredSignature
  ensure a.proposalAccount.isWritable .immutable
  let propData := (w.ledger a.proposalAccount.key).data
  ensure (proposalLen ≤ propData.length ∧ nthByte propData 0 = proposalDiscriminator)
    .invalidAccountData
  ensure (nthByte propData propStatus = statusOpen) proposalClosed.toProgramError
  ensure (sliceAt propProposalId 32 propData = proposalId) proposalMismatch.toProgramError
  let proposalDwallet ← readKey propData propDwallet
  let _ ← verifyCouncilMember d a.council proposalDwallet.val a.voter.key.toBytes w
  let seeds := [textBytes "vote", proposalId, a.voter.key.toBytes]
  requireCanonicalBump d invalidBump.toProgramError seeds voteRecordBump
  let w ← createPdaAccount d accounts a.payer a.voteRecordAccount voteRecordLen
    (seeds ++ [[voteRecordBump]]) w
  let w ← writeFields d a.voteRecordAccount
    (voteRecordFields a.voter.key proposalId vote voteRecordBump) w
  return (proposalDwallet, w)

/-- What `cast_vote` reads of a proposal for the call. -/
structure CallTerms where
  yesVotes : ℕ
  quorum : ℕ
  messageDigest : Bytes32
  userPubkey : Bytes32
  signatureScheme : ℕ
  signatureVoucherBump : UInt8

def CallTerms.read (propData : Bytes) : Except ProgramError CallTerms := do
  let yesVotes ← readU32 propData propYesVotes
  let quorum ← readU32 propData propQuorum
  let messageDigest ← readKey propData propMessageDigest
  let userPubkey ← readKey propData propUserPubkey
  let signatureScheme ← readU16 propData propSignatureScheme
  let signatureVoucherBump := nthByte propData propSignatureVoucherBump
  return { yesVotes, quorum, messageDigest, userPubkey, signatureScheme, signatureVoucherBump }

/-- The count goes up, and what the call needs is read. -/
def countVote (proposalAccount : AccountInfo) (vote : UInt8) (w : World) :
    Except ProgramError (CallTerms × World) := do
  let counterOffset := if vote = 1 then propYesVotes else propNoVotes
  let count ← readU32 (w.ledger proposalAccount.key).data counterOffset
  let newCount ← checkedSucc 4 count
  let w ← writeFields d proposalAccount [(counterOffset, leBytes 4 newCount)] w
  let terms ← CallTerms.read (w.ledger proposalAccount.key).data
  return (terms, w)

/-- The voucher that an approved proposal asks for. -/
def voucherCall (a : VoteAccounts) (c : CallAccounts) (proposalId : Bytes)
    (cpiAuthorityBump : UInt8) (terms : CallTerms) : Except Crates.ProgramError Invocation :=
  let ctx : DWalletContext :=
    ⟨c.dwalletProgram.key, c.cpiAuthority.key, c.callerProgram.key, cpiAuthorityBump⟩
  let issueAccounts : IssueAccounts :=
    ⟨c.coordinator.key, c.signatureVoucher.key, c.dwallet.key, a.payer.key, a.systemProgram.key⟩
  let voucherSeeds := [textBytes "signature_voucher", proposalId, [terms.signatureVoucherBump]]
  d.crate.issueSignatureVoucher d.ikaProgramId ctx issueAccounts terms.messageDigest noMetadata
    (UInt16.ofNat terms.signatureScheme) ⟨none, some terms.userPubkey⟩ (some voucherSeeds)

/-- What `cast_vote` does once the quorum is reached. -/
def issueAndApprove (accounts : List AccountInfo) (a : VoteAccounts) (proposalId : Bytes)
    (proposalDwallet : Bytes32) (cpiAuthorityBump : UInt8) (terms : CallTerms) (w : World) :
    Except ProgramError World := do
  let c ← CallAccounts.of a.rest
  ensure (c.dwallet.key.toBytes = proposalDwallet.val) dWalletMismatch.toProgramError
  let voucherSeeds := [textBytes "signature_voucher", proposalId, [terms.signatureVoucherBump]]
  ensure (d.createProgramAddress voucherSeeds d.programId = some c.signatureVoucher.key)
    voucherMismatch.toProgramError
  let w ← invokeIka d accounts (voucherCall d a c proposalId cpiAuthorityBump terms) w
  writeFields d a.proposalAccount [(propStatus, [statusApproved])] w

def castVote (accounts : List AccountInfo) (data : Bytes) (w : World) :
    Except ProgramError World := do
  ensure (35 ≤ data.length) .invalidInstructionData
  let proposalId := sliceAt 0 32 data
  let vote := nthByte data 32
  let voteRecordBump := nthByte data 33
  let cpiAuthorityBump := nthByte data 34
  let a ← VoteAccounts.of accounts
  let (proposalDwallet, w) ← recordVote d accounts a proposalId vote voteRecordBump w
  let (terms, w) ← countVote d a.proposalAccount vote w
  if terms.quorum ≤ terms.yesVotes then
    issueAndApprove d accounts a proposalId proposalDwallet cpiAuthorityBump terms w
  else return w

def processInstruction (accounts : List AccountInfo) (data : Bytes) (w : World) :
    Except ProgramError World :=
  match data with
  | [] => .error .invalidInstructionData
  | discriminator :: rest =>
    if discriminator = 0 then createProposal d accounts rest w
    else if discriminator = 1 then castVote d accounts rest w
    else if discriminator = 2 then createCouncil d accounts rest w
    else .error .invalidInstructionData

end Program

end Ika.Programs.Voting
