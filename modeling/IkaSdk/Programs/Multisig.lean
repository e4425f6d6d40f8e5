import IkaSdk.Programs.Runtime

/-! The multisig program: a dWallet's members and threshold, the transactions they propose,
and the approvals and rejections that decide each of them. -/

namespace Ika.Programs.Multisig

open Wire Ledgers Solana Crates

def maxMembers : ℕ := 10

def multisigDiscriminator : UInt8 := 1

def transactionDiscriminator : UInt8 := 2

def approvalRecordDiscriminator : UInt8 := 3

def statusActive : UInt8 := 0

def statusApproved : UInt8 := 1

def statusRejected : UInt8 := 2

def multisigLen : ℕ := 2 + 32 + 2 + 2 + 4 + 1 + 32 * maxMembers

def transactionLen : ℕ := 2 + 32 + 4 + 32 + 32 + 32 + 2 + 2 + 2 + 1 + 1 + 1 + 1 + 2 + 256

def approvalRecordLen : ℕ := 2 + 32 + 32 + 1 + 1

def msDwallet : ℕ := 2

def msThreshold : ℕ := 34

def msMemberCount : ℕ := 36

def msTxIndex : ℕ := 38

def msBump : ℕ := 42

def msMembers : ℕ := 43

def txMultisig : ℕ := 2

def txIndex : ℕ := 34

def txProposer : ℕ := 38

def txMessageHash : ℕ := 70

def txUserPubkey : ℕ := 102

def txSignatureScheme : ℕ := 134

def txApprovalCount : ℕ := 136

def txRejectionCount : ℕ := 138

def txStatus : ℕ := 140

def txSignatureVoucherBump : ℕ := 141

def txFutureSign : ℕ := 142

def txBump : ℕ := 143

def txMessageDataLen : ℕ := 144

def txMessageData : ℕ := 146

def arMember : ℕ := 2

def arTransaction : ℕ := 34

def arApproved : ℕ := 66

def arBump : ℕ := 67

inductive MultisigError
  | notAMember
  | dWalletMismatch
  | notDWalletOwner
  | invalidDWalletAccount
  | invalidThreshold
  | duplicateMember
  | transactionNotActive
  | transactionMismatch
  | invalidMultisig
  | invalidVoucherBump
  | voucherMismatch
  | invalidBump
deriving DecidableEq, Repr

/-- The number 2 belonged to an error that is retired. -/
def MultisigError.code : MultisigError → ℕ
  | notAMember => 0
  | dWalletMismatch => 1
  | notDWalletOwner => 3
  | invalidDWalletAccount => 4
  | invalidThreshold => 5
  | duplicateMember => 6
  | transactionNotActive => 7
  | transactionMismatch => 8
  | invalidMultisig => 9
  | invalidVoucherBump => 10
  | voucherMismatch => 11
  | invalidBump => 12

def MultisigError.toProgramError (e : MultisigError) : ProgramError := .custom e.code

open MultisigError

/-! ## Accounts -/

/-- The members that an account lists: as many as its count. -/
def membersOf (msData : Bytes) : List Bytes :=
  (chunks (msData.drop msMembers)).take (leValue (sliceAt msMemberCount 2 msData))

/-- The count of an account that does not hold one is 0. -/
def isMember (msData member : Bytes) : Bool :=
  if msMemberCount + 2 ≤ msData.length then (membersOf msData).any (· = member) else false

section Program

variable (d : Deployment)

def verifyMultisig (multisig : AccountInfo) (w : World) : Except ProgramError Unit := do
  ensure ((w.ledger multisig.key).owner = d.programId) invalidMultisig.toProgramError
  let data := (w.ledger multisig.key).data
  ensure (multisigLen ≤ data.length ∧ nthByte data 0 = multisigDiscriminator)
    invalidMultisig.toProgramError
  let dwallet ← readKey data msDwallet
  let bump := nthByte data msBump
  ensure (d.createProgramAddress [textBytes "multisig", dwallet.val, [bump]] d.programId =
    some multisig.key) invalidMultisig.toProgramError

/-! ## The multisig of a dWallet -/

structure CreateMultisigAccounts where
  multisigAccount : AccountInfo
  dwallet : AccountInfo
  dwalletProgram : AccountInfo
  owner : AccountInfo
  payer : AccountInfo
  systemProgram : AccountInfo

def CreateMultisigAccounts.of : List AccountInfo → Except ProgramError CreateMultisigAccounts
  | multisigAccount :: dwallet :: dwalletProgram :: owner :: payer :: systemProgram :: _ =>
    .ok { multisigAccount, dwallet, dwalletProgram, owner, payer, systemProgram }
  | _ => .error .notEnoughAccountKeys

def multisigFields (dwallet : PublicKey) (threshold memberCount : ℕ) (bump : UInt8)
    (members : Bytes) : List Field := [
  (0, [multisigDiscriminator]),
  (1, [1]),
  (msDwallet, dwallet.toBytes),
  (msThreshold, leBytes 2 threshold),
  (msMemberCount, leBytes 2 memberCount),
  (msTxIndex, leBytes 4 0),
  (msBump, [bump]),
  (msMembers, members)]

def createMultisig (accounts : List AccountInfo) (data : Bytes) (w : World) :
    Except ProgramError World := do
  ensure (4 ≤ data.length) .invalidInstructionData
  let a ← CreateMultisigAccounts.of accounts
  ensure a.owner.isSigner .missingRequiredSignature
  ensure (a.payer.isSigner ∧ a.payer.isWritable) .missingRequiredSignature
  let threshold := leValue (sliceAt 0 2 data)
  let memberCount := leValue (sliceAt 2 2 data)
  ensure (memberCount ≠ 0 ∧ memberCount ≤ maxMembers) .invalidInstructionData
  ensure (threshold ≠ 0 ∧ threshold ≤ memberCount) invalidThreshold.toProgramError
  let membersLen := memberCount * 32
  ensure (4 + membersLen ≤ data.length) .invalidInstructionData
  let members := sliceAt 4 membersLen data
  ensure (¬hasDuplicate (chunks members)) duplicateMember.toProgramError
  let stored ← dwalletOwner d invalidDWalletAccount.toProgramError a.dwallet a.dwalletProgram w
  ensure (stored.val = a.owner.key.toBytes) notDWalletOwner.toProgramError
  let (expected, bump) ← findProgramAddress d [textBytes "multisig", a.dwallet.key.toBytes]
  ensure (a.multisigAccount.key = expected) invalidMultisig.toProgramError
  let signerSeeds := [textBytes "multisig", a.dwallet.key.toBytes, [bump]]
  let w ← createPdaAccount d accounts a.payer a.multisigAccount multisigLen signerSeeds w
  writeFields d a.multisigAccount
    (multisigFields a.dwallet.key threshold memberCount bump members) w

/-! ## Transactions -/

structure CreateTransactionAccounts where
  multisigAccount : AccountInfo
  txAccount : AccountInfo
  proposer : AccountInfo
  payer : AccountInfo
  systemProgram : AccountInfo

def CreateTransactionAccounts.of : List AccountInfo →
    Except ProgramError CreateTransactionAccounts
  | multisigAccount :: txAccount :: proposer :: payer :: systemProgram :: _ =>
    .ok { multisigAccount, txAccount, proposer, payer, systemProgram }
  | _ => .error .notEnoughAccountKeys

/-- What a proposer asks for. -/
structure Proposal where
  multisig : PublicKey
  index : ℕ
  proposer : PublicKey
  messageHash : Bytes
  userPubkey : Bytes
  signatureScheme : Bytes
  signatureVoucherBump : UInt8
  futureSign : UInt8
  bump : UInt8
  messageDataLen : ℕ
  messageData : Bytes

def transactionFields (p : Proposal) : List Field := [
  (0, [transactionDiscriminator]),
  (1, [1]),
  (txMultisig, p.multisig.toBytes),
  (txIndex, leBytes 4 p.index),
  (txProposer, p.proposer.toBytes),
  (txMessageHash, p.messageHash),
  (txUserPubkey, p.userPubkey),
  (txSignatureScheme, p.signatureScheme),
  (txApprovalCount, leBytes 2 0),
  (txRejectionCount, leBytes 2 0),
  (txStatus, [statusActive]),
  (txSignatureVoucherBump, [p.signatureVoucherBump]),
  (txFutureSign, [p.futureSign]),
  (txBump, [p.bump]),
  (txMessageDataLen, leBytes 2 p.messageDataLen),
  (txMessageData, p.messageData)]

def createTransaction (accounts : List AccountInfo) (data : Bytes) (w : World) :
    Except ProgramError World := do
  ensure (71 ≤ data.length) .invalidInstructionData
  let a ← CreateTransactionAccounts.of accounts
  ensure a.proposer.isSigner .missingRequiredSignature
  ensure (a.payer.isSigner ∧ a.payer.isWritable) .missingRequiredSignature
  verifyMultisig d a.multisigAccount w
  let msData := (w.ledger a.multisigAccount.key).data
  ensure (isMember msData a.proposer.key.toBytes) notAMember.toProgramError
  let index ← readU32 msData msTxIndex
  let messageHash := sliceAt 0 32 data
  let userPubkey := sliceAt 32 32 data
  let signatureScheme := sliceAt 64 2 data
  let signatureVoucherBump := nthByte data 66
  requireCanonicalBump d invalidVoucherBump.toProgramError
    [textBytes "signature_voucher", a.txAccount.key.toBytes] signatureVoucherBump
  let futureSign := nthByte data 67
  ensure (futureSign = 0 ∨ futureSign = 1) .invalidInstructionData
  let bump := nthByte data 68
  let messageDataLen := leValue (sliceAt 69 2 data)
  ensure (messageDataLen ≤ 256) .invalidInstructionData
  ensure (71 + messageDataLen ≤ data.length) .invalidInstructionData
  let messageData := sliceAt 71 messageDataLen data
  let indexBytes := leBytes 4 index
  requireCanonicalBump d invalidBump.toProgramError
    [textBytes "transaction", a.multisigAccount.key.toBytes, indexBytes] bump
  let signerSeeds := [textBytes "transaction", a.multisigAccount.key.toBytes, indexBytes, [bump]]
  let w ← createPdaAccount d accounts a.payer a.txAccount transactionLen signerSeeds w
  let w ← writeFields d a.txAccount (transactionFields {
    multisig := a.multisigAccount.key
    index
    proposer := a.proposer.key
    messageHash
    userPubkey
    signatureScheme
    signatureVoucherBump
    futureSign
    bump
    messageDataLen
    messageData }) w
  let newIndex ← checkedSucc 4 index
  writeFields d a.multisigAccount [(msTxIndex, leBytes 4 newIndex)] w

/-! ## Approvals and rejections -/

structure VoteAccounts where
  multisigAccount : AccountInfo
  txAccount : AccountInfo
  approvalRecordAccount : AccountInfo
  member : AccountInfo
  payer : AccountInfo
  systemProgram : AccountInfo
  rest : List AccountInfo

def VoteAccounts.of : List AccountInfo → Except ProgramError VoteAccounts
  | multisigAccount :: txAccount :: approvalRecordAccount :: member :: payer :: systemProgram ::
      rest =>
    .ok { multisigAccount, txAccount, approvalRecordAccount, member, payer, systemProgram, rest }
  | _ => .error .notEnoughAccountKeys

def recordFields (member transaction : PublicKey) (approved bump : UInt8) : List Field := [
  (0, [approvalRecordDiscriminator]),
  (1, [1]),
  (arMember, member.toBytes),
  (arTransaction, transaction.toBytes),
  (arApproved, [approved]),
  (arBump, [bump])]

/-- What `approve` and `reject` have in common; returns the threshold and the member count. -/
def recordVote (accounts : List AccountInfo) (a : VoteAccounts) (approvalRecordBump : UInt8)
    (approved : UInt8) (w : World) : Except ProgramError ((ℕ × ℕ) × World) := do
  ensure a.member.isSigner .missingRequiredSignature
  ensure (a.payer.isSigner ∧ a.payer.isWritable) .missingRequiredSignature
  verifyMultisig d a.multisigAccount w
  let msData := (w.ledger a.multisigAccount.key).data
  ensure (isMember msData a.member.key.toBytes) notAMember.toProgramError
  let threshold ← readU16 msData msThreshold
  let memberCount ← readU16 msData msMemberCount
  let txData := (w.ledger a.txAccount.key).data
  ensure (transactionLen ≤ txData.length ∧ nthByte txData 0 = transactionDiscriminator)
    .invalidAccountData
  ensure (nthByte txData txStatus = statusActive) transactionNotActive.toProgramError
  ensure (sliceAt txMultisig 32 txData = a.multisigAccount.key.toBytes)
    transactionMismatch.toProgramError
  let seeds := [textBytes "approval", a.txAccount.key.toBytes, a.member.key.toBytes]
  requireCanonicalBump d invalidBump.toProgramError seeds approvalRecordBump
  let w ← createPdaAccount d accounts a.payer a.approvalRecordAccount approvalRecordLen
    (seeds ++ [[approvalRecordBump]]) w
  let w ← writeFields d a.approvalRecordAccount
    (recordFields a.member.key a.txAccount.key approved approvalRecordBump) w
  return ((threshold, memberCount), w)

/-- What `approve` reads of a transaction for the call. -/
structure CallTerms where
  messageHash : Bytes32
  userPubkey : Bytes32
  signatureScheme : ℕ
  signatureVoucherBump : UInt8
  futureSign : Bool
  proposer : Bytes32

def CallTerms.read (txData : Bytes) : Except ProgramError CallTerms := do
  let messageHash ← readKey txData txMessageHash
  let userPubkey ← readKey txData txUserPubkey
  let signatureScheme ← readU16 txData txSignatureScheme
  let signatureVoucherBump := nthByte txData txSignatureVoucherBump
  let futureSign := nthByte txData txFutureSign ≠ 0
  let proposer ← readKey txData txProposer
  return { messageHash, userPubkey, signatureScheme, signatureVoucherBump, futureSign, proposer }

/-- The voucher that an approved transaction asks for: a future one belongs to the proposer. -/
def voucherCall (a : VoteAccounts) (c : CallAccounts) (cpiAuthorityBump : UInt8)
    (terms : CallTerms) : Except Crates.ProgramError Invocation :=
  let ctx : DWalletContext :=
    ⟨c.dwalletProgram.key, c.cpiAuthority.key, c.callerProgram.key, cpiAuthorityBump⟩
  let issueAccounts : IssueAccounts :=
    ⟨c.coordinator.key, c.signatureVoucher.key, c.dwallet.key, a.payer.key, a.systemProgram.key⟩
  let voucherSeeds := [textBytes "signature_voucher", a.txAccount.key.toBytes,
    [terms.signatureVoucherBump]]
  let signatureScheme := UInt16.ofNat terms.signatureScheme
  if terms.futureSign then
    d.crate.issueFutureSignatureVoucher d.ikaProgramId ctx issueAccounts terms.messageHash
      noMetadata signatureScheme ⟨some terms.proposer, some terms.userPubkey⟩ (some voucherSeeds)
  else
    d.crate.issueSignatureVoucher d.ikaProgramId ctx issueAccounts terms.messageHash
      noMetadata signatureScheme ⟨none, some terms.userPubkey⟩ (some voucherSeeds)

/-- What `approve` does once the threshold is reached. -/
def issueAndClose (accounts : List AccountInfo) (a : VoteAccounts) (cpiAuthorityBump : UInt8)
    (terms : CallTerms) (w : World) : Except ProgramError World := do
  let c ← CallAccounts.of a.rest
  let multisigDwallet ← readKey (w.ledger a.multisigAccount.key).data msDwallet
  ensure (c.dwallet.key.toBytes = multisigDwallet.val) dWalletMismatch.toProgramError
  let voucherSeeds := [textBytes "signature_voucher", a.txAccount.key.toBytes,
    [terms.signatureVoucherBump]]
  ensure (d.createProgramAddress voucherSeeds d.programId = some c.signatureVoucher.key)
    voucherMismatch.toProgramError
  let w ← invokeIka d accounts (voucherCall d a c cpiAuthorityBump terms) w
  writeFields d a.txAccount [(txStatus, [statusApproved])] w

def approve (accounts : List AccountInfo) (data : Bytes) (w : World) :
    Except ProgramError World := do
  ensure (6 ≤ data.length) .invalidInstructionData
  let approvalRecordBump := nthByte data 4
  let cpiAuthorityBump := nthByte data 5
  let a ← VoteAccounts.of accounts
  let ((threshold, _), w) ← recordVote d accounts a approvalRecordBump 1 w
  let approvals ← readU16 (w.ledger a.txAccount.key).data txApprovalCount
  let newApprovals ← checkedSucc 2 approvals
  let w ← writeFields d a.txAccount [(txApprovalCount, leBytes 2 newApprovals)] w
  let terms ← CallTerms.read (w.ledger a.txAccount.key).data
  if threshold ≤ newApprovals then issueAndClose d accounts a cpiAuthorityBump terms w
  else return w

def reject (accounts : List AccountInfo) (data : Bytes) (w : World) :
    Except ProgramError World := do
  ensure (5 ≤ data.length) .invalidInstructionData
  let approvalRecordBump := nthByte data 4
  let a ← VoteAccounts.of accounts
  let ((threshold, memberCount), w) ← recordVote d accounts a approvalRecordBump 0 w
  let rejections ← readU16 (w.ledger a.txAccount.key).data txRejectionCount
  let newRejections ← checkedSucc 2 rejections
  let w ← writeFields d a.txAccount [(txRejectionCount, leBytes 2 newRejections)] w
  ensure (threshold ≤ memberCount) .arithmeticOverflow
  let rejectionThreshold ← checkedSucc 2 (memberCount - threshold)
  if rejectionThreshold ≤ newRejections then
    writeFields d a.txAccount [(txStatus, [statusRejected])] w
  else return w

def processInstruction (accounts : List AccountInfo) (data : Bytes) (w : World) :
    Except ProgramError World :=
  match data with
  | [] => .error .invalidInstructionData
  | discriminator :: rest =>
    if discriminator = 0 then createMultisig d accounts rest w
    else if discriminator = 1 then createTransaction d accounts rest w
    else if discriminator = 2 then approve d accounts rest w
    else if discriminator = 3 then reject d accounts rest w
    else .error .invalidInstructionData

end Program

end Ika.Programs.Multisig
