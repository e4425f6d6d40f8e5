import IkaSdk.Programs.Multisig
import IkaSdk.Solana.Accounts

/-! The page that members of a multisig use: the instructions it builds for the multisig program,
and what it shows of the program's accounts. -/

namespace Ika.Programs.Multisig

open Wire Ledgers Solana Crates

/-! ## Derived addresses -/

/-- `writeUInt16LE` and `writeUInt32LE`, which refuse a number that does not fit. -/
def writeUInt (width n : ℕ) : Except String Bytes :=
  if n < 256 ^ width then .ok (leBytes width n) else .error "the value is out of bounds"

section Addresses

variable (d : Deployment)

def findPda (seeds : List Bytes) : Except String (PublicKey × UInt8) :=
  (findProgramAddress d seeds).mapError fun _ =>
    "Unable to find a viable program address nonce"

def findMultisigPda (dwallet : PublicKey) : Except String (PublicKey × UInt8) :=
  findPda d [textBytes "multisig", dwallet.toBytes]

def findTransactionPda (multisig : PublicKey) (txIndex : ℕ) :
    Except String (PublicKey × UInt8) := do
  let buf ← writeUInt 4 txIndex
  findPda d [textBytes "transaction", multisig.toBytes, buf]

def findSignatureVoucherPda (tx : PublicKey) : Except String (PublicKey × UInt8) :=
  findPda d [textBytes "signature_voucher", tx.toBytes]

end Addresses

/-! ## Accounts -/

def getUint (width : ℕ) (data : Bytes) (offset : ℕ) : Except String ℕ :=
  if offset + width ≤ data.length then .ok (leValue (sliceAt offset width data))
  else .error "Offset is outside the bounds of the DataView"

structure MultisigAccount where
  threshold : ℕ
  memberCount : ℕ
  txIndex : ℕ
  dwallet : PublicKey
  members : List PublicKey

def parseMultisig (data : Bytes) : Except String MultisigAccount := do
  let memberCount ← getUint 2 data 36
  let members ← (List.range memberCount).mapM fun i =>
    publicKeyOf (slice data (43 + i * 32) (75 + i * 32))
  let threshold ← getUint 2 data 34
  let txIndex ← getUint 4 data 38
  let dwallet ← publicKeyOf (slice data 2 34)
  return { threshold, memberCount, txIndex, dwallet, members }

structure TransactionAccount where
  txIndex : ℕ
  proposer : PublicKey
  messageHash : Bytes
  approvalCount : ℕ
  rejectionCount : ℕ
  status : UInt8
  signatureVoucherBump : UInt8
  messageDataLen : ℕ
  messageData : Bytes

def parseTransaction (data : Bytes) : Except String TransactionAccount := do
  let mdl ← getUint 2 data 144
  let txIndex ← getUint 4 data 34
  let proposer ← publicKeyOf (slice data 38 70)
  let messageHash := slice data 70 102
  let approvalCount ← getUint 2 data 136
  let rejectionCount ← getUint 2 data 138
  return {
    txIndex, proposer, messageHash, approvalCount, rejectionCount,
    status := nthByte data 140
    signatureVoucherBump := nthByte data 141
    messageDataLen := mdl
    messageData := slice data 146 (146 + mdl) }

/-! ## Instructions -/

def buildCreateMultisigIx (programId pda dwallet dwalletProgramId owner payer : PublicKey)
    (threshold : ℕ) (members : List PublicKey) : Except String TransactionInstruction := do
  let thresholdBytes ← writeUInt 2 threshold
  let countBytes ← writeUInt 2 members.length
  let fields : List Field := [(0, [0]), (1, thresholdBytes), (3, countBytes)]
  return {
    programId
    keys := [
      ⟨pda, false, true⟩,
      ⟨dwallet, false, false⟩,
      ⟨dwalletProgramId, false, false⟩,
      ⟨owner, true, false⟩,
      ⟨payer, true, true⟩,
      ⟨systemProgramId, false, false⟩]
    data := copyFields (List.replicate (1 + 2 + 2 + members.length * 32) 0)
      (fields ++ members.zipIdx.map fun (m, i) => (5 + i * 32, m.toBytes)) }

def buildCreateTransactionIx (programId multisigPda txPda proposer payer : PublicKey)
    (messageHash userPubkey : Bytes) (signatureScheme : ℕ) (signatureVoucherBump txBump : UInt8)
    (messageData : Bytes) (futureSign : Bool) : Except String TransactionInstruction := do
  let schemeBytes ← writeUInt 2 signatureScheme
  let lengthBytes ← writeUInt 2 messageData.length
  return {
    programId
    keys := [
      ⟨multisigPda, false, true⟩,
      ⟨txPda, false, true⟩,
      ⟨proposer, true, false⟩,
      ⟨payer, true, true⟩,
      ⟨systemProgramId, false, false⟩]
    data := copyFields (List.replicate (1 + 32 + 32 + 2 + 1 + 1 + 1 + 2 + messageData.length) 0) [
      (0, [1]),
      (1, messageHash),
      (33, userPubkey),
      (65, schemeBytes),
      (67, [signatureVoucherBump]),
      (68, [if futureSign then 1 else 0]),
      (69, [txBump]),
      (70, lengthBytes),
      (72, messageData)] }

/-! ## The page -/

section Page

variable (d : Deployment)

/-- The transactions of a multisig by their indexes. An account that cannot be read is left out. -/
def fetchTransactions (getAccountInfo : PublicKey → Except String (Option Bytes))
    (multisigPda : PublicKey) (count : ℕ) :
    Except String (List (PublicKey × TransactionAccount)) := do
  let txs ← (List.range count).mapM fun i => do
    let (txPda, _) ← findTransactionPda d multisigPda i
    let info := (getAccountInfo txPda).toOption.join
    return info.bind fun data => (parseTransaction data).toOption.map fun account =>
      (txPda, account)
  return txs.reduceOption

/-- What the page shows of a multisig. -/
structure Loaded where
  multisigData : MultisigAccount
  transactions : List (PublicKey × TransactionAccount)

def loadMultisig (getAccountInfo : PublicKey → Except String (Option Bytes)) (addr : PublicKey) :
    Except String Loaded := do
  match ← getAccountInfo addr with
  | none => throw "Not found"
  | some data =>
    let multisigData ← parseMultisig data
    let transactions ← fetchTransactions d getAccountInfo addr multisigData.txIndex
    return { multisigData, transactions }

end Page

end Ika.Programs.Multisig
