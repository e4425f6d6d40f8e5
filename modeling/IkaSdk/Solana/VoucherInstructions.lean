import IkaSdk.Core.Grpc.Errors
import IkaSdk.Solana.Addresses
import IkaSdk.Solana.Instructions

/-! The instruction builders of the vouchers and of a dWallet's transfer. -/

namespace Ika.Solana

open Wire

structure AccountMeta where
  pubkey : PublicKey
  isSigner : Bool
  isWritable : Bool
deriving DecidableEq

structure TransactionInstruction where
  programId : PublicKey
  keys : List AccountMeta
  data : Bytes
deriving DecidableEq

def instructions : List (String × ℕ) :=
  [("DWalletTransferOwnership", 129), ("DWalletCommitDWallet", 132),
    ("DWalletCreateDeposit", 136), ("DWalletTopUp", 137), ("DWalletRequestWithdraw", 141),
    ("DWalletWithdraw", 142), ("DWalletPauseSigningParameter", 151),
    ("DWalletUnpauseSigningParameter", 152), ("DWalletRegisterEncryptionKey", 153),
    ("DWalletIssueSignatureVoucher", 156), ("DWalletSetVoucherSigningKey", 157),
    ("DWalletRevokeSignatureVoucher", 158), ("DWalletTransferSignatureVoucher", 159),
    ("DWalletIssueFutureSignatureVoucher", 161), ("DWalletAcceptEncryptedUserShare", 165),
    ("DWalletTransferGasDeposit", 166)]

def instructionByte (name : String) : Except String UInt8 :=
  (look "instruction" instructions name).map UInt8.ofNat

/-! ## The ownership check before a voucher -/

inductive ResultChain
  | sui
  | solana
deriving DecidableEq, Repr

/-- What a builder reads of the ownership check's result. -/
structure DWalletUsableResult where
  chain : ResultChain
  address : Bytes
  holder : Bytes
deriving DecidableEq, Repr

/-- `check` is what the function that runs the check comes to. -/
structure ApprovalUsability where
  holderSignerPublicKey : Bytes
  usable : Option DWalletUsableResult
  check : Option (Except SdkError DWalletUsableResult)

def ApprovalUsability.result (usability : ApprovalUsability) :
    Except SdkError (Option DWalletUsableResult) :=
  match usability.usable, usability.check with
  | some usable, _ => .ok (some usable)
  | none, some check => check.map some
  | none, none => .ok none

def requireApprovalUsability (usability : ApprovalUsability) (dwalletAddress : Bytes) :
    Except SdkError DWalletUsableResult := do
  match ← usability.result with
  | none =>
    throw (.error ("an approval needs the ownership check: pass the result of the SDK's " ++
      "assertDWalletUsable for this dWallet, or a function that runs it. The builder does not " ++
      "approve for a dWallet whose share your key may not hold"))
  | some result =>
    ensure (result.chain = .solana ∧ result.address = dwalletAddress)
      (SdkError.error "the ownership check's result is for another dWallet than this approval's")
    ensure (result.holder = usability.holderSignerPublicKey)
      (SdkError.error "the ownership check's result is for another user key than the one given")
    return result

/-! ## The builders -/

def systemProgramId : PublicKey := ⟨List.replicate 32 0, rfl⟩

def issueVoucherHasOwner : UInt8 := 1

def issueVoucherHasSigningKey : UInt8 := 2

structure IssueVoucherParams where
  programId : PublicKey
  owner : PublicKey
  dwallet : PublicKey
  voucher : PublicKey
  messageDigest : Bytes
  messageMetadataDigest : Bytes := List.replicate 32 0
  signatureScheme : ℕ
  requestPublicKey : Option Bytes
  voucherOwner : Option PublicKey
  payer : Option PublicKey
  usability : ApprovalUsability

/-- Each field into the place of 32 bytes that its index gives it. -/
def setFields : List Bytes → ℕ → Bytes → Except String Bytes
  | [], _, data => .ok data
  | field :: fields, offset, data => do setFields fields (offset + 32) (← setAt data offset field)

/-- The data under any instruction byte. -/
def issueVoucherData (byte : UInt8) (params : IssueVoucherParams) : Except String Bytes := do
  let flags := (if params.voucherOwner.isNone then 0 else issueVoucherHasOwner) |||
    (if params.requestPublicKey.isNone then 0 else issueVoucherHasSigningKey)
  let optional := [params.voucherOwner.map (·.toBytes), params.requestPublicKey].filterMap id
  let data := List.replicate (68 + 32 * optional.length) 0
  let data ← setAt data 0 [byte]
  let data ← setAt data 1 params.messageDigest
  let data ← setAt data 33 params.messageMetadataDigest
  let data ← setAt data 65 (leBytes 2 params.signatureScheme)
  let data ← setAt data 67 [flags]
  setFields optional 68 data

section Builders

variable (P : Primitives)

def coordinatorAddress (programId : PublicKey) : Except String PublicKey := do
  publicKeyOf (← dwalletCoordinatorPda P programId.toBytes).address

def issueSignatureVoucherInstruction (params : IssueVoucherParams) :
    Except SdkError TransactionInstruction := do
  let _ ← requireApprovalUsability params.usability params.dwallet.toBytes
  let byte ← fromPackage (instructionByte "DWalletIssueSignatureVoucher")
  let data ← fromPackage (issueVoucherData byte params)
  let coordinator ← fromPackage (coordinatorAddress P params.programId)
  return {
    programId := params.programId
    keys := [
      { pubkey := coordinator, isSigner := false, isWritable := false },
      { pubkey := params.voucher, isSigner := true, isWritable := true },
      { pubkey := params.dwallet, isSigner := false, isWritable := false },
      { pubkey := params.owner, isSigner := true, isWritable := false },
      { pubkey := params.payer.getD params.owner, isSigner := true, isWritable := true },
      { pubkey := systemProgramId, isSigner := false, isWritable := false }]
    data }

def issueFutureSignatureVoucherInstruction (params : IssueVoucherParams) :
    Except SdkError TransactionInstruction := do
  let instruction ← issueSignatureVoucherInstruction P params
  let byte ← fromPackage (instructionByte "DWalletIssueFutureSignatureVoucher")
  return { instruction with data := instruction.data.set 0 byte }

end Builders

def voucherControlInstruction (programId voucherOwner voucher : PublicKey) (data : Bytes) :
    TransactionInstruction where
  programId := programId
  keys := [
    { pubkey := voucher, isSigner := false, isWritable := true },
    { pubkey := voucherOwner, isSigner := true, isWritable := false }]
  data := data

/-- The instruction byte, then a key, in a buffer of 33 bytes. -/
def keyedData (name : String) (key : Bytes) : Except String Bytes := do
  let data ← setAt (List.replicate 33 0) 0 [← instructionByte name]
  setAt data 1 key

def setVoucherSigningKeyInstruction (programId voucherOwner voucher : PublicKey)
    (requestPublicKey : Bytes) : Except String TransactionInstruction := do
  let data ← keyedData "DWalletSetVoucherSigningKey" requestPublicKey
  return voucherControlInstruction programId voucherOwner voucher data

def revokeSignatureVoucherInstruction (programId voucherOwner voucher : PublicKey) :
    Except String TransactionInstruction := do
  let byte ← instructionByte "DWalletRevokeSignatureVoucher"
  return voucherControlInstruction programId voucherOwner voucher [byte]

def transferSignatureVoucherInstruction (programId voucherOwner voucher newOwner : PublicKey) :
    Except String TransactionInstruction := do
  let data ← keyedData "DWalletTransferSignatureVoucher" newOwner.toBytes
  return voucherControlInstruction programId voucherOwner voucher data

def transferOwnershipInstruction (programId owner dwallet newOwner : PublicKey) :
    Except String TransactionInstruction := do
  let data ← keyedData "DWalletTransferOwnership" newOwner.toBytes
  return {
    programId
    keys := [
      { pubkey := owner, isSigner := true, isWritable := false },
      { pubkey := dwallet, isSigner := false, isWritable := true }]
    data }

end Ika.Solana
