import IkaSdk.Solana.VoucherInstructions

/-! The calls that the three program crates make to the ika program: one context
and one set of methods in each, written out crate by crate. -/

namespace Ika.Crates

open Wire Solana

/-! ## What the crates call with -/

/-- An array of 32 bytes. -/
abbrev Bytes32 := { bytes : Bytes // bytes.length = 32 }

namespace AccountMeta

def new (pubkey : PublicKey) (isSigner : Bool) : AccountMeta := ⟨pubkey, isSigner, true⟩

def newReadonly (pubkey : PublicKey) (isSigner : Bool) : AccountMeta := ⟨pubkey, isSigner, false⟩

end AccountMeta

namespace InstructionAccount

def readonly (address : PublicKey) : AccountMeta := ⟨address, false, false⟩

def writable (address : PublicKey) : AccountMeta := ⟨address, false, true⟩

def readonlySigner (address : PublicKey) : AccountMeta := ⟨address, true, false⟩

def writableSigner (address : PublicKey) : AccountMeta := ⟨address, true, true⟩

end InstructionAccount

structure Instruction where
  programId : PublicKey
  accounts : List AccountMeta
  data : Bytes
deriving DecidableEq

/-- A call of `invoke_signed`: the accounts are passed by their addresses. -/
structure Invocation where
  instruction : Instruction
  accountInfos : List PublicKey
  signersSeeds : List (List Bytes)
deriving DecidableEq

inductive ProgramError
  | incorrectProgramId
deriving DecidableEq, Repr

structure DWalletContext where
  dwalletProgram : PublicKey
  cpiAuthority : PublicKey
  callerProgram : PublicKey
  cpiAuthorityBump : UInt8

/-- The two keys of a voucher that its issuer may leave out. -/
structure VoucherKeys where
  owner : Option Bytes32
  signingKey : Option Bytes32

/-- The accounts that an issue of a voucher names, besides the context's. -/
structure IssueAccounts where
  coordinator : PublicKey
  signatureVoucher : PublicKey
  dwallet : PublicKey
  payer : PublicKey
  systemProgram : PublicKey

def toLeBytes (n : UInt16) : Bytes := leBytes 2 n.toNat

/-- The bytes that `extend_from_slice` adds for an optional array. -/
def extend (array : Option Bytes32) : Bytes := (array.map Subtype.val).getD []

/-! ## The Pinocchio crate -/

namespace Pinocchio

def cpiAuthoritySeed : Bytes := textBytes "__ika_cpi_authority"

def ixTransferOwnership : UInt8 := 129

def ixIssueSignatureVoucher : UInt8 := 156

def ixSetVoucherSigningKey : UInt8 := 157

def ixRevokeSignatureVoucher : UInt8 := 158

def ixTransferSignatureVoucher : UInt8 := 159

def ixIssueFutureSignatureVoucher : UInt8 := 161

def issueVoucherHasOwner : UInt8 := 1

def issueVoucherHasSigningKey : UInt8 := 2

section Calls

variable (ID : PublicKey) (ctx : DWalletContext)

def requireIkaProgram : Except ProgramError Unit :=
  if ctx.dwalletProgram ≠ ID then .error .incorrectProgramId else .ok ()

def issueVoucher (discriminator : UInt8) (accounts : IssueAccounts)
    (messageDigest messageMetadataDigest : Bytes32) (signatureScheme : UInt16)
    (keys : VoucherKeys) (voucherSeeds : Option (List Bytes)) :
    Except ProgramError Invocation := do
  let ownerFlag := if keys.owner.isSome then issueVoucherHasOwner else 0
  let signingKeyFlag := if keys.signingKey.isSome then issueVoucherHasSigningKey else 0
  let ixData := [discriminator] ++ messageDigest.val ++ messageMetadataDigest.val ++
    toLeBytes signatureScheme ++ [ownerFlag ||| signingKeyFlag] ++ extend keys.owner ++
    extend keys.signingKey
  let instructionAccounts := [
    InstructionAccount.readonly accounts.coordinator,
    InstructionAccount.writableSigner accounts.signatureVoucher,
    InstructionAccount.readonly accounts.dwallet,
    InstructionAccount.readonly ctx.callerProgram,
    InstructionAccount.readonlySigner ctx.cpiAuthority,
    InstructionAccount.writableSigner accounts.payer,
    InstructionAccount.readonly accounts.systemProgram]
  let cpiSigner := [cpiAuthoritySeed, [ctx.cpiAuthorityBump]]
  requireIkaProgram ID ctx
  let instruction : Instruction := ⟨ctx.dwalletProgram, instructionAccounts, ixData⟩
  let accountViews := [accounts.coordinator, accounts.signatureVoucher, accounts.dwallet,
    ctx.callerProgram, ctx.cpiAuthority, accounts.payer, accounts.systemProgram,
    ctx.dwalletProgram]
  match voucherSeeds with
  | some voucherSeeds => return ⟨instruction, accountViews, [cpiSigner, voucherSeeds]⟩
  | none => return ⟨instruction, accountViews, [cpiSigner]⟩

def issueSignatureVoucher := issueVoucher ID ctx ixIssueSignatureVoucher

def issueFutureSignatureVoucher := issueVoucher ID ctx ixIssueFutureSignatureVoucher

def voucherControl (discriminator : UInt8) (signatureVoucher : PublicKey)
    (key : Option Bytes32) : Except ProgramError Invocation := do
  let ixData := [discriminator] ++ extend key
  let instructionAccounts := [
    InstructionAccount.writable signatureVoucher,
    InstructionAccount.readonly ctx.callerProgram,
    InstructionAccount.readonlySigner ctx.cpiAuthority]
  requireIkaProgram ID ctx
  return ⟨⟨ctx.dwalletProgram, instructionAccounts, ixData⟩,
    [signatureVoucher, ctx.callerProgram, ctx.cpiAuthority, ctx.dwalletProgram],
    [[cpiAuthoritySeed, [ctx.cpiAuthorityBump]]]⟩

def setVoucherSigningKey (signatureVoucher : PublicKey) (signingKey : Bytes32) :=
  voucherControl ID ctx ixSetVoucherSigningKey signatureVoucher (some signingKey)

def revokeSignatureVoucher (signatureVoucher : PublicKey) :=
  voucherControl ID ctx ixRevokeSignatureVoucher signatureVoucher none

def transferSignatureVoucher (signatureVoucher : PublicKey) (newOwner : Bytes32) :=
  voucherControl ID ctx ixTransferSignatureVoucher signatureVoucher (some newOwner)

def transferDWallet (dwallet : PublicKey) (newOwner : Bytes32) :
    Except ProgramError Invocation := do
  let ixData := [ixTransferOwnership] ++ newOwner.val
  let instructionAccounts := [
    InstructionAccount.readonly ctx.callerProgram,
    InstructionAccount.readonlySigner ctx.cpiAuthority,
    InstructionAccount.writable dwallet]
  requireIkaProgram ID ctx
  return ⟨⟨ctx.dwalletProgram, instructionAccounts, ixData⟩,
    [ctx.callerProgram, ctx.cpiAuthority, dwallet, ctx.dwalletProgram],
    [[cpiAuthoritySeed, [ctx.cpiAuthorityBump]]]⟩

end Calls

end Pinocchio

/-! ## The Native crate -/

namespace Native

def cpiAuthoritySeed : Bytes := textBytes "__ika_cpi_authority"

def ixTransferOwnership : UInt8 := 129

def ixIssueSignatureVoucher : UInt8 := 156

def ixSetVoucherSigningKey : UInt8 := 157

def ixRevokeSignatureVoucher : UInt8 := 158

def ixTransferSignatureVoucher : UInt8 := 159

def ixIssueFutureSignatureVoucher : UInt8 := 161

def issueVoucherHasOwner : UInt8 := 1

def issueVoucherHasSigningKey : UInt8 := 2

section Calls

variable (ID : PublicKey) (ctx : DWalletContext)

def requireIkaProgram : Except ProgramError Unit :=
  if ctx.dwalletProgram ≠ ID then .error .incorrectProgramId else .ok ()

def issueVoucher (discriminator : UInt8) (accounts : IssueAccounts)
    (messageDigest messageMetadataDigest : Bytes32) (signatureScheme : UInt16)
    (keys : VoucherKeys) (voucherSeeds : Option (List Bytes)) :
    Except ProgramError Invocation := do
  let ownerFlag := if keys.owner.isSome then issueVoucherHasOwner else 0
  let signingKeyFlag := if keys.signingKey.isSome then issueVoucherHasSigningKey else 0
  let ixData := [discriminator] ++ messageDigest.val ++ messageMetadataDigest.val ++
    toLeBytes signatureScheme ++ [ownerFlag ||| signingKeyFlag] ++ extend keys.owner ++
    extend keys.signingKey
  requireIkaProgram ID ctx
  let ix : Instruction := ⟨ctx.dwalletProgram, [
    AccountMeta.newReadonly accounts.coordinator false,
    AccountMeta.new accounts.signatureVoucher true,
    AccountMeta.newReadonly accounts.dwallet false,
    AccountMeta.newReadonly ctx.callerProgram false,
    AccountMeta.newReadonly ctx.cpiAuthority true,
    AccountMeta.new accounts.payer true,
    AccountMeta.newReadonly accounts.systemProgram false], ixData⟩
  let accountInfos := [accounts.coordinator, accounts.signatureVoucher, accounts.dwallet,
    ctx.callerProgram, ctx.cpiAuthority, accounts.payer, accounts.systemProgram,
    ctx.dwalletProgram]
  let cpiSeeds := [cpiAuthoritySeed, [ctx.cpiAuthorityBump]]
  match voucherSeeds with
  | some voucherSeeds => return ⟨ix, accountInfos, [cpiSeeds, voucherSeeds]⟩
  | none => return ⟨ix, accountInfos, [cpiSeeds]⟩

def issueSignatureVoucher := issueVoucher ID ctx ixIssueSignatureVoucher

def issueFutureSignatureVoucher := issueVoucher ID ctx ixIssueFutureSignatureVoucher

def voucherControl (discriminator : UInt8) (signatureVoucher : PublicKey)
    (key : Option Bytes32) : Except ProgramError Invocation := do
  let ixData := [discriminator] ++ extend key
  requireIkaProgram ID ctx
  let ix : Instruction := ⟨ctx.dwalletProgram, [
    AccountMeta.new signatureVoucher false,
    AccountMeta.newReadonly ctx.callerProgram false,
    AccountMeta.newReadonly ctx.cpiAuthority true], ixData⟩
  return ⟨ix, [signatureVoucher, ctx.callerProgram, ctx.cpiAuthority, ctx.dwalletProgram],
    [[cpiAuthoritySeed, [ctx.cpiAuthorityBump]]]⟩

def setVoucherSigningKey (signatureVoucher : PublicKey) (signingKey : Bytes32) :=
  voucherControl ID ctx ixSetVoucherSigningKey signatureVoucher (some signingKey)

def revokeSignatureVoucher (signatureVoucher : PublicKey) :=
  voucherControl ID ctx ixRevokeSignatureVoucher signatureVoucher none

def transferSignatureVoucher (signatureVoucher : PublicKey) (newOwner : Bytes32) :=
  voucherControl ID ctx ixTransferSignatureVoucher signatureVoucher (some newOwner)

def transferDWallet (dwallet : PublicKey) (newOwner : PublicKey) :
    Except ProgramError Invocation := do
  let ixData := [ixTransferOwnership] ++ newOwner.toBytes
  requireIkaProgram ID ctx
  let ix : Instruction := ⟨ctx.dwalletProgram, [
    AccountMeta.newReadonly ctx.callerProgram false,
    AccountMeta.newReadonly ctx.cpiAuthority true,
    AccountMeta.new dwallet false], ixData⟩
  return ⟨ix, [ctx.callerProgram, ctx.cpiAuthority, dwallet, ctx.dwalletProgram],
    [[cpiAuthoritySeed, [ctx.cpiAuthorityBump]]]⟩

end Calls

end Native

/-! ## The Anchor crate -/

namespace Anchor

def cpiAuthoritySeed : Bytes := textBytes "__ika_cpi_authority"

def ixTransferOwnership : UInt8 := 129

def ixIssueSignatureVoucher : UInt8 := 156

def ixSetVoucherSigningKey : UInt8 := 157

def ixRevokeSignatureVoucher : UInt8 := 158

def ixTransferSignatureVoucher : UInt8 := 159

def ixIssueFutureSignatureVoucher : UInt8 := 161

def issueVoucherHasOwner : UInt8 := 1

def issueVoucherHasSigningKey : UInt8 := 2

section Calls

variable (ID : PublicKey) (ctx : DWalletContext)

def requireIkaProgram : Except ProgramError Unit :=
  if ctx.dwalletProgram ≠ ID then .error .incorrectProgramId else .ok ()

def issueVoucher (discriminator : UInt8) (accounts : IssueAccounts)
    (messageDigest messageMetadataDigest : Bytes32) (signatureScheme : UInt16)
    (keys : VoucherKeys) (voucherSeeds : Option (List Bytes)) :
    Except ProgramError Invocation := do
  let ownerFlag := if keys.owner.isSome then issueVoucherHasOwner else 0
  let signingKeyFlag := if keys.signingKey.isSome then issueVoucherHasSigningKey else 0
  let ixData := [discriminator] ++ messageDigest.val ++ messageMetadataDigest.val ++
    toLeBytes signatureScheme ++ [ownerFlag ||| signingKeyFlag] ++ extend keys.owner ++
    extend keys.signingKey
  requireIkaProgram ID ctx
  let ix : Instruction := ⟨ctx.dwalletProgram, [
    AccountMeta.newReadonly accounts.coordinator false,
    AccountMeta.new accounts.signatureVoucher true,
    AccountMeta.newReadonly accounts.dwallet false,
    AccountMeta.newReadonly ctx.callerProgram false,
    AccountMeta.newReadonly ctx.cpiAuthority true,
    AccountMeta.new accounts.payer true,
    AccountMeta.newReadonly accounts.systemProgram false], ixData⟩
  let accountInfos := [accounts.coordinator, accounts.signatureVoucher, accounts.dwallet,
    ctx.callerProgram, ctx.cpiAuthority, accounts.payer, accounts.systemProgram,
    ctx.dwalletProgram]
  let cpiSeeds := [cpiAuthoritySeed, [ctx.cpiAuthorityBump]]
  match voucherSeeds with
  | some voucherSeeds => return ⟨ix, accountInfos, [cpiSeeds, voucherSeeds]⟩
  | none => return ⟨ix, accountInfos, [cpiSeeds]⟩

def issueSignatureVoucher := issueVoucher ID ctx ixIssueSignatureVoucher

def issueFutureSignatureVoucher := issueVoucher ID ctx ixIssueFutureSignatureVoucher

def voucherControl (discriminator : UInt8) (signatureVoucher : PublicKey)
    (key : Option Bytes32) : Except ProgramError Invocation := do
  let ixData := [discriminator] ++ extend key
  requireIkaProgram ID ctx
  let ix : Instruction := ⟨ctx.dwalletProgram, [
    AccountMeta.new signatureVoucher false,
    AccountMeta.newReadonly ctx.callerProgram false,
    AccountMeta.newReadonly ctx.cpiAuthority true], ixData⟩
  return ⟨ix, [signatureVoucher, ctx.callerProgram, ctx.cpiAuthority, ctx.dwalletProgram],
    [[cpiAuthoritySeed, [ctx.cpiAuthorityBump]]]⟩

def setVoucherSigningKey (signatureVoucher : PublicKey) (signingKey : Bytes32) :=
  voucherControl ID ctx ixSetVoucherSigningKey signatureVoucher (some signingKey)

def revokeSignatureVoucher (signatureVoucher : PublicKey) :=
  voucherControl ID ctx ixRevokeSignatureVoucher signatureVoucher none

def transferSignatureVoucher (signatureVoucher : PublicKey) (newOwner : Bytes32) :=
  voucherControl ID ctx ixTransferSignatureVoucher signatureVoucher (some newOwner)

def transferDWallet (dwallet : PublicKey) (newOwner : PublicKey) :
    Except ProgramError Invocation := do
  let ixData := [ixTransferOwnership] ++ newOwner.toBytes
  let accounts := [
    AccountMeta.newReadonly ctx.callerProgram false,
    AccountMeta.newReadonly ctx.cpiAuthority true,
    AccountMeta.new dwallet false]
  requireIkaProgram ID ctx
  return ⟨⟨ctx.dwalletProgram, accounts, ixData⟩,
    [ctx.callerProgram, ctx.cpiAuthority, dwallet, ctx.dwalletProgram],
    [[cpiAuthoritySeed, [ctx.cpiAuthorityBump]]]⟩

end Calls

end Anchor

end Ika.Crates
