import IkaSdk.Core.Grpc.SignRequest
import IkaSdk.Lib.Numbers
import IkaSdk.Solana.VoucherInstructions

/-! The builders of the instructions and messages that hold numbers, with each number as a caller
passes it. -/

namespace Ika.Solana.Builders

open Wire

def tokenProgramId : PublicKey :=
  ⟨[6, 221, 246, 225, 215, 101, 161, 147, 217, 203, 225, 70, 206, 235, 121, 172, 28, 180, 133, 237,
    95, 91, 55, 145, 58, 140, 245, 133, 126, 255, 0, 169], rfl⟩

def instructionsSysvarId : PublicKey :=
  ⟨[6, 167, 213, 23, 24, 123, 209, 102, 53, 218, 212, 4, 85, 253, 194, 192, 193, 36, 198, 143, 33,
    86, 117, 165, 219, 186, 203, 95, 8, 0, 0, 0], rfl⟩

/-- The library's program that verifies Ed25519 signatures, and its builder of an instruction. -/
structure Ed25519Program where
  programId : PublicKey
  createInstructionWithPublicKey (publicKey message signature : Bytes) :
    Except String TransactionInstruction

/-! ## Messages -/

def depositProofMessage (chainNumber network : Numeric) (sender : Bytes) : Except String Bytes := do
  let chainNumber ← writeNumber 4 chainNumber
  let network ← writeNumber 1 network
  return leBytes 2 depositProofMessageVersion ++ textBytes depositProofDomain ++ chainNumber ++
    network ++ leBytes 1 sender.length ++ sender

/-- A write of a big integer of eight bytes. -/
def setBigUint64 (buffer : Bytes) (offset : ℕ) (value : Numeric) : Except String Bytes := do
  setAt buffer offset (← writeBigInt 8 value)

structure GasRelease where
  programId : PublicKey
  deposit : PublicKey
  requestPublicKey : Bytes
  withdrawalSequence : Numeric
  ikaAmount : Numeric
  solAmount : Numeric

def gasReleaseMessage (params : GasRelease) : Except String Bytes := do
  let message := List.replicate (gasReleasePrefix.length + 32 * 3 + 8 * 3) 0
  let message ← setAt message 0 gasReleasePrefix
  let offset := gasReleasePrefix.length
  let message ← setAt message offset params.programId.toBytes
  let offset := offset + 32
  let message ← setAt message offset params.deposit.toBytes
  let offset := offset + 32
  let message ← setAt message offset params.requestPublicKey
  let offset := offset + 32
  let message ← setBigUint64 message offset params.withdrawalSequence
  let message ← setBigUint64 message (offset + 8) params.ikaAmount
  setBigUint64 message (offset + 16) params.solAmount

def encryptionKeyRegistrationMessage (chainNumber network curve : Numeric)
    (encryptionKey : Bytes) : Except String Bytes := do
  let domain := textBytes encryptionKeyRegistrationDomain
  let chainNumber ← writeNumber 4 chainNumber
  let network ← writeNumber 1 network
  let curve ← writeNumber 2 curve
  return leBytes 2 encryptionKeyRegistrationMessageVersion ++ uleb128 domain.length ++ domain ++
    chainNumber ++ network ++ curve ++ uleb128 encryptionKey.length ++ encryptionKey

/-! ## Seeds -/

inductive SeedArgument
  | number (value : Numeric)
  | bytes (value : Bytes)

def littleEndian (value : Numeric) (width : ℕ) : Except String Bytes := do
  Solana.littleEndian (← toBigInt value) width

def asBytes (component : SeedComponent) : SeedArgument → Except String Bytes
  | .number value =>
    match component.width with
    | none => .error s!"{component.name} is variable-length; pass its bytes, not a number"
    | some width => littleEndian value width
  | .bytes value => .ok value

def dwalletSeedRoot (curve : Numeric) (dwalletPublicKey : Bytes) : Except String Bytes := do
  return (← littleEndian curve 2) ++ dwalletPublicKey

section Builders

variable (P : Primitives)

def encryptionKeyPda (programId signerPublicKey : Bytes) (curve : Numeric) :
    Except String DerivedAddress := do
  deriveAddress P "EncryptionKey" programId
    (seedValues [("signer_public_key", .bytes signerPublicKey),
      ("curve_le", .number (← toBigInt curve))])

def gasDepositPda (programId userPublicKey : Bytes) : Except String DerivedAddress :=
  deriveAddress P "GasDeposit" programId (seedValues [("user_pubkey", .bytes userPublicKey)])

def gasDepositAddress (programId : PublicKey) (requestPublicKey : Bytes) :
    Except String (PublicKey × ℕ) := do
  let derived ← gasDepositPda P programId.toBytes requestPublicKey
  return (← publicKeyOf derived.address, derived.bump)

/-- The program's address for a seed of its own. -/
def authorityAddress (seed : String) (programId : PublicKey) : Except String PublicKey := do
  publicKeyOf (← findProgramAddress P [textBytes seed] programId.toBytes).address

def eventAuthorityAddress (programId : PublicKey) : Except String PublicKey :=
  authorityAddress P "__event_authority" programId

/-! ## Gas deposits -/

/-- The key a deposit is for: its secret key, or its proof already signed. -/
inductive DepositRequestKey
  | signing (keypair : TransportKeypair)
  | proven (publicKey proofOfPossession : Bytes)

def DepositRequestKey.publicKey : DepositRequestKey → Bytes
  | signing keypair => keypair.publicKey
  | proven publicKey _ => publicKey

def DepositRequestKey.proof (message : Bytes) : DepositRequestKey → Bytes
  | signing keypair => P.ed25519Sign message keypair.secretKey
  | proven _ proofOfPossession => proofOfPossession

structure CreateDepositParams where
  programId : PublicKey
  sender : PublicKey
  payer : Option PublicKey
  requestKey : DepositRequestKey
  chainNumber : Numeric
  network : Numeric

def createDepositInstructions (E : Ed25519Program) (params : CreateDepositParams) :
    Except String (List TransactionInstruction) := do
  let (deposit, bump) ← gasDepositAddress P params.programId params.requestKey.publicKey
  let message ← depositProofMessage params.chainNumber params.network params.sender.toBytes
  let signature := params.requestKey.proof P message
  let data ← setAt (List.replicate 98 0) 0 [← instructionByte "DWalletCreateDeposit"]
  let data ← setAt data 1 params.requestKey.publicKey
  let data ← setAt data 33 signature
  let data ← setAt data 97 [UInt8.ofNat bump]
  let proof ← E.createInstructionWithPublicKey params.requestKey.publicKey message signature
  let coordinator ← coordinatorAddress P params.programId
  return [proof, {
    programId := params.programId
    keys := [
      { pubkey := params.sender, isSigner := true, isWritable := false },
      { pubkey := deposit, isSigner := false, isWritable := true },
      { pubkey := coordinator, isSigner := false, isWritable := false },
      { pubkey := params.payer.getD params.sender, isSigner := true, isWritable := true },
      { pubkey := systemProgramId, isSigner := false, isWritable := false },
      { pubkey := instructionsSysvarId, isSigner := false, isWritable := false }]
    data }]

/-- The instruction byte, then two amounts. -/
def amountsData (name : String) (ikaAmount solAmount : Numeric) : Except String Bytes := do
  let data ← setAt (List.replicate 17 0) 0 [← instructionByte name]
  let data ← setBigUint64 data 1 ikaAmount
  setBigUint64 data 9 solAmount

structure TopUpParams where
  programId : PublicKey
  deposit : PublicKey
  payer : PublicKey
  ikaTokenAccount : PublicKey
  treasuryVault : PublicKey
  ikaAmount : Numeric
  solAmount : Numeric

def topUpInstruction (params : TopUpParams) : Except String TransactionInstruction := do
  let data ← amountsData "DWalletTopUp" params.ikaAmount params.solAmount
  let coordinator ← coordinatorAddress P params.programId
  return {
    programId := params.programId
    keys := [
      { pubkey := params.deposit, isSigner := false, isWritable := true },
      { pubkey := coordinator, isSigner := false, isWritable := false },
      { pubkey := params.ikaTokenAccount, isSigner := false, isWritable := true },
      { pubkey := params.treasuryVault, isSigner := false, isWritable := true },
      { pubkey := tokenProgramId, isSigner := false, isWritable := false },
      { pubkey := params.payer, isSigner := true, isWritable := true },
      { pubkey := systemProgramId, isSigner := false, isWritable := false }]
    data }

structure RequestWithdrawParams where
  programId : PublicKey
  owner : PublicKey
  deposit : PublicKey
  ikaAmount : Numeric
  solAmount : Numeric

def requestWithdrawInstruction (params : RequestWithdrawParams) :
    Except String TransactionInstruction := do
  let data ← amountsData "DWalletRequestWithdraw" params.ikaAmount params.solAmount
  let coordinator ← coordinatorAddress P params.programId
  return {
    programId := params.programId
    keys := [
      { pubkey := params.owner, isSigner := true, isWritable := false },
      { pubkey := params.deposit, isSigner := false, isWritable := true },
      { pubkey := coordinator, isSigner := false, isWritable := false }]
    data }

structure WithdrawParams extends GasRelease where
  owner : PublicKey
  ikaTokenAccount : PublicKey
  treasuryVault : PublicKey
  networkPublicKey : Bytes
  signature : Bytes

def withdrawInstructions (E : Ed25519Program) (params : WithdrawParams) :
    Except String (List TransactionInstruction) := do
  let message ← gasReleaseMessage params.toGasRelease
  let data ← setAt (List.replicate 73 0) 0 [← instructionByte "DWalletWithdraw"]
  let data ← setBigUint64 data 1 params.withdrawalSequence
  let data ← setAt data 9 params.signature
  let vaultAuthority ← authorityAddress P "vault_authority" params.programId
  let networkKey ← publicKeyOf (← networkEncryptionKeyPda P params.programId.toBytes
    params.networkPublicKey).address
  let release ← E.createInstructionWithPublicKey params.networkPublicKey message params.signature
  let coordinator ← coordinatorAddress P params.programId
  return [release, {
    programId := params.programId
    keys := [
      { pubkey := params.owner, isSigner := true, isWritable := true },
      { pubkey := params.deposit, isSigner := false, isWritable := true },
      { pubkey := coordinator, isSigner := false, isWritable := false },
      { pubkey := params.ikaTokenAccount, isSigner := false, isWritable := true },
      { pubkey := params.treasuryVault, isSigner := false, isWritable := true },
      { pubkey := vaultAuthority, isSigner := false, isWritable := false },
      { pubkey := tokenProgramId, isSigner := false, isWritable := false },
      { pubkey := networkKey, isSigner := false, isWritable := false },
      { pubkey := instructionsSysvarId, isSigner := false, isWritable := false }]
    data }]

/-! ## Encryption keys and shares -/

/-- The library's program verifies the signature over the message, all in this instruction. -/
def registrationPrecompileInstruction (E : Ed25519Program)
    (holderPublicKey message signature : Bytes) : Except String TransactionInstruction := do
  let publicKeyOffset := 2 + 14
  let signatureOffset := publicKeyOffset + 32
  let messageOffset := signatureOffset + 64
  let fields := [signatureOffset, 0xffff, publicKeyOffset, 0xffff, messageOffset, message.length,
    0xffff]
  let data ← setAt (List.replicate (messageOffset + message.length) 0) 0 [1]
  let data ← setAt data 2 (fields.flatMap (leBytes 2))
  let data ← setAt data publicKeyOffset holderPublicKey
  let data ← setAt data signatureOffset signature
  let data ← setAt data messageOffset message
  return { programId := E.programId, keys := [], data }

structure RegisterEncryptionKeyParams where
  programId : PublicKey
  payer : PublicKey
  holderPublicKey : Bytes
  chainNumber : Numeric
  network : Numeric
  curve : Numeric
  encryptionKey : Bytes
  signature : Bytes

def encryptionKeyEd25519SignatureScheme : UInt8 := 0

def registerEncryptionKeyInstructions (E : Ed25519Program) (params : RegisterEncryptionKeyParams) :
    Except String (List TransactionInstruction) := do
  let entry ← encryptionKeyPda P params.programId.toBytes params.holderPublicKey params.curve
  let data ← setAt (List.replicate 37 0) 0 [← instructionByte "DWalletRegisterEncryptionKey"]
  let data ← setAt data 1 params.holderPublicKey
  let data ← setAt data 33 [encryptionKeyEd25519SignatureScheme]
  let data ← setAt data 34 (← writeNumber 2 params.curve)
  let data ← setAt data 36 [UInt8.ofNat entry.bump]
  let message ← encryptionKeyRegistrationMessage params.chainNumber params.network params.curve
    params.encryptionKey
  let precompile ← registrationPrecompileInstruction E params.holderPublicKey message
    params.signature
  let holder ← publicKeyOf params.holderPublicKey
  let address ← publicKeyOf entry.address
  let coordinator ← coordinatorAddress P params.programId
  let eventAuthority ← eventAuthorityAddress P params.programId
  return [precompile, {
    programId := params.programId
    keys := [
      { pubkey := holder, isSigner := false, isWritable := false },
      { pubkey := address, isSigner := false, isWritable := true },
      { pubkey := coordinator, isSigner := false, isWritable := false },
      { pubkey := params.payer, isSigner := true, isWritable := true },
      { pubkey := systemProgramId, isSigner := false, isWritable := false },
      { pubkey := instructionsSysvarId, isSigner := false, isWritable := false },
      { pubkey := eventAuthority, isSigner := false, isWritable := false },
      { pubkey := params.programId, isSigner := false, isWritable := false }]
    data }]

structure AcceptShareParams where
  programId : PublicKey
  curve : ℕ
  dwalletPublicKey : Bytes
  importedSessionIdentifier : Option Bytes
  holderPublicKey : Bytes
  acceptanceDigest : Bytes
  signature : Bytes

def acceptEncryptedUserShareInstructions (E : Ed25519Program) (params : AcceptShareParams) :
    Except String (List TransactionInstruction) := do
  let program := params.programId.toBytes
  let dwallet ← dwalletPda P program params.curve params.dwalletPublicKey
    params.importedSessionIdentifier
  let share ← encryptedUserSecretKeySharePda P program params.curve params.dwalletPublicKey
    params.holderPublicKey params.importedSessionIdentifier
  let precompile ← registrationPrecompileInstruction E params.holderPublicKey
    params.acceptanceDigest params.signature
  let coordinator ← coordinatorAddress P params.programId
  let dwalletAddress ← publicKeyOf dwallet.address
  let shareAddress ← publicKeyOf share.address
  let eventAuthority ← eventAuthorityAddress P params.programId
  let byte ← instructionByte "DWalletAcceptEncryptedUserShare"
  return [precompile, {
    programId := params.programId
    keys := [
      { pubkey := coordinator, isSigner := false, isWritable := false },
      { pubkey := dwalletAddress, isSigner := false, isWritable := true },
      { pubkey := shareAddress, isSigner := false, isWritable := true },
      { pubkey := instructionsSysvarId, isSigner := false, isWritable := false },
      { pubkey := eventAuthority, isSigner := false, isWritable := false },
      { pubkey := params.programId, isSigner := false, isWritable := false }]
    data := [byte] }]

/-! ## Vouchers and signing parameters -/

/-- The scheme as it is written, which the other parameters' own scheme gives way to. -/
def issueSignatureVoucherInstruction (params : IssueVoucherParams) (signatureScheme : Numeric) :
    Except SdkError TransactionInstruction := do
  let _ ← requireApprovalUsability params.usability params.dwallet.toBytes
  let scheme ← fromPackage (writeNumber 2 signatureScheme)
  Solana.issueSignatureVoucherInstruction P { params with signatureScheme := leValue scheme }

def issueFutureSignatureVoucherInstruction (params : IssueVoucherParams)
    (signatureScheme : Numeric) : Except SdkError TransactionInstruction := do
  let instruction ← issueSignatureVoucherInstruction P params signatureScheme
  let byte ← fromPackage (instructionByte "DWalletIssueFutureSignatureVoucher")
  return { instruction with data := instruction.data.set 0 byte }

structure SigningParameterParams where
  programId : PublicKey
  signer : PublicKey
  signerIsNetworkKey : Bool
  kind : Numeric
  value : Numeric

def signingParameterInstruction (name : String) (params : SigningParameterParams) :
    Except String TransactionInstruction := do
  let data ← setAt (List.replicate 6 0) 0 [← instructionByte name]
  let data ← setAt data 1 (← writeNumber 1 params.kind)
  let data ← setAt data 2 (← writeNumber 4 params.value)
  let coordinator ← coordinatorAddress P params.programId
  let eventAuthority ← eventAuthorityAddress P params.programId
  let keys : List AccountMeta := [
    { pubkey := coordinator, isSigner := false, isWritable := true },
    { pubkey := params.signer, isSigner := true, isWritable := false },
    { pubkey := eventAuthority, isSigner := false, isWritable := false },
    { pubkey := params.programId, isSigner := false, isWritable := false }]
  if params.signerIsNetworkKey then
    let record ← publicKeyOf (← networkEncryptionKeyPda P params.programId.toBytes
      params.signer.toBytes).address
    return {
      programId := params.programId
      keys := keys ++ [{ pubkey := record, isSigner := false, isWritable := false }]
      data }
  else return { programId := params.programId, keys, data }

def pauseSigningParameterInstruction (params : SigningParameterParams) :
    Except String TransactionInstruction :=
  signingParameterInstruction P "DWalletPauseSigningParameter" params

def unpauseSigningParameterInstruction (params : SigningParameterParams) :
    Except String TransactionInstruction :=
  signingParameterInstruction P "DWalletUnpauseSigningParameter" params

end Builders

end Ika.Solana.Builders
