import IkaSdk.Core.Grpc.ShareAcceptance
import IkaSdk.Solana.InstructionBuilders
import IkaSdk.Solana.MeasuredSizes
import IkaSdk.Solana.SignatureWaits

/-! The transaction that an app's wallet signs: its instructions, legacy or version 0, the key
pairs of its vouchers, and the methods that add to it. -/

namespace Ika.Solana

open Wire Builders

/-! ## The transaction -/

/-- A key pair, whose secret key ends with its public key. -/
structure Keypair where
  publicKey : PublicKey
  secretKey : Bytes
  endsWithPublic : secretKey.drop 32 = publicKey.toBytes
deriving DecidableEq

/-- The user's keys, as far as the transaction reads them. -/
structure UserShareEncryptionKeys where
  encryptionKey : Bytes
  curve : Curve
  holder : TransportKeypair
  request : TransportKeypair

/-- What the transaction reads of its client, the reads of the chain apart. -/
structure IkaTransactionClient where
  programId : PublicKey
  chainNumber : Numeric
  networkValue : Numeric
  getRequestPublicKey : UserShareEncryptionKeys → Except SdkError Bytes
  getDWalletAddress : DWallet → Except SdkError PublicKey

/-- A legacy transaction that is added to, or a version-0 one with its lookup tables. -/
inductive TransactionVersion
  | legacy (transaction : LegacyTransaction)
  | version0 (addressLookupTableAccounts : Option (List AddressLookupTableAccount))

structure IkaTransactionParams where
  ikaClient : IkaTransactionClient
  owner : PublicKey
  payer : Option PublicKey := none
  userShareEncryptionKeys : Option UserShareEncryptionKeys := none
  version : TransactionVersion

/-- A legacy transaction keeps its own instructions, a version-0 one has them here. -/
structure IkaTransaction where
  ikaClient : IkaTransactionClient
  owner : PublicKey
  payer : PublicKey
  keys : Option UserShareEncryptionKeys
  signers : List Keypair
  transaction : Option LegacyTransaction
  instructions : List TransactionInstruction
  lookupTables : List AddressLookupTableAccount

/-- What a call throws. -/
inductive TransactionError
  | tooLarge (size : ℕ)
  /-- The library does not compile the instructions. -/
  | notCompiled
  | refused (error : SdkError)

/-- What a method adds, and the key pair of the voucher that this creates. -/
structure Addition where
  instructions : List TransactionInstruction
  voucher : Option Keypair := none

/-- The instructions with more of them at the end. -/
def LegacyTransaction.push (t : LegacyTransaction) (instructions : List TransactionInstruction) :
    LegacyTransaction where
  feePayer := t.feePayer
  recentBlockhash := t.recentBlockhash
  nonceInfo := t.nonceInfo
  signatures := t.signatures
  instructions := t.instructions ++ instructions
  nonceFirst := by
    intro nonce hnonce hfirst
    rw [List.head?_append, t.nonceFirst nonce hnonce hfirst, Option.some_or]

namespace IkaTransaction

def new (params : IkaTransactionParams) : IkaTransaction where
  ikaClient := params.ikaClient
  owner := params.owner
  payer := params.payer.getD params.owner
  keys := params.userShareEncryptionKeys
  signers := []
  transaction :=
    match params.version with
    | .legacy transaction => some transaction
    | .version0 _ => none
  instructions := []
  lookupTables :=
    match params.version with
    | .legacy _ => []
    | .version0 addressLookupTableAccounts => addressLookupTableAccounts.getD []

/-- Every instruction of the transaction so far. -/
def instructionList (tx : IkaTransaction) : List TransactionInstruction :=
  match tx.transaction with
  | some transaction => transaction.instructions
  | none => tx.instructions

def push (tx : IkaTransaction) (instructions : List TransactionInstruction) : IkaTransaction :=
  match tx.transaction with
  | some transaction => { tx with transaction := some (transaction.push instructions) }
  | none => { tx with instructions := tx.instructions ++ instructions }

def measured (tx : IkaTransaction) : Measured :=
  match tx.transaction with
  | some transaction => .legacy transaction
  | none => .versioned tx.instructions tx.lookupTables

section Sizes

variable (web3 : Web3)

def size (tx : IkaTransaction) : Option ℕ := tx.measured.size web3 tx.payer

def compileV0 (tx : IkaTransaction) (recentBlockhash : PublicKey) : Option MessageV0 :=
  web3.compileToV0Message tx.payer recentBlockhash tx.instructions tx.lookupTables

/-- The instructions are pushed, and cut off again when the transaction is too large. -/
def addInstructions (tx : IkaTransaction) (instructions : List TransactionInstruction) :
    IkaTransaction × Except TransactionError Unit :=
  let pushed := tx.push instructions
  match pushed.size web3 with
  -- the compilation throws, with the instructions pushed
  | none => (pushed, .error .notCompiled)
  | some size => if packetDataSize < size then (tx, .error (.tooLarge size)) else (pushed, .ok ())

/-- The message of a version-0 transaction, which the vouchers' key pairs sign. -/
def buildVersionedTransaction (tx : IkaTransaction) (recentBlockhash : PublicKey) :
    Except TransactionError MessageV0 := do
  ensure tx.transaction.isNone (TransactionError.refused (.error
    "this IkaTransaction adds to a legacy transaction: pass `version: 0` instead"))
  match tx.compileV0 web3 recentBlockhash with
  | none => throw .notCompiled
  | some message =>
    let required := message.staticAccountKeys.take message.header.numRequiredSignatures
    match tx.signers.find? fun signer => signer.publicKey ∉ required with
    | some _ => throw (.refused (.error "Cannot sign with non signer key"))
    | none => return message

end Sizes

def requireKeys (tx : IkaTransaction) : Except SdkError UserShareEncryptionKeys :=
  match tx.keys with
  | none => .error (.error "User share encryption keys are not set")
  | some keys => .ok keys

end IkaTransaction

/-! ## What the methods add -/

structure TopUpGasDepositParams where
  ikaTokenAccount : PublicKey
  ikaAmount : Numeric
  solAmount : Numeric
  requestPublicKey : Option Bytes := none

structure ApproveMessageParams where
  dWallet : DWallet
  message : Bytes
  signatureAlgorithm : SignatureAlgorithm
  hashScheme : SignatureHash
  messageMetadata : Option Bytes := none
  voucherOwner : Option PublicKey := none

/-- What a voucher's call is answered: the ownership check, and the new key pair. -/
structure VoucherAnswers where
  usable : Except SdkError DWalletUsableResult
  voucher : Keypair

def signEncryptionKeyRegistration (P : Primitives) (holder : TransportKeypair)
    (chainNumber network curve : Numeric) (encryptionKey : Bytes) : Except String Bytes := do
  let message ← Builders.encryptionKeyRegistrationMessage chainNumber network curve encryptionKey
  return P.ed25519Sign message holder.secretKey

namespace IkaTransaction

variable (P : Primitives) (E : Ed25519Program) (tx : IkaTransaction)

def registerEncryptionKey (curve : Option Curve) : Except SdkError Addition := do
  let keys ← tx.requireKeys
  let curveNumber := Numeric.number (fromCurveToNumber (curve.getD keys.curve))
  let chainNumber := tx.ikaClient.chainNumber
  let network := tx.ikaClient.networkValue
  let signature ← fromPackage
    (signEncryptionKeyRegistration P keys.holder chainNumber network curveNumber
      keys.encryptionKey)
  let instructions ← fromPackage (registerEncryptionKeyInstructions P E {
    programId := tx.ikaClient.programId
    payer := tx.payer
    holderPublicKey := keys.holder.publicKey
    chainNumber
    network
    curve := curveNumber
    encryptionKey := keys.encryptionKey
    signature })
  return { instructions }

/-- A key of another holder comes with the consent that was signed where the key is. -/
def createGasDeposit (consented : Option (Bytes × Bytes)) : Except SdkError Addition := do
  let requestKey ← (match consented with
    | none => tx.requireKeys.map fun keys => .signing keys.request
    | some (requestPublicKey, consent) => .ok (.proven requestPublicKey consent) :
      Except SdkError DepositRequestKey)
  let instructions ← fromPackage (createDepositInstructions P E {
    programId := tx.ikaClient.programId
    sender := tx.owner
    payer := some tx.payer
    requestKey
    chainNumber := tx.ikaClient.chainNumber
    network := tx.ikaClient.networkValue })
  return { instructions }

def topUpGasDeposit (params : TopUpGasDepositParams)
    (coordinator : Except SdkError DWalletCoordinatorAccount) : Except SdkError Addition := do
  let coordinator ← coordinator
  let requestPublicKey ← (match params.requestPublicKey with
    | some requestPublicKey => .ok requestPublicKey
    | none => tx.requireKeys >>= tx.ikaClient.getRequestPublicKey : Except SdkError Bytes)
  let deposit ← fromPackage (gasDepositAddress P tx.ikaClient.programId requestPublicKey)
  let instruction ← fromPackage (topUpInstruction P {
    programId := tx.ikaClient.programId
    deposit := deposit.1
    payer := tx.payer
    ikaTokenAccount := params.ikaTokenAccount
    treasuryVault := ← fromPackage (publicKeyOf coordinator.treasuryVault)
    ikaAmount := params.ikaAmount
    solAmount := params.solAmount })
  return { instructions := [instruction] }

def issueVoucher (params : ApproveMessageParams) (answers : VoucherAnswers)
    (issue : IssueVoucherParams → Except SdkError TransactionInstruction) :
    Except SdkError Addition := do
  let keys ← tx.requireKeys
  let usable ← answers.usable
  let digests := approvalMessageDigests P params.message (params.messageMetadata.getD [])
  let dwallet ← tx.ikaClient.getDWalletAddress params.dWallet
  let scheme ← fromPackage
    (signatureSchemeOf keys.curve params.signatureAlgorithm params.hashScheme)
  let requestPublicKey ← tx.ikaClient.getRequestPublicKey keys
  let instruction ← issue {
    programId := tx.ikaClient.programId
    owner := tx.owner
    dwallet
    voucher := answers.voucher.publicKey
    messageDigest := digests.1
    messageMetadataDigest := digests.2
    signatureScheme := scheme.number
    requestPublicKey := some requestPublicKey
    payer := some tx.payer
    voucherOwner := params.voucherOwner
    usability := ⟨usable.holder, some usable, none⟩ }
  return { instructions := [instruction], voucher := some answers.voucher }

def approveMessage (params : ApproveMessageParams) (answers : VoucherAnswers) :
    Except SdkError Addition :=
  tx.issueVoucher P params answers (Solana.issueSignatureVoucherInstruction P)

def approveFutureSign (params : ApproveMessageParams) (answers : VoucherAnswers) :
    Except SdkError Addition :=
  tx.issueVoucher P params answers (Solana.issueFutureSignatureVoucherInstruction P)

def setSignatureVoucherSigningKey (signatureVoucher : PublicKey) : Except SdkError Addition := do
  let requestPublicKey ← tx.ikaClient.getRequestPublicKey (← tx.requireKeys)
  let instruction ← fromPackage
    (setVoucherSigningKeyInstruction tx.ikaClient.programId tx.owner signatureVoucher
      requestPublicKey)
  return { instructions := [instruction] }

def setFutureSignatureVoucherSigningKey (futureSignatureVoucher : PublicKey) :
    Except SdkError Addition :=
  tx.setSignatureVoucherSigningKey futureSignatureVoucher

def revokeSignatureVoucher (signatureVoucher : PublicKey) : Except SdkError Addition := do
  let instruction ← fromPackage
    (revokeSignatureVoucherInstruction tx.ikaClient.programId tx.owner signatureVoucher)
  return { instructions := [instruction] }

/-- The dWallet comes with the acceptance that it carries, if it carries one. -/
def acceptEncryptedUserShare (dWallet : DWallet) (acceptance : Option ShareAcceptanceSignature) :
    Except SdkError Addition :=
  match acceptance with
  | none => .error (.error ("the dWallet carries no acceptance: it comes from " ++
      "requestDWalletDKG, requestImportedKeyDWalletVerification or receiveEncryptedUserShare"))
  | some acceptance => do
    let instructions ← fromPackage (acceptEncryptedUserShareInstructions P E {
      programId := tx.ikaClient.programId
      curve := dWallet.curve
      dwalletPublicKey := dWallet.publicKey
      importedSessionIdentifier := dWallet.importedSessionIdentifier
      holderPublicKey := acceptance.holderPublicKey
      acceptanceDigest := acceptance.acceptanceDigest
      signature := acceptance.signature })
    return { instructions }

def transferDWallet (dWallet : DWallet) (newOwner : PublicKey) : Except SdkError Addition := do
  let dwallet ← tx.ikaClient.getDWalletAddress dWallet
  let instruction ← fromPackage
    (transferOwnershipInstruction tx.ikaClient.programId tx.owner dwallet newOwner)
  return { instructions := [instruction] }

end IkaTransaction

/-! ## Calls -/

/-- A call of a method that adds, with what its reads of the chain are answered. -/
inductive AddingCall
  | add (instructions : List TransactionInstruction)
  | registerEncryptionKey (curve : Option Curve)
  | createGasDeposit (consented : Option (Bytes × Bytes))
  | topUpGasDeposit (params : TopUpGasDepositParams)
      (coordinator : Except SdkError DWalletCoordinatorAccount)
  | approveMessage (params : ApproveMessageParams) (answers : VoucherAnswers)
  | approveFutureSign (params : ApproveMessageParams) (answers : VoucherAnswers)
  | setFutureSignatureVoucherSigningKey (futureSignatureVoucher : PublicKey)
  | setSignatureVoucherSigningKey (signatureVoucher : PublicKey)
  | revokeSignatureVoucher (signatureVoucher : PublicKey)
  | acceptEncryptedUserShare (dWallet : DWallet) (acceptance : Option ShareAcceptanceSignature)
  | transferDWallet (dWallet : DWallet) (newOwner : PublicKey)

inductive TransactionCall
  | adding (call : AddingCall)
  | buildVersionedTransaction (recentBlockhash : PublicKey)

/-- What a call returns: the transaction itself, a voucher's address or a message. -/
inductive CallResult
  | transaction
  | voucher (address : PublicKey)
  | built (message : MessageV0)

def Addition.result (addition : Addition) : CallResult :=
  match addition.voucher with
  | none => .transaction
  | some voucher => .voucher voucher.publicKey

section Calls

variable (P : Primitives) (E : Ed25519Program) (web3 : Web3)

def AddingCall.addition (tx : IkaTransaction) : AddingCall → Except SdkError Addition
  | add instructions => .ok { instructions }
  | registerEncryptionKey curve => tx.registerEncryptionKey P E curve
  | createGasDeposit consented => tx.createGasDeposit P E consented
  | topUpGasDeposit params coordinator => tx.topUpGasDeposit P params coordinator
  | approveMessage params answers => tx.approveMessage P params answers
  | approveFutureSign params answers => tx.approveFutureSign P params answers
  | setFutureSignatureVoucherSigningKey voucher => tx.setFutureSignatureVoucherSigningKey voucher
  | setSignatureVoucherSigningKey voucher => tx.setSignatureVoucherSigningKey voucher
  | revokeSignatureVoucher voucher => tx.revokeSignatureVoucher voucher
  | acceptEncryptedUserShare dWallet acceptance =>
    tx.acceptEncryptedUserShare P E dWallet acceptance
  | transferDWallet dWallet newOwner => tx.transferDWallet dWallet newOwner

namespace IkaTransaction

/-- The instructions are added, and then the voucher's key pair joins the signers. -/
def perform (tx : IkaTransaction) (addition : Addition) :
    IkaTransaction × Except TransactionError CallResult :=
  match tx.addInstructions web3 addition.instructions with
  | (tx, .error e) => (tx, .error e)
  | (tx, .ok ()) =>
    ({ tx with signers := tx.signers ++ addition.voucher.toList }, .ok addition.result)

/-- One call, from the state that it finds to the state that it leaves. -/
def call (tx : IkaTransaction) :
    TransactionCall → IkaTransaction × Except TransactionError CallResult
  | .adding call =>
    match call.addition P E tx with
    | .error e => (tx, .error (.refused e))
    | .ok addition => tx.perform web3 addition
  | .buildVersionedTransaction recentBlockhash =>
    (tx, (tx.buildVersionedTransaction web3 recentBlockhash).map .built)

/-- The state after the calls, one after the other. -/
def after (tx : IkaTransaction) (calls : List TransactionCall) : IkaTransaction :=
  calls.foldl (fun tx call => (tx.call P E web3 call).1) tx

end IkaTransaction

end Calls

end Ika.Solana
