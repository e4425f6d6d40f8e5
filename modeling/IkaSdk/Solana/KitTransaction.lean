import IkaSdk.Solana.IkaTransaction
import Mathlib.Logic.Function.Basic

/-! The transaction for apps with the other library: its instructions carry signers, and it keeps
the signers of its vouchers. -/

namespace Ika.Solana

open Wire Builders

/-! ## Instructions that carry signers -/

inductive AccountRole
  | readonly
  | writable
  | readonlySigner
  | writableSigner
deriving DecidableEq

/-- The library's signers, and the signer of a key pair. -/
structure KitSigners (Signer : Type) where
  address : Signer → PublicKey
  createKeyPairSignerFromBytes : Bytes → Signer
  address_keyPair : ∀ keypair : Keypair,
    address (createKeyPairSignerFromBytes keypair.secretKey) = keypair.publicKey

structure KitAccount (Signer : Type) where
  address : PublicKey
  role : AccountRole
  signer : Option Signer := none
deriving DecidableEq

/-- An account of an instruction, which names its address or does not. -/
inductive KitAccountMeta (Signer : Type)
  | byAddress (account : KitAccount Signer)
  | byLookupTable (role : AccountRole)
deriving DecidableEq

structure KitInstruction (Signer : Type) where
  programAddress : PublicKey
  accounts : Option (List (KitAccountMeta Signer))
  data : Option Bytes
deriving DecidableEq

/-- A party of the transaction: its address alone, or a signer. -/
inductive KitParty (Signer : Type)
  | address (address : PublicKey)
  | signer (signer : Signer)

structure KitTransactionParams (Signer : Type) where
  ikaClient : IkaTransactionClient
  owner : KitParty Signer
  payer : Option (KitParty Signer) := none
  userShareEncryptionKeys : Option UserShareEncryptionKeys := none
  addressesByLookupTableAddress : List (PublicKey × List PublicKey) := []

section Conversions

variable {Signer : Type}

def fromKitAccount : KitAccountMeta Signer → Except SdkError AccountMeta
  | .byLookupTable _ =>
    .error (.error "add instructions with their accounts by address, not by lookup table")
  | .byAddress account => .ok {
      pubkey := account.address
      isSigner := account.role = .readonlySigner ∨ account.role = .writableSigner
      isWritable := account.role = .writable ∨ account.role = .writableSigner }

def fromKit (instruction : KitInstruction Signer) : Except SdkError TransactionInstruction := do
  let keys ← (instruction.accounts.getD []).mapM fromKitAccount
  return { programId := instruction.programAddress, keys, data := instruction.data.getD [] }

def kitRole (isSigner isWritable : Bool) : AccountRole :=
  if isSigner then if isWritable then .writableSigner else .readonlySigner
  else if isWritable then .writable else .readonly

end Conversions

/-! ## The transaction -/

/-- `signers` are the signers by address that accounts are given. -/
structure KitTransaction (Signer : Type) where
  inner : IkaTransaction
  signers : PublicKey → Option Signer
  voucherSigners : List Signer

/-- A voucher's call, once the inner transaction returned the voucher: the key pair that it then
reads, and whether it returned. -/
structure Approval where
  voucher : PublicKey
  keypair : Option Keypair := none
  settled : Bool := false
deriving DecidableEq

/-- A transaction with its vouchers' calls. -/
structure KitRun (Signer : Type) where
  tx : KitTransaction Signer
  approvals : List Approval

/-- The steps that calls take, any number of them at once: an addition, the whole of another
method or a voucher's call up to its voucher, and then the two halves of the rest of it. -/
inductive KitEvent (Signer : Type)
  | add (instructions : List (KitInstruction Signer))
  | call (call : AddingCall)
  | reads (approval : ℕ)
  | attaches (approval : ℕ)

section Transaction

variable {Signer : Type} (K : KitSigners Signer) (P : Primitives) (E : Ed25519Program)
  (web3 : Web3)

def KitParty.addressOf : KitParty Signer → PublicKey
  | .address key => key
  | .signer party => K.address party

/-- A signer is known by its address. -/
def KitParty.register (signers : PublicKey → Option Signer) :
    KitParty Signer → PublicKey → Option Signer
  | .address _ => signers
  | .signer party => Function.update signers (K.address party) (some party)

namespace KitTransaction

def new (params : KitTransactionParams Signer) : KitTransaction Signer where
  inner := .new {
    ikaClient := params.ikaClient
    owner := params.owner.addressOf K
    payer := params.payer.map (·.addressOf K)
    userShareEncryptionKeys := params.userShareEncryptionKeys
    version := .version0 (some (params.addressesByLookupTableAddress.map fun table =>
      { key := table.1, addresses := table.2 })) }
  signers :=
    let signers := params.owner.register K fun _ => none
    match params.payer with
    | none => signers
    | some payer => payer.register K signers
  voucherSigners := []

def toKitAccount (tx : KitTransaction Signer) (account : AccountMeta) : KitAccount Signer where
  address := account.pubkey
  role := kitRole account.isSigner account.isWritable
  signer := if account.isSigner then tx.signers account.pubkey else none

def toKit (tx : KitTransaction Signer) (instruction : TransactionInstruction) :
    KitInstruction Signer where
  programAddress := instruction.programId
  accounts := some (instruction.keys.map fun account => .byAddress (tx.toKitAccount account))
  data := some instruction.data

/-- Every instruction of the transaction so far. -/
def instructions (tx : KitTransaction Signer) : List (KitInstruction Signer) :=
  tx.inner.instructionList.map tx.toKit

def add (tx : KitTransaction Signer) (instructions : List (KitInstruction Signer)) :
    KitTransaction Signer × Except TransactionError Unit :=
  match instructions.mapM fromKit with
  | .error e => (tx, .error (.refused e))
  | .ok converted =>
    let (inner, result) := tx.inner.call P E web3 (.adding (.add converted))
    ({ tx with inner }, result.map fun _ => ())

/-- The key pair becomes a signer, which joins the vouchers' and is known by its address. -/
def attach (tx : KitTransaction Signer) (keypair : Keypair) : KitTransaction Signer :=
  let signer := K.createKeyPairSignerFromBytes keypair.secretKey
  { tx with
    voucherSigners := tx.voucherSigners ++ [signer]
    signers := Function.update tx.signers (K.address signer) (some signer) }

end KitTransaction

namespace KitRun

def new (params : KitTransactionParams Signer) : KitRun Signer := ⟨.new K params, []⟩

/-- The inner call; a voucher that it returns is one that its own call goes on with. -/
def call (run : KitRun Signer) (call : AddingCall) : KitRun Signer :=
  let (inner, result) := run.tx.inner.call P E web3 (.adding call)
  let tx := { run.tx with inner }
  match result with
  | .ok (.voucher voucher) => ⟨tx, run.approvals ++ [{ voucher }]⟩
  | _ => ⟨tx, run.approvals⟩

/-- The call takes the last one of the signers. -/
def reads (run : KitRun Signer) (k : ℕ) : KitRun Signer :=
  match run.approvals[k]? with
  | some { voucher, keypair := none, settled } =>
    let keypair := run.tx.inner.signers.getLast?
    { run with approvals := run.approvals.set k { voucher, keypair, settled } }
  | _ => run

def attaches (run : KitRun Signer) (k : ℕ) : KitRun Signer :=
  match run.approvals[k]? with
  | some { voucher, keypair := some keypair, settled := false } =>
    ⟨run.tx.attach K keypair,
      run.approvals.set k { voucher, keypair := some keypair, settled := true }⟩
  | _ => run

def step (run : KitRun Signer) : KitEvent Signer → KitRun Signer
  | .add instructions => { run with tx := (run.tx.add P E web3 instructions).1 }
  | .call call => run.call P E web3 call
  | .reads k => run.reads k
  | .attaches k => run.attaches K k

def after (params : KitTransactionParams Signer) (events : List (KitEvent Signer)) :
    KitRun Signer :=
  events.foldl (step K P E web3) (new K params)

variable (run : KitRun Signer) (k : ℕ)

@[simp] theorem call_tx (call : AddingCall) : (run.call P E web3 call).tx =
    { run.tx with inner := (run.tx.inner.call P E web3 (.adding call)).1 } := by
  unfold KitRun.call
  dsimp only
  split <;> rfl

@[simp] theorem reads_tx : (run.reads k).tx = run.tx := by
  unfold reads
  split <;> rfl

@[simp] theorem attaches_inner : (run.attaches K k).tx.inner = run.tx.inner := by
  unfold attaches
  split <;> rfl

theorem after_concat (params : KitTransactionParams Signer) (events : List (KitEvent Signer))
    (event : KitEvent Signer) : after K P E web3 params (events ++ [event]) =
      (after K P E web3 params events).step K P E web3 event := by
  simp [after]

end KitRun

end Transaction

end Ika.Solana
