import IkaSdk.Lib.Entries
import IkaSdk.Lib.ShortVec
import IkaSdk.Solana.VoucherInstructions
import Mathlib.Data.Finset.Dedup
import Mathlib.Data.Finset.Card

/-! Solana's messages and signed transactions, as the bytes that the network takes, and the
library that compiles them. -/

namespace Ika.Solana

open Wire

/-! ## Compiled messages -/

structure MessageHeader where
  numRequiredSignatures : ℕ
  numReadonlySignedAccounts : ℕ
  numReadonlyUnsignedAccounts : ℕ
deriving DecidableEq

/-- An instruction over the message's account keys. A version-0 message names `accounts`
`accountKeyIndexes`, and a legacy one keeps `data` as text. -/
structure CompiledInstruction where
  programIdIndex : ℕ
  accounts : List ℕ
  data : Bytes
deriving DecidableEq

structure Message where
  header : MessageHeader
  accountKeys : List PublicKey
  recentBlockhash : PublicKey
  instructions : List CompiledInstruction
deriving DecidableEq

structure MessageAddressTableLookup where
  accountKey : PublicKey
  writableIndexes : List ℕ
  readonlyIndexes : List ℕ
deriving DecidableEq

structure MessageV0 where
  header : MessageHeader
  staticAccountKeys : List PublicKey
  recentBlockhash : PublicKey
  compiledInstructions : List CompiledInstruction
  addressTableLookups : List MessageAddressTableLookup
deriving DecidableEq

/-! ## Their bytes -/

def MessageHeader.wire (h : MessageHeader) : Option Bytes := do
  let required ← byteOf h.numRequiredSignatures
  let readonlySigned ← byteOf h.numReadonlySignedAccounts
  let readonlyUnsigned ← byteOf h.numReadonlyUnsignedAccounts
  return required ++ readonlySigned ++ readonlyUnsigned

def CompiledInstruction.wire (i : CompiledInstruction) : Option Bytes := do
  let program ← byteOf i.programIdIndex
  let accounts ← shortVec byteOf i.accounts
  let data ← shortVec (fun byte => some [byte]) i.data
  return program ++ accounts ++ data

def MessageAddressTableLookup.wire (l : MessageAddressTableLookup) : Option Bytes := do
  let writable ← shortVec byteOf l.writableIndexes
  let readonly ← shortVec byteOf l.readonlyIndexes
  return l.accountKey.toBytes ++ writable ++ readonly

/-- What both kinds of message begin with. -/
def fieldsWire (header : MessageHeader) (keys : List PublicKey) (recentBlockhash : PublicKey)
    (instructions : List CompiledInstruction) : Option Bytes := do
  let header ← header.wire
  let keys ← shortVec (fun key => some key.toBytes) keys
  let instructions ← shortVec CompiledInstruction.wire instructions
  return header ++ keys ++ recentBlockhash.toBytes ++ instructions

def Message.wire (m : Message) : Option Bytes :=
  fieldsWire m.header m.accountKeys m.recentBlockhash m.instructions

/-- The version, the fields of a message and the lookups. -/
def MessageV0.wire (m : MessageV0) : Option Bytes := do
  let fields ← fieldsWire m.header m.staticAccountKeys m.recentBlockhash m.compiledInstructions
  let lookups ← shortVec MessageAddressTableLookup.wire m.addressTableLookups
  return [0x80] ++ fields ++ lookups

/-- A signature of 64 bytes. -/
abbrev Signature := { bytes : Bytes // bytes.length = 64 }

inductive CompiledMessage
  | legacy (message : Message)
  | v0 (message : MessageV0)
deriving DecidableEq

namespace CompiledMessage

def header : CompiledMessage → MessageHeader
  | legacy m => m.header
  | v0 m => m.header

def wire : CompiledMessage → Option Bytes
  | legacy m => m.wire
  | v0 m => m.wire

end CompiledMessage

/-- A message with one signature for each signer that it requires. -/
structure SignedTransaction where
  message : CompiledMessage
  signatures : List Signature
  signed : signatures.length = message.header.numRequiredSignatures

def SignedTransaction.wire (t : SignedTransaction) : Option Bytes := do
  let signatures ← shortVec (fun signature => some signature.val) t.signatures
  let message ← t.message.wire
  return signatures ++ message

def packetDataSize : ℕ := 1232

/-! ## What the library compiles -/

/-- A durable nonce. Its instruction is the transaction's first one, the very same object, or is
put before the others. -/
structure NonceInformation where
  nonce : PublicKey
  nonceInstruction : TransactionInstruction
  isFirst : Bool
deriving DecidableEq

/-- A legacy transaction, with the keys that it has signature entries for. -/
structure LegacyTransaction where
  feePayer : Option PublicKey := none
  recentBlockhash : Option PublicKey := none
  nonceInfo : Option NonceInformation := none
  signatures : List PublicKey := []
  instructions : List TransactionInstruction := []
  nonceFirst : ∀ nonce ∈ nonceInfo, nonce.isFirst →
    instructions.head? = some nonce.nonceInstruction := by simp

structure AddressLookupTableAccount where
  key : PublicKey
  addresses : List PublicKey

namespace LegacyTransaction

/-- The instructions that compile: with a durable nonce, its own comes first. -/
def compiled (t : LegacyTransaction) : List TransactionInstruction :=
  match t.nonceInfo with
  | none => t.instructions
  | some nonce => if nonce.isFirst then t.instructions else nonce.nonceInstruction :: t.instructions

def payer (t : LegacyTransaction) : Option PublicKey := t.feePayer.or t.signatures.head?

def blockhash (t : LegacyTransaction) : Option PublicKey :=
  (t.nonceInfo.map (·.nonce)).or t.recentBlockhash

end LegacyTransaction

/-- Every key that a payer and instructions name. -/
def keysOf (payer : PublicKey) (instructions : List TransactionInstruction) : List PublicKey :=
  payer :: instructions.flatMap fun i => i.keys.map (·.pubkey) ++ [i.programId]

/-- The keys that have to sign. -/
def signersOf (payer : PublicKey) (instructions : List TransactionInstruction) :
    List PublicKey :=
  payer :: instructions.flatMap fun i => (i.keys.filter (·.isSigner)).map (·.pubkey)

/-- The library's compilation of a transaction to a message, which may throw. -/
structure Web3 where
  compileMessage : LegacyTransaction → Option Message
  compileToV0Message (payerKey recentBlockhash : PublicKey)
    (instructions : List TransactionInstruction)
    (addressLookupTableAccounts : List AddressLookupTableAccount) : Option MessageV0

/-- The compiled instruction names the keys of the instruction by their places. -/
structure CompiledFrom (keys : List PublicKey) (i : TransactionInstruction)
    (compiled : CompiledInstruction) : Prop where
  program : keys[compiled.programIdIndex]? = some i.programId
  accounts : List.Forall₂ (fun account index => keys[index]? = some account.pubkey) i.keys
    compiled.accounts
  data : compiled.data = i.data

/-- A header over as many keys. -/
structure MessageHeader.Over (h : MessageHeader) (keys : ℕ) : Prop where
  readonlySigned : h.numReadonlySignedAccounts ≤ h.numRequiredSignatures
  readonlyUnsigned : h.numRequiredSignatures + h.numReadonlyUnsignedAccounts ≤ keys

/-- A legacy message names each key once, and requires the signature of every signer and of every
key that has a signature entry. -/
structure LegacyTransaction.CompilesTo (t : LegacyTransaction) (payer : PublicKey)
    (m : Message) : Prop where
  nodup : m.accountKeys.Nodup
  keys : ∀ key, key ∈ m.accountKeys ↔ key ∈ keysOf payer t.compiled
  required : m.header.numRequiredSignatures =
    (signersOf payer t.compiled ++ t.signatures).toFinset.card
  header : m.header.Over m.accountKeys.length
  instructions : List.Forall₂ (CompiledFrom m.accountKeys) t.compiled m.instructions

/-- What the library's documentation says of compiling. A legacy transaction compiles with a
payer, a blockhash and no signature entry of an unknown key. A version-0 message has indexes of
one byte, and its blockhash is only written into it. -/
structure Web3.Documented (web3 : Web3) : Prop where
  legacy_compiles : ∀ t payer, t.payer = some payer →
    ((web3.compileMessage t).isSome ↔
      t.blockhash.isSome ∧ ∀ key ∈ t.signatures, key ∈ keysOf payer t.compiled)
  legacy_message : ∀ t payer m, t.payer = some payer → web3.compileMessage t = some m →
    t.CompilesTo payer m
  v0_blockhash : ∀ payer blockhash blockhash' instructions tables m,
    web3.compileToV0Message payer blockhash instructions tables = some m →
      web3.compileToV0Message payer blockhash' instructions tables =
        some { m with recentBlockhash := blockhash' }
  v0_header : ∀ payer blockhash instructions tables m,
    web3.compileToV0Message payer blockhash instructions tables = some m →
      m.header.Over m.staticAccountKeys.length
  v0_indexes : ∀ payer blockhash instructions tables m,
    web3.compileToV0Message payer blockhash instructions tables = some m →
      (∀ i ∈ m.compiledInstructions, i.programIdIndex < 256 ∧ ∀ index ∈ i.accounts, index < 256) ∧
      ∀ l ∈ m.addressTableLookups, ∀ index ∈ l.writableIndexes ++ l.readonlyIndexes, index < 256

end Ika.Solana
