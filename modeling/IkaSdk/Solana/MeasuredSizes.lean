import IkaSdk.Solana.MessageCompilation
import Mathlib.Algebra.Order.BigOperators.Group.List

/-! The size that a transaction is measured at, beside the bytes that it takes once signed. -/

namespace Ika.Solana

open Wire

/-! ## The size, field by field -/

def shortVecLength (length : ℕ) : ℕ := if length < 0x80 then 1 else if length < 0x4000 then 2 else 3

def vecLength (length : ℕ) : ℕ := shortVecLength length + length

def signaturesLength (signers : ℕ) : ℕ := shortVecLength signers + 64 * signers

/-- Each instruction with the number of its accounts and of its bytes. -/
def messageLength (keys : ℕ) (instructions : List (ℕ × ℕ)) : ℕ :=
  3 + shortVecLength keys + 32 * keys + 32 + shortVecLength instructions.length +
    (instructions.map fun i => 1 + vecLength i.1 + vecLength i.2).sum

def sizeV0 (message : MessageV0) : ℕ :=
  let lookups := (message.addressTableLookups.map fun lookup =>
    32 + vecLength lookup.writableIndexes.length + vecLength lookup.readonlyIndexes.length).sum
  signaturesLength message.header.numRequiredSignatures + 1 +
    messageLength message.staticAccountKeys.length
      (message.compiledInstructions.map fun i => (i.accounts.length, i.data.length)) +
    shortVecLength message.addressTableLookups.length + lookups

/-- The accounts of each compiled instruction, with the data of the instruction at its place. -/
def measuredInstructions : List CompiledInstruction → List TransactionInstruction →
    Option (List (ℕ × ℕ))
  | [], _ => some []
  | _ :: _, [] => none
  | compiled :: message, instruction :: instructions => do
    let rest ← measuredInstructions message instructions
    return (compiled.accounts.length, instruction.data.length) :: rest

def sizeLegacy (message : Message) (instructions : List TransactionInstruction) : Option ℕ := do
  let instructions ← measuredInstructions message.instructions instructions
  return signaturesLength message.header.numRequiredSignatures +
    messageLength message.accountKeys.length instructions

/-- What is measured: a legacy transaction, or the instructions and the lookup tables of a
versioned one. -/
inductive Measured
  | legacy (transaction : LegacyTransaction)
  | versioned (instructions : List TransactionInstruction)
      (lookupTables : List AddressLookupTableAccount)

def placeholder : PublicKey := systemProgramId

section Sizes

variable (web3 : Web3) (payer : PublicKey)

/-- The transaction that a legacy one is measured as: it has the instructions alone. -/
def measuredAs (t : LegacyTransaction) : LegacyTransaction where
  feePayer := some (t.feePayer.getD payer)
  recentBlockhash := some (t.recentBlockhash.getD placeholder)
  instructions := t.instructions

/-- The size once signed, unless the library throws. -/
def Measured.size : Measured → Option ℕ
  | .versioned instructions lookupTables =>
    (web3.compileToV0Message payer placeholder instructions lookupTables).map sizeV0
  | .legacy t =>
    -- the library adds no empty list of instructions
    if t.instructions = [] then none
    else do
      let message ← web3.compileMessage (measuredAs payer t)
      sizeLegacy message t.instructions

/-! ## The transaction that is sent -/

/-- The transaction that is signed, with the fee payer and the blockhash that are still missing. -/
def LegacyTransaction.completed (t : LegacyTransaction) (blockhash : PublicKey) :
    LegacyTransaction :=
  { t with
    feePayer := some (t.feePayer.getD payer)
    recentBlockhash := some (t.recentBlockhash.getD blockhash) }

def Measured.compile (blockhash : PublicKey) : Measured → Option CompiledMessage
  | .versioned instructions lookupTables =>
    (web3.compileToV0Message payer blockhash instructions lookupTables).map .v0
  | .legacy t => (web3.compileMessage (t.completed payer blockhash)).map .legacy

/-- What compiles has no instruction and no signer beside those of the instruction list. -/
def Measured.Covered : Measured → Prop
  | .versioned .. => True
  | .legacy t => t.instructions ≠ [] ∧ (∀ nonce ∈ t.nonceInfo, nonce.isFirst) ∧
      ∀ key ∈ t.signatures, key ∈ signersOf (t.feePayer.getD payer) t.instructions

end Sizes

/-! ## The bytes of what is signed -/

theorem shortVecLength_eq (n : ℕ) : shortVecLength n = compactWidth n := rfl

theorem MessageHeader.wire_length {h : MessageHeader} {bytes : Bytes} (hw : h.wire = some bytes) :
    bytes.length = 3 := by
  obtain ⟨required, hrequired, hw⟩ := Option.bind_eq_some_iff.mp hw
  obtain ⟨signed, hsigned, hw⟩ := Option.bind_eq_some_iff.mp hw
  obtain ⟨unsigned, hunsigned, hw⟩ := Option.bind_eq_some_iff.mp hw
  obtain rfl := Option.some.inj hw
  simp [byteOf_length hrequired, byteOf_length hsigned, byteOf_length hunsigned]

theorem indexes_length {indexes : List ℕ} {bytes : Bytes}
    (h : shortVec byteOf indexes = some bytes) : bytes.length = vecLength indexes.length := by
  have hlength := shortVec_length_const (fun a _ written => byteOf_length) h
  rw [hlength, vecLength, shortVecLength_eq, Nat.mul_one]

theorem CompiledInstruction.wire_length {i : CompiledInstruction} {bytes : Bytes}
    (h : i.wire = some bytes) :
    bytes.length = 1 + vecLength i.accounts.length + vecLength i.data.length := by
  obtain ⟨program, hprogram, h⟩ := Option.bind_eq_some_iff.mp h
  obtain ⟨accounts, haccounts, h⟩ := Option.bind_eq_some_iff.mp h
  obtain ⟨data, hdata, h⟩ := Option.bind_eq_some_iff.mp h
  obtain rfl := Option.some.inj h
  have hbytes : data.length = vecLength i.data.length := by
    have hone : ∀ a ∈ i.data, ∀ written : Bytes, some [a] = some written → written.length = 1 := by
      rintro a - written heq
      obtain rfl := Option.some.inj heq
      rfl
    rw [shortVec_length_const hone hdata, vecLength, shortVecLength_eq, Nat.mul_one]
  simp [byteOf_length hprogram, indexes_length haccounts, hbytes, Nat.add_assoc]

theorem MessageAddressTableLookup.wire_length {l : MessageAddressTableLookup} {bytes : Bytes}
    (h : l.wire = some bytes) : bytes.length =
      32 + vecLength l.writableIndexes.length + vecLength l.readonlyIndexes.length := by
  obtain ⟨writable, hwritable, h⟩ := Option.bind_eq_some_iff.mp h
  obtain ⟨readonly, hreadonly, h⟩ := Option.bind_eq_some_iff.mp h
  obtain rfl := Option.some.inj h
  simp [l.accountKey.length_eq, indexes_length hwritable, indexes_length hreadonly, Nat.add_assoc]

theorem keys_length {keys : List PublicKey} {bytes : Bytes}
    (h : shortVec (fun key : PublicKey => some key.toBytes) keys = some bytes) :
    bytes.length = shortVecLength keys.length + 32 * keys.length := by
  have hkey : ∀ key ∈ keys, ∀ written, some key.toBytes = some written → written.length = 32 := by
    rintro key - written heq
    obtain rfl := Option.some.inj heq
    exact key.length_eq
  rw [shortVec_length_const hkey h, shortVecLength_eq, Nat.mul_comm]

theorem fieldsWire_length {header : MessageHeader} {keys : List PublicKey} {blockhash : PublicKey}
    {instructions : List CompiledInstruction} {bytes : Bytes}
    (h : fieldsWire header keys blockhash instructions = some bytes) :
    bytes.length = messageLength keys.length
      (instructions.map fun i => (i.accounts.length, i.data.length)) := by
  obtain ⟨first, hfirst, h⟩ := Option.bind_eq_some_iff.mp h
  obtain ⟨named, hnamed, h⟩ := Option.bind_eq_some_iff.mp h
  obtain ⟨compiled, hcompiled, h⟩ := Option.bind_eq_some_iff.mp h
  obtain rfl := Option.some.inj h
  have hinstructions := shortVec_length (fun i _ _ => CompiledInstruction.wire_length) hcompiled
  simp only [List.length_append, MessageHeader.wire_length hfirst, keys_length hnamed,
    blockhash.length_eq, hinstructions, messageLength, List.length_map, List.map_map,
    Function.comp_def, shortVecLength_eq]
  omega

theorem MessageV0.wire_length {m : MessageV0} {bytes : Bytes} (h : m.wire = some bytes) :
    signaturesLength m.header.numRequiredSignatures + bytes.length = sizeV0 m := by
  obtain ⟨fields, hfields, h⟩ := Option.bind_eq_some_iff.mp h
  obtain ⟨lookups, hlookups, h⟩ := Option.bind_eq_some_iff.mp h
  obtain rfl := Option.some.inj h
  have htables := shortVec_length (fun l _ _ => MessageAddressTableLookup.wire_length) hlookups
  simp only [List.length_append, List.length_singleton, fieldsWire_length hfields, htables, sizeV0,
    shortVecLength_eq]
  omega

theorem signatures_length {signatures : List Signature} {bytes : Bytes}
    (h : shortVec (fun signature : Signature => some signature.val) signatures = some bytes) :
    bytes.length = signaturesLength signatures.length := by
  have hone : ∀ s ∈ signatures, ∀ written : Bytes, some s.val = some written →
      written.length = 64 := by
    rintro s - written heq
    obtain rfl := Option.some.inj heq
    exact s.property
  rw [shortVec_length_const hone h, signaturesLength, shortVecLength_eq, Nat.mul_comm]

/-- The bytes of a message with its signatures. -/
def CompiledMessage.signedSize : CompiledMessage → ℕ
  | legacy m => signaturesLength m.header.numRequiredSignatures +
      messageLength m.accountKeys.length
        (m.instructions.map fun i => (i.accounts.length, i.data.length))
  | v0 m => sizeV0 m

theorem SignedTransaction.wire_length {t : SignedTransaction} {bytes : Bytes}
    (h : t.wire = some bytes) : bytes.length = t.message.signedSize := by
  obtain ⟨signatures, hsignatures, h⟩ := Option.bind_eq_some_iff.mp h
  obtain ⟨message, hmessage, h⟩ := Option.bind_eq_some_iff.mp h
  obtain rfl := Option.some.inj h
  have hfirst := signatures_length hsignatures
  rw [t.signed] at hfirst
  rw [List.length_append, hfirst]
  cases hkind : t.message with
  | legacy m =>
    rw [hkind] at hmessage
    rw [fieldsWire_length hmessage]
    rfl
  | v0 m =>
    rw [hkind] at hmessage
    exact MessageV0.wire_length hmessage

/-! ## Sizes that fit are written -/

theorem MessageHeader.wire_isSome {h : MessageHeader} {keys : ℕ} (hover : h.Over keys)
    (hkeys : keys < 256) : h.wire.isSome := by
  have hreadonly := hover.readonlySigned
  have hunsigned := hover.readonlyUnsigned
  obtain ⟨required, hrequired⟩ := Option.isSome_iff_exists.mp
    (byteOf_isSome (show h.numRequiredSignatures < 256 by omega))
  obtain ⟨signed, hsigned⟩ := Option.isSome_iff_exists.mp
    (byteOf_isSome (show h.numReadonlySignedAccounts < 256 by omega))
  obtain ⟨unsigned, hwritten⟩ := Option.isSome_iff_exists.mp
    (byteOf_isSome (show h.numReadonlyUnsignedAccounts < 256 by omega))
  simp [MessageHeader.wire, hrequired, hsigned, hwritten]

theorem CompiledInstruction.wire_isSome {i : CompiledInstruction}
    (hprogram : i.programIdIndex < 256) (haccounts : ∀ index ∈ i.accounts, index < 256)
    (hcount : i.accounts.length < 2 ^ 16) (hdata : i.data.length < 2 ^ 16) : i.wire.isSome := by
  obtain ⟨program, hp⟩ := Option.isSome_iff_exists.mp (byteOf_isSome hprogram)
  obtain ⟨accounts, ha⟩ := Option.isSome_iff_exists.mp
    (shortVec_isSome hcount fun index hindex => byteOf_isSome (haccounts index hindex))
  obtain ⟨data, hd⟩ := Option.isSome_iff_exists.mp
    (shortVec_isSome hdata fun byte _ => (rfl : (some [byte] : Option Bytes).isSome = true))
  simp [CompiledInstruction.wire, hp, ha, hd]

theorem MessageAddressTableLookup.wire_isSome {l : MessageAddressTableLookup}
    (hindexes : ∀ index ∈ l.writableIndexes ++ l.readonlyIndexes, index < 256)
    (hwritable : l.writableIndexes.length < 2 ^ 16)
    (hreadonly : l.readonlyIndexes.length < 2 ^ 16) : l.wire.isSome := by
  obtain ⟨writable, hw⟩ := Option.isSome_iff_exists.mp (shortVec_isSome hwritable fun index hi =>
    byteOf_isSome (hindexes index (List.mem_append_left _ hi)))
  obtain ⟨readonly, hr⟩ := Option.isSome_iff_exists.mp (shortVec_isSome hreadonly fun index hi =>
    byteOf_isSome (hindexes index (List.mem_append_right _ hi)))
  simp [MessageAddressTableLookup.wire, hw, hr]

theorem length_le_sum {α : Type} {items : List α} (size : α → ℕ) (h : ∀ a ∈ items, 1 ≤ size a) :
    items.length ≤ (items.map size).sum := by
  have hsizes : ∀ n ∈ items.map size, 1 ≤ n := by
    intro n hn
    obtain ⟨a, ha, rfl⟩ := List.mem_map.mp hn
    exact h a ha
  simpa using List.length_le_sum_of_one_le _ hsizes

theorem le_sum_of_mem {α : Type} {items : List α} (size : α → ℕ) {a : α} (h : a ∈ items) :
    size a ≤ (items.map size).sum :=
  List.single_le_sum (fun _ _ => Nat.zero_le _) _ (List.mem_map_of_mem h)

/-- The fields of a message that fits are written. -/
theorem fieldsWire_isSome {header : MessageHeader} {keys : List PublicKey} {blockhash : PublicKey}
    {instructions : List CompiledInstruction} (hover : header.Over keys.length)
    (hindexes : ∀ i ∈ instructions, i.programIdIndex < 256 ∧ ∀ index ∈ i.accounts, index < 256)
    (hfits : messageLength keys.length
      (instructions.map fun i => (i.accounts.length, i.data.length)) ≤ packetDataSize) :
    (fieldsWire header keys blockhash instructions).isSome := by
  have hpacket : packetDataSize = 1232 := rfl
  simp only [messageLength, List.length_map, List.map_map, Function.comp_def, hpacket] at hfits
  have hcount := length_le_sum
    (fun i : CompiledInstruction => 1 + vecLength i.accounts.length + vecLength i.data.length)
    (fun i (_ : i ∈ instructions) => by omega)
  have hkeys : keys.length < 256 := by omega
  obtain ⟨first, hfirst⟩ := Option.isSome_iff_exists.mp (MessageHeader.wire_isSome hover hkeys)
  obtain ⟨named, hnamed⟩ := Option.isSome_iff_exists.mp
    (shortVec_isSome (show keys.length < 2 ^ 16 by omega)
      fun key _ => (rfl : (some key.toBytes).isSome = true))
  have hwritten : (shortVec CompiledInstruction.wire instructions).isSome := by
    apply shortVec_isSome
    · omega
    · intro i hi
      have hone := le_sum_of_mem (fun i : CompiledInstruction =>
        1 + vecLength i.accounts.length + vecLength i.data.length) hi
      simp only [vecLength] at hone hfits
      exact CompiledInstruction.wire_isSome (hindexes i hi).1 (hindexes i hi).2 (by omega)
        (by omega)
  obtain ⟨compiled, hcompiled⟩ := Option.isSome_iff_exists.mp hwritten
  simp [fieldsWire, hfirst, hnamed, hcompiled]

theorem lookupsWire_isSome {lookups : List MessageAddressTableLookup}
    (hindexes : ∀ l ∈ lookups, ∀ index ∈ l.writableIndexes ++ l.readonlyIndexes, index < 256)
    (hfits : (lookups.map fun l => 32 + vecLength l.writableIndexes.length +
      vecLength l.readonlyIndexes.length).sum ≤ packetDataSize) :
    (shortVec MessageAddressTableLookup.wire lookups).isSome := by
  have hpacket : packetDataSize = 1232 := rfl
  have hcount := length_le_sum (fun l : MessageAddressTableLookup =>
    32 + vecLength l.writableIndexes.length + vecLength l.readonlyIndexes.length)
    (fun l (_ : l ∈ lookups) => by omega)
  apply shortVec_isSome
  · omega
  · intro l hl
    have hone := le_sum_of_mem (fun l : MessageAddressTableLookup =>
      32 + vecLength l.writableIndexes.length + vecLength l.readonlyIndexes.length) hl
    simp only [vecLength] at hone hfits
    exact MessageAddressTableLookup.wire_isSome (hindexes l hl) (by omega) (by omega)

/-- What a message that compiles gives for its writing. -/
def CompiledMessage.Writable : CompiledMessage → Prop
  | legacy m => m.header.Over m.accountKeys.length ∧
      ∀ i ∈ m.instructions, i.programIdIndex < m.accountKeys.length ∧
        ∀ index ∈ i.accounts, index < m.accountKeys.length
  | v0 m => m.header.Over m.staticAccountKeys.length ∧
      (∀ i ∈ m.compiledInstructions, i.programIdIndex < 256 ∧ ∀ index ∈ i.accounts, index < 256) ∧
      ∀ l ∈ m.addressTableLookups, ∀ index ∈ l.writableIndexes ++ l.readonlyIndexes, index < 256

theorem CompiledMessage.wire_isSome {message : CompiledMessage} (h : message.Writable)
    (hfits : message.signedSize ≤ packetDataSize) : message.wire.isSome := by
  cases message with
  | legacy m =>
    obtain ⟨hover, hindexes⟩ := h
    have hmessage : messageLength m.accountKeys.length
        (m.instructions.map fun i => (i.accounts.length, i.data.length)) ≤ packetDataSize :=
      (Nat.le_add_left _ _).trans hfits
    have hkeys : m.accountKeys.length ≤ 256 := by
      have hpacket : packetDataSize = 1232 := rfl
      simp only [messageLength] at hmessage
      omega
    refine fieldsWire_isSome hover (fun i hi => ⟨?_, fun index hindex => ?_⟩) hmessage
    · exact (hindexes i hi).1.trans_le hkeys
    · exact ((hindexes i hi).2 index hindex).trans_le hkeys
  | v0 m =>
    obtain ⟨hover, hindexes, hlookups⟩ := h
    simp only [signedSize, sizeV0] at hfits
    have hwire : (fieldsWire m.header m.staticAccountKeys m.recentBlockhash
        m.compiledInstructions).isSome := fieldsWire_isSome hover hindexes (by omega)
    obtain ⟨fields, hfields⟩ := Option.isSome_iff_exists.mp hwire
    obtain ⟨lookups, hwritten⟩ :=
      Option.isSome_iff_exists.mp (lookupsWire_isSome hlookups (by omega))
    simp [wire, MessageV0.wire, hfields, hwritten]

/-- A signed transaction of a size that fits is written. -/
theorem SignedTransaction.wire_isSome {t : SignedTransaction} (h : t.message.Writable)
    (hfits : t.message.signedSize ≤ packetDataSize) : t.wire.isSome := by
  have hpacket : packetDataSize = 1232 := rfl
  have hrequired : t.signatures.length < 2 ^ 16 := by
    rw [t.signed]
    cases hkind : t.message with
    | legacy m =>
      simp only [hkind, CompiledMessage.signedSize, signaturesLength] at hfits
      simp only [CompiledMessage.header]
      omega
    | v0 m =>
      simp only [hkind, CompiledMessage.signedSize, sizeV0, signaturesLength] at hfits
      simp only [CompiledMessage.header]
      omega
  obtain ⟨signatures, hsignatures⟩ := Option.isSome_iff_exists.mp
    (shortVec_isSome hrequired fun s _ => (rfl : (some s.val).isSome = true))
  obtain ⟨message, hmessage⟩ := Option.isSome_iff_exists.mp (CompiledMessage.wire_isSome h hfits)
  simp [SignedTransaction.wire, hsignatures, hmessage]

/-! ## What a legacy transaction is measured at -/

theorem measuredInstructions_eq {keys : List PublicKey} {instructions : List TransactionInstruction}
    {message : List CompiledInstruction}
    (h : List.Forall₂ (CompiledFrom keys) instructions message) :
    measuredInstructions message instructions =
      some (instructions.map fun i => (i.keys.length, i.data.length)) := by
  induction h with
  | nil => rfl
  | cons hone _ ih => simp [measuredInstructions, ih, hone.accounts.length_eq]

theorem compiled_lengths {keys : List PublicKey} {instructions : List TransactionInstruction}
    {message : List CompiledInstruction}
    (h : List.Forall₂ (CompiledFrom keys) instructions message) :
    message.map (fun i => (i.accounts.length, i.data.length)) =
      instructions.map fun i => (i.keys.length, i.data.length) := by
  induction h with
  | nil => rfl
  | cons hone _ ih => simp [ih, hone.accounts.length_eq, hone.data]

/-- The size of instructions between signers and keys. -/
def plainSize (signers keys : ℕ) (instructions : List TransactionInstruction) : ℕ :=
  signaturesLength signers +
    messageLength keys (instructions.map fun i => (i.keys.length, i.data.length))

theorem LegacyTransaction.CompilesTo.keys_card {t : LegacyTransaction} {payer : PublicKey}
    {m : Message} (h : t.CompilesTo payer m) :
    m.accountKeys.length = (keysOf payer t.compiled).toFinset.card := by
  have hsame : m.accountKeys.toFinset = (keysOf payer t.compiled).toFinset := by
    ext key
    rw [List.mem_toFinset, List.mem_toFinset]
    exact h.keys key
  rw [← hsame, List.toFinset_card_of_nodup h.nodup]

/-- The bytes of a legacy message with its signatures, by what it was compiled from. -/
theorem LegacyTransaction.CompilesTo.signedSize {t : LegacyTransaction} {payer : PublicKey}
    {m : Message} (h : t.CompilesTo payer m) :
    (CompiledMessage.legacy m).signedSize =
      plainSize (signersOf payer t.compiled ++ t.signatures).toFinset.card
        (keysOf payer t.compiled).toFinset.card t.compiled := by
  rw [CompiledMessage.signedSize, plainSize, h.required, h.keys_card,
    compiled_lengths h.instructions]

theorem LegacyTransaction.CompilesTo.writable {t : LegacyTransaction} {payer : PublicKey}
    {m : Message} (h : t.CompilesTo payer m) : (CompiledMessage.legacy m).Writable := by
  refine ⟨h.header, fun i hi => ?_⟩
  obtain ⟨instruction, -, hcompiled⟩ := related_of_mem h.instructions hi
  refine ⟨(List.getElem?_eq_some_iff.mp hcompiled.program).1, fun index hindex => ?_⟩
  obtain ⟨account, -, hplace⟩ := related_of_mem hcompiled.accounts hindex
  exact (List.getElem?_eq_some_iff.mp hplace).1

/-! ### More signers or instructions take more bytes -/

theorem signaturesLength_lt {m n : ℕ} (h : m < n) : signaturesLength m < signaturesLength n := by
  have hcount := compactWidth_mono (Nat.le_of_lt h)
  simp only [signaturesLength, shortVecLength_eq]
  omega

theorem signaturesLength_mono {m n : ℕ} (h : m ≤ n) : signaturesLength m ≤ signaturesLength n := by
  rcases Nat.lt_or_eq_of_le h with hlt | rfl
  · exact Nat.le_of_lt (signaturesLength_lt hlt)
  · exact Nat.le_refl _

theorem messageLength_mono {keys keys' : ℕ} (h : keys ≤ keys') (instructions : List (ℕ × ℕ)) :
    messageLength keys instructions ≤ messageLength keys' instructions := by
  have hcount := compactWidth_mono h
  simp only [messageLength, shortVecLength_eq]
  omega

theorem messageLength_cons (keys : ℕ) (first : ℕ × ℕ) (instructions : List (ℕ × ℕ)) :
    messageLength keys instructions < messageLength keys (first :: instructions) := by
  have hcount := compactWidth_mono (Nat.le_add_right instructions.length 1)
  simp only [messageLength, shortVecLength_eq, List.length_cons, List.map_cons, List.sum_cons]
  omega

theorem card_append_eq_iff {keys more : List PublicKey} :
    keys.toFinset.card = (keys ++ more).toFinset.card ↔ ∀ key ∈ more, key ∈ keys := by
  have hsub : keys.toFinset ⊆ (keys ++ more).toFinset := by
    intro key hkey
    rw [List.mem_toFinset] at hkey ⊢
    exact List.mem_append_left _ hkey
  constructor
  · intro h key hkey
    have hall := Finset.eq_of_subset_of_card_le hsub h.ge
    rw [← List.mem_toFinset, hall, List.mem_toFinset]
    exact List.mem_append_right _ hkey
  · intro h
    congr 1
    apply Finset.Subset.antisymm hsub
    intro key hkey
    rw [List.mem_toFinset] at hkey ⊢
    rcases List.mem_append.mp hkey with hold | hnew
    · exact hold
    · exact h key hnew

theorem card_append_le (keys more : List PublicKey) :
    keys.toFinset.card ≤ (keys ++ more).toFinset.card := by
  apply Finset.card_le_card
  intro key hkey
  rw [List.mem_toFinset] at hkey ⊢
  exact List.mem_append_left _ hkey

theorem keysOf_cons_le (payer : PublicKey) (first : TransactionInstruction)
    (instructions : List TransactionInstruction) :
    (keysOf payer instructions).toFinset.card ≤
      (keysOf payer (first :: instructions)).toFinset.card := by
  apply Finset.card_le_card
  intro key hkey
  simp only [keysOf, List.flatMap_cons, List.mem_toFinset, List.mem_cons, List.mem_append]
    at hkey ⊢
  exact hkey.imp_right .inr

theorem signersOf_cons_le (payer : PublicKey) (first : TransactionInstruction)
    (instructions : List TransactionInstruction) :
    (signersOf payer instructions).toFinset.card ≤
      (signersOf payer (first :: instructions)).toFinset.card := by
  apply Finset.card_le_card
  intro key hkey
  simp only [signersOf, List.flatMap_cons, List.mem_toFinset, List.mem_cons, List.mem_append]
    at hkey ⊢
  exact hkey.imp_right .inr

section Legacy

variable {web3 : Web3} (hweb3 : web3.Documented) {t : LegacyTransaction} {payer : PublicKey}

include hweb3

theorem size_legacy (hsome : t.instructions ≠ []) : (Measured.legacy t).size web3 payer =
    some (plainSize (signersOf (t.feePayer.getD payer) t.instructions).toFinset.card
      (keysOf (t.feePayer.getD payer) t.instructions).toFinset.card t.instructions) := by
  have hpayer : (measuredAs payer t).payer = some (t.feePayer.getD payer) := rfl
  have hcompiles : (web3.compileMessage (measuredAs payer t)).isSome :=
    (hweb3.legacy_compiles _ _ hpayer).mpr ⟨rfl, fun key hkey => (by cases hkey)⟩
  obtain ⟨m, hm⟩ := Option.isSome_iff_exists.mp hcompiles
  have hmessage := hweb3.legacy_message _ _ _ hpayer hm
  have hrequired : m.header.numRequiredSignatures =
      (signersOf (t.feePayer.getD payer) t.instructions).toFinset.card := by
    rw [hmessage.required]
    exact congrArg (fun keys : List PublicKey => keys.toFinset.card) (List.append_nil _)
  have hkeys : m.accountKeys.length =
      (keysOf (t.feePayer.getD payer) t.instructions).toFinset.card := hmessage.keys_card
  have hinstructions : measuredInstructions m.instructions t.instructions =
      some (t.instructions.map fun i => (i.keys.length, i.data.length)) :=
    measuredInstructions_eq hmessage.instructions
  simp only [Measured.size, if_neg hsome, hm, Option.bind_some, Option.bind_eq_bind, sizeLegacy,
    hinstructions, hrequired, hkeys]
  rfl

/-- A legacy transaction that is signed takes the bytes it is measured at exactly when it holds an
instruction, no nonce instruction is put before it, and each signature entry is of a signer. -/
theorem size_legacy_iff {blockhash : PublicKey} {m : Message}
    (hm : web3.compileMessage (t.completed payer blockhash) = some m) :
    (Measured.legacy t).size web3 payer = some (CompiledMessage.legacy m).signedSize ↔
      (Measured.legacy t).Covered payer := by
  have hpayer : (t.completed payer blockhash).payer = some (t.feePayer.getD payer) := rfl
  have hmessage := hweb3.legacy_message _ _ _ hpayer hm
  have hcompiled : (t.completed payer blockhash).compiled = t.compiled := rfl
  have hsignatures : (t.completed payer blockhash).signatures = t.signatures := rfl
  have hsigned := hmessage.signedSize
  rw [hcompiled, hsignatures] at hsigned
  by_cases hsome : t.instructions = []
  · constructor
    · intro h
      simp [Measured.size, hsome] at h
    · exact fun h => absurd hsome h.1
  rw [size_legacy hweb3 hsome, hsigned, Option.some_inj]
  by_cases hfirst : ∀ nonce ∈ t.nonceInfo, nonce.isFirst
  · have hsame : t.compiled = t.instructions := by
      unfold LegacyTransaction.compiled
      cases hnonce : t.nonceInfo with
      | none => rfl
      | some nonce => simp [hfirst nonce hnonce]
    rw [hsame]
    constructor
    · intro hequal
      refine ⟨hsome, hfirst, card_append_eq_iff.mp ?_⟩
      by_contra hne
      have hlt := signaturesLength_lt
        (Nat.lt_of_le_of_ne (card_append_le _ t.signatures) hne)
      simp only [plainSize] at hequal
      omega
    · rintro ⟨-, -, hcovered⟩
      rw [card_append_eq_iff.mpr hcovered]
  · constructor
    · intro hequal
      -- the nonce instruction takes bytes that are not counted
      obtain ⟨nonce, hnonce, hnot⟩ : ∃ nonce ∈ t.nonceInfo, ¬nonce.isFirst := by
        simpa using hfirst
      have hlonger : t.compiled = nonce.nonceInstruction :: t.instructions := by
        unfold LegacyTransaction.compiled
        rw [Option.mem_def.mp hnonce]
        simp [hnot]
      rw [hlonger] at hequal
      have hsigners := signaturesLength_mono
        ((signersOf_cons_le (t.feePayer.getD payer) nonce.nonceInstruction t.instructions).trans
          (card_append_le _ t.signatures))
      have hkeys := messageLength_mono
        (keysOf_cons_le (t.feePayer.getD payer) nonce.nonceInstruction t.instructions)
        (t.instructions.map fun i => (i.keys.length, i.data.length))
      have hmore := messageLength_cons
        (keysOf (t.feePayer.getD payer) (nonce.nonceInstruction :: t.instructions)).toFinset.card
        (nonce.nonceInstruction.keys.length, nonce.nonceInstruction.data.length)
        (t.instructions.map fun i => (i.keys.length, i.data.length))
      simp only [plainSize, List.map_cons] at hequal
      omega
    · exact fun h => absurd h.2.1 hfirst

end Legacy

/-! ## The measured size and the real one -/

section Measured

variable {web3 : Web3} (hweb3 : web3.Documented) {x : Measured} {payer blockhash : PublicKey}
  {message : CompiledMessage}

include hweb3

theorem size_iff (h : x.compile web3 payer blockhash = some message) :
    x.size web3 payer = some message.signedSize ↔ x.Covered payer := by
  cases x with
  | legacy t =>
    obtain ⟨m, hm, rfl⟩ := Option.map_eq_some_iff.mp h
    exact size_legacy_iff hweb3 hm
  | versioned instructions tables =>
    obtain ⟨m, hm, rfl⟩ := Option.map_eq_some_iff.mp h
    -- the blockhash has the same size as the placeholder
    have hplaceholder := hweb3.v0_blockhash _ _ placeholder _ _ _ hm
    simp only [Measured.size, hplaceholder, Measured.Covered, iff_true]
    rfl

theorem compile_writable (h : x.compile web3 payer blockhash = some message) :
    message.Writable := by
  cases x with
  | legacy t =>
    obtain ⟨m, hm, rfl⟩ := Option.map_eq_some_iff.mp h
    have hpayer : (t.completed payer blockhash).payer = some (t.feePayer.getD payer) := rfl
    exact (hweb3.legacy_message _ _ _ hpayer hm).writable
  | versioned instructions tables =>
    obtain ⟨m, hm, rfl⟩ := Option.map_eq_some_iff.mp h
    obtain ⟨hindexes, hlookups⟩ := hweb3.v0_indexes _ _ _ _ _ hm
    exact ⟨hweb3.v0_header _ _ _ _ _ hm, hindexes, hlookups⟩

end Measured

/-- The measured size is the length of the signed transaction exactly when what compiles has no
instruction and no signer beside those of the instruction list, and then a transaction that
measures within the limit is one that the network takes within it. -/
theorem measured_size_iff {web3 : Web3} (hweb3 : web3.Documented) (x : Measured)
    (payer blockhash : PublicKey) (t : SignedTransaction)
    (ht : x.compile web3 payer blockhash = some t.message) :
    (∀ bytes, t.wire = some bytes →
      (x.size web3 payer = some bytes.length ↔ x.Covered payer)) ∧
    (x.Covered payer → ∃ size, x.size web3 payer = some size ∧
      (size ≤ packetDataSize ↔ ∃ bytes, t.wire = some bytes ∧ bytes.length ≤ packetDataSize)) := by
  have hsize := size_iff hweb3 ht
  constructor
  · intro bytes hwire
    rw [t.wire_length hwire]
    exact hsize
  · intro hcovered
    refine ⟨t.message.signedSize, hsize.mpr hcovered, ?_⟩
    constructor
    · intro hfits
      obtain ⟨bytes, hwire⟩ :=
        Option.isSome_iff_exists.mp (t.wire_isSome (compile_writable hweb3 ht) hfits)
      exact ⟨bytes, hwire, (t.wire_length hwire).le.trans hfits⟩
    · rintro ⟨bytes, hwire, hfits⟩
      exact (t.wire_length hwire).ge.trans hfits

/-! ### A durable nonce -/

def sampleOwner : PublicKey := ⟨List.replicate 32 4, rfl⟩

def sampleInstruction : TransactionInstruction where
  programId := ⟨List.replicate 32 2, rfl⟩
  keys := [{ pubkey := sampleOwner, isSigner := true, isWritable := true }]
  data := [1]

def sampleNonceInstruction : TransactionInstruction where
  programId := systemProgramId
  keys := [{ pubkey := ⟨List.replicate 32 3, rfl⟩, isSigner := false, isWritable := true },
    { pubkey := sampleOwner, isSigner := true, isWritable := false }]
  data := [4, 0, 0, 0]

def samplePlain : LegacyTransaction where
  instructions := [sampleInstruction]

/-- A durable nonce whose instruction the library puts before the others. -/
def sampleNonce : LegacyTransaction where
  nonceInfo := some ⟨placeholder, sampleNonceInstruction, false⟩
  instructions := [sampleInstruction]

/-- The message under as many signatures as it requires. -/
def SignedTransaction.ofMessage (message : CompiledMessage) : SignedTransaction where
  message := message
  signatures := List.replicate message.header.numRequiredSignatures
    ⟨List.replicate 64 0, List.length_replicate⟩
  signed := List.length_replicate

theorem sample_compiles (t : LegacyTransaction) (h : t = samplePlain ∨ t = sampleNonce) :
    ∃ message, (Measured.legacy t).compile documentedWeb3 sampleOwner placeholder = some message ∧
      message.signedSize ≤ packetDataSize := by
  have hany : ((Measured.legacy t).compile documentedWeb3 sampleOwner placeholder).any
      (·.signedSize ≤ packetDataSize) := by
    rcases h with rfl | rfl <;> decide +kernel
  obtain ⟨message, hmessage, hfits⟩ := (Option.any_eq_true _ _).mp hany
  exact ⟨message, hmessage, by simpa using hfits⟩

theorem measured_size_sample : ∃ t : SignedTransaction,
    (Measured.legacy samplePlain).compile documentedWeb3 sampleOwner placeholder =
      some t.message ∧
    ∀ bytes, t.wire = some bytes →
      (Measured.legacy samplePlain).size documentedWeb3 sampleOwner = some bytes.length := by
  obtain ⟨message, hmessage, -⟩ := sample_compiles samplePlain (.inl rfl)
  have hcovered : (Measured.legacy samplePlain).Covered sampleOwner :=
    ⟨List.cons_ne_nil _ _, fun nonce h => (by cases h), fun key h => (by cases h)⟩
  refine ⟨.ofMessage message, hmessage, fun bytes hwire => ?_⟩
  exact ((measured_size_iff documentedWeb3_documented (.legacy samplePlain) sampleOwner placeholder
    (.ofMessage message) hmessage).1 bytes hwire).mpr hcovered

/-- The instruction of a durable nonce is not measured. -/
theorem nonce_not_measured : ∃ (t : SignedTransaction) (bytes : Bytes),
    (Measured.legacy sampleNonce).compile documentedWeb3 sampleOwner placeholder =
      some t.message ∧ t.wire = some bytes ∧
    (Measured.legacy sampleNonce).size documentedWeb3 sampleOwner ≠ some bytes.length := by
  obtain ⟨message, hmessage, hfits⟩ := sample_compiles sampleNonce (.inr rfl)
  obtain ⟨bytes, hwire⟩ := Option.isSome_iff_exists.mp (SignedTransaction.wire_isSome
    (compile_writable documentedWeb3_documented hmessage : (SignedTransaction.ofMessage
      message).message.Writable) hfits)
  refine ⟨.ofMessage message, bytes, hmessage, hwire, fun hsize => ?_⟩
  rw [SignedTransaction.wire_length hwire] at hsize
  obtain ⟨-, hfirst, -⟩ := (size_iff documentedWeb3_documented hmessage).mp hsize
  cases hfirst _ rfl

end Ika.Solana
