import IkaSdk.Solana.TransactionMessages
import Mathlib.Data.List.Sort

/-! A compilation of messages that does what the library documents: the fee payer first, then the
other signers, the writable keys before the others. It takes no key from a lookup table. -/

namespace Ika.Solana

open Wire

def compileSigns (payer : PublicKey) (instructions : List TransactionInstruction)
    (signatures : List PublicKey) (key : PublicKey) : Bool :=
  decide (key ∈ signersOf payer instructions ++ signatures)

def compileWrites (payer : PublicKey) (instructions : List TransactionInstruction)
    (key : PublicKey) : Bool :=
  key = payer || instructions.any fun i => i.keys.any fun account =>
    account.isWritable && account.pubkey = key

/-- The place of a key among the kinds of keys. -/
def compileRank (payer : PublicKey) (instructions : List TransactionInstruction)
    (signatures : List PublicKey) (key : PublicKey) : ℕ :=
  if key = payer then 0
  else (if compileSigns payer instructions signatures key then 1 else 3) +
    if compileWrites payer instructions key then 0 else 1

def compileKeys (payer : PublicKey) (instructions : List TransactionInstruction)
    (signatures : List PublicKey) : List PublicKey :=
  (keysOf payer instructions).dedup.insertionSort fun key key' =>
    compileRank payer instructions signatures key ≤ compileRank payer instructions signatures key'

def compileHeader (payer : PublicKey) (instructions : List TransactionInstruction)
    (signatures : List PublicKey) : MessageHeader :=
  let keys := compileKeys payer instructions signatures
  let signs := compileSigns payer instructions signatures
  let writes := compileWrites payer instructions
  { numRequiredSignatures := (keys.filter signs).length
    numReadonlySignedAccounts := ((keys.filter signs).filter (!writes ·)).length
    numReadonlyUnsignedAccounts := ((keys.filter (!signs ·)).filter (!writes ·)).length }

def compileInstructions (keys : List PublicKey) (instructions : List TransactionInstruction) :
    List CompiledInstruction :=
  instructions.map fun i => {
    programIdIndex := keys.idxOf i.programId
    accounts := i.keys.map fun account => keys.idxOf account.pubkey
    data := i.data }

def documentedWeb3 : Web3 where
  compileMessage t := do
    let payer ← t.payer
    let recentBlockhash ← t.blockhash
    if ∀ key ∈ t.signatures, key ∈ keysOf payer t.compiled then
      let accountKeys := compileKeys payer t.compiled t.signatures
      return {
        header := compileHeader payer t.compiled t.signatures
        accountKeys
        recentBlockhash
        instructions := compileInstructions accountKeys t.compiled }
    else none
  compileToV0Message payerKey recentBlockhash instructions _ :=
    let staticAccountKeys := compileKeys payerKey instructions []
    if staticAccountKeys.length ≤ 256 then
      some {
        header := compileHeader payerKey instructions []
        staticAccountKeys
        recentBlockhash
        compiledInstructions := compileInstructions staticAccountKeys instructions
        addressTableLookups := [] }
    else none

section Keys

variable (payer : PublicKey) (instructions : List TransactionInstruction)
  (signatures : List PublicKey)

theorem compileKeys_perm :
    (compileKeys payer instructions signatures).Perm (keysOf payer instructions).dedup :=
  List.perm_insertionSort _ _

theorem compileKeys_nodup : (compileKeys payer instructions signatures).Nodup :=
  (compileKeys_perm payer instructions signatures).nodup_iff.mpr (List.nodup_dedup _)

theorem mem_compileKeys (key : PublicKey) :
    key ∈ compileKeys payer instructions signatures ↔ key ∈ keysOf payer instructions := by
  rw [(compileKeys_perm payer instructions signatures).mem_iff, List.mem_dedup]

theorem signersOf_sub {key : PublicKey} (h : key ∈ signersOf payer instructions) :
    key ∈ keysOf payer instructions := by
  simp only [signersOf, keysOf, List.mem_cons, List.mem_flatMap, List.mem_append, List.mem_map,
    List.mem_filter] at h ⊢
  refine h.imp_right ?_
  rintro ⟨i, hi, account, ⟨haccount, -⟩, rfl⟩
  exact ⟨i, hi, .inl ⟨account, haccount, rfl⟩⟩

theorem compileHeader_required
    (h : ∀ key ∈ signatures, key ∈ keysOf payer instructions) :
    (compileHeader payer instructions signatures).numRequiredSignatures =
      (signersOf payer instructions ++ signatures).toFinset.card := by
  have hnodup := (compileKeys_nodup payer instructions signatures).filter
    (compileSigns payer instructions signatures)
  have hsame : ((compileKeys payer instructions signatures).filter
      (compileSigns payer instructions signatures)).toFinset =
        (signersOf payer instructions ++ signatures).toFinset := by
    ext key
    simp only [List.mem_toFinset, List.mem_filter, mem_compileKeys, compileSigns,
      decide_eq_true_eq, and_iff_right_iff_imp]
    intro hkey
    rcases List.mem_append.mp hkey with hsigner | hsignature
    · exact signersOf_sub payer instructions hsigner
    · exact h key hsignature
  rw [← hsame, List.toFinset_card_of_nodup hnodup]
  rfl

theorem compileHeader_over : (compileHeader payer instructions signatures).Over
    (compileKeys payer instructions signatures).length where
  readonlySigned := List.length_filter_le _ _
  readonlyUnsigned := by
    have hsplit := List.length_eq_length_filter_add
      (compileSigns payer instructions signatures)
      (l := compileKeys payer instructions signatures)
    have hreadonly := List.length_filter_le (!compileWrites payer instructions ·)
      ((compileKeys payer instructions signatures).filter
        (!compileSigns payer instructions signatures ·))
    simp only [compileHeader]
    omega

theorem compileInstructions_from :
    List.Forall₂ (CompiledFrom (compileKeys payer instructions signatures)) instructions
      (compileInstructions (compileKeys payer instructions signatures) instructions) := by
  have hplace : ∀ key ∈ keysOf payer instructions,
      (compileKeys payer instructions signatures)[(compileKeys payer instructions
        signatures).idxOf key]? = some key := by
    intro key hkey
    exact List.getElem?_idxOf ((mem_compileKeys payer instructions signatures key).mpr hkey)
  refine List.forall₂_map_right_iff.mpr (List.forall₂_same.mpr fun i hi => ?_)
  have hnamed : ∀ key, key ∈ i.keys.map (·.pubkey) ++ [i.programId] →
      key ∈ keysOf payer instructions := by
    intro key hkey
    exact List.mem_cons_of_mem _ (List.mem_flatMap.mpr ⟨i, hi, hkey⟩)
  refine ⟨hplace _ (hnamed _ (by simp)), ?_, rfl⟩
  refine List.forall₂_map_right_iff.mpr (List.forall₂_same.mpr fun account haccount => ?_)
  exact hplace _ (hnamed _ (List.mem_append_left _ (List.mem_map_of_mem haccount)))

end Keys

theorem compileIndexes {keys : List PublicKey} {instructions : List TransactionInstruction}
    {compiled : List CompiledInstruction}
    (h : List.Forall₂ (CompiledFrom keys) instructions compiled) :
    ∀ i ∈ compiled, i.programIdIndex < keys.length ∧ ∀ index ∈ i.accounts, index < keys.length := by
  intro i hi
  obtain ⟨instruction, -, hcompiled⟩ := related_of_mem h hi
  refine ⟨(List.getElem?_eq_some_iff.mp hcompiled.program).1, fun index hindex => ?_⟩
  obtain ⟨account, -, hplace⟩ := related_of_mem hcompiled.accounts hindex
  exact (List.getElem?_eq_some_iff.mp hplace).1

/-- The compilation does what the library documents. -/
theorem documentedWeb3_documented : documentedWeb3.Documented where
  legacy_compiles := by
    intro t payer hpayer
    simp only [documentedWeb3, hpayer, Option.bind_eq_bind, Option.bind_some]
    cases t.blockhash with
    | none => simp
    | some blockhash =>
      simp only [Option.bind_some, Option.isSome_some, true_and]
      split_ifs with hall
      · simpa using hall
      · simpa using hall
  legacy_message := by
    intro t payer m hpayer h
    simp only [documentedWeb3, hpayer, Option.bind_eq_bind, Option.bind_some] at h
    obtain ⟨blockhash, -, h⟩ := Option.bind_eq_some_iff.mp h
    split_ifs at h with hall
    obtain rfl := Option.some.inj h
    exact {
      nodup := compileKeys_nodup payer t.compiled t.signatures
      keys := mem_compileKeys payer t.compiled t.signatures
      required := compileHeader_required payer t.compiled t.signatures hall
      header := compileHeader_over payer t.compiled t.signatures
      instructions := compileInstructions_from payer t.compiled t.signatures }
  v0_blockhash := by
    intro payer blockhash blockhash' instructions tables m h
    simp only [documentedWeb3] at h ⊢
    split_ifs at h ⊢
    obtain rfl := Option.some.inj h
    rfl
  v0_header := by
    intro payer blockhash instructions tables m h
    simp only [documentedWeb3] at h
    split_ifs at h
    obtain rfl := Option.some.inj h
    exact compileHeader_over payer instructions []
  v0_indexes := by
    intro payer blockhash instructions tables m h
    simp only [documentedWeb3] at h
    split_ifs at h with hfew
    obtain rfl := Option.some.inj h
    refine ⟨fun i hi => ?_, fun l hl => (by cases hl)⟩
    obtain ⟨hprogram, haccounts⟩ :=
      compileIndexes (compileInstructions_from payer instructions []) i hi
    exact ⟨by omega, fun index hindex => (by have hless := haccounts index hindex; omega)⟩

end Ika.Solana
