import IkaSdk.Solana.KitTransaction
import IkaSdk.Solana.RefusedAdditions

/-! The caller's own instructions in the other library's transaction, and when they come back with
the signers that they carried. -/

namespace Ika.Solana

open Wire Builders

section Instructions

variable {Signer : Type}

def AccountRole.signs : AccountRole → Bool
  | readonlySigner | writableSigner => true
  | readonly | writable => false

/-- The instruction with its accounts and its data written out. -/
def KitInstruction.normalized (instruction : KitInstruction Signer) : KitInstruction Signer :=
  { instruction with
    accounts := some (instruction.accounts.getD [])
    data := some (instruction.data.getD []) }

/-- Each account carries the signer that is known by its address, if its role signs, and else
none. -/
def KitInstruction.Known (signers : PublicKey → Option Signer)
    (instruction : KitInstruction Signer) : Prop :=
  ∀ account, .byAddress account ∈ instruction.accounts.getD [] →
    account.signer = if account.role.signs then signers account.address else none

/-! ## One instruction -/

theorem fromKitAccount_ok {account : KitAccountMeta Signer} {converted : AccountMeta}
    (h : fromKitAccount account = .ok converted) :
    ∃ a, account = .byAddress a ∧ converted.pubkey = a.address ∧
      converted.isSigner = a.role.signs ∧
        kitRole converted.isSigner converted.isWritable = a.role := by
  cases account with
  | byLookupTable role => cases h
  | byAddress a =>
    obtain rfl := Except.ok.inj h
    refine ⟨a, rfl, rfl, ?_, ?_⟩
    · cases a.role <;> rfl
    · cases a.role <;> rfl

/-- An account comes back as it was if and only if its signer is the one that is known. -/
theorem toKitAccount_iff (tx : KitTransaction Signer) {a : KitAccount Signer}
    {converted : AccountMeta} (h : fromKitAccount (.byAddress a) = .ok converted) :
    tx.toKitAccount converted = a ↔
      a.signer = if a.role.signs then tx.signers a.address else none := by
  obtain ⟨a', heq, haddress, hsigner, hrole⟩ := fromKitAccount_ok h
  obtain rfl := KitAccountMeta.byAddress.inj heq
  have hshown : tx.toKitAccount converted =
      ⟨a.address, a.role, if a.role.signs then tx.signers a.address else none⟩ := by
    rw [KitTransaction.toKitAccount, hrole, haddress, hsigner]
  rw [hshown]
  constructor
  · intro hsame
    exact (congrArg KitAccount.signer hsame).symm
  · intro hknown
    rw [← hknown]

theorem accounts_iff (tx : KitTransaction Signer) {accounts : List (KitAccountMeta Signer)}
    {keys : List AccountMeta}
    (h : List.Forall₂ (fun account key => fromKitAccount account = .ok key) accounts keys) :
    (keys.map fun key => .byAddress (tx.toKitAccount key)) = accounts ↔
      ∀ a, .byAddress a ∈ accounts →
        a.signer = if a.role.signs then tx.signers a.address else none := by
  induction h with
  | nil => simp
  | @cons account key accounts keys hone _ ih =>
    obtain ⟨a, rfl, -⟩ := fromKitAccount_ok hone
    rw [List.map_cons, List.cons.injEq, ih, KitAccountMeta.byAddress.injEq,
      toKitAccount_iff tx hone]
    simp [or_imp, forall_and]

theorem toKit_iff (tx : KitTransaction Signer) {instruction : KitInstruction Signer}
    {converted : TransactionInstruction} (h : fromKit instruction = .ok converted) :
    tx.toKit converted = instruction.normalized ↔ instruction.Known tx.signers := by
  obtain ⟨keys, hkeys, h⟩ := bind_ok h
  obtain rfl := Except.ok.inj h
  rw [KitInstruction.Known, ← accounts_iff tx (mapM_ok hkeys)]
  simp [KitTransaction.toKit, KitInstruction.normalized]

theorem instructions_iff (tx : KitTransaction Signer) {instructions : List (KitInstruction Signer)}
    {converted : List TransactionInstruction}
    (h : List.Forall₂ (fun i c => fromKit i = .ok c) instructions converted) :
    converted.map tx.toKit = instructions.map (·.normalized) ↔
      ∀ i ∈ instructions, i.Known tx.signers := by
  induction h with
  | nil => simp
  | cons hone _ ih =>
    rw [List.map_cons, List.map_cons, List.cons.injEq, ih, toKit_iff tx hone]
    simp

end Instructions

/-! ## Runs -/

section Runs

variable {Signer : Type} (K : KitSigners Signer) (P : Primitives) (E : Ed25519Program)
  (web3 : Web3) (params : KitTransactionParams Signer)

open KitRun

/-- The caller's instructions are added in the run, after the events `done`. -/
def Accepted (events done : List (KitEvent Signer))
    (instructions : List (KitInstruction Signer)) : Prop :=
  (∃ rest, events = done ++ .add instructions :: rest) ∧
    ((after K P E web3 params done).tx.add P E web3 instructions).2 = .ok ()

/-- Whatever was added comes back at its place, as it was. -/
def GivesBack (events : List (KitEvent Signer)) : Prop :=
  ∀ done instructions, Accepted K P E web3 params events done instructions →
    (((after K P E web3 params events).tx.instructions).drop
      (after K P E web3 params done).tx.instructions.length).take instructions.length =
        instructions.map (·.normalized)

/-- Each account that was added carries the signer that the transaction knows by its address, if
its role signs, and else none. -/
def SignersKnown (events : List (KitEvent Signer)) : Prop :=
  ∀ done instructions, Accepted K P E web3 params events done instructions →
    ∀ i ∈ instructions, i.Known (after K P E web3 params events).tx.signers

/-- A call appends to the instructions. -/
theorem call_appends (tx : IkaTransaction) (call : TransactionCall) :
    ∃ appended, (tx.call P E web3 call).1.instructionList = tx.instructionList ++ appended := by
  rcases tx.call_cases P E web3 call with ⟨hsame, -⟩ | ⟨adding, addition, -, -, -, hcall⟩ |
    ⟨adding, addition, size, -, -, -, -, hcall⟩
  · exact ⟨[], by rw [hsame, List.append_nil]⟩
  · exact ⟨_, by rw [hcall, tx.push_instructionList]⟩
  · exact ⟨_, by rw [hcall]; exact tx.push_instructionList _⟩

variable {K P E web3 params}

theorem call_add_ok {tx : IkaTransaction} {instructions : List TransactionInstruction}
    {result : CallResult}
    (h : (tx.call P E web3 (.adding (.add instructions))).2 = .ok result) :
    (tx.call P E web3 (.adding (.add instructions))).1.instructionList =
      tx.instructionList ++ instructions := by
  have hcall : tx.call P E web3 (.adding (.add instructions)) = tx.perform web3 { instructions } :=
    rfl
  rw [hcall, IkaTransaction.perform] at h ⊢
  rcases tx.addInstructions_cases web3 instructions with
    ⟨-, hadd⟩ | ⟨size, -, -, hadd⟩ | ⟨size, -, -, hadd⟩
  · rw [hadd] at h
    cases h
  · rw [hadd] at h
    cases h
  · rw [hadd]
    exact tx.push_instructionList instructions

theorem add_ok {tx : KitTransaction Signer} {instructions : List (KitInstruction Signer)}
    (h : (tx.add P E web3 instructions).2 = .ok ()) :
    ∃ converted, List.Forall₂ (fun i c => fromKit i = .ok c) instructions converted ∧
      (tx.add P E web3 instructions).1.inner.instructionList =
        tx.inner.instructionList ++ converted := by
  cases hconverted : instructions.mapM fromKit with
  | error e =>
    rw [KitTransaction.add, hconverted] at h
    cases h
  | ok converted =>
    refine ⟨converted, mapM_ok hconverted, ?_⟩
    rw [KitTransaction.add, hconverted] at h ⊢
    obtain ⟨result, hresult, -⟩ := map_ok h
    exact call_add_ok hresult

theorem add_appends (tx : KitTransaction Signer) (instructions : List (KitInstruction Signer)) :
    ∃ appended, (tx.add P E web3 instructions).1.inner.instructionList =
      tx.inner.instructionList ++ appended := by
  cases hconverted : instructions.mapM fromKit with
  | error e => exact ⟨[], by simp [KitTransaction.add, hconverted]⟩
  | ok converted =>
    obtain ⟨appended, happended⟩ := call_appends P E web3 tx.inner (.adding (.add converted))
    exact ⟨appended, by simpa [KitTransaction.add, hconverted] using happended⟩

/-- Every step appends to the instructions. -/
theorem step_appends (run : KitRun Signer) (event : KitEvent Signer) :
    ∃ appended, (run.step K P E web3 event).tx.inner.instructionList =
      run.tx.inner.instructionList ++ appended := by
  cases event with
  | add instructions => exact add_appends run.tx instructions
  | call call =>
    obtain ⟨appended, happended⟩ := call_appends P E web3 run.tx.inner (.adding call)
    exact ⟨appended, by simpa [step] using happended⟩
  | reads k => exact ⟨[], by simp [step]⟩
  | attaches k => exact ⟨[], by simp [step]⟩

variable (K P E web3 params) in
theorem after_appends (done rest : List (KitEvent Signer)) :
    ∃ appended, (after K P E web3 params (done ++ rest)).tx.inner.instructionList =
      (after K P E web3 params done).tx.inner.instructionList ++ appended := by
  induction rest using List.reverseRecOn with
  | nil => exact ⟨[], by simp⟩
  | append_singleton rest event ih =>
    obtain ⟨earlier, hearlier⟩ := ih
    obtain ⟨appended, happended⟩ :=
      step_appends (K := K) (after K P E web3 params (done ++ rest)) event
    refine ⟨earlier ++ appended, ?_⟩
    rw [← List.append_assoc, after_concat, happended, hearlier, List.append_assoc]

/-- The instructions that are at the place of those that were added. -/
theorem accepted_place {events done : List (KitEvent Signer)}
    {instructions : List (KitInstruction Signer)}
    (h : Accepted K P E web3 params events done instructions) :
    ∃ converted, List.Forall₂ (fun i c => fromKit i = .ok c) instructions converted ∧
      (((after K P E web3 params events).tx.instructions).drop
        (after K P E web3 params done).tx.instructions.length).take instructions.length =
          converted.map (after K P E web3 params events).tx.toKit := by
  obtain ⟨⟨rest, rfl⟩, hok⟩ := h
  obtain ⟨converted, hconverted, hadded⟩ := add_ok hok
  obtain ⟨appended, happended⟩ := after_appends K P E web3 params
    (done ++ [.add instructions]) rest
  refine ⟨converted, hconverted, ?_⟩
  have hstep : (after K P E web3 params (done ++ [.add instructions])).tx.inner.instructionList =
      (after K P E web3 params done).tx.inner.instructionList ++ converted := by
    rw [after_concat]
    exact hadded
  rw [hstep, List.append_assoc, List.append_assoc] at happended
  have hplace : (after K P E web3 params
      (done ++ .add instructions :: rest)).tx.inner.instructionList =
        (after K P E web3 params done).tx.inner.instructionList ++ (converted ++ appended) :=
    happended
  rw [KitTransaction.instructions, KitTransaction.instructions, List.length_map, ← List.map_drop,
    hplace, List.drop_left, ← List.map_take, List.take_left' hconverted.length_eq.symm]

/-- In every run, what the caller added comes back as it was if and only if every account carries
the signer that the transaction knows. -/
theorem given_back_iff (events : List (KitEvent Signer)) :
    GivesBack K P E web3 params events ↔ SignersKnown K P E web3 params events := by
  refine forall_congr' fun done => forall_congr' fun instructions => forall_congr' fun h => ?_
  obtain ⟨converted, hconverted, hplace⟩ := accepted_place h
  rw [hplace]
  exact instructions_iff _ hconverted

end Runs

/-! ### A signer of the caller's own -/

/-- Signers that are key pairs. -/
def sampleSigners : KitSigners PublicKey where
  address key := key
  createKeyPairSignerFromBytes secretKey :=
    ⟨(secretKey.drop 32 ++ List.replicate 32 0).take 32, by simp⟩
  address_keyPair := by
    rintro ⟨⟨bytes, hlength⟩, secretKey, hends⟩
    simp [hends, List.take_left' hlength]

def sampleKitParams : KitTransactionParams PublicKey where
  ikaClient := sampleTransaction.ikaClient
  owner := .signer sampleOwner

/-- An account that reads, whose signer is the caller's own. -/
def sampleSignerInstruction : KitInstruction PublicKey where
  programAddress := sampleInstruction.programId
  accounts := some [.byAddress ⟨placeholder, .readonlySigner, some placeholder⟩]
  data := some [1]

/-- The caller's signer is lost. -/
theorem own_signer_lost : ¬GivesBack sampleSigners samplePrimitives sampleEd25519Program
    documentedWeb3 sampleKitParams [.add [sampleSignerInstruction]] := by
  intro hgiven
  have hadded : Accepted sampleSigners samplePrimitives sampleEd25519Program documentedWeb3
      sampleKitParams [.add [sampleSignerInstruction]] [] [sampleSignerInstruction] :=
    ⟨⟨[], rfl⟩, ok_of_toOption (by decide +kernel)⟩
  obtain ⟨converted, hconverted, hplace⟩ := accepted_place hadded
  have hknown := (instructions_iff _ hconverted).mp (hplace.symm.trans (hgiven _ _ hadded))
  have hsigner : some placeholder = (KitRun.after sampleSigners samplePrimitives
      sampleEd25519Program documentedWeb3 sampleKitParams
        [.add [sampleSignerInstruction]]).tx.signers placeholder :=
    hknown _ (List.mem_singleton_self _) _ (List.mem_singleton_self _)
  exact absurd hsigner (by decide +kernel)

end Ika.Solana
