import IkaSdk.Crates.Cpi
import IkaSdk.Lib.Fields
import IkaSdk.Lib.Ledgers
import Mathlib.Data.List.Nodup

/-! What the example programs share: the accounts they are given, the calls they make to
the system program and to the ika program, and the reads and writes of their accounts. -/

namespace Ika.Programs

open Wire Ledgers Solana Crates

abbrev AccountInfo := Ledgers.AccountInfo PublicKey

abbrev SolanaLedger := Accounts PublicKey

/-- The errors of the programs, and what the runtime refuses an instruction for. -/
inductive ProgramError
  | custom (code : ℕ)
  | invalidInstructionData
  | invalidAccountData
  | notEnoughAccountKeys
  | missingRequiredSignature
  | arithmeticOverflow
  | immutable
  | incorrectProgramId
  | runtime (fault : Fault)
deriving DecidableEq, Repr

def ProgramError.ofCrate : Crates.ProgramError → ProgramError
  | .incorrectProgramId => .incorrectProgramId

/-- A method of `DWalletContext` that issues a voucher. -/
abbrev IssueMethod := PublicKey → DWalletContext → IssueAccounts → Bytes32 → Bytes32 → UInt16 →
  VoucherKeys → Option (List Bytes) → Except Crates.ProgramError Invocation

/-- The crate a program is built with. -/
structure Crate where
  issueSignatureVoucher : IssueMethod
  issueFutureSignatureVoucher : IssueMethod

def Crate.native : Crate where
  issueSignatureVoucher := Native.issueSignatureVoucher
  issueFutureSignatureVoucher := Native.issueFutureSignatureVoucher

def Crate.pinocchio : Crate where
  issueSignatureVoucher := Pinocchio.issueSignatureVoucher
  issueFutureSignatureVoucher := Pinocchio.issueFutureSignatureVoucher

/-- A program as it is deployed: its address, the ika program's, and what it calls. -/
structure Deployment where
  programId : PublicKey
  ikaProgramId : PublicKey
  createProgramAddress : List Bytes → PublicKey → Option PublicKey
  minimumBalance : ℕ → ℕ
  crate : Crate
  ika : Invocation → SolanaLedger → Except Fault SolanaLedger

/-- The ledger, and the calls that the ika program has taken from the program so far. -/
structure World where
  ledger : SolanaLedger
  issued : List Invocation

theorem publicKey_ext {key key' : PublicKey} (h : key.toBytes = key'.toBytes) : key = key' := by
  cases key
  cases key'
  congr

/-! ## Reads -/

def readKey (data : Bytes) (offset : ℕ) : Except ProgramError Bytes32 :=
  if h : offset + 32 ≤ data.length then .ok ⟨sliceAt offset 32 data, length_sliceAt h⟩
  else .error .invalidAccountData

def readU16 (data : Bytes) (offset : ℕ) : Except ProgramError ℕ :=
  if offset + 2 ≤ data.length then .ok (leValue (sliceAt offset 2 data))
  else .error .invalidAccountData

def readU32 (data : Bytes) (offset : ℕ) : Except ProgramError ℕ :=
  if offset + 4 ≤ data.length then .ok (leValue (sliceAt offset 4 data))
  else .error .invalidAccountData

/-- `chunks(32)`: the last one may be shorter. -/
def chunks (bytes : Bytes) : List Bytes := subarrays 32 bytes

def hasDuplicate (members : List Bytes) : Bool :=
  members.zipIdx.any fun (member, index) => ((members.drop index).drop 1).any (· = member)

/-- `checked_add(1)` on a number of `width` bytes. -/
def checkedSucc (width n : ℕ) : Except ProgramError ℕ :=
  if n + 1 < 256 ^ width then .ok (n + 1) else .error .arithmeticOverflow

/-! ## Voucher calls -/

/-- The accounts that the call of a voucher needs, behind those of the vote. -/
structure CallAccounts where
  coordinator : AccountInfo
  signatureVoucher : AccountInfo
  dwallet : AccountInfo
  callerProgram : AccountInfo
  cpiAuthority : AccountInfo
  dwalletProgram : AccountInfo

def CallAccounts.of : List AccountInfo → Except ProgramError CallAccounts
  | coordinator :: signatureVoucher :: dwallet :: callerProgram :: cpiAuthority ::
      dwalletProgram :: _ =>
    .ok { coordinator, signatureVoucher, dwallet, callerProgram, cpiAuthority, dwalletProgram }
  | _ => .error .notEnoughAccountKeys

def noMetadata : Bytes32 := ⟨List.replicate 32 0, List.length_replicate⟩

/-! ## Lists of keys -/

theorem hasDuplicate_iff (members : List Bytes) : hasDuplicate members = true ↔ ¬members.Nodup := by
  rw [List.nodup_iff_getElem?_ne_getElem?]
  push Not
  simp only [hasDuplicate, List.any_eq_true, decide_eq_true_eq, Prod.exists,
    List.mem_zipIdx_iff_getElem?]
  constructor
  · rintro ⟨member, i, hi, other, hother, rfl⟩
    rw [List.drop_drop] at hother
    obtain ⟨j, hj⟩ := List.mem_iff_getElem?.mp hother
    rw [List.getElem?_drop] at hj
    exact ⟨i, i + 1 + j, by omega, (List.getElem?_eq_some_iff.mp hj).1, hi.trans hj.symm⟩
  · rintro ⟨i, j, hij, hj, heq⟩
    refine ⟨members[j], i, heq.trans (List.getElem?_eq_getElem hj), members[j], ?_, rfl⟩
    rw [List.drop_drop, List.mem_iff_getElem?]
    refine ⟨j - (i + 1), ?_⟩
    rw [List.getElem?_drop, show i + 1 + (j - (i + 1)) = j by omega]
    exact List.getElem?_eq_getElem hj

theorem subarraysFuel_eq {chunk : ℕ} (hchunk : 0 < chunk) {fuel fuel' : ℕ} {bytes : Bytes}
    (h : bytes.length ≤ fuel) (h' : bytes.length ≤ fuel') :
    subarraysFuel fuel chunk bytes = subarraysFuel fuel' chunk bytes := by
  induction fuel generalizing fuel' bytes with
  | zero =>
    obtain rfl := List.length_eq_zero_iff.mp (Nat.le_zero.mp h)
    cases fuel' <;> simp [subarraysFuel]
  | succ fuel ih =>
    cases fuel' with
    | zero =>
      obtain rfl := List.length_eq_zero_iff.mp (Nat.le_zero.mp h')
      simp [subarraysFuel]
    | succ fuel' =>
      by_cases hnil : bytes = []
      · simp [subarraysFuel, hnil]
      · have hpos := List.length_pos_iff.mpr hnil
        simp only [subarraysFuel, if_neg hnil]
        congr 1
        exact ih (by rw [List.length_drop]; omega) (by rw [List.length_drop]; omega)

theorem chunks_eq_cons {bytes : Bytes} (h : bytes ≠ []) :
    chunks bytes = bytes.take 32 :: chunks (bytes.drop 32) := by
  have hpos := List.length_pos_iff.mpr h
  obtain ⟨n, hn⟩ := Nat.exists_eq_succ_of_ne_zero hpos.ne'
  unfold chunks subarrays
  rw [hn, subarraysFuel, if_neg h]
  congr 1
  exact subarraysFuel_eq (by decide) (by rw [List.length_drop]; omega) le_rfl

theorem take_chunks (n : ℕ) (bytes : Bytes) :
    (chunks bytes).take n = chunks (bytes.take (32 * n)) := by
  induction n generalizing bytes with
  | zero => rfl
  | succ n ih =>
    by_cases hnil : bytes = []
    · subst hnil
      simp [chunks, subarrays, subarraysFuel]
    · have hfirst : bytes.take (32 * (n + 1)) ≠ [] := by
        simp [hnil]
      rw [chunks_eq_cons hnil, List.take_succ_cons, ih, chunks_eq_cons hfirst, List.take_take,
        List.drop_take, show min 32 (32 * (n + 1)) = 32 by omega,
        show 32 * (n + 1) - 32 = 32 * n by omega]

/-- The members that were written are those that are read. -/
theorem take_chunks_written {data members : Bytes} {offset n : ℕ}
    (h : sliceAt offset (n * 32) data = members) :
    (chunks (data.drop offset)).take n = chunks members := by
  rw [take_chunks, ← h, sliceAt, Nat.mul_comm]

theorem length_chunks {n : ℕ} {bytes : Bytes} (h : bytes.length = 32 * n) :
    (chunks bytes).length = n := by
  induction n generalizing bytes with
  | zero =>
    obtain rfl := List.length_eq_zero_iff.mp h
    rfl
  | succ n ih =>
    have hnil : bytes ≠ [] := by
      rintro rfl
      simp at h
    rw [chunks_eq_cons hnil, List.length_cons, ih]
    rw [List.length_drop, h]
    omega
section Calls

variable (d : Deployment)

/-! ## Derived addresses -/

/-- The bumps are tried from 255 down to 1. -/
def bumps : List UInt8 := (List.range 255).map fun i => UInt8.ofNat (255 - i)

/-- `find_program_address`, which panics where no bump gives an address. -/
def findProgramAddress (seeds : List Bytes) : Except ProgramError (PublicKey × UInt8) :=
  match bumps.findSome? fun bump =>
    (d.createProgramAddress (seeds ++ [[bump]]) d.programId).map fun key => (key, bump) with
  | some found => .ok found
  | none => .error (.runtime .panicked)

def requireCanonicalBump (invalidBump : ProgramError) (seeds : List Bytes) (bump : UInt8) :
    Except ProgramError Unit := do
  let (_, canonical) ← findProgramAddress d seeds
  ensure (bump = canonical) invalidBump

/-! ## Calls of other programs -/

def signerKey (seeds : List Bytes) : Except ProgramError PublicKey :=
  match d.createProgramAddress seeds d.programId with
  | some key => .ok key
  | none => .error (.runtime .invalidSeeds)

/-- An account goes into a call with no more than it came with, or than the seeds give it. -/
def Granted (accounts : List AccountInfo) (derived : List PublicKey) (needed : AccountMeta) :
    Prop :=
  (∃ a ∈ accounts, a.key = needed.pubkey) ∧
    (needed.isSigner → signs accounts derived needed.pubkey) ∧
    (needed.isWritable → writes accounts needed.pubkey)

instance (accounts : List AccountInfo) (derived : List PublicKey) (needed : AccountMeta) :
    Decidable (Granted accounts derived needed) :=
  inferInstanceAs (Decidable (_ ∧ _ ∧ _))

/-- `invoke_signed`: what the runtime checks before it hands the ledger to the program called. -/
def invokeSigned (accounts : List AccountInfo) (program : PublicKey) (metas : List AccountMeta)
    (signersSeeds : List (List Bytes)) (callee : SolanaLedger → Except Fault SolanaLedger)
    (L : SolanaLedger) : Except ProgramError SolanaLedger := do
  let derived ← signersSeeds.mapM (signerKey d)
  ensure (∃ a ∈ accounts, a.key = program) (.runtime .missingAccount)
  ensure (∀ needed ∈ metas, Granted accounts derived needed) (.runtime .privilegeEscalation)
  (callee L).mapError .runtime

def createPdaAccount (accounts : List AccountInfo) (payer newAccount : AccountInfo) (space : ℕ)
    (signerSeeds : List Bytes) (w : World) : Except ProgramError World := do
  let lamports := d.minimumBalance space
  let create := fun L =>
    createAccount systemProgramId L payer.key newAccount.key lamports space d.programId
  let ledger ← invokeSigned d accounts systemProgramId
    [AccountMeta.new payer.key true, AccountMeta.new newAccount.key true] [signerSeeds] create
    w.ledger
  return { w with ledger }

/-- A call of the ika program, which the log keeps. -/
def invokeIka (accounts : List AccountInfo) (call : Except Crates.ProgramError Invocation)
    (w : World) : Except ProgramError World := do
  let invocation ← call.mapError .ofCrate
  let ledger ← invokeSigned d accounts invocation.instruction.programId
    invocation.instruction.accounts invocation.signersSeeds (d.ika invocation) w.ledger
  return { ledger, issued := w.issued ++ [invocation] }

/-! ## Accounts -/

/-- The owner in a dWallet account of the ika program. -/
def dwalletOwner (invalidDWalletAccount : ProgramError) (dwallet dwalletProgram : AccountInfo)
    (w : World) : Except ProgramError Bytes32 := do
  ensure (dwalletProgram.key = d.ikaProgramId ∧ (w.ledger dwalletProgram.key).executable ∧
    (w.ledger dwallet.key).owner = d.ikaProgramId) invalidDWalletAccount
  let data := (w.ledger dwallet.key).data
  ensure (data.head? = some 97) invalidDWalletAccount
  (readKey data 2).mapError fun _ => invalidDWalletAccount

/-- A write panics outside the data. The runtime refuses an instruction that has changed an
account which is not the program's, or which it may not write. -/
def writeFields (account : AccountInfo) (fields : List Field) (w : World) :
    Except ProgramError World := do
  let data ← (putFields (w.ledger account.key).data fields).mapError fun _ => .runtime .panicked
  ensure ((w.ledger account.key).owner = d.programId ∧ account.isWritable)
    (.runtime .dataModified)
  return { w with ledger := setData w.ledger account.key data }

end Calls

/-! ## What a call that returns has done -/

section Returns

variable {d : Deployment} {w w' : World}

/-- The ika program keeps the owner rule: it leaves the accounts of the program alone. -/
def Deployment.KeepsOwners (d : Deployment) : Prop :=
  ∀ invocation L L', d.ika invocation L = .ok L' → Others d.programId L L'

/-- What the runtime and the ika program are relied on for. -/
structure Deployment.Sound (d : Deployment) : Prop where
  owners : d.KeepsOwners
  notSystem : d.programId ≠ systemProgramId

theorem readKey_ok {bytes : Bytes} {offset : ℕ} {key : Bytes32}
    (h : readKey bytes offset = .ok key) : offset + 32 ≤ bytes.length ∧
      key.val = sliceAt offset 32 bytes := by
  unfold readKey at h
  split_ifs at h with hfits
  obtain rfl := Except.ok.inj h
  exact ⟨hfits, rfl⟩

theorem readU16_ok {bytes : Bytes} {offset n : ℕ} (h : readU16 bytes offset = .ok n) :
    offset + 2 ≤ bytes.length ∧ n = leValue (sliceAt offset 2 bytes) := by
  unfold readU16 at h
  split_ifs at h with hfits
  exact ⟨hfits, (Except.ok.inj h).symm⟩

theorem readU32_ok {bytes : Bytes} {offset n : ℕ} (h : readU32 bytes offset = .ok n) :
    offset + 4 ≤ bytes.length ∧ n = leValue (sliceAt offset 4 bytes) := by
  unfold readU32 at h
  split_ifs at h with hfits
  exact ⟨hfits, (Except.ok.inj h).symm⟩

theorem readKey_congr {bytes bytes' : Bytes} {first last offset : ℕ}
    (h : AgreeOutside first last bytes bytes') (hout : offset + 32 ≤ first ∨ last ≤ offset) :
    readKey bytes' offset = readKey bytes offset := by
  have hslice := h.slices offset 32 hout
  unfold readKey
  simp only [h.length, hslice]

theorem readU16_congr {bytes bytes' : Bytes} {first last offset : ℕ}
    (h : AgreeOutside first last bytes bytes') (hout : offset + 2 ≤ first ∨ last ≤ offset) :
    readU16 bytes' offset = readU16 bytes offset := by
  have hslice := h.slices offset 2 hout
  unfold readU16
  simp only [h.length, hslice]

theorem readU32_congr {bytes bytes' : Bytes} {first last offset : ℕ}
    (h : AgreeOutside first last bytes bytes') (hout : offset + 4 ≤ first ∨ last ≤ offset) :
    readU32 bytes' offset = readU32 bytes offset := by
  have hslice := h.slices offset 4 hout
  unfold readU32
  simp only [h.length, hslice]

theorem checkedSucc_ok {width n m : ℕ} (h : checkedSucc width n = .ok m) :
    m = n + 1 ∧ n + 1 < 256 ^ width := by
  unfold checkedSucc at h
  split_ifs at h with hfits
  exact ⟨(Except.ok.inj h).symm, hfits⟩

theorem findProgramAddress_derives {seeds : List Bytes} {key : PublicKey} {bump : UInt8}
    (h : findProgramAddress d seeds = .ok (key, bump)) :
    d.createProgramAddress (seeds ++ [[bump]]) d.programId = some key := by
  unfold findProgramAddress at h
  split at h
  · next found hfound =>
    obtain ⟨b, -, hb⟩ := List.exists_of_findSome?_eq_some hfound
    obtain ⟨k, hk, hpair⟩ := Option.map_eq_some_iff.mp hb
    have hboth : (k, b) = (key, bump) := hpair.trans (Except.ok.inj h)
    rw [← (Prod.mk.inj hboth).1, ← (Prod.mk.inj hboth).2]
    exact hk
  · cases h

theorem requireCanonicalBump_iff {invalid : ProgramError} {seeds : List Bytes} {bump : UInt8}
    {u : Unit} : requireCanonicalBump d invalid seeds bump = .ok u ↔
      ∃ key, findProgramAddress d seeds = .ok (key, bump) := by
  unfold requireCanonicalBump
  rw [bind_ok_iff]
  constructor
  · rintro ⟨⟨key, canonical⟩, hfound, hbump⟩
    obtain rfl := ensure_ok hbump
    exact ⟨key, hfound⟩
  · rintro ⟨key, hfound⟩
    exact ⟨(key, bump), hfound, ensure_of rfl⟩

theorem invokeSigned_ok {accounts : List AccountInfo} {program : PublicKey}
    {needed : List AccountMeta} {signersSeeds : List (List Bytes)}
    {callee : SolanaLedger → Except Fault SolanaLedger} {L L' : SolanaLedger}
    (h : invokeSigned d accounts program needed signersSeeds callee L = .ok L') :
    ∃ derived, signersSeeds.mapM (signerKey d) = .ok derived ∧
      (∀ account ∈ needed, Granted accounts derived account) ∧ callee L = .ok L' := by
  obtain ⟨derived, hderived, h⟩ := bind_ok h
  obtain ⟨-, h⟩ := ensure_bind_iff.mp h
  obtain ⟨hgranted, h⟩ := ensure_bind_iff.mp h
  exact ⟨derived, hderived, hgranted, mapError_ok h⟩

theorem signerKey_ok {seeds : List Bytes} {key : PublicKey} (h : signerKey d seeds = .ok key) :
    d.createProgramAddress seeds d.programId = some key := by
  unfold signerKey at h
  split at h
  · next found hfound => exact hfound.trans (congrArg some (Except.ok.inj h))
  · cases h

/-- A new account of the program: at an address nobody had used, which is the derived one or
signed for itself. -/
structure Made (d : Deployment) (accounts : List AccountInfo) (payer key : PublicKey) (space : ℕ)
    (seeds : List Bytes) (w w' : World) : Prop where
  issued : w'.issued = w.issued
  ledger : w'.ledger = transferred (allocated w.ledger key d.programId space) payer key
    (d.minimumBalance space)
  unused : Unused systemProgramId (w.ledger key)
  after : heldBy d.programId w'.ledger =
    Function.update (heldBy d.programId w.ledger) key (some (List.replicate space 0))
  derived : Unsigned accounts key → d.createProgramAddress seeds d.programId = some key

theorem createPdaAccount_ok {accounts : List AccountInfo} {payer newAccount : AccountInfo}
    {space : ℕ} {seeds : List Bytes}
    (h : createPdaAccount d accounts payer newAccount space seeds w = .ok w') :
    Made d accounts payer.key newAccount.key space seeds w w' := by
  obtain ⟨L, hinvoked, h⟩ := bind_ok h
  obtain ⟨derived, hderived, hgranted, hcreated⟩ := invokeSigned_ok hinvoked
  obtain rfl := (Except.ok.inj h).symm
  obtain ⟨hunused, hledger⟩ := createAccount_ok hcreated
  refine ⟨rfl, hledger, hunused, heldBy_createAccount hcreated, ?_⟩
  intro hunsigned
  obtain ⟨key, hkey, hsingle⟩ : ∃ key, signerKey d seeds = .ok key ∧ derived = [key] := by
    rw [List.mapM_cons, List.mapM_nil] at hderived
    obtain ⟨key, hkey, hrest⟩ := bind_ok hderived
    exact ⟨key, hkey, (Except.ok.inj hrest).symm⟩
  have hsigns := (hgranted (AccountMeta.new newAccount.key true) (by simp)).2.1 rfl
  have hmem := derived_of_signs hsigns hunsigned
  rw [hsingle, List.mem_singleton] at hmem
  rw [show newAccount.key = key from hmem]
  exact signerKey_ok hkey

theorem invokeIka_ok {accounts : List AccountInfo} {call : Except Crates.ProgramError Invocation}
    (h : invokeIka d accounts call w = .ok w') : ∃ invocation, call = .ok invocation ∧
      w'.issued = w.issued ++ [invocation] ∧ d.ika invocation w.ledger = .ok w'.ledger := by
  obtain ⟨invocation, hcall, h⟩ := bind_ok h
  obtain ⟨L, hinvoked, h⟩ := bind_ok h
  obtain ⟨derived, -, -, hika⟩ := invokeSigned_ok hinvoked
  obtain rfl := (Except.ok.inj h).symm
  exact ⟨invocation, mapError_ok hcall, rfl, hika⟩

/-- Every other account but the payer's stays as it was. -/
theorem Made.other {accounts : List AccountInfo} {payer key other : PublicKey} {space : ℕ}
    {seeds : List Bytes} (hmade : Made d accounts payer key space seeds w w')
    (hkey : other ≠ key) (hpayer : other ≠ payer) : w'.ledger other = w.ledger other := by
  rw [hmade.ledger]
  simp [transferred, allocated, Function.update_apply, hkey, hpayer]

/-- The payer is left with what the rent does not take. -/
theorem Made.payer {accounts : List AccountInfo} {payer key : PublicKey} {space : ℕ}
    {seeds : List Bytes} (hmade : Made d accounts payer key space seeds w w')
    (hne : payer ≠ key) : w'.ledger payer = { w.ledger payer with
      lamports := (w.ledger payer).lamports - d.minimumBalance space } := by
  rw [hmade.ledger]
  simp [transferred, allocated, Function.update_apply, hne]

/-- The program wrote fields of an account it holds. -/
structure Wrote (d : Deployment) (key : PublicKey) (fields : List Field) (old data : Bytes)
    (w w' : World) : Prop where
  issued : w'.issued = w.issued
  ledger : w'.ledger = setData w.ledger key data
  before : heldBy d.programId w.ledger key = some old
  put : putFields old fields = .ok data
  after : heldBy d.programId w'.ledger =
    Function.update (heldBy d.programId w.ledger) key (some data)

theorem writeFields_ok {account : AccountInfo} {fields : List Field}
    (h : writeFields d account fields w = .ok w') :
    ∃ data, Wrote d account.key fields (w.ledger account.key).data data w w' := by
  obtain ⟨data, hdata, h⟩ := bind_ok h
  obtain ⟨⟨howner, -⟩, h⟩ := ensure_bind_iff.mp h
  obtain rfl := (Except.ok.inj h).symm
  exact ⟨data, rfl, rfl, heldBy_eq_some.mpr ⟨howner, rfl⟩, mapError_ok hdata, heldBy_setData howner⟩

/-- An account that was made and filled in. -/
theorem Made.filled {accounts : List AccountInfo} {payer key : PublicKey} {space : ℕ}
    {seeds : List Bytes} {fields : List Field} {old data : Bytes} {w'' : World}
    (hmade : Made d accounts payer key space seeds w w')
    (hwrote : Wrote d key fields old data w' w'') :
    putFields (List.replicate space 0) fields = .ok data ∧ w''.issued = w.issued ∧
      heldBy d.programId w''.ledger =
        Function.update (heldBy d.programId w.ledger) key (some data) := by
  have hold := hwrote.before
  rw [hmade.after, Function.update_self] at hold
  refine ⟨?_, hwrote.issued.trans hmade.issued, ?_⟩
  · rw [Option.some.inj hold]
    exact hwrote.put
  · rw [hwrote.after, hmade.after, Function.update_idem]

theorem Made.new {accounts : List AccountInfo} {payer key : PublicKey} {space : ℕ}
    {seeds : List Bytes} (hmade : Made d accounts payer key space seeds w w')
    (hsystem : d.programId ≠ systemProgramId) : heldBy d.programId w.ledger key = none := by
  rw [heldBy_eq_none, hmade.unused.owner]
  exact hsystem.symm

/-- Without a signature of its own, the account made is at the canonical address. -/
theorem Made.canonical {accounts : List AccountInfo} {payer key found : PublicKey} {space : ℕ}
    {seeds : List Bytes} {bump : UInt8}
    (hmade : Made d accounts payer key space (seeds ++ [[bump]]) w w')
    (hfound : findProgramAddress d seeds = .ok (found, bump)) (hunsigned : Unsigned accounts key) :
    findProgramAddress d seeds = .ok (key, bump) := by
  have hsame := (findProgramAddress_derives hfound).symm.trans (hmade.derived hunsigned)
  rw [hfound, Option.some.inj hsame]

end Returns

/-! ## Calls that go through -/

section Success

variable {d : Deployment} {w : World} {accounts : List AccountInfo}

theorem exists_ok_bind {ε α β : Type} {x : Except ε α} {f : α → Except ε β} {a : α}
    (hx : x = .ok a) (hf : ∃ b, f a = .ok b) : ∃ b, x >>= f = .ok b := by
  obtain ⟨b, hb⟩ := hf
  exact ⟨b, bind_ok_iff.mpr ⟨a, hx, hb⟩⟩

theorem signs_of_mem {derived : List PublicKey} {a : AccountInfo} (ha : a ∈ accounts)
    (hsigner : a.isSigner = true) : signs accounts derived a.key = true := by
  rw [signs, Bool.or_eq_true]
  exact .inl (List.any_eq_true.mpr ⟨a, ha, by simp [hsigner]⟩)

theorem writes_of_mem {a : AccountInfo} (ha : a ∈ accounts) (hwritable : a.isWritable = true) :
    writes accounts a.key = true :=
  List.any_eq_true.mpr ⟨a, ha, by simp [hwritable]⟩

theorem createPdaAccount_of {payer newAccount : AccountInfo} {space : ℕ} {seeds : List Bytes}
    {derived : PublicKey} (hderived : d.createProgramAddress seeds d.programId = some derived)
    (hsystem : ∃ a ∈ accounts, a.key = systemProgramId) (hpayer : payer ∈ accounts)
    (hpays : payer.isSigner = true ∧ payer.isWritable = true) (hnew : newAccount ∈ accounts)
    (hsigns : signs accounts [derived] newAccount.key = true)
    (hwritable : newAccount.isWritable = true)
    (hunused : Unused systemProgramId (w.ledger newAccount.key))
    (hfunds : CanPay systemProgramId (d.minimumBalance space) (w.ledger payer.key))
    (hne : payer.key ≠ newAccount.key) :
    ∃ w', createPdaAccount d accounts payer newAccount space seeds w = .ok w' := by
  have hsigner : [seeds].mapM (signerKey d) = .ok [derived] := by
    simp [signerKey, hderived]
  have hgranted : ∀ needed ∈ [AccountMeta.new payer.key true, AccountMeta.new newAccount.key true],
      Granted accounts [derived] needed := by
    intro needed hneeded
    simp only [List.mem_cons, List.not_mem_nil, or_false] at hneeded
    obtain rfl | rfl := hneeded
    · exact ⟨⟨payer, hpayer, rfl⟩, fun _ => signs_of_mem hpayer hpays.1,
        fun _ => writes_of_mem hpayer hpays.2⟩
    · exact ⟨⟨newAccount, hnew, rfl⟩, fun _ => hsigns, fun _ => writes_of_mem hnew hwritable⟩
  have hinvoked : ∃ L, invokeSigned d accounts systemProgramId
      [AccountMeta.new payer.key true, AccountMeta.new newAccount.key true] [seeds]
      (fun L => createAccount systemProgramId L payer.key newAccount.key (d.minimumBalance space)
        space d.programId) w.ledger = .ok L := by
    apply exists_ok_bind hsigner
    apply exists_ok_bind (ensure_of hsystem)
    apply exists_ok_bind (ensure_of hgranted)
    dsimp only
    rw [createAccount_of hunused hfunds hne]
    exact ⟨_, rfl⟩
  obtain ⟨L, hL⟩ := hinvoked
  exact exists_ok_bind hL ⟨_, rfl⟩

theorem invokeIka_of {call : Except Crates.ProgramError Invocation} {invocation : Invocation}
    {derived : List PublicKey} {L : SolanaLedger} (hcall : call = .ok invocation)
    (hderived : invocation.signersSeeds.mapM (signerKey d) = .ok derived)
    (hprogram : ∃ a ∈ accounts, a.key = invocation.instruction.programId)
    (hgranted : ∀ needed ∈ invocation.instruction.accounts, Granted accounts derived needed)
    (hika : d.ika invocation w.ledger = .ok L) :
    invokeIka d accounts call w = .ok ⟨L, w.issued ++ [invocation]⟩ := by
  subst hcall
  have hinvoked : invokeSigned d accounts invocation.instruction.programId
      invocation.instruction.accounts invocation.signersSeeds (d.ika invocation) w.ledger =
      .ok L := by
    unfold invokeSigned
    rw [hderived, ok_bind, ensure_of hprogram, ok_bind, ensure_of hgranted, ok_bind, hika]
    rfl
  unfold invokeIka
  change invokeSigned _ _ _ _ _ _ _ >>= _ = _
  rw [hinvoked]
  rfl

theorem writeFields_of {account : AccountInfo} {fields : List Field}
    (howner : (w.ledger account.key).owner = d.programId) (hwritable : account.isWritable = true)
    (hfit : ∀ field ∈ fields,
      field.1 + field.2.length ≤ (w.ledger account.key).data.length) :
    ∃ w', writeFields d account fields w = .ok w' := by
  obtain ⟨written, hwritten⟩ := putFields_of_fit hfit
  have hput : (putFields (w.ledger account.key).data fields).mapError
      (fun _ => ProgramError.runtime .panicked) = .ok written := by
    rw [hwritten]
    rfl
  exact exists_ok_bind hput (exists_ok_bind (ensure_of ⟨howner, hwritable⟩) ⟨_, rfl⟩)

end Success

end Ika.Programs
