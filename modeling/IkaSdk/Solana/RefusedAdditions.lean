import IkaSdk.Solana.IkaTransaction
import Mathlib.Data.List.Perm.Subperm

/-! Additions that are refused: when the transaction is as it was, and the signers are the key
pairs of the vouchers that its instructions create. -/

namespace Ika.Solana

open Wire Builders

/-! ## What was added -/

/-- The key pair of the voucher that a call creates. -/
def AddingCall.voucher : AddingCall → Option Keypair
  | approveMessage _ answers => some answers.voucher
  | approveFutureSign _ answers => some answers.voucher
  | _ => none

/-- A call that returned, with the instructions that it added. -/
structure Entry where
  call : AddingCall
  instructions : List TransactionInstruction

/-- The voucher's account is created and signs. -/
def Entry.Creates (entry : Entry) (voucher : Keypair) : Prop :=
  ∃ i ∈ entry.instructions, ⟨voucher.publicKey, true, true⟩ ∈ i.keys

section Runs

variable (P : Primitives) (E : Ed25519Program) (web3 : Web3)

namespace IkaTransaction

/-- The entry of a call, if it adds and returns. -/
def entryOf (tx : IkaTransaction) : TransactionCall → Option Entry
  | .buildVersionedTransaction _ => none
  | .adding call =>
    match call.addition P E tx, (tx.call P E web3 (.adding call)).2 with
    | .ok addition, .ok _ => some ⟨call, addition.instructions⟩
    | _, _ => none

/-- The entries of the calls, one after the other. -/
def ledger (tx : IkaTransaction) : List TransactionCall → List Entry
  | [] => []
  | call :: calls =>
    (tx.entryOf P E web3 call).toList ++ ledger (tx.call P E web3 call).1 calls

/-- A call that throws leaves the instructions and the signers as they were. -/
def LeavesAsBefore (tx : IkaTransaction) (call : TransactionCall) : Prop :=
  ∀ e, (tx.call P E web3 call).2 = .error e →
    (tx.call P E web3 call).1.instructionList = tx.instructionList ∧
    (tx.call P E web3 call).1.signers = tx.signers

/-- What a call adds compiles, together with the instructions before it. -/
def Compiles (tx : IkaTransaction) : TransactionCall → Prop
  | .buildVersionedTransaction _ => True
  | .adding call => ∀ addition, call.addition P E tx = .ok addition →
      addition.instructions ≠ [] → ((tx.push addition.instructions).size web3).isSome

/-- The instructions are the first ones and what the entries added, and the signers are the key
pairs of the vouchers that the entries create. -/
structure Shows (first tx : IkaTransaction) (entries : List Entry) : Prop where
  instructions : tx.instructionList =
    first.instructionList ++ entries.flatMap (·.instructions)
  signers : tx.signers = first.signers ++ entries.filterMap (·.call.voucher)
  created : ∀ entry ∈ entries, ∀ voucher ∈ entry.call.voucher, entry.Creates voucher

/-- A signed version-0 transaction of these instructions is not over the limit. -/
def NotOver (tx : IkaTransaction) : Prop :=
  tx.transaction = none → ∀ recentBlockhash message (t : SignedTransaction) bytes,
    tx.compileV0 web3 recentBlockhash = some message → t.message = .v0 message →
      t.wire = some bytes → bytes.length ≤ packetDataSize

end IkaTransaction

end Runs

/-- A version-0 message of no instructions names its payer alone. -/
def Web3.PayerAlone (web3 : Web3) : Prop :=
  ∀ payer blockhash tables m, web3.compileToV0Message payer blockhash [] tables = some m →
    m.header.numRequiredSignatures = 1 ∧ m.staticAccountKeys = [payer] ∧
      m.compiledInstructions = [] ∧ m.addressTableLookups = []

/-! ## One call -/

namespace IkaTransaction

variable {P : Primitives} {E : Ed25519Program} {web3 : Web3} {tx : IkaTransaction}

@[simp] theorem push_instructionList (tx : IkaTransaction)
    (instructions : List TransactionInstruction) :
    (tx.push instructions).instructionList = tx.instructionList ++ instructions := by
  unfold push instructionList
  cases tx.transaction with
  | none => simp
  | some transaction => rfl

@[simp] theorem push_signers (tx : IkaTransaction) (instructions : List TransactionInstruction) :
    (tx.push instructions).signers = tx.signers := by
  unfold push
  cases tx.transaction <;> rfl

theorem issueVoucher_ok {params : ApproveMessageParams} {answers : VoucherAnswers}
    {issue : IssueVoucherParams → Except SdkError TransactionInstruction} {addition : Addition}
    (h : tx.issueVoucher P params answers issue = .ok addition) :
    ∃ issued instruction, issued.voucher = answers.voucher.publicKey ∧
      issue issued = .ok instruction ∧
      addition = ⟨[instruction], some answers.voucher⟩ := by
  obtain ⟨keys, -, h⟩ := bind_ok h
  obtain ⟨usable, -, h⟩ := bind_ok h
  obtain ⟨dwallet, -, h⟩ := bind_ok h
  obtain ⟨scheme, -, h⟩ := bind_ok h
  obtain ⟨requestPublicKey, -, h⟩ := bind_ok h
  obtain ⟨instruction, hissue, h⟩ := bind_ok h
  exact ⟨_, instruction, rfl, hissue, (Except.ok.inj h).symm⟩

end IkaTransaction

theorem issueSignatureVoucher_creates {P : Primitives} {params : IssueVoucherParams}
    {instruction : TransactionInstruction}
    (h : Solana.issueSignatureVoucherInstruction P params = .ok instruction) :
    ⟨params.voucher, true, true⟩ ∈ instruction.keys := by
  obtain ⟨result, -, h⟩ := bind_ok h
  obtain ⟨byte, -, h⟩ := bind_ok h
  obtain ⟨data, -, h⟩ := bind_ok h
  obtain ⟨coordinator, -, h⟩ := bind_ok h
  obtain rfl := Except.ok.inj h
  simp

theorem issueFutureSignatureVoucher_creates {P : Primitives} {params : IssueVoucherParams}
    {instruction : TransactionInstruction}
    (h : Solana.issueFutureSignatureVoucherInstruction P params = .ok instruction) :
    ⟨params.voucher, true, true⟩ ∈ instruction.keys := by
  obtain ⟨issued, hissued, h⟩ := bind_ok h
  obtain ⟨byte, -, h⟩ := bind_ok h
  obtain rfl := Except.ok.inj h
  exact (issueSignatureVoucher_creates hissued : _ ∈ issued.keys)

/-- No addition that the computation returns carries a voucher. -/
def Plain (x : Except SdkError Addition) : Prop := ∀ addition, x = .ok addition →
  addition.voucher = none

theorem plain_ok (instructions : List TransactionInstruction) : Plain (.ok { instructions }) := by
  intro addition h
  obtain rfl := Except.ok.inj h
  rfl

theorem plain_bind {α : Type} {x : Except SdkError α} {f : α → Except SdkError Addition}
    (h : ∀ a, Plain (f a)) : Plain (x >>= f) := by
  intro addition hbind
  obtain ⟨a, -, ha⟩ := bind_ok hbind
  exact h a addition ha

namespace AddingCall

variable {P : Primitives} {E : Ed25519Program} {tx : IkaTransaction} {addition : Addition}

theorem addition_plain {call : AddingCall} (h : call.voucher = none) :
    Plain (call.addition P E tx) := by
  cases call with
  | add instructions => exact plain_ok instructions
  | registerEncryptionKey curve =>
    exact plain_bind fun _ => plain_bind fun _ => plain_bind fun _ => plain_ok _
  | createGasDeposit consented => exact plain_bind fun _ => plain_bind fun _ => plain_ok _
  | topUpGasDeposit params coordinator =>
    exact plain_bind fun _ => plain_bind fun _ => plain_bind fun _ => plain_bind fun _ =>
      plain_bind fun _ => plain_ok _
  | approveMessage params answers => cases h
  | approveFutureSign params answers => cases h
  | setFutureSignatureVoucherSigningKey voucher =>
    exact plain_bind fun _ => plain_bind fun _ => plain_bind fun _ => plain_ok _
  | setSignatureVoucherSigningKey voucher =>
    exact plain_bind fun _ => plain_bind fun _ => plain_bind fun _ => plain_ok _
  | revokeSignatureVoucher voucher => exact plain_bind fun _ => plain_ok _
  | acceptEncryptedUserShare dWallet acceptance =>
    cases acceptance with
    | none => exact fun addition haddition => (by cases haddition)
    | some acceptance => exact plain_bind fun _ => plain_ok _
  | transferDWallet dWallet newOwner => exact plain_bind fun _ => plain_bind fun _ => plain_ok _

/-- What a method adds carries the voucher of its call, and creates it. -/
theorem addition_voucher {call : AddingCall} (h : call.addition P E tx = .ok addition) :
    addition.voucher = call.voucher ∧
      ∀ voucher ∈ call.voucher, Entry.Creates ⟨call, addition.instructions⟩ voucher := by
  by_cases hplain : call.voucher = none
  · refine ⟨(addition_plain hplain addition h).trans hplain.symm, fun voucher hvoucher => ?_⟩
    rw [hplain] at hvoucher
    cases hvoucher
  · cases call with
    | approveMessage params answers =>
      obtain ⟨issued, instruction, hvoucher, hissue, rfl⟩ := IkaTransaction.issueVoucher_ok h
      refine ⟨rfl, ?_⟩
      rintro voucher ⟨⟩
      have hcreates := issueSignatureVoucher_creates hissue
      exact ⟨instruction, List.mem_singleton_self _, hvoucher ▸ hcreates⟩
    | approveFutureSign params answers =>
      obtain ⟨issued, instruction, hvoucher, hissue, rfl⟩ := IkaTransaction.issueVoucher_ok h
      refine ⟨rfl, ?_⟩
      rintro voucher ⟨⟩
      have hcreates := issueFutureSignatureVoucher_creates hissue
      exact ⟨instruction, List.mem_singleton_self _, hvoucher ▸ hcreates⟩
    | _ => exact absurd rfl hplain

end AddingCall

namespace IkaTransaction

variable {P : Primitives} {E : Ed25519Program} {web3 : Web3} {tx first : IkaTransaction}
  {entries : List Entry} {calls : List TransactionCall}

/-- What is added goes in when it fits, stays when it does not compile, and is cut off again
when it is too large. -/
theorem addInstructions_cases (tx : IkaTransaction) (web3 : Web3)
    (instructions : List TransactionInstruction) :
    ((tx.push instructions).size web3 = none ∧
      tx.addInstructions web3 instructions = (tx.push instructions, .error .notCompiled)) ∨
    (∃ size, (tx.push instructions).size web3 = some size ∧ packetDataSize < size ∧
      tx.addInstructions web3 instructions = (tx, .error (.tooLarge size))) ∨
    ∃ size, (tx.push instructions).size web3 = some size ∧ size ≤ packetDataSize ∧
      tx.addInstructions web3 instructions = (tx.push instructions, .ok ()) := by
  cases hsize : (tx.push instructions).size web3 with
  | none => exact .inl ⟨rfl, by simp [addInstructions, hsize]⟩
  | some size =>
    refine .inr ?_
    by_cases hlarge : packetDataSize < size
    · exact .inl ⟨size, rfl, hlarge, by simp [addInstructions, hsize, hlarge]⟩
    · exact .inr ⟨size, rfl, by omega, by simp [addInstructions, hsize, hlarge]⟩

/-- A call changes nothing, leaves instructions that do not compile behind, or adds. -/
theorem call_cases (tx : IkaTransaction) (P : Primitives) (E : Ed25519Program) (web3 : Web3)
    (call : TransactionCall) :
    ((tx.call P E web3 call).1 = tx ∧ tx.entryOf P E web3 call = none ∧
      tx.Compiles P E web3 call ∧ ∀ address, (tx.call P E web3 call).2 ≠ .ok (.voucher address)) ∨
    (∃ adding addition, call = .adding adding ∧ adding.addition P E tx = .ok addition ∧
      (tx.push addition.instructions).size web3 = none ∧
      tx.call P E web3 call = (tx.push addition.instructions, .error .notCompiled)) ∨
    ∃ adding addition size, call = .adding adding ∧
      adding.addition P E tx = .ok addition ∧
      (tx.push addition.instructions).size web3 = some size ∧ size ≤ packetDataSize ∧
      tx.call P E web3 call = ({ tx.push addition.instructions with
        signers := tx.signers ++ addition.voucher.toList }, .ok addition.result) := by
  cases call with
  | buildVersionedTransaction recentBlockhash =>
    refine .inl ⟨rfl, rfl, trivial, fun address h => ?_⟩
    obtain ⟨message, -, hmessage⟩ := map_ok h
    cases hmessage
  | adding adding =>
    cases haddition : adding.addition P E tx with
    | error e =>
      have hthrown : tx.call P E web3 (.adding adding) = (tx, .error (.refused e)) := by
        simp [IkaTransaction.call, haddition]
      refine .inl ⟨by rw [hthrown], by simp [entryOf, haddition], ?_, by simp [hthrown]⟩
      intro addition haddition'
      cases haddition.symm.trans haddition'
    | ok addition =>
      have hcall : tx.call P E web3 (.adding adding) = tx.perform web3 addition := by
        simp [IkaTransaction.call, haddition]
      rcases tx.addInstructions_cases web3 addition.instructions with
        ⟨hnone, hadd⟩ | ⟨size, hsize, hlarge, hadd⟩ | ⟨size, hsize, hfits, hadd⟩
      · refine .inr (.inl ⟨adding, addition, rfl, haddition, hnone, ?_⟩)
        rw [hcall, perform, hadd]
      · have hthrown : tx.call P E web3 (.adding adding) = (tx, .error (.tooLarge size)) := by
          rw [hcall, perform, hadd]
        refine .inl ⟨by rw [hthrown], by simp [entryOf, haddition, hthrown], ?_, by simp [hthrown]⟩
        intro addition' haddition' hsome
        obtain rfl : addition = addition' := Except.ok.inj (haddition.symm.trans haddition')
        rw [hsize]
        rfl
      · refine .inr (.inr ⟨adding, addition, size, rfl, haddition, hsize, hfits, ?_⟩)
        rw [hcall, perform, hadd, ← tx.push_signers addition.instructions]

theorem entryOf_returned {adding : AddingCall} {addition : Addition} {state : IkaTransaction}
    {result : CallResult} (haddition : adding.addition P E tx = .ok addition)
    (hcall : tx.call P E web3 (.adding adding) = (state, .ok result)) :
    tx.entryOf P E web3 (.adding adding) = some ⟨adding, addition.instructions⟩ := by
  simp [entryOf, haddition, hcall]

theorem entryOf_thrown {adding : AddingCall} {state : IkaTransaction} {e : TransactionError}
    (hcall : tx.call P E web3 (.adding adding) = (state, .error e)) :
    tx.entryOf P E web3 (.adding adding) = none := by
  cases haddition : adding.addition P E tx <;> simp [entryOf, haddition, hcall]

/-- A call that throws leaves the transaction as it was if and only if what it adds compiles. -/
theorem leavesAsBefore_iff (call : TransactionCall) :
    tx.LeavesAsBefore P E web3 call ↔ tx.Compiles P E web3 call := by
  rcases tx.call_cases P E web3 call with
    ⟨hsame, -, hcompiles, -⟩ | ⟨adding, addition, rfl, haddition, hnone, hcall⟩ |
    ⟨adding, addition, size, rfl, haddition, hsize, -, hcall⟩
  · refine iff_of_true (fun e _ => ?_) hcompiles
    rw [hsame]
    exact ⟨rfl, rfl⟩
  · constructor
    · intro hleaves addition' haddition' hsome
      obtain rfl : addition = addition' := Except.ok.inj (haddition.symm.trans haddition')
      obtain ⟨hlist, -⟩ := hleaves _ (congrArg Prod.snd hcall)
      rw [hcall, push_instructionList] at hlist
      exact absurd (List.append_right_eq_self.mp hlist) hsome
    · intro hcompiles e he
      have hempty : addition.instructions = [] := by
        by_contra hsome
        have hsize := hcompiles addition haddition hsome
        rw [hnone] at hsize
        cases hsize
      rw [hcall]
      simp [hempty]
  · constructor
    · intro hleaves addition' haddition' hsome
      obtain rfl : addition = addition' := Except.ok.inj (haddition.symm.trans haddition')
      rw [hsize]
      rfl
    · intro hcompiles e he
      rw [hcall] at he
      cases he

/-- A call that compiles, or adds nothing, keeps what the ledger shows. -/
theorem Shows.call {call : TransactionCall} (h : Shows first tx entries)
    (hcompiles : tx.Compiles P E web3 call) :
    Shows first (tx.call P E web3 call).1
      (entries ++ (tx.entryOf P E web3 call).toList) := by
  rcases tx.call_cases P E web3 call with
    ⟨hsame, hentry, -, -⟩ | ⟨adding, addition, rfl, haddition, hnone, hcall⟩ |
    ⟨adding, addition, size, rfl, haddition, hsize, -, hcall⟩
  · rw [hsame, hentry]
    simpa using h
  · obtain ⟨hlist, hsigners⟩ := leavesAsBefore_iff _ |>.mpr hcompiles _ (congrArg Prod.snd hcall)
    rw [entryOf_thrown hcall]
    simp only [Option.toList_none, List.append_nil]
    exact ⟨hlist.trans h.instructions, hsigners.trans h.signers, h.created⟩
  · obtain ⟨hvoucher, hcreates⟩ := AddingCall.addition_voucher haddition
    rw [entryOf_returned haddition hcall, hcall]
    refine ⟨?_, ?_, fun entry hentry => ?_⟩
    · have hlist := tx.push_instructionList addition.instructions
      simp only [Option.toList_some, List.flatMap_append, List.flatMap_singleton]
      rw [← List.append_assoc, ← h.instructions, ← hlist]
      rfl
    · cases hcall : adding.voucher with
      | none => simp [hvoucher, hcall, h.signers]
      | some voucher => simp [hvoucher, hcall, h.signers]
    · rcases List.mem_append.mp hentry with hbefore | hlast
      · exact h.created entry hbefore
      · obtain rfl := List.mem_singleton.mp hlast
        exact hcreates

/-- Every call of a run compiles what it adds. -/
def AllCompile (P : Primitives) (E : Ed25519Program) (web3 : Web3) (tx : IkaTransaction)
    (calls : List TransactionCall) : Prop :=
  ∀ done call rest, calls = done ++ call :: rest →
    (tx.after P E web3 done).Compiles P E web3 call

theorem AllCompile.tail {call : TransactionCall} (h : tx.AllCompile P E web3 (call :: calls)) :
    (tx.call P E web3 call).1.AllCompile P E web3 calls := by
  rintro done next rest rfl
  exact h (call :: done) next rest rfl

theorem AllCompile.nil (tx : IkaTransaction) : tx.AllCompile P E web3 [] := by
  intro done call rest h
  simp at h

theorem AllCompile.cons {call : TransactionCall} (hcall : tx.Compiles P E web3 call)
    (hrest : (tx.call P E web3 call).1.AllCompile P E web3 calls) :
    tx.AllCompile P E web3 (call :: calls) := by
  intro done next rest h
  cases done with
  | nil =>
    obtain ⟨rfl, -⟩ := List.cons.inj h
    exact hcall
  | cons first done =>
    obtain ⟨rfl, htail⟩ := List.cons.inj h
    exact hrest done next rest htail

theorem Shows.after (h : Shows first tx entries) (hall : tx.AllCompile P E web3 calls) :
    Shows first (tx.after P E web3 calls) (entries ++ tx.ledger P E web3 calls) := by
  induction calls generalizing tx entries with
  | nil => simpa [ledger, IkaTransaction.after] using h
  | cons call calls ih =>
    have hnext := ih (h.call (hall [] call calls rfl)) hall.tail
    rwa [List.append_assoc] at hnext

/-! ## Sizes -/

/-- A version-0 transaction that is measured is not over the limit. -/
def Fits (web3 : Web3) (tx : IkaTransaction) : Prop :=
  tx.transaction = none → ∀ size, tx.size web3 = some size → size ≤ packetDataSize

theorem fits_new (halone : web3.PayerAlone) (params : IkaTransactionParams) :
    (new params).Fits web3 := by
  intro hversion size hsize
  have hmeasured : (new params).measured = .versioned [] (new params).lookupTables := by
    rw [measured, hversion]
    rfl
  rw [IkaTransaction.size, hmeasured] at hsize
  obtain ⟨message, hmessage, rfl⟩ := Option.map_eq_some_iff.mp hsize
  obtain ⟨hrequired, hkeys, hinstructions, hlookups⟩ := halone _ _ _ _ hmessage
  simp [sizeV0, signaturesLength, messageLength, shortVecLength, packetDataSize, hrequired, hkeys,
    hinstructions, hlookups]

/-- No call makes a version-0 transaction larger than the limit. -/
theorem Fits.call (h : tx.Fits web3) (call : TransactionCall) :
    (tx.call P E web3 call).1.Fits web3 := by
  rcases tx.call_cases P E web3 call with
    ⟨hsame, -, -, -⟩ | ⟨adding, addition, -, -, hnone, hcall⟩ |
    ⟨adding, addition, size, -, -, hsize, hfits, hcall⟩
  · rwa [hsame]
  · intro hversion size hsize
    rw [hcall] at hsize
    cases hnone.symm.trans hsize
  · intro hversion size' hsize'
    rw [hcall] at hsize'
    obtain rfl : size = size' := Option.some.inj (hsize.symm.trans hsize')
    exact hfits

theorem Fits.after (h : tx.Fits web3) : (tx.after P E web3 calls).Fits web3 := by
  induction calls generalizing tx with
  | nil => exact h
  | cons call calls ih => exact ih (h.call call)

theorem Fits.notOver (hweb3 : web3.Documented) (h : tx.Fits web3) : tx.NotOver web3 := by
  intro hversion recentBlockhash message t bytes hmessage ht hwire
  have hplaceholder := hweb3.v0_blockhash _ _ placeholder _ _ _ hmessage
  have hsize : tx.size web3 = some (sizeV0 message) := by
    rw [IkaTransaction.size, measured, hversion]
    simp only [Measured.size, hplaceholder, Option.map_some]
    rfl
  rw [t.wire_length hwire, ht]
  exact h hversion _ hsize

end IkaTransaction

open IkaTransaction

/-- In every run, each call that throws leaves the transaction as it was, the signers are the key
pairs of the vouchers that the instructions create and no version-0 transaction is over the
limit, if and only if each call compiles what it adds. -/
theorem refused_additions_iff {P : Primitives} {E : Ed25519Program} {web3 : Web3}
    (hweb3 : web3.Documented) (halone : web3.PayerAlone) (params : IkaTransactionParams)
    (calls : List TransactionCall) :
    ((∀ done call rest, calls = done ++ call :: rest →
        ((new params).after P E web3 done).LeavesAsBefore P E web3 call) ∧
      ∀ done rest, calls = done ++ rest →
        Shows (new params) ((new params).after P E web3 done) ((new params).ledger P E web3 done) ∧
        ((new params).after P E web3 done).NotOver web3) ↔
    (new params).AllCompile P E web3 calls := by
  constructor
  · rintro ⟨hleaves, -⟩ done call rest hcalls
    exact (leavesAsBefore_iff call).mp (hleaves done call rest hcalls)
  · intro hall
    refine ⟨fun done call rest hcalls => ?_, fun done rest hcalls => ⟨?_, ?_⟩⟩
    · exact (leavesAsBefore_iff call).mpr (hall done call rest hcalls)
    · have hfirst : Shows (new params) (new params) [] :=
        ⟨(List.append_nil _).symm, rfl, fun entry hentry => (by cases hentry)⟩
      refine hfirst.after fun before call after hdone => ?_
      exact hall before call (after ++ rest) (by rw [hcalls, hdone, List.append_assoc]; rfl)
    · exact ((fits_new halone params).after).notOver hweb3

/-! ### More keys than a message names -/

theorem documentedWeb3_payerAlone : documentedWeb3.PayerAlone := by
  intro payer blockhash tables m h
  have hkeys : compileKeys payer [] [] = [payer] := by
    simp [compileKeys, keysOf, List.dedup_eq_self.mpr (List.nodup_singleton payer)]
  simp only [documentedWeb3, hkeys] at h
  obtain rfl := Option.some.inj h
  simp [compileHeader, compileSigns, signersOf, compileInstructions, hkeys]

/-- Instructions that name more than 256 keys do not compile. -/
theorem many_keys_not_compiled {keys : List PublicKey} {payer blockhash : PublicKey}
    {instructions : List TransactionInstruction} {tables : List AddressLookupTableAccount}
    (hnodup : keys.Nodup) (hnamed : ∀ key ∈ keys, key ∈ keysOf payer instructions)
    (hmany : 256 < keys.length) :
    documentedWeb3.compileToV0Message payer blockhash instructions tables = none := by
  have hsub : keys ⊆ compileKeys payer instructions [] := by
    intro key hkey
    exact (mem_compileKeys payer instructions [] key).mpr (hnamed key hkey)
  have hlength := (hnodup.subperm hsub).length_le
  exact if_neg (by omega)

/-- A key for each number. -/
def wideKey (n : ℕ) : PublicKey := ⟨leBytes 32 n, leBytes_length ..⟩

theorem wideKey_nodup (count : ℕ) (h : count < 2 ^ 16) :
    ((List.range count).map wideKey).Nodup := by
  refine List.Nodup.map_on (fun n hn m hm hkey => ?_) List.nodup_range
  have hbytes : leBytes 32 n = leBytes 32 m := congrArg PublicKey.toBytes hkey
  have hvalues := congrArg leValue hbytes
  have hn' := List.mem_range.mp hn
  have hm' := List.mem_range.mp hm
  rwa [leValue_leBytes, leValue_leBytes, Nat.mod_eq_of_lt (by omega),
    Nat.mod_eq_of_lt (by omega)] at hvalues

/-- An instruction over as many accounts. -/
def wideInstruction (count : ℕ) : TransactionInstruction where
  programId := sampleOwner
  keys := (List.range count).map fun n => ⟨wideKey n, false, false⟩
  data := []

theorem wideInstruction_not_compiled {count : ℕ} (hmany : 256 < count) (hfew : count < 2 ^ 16)
    (payer blockhash : PublicKey) (tables : List AddressLookupTableAccount) :
    documentedWeb3.compileToV0Message payer blockhash [wideInstruction count] tables = none := by
  refine many_keys_not_compiled (wideKey_nodup count hfew) (fun key hkey => ?_) (by simpa)
  simp only [keysOf, wideInstruction, List.flatMap_cons, List.map_map]
  exact List.mem_cons_of_mem _ (List.mem_append_left _ (List.mem_append_left _ hkey))

def sampleEd25519Program : Ed25519Program where
  programId := sampleOwner
  createInstructionWithPublicKey _ _ _ := .error "no key is given"

def sampleTransaction : IkaTransactionParams where
  ikaClient := {
    programId := sampleInstruction.programId
    chainNumber := .number 0
    networkValue := .number 3
    getRequestPublicKey := fun keys => .ok keys.request.publicKey
    getDWalletAddress := fun _ => .ok sampleOwner }
  owner := sampleOwner
  version := .version0 none

theorem refused_additions_sample :
    let calls := [TransactionCall.adding (.add [sampleInstruction])]
    let first := new sampleTransaction
    let tx := first.after samplePrimitives sampleEd25519Program documentedWeb3 calls
    Shows first tx (first.ledger samplePrimitives sampleEd25519Program documentedWeb3 calls) ∧
      tx.NotOver documentedWeb3 := by
  have hcompiles : (((new sampleTransaction).push [sampleInstruction]).size
      documentedWeb3).isSome := by
    decide +kernel
  have hall : (new sampleTransaction).AllCompile samplePrimitives sampleEd25519Program
      documentedWeb3 [.adding (.add [sampleInstruction])] := by
    refine .cons (fun addition haddition _ => ?_) (.nil _)
    obtain rfl := Except.ok.inj haddition
    exact hcompiles
  exact ((refused_additions_iff documentedWeb3_documented documentedWeb3_payerAlone
    sampleTransaction _).mpr hall).2 _ [] (List.append_nil _).symm

theorem wide_addition_stays {count : ℕ} (hmany : 256 < count) (hfew : count < 2 ^ 16) :
    ¬(new sampleTransaction).LeavesAsBefore samplePrimitives sampleEd25519Program documentedWeb3
      (.adding (.add [wideInstruction count])) := by
  rw [leavesAsBefore_iff]
  intro hcompiles
  have hsome := hcompiles _ rfl (List.cons_ne_nil _ _)
  have hnone : ((new sampleTransaction).push [wideInstruction count]).size documentedWeb3 = none :=
    congrArg (Option.map sizeV0)
      (wideInstruction_not_compiled hmany hfew sampleOwner placeholder [])
  rw [hnone] at hsome
  cases hsome

/-- The instruction stays in the list, though the call throws. -/
theorem refused_addition_stays :
    ¬(new sampleTransaction).LeavesAsBefore samplePrimitives sampleEd25519Program documentedWeb3
      (.adding (.add [wideInstruction 257])) :=
  wide_addition_stays (by omega) (by omega)

end Ika.Solana
