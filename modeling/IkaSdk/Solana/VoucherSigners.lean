import IkaSdk.Solana.KitInstructions

/-! Vouchers that are issued at the same time: when each of them has its own signer, once all of
their calls returned. -/

namespace Ika.Solana

open Wire Builders

section Vouchers

variable {Signer : Type} (K : KitSigners Signer)

/-- The signer that a call attached. -/
def Approval.attached (approval : Approval) : Option Signer :=
  if approval.settled then
    approval.keypair.map fun keypair => K.createKeyPairSignerFromBytes keypair.secretKey
  else none

/-- Each voucher has one signer, which is attached to the voucher's account wherever that signs,
and no other signer is kept. -/
structure SignersKept (run : KitRun Signer) : Prop where
  once : ∀ approval ∈ run.approvals,
    (run.tx.voucherSigners.filter fun signer => K.address signer = approval.voucher).length = 1
  own : ∀ signer ∈ run.tx.voucherSigners, ∃ approval ∈ run.approvals,
    K.address signer = approval.voucher
  created : ∀ approval ∈ run.approvals, ∃ i ∈ run.tx.instructions, ∃ account,
    .byAddress account ∈ i.accounts.getD [] ∧ account.address = approval.voucher ∧
      account.role = .writableSigner
  attached : ∀ approval ∈ run.approvals, ∀ i ∈ run.tx.instructions, ∀ account,
    .byAddress account ∈ i.accounts.getD [] → account.address = approval.voucher →
      account.role.signs → ∃ signer ∈ run.tx.voucherSigners,
        K.address signer = approval.voucher ∧ account.signer = some signer

/-- What holds between the steps of the calls. -/
structure KitRun.Sound (run : KitRun Signer) : Prop where
  vouchers : run.approvals.map (·.voucher) = run.tx.inner.signers.map (·.publicKey)
  later : ∀ (k : ℕ) approval keypair, run.approvals[k]? = some approval →
    approval.keypair = some keypair → ∃ j : ℕ, k ≤ j ∧ run.tx.inner.signers[j]? = some keypair
  settled : ∀ approval ∈ run.approvals, approval.settled → approval.keypair.isSome
  kept : run.tx.voucherSigners.Perm (run.approvals.filterMap (Approval.attached K))
  created : ∀ approval ∈ run.approvals, ∃ i ∈ run.tx.inner.instructionList,
    ⟨approval.voucher, true, true⟩ ∈ i.keys
  known : (run.tx.inner.signers.map (·.publicKey)).Nodup → ∀ approval ∈ run.approvals,
    ∀ keypair, approval.keypair = some keypair → approval.settled →
      run.tx.signers keypair.publicKey =
        some (K.createKeyPairSignerFromBytes keypair.secretKey)

variable {K} {P : Primitives} {E : Ed25519Program} {web3 : Web3}
  {params : KitTransactionParams Signer} {run : KitRun Signer}

theorem sound_new : KitRun.Sound K (.new K params) where
  vouchers := rfl
  later := by
    intro k approval keypair h
    cases h
  settled := by
    intro approval h
    cases h
  kept := .refl _
  created := by
    intro approval h
    cases h
  known := by
    intro _ approval h
    cases h

/-- More instructions, and nothing else. -/
theorem KitRun.Sound.appended (h : KitRun.Sound K run) {inner : IkaTransaction}
    (hsigners : inner.signers = run.tx.inner.signers)
    (happended : ∃ appended, inner.instructionList = run.tx.inner.instructionList ++ appended) :
    KitRun.Sound K { run with tx := { run.tx with inner } } := by
  obtain ⟨appended, happended⟩ := happended
  refine ⟨?_, ?_, h.settled, h.kept, ?_, ?_⟩
  · simpa [hsigners] using h.vouchers
  · simpa [hsigners] using h.later
  · intro approval happroval
    obtain ⟨i, hi, hkeys⟩ := h.created approval happroval
    exact ⟨i, by simp [happended, hi], hkeys⟩
  · simpa [hsigners] using h.known

variable (P E web3) in
/-- A call appends to the instructions; it also issues a voucher, or it keeps the signers. -/
theorem call_issues (run : KitRun Signer) (call : AddingCall) :
    ((run.call P E web3 call).approvals = run.approvals ∧
      (run.tx.inner.call P E web3 (.adding call)).1.signers = run.tx.inner.signers) ∨
    ∃ keypair, (run.call P E web3 call).approvals =
        run.approvals ++ [{ voucher := keypair.publicKey }] ∧
      (run.tx.inner.call P E web3 (.adding call)).1.signers =
        run.tx.inner.signers ++ [keypair] ∧
      ∃ i ∈ (run.tx.inner.call P E web3 (.adding call)).1.instructionList,
        ⟨keypair.publicKey, true, true⟩ ∈ i.keys := by
  unfold KitRun.call
  rcases run.tx.inner.call_cases P E web3 (.adding call) with
    ⟨hsame, -, -, hresult⟩ | ⟨adding, addition, -, -, -, hcall⟩ |
    ⟨adding, addition, size, hadding, haddition, -, -, hcall⟩
  · refine .inl ⟨?_, by rw [hsame]⟩
    dsimp only
    split
    · next address hissued => exact absurd hissued (hresult address)
    · rfl
  · exact .inl ⟨by simp [hcall], by simp [hcall]⟩
  · obtain rfl := TransactionCall.adding.inj hadding
    obtain ⟨hvoucher, hcreates⟩ := AddingCall.addition_voucher haddition
    cases hissued : addition.voucher with
    | none => exact .inl ⟨by simp [hcall, Addition.result, hissued], by simp [hcall, hissued]⟩
    | some keypair =>
      refine .inr ⟨keypair, by simp [hcall, Addition.result, hissued], by simp [hcall, hissued], ?_⟩
      obtain ⟨i, hi, hkeys⟩ := hcreates keypair (hvoucher.symm.trans hissued)
      have hlist : (run.tx.inner.call P E web3 (.adding call)).1.instructionList =
          run.tx.inner.instructionList ++ addition.instructions := by
        rw [hcall]
        exact run.tx.inner.push_instructionList _
      exact ⟨i, by rw [hlist]; exact List.mem_append_right _ hi, hkeys⟩

theorem KitRun.Sound.call (h : KitRun.Sound K run) (call : AddingCall) :
    KitRun.Sound K (run.call P E web3 call) := by
  have happended := call_appends P E web3 run.tx.inner (.adding call)
  rcases call_issues P E web3 run call with
    ⟨happrovals, hsigners⟩ | ⟨keypair, happrovals, hsigners, i, hi, hkeys⟩
  · have hkept := h.appended hsigners happended
    have hrun : run.call P E web3 call = { run with tx := (run.call P E web3 call).tx } := by
      rw [← happrovals]
    rw [hrun, KitRun.call_tx]
    exact hkept
  · obtain ⟨appended, happended⟩ := happended
    refine ⟨?_, ?_, ?_, ?_, ?_, ?_⟩
    · simp [happrovals, hsigners, h.vouchers]
    · intro k approval read hk hread
      rw [happrovals] at hk
      rcases of_getElem?_concat hk with hbefore | ⟨-, rfl⟩
      · obtain ⟨j, hj, hvalue⟩ := h.later k approval read hbefore hread
        refine ⟨j, hj, ?_⟩
        rw [KitRun.call_tx, hsigners, List.getElem?_append_left]
        · exact hvalue
        · exact (List.getElem?_eq_some_iff.mp hvalue).1
      · cases hread
    · intro approval hmem hsettled
      rw [happrovals] at hmem
      rcases List.mem_append.mp hmem with hbefore | hnew
      · exact h.settled approval hbefore hsettled
      · obtain rfl := List.mem_singleton.mp hnew
        cases hsettled
    · rw [happrovals]
      simpa [Approval.attached] using h.kept
    · intro approval hmem
      rw [KitRun.call_tx]
      rw [happrovals] at hmem
      rcases List.mem_append.mp hmem with hbefore | hnew
      · obtain ⟨earlier, hearlier, haccount⟩ := h.created approval hbefore
        exact ⟨earlier, by simp [happended, hearlier], haccount⟩
      · obtain rfl := List.mem_singleton.mp hnew
        exact ⟨i, hi, hkeys⟩
    · intro hnodup approval hmem read hread hsettled
      rw [KitRun.call_tx, hsigners, List.map_append, List.nodup_append] at hnodup
      rw [happrovals] at hmem
      rw [KitRun.call_tx]
      rcases List.mem_append.mp hmem with hbefore | hnew
      · exact h.known hnodup.1 approval hbefore read hread hsettled
      · obtain rfl := List.mem_singleton.mp hnew
        cases hread

theorem add_signers (tx : IkaTransaction) (instructions : List TransactionInstruction) :
    (tx.call P E web3 (.adding (.add instructions))).1.signers = tx.signers := by
  rcases tx.call_cases P E web3 (.adding (.add instructions)) with
    ⟨hsame, -⟩ | ⟨adding, addition, -, -, -, hcall⟩ |
    ⟨adding, addition, size, hadding, haddition, -, -, hcall⟩
  · rw [hsame]
  · rw [hcall, IkaTransaction.push_signers]
  · obtain rfl := TransactionCall.adding.inj hadding
    obtain rfl := Except.ok.inj haddition
    rw [hcall]
    exact List.append_nil _

theorem KitRun.Sound.add (h : KitRun.Sound K run) (instructions : List (KitInstruction Signer)) :
    KitRun.Sound K { run with tx := (run.tx.add P E web3 instructions).1 } := by
  cases hconverted : instructions.mapM fromKit with
  | error e => simpa [KitTransaction.add, hconverted] using h
  | ok converted =>
    simpa [KitTransaction.add, hconverted] using h.appended (add_signers run.tx.inner converted)
      (call_appends P E web3 run.tx.inner (.adding (.add converted)))

theorem KitRun.Sound.issued (h : KitRun.Sound K run) {approval : Approval} {keypair : Keypair}
    (hmem : approval ∈ run.approvals) (hread : approval.keypair = some keypair) :
    keypair ∈ run.tx.inner.signers := by
  obtain ⟨k, hk⟩ := List.getElem?_of_mem hmem
  obtain ⟨j, -, hvalue⟩ := h.later k approval keypair hk hread
  exact List.mem_of_getElem? hvalue

theorem KitRun.Sound.place (h : KitRun.Sound K run) {k : ℕ} {approval : Approval}
    (hk : run.approvals[k]? = some approval) : k < run.tx.inner.signers.length := by
  have hlength : run.approvals.length = run.tx.inner.signers.length := by
    simpa using congrArg List.length h.vouchers
  rw [← hlength]
  exact (List.getElem?_eq_some_iff.mp hk).1

theorem KitRun.Sound.reads (h : KitRun.Sound K run) (k : ℕ) : KitRun.Sound K (run.reads k) := by
  unfold KitRun.reads
  split
  · next voucher settled hk =>
    have hplace := h.place hk
    have hunsettled : settled = false := by
      by_contra hsettled
      have hsome := h.settled _ (List.mem_of_getElem? hk) (by simpa using hsettled)
      cases hsome
    subst hunsettled
    refine ⟨?_, ?_, ?_, ?_, ?_, ?_⟩
    · rw [← h.vouchers]
      exact map_set_same hk rfl
    · intro i approval read hi hread
      rw [List.getElem?_set] at hi
      split_ifs at hi with heq hlt
      · obtain rfl := Option.some.inj hi
        rw [List.getLast?_eq_getElem?] at hread
        exact ⟨_, by omega, hread⟩
      · exact h.later i approval read hi hread
    · intro approval hmem hsettled
      rcases List.mem_or_eq_of_mem_set hmem with hbefore | rfl
      · exact h.settled approval hbefore hsettled
      · cases hsettled
    · have hsame := filterMap_set_same (f := Approval.attached K) hk
        (show Approval.attached K ⟨voucher, run.tx.inner.signers.getLast?, false⟩ = _ from rfl)
      exact hsame ▸ h.kept
    · intro approval hmem
      rcases List.mem_or_eq_of_mem_set hmem with hbefore | rfl
      · exact h.created approval hbefore
      · have hcreated := h.created _ (List.mem_of_getElem? hk)
        exact hcreated
    · intro hnodup approval hmem read hread hsettled
      rcases List.mem_or_eq_of_mem_set hmem with hbefore | rfl
      · exact h.known hnodup approval hbefore read hread hsettled
      · cases hsettled
  · exact h

theorem KitRun.Sound.attaches (h : KitRun.Sound K run) (k : ℕ) :
    KitRun.Sound K (run.attaches K k) := by
  unfold KitRun.attaches
  split
  · next voucher keypair hk =>
    refine ⟨?_, ?_, ?_, ?_, ?_, ?_⟩
    · rw [KitTransaction.attach, ← h.vouchers]
      exact map_set_same hk rfl
    · intro i approval read hi hread
      rw [List.getElem?_set] at hi
      split_ifs at hi with heq hlt
      · subst heq
        obtain rfl := Option.some.inj hi
        exact h.later k _ read hk hread
      · exact h.later i approval read hi hread
    · intro approval hmem hsettled
      rcases List.mem_or_eq_of_mem_set hmem with hbefore | rfl
      · exact h.settled approval hbefore hsettled
      · rfl
    · have hperm := filterMap_set_perm (f := Approval.attached K) hk rfl
        (show Approval.attached K ⟨voucher, some keypair, true⟩ = some _ from rfl)
      exact (h.kept.append_right _).trans ((List.perm_append_singleton _ _).trans hperm.symm)
    · intro approval hmem
      rcases List.mem_or_eq_of_mem_set hmem with hbefore | rfl
      · exact h.created approval hbefore
      · have hcreated := h.created _ (List.mem_of_getElem? hk)
        exact hcreated
    · intro hnodup approval hmem read hread hsettled
      have hupdated : (run.tx.attach K keypair).signers = Function.update run.tx.signers
          keypair.publicKey (some (K.createKeyPairSignerFromBytes keypair.secretKey)) := by
        rw [KitTransaction.attach, K.address_keyPair]
      rw [hupdated]
      by_cases hsame : read = keypair
      · rw [hsame, Function.update_self]
      · rcases List.mem_or_eq_of_mem_set hmem with hbefore | rfl
        · have hissued := h.issued hbefore hread
          have hother := h.issued (List.mem_of_getElem? hk) rfl
          have hkey : read.publicKey ≠ keypair.publicKey := fun hkey =>
            hsame (List.inj_on_of_nodup_map hnodup hissued hother hkey)
          rw [Function.update_of_ne hkey]
          exact h.known hnodup approval hbefore read hread hsettled
        · exact absurd (Option.some.inj hread).symm hsame
  · exact h

theorem KitRun.Sound.step (h : KitRun.Sound K run) (event : KitEvent Signer) :
    KitRun.Sound K (run.step K P E web3 event) := by
  cases event with
  | add instructions => exact h.add instructions
  | call call => exact h.call call
  | reads k => exact h.reads k
  | attaches k => exact h.attaches k

variable (K P E web3 params) in
theorem sound_after (events : List (KitEvent Signer)) :
    KitRun.Sound K (KitRun.after K P E web3 params events) := by
  induction events using List.reverseRecOn with
  | nil => exact sound_new
  | append_singleton events event ih =>
    rw [KitRun.after_concat]
    exact ih.step event

/-! ## Each call's own key pair -/

/-- What a call read is the key pair of its own voucher. -/
def KitRun.OwnKeys (run : KitRun Signer) : Prop :=
  ∀ approval ∈ run.approvals, ∀ keypair, approval.keypair = some keypair →
    keypair.publicKey = approval.voucher

/-- The address of the signer that a call attaches. -/
def Approval.readKey (approval : Approval) : PublicKey :=
  (approval.keypair.map (·.publicKey)).getD approval.voucher

theorem KitRun.Sound.read (h : KitRun.Sound K run)
    (hsettled : ∀ approval ∈ run.approvals, approval.settled) {approval : Approval}
    (hmem : approval ∈ run.approvals) : ∃ keypair, approval.keypair = some keypair :=
  Option.isSome_iff_exists.mp (h.settled approval hmem (hsettled approval hmem))

theorem KitRun.Sound.addresses (h : KitRun.Sound K run)
    (hsettled : ∀ approval ∈ run.approvals, approval.settled) :
    (run.tx.voucherSigners.map K.address).Perm (run.approvals.map (·.readKey)) := by
  have hread : ∀ approval ∈ run.approvals,
      (approval.attached K).map K.address = some approval.readKey := by
    intro approval hmem
    obtain ⟨keypair, hkeypair⟩ := h.read hsettled hmem
    simp [Approval.attached, Approval.readKey, hsettled approval hmem, hkeypair, K.address_keyPair]
  have hmapped := h.kept.map K.address
  rw [List.map_filterMap, List.filterMap_congr hread] at hmapped
  simpa [List.filterMap_eq_map] using hmapped

theorem count_addresses (signers : List Signer) (key : PublicKey) :
    (signers.map K.address).count key = (signers.filter fun s => K.address s = key).length := by
  rw [List.count, List.countP_map, List.countP_eq_length_filter]
  rfl

/-- One signer for each voucher, and no other one. -/
theorem addresses_perm (hnodup : (run.approvals.map (·.voucher)).Nodup)
    (h : SignersKept K run) :
    (run.tx.voucherSigners.map K.address).Perm (run.approvals.map (·.voucher)) := by
  rw [List.perm_iff_count]
  intro key
  by_cases hmem : key ∈ run.approvals.map (·.voucher)
  · obtain ⟨approval, happroval, rfl⟩ := List.mem_map.mp hmem
    rw [List.count_eq_one_of_mem hnodup hmem, count_addresses]
    exact h.once approval happroval
  · rw [List.count_eq_zero_of_not_mem hmem, List.count_eq_zero]
    intro hkey
    obtain ⟨signer, hsigner, rfl⟩ := List.mem_map.mp hkey
    obtain ⟨approval, happroval, haddress⟩ := h.own signer hsigner
    exact hmem (haddress ▸ List.mem_map_of_mem happroval)

/-- An account that signs carries the signer that is known by its address. -/
theorem account_signer {tx : KitTransaction Signer} {i : KitInstruction Signer}
    {account : KitAccount Signer} (hi : i ∈ tx.instructions)
    (haccount : .byAddress account ∈ i.accounts.getD []) (hsigns : account.role.signs) :
    account.signer = tx.signers account.address := by
  obtain ⟨instruction, -, rfl⟩ := List.mem_map.mp hi
  obtain ⟨key, -, hshown⟩ := List.mem_map.mp haccount
  obtain rfl := KitAccountMeta.byAddress.inj hshown
  cases hsigner : key.isSigner with
  | true => simp [KitTransaction.toKitAccount, hsigner]
  | false =>
    have hnone : (kitRole key.isSigner key.isWritable).signs = false := by
      rw [hsigner]
      cases key.isWritable <;> rfl
    rw [KitTransaction.toKitAccount, hnone] at hsigns
    cases hsigns

/-- Once all of the calls returned, their signers are kept if and only if each read the key pair
of its own voucher. -/
theorem KitRun.Sound.signersKept_iff (h : KitRun.Sound K run)
    (hnodup : (run.tx.inner.signers.map (·.publicKey)).Nodup)
    (hsettled : ∀ approval ∈ run.approvals, approval.settled) :
    SignersKept K run ↔ run.OwnKeys := by
  have hvouchers : (run.approvals.map (·.voucher)).Nodup := by rwa [h.vouchers]
  have haddresses := h.addresses hsettled
  constructor
  · intro hkept approval hmem keypair hread
    have hperm := haddresses.symm.trans (addresses_perm hvouchers hkept)
    have hsame : run.approvals.map (·.readKey) = run.approvals.map (·.voucher) := by
      refine eq_of_perm_of_later hvouchers hperm fun k key hk => ?_
      rw [List.getElem?_map] at hk
      obtain ⟨approval, hentry, rfl⟩ := Option.map_eq_some_iff.mp hk
      obtain ⟨keypair, hread⟩ := h.read hsettled (List.mem_of_getElem? hentry)
      obtain ⟨j, hj, hvalue⟩ := h.later k approval keypair hentry hread
      refine ⟨j, hj, ?_⟩
      rw [h.vouchers, List.getElem?_map, hvalue]
      simp [Approval.readKey, hread]
    have hown := List.map_inj_left.mp hsame approval hmem
    simpa [Approval.readKey, hread] using hown
  · intro hown
    have hsame : run.approvals.map (·.readKey) = run.approvals.map (·.voucher) := by
      refine List.map_congr_left fun approval hmem => ?_
      obtain ⟨keypair, hread⟩ := h.read hsettled hmem
      simp [Approval.readKey, hread, hown approval hmem keypair hread]
    rw [hsame] at haddresses
    refine ⟨?_, ?_, ?_, ?_⟩
    · intro approval hmem
      rw [← count_addresses, haddresses.count_eq]
      exact List.count_eq_one_of_mem hvouchers (List.mem_map_of_mem hmem)
    · intro signer hsigner
      obtain ⟨approval, hmem, haddress⟩ :=
        List.mem_map.mp (haddresses.mem_iff.mp (List.mem_map_of_mem hsigner))
      exact ⟨approval, hmem, haddress.symm⟩
    · intro approval hmem
      obtain ⟨i, hi, hkeys⟩ := h.created approval hmem
      refine ⟨run.tx.toKit i, List.mem_map_of_mem hi,
        run.tx.toKitAccount ⟨approval.voucher, true, true⟩, ?_, rfl, rfl⟩
      exact List.mem_map_of_mem hkeys
    · intro approval hmem i hi account haccount haddress hsigns
      obtain ⟨keypair, hread⟩ := h.read hsettled hmem
      have hkey := hown approval hmem keypair hread
      have hknown := h.known hnodup approval hmem keypair hread (hsettled approval hmem)
      refine ⟨K.createKeyPairSignerFromBytes keypair.secretKey, ?_, ?_, ?_⟩
      · refine h.kept.mem_iff.mpr (List.mem_filterMap.mpr ⟨approval, hmem, ?_⟩)
        simp [Approval.attached, hsettled approval hmem, hread]
      · rw [K.address_keyPair, hkey]
      · rw [account_signer hi haccount hsigns, haddress, ← hkey, hknown]

/-! ## Runs -/

variable (K P E web3 params) in
/-- No other voucher was issued between a call's own voucher and its reading of the key pair. -/
def ReadsOwn (events : List (KitEvent Signer)) : Prop :=
  ∀ done k rest, events = done ++ .reads k :: rest →
    ∀ approval, (KitRun.after K P E web3 params done).approvals[k]? = some approval →
      approval.keypair = none → k + 1 = (KitRun.after K P E web3 params done).approvals.length

theorem KitRun.Sound.voucher_at (h : KitRun.Sound K run) {k : ℕ} {approval : Approval}
    {keypair : Keypair} (hk : run.approvals[k]? = some approval)
    (hissued : run.tx.inner.signers[k]? = some keypair) :
    keypair.publicKey = approval.voucher := by
  have hsame := congrArg (·[k]?) h.vouchers
  simp only [List.getElem?_map, hk, hissued, Option.map_some] at hsame
  exact (Option.some.inj hsame).symm

theorem reads_own (h : KitRun.Sound K run) (hown : run.OwnKeys) {k : ℕ}
    (hlast : ∀ approval, run.approvals[k]? = some approval → approval.keypair = none →
      k + 1 = run.approvals.length) : (run.reads k).OwnKeys := by
  unfold KitRun.reads
  split
  · next voucher settled hk =>
    have hlength := hlast _ hk rfl
    intro approval hmem keypair hread
    rcases List.mem_or_eq_of_mem_set hmem with hbefore | rfl
    · exact hown approval hbefore keypair hread
    · have hlength' : run.tx.inner.signers.length = k + 1 := by
        rw [hlength]
        simpa using (congrArg List.length h.vouchers).symm
      rw [List.getLast?_eq_getElem?, hlength', Nat.add_sub_cancel] at hread
      have hissued := h.voucher_at hk hread
      exact hissued
  · exact hown

theorem attaches_own (hown : run.OwnKeys) (k : ℕ) : (run.attaches K k).OwnKeys := by
  unfold KitRun.attaches
  split
  · next voucher keypair hk =>
    intro approval hmem read hread
    rcases List.mem_or_eq_of_mem_set hmem with hbefore | rfl
    · exact hown approval hbefore read hread
    · exact hown _ (List.mem_of_getElem? hk) read hread
  · exact hown

theorem call_own (hown : run.OwnKeys) (call : AddingCall) :
    (run.call P E web3 call).OwnKeys := by
  intro approval hmem keypair hread
  rcases call_issues P E web3 run call with
    ⟨happrovals, -⟩ | ⟨issued, happrovals, -⟩
  · rw [happrovals] at hmem
    exact hown approval hmem keypair hread
  · rw [happrovals] at hmem
    rcases List.mem_append.mp hmem with hbefore | hnew
    · exact hown approval hbefore keypair hread
    · obtain rfl := List.mem_singleton.mp hnew
      cases hread

theorem own_after {events : List (KitEvent Signer)} (h : ReadsOwn K P E web3 params events) :
    (KitRun.after K P E web3 params events).OwnKeys := by
  induction events using List.reverseRecOn with
  | nil =>
    intro approval hmem
    cases hmem
  | append_singleton events event ih =>
    have hbefore : ReadsOwn K P E web3 params events := by
      rintro done k rest rfl
      exact h done k (rest ++ [event]) (by simp)
    rw [KitRun.after_concat]
    cases event with
    | add instructions => exact ih hbefore
    | call call => exact call_own (ih hbefore) call
    | reads k =>
      exact reads_own (sound_after K P E web3 params events) (ih hbefore) (h events k [] rfl)
    | attaches k => exact attaches_own (ih hbefore) k

variable (K P E web3) in
/-- The vouchers stay, in their order. -/
theorem step_vouchers (run : KitRun Signer) (event : KitEvent Signer) :
    ∃ more, (run.step K P E web3 event).approvals.map (·.voucher) =
      run.approvals.map (·.voucher) ++ more := by
  cases event with
  | add instructions => exact ⟨[], by simp [KitRun.step]⟩
  | call call =>
    rcases call_issues P E web3 run call with
      ⟨happrovals, -⟩ | ⟨keypair, happrovals, -⟩
    · exact ⟨[], by simp [KitRun.step, happrovals]⟩
    · exact ⟨[keypair.publicKey], by simp [KitRun.step, happrovals]⟩
  | reads k =>
    refine ⟨[], ?_⟩
    rw [KitRun.step, KitRun.reads, List.append_nil]
    split
    · next voucher settled hk => exact map_set_same hk rfl
    · rfl
  | attaches k =>
    refine ⟨[], ?_⟩
    rw [KitRun.step, KitRun.attaches, List.append_nil]
    split
    · next voucher keypair hk => exact map_set_same hk rfl
    · rfl

variable (K P E web3) in
/-- What a call read, it keeps. -/
theorem step_read {k : ℕ} {approval : Approval} {keypair : Keypair} (event : KitEvent Signer)
    (hk : run.approvals[k]? = some approval) (hread : approval.keypair = some keypair) :
    ∃ approval', (run.step K P E web3 event).approvals[k]? = some approval' ∧
      approval'.voucher = approval.voucher ∧ approval'.keypair = some keypair := by
  cases event with
  | add instructions => exact ⟨approval, hk, rfl, hread⟩
  | call call =>
    refine ⟨approval, ?_, rfl, hread⟩
    rcases call_issues P E web3 run call with
      ⟨happrovals, -⟩ | ⟨keypair, happrovals, -⟩
    · rw [KitRun.step, happrovals, hk]
    · rw [KitRun.step, happrovals, List.getElem?_append_left, hk]
      exact (List.getElem?_eq_some_iff.mp hk).1
  | reads i =>
    refine ⟨approval, ?_, rfl, hread⟩
    rw [KitRun.step, KitRun.reads]
    split
    · next voucher settled hi =>
      have hne : i ≠ k := by
        rintro rfl
        obtain rfl := Option.some.inj (hk.symm.trans hi)
        cases hread
      rw [List.getElem?_set_ne hne, hk]
    · exact hk
  | attaches i =>
    rw [KitRun.step, KitRun.attaches]
    split
    · next voucher read hi =>
      by_cases heq : i = k
      · subst heq
        obtain rfl := Option.some.inj (hk.symm.trans hi)
        refine ⟨_, List.getElem?_set_self (List.getElem?_eq_some_iff.mp hk).1, rfl, hread⟩
      · exact ⟨approval, by rw [List.getElem?_set_ne heq, hk], rfl, hread⟩
    · exact ⟨approval, hk, rfl, hread⟩

variable (K P E web3 params) in
theorem after_vouchers (done rest : List (KitEvent Signer)) :
    ∃ more, (KitRun.after K P E web3 params (done ++ rest)).approvals.map (·.voucher) =
      (KitRun.after K P E web3 params done).approvals.map (·.voucher) ++ more := by
  induction rest using List.reverseRecOn with
  | nil => exact ⟨[], by simp⟩
  | append_singleton rest event ih =>
    obtain ⟨earlier, hearlier⟩ := ih
    obtain ⟨more, hmore⟩ := step_vouchers K P E web3
      (KitRun.after K P E web3 params (done ++ rest)) event
    refine ⟨earlier ++ more, ?_⟩
    rw [← List.append_assoc, KitRun.after_concat, hmore, hearlier, List.append_assoc]

theorem after_read (done rest : List (KitEvent Signer)) {k : ℕ} {voucher : PublicKey}
    {keypair : Keypair}
    (h : ∃ approval, (KitRun.after K P E web3 params done).approvals[k]? = some approval ∧
      approval.voucher = voucher ∧ approval.keypair = some keypair) :
    ∃ approval, (KitRun.after K P E web3 params (done ++ rest)).approvals[k]? = some approval ∧
      approval.voucher = voucher ∧ approval.keypair = some keypair := by
  induction rest using List.reverseRecOn with
  | nil => simpa using h
  | append_singleton rest event ih =>
    obtain ⟨approval, hk, hvoucher, hread⟩ := ih
    obtain ⟨approval', hk', hvoucher', hread'⟩ :=
      step_read K P E web3 event hk hread
    refine ⟨approval', ?_, hvoucher'.trans hvoucher, hread'⟩
    rw [← List.append_assoc, KitRun.after_concat]
    exact hk'

/-- A call that reads takes the key pair that was issued last. -/
theorem reads_last (h : KitRun.Sound K run) {k : ℕ} {approval : Approval}
    (hk : run.approvals[k]? = some approval) (hnone : approval.keypair = none) :
    ∃ keypair, run.tx.inner.signers[run.approvals.length - 1]? = some keypair ∧
      (run.reads k).approvals[k]? = some { approval with keypair := some keypair } := by
  have hlength : run.tx.inner.signers.length = run.approvals.length := by
    simpa using (congrArg List.length h.vouchers).symm
  have hlt := (List.getElem?_eq_some_iff.mp hk).1
  have hlast : run.approvals.length - 1 < run.tx.inner.signers.length := by omega
  refine ⟨_, List.getElem?_eq_getElem hlast, ?_⟩
  obtain ⟨voucher, read, settled⟩ := approval
  obtain rfl : read = none := hnone
  rw [KitRun.reads, hk]
  simp only
  rw [List.getElem?_set_self hlt, List.getLast?_eq_getElem?, hlength,
    List.getElem?_eq_getElem hlast]

/-- In every run of calls at the same time that all returned, with a new key for each voucher,
the vouchers' signers are kept if and only if each call read its key pair before another voucher
was issued. -/
theorem concurrent_vouchers_iff (events : List (KitEvent Signer))
    (hfresh : ((KitRun.after K P E web3 params events).tx.inner.signers.map
      (·.publicKey)).Nodup)
    (hsettled : ∀ approval ∈ (KitRun.after K P E web3 params events).approvals,
      approval.settled) :
    SignersKept K (KitRun.after K P E web3 params events) ↔
      ReadsOwn K P E web3 params events := by
  have hsound := sound_after K P E web3 params events
  rw [hsound.signersKept_iff hfresh hsettled]
  refine ⟨?_, own_after⟩
  intro hown done k rest hevents approval hk hnone
  have hdone := sound_after K P E web3 params done
  obtain ⟨keypair, hlast, hread⟩ := reads_last hdone hk hnone
  subst hevents
  obtain ⟨final, hfinal, hvoucher, hkept⟩ := after_read (done ++ [.reads k]) rest
    ⟨_, by rw [KitRun.after_concat]; exact hread, rfl, rfl⟩
  rw [List.append_assoc] at hfinal
  have hsame := hown final (List.mem_of_getElem? hfinal) keypair hkept
  obtain ⟨more, hmore⟩ := after_vouchers K P E web3 params done (.reads k :: rest)
  rw [← hsound.vouchers, hmore, List.nodup_append] at hfresh
  have hown' : ((KitRun.after K P E web3 params done).approvals.map (·.voucher))[k]? =
      some approval.voucher := by
    rw [List.getElem?_map, hk, Option.map_some]
  have hlast' : ((KitRun.after K P E web3 params done).approvals.map (·.voucher))[
      (KitRun.after K P E web3 params done).approvals.length - 1]? = some approval.voucher := by
    rw [hdone.vouchers, List.getElem?_map, hlast, Option.map_some, hsame, hvoucher]
  have hplace := (List.getElem?_eq_some_iff.mp hown').1
  have heq := (List.getElem?_inj hplace hfresh.1).mp (hown'.trans hlast'.symm)
  rw [List.length_map] at hplace
  omega

end Vouchers

/-! ### Two vouchers at once -/

def sampleKeypair (n : ℕ) : Keypair where
  publicKey := wideKey n
  secretKey := List.replicate 32 0 ++ (wideKey n).toBytes
  endsWithPublic := List.drop_left' List.length_replicate

def sampleApproval : ApproveMessageParams where
  dWallet := sampleSigningDWallet
  message := [9]
  signatureAlgorithm := .ecdsaSecp256k1
  hashScheme := .keccak256

def sampleKeys : UserShareEncryptionKeys where
  encryptionKey := [1]
  curve := .secp256k1
  holder := ⟨[1], sampleOwner.toBytes⟩
  request := ⟨[2], sampleOwner.toBytes⟩

def sampleApproveMessage (n : ℕ) : AddingCall :=
  .approveMessage sampleApproval ⟨.ok ⟨.solana, sampleOwner.toBytes, [1]⟩, sampleKeypair n⟩

def sampleVoucherParams : KitTransactionParams PublicKey :=
  { sampleKitParams with userShareEncryptionKeys := some sampleKeys }

def sampleRun (events : List (KitEvent PublicKey)) : KitRun PublicKey :=
  KitRun.after sampleSigners samplePrimitives sampleEd25519Program documentedWeb3
    sampleVoucherParams events

def sampleApproveFutureSign (n : ℕ) : AddingCall :=
  .approveFutureSign sampleApproval ⟨.ok ⟨.solana, sampleOwner.toBytes, [1]⟩, sampleKeypair n⟩

/-- A voucher that is issued once the call of the one before has returned. -/
theorem vouchers_in_turn_keep_signers :
    let run := sampleRun [.call (sampleApproveMessage 1), .reads 0, .attaches 0,
      .call (sampleApproveFutureSign 2), .reads 1, .attaches 1]
    run.tx.inner.signers.length = 2 ∧ SignersKept sampleSigners run := by
  refine ⟨by decide +kernel, (concurrent_vouchers_iff _ (by decide +kernel)
    (by decide +kernel)).mpr ?_⟩
  intro done k rest hevents approval hk hnone
  have hdone : (done = [.call (sampleApproveMessage 1)] ∧ k = 0) ∨
      done = [.call (sampleApproveMessage 1), .reads 0, .attaches 0,
        .call (sampleApproveFutureSign 2)] ∧ k = 1 := by
    clear hk
    rcases done with _ | ⟨_, _ | ⟨_, _ | ⟨_, _ | ⟨_, _ | ⟨_, _ | ⟨_, done⟩⟩⟩⟩⟩⟩ <;>
      simp at hevents ⊢ <;> grind
  rcases hdone with ⟨rfl, rfl⟩ | ⟨rfl, rfl⟩
  · decide +kernel
  · decide +kernel

/-- Both calls read the key pair of the second voucher, and the first one has no signer. -/
theorem last_key_read_twice :
    let run := sampleRun [.call (sampleApproveMessage 1), .call (sampleApproveMessage 2), .reads 0,
      .reads 1, .attaches 0, .attaches 1]
    (∀ approval ∈ run.approvals, approval.settled) ∧
      (run.tx.inner.signers.map (·.publicKey)).Nodup ∧ ¬SignersKept sampleSigners run := by
  refine ⟨by decide +kernel, by decide +kernel, fun hkept => ?_⟩
  have honce := hkept.once ⟨wideKey 1, some (sampleKeypair 2), true⟩ (by decide +kernel)
  exact absurd honce (by decide +kernel)

end Ika.Solana
