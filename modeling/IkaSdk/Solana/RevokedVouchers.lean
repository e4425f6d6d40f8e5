import IkaSdk.Solana.ForeignAccounts
import IkaSdk.Solana.SignatureWaits

/-! A wait for a signature over one state of the voucher's account. The network may write the
signature of a sign that it agreed to into a voucher that was revoked since. -/

namespace Ika.Solana

open Wire Interaction Eff

def signatureVoucherRevoked : ℕ := 3

/-- The statuses under which the network may still write a signature. -/
def CanReceive (status : ℕ) : Prop :=
  status = signatureVoucherPending ∨ status = signatureVoucherRevoked

def readAnswer : Event solanaInterface → Option (Except SdkError (Option ReadAccount))
  | ⟨.getAccount .., answer⟩ => some answer
  | _ => none

/-- What the last read of an account in the events answered. -/
def lastRead (tr : List (Event solanaInterface)) :
    Option (Except SdkError (Option ReadAccount)) := (tr.filterMap readAnswer).getLast?

section States

variable (P : Primitives) (toBase58 : Bytes → String) (programId : Bytes)
  (cryptography : AnswerCryptography) (params : SignatureWait)

def endedWithout (status : ℕ) : SdkError :=
  let voucherName := toBase58 params.signatureVoucher
  .error s!"the signature voucher {voucherName} ended with status {status} and no signature"

def timedOutWaiting : SdkError :=
  let voucherName := toBase58 params.signatureVoucher
  .error s!"timed out waiting for a signature in the voucher {voucherName}"

/-- The account is a voucher of what is waited for, and a signature in it verifies. -/
structure VoucherState (scheme : DWalletSignatureScheme) (account : ReadAccount)
    (voucher : SignatureVoucherAccount) : Prop where
  asked : params.scheme = .ok scheme
  dwallet : ∃ dwallet, dwalletPda P programId params.dWallet.curve params.dWallet.publicKey
    params.dWallet.importedSessionIdentifier = .ok dwallet ∧
      VoucherFor P (params.expected dwallet.address scheme) voucher
  read : readSignatureVoucherUnverified account.data = .ok (some voucher)
  verifies : voucher.signature = [] ∨
    params.verify P cryptography scheme voucher.signature = .ok ()

/-- A read that a wait goes on after: of no account, or of a voucher of what is waited for that is
pending. -/
def LeavesWaiting (scheme : DWalletSignatureScheme) (read : Option ReadAccount) : Prop :=
  ∀ account ∈ read, ∃ voucher, VoucherState P programId cryptography params scheme account voucher ∧
    voucher.status = signatureVoucherPending

def voucherRead (read : Option ReadAccount) : Event solanaInterface :=
  ⟨.getAccount .first params.signatureVoucher, .ok read⟩

/-- The wait resolves with the signature at the first read of the account, whatever reads it went
on after before its deadline. -/
def WaitResolves (scheme : DWalletSignatureScheme) (account : ReadAccount) (signature : Bytes) :
    Prop :=
  ∀ (options : WaitOptions) (now : ℤ) (rounds : List (Option ReadAccount × ℤ)) (fuel : ℕ),
    (∀ round ∈ rounds, LeavesWaiting P programId cryptography params scheme round.1 ∧
      round.2 < now + options.timeout) → rounds.length ≤ fuel →
    Gives (waitForSignature P toBase58 programId cryptography params options (fuel + 1))
      (⟨.now, now⟩ :: (rounds.flatMap (fun round => [voucherRead params round.1, ⟨.now, round.2⟩,
        ⟨.sleep options.interval, ()⟩]) ++ [voucherRead params (some account)])) signature

/-- The error is the wait's own, of a timeout that was over when the clock was last read. -/
structure TimedOut (options : WaitOptions) (tr : List (Event solanaInterface)) (e : SdkError) :
    Prop where
  passed : ∃ started between ended, tr = ⟨.now, started⟩ :: between ++ [⟨.now, ended⟩] ∧
    started + options.timeout ≤ ended
  error : e = timedOutWaiting toBase58 params

/-- The reader of a request's records counts the account as signed, with the signature. -/
def RecordSigned (account : ReadAccount) (signature : Bytes) : Prop :=
  ∀ crossCheck fuel caller state, caller .windowEnded = false →
    state params.signatureVoucher = some account →
      eval (stateAnswers caller state) (voucherSignature crossCheck (fuel + 1)
        params.signatureVoucher) = some (.ok (some signature))

/-- A signature in the voucher is found, and a wait that has read the voucher last throws only for
one that can no longer receive a signature, its timeout apart. -/
structure SignatureFound (scheme : DWalletSignatureScheme) (account : ReadAccount)
    (voucher : SignatureVoucherAccount) : Prop where
  resolves : voucher.signature ≠ [] →
    WaitResolves P toBase58 programId cryptography params scheme account voucher.signature ∧
      RecordSigned params account voucher.signature
  throws : ∀ options fuel tr e,
    Throws (waitForSignature P toBase58 programId cryptography params options fuel) tr e →
    lastRead tr = some (.ok (some account)) →
    TimedOut toBase58 params options tr e ∨ ¬CanReceive voucher.status

end States

variable {P : Primitives} {toBase58 : Bytes → String} {programId : Bytes}
  {cryptography : AnswerCryptography} {params : SignatureWait} {scheme : DWalletSignatureScheme}
  {account : ReadAccount} {voucher : SignatureVoucherAccount}

theorem throws_getAccount_iff {endpoint : CrossCheckEndpoint} {address : Bytes}
    {tr : List (Event solanaInterface)} {e : SdkError} :
    Throws (getAccount endpoint address) tr e ↔
      tr = [⟨.getAccount endpoint address, .error e⟩] := by
  simp [Throws, getAccount, Prog.perform, Prog.returns_call_iff]

theorem lastRead_read {front : List (Event solanaInterface)} {endpoint : CrossCheckEndpoint}
    {address : Bytes} {answer : Except SdkError (Option ReadAccount)} :
    lastRead (front ++ [⟨.getAccount endpoint address, answer⟩]) = some answer := by
  unfold lastRead
  rw [List.filterMap_append]
  exact List.getLast?_concat

theorem timedOutWaiting_eq : timedOutWaiting toBase58 params =
    let voucherName := toBase58 params.signatureVoucher
    let what := s!"a signature in the voucher {voucherName}"
    .error s!"timed out waiting for {what}" := by
  have htext : "timed out waiting for a signature in the voucher " =
      "timed out waiting for " ++ "a signature in the voucher " := by decide +kernel
  unfold timedOutWaiting
  simp only [htext]
  rfl

/-- What a read of the account comes to, by the voucher's status alone. -/
theorem VoucherState.signatureIn_eq
    (h : VoucherState P programId cryptography params scheme account voucher) :
    signatureIn P toBase58 programId cryptography params scheme account.data =
      if voucher.status = signatureVoucherPending then .ok none
      else if voucher.status = signatureVoucherSigned then .ok (some voucher.signature)
      else .error (endedWithout toBase58 params voucher.status) := by
  obtain ⟨dwallet, hdwallet, hfor⟩ := h.dwallet
  have hfound : readSignatureVoucherVerified P account.data
      (params.expected dwallet.address scheme)
      (fun signature => fromPackage (params.verify P cryptography scheme signature)) =
        .ok (some voucher) := by
    refine readSignatureVoucherVerified_iff.mpr ⟨h.read, hfor, ?_⟩
    exact h.verifies.imp_right fun hverified => (by simp only [hverified, fromPackage])
  unfold signatureIn
  rw [hdwallet, fromPackage, ok_bind, hfound, ok_bind]
  simp only
  split_ifs with hpending hsigned
  · rfl
  · rw [ensure_of hsigned]
    rfl
  · simp only [ensure, if_neg hsigned]
    rfl

theorem LeavesWaiting.gives {read : Option ReadAccount}
    (hread : LeavesWaiting P programId cryptography params scheme read) :
    Gives (readSignature P toBase58 programId cryptography params scheme)
      [voucherRead params read] none := by
  refine gives_bind_iff.mpr ⟨_, [], read, rfl, gives_getAccount_iff.mpr rfl, ?_⟩
  cases read with
  | none => exact gives_pure_iff.mpr ⟨rfl, rfl⟩
  | some account =>
    obtain ⟨voucher, hstate, hpending⟩ := hread account rfl
    exact gives_lift_iff.mpr ⟨rfl, by rw [hstate.signatureIn_eq, if_pos hpending]⟩

namespace VoucherState

variable (h : VoucherState P programId cryptography params scheme account voucher)

include h

/-- A signature is returned only from a voucher marked signed. -/
theorem resolves_iff {signature : Bytes} (hsignature : voucher.signature = signature) :
    WaitResolves P toBase58 programId cryptography params scheme account signature ↔
      voucher.status = signatureVoucherSigned := by
  constructor
  · intro hresolves
    obtain ⟨scheme', account', hscheme, hread, hstores, -⟩ :=
      waitForSignature_gives (hresolves {} 0 [] 0 (by simp) (le_refl _))
    obtain ⟨dwallet, voucher', -, hvoucher, -, hsigned, -⟩ := hstores
    have haccount : account' = account := by simpa [voucherRead] using hread
    subst haccount
    obtain rfl := Option.some.inj (Except.ok.inj (hvoucher.symm.trans h.read))
    exact hsigned
  · intro hsigned options now rounds fuel hrounds hfuel
    obtain ⟨dwallet, hdwallet, hfor⟩ := h.dwallet
    have hread : Gives (readSignature P toBase58 programId cryptography params scheme)
        [voucherRead params (some account)] (some signature) := by
      refine readSignature_gives_iff.mpr ⟨account, rfl, ?_, ?_⟩
      · exact ⟨dwallet, voucher, hdwallet, h.read, hfor, hsigned, hsignature⟩
      · exact hsignature ▸ h.verifies
    have hevents : rounds.flatMap (fun round => [voucherRead params round.1, ⟨.now, round.2⟩,
        ⟨.sleep options.interval, ()⟩]) =
          (rounds.map fun round => ([voucherRead params round.1], round.2)).flatMap fun round =>
            round.1 ++ [⟨.now, round.2⟩, ⟨.sleep options.interval, ()⟩] := by
      rw [List.flatMap_map]
      rfl
    refine gives_lift_bind_iff.mpr ⟨scheme, by rw [h.asked]; rfl, ?_⟩
    rw [hevents]
    refine poll_after now _ ?_ (by rwa [List.length_map]) hread
    rintro _ hround
    obtain ⟨round, hmem, rfl⟩ := List.mem_map.mp hround
    exact ⟨(hrounds round hmem).1.gives, (hrounds round hmem).2⟩

/-- A wait that has read the account last throws its timeout, or what the account comes to. -/
theorem throws_cases {options : WaitOptions} {fuel : ℕ} {tr : List (Event solanaInterface)}
    {e : SdkError}
    (hthrows : Throws (waitForSignature P toBase58 programId cryptography params options fuel) tr e)
    (hlast : lastRead tr = some (.ok (some account))) :
    TimedOut toBase58 params options tr e ∨
      signatureIn P toBase58 programId cryptography params scheme account.data = .error e := by
  rcases throws_bind_iff.mp hthrows with hscheme | ⟨tr₁, tr₂, asked, rfl, hscheme, hpoll⟩
  · obtain ⟨-, hscheme⟩ := throws_lift_iff.mp hscheme
    rw [h.asked] at hscheme
    cases hscheme
  obtain ⟨rfl, hasked⟩ := gives_lift_iff.mp hscheme
  obtain rfl := Except.ok.inj (h.asked.symm.trans (fromPackage_ok hasked))
  rcases throws_bind_iff.mp hpoll with hclock | ⟨tr₃, tr₄, now, rfl, hclock, hreads⟩
  · exact (throws_liftOp_iff.mp hclock).elim
  obtain rfl := gives_liftOp_iff.mp hclock
  rcases throws_pollUntil hreads with ⟨front, last, rfl, hread⟩ |
    ⟨front, last, ended, rfl, -, hlate, rfl⟩
  · rw [List.nil_append, ← List.append_assoc] at hlast
    rcases throws_bind_iff.mp hread with hfailed | ⟨tr₅, tr₆, read, rfl, hread, hthrown⟩
    · obtain rfl := throws_getAccount_iff.mp hfailed
      rw [lastRead_read] at hlast
      cases hlast
    obtain rfl := gives_getAccount_iff.mp hread
    cases read with
    | none => exact (throws_pure_iff.mp hthrown).elim
    | some read =>
      obtain ⟨rfl, hsettled⟩ := throws_lift_iff.mp hthrown
      rw [List.append_nil, lastRead_read] at hlast
      cases hlast
      exact .inr hsettled
  · exact .inl ⟨⟨now, front ++ last, ended, by simp, hlate⟩, timedOutWaiting_eq.symm⟩

/-- The reader of the records looks at the signature, whatever the status. -/
theorem recordSigned (hsome : voucher.signature ≠ []) :
    RecordSigned params account voucher.signature := by
  intro crossCheck fuel caller state hwindow hstate
  have hread : (decodeVoucher readSignatureVoucherUnverified
      (state params.signatureVoucher)).map (·.bind (storedSignature ·.signature)) =
        .ok (some voucher.signature) := by
    rw [hstate, decodeVoucher, h.read]
    simp [Except.map, storedSignature, hsome]
  rw [eval_voucherSignature, hread]
  cases crossCheck with
  | notCrossChecked => rfl
  | getAccount =>
    rw [crossChecked, hwindow]
    rfl

/-- For a revoked voucher the wait throws at its first read, though a signature may come. -/
theorem revoked_throws (hrevoked : voucher.status = signatureVoucherRevoked) :
    ¬SignatureFound P toBase58 programId cryptography params scheme account voucher := by
  intro hfound
  have hthrown : signatureIn P toBase58 programId cryptography params scheme account.data =
      .error (endedWithout toBase58 params voucher.status) := by
    rw [h.signatureIn_eq, hrevoked]
    rfl
  have hread : Throws (readSignature P toBase58 programId cryptography params scheme)
      [voucherRead params (some account)] (endedWithout toBase58 params voucher.status) :=
    throws_bind_iff.mpr (.inr ⟨_, [], some account, rfl, gives_getAccount_iff.mpr rfl,
      throws_lift_iff.mpr ⟨rfl, hthrown⟩⟩)
  have hwait : Throws (waitForSignature P toBase58 programId cryptography params {} 1)
      [⟨.now, (0 : ℤ)⟩, voucherRead params (some account)]
      (endedWithout toBase58 params voucher.status) := by
    refine throws_bind_iff.mpr (.inr ⟨[], _, scheme, rfl, ?_, ?_⟩)
    · exact gives_lift_iff.mpr ⟨rfl, by rw [h.asked]; rfl⟩
    refine throws_bind_iff.mpr (.inr ⟨[_], _, (0 : ℤ), rfl, gives_liftOp_iff.mpr rfl, ?_⟩)
    exact throws_bind_iff.mpr (.inl hread)
  rcases hfound.throws _ _ _ _ hwait rfl with htimed | hcannot
  · obtain ⟨started, between, ended, hevents, -⟩ := htimed.passed
    have hclock : some (voucherRead params (some account)) = some ⟨.now, ended⟩ :=
      (congrArg List.getLast? hevents).trans List.getLast?_concat
    cases hclock
  · exact hcannot (.inr hrevoked)

end VoucherState

/-- A signature on the chain is found, and a wait throws only for a voucher that can no longer
receive one, its timeout apart, exactly when the voucher is marked signed, or holds no signature
and is not revoked. -/
theorem signature_found_iff
    (h : VoucherState P programId cryptography params scheme account voucher) :
    SignatureFound P toBase58 programId cryptography params scheme account voucher ↔
      voucher.status = signatureVoucherSigned ∨
        (voucher.signature = [] ∧ voucher.status ≠ signatureVoucherRevoked) := by
  constructor
  · intro hfound
    by_cases hsome : voucher.signature = []
    · refine .inr ⟨hsome, fun hrevoked => ?_⟩
      exact h.revoked_throws hrevoked hfound
    · exact .inl ((h.resolves_iff rfl).mp (hfound.resolves hsome).1)
  · intro hstatus
    refine ⟨fun hsome => ?_, fun options fuel tr e hthrows hlast => ?_⟩
    · have hsigned : voucher.status = signatureVoucherSigned :=
        hstatus.resolve_right fun hempty => hsome hempty.1
      exact ⟨(h.resolves_iff rfl).mpr hsigned, h.recordSigned hsome⟩
    · refine (h.throws_cases hthrows hlast).imp_right fun hthrown => ?_
      rw [h.signatureIn_eq] at hthrown
      split_ifs at hthrown with hpending hsigned
      rintro (hcan | hcan)
      · exact hpending hcan
      · rcases hstatus with hstatus | hstatus
        · exact hsigned hstatus
        · exact hstatus.2 hcan

/-! ### A voucher revoked before its signature was written -/

/-- The account of a voucher for the message, with a status and a signature of 64 bytes. -/
def sampleSignedAccount (status : UInt8) : ReadAccount where
  owner := sampleWaitProgram
  data := (sampleVoucherAccount status).data.take 174 ++ [64, 0] ++ List.replicate 64 12 ++
    List.replicate 66 0

def sampleSignedVoucher (status : ℕ) : SignatureVoucherAccount where
  dwallet := (dwalletPda samplePrimitives sampleWaitProgram 2 (List.replicate 32 1)
    none).toOption.elim [] (·.address)
  messageDigest := (approvalMessageDigests samplePrimitives [9] []).1
  messageMetadataDigest := List.replicate 32 0
  owner := List.replicate 32 11
  signatureScheme := 5
  signingKey := none
  issuedEpoch := 0
  status := status
  signature := List.replicate 64 12

theorem sampleSigned_state (status : UInt8) (h : status = 1 ∨ status = 3) :
    VoucherState samplePrimitives sampleWaitProgram lenientCryptography sampleWait .eddsaSha512
      (sampleSignedAccount status) (sampleSignedVoucher status.toNat) where
  asked := scheme_sampleWait
  dwallet := by
    refine ⟨_, rfl, ?_⟩
    rcases h with rfl | rfl <;> exact ⟨rfl, rfl, rfl, rfl⟩
  read := by rcases h with rfl | rfl <;> decide +kernel
  verifies := .inr (by rcases h with rfl | rfl <;> decide +kernel)

/-- The signature of a voucher marked signed is found. -/
theorem signature_found_sample :
    SignatureFound samplePrimitives toHex sampleWaitProgram lenientCryptography sampleWait
      .eddsaSha512 (sampleSignedAccount 1) (sampleSignedVoucher 1) :=
  (signature_found_iff (sampleSigned_state 1 (.inl rfl))).mpr (.inl rfl)

/-- The voucher was revoked, and the signature of a sign agreed before is not written yet. -/
theorem sampleRevoked_state :
    VoucherState samplePrimitives sampleWaitProgram lenientCryptography sampleWait .eddsaSha512
      (sampleVoucherAccount 3) { sampleSignedVoucher 3 with signature := [] } where
  asked := scheme_sampleWait
  dwallet := ⟨_, rfl, rfl, rfl, rfl, rfl⟩
  read := by decide +kernel
  verifies := .inl rfl

/-- The signature of a sign agreed before a revoke is not found: neither while it is still to be
written into the revoked voucher nor in one that holds it. -/
theorem revoked_signature_not_found :
    (VoucherState samplePrimitives sampleWaitProgram lenientCryptography sampleWait .eddsaSha512
        (sampleVoucherAccount 3) { sampleSignedVoucher 3 with signature := [] } ∧
      ¬SignatureFound samplePrimitives toHex sampleWaitProgram lenientCryptography sampleWait
        .eddsaSha512 (sampleVoucherAccount 3) { sampleSignedVoucher 3 with signature := [] }) ∧
    VoucherState samplePrimitives sampleWaitProgram lenientCryptography sampleWait .eddsaSha512
      (sampleSignedAccount 3) (sampleSignedVoucher 3) ∧
    ¬SignatureFound samplePrimitives toHex sampleWaitProgram lenientCryptography sampleWait
      .eddsaSha512 (sampleSignedAccount 3) (sampleSignedVoucher 3) := by
  have hsigned := sampleSigned_state 3 (.inr rfl)
  exact ⟨⟨sampleRevoked_state, sampleRevoked_state.revoked_throws rfl⟩, hsigned,
    hsigned.revoked_throws rfl⟩

end Ika.Solana
