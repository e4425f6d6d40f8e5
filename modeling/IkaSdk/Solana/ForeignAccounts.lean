import IkaSdk.Core.Common.TwoReaders
import IkaSdk.Solana.RequestRecords
import IkaSdk.Solana.UsabilitySoundness

/-! Accounts that anyone can make: what the reads decide over two chain states
that differ only in accounts that the program does not own. -/

namespace Ika.Solana

open Wire Interaction Eff

/-! ## Chain states -/

abbrev ChainState := Bytes → Option ReadAccount

/-- An account that is not the program's and holds no data, if there is one. -/
def Foreign (programId : Bytes) (account : Option ReadAccount) : Prop :=
  ∀ a ∈ account, a.owner ≠ programId ∧ a.data = []

/-- The states hold the same accounts, but for such foreign ones where the
program has none. -/
def DifferForeign (programId : Bytes) (first second : ChainState) : Prop :=
  ∀ address, first address = second address ∨
    Foreign programId (first address) ∧ Foreign programId (second address)

/-- Both endpoints serve the state; the caller's own values are the caller's. -/
def stateAnswers (caller : ∀ op : SolanaOp, op.Ans) (state : ChainState) :
    ∀ op : SolanaOp, op.Ans
  | .getAccount _ address => .ok (state address)
  | .signedData => caller .signedData
  | .ownership => caller .ownership
  | .getSigningPublicKeyBytes => caller .getSigningPublicKeyBytes
  | .now => caller .now
  | .windowEnded => caller .windowEnded
  | .sleep ms => caller (.sleep ms)

/-- The rejection of an account that the program does not own. -/
inductive NotOwned : SdkError → Prop
  | read (kind : String) :
    NotOwned (.error s!"the {kind} account is not owned by the ika-dwallet program")
  | crossChecked (what endpoint : String) {e : SdkError} : NotOwned e →
    NotOwned (.error s!"read the {what} from {endpoint}: {e.message}")

theorem NotOwned.message {e : SdkError} (h : NotOwned e) : ∃ message, e = .error message := by
  cases h with
  | read kind => exact ⟨_, rfl⟩
  | crossChecked what endpoint _ => exact ⟨_, rfl⟩

variable {P : Primitives} {programId : Bytes} {caller : ∀ op : SolanaOp, op.Ans}
  {first second state : ChainState} {crossCheck : SolanaReadCrossCheck} {fuel : ℕ}
  {keys : TrustedNetworkKeys}

/-! ## One account -/

/-- What a read of an account comes to. -/
def accountRead {T : Type} (programId : Bytes) (kind : String)
    (decode : Bytes → Except SdkError (Option T)) : Option ReadAccount →
      Except SdkError (Option T)
  | none => .ok none
  | some account => do
    ensure (account.owner = programId)
      (SdkError.error s!"the {kind} account is not owned by the ika-dwallet program")
    match ← decode account.data with
    | none => throw (.error s!"the {kind} account does not read as one")
    | some decoded => return some decoded

theorem eval_readThrough {T : Type} (endpoint : CrossCheckEndpoint) (address : Bytes)
    (kind : String) (decode : Bytes → Except SdkError (Option T)) :
    eval (stateAnswers caller state) (readThrough programId endpoint address kind decode) =
      some (accountRead programId kind decode (state address)) := by
  have hget : eval (stateAnswers caller state) (getAccount endpoint address) =
      some (.ok (state address)) := rfl
  rw [readThrough, eval_bind, hget]
  cases haccount : state address with
  | none => rfl
  | some account =>
    simp only [Option.bind_some, accountRead, eval_bind, eval_lift]
    cases ensure (account.owner = programId) (SdkError.error
        s!"the {kind} account is not owned by the ika-dwallet program") with
    | error e => rfl
    | ok _ =>
      simp only [ok_bind]
      rcases decode account.data with e | _ | decoded
      · rfl
      · rfl
      · rfl

/-- What a read of the account at a derived address comes to. -/
def derivedRead {T : Type} (programId : Bytes) (state : ChainState)
    (derived : Except String DerivedAddress) (kind : String)
    (decode : Bytes → Except SdkError (Option T)) : Except SdkError (Option T) := do
  accountRead programId kind decode (state (← fromPackage derived).address)

theorem eval_readDerived {T : Type} (endpoint : CrossCheckEndpoint)
    (derived : Except String DerivedAddress) (kind : String)
    (decode : Bytes → Except SdkError (Option T)) :
    eval (stateAnswers caller state) (readDerived programId endpoint derived kind decode) =
      some (derivedRead programId state derived kind decode) := by
  rw [readDerived, derivedRead, eval_bind, eval_lift]
  cases fromPackage derived with
  | error e => rfl
  | ok derived => exact eval_readThrough endpoint derived.address kind decode

theorem accountRead_foreign {T : Type} {kind : String}
    {decode : Bytes → Except SdkError (Option T)} {account : Option ReadAccount}
    (h : Foreign programId account) :
    accountRead programId kind decode account = .ok none ∨ accountRead programId kind decode
      account = .error (.error s!"the {kind} account is not owned by the ika-dwallet program") := by
  cases account with
  | none => exact .inl rfl
  | some account =>
    have howner : account.owner ≠ programId := (h account rfl).1
    refine .inr ?_
    rw [accountRead, ensure, if_neg howner]
    rfl

theorem sameUnless_accountRead {T : Type} {kind : String}
    {decode : Bytes → Except SdkError (Option T)} (h : DifferForeign programId first second)
    (address : Bytes) : SameUnless NotOwned
      (some (accountRead programId kind decode (first address)))
      (some (accountRead programId kind decode (second address))) := by
  rcases h address with heq | ⟨hfirst, hsecond⟩
  · rw [heq]
    exact .refl _
  · rcases accountRead_foreign hfirst with hone | hone <;>
      rcases accountRead_foreign hsecond with htwo | htwo <;> rw [hone, htwo]
    · exact .refl _
    · exact .inr ⟨_, .read kind, .inr rfl⟩
    · exact .inr ⟨_, .read kind, .inl rfl⟩
    · exact .refl _

theorem sameUnless_derivedRead {T : Type} (h : DifferForeign programId first second)
    (derived : Except String DerivedAddress) (kind : String)
    (decode : Bytes → Except SdkError (Option T)) : SameUnless NotOwned
      (some (derivedRead programId first derived kind decode))
      (some (derivedRead programId second derived kind decode)) := by
  rw [derivedRead, derivedRead]
  cases fromPackage derived with
  | error e => exact .refl _
  | ok derived => exact sameUnless_accountRead h derived.address

theorem sameUnless_readDerived {T : Type} (h : DifferForeign programId first second)
    (endpoint : CrossCheckEndpoint) (derived : Except String DerivedAddress) (kind : String)
    (decode : Bytes → Except SdkError (Option T)) : SameUnless NotOwned
      (eval (stateAnswers caller first) (readDerived programId endpoint derived kind decode))
      (eval (stateAnswers caller second) (readDerived programId endpoint derived kind decode)) := by
  rw [eval_readDerived, eval_readDerived]
  exact sameUnless_derivedRead h derived kind decode

/-! ## Cross-checked reads -/

/-- What a read that both endpoints answer with `read` comes to. -/
def crossChecked {T : Type} (crossCheck : SolanaReadCrossCheck) (ended : Bool) (what : String)
    (read : Except SdkError (Option T)) : Except SdkError (Option T) :=
  match crossCheck with
  | .notCrossChecked => read
  | .getAccount =>
    (if ended then .error (.error s!"no answer within the {crossCheckWindowMs} ms window")
      else read).mapError fun e =>
        .error s!"read the {what} from {endpointNames .first}: {e.message}"

theorem eval_crossCheckedAccountRead {T : Type} {what : String}
    {read : CrossCheckEndpoint → SolanaEff (Option T)} {equal : T → T → Bool}
    (hequal : ∀ value, equal value value = true) {outcome : Except SdkError (Option T)}
    (hread : ∀ endpoint, eval (stateAnswers caller state) (read endpoint) = some outcome) :
    eval (stateAnswers caller state)
      (crossCheckedAccountRead crossCheck (fuel + 1) what read equal) =
      some (crossChecked crossCheck (caller .windowEnded) what outcome) := by
  cases crossCheck with
  | notCrossChecked => exact hread .first
  | getAccount =>
    have hraced : ∀ endpoint, eval (stateAnswers caller state)
        (readAtPosition (fun _ => 0) (read endpoint)) = some (.ok (if caller .windowEnded then none
          else some (outcome.map fun value => .answerAt ⟨0, value⟩))) := by
      intro endpoint
      refine CrossCheckedRead.eval_raceRead rfl ?_
      rw [eval_bind, hread endpoint]
      rcases outcome with e | _ | value <;> rfl
    let raced : RacedRead T := if caller .windowEnded then none
      else some (outcome.map fun value => .answerAt ⟨0, value⟩)
    have hboth : ∀ deadline, eval (stateAnswers caller state)
        ((accountCrossCheck what read equal fun _ => 0).readBoth deadline) =
        some (.ok ⟨raced, raced, false⟩) := by
      intro deadline
      unfold accountCrossCheck
      rw [eval_bind, hraced .first]
      simp only [Option.bind_some]
      rw [eval_bind, hraced .second]
      rfl
    have hrun := @CrossCheckedRead.eval_run _ _ _ _ _ fuel _ 0 outcome hequal rfl raced rfl hboth
    refine hrun.trans (congrArg some ?_)
    simp only [raced]
    cases caller .windowEnded with
    | true => rfl
    | false => cases outcome <;> rfl

theorem sameUnless_crossChecked {T : Type} {ended : Bool} {what : String}
    {read read' : Except SdkError (Option T)}
    (h : SameUnless NotOwned (some read) (some read')) :
    SameUnless NotOwned (some (crossChecked crossCheck ended what read))
      (some (crossChecked crossCheck ended what read')) := by
  cases crossCheck with
  | notCrossChecked => exact h
  | getAccount =>
    cases ended with
    | true => exact .refl _
    | false =>
      rcases h with heq | ⟨e, he, herr | herr⟩
      · cases heq
        exact .refl _
      · cases herr
        exact .inr ⟨_, .crossChecked what _ he, .inl rfl⟩
      · cases herr
        exact .inr ⟨_, .crossChecked what _ he, .inr rfl⟩

/-! ## The share reader -/

theorem eval_readPublicShareAttestation {lookup : DWalletLookup} :
    eval (stateAnswers caller state)
      (readPublicShareAttestation P programId crossCheck (fuel + 1) lookup) =
      some (crossChecked crossCheck (caller .windowEnded) "public share attestation"
        (derivedRead programId state (publicUserShareAttestationPda P programId lookup.curve
          lookup.publicKey lookup.importedSessionIdentifier) "public share attestation"
          (readPublicShareAttestationUnverified P))) :=
  eval_crossCheckedAccountRead (fun value => by simp [sameAttestationRecord]) fun endpoint =>
    eval_readDerived endpoint _ _ _

section ShareReads

variable (h : DifferForeign programId first second) {lookup : DWalletLookup}
  {record : SolanaDWalletHandle}

include h

theorem sameUnless_checkedReadDWallet : SameUnless NotOwned
    (eval (stateAnswers caller first) (checkedReadDWallet P programId keys lookup))
    (eval (stateAnswers caller second) (checkedReadDWallet P programId keys lookup)) := by
  refine sameUnless_lift_bind fun derived => ?_
  refine sameUnless_bind (sameUnless_readDerived h _ _ _ _) fun attestation => ?_
  cases attestation with
  | none => exact .refl _
  | some attestation =>
    refine sameUnless_lift_bind fun dwallet => ?_
    refine sameUnless_bind (sameUnless_readDerived h _ _ _ _) fun account => ?_
    cases account with
    | none => exact .refl _
    | some account => exact sameUnless_lift_bind fun _ => sameUnless_lift_bind fun _ => .refl _

theorem sameUnless_readEncryptedShareAccounts {holder : Bytes} : SameUnless NotOwned
    (eval (stateAnswers caller first) (readEncryptedShareAccounts P programId lookup holder))
    (eval (stateAnswers caller second)
      (readEncryptedShareAccounts P programId lookup holder)) := by
  refine sameUnless_bind (sameUnless_readDerived h _ _ _ _) fun account => ?_
  refine sameUnless_bind (sameUnless_readDerived h _ _ _ _) fun attestation => ?_
  cases account with
  | none => exact .refl _
  | some account =>
    cases attestation with
    | none => exact .refl _
    | some attestation =>
      refine sameUnless_bind (sameUnless_readDerived h _ _ _ _) fun entry => ?_
      cases entry.filter fun e => e.signerPublicKey = holder ∧ e.curve = lookup.curve with
      | none => exact .refl _
      | some entry => exact .refl _

theorem sameUnless_checkedReadEncryptedShare {holder : Bytes} {given : Option Bytes} :
    SameUnless NotOwned
      (eval (stateAnswers caller first)
        (checkedReadEncryptedShare P programId keys record holder given))
      (eval (stateAnswers caller second)
        (checkedReadEncryptedShare P programId keys record holder given)) := by
  refine sameUnless_bind (sameUnless_readEncryptedShareAccounts h) fun share => ?_
  cases share with
  | none => exact .refl _
  | some share => exact sameUnless_lift_bind fun _ => .refl _

theorem sameUnless_checkedReadPublicShare : SameUnless NotOwned
    (eval (stateAnswers caller first)
      (checkedReadPublicShare P programId crossCheck (fuel + 1) record))
    (eval (stateAnswers caller second)
      (checkedReadPublicShare P programId crossCheck (fuel + 1) record)) := by
  refine sameUnless_bind ?_ fun share => .refl _
  rw [eval_readPublicShareAttestation, eval_readPublicShareAttestation]
  exact sameUnless_crossChecked (sameUnless_derivedRead h _ _ _)

end ShareReads

/-! ## The request-record reader -/

/-- The states hold an account at the same addresses of charge records. -/
def SameCharges (P : Primitives) (programId : Bytes) (first second : ChainState) : Prop :=
  ∀ chargeId derived, gasChargePda P programId chargeId = .ok derived →
    (first derived.address).isSome = (second derived.address).isSome

theorem eval_readPresence (endpoint : CrossCheckEndpoint) (address : Bytes) :
    eval (stateAnswers caller state) (readPresence endpoint address) =
      some (.ok (if (state address).isSome then some true else none)) := by
  have hget : eval (stateAnswers caller state) (getAccount endpoint address) =
      some (.ok (state address)) := rfl
  rw [readPresence, eval_bind, hget]
  cases haccount : state address <;> rfl

/-- What the read of a charge record comes to. -/
theorem eval_hasGasCharge {chargeId : Bytes} :
    eval (stateAnswers caller state) (hasGasCharge P programId crossCheck (fuel + 1) chargeId) =
      some (fromPackage (gasChargePda P programId chargeId) >>= fun derived =>
        (crossChecked crossCheck (caller .windowEnded) "a gas charge record"
          (.ok (if (state derived.address).isSome then some true else none))).map
          (· == some true)) := by
  rw [hasGasCharge, eval_bind, eval_lift]
  cases fromPackage (gasChargePda P programId chargeId) with
  | error e => rfl
  | ok derived =>
    have hread := @eval_crossCheckedAccountRead caller state crossCheck fuel _
      "a gas charge record" (readPresence · derived.address) (· == ·) (fun value => by simp) _
      fun endpoint => eval_readPresence endpoint derived.address
    simp only [Option.bind_some, ok_bind]
    rw [eval_bind, hread]
    cases crossChecked crossCheck (caller .windowEnded) "a gas charge record"
      (.ok (if (state derived.address).isSome then some true else none)) <;> rfl

theorem eval_hasGasCharge_same (h : SameCharges P programId first second) {chargeId : Bytes} :
    eval (stateAnswers caller first) (hasGasCharge P programId crossCheck (fuel + 1) chargeId) =
      eval (stateAnswers caller second)
        (hasGasCharge P programId crossCheck (fuel + 1) chargeId) := by
  rw [eval_hasGasCharge, eval_hasGasCharge]
  cases hderived : gasChargePda P programId chargeId with
  | error e => rfl
  | ok derived =>
    have hsame := h chargeId derived hderived
    show some _ = some _
    rw [fromPackage, ok_bind, ok_bind, hsame]

/-- A foreign account reads as no voucher. -/
theorem decodeVoucher_foreign {T : Type} {decode : Bytes → Except SdkError (Option T)}
    (hempty : decode [] = .ok none) {account : Option ReadAccount}
    (h : Foreign programId account) : decodeVoucher decode account = .ok none := by
  cases account with
  | none => rfl
  | some account =>
    rw [decodeVoucher, (h account rfl).2]
    exact hempty

theorem decodeVoucher_same {T : Type} {decode : Bytes → Except SdkError (Option T)}
    (hempty : decode [] = .ok none) (h : DifferForeign programId first second)
    (voucher : Bytes) :
    decodeVoucher decode (first voucher) = decodeVoucher decode (second voucher) := by
  rcases h voucher with heq | ⟨hfirst, hsecond⟩
  · rw [heq]
  · rw [decodeVoucher_foreign hempty hfirst, decodeVoucher_foreign hempty hsecond]

theorem readSignatureVoucher_empty : readSignatureVoucherUnverified [] = .ok none := by
  decide +kernel

theorem readFutureSignatureVoucher_empty : readFutureSignatureVoucherUnverified [] = .ok none := by
  decide +kernel

/-- What a read of a voucher's account comes to. -/
theorem eval_readVoucher {T U : Type} (decode : Bytes → Except SdkError (Option T))
    (found : T → Option U) (endpoint : CrossCheckEndpoint) (voucher : Bytes) :
    eval (stateAnswers caller state) (readVoucher decode found endpoint voucher) =
      some ((decodeVoucher decode (state voucher)).map (·.bind found)) := by
  have hget : eval (stateAnswers caller state) (getAccount endpoint voucher) =
      some (.ok (state voucher)) := rfl
  rw [readVoucher, eval_bind, hget]
  simp only [Option.bind_some]
  rw [eval_bind, eval_lift]
  rcases decodeVoucher decode (state voucher) with e | _ | read
  · rfl
  · rfl
  · rfl

theorem eval_voucherSignature {voucher : Bytes} :
    eval (stateAnswers caller state) (voucherSignature crossCheck (fuel + 1) voucher) =
      some (crossChecked crossCheck (caller .windowEnded) "a voucher's signature"
        ((decodeVoucher readSignatureVoucherUnverified (state voucher)).map
          (·.bind (storedSignature ·.signature)))) :=
  eval_crossCheckedAccountRead (fun value => by simp) fun endpoint =>
    eval_readVoucher _ _ endpoint voucher

theorem eval_futureVoucher {voucher : Bytes} :
    eval (stateAnswers caller state) (futureVoucher crossCheck (fuel + 1) voucher) =
      some (crossChecked crossCheck (caller .windowEnded) "a future signature voucher"
        ((decodeVoucher readFutureSignatureVoucherUnverified (state voucher)).map
          (·.bind (some <| futureVoucherOf ·)))) :=
  eval_crossCheckedAccountRead (fun value => by simp) fun endpoint =>
    eval_readVoucher _ _ endpoint voucher

theorem eval_voucherSignature_same (h : DifferForeign programId first second)
    {voucher : Bytes} :
    eval (stateAnswers caller first) (voucherSignature crossCheck (fuel + 1) voucher) =
      eval (stateAnswers caller second) (voucherSignature crossCheck (fuel + 1) voucher) := by
  rw [eval_voucherSignature, eval_voucherSignature,
    decodeVoucher_same readSignatureVoucher_empty h]

theorem eval_futureVoucher_same (h : DifferForeign programId first second) {voucher : Bytes} :
    eval (stateAnswers caller first) (futureVoucher crossCheck (fuel + 1) voucher) =
      eval (stateAnswers caller second) (futureVoucher crossCheck (fuel + 1) voucher) := by
  rw [eval_futureVoucher, eval_futureVoucher,
    decodeVoucher_same readFutureSignatureVoucher_empty h]

/-! ## Reads that come to an end -/

theorem total_readDerived {T : Type} {endpoint : CrossCheckEndpoint}
    {derived : Except String DerivedAddress} {kind : String}
    {decode : Bytes → Except SdkError (Option T)} :
    Prog.Total (readDerived programId endpoint derived kind decode).run := by
  refine total_lift_bind fun address => total_bind (fun _ => trivial) fun account => ?_
  cases account with
  | none => trivial
  | some account =>
    refine total_lift_bind fun _ => total_lift_bind fun decoded => ?_
    cases decoded <;> trivial

theorem total_checkedReadDWallet {lookup : DWalletLookup} :
    Prog.Total (checkedReadDWallet P programId keys lookup).run := by
  refine total_lift_bind fun derived => total_bind total_readDerived fun attestation => ?_
  cases attestation with
  | none => trivial
  | some attestation =>
    refine total_lift_bind fun dwallet => total_bind total_readDerived fun account => ?_
    cases account with
    | none => trivial
    | some account => exact total_lift_bind fun _ => total_lift_bind fun _ => trivial

theorem total_checkedReadEncryptedShare {record : SolanaDWalletHandle} {holder : Bytes}
    {given : Option Bytes} :
    Prog.Total (checkedReadEncryptedShare P programId keys record holder given).run := by
  refine total_bind ?_ fun share => ?_
  · refine total_bind total_readDerived fun account => ?_
    refine total_bind total_readDerived fun attestation => ?_
    cases account with
    | none => trivial
    | some account =>
      cases attestation with
      | none => trivial
      | some attestation =>
        refine total_bind total_readDerived fun entry => ?_
        cases entry.filter fun e => e.signerPublicKey = holder ∧ e.curve = record.lookup.curve
        · trivial
        · trivial
  · cases share with
    | none => trivial
    | some share => exact total_lift_bind fun _ => trivial

theorem eval_checkedReadPublicShare (record : SolanaDWalletHandle) : ∃ outcome,
    eval (stateAnswers caller state)
      (checkedReadPublicShare P programId crossCheck (fuel + 1) record) = some outcome := by
  rw [checkedReadPublicShare, eval_bind, eval_readPublicShareAttestation]
  rcases crossChecked crossCheck (caller .windowEnded) _ _ with e | share
  · exact ⟨_, rfl⟩
  · exact ⟨_, rfl⟩

theorem eval_dwalletShareReads (op : OwnershipOp SolanaDWalletHandle) : ∃ answer,
    (dwalletShareReads P programId crossCheck (fuel + 1) keys op).eval
      (stateAnswers caller state) = some answer := by
  cases op with
  | signedData => exact ⟨_, rfl⟩
  | ownership => exact ⟨_, rfl⟩
  | getSigningPublicKeyBytes => exact ⟨_, rfl⟩
  | now => exact ⟨_, rfl⟩
  | readDWallet lookup => exact total_checkedReadDWallet.eval _
  | readEncryptedShare record holder given => exact total_checkedReadEncryptedShare.eval _
  | readPublicShare record => exact eval_checkedReadPublicShare record
  | migratedShare record userKey classicShareId => exact ⟨_, rfl⟩

theorem eval_requestRecordReads (op : RecordOp SolanaDWalletHandle) : ∃ answer,
    (requestRecordReads P programId crossCheck (fuel + 1) keys op).eval
      (stateAnswers caller state) = some answer := by
  cases op with
  | hasGasCharge transportKey chargeId => exact ⟨_, eval_hasGasCharge⟩
  | voucherSignature voucher => exact ⟨_, eval_voucherSignature⟩
  | futureVoucher voucher => exact ⟨_, eval_futureVoucher⟩
  | readDWallet lookup => exact total_checkedReadDWallet.eval _
  | readEncryptedShare record holder => exact total_checkedReadEncryptedShare.eval _
  | readPublicShare record => exact eval_checkedReadPublicShare record

/-! ## The checks over two states -/

/-- The ownership check over the accounts of a state. -/
def checkOn (P : Primitives) (programId : Bytes) (crossCheck : SolanaReadCrossCheck) (fuel : ℕ)
    (keys : TrustedNetworkKeys) (caller : ∀ op : SolanaOp, op.Ans)
    (cryptography : Option UserCryptography) (data : Bytes) (classicShareId : Option String)
    (given : Option Bytes) (state : ChainState) : Option (Except SdkError IssuedState) :=
  ((assertDWalletUsable P (dwalletShareReader keys cryptography) data classicShareId
    given).run.interp (dwalletShareReads P programId crossCheck fuel keys)).eval
      (stateAnswers caller state)

/-- The lookup of a session over the accounts of a state. -/
def lookupOn (P : Primitives) (programId : Bytes) (crossCheck : SolanaReadCrossCheck) (fuel : ℕ)
    (keys : TrustedNetworkKeys) (caller : ∀ op : SolanaOp, op.Ans) (pending : PendingRequest)
    (shares : Bool) (state : ChainState) : Option (Except SdkError RequestOutcome) :=
  ((findSession P pending shares).run.interp
    (requestRecordReads P programId crossCheck fuel keys)).eval (stateAnswers caller state)

theorem sameUnless_checkOn (h : DifferForeign programId first second)
    {cryptography : Option UserCryptography} {data : Bytes} {classicShareId : Option String}
    {given : Option Bytes} : SameUnless NotOwned
      (checkOn P programId crossCheck (fuel + 1) keys caller cryptography data classicShareId
        given first)
      (checkOn P programId crossCheck (fuel + 1) keys caller cryptography data classicShareId
        given second) := by
  choose answer hanswer using fun op => @eval_dwalletShareReads P programId caller first
    crossCheck fuel keys op
  choose answer' hanswer' using fun op => @eval_dwalletShareReads P programId caller second
    crossCheck fuel keys op
  rw [checkOn, checkOn, Prog.eval_interp hanswer, Prog.eval_interp hanswer']
  refine sameUnless_assertDWalletUsable ⟨fun e he => he.message, ?_, ?_, fun lookup => ?_,
    fun record holder given => ?_, fun record => ?_, fun record userKey classicShareId => ?_⟩
  · exact Option.some.inj ((hanswer .getSigningPublicKeyBytes).symm.trans
      (hanswer' .getSigningPublicKeyBytes))
  · exact Option.some.inj ((hanswer .now).symm.trans (hanswer' .now))
  · rw [← hanswer, ← hanswer']
    exact sameUnless_checkedReadDWallet h
  · rw [← hanswer, ← hanswer']
    exact sameUnless_checkedReadEncryptedShare h
  · rw [← hanswer, ← hanswer']
    exact sameUnless_checkedReadPublicShare h
  · rw [← hanswer, ← hanswer']
    exact .refl _

theorem sameUnless_lookupOn (h : DifferForeign programId first second)
    (hcharges : SameCharges P programId first second) {pending : PendingRequest} {shares : Bool} :
    SameUnless NotOwned
      (lookupOn P programId crossCheck (fuel + 1) keys caller pending shares first)
      (lookupOn P programId crossCheck (fuel + 1) keys caller pending shares second) := by
  choose answer hanswer using fun op => @eval_requestRecordReads P programId caller first
    crossCheck fuel keys op
  choose answer' hanswer' using fun op => @eval_requestRecordReads P programId caller second
    crossCheck fuel keys op
  rw [lookupOn, lookupOn, Prog.eval_interp hanswer, Prog.eval_interp hanswer']
  refine sameUnless_findSession fun op => ?_
  rw [← hanswer, ← hanswer']
  cases op with
  | hasGasCharge transportKey chargeId => exact .inl (eval_hasGasCharge_same hcharges)
  | voucherSignature voucher => exact .inl (eval_voucherSignature_same h)
  | futureVoucher voucher => exact .inl (eval_futureVoucher_same h)
  | readDWallet lookup => exact sameUnless_checkedReadDWallet h
  | readEncryptedShare record holder => exact sameUnless_checkedReadEncryptedShare h
  | readPublicShare record => exact sameUnless_checkedReadPublicShare h

/-- Foreign accounts, none at the address of a charge record, change no answer
of a read of the share reader and no outcome of a check or a lookup: they can
only have it rejected, for an account that the program does not own. -/
theorem foreign_accounts_only_reject (h : DifferForeign programId first second)
    (hcharges : SameCharges P programId first second) :
    (∀ lookup, SameUnless NotOwned
      (eval (stateAnswers caller first) (checkedReadDWallet P programId keys lookup))
      (eval (stateAnswers caller second) (checkedReadDWallet P programId keys lookup))) ∧
    (∀ record holder given, SameUnless NotOwned
      (eval (stateAnswers caller first)
        (checkedReadEncryptedShare P programId keys record holder given))
      (eval (stateAnswers caller second)
        (checkedReadEncryptedShare P programId keys record holder given))) ∧
    (∀ record, SameUnless NotOwned
      (eval (stateAnswers caller first)
        (checkedReadPublicShare P programId crossCheck (fuel + 1) record))
      (eval (stateAnswers caller second)
        (checkedReadPublicShare P programId crossCheck (fuel + 1) record))) ∧
    (∀ cryptography data classicShareId given, SameUnless NotOwned
      (checkOn P programId crossCheck (fuel + 1) keys caller cryptography data classicShareId
        given first)
      (checkOn P programId crossCheck (fuel + 1) keys caller cryptography data classicShareId
        given second)) ∧
    ∀ pending shares, SameUnless NotOwned
      (lookupOn P programId crossCheck (fuel + 1) keys caller pending shares first)
      (lookupOn P programId crossCheck (fuel + 1) keys caller pending shares second) :=
  ⟨fun _ => sameUnless_checkedReadDWallet h, fun _ _ _ => sameUnless_checkedReadEncryptedShare h,
    fun _ => sameUnless_checkedReadPublicShare h, fun _ _ _ _ => sameUnless_checkOn h,
    fun _ _ => sameUnless_lookupOn h hcharges⟩

/-! ### A transfer to the address of a public share -/

def addressOr (derived : Except String DerivedAddress) : Bytes :=
  match derived with
  | .ok derived => derived.address
  | .error _ => []

/-- The accounts of a dWallet with an accepted encrypted share. -/
def sampleAccounts : List (Bytes × ReadAccount) :=
  let key := sampleAttestation.publicKey
  let holder := List.replicate 32 4
  [(addressOr (dwalletAttestationPda samplePrimitives sampleProgramId 2 key none),
      ⟨sampleProgramId, sampleDWalletAttestationAccount⟩),
    (sampleDWalletAddress, ⟨sampleProgramId, sampleDWalletAccount⟩),
    (addressOr (encryptedUserSecretKeySharePda samplePrimitives sampleProgramId 2 key holder none),
      ⟨sampleProgramId, sampleShareAccount⟩),
    (addressOr (encryptedShareAttestationPda samplePrimitives sampleProgramId 2 key holder none),
      ⟨sampleProgramId, sampleShareAttestationAccount⟩),
    (addressOr (encryptionKeyPda samplePrimitives sampleProgramId holder 2),
      ⟨sampleProgramId, sampleEncryptionKeyAccount⟩)]

def sampleState : ChainState := fun address => sampleAccounts.lookup address

def samplePublicShareAddress : Bytes := addressOr (publicUserShareAttestationPda samplePrimitives
  sampleProgramId 2 sampleAttestation.publicKey none)

/-- The state after a transfer made a system account at the address of the
dWallet's public share. -/
def sampleStateAfterTransfer : ChainState := fun address =>
  if address = samplePublicShareAddress then some ⟨List.replicate 32 0, []⟩
  else sampleState address

def sampleCheckOn : ChainState → Option (Except SdkError IssuedState) :=
  checkOn samplePrimitives sampleProgramId .notCrossChecked 1 ⟨[List.replicate 32 7]⟩
    (sampleSolanaAnswers 0) none (versionedDWalletDataAttestationBcs.encode sampleAttestation)
    none none

theorem sampleState_differForeign :
    DifferForeign sampleProgramId sampleState sampleStateAfterTransfer := by
  intro address
  by_cases haddress : address = samplePublicShareAddress
  · subst haddress
    have hfirst : sampleState samplePublicShareAddress = none := by decide +kernel
    have hsecond : sampleStateAfterTransfer samplePublicShareAddress =
        some ⟨List.replicate 32 0, []⟩ := if_pos rfl
    refine .inr ⟨?_, ?_⟩
    · rw [hfirst]
      rintro _ ⟨⟩
    · rw [hsecond]
      rintro _ ⟨⟩
      exact ⟨by decide, rfl⟩
  · exact .inl (if_neg haddress).symm

theorem findBump_ok {seeds : List Bytes} {bound : ℕ} {derived : DerivedAddress}
    (h : findBump P seeds programId bound = .ok derived) :
    ∃ bump, derived.address = P.sha256 (pdaPreimage seeds programId bump) := by
  induction bound with
  | zero => cases h
  | succ bump ih =>
    rw [findBump] at h
    split_ifs at h with hcurve
    · exact ih h
    · cases h
      exact ⟨bump, rfl⟩

/-- The bytes hashed for the address of a charge start with the kind's prefix. -/
theorem gasChargePda_address {chargeId : Bytes} {derived : DerivedAddress}
    (h : gasChargePda P programId chargeId = .ok derived) :
    ∃ rest, derived.address = P.sha256 (textBytes "gas_charge" ++ rest) := by
  obtain ⟨seeds, hseeds, hfind⟩ := bind_ok h
  obtain ⟨schema, hschema, hcomponents⟩ := bind_ok hseeds
  obtain rfl : schema = ⟨"dwallet", [tag "prefix" "gas_charge", bytesOf "charge_id" 32]⟩ := by
    have hlook : seedSchema "GasCharge" =
      .ok ⟨"dwallet", [tag "prefix" "gas_charge", bytesOf "charge_id" 32]⟩ := by decide +kernel
    exact Except.ok.inj (hschema.symm.trans hlook)
  obtain ⟨own, hown, hmore⟩ := bind_ok hcomponents
  obtain ⟨more, -, hlast⟩ := bind_ok hmore
  obtain rfl : own = [textBytes "gas_charge"] := (Except.ok.inj hown).symm
  obtain rfl : [textBytes "gas_charge"] ++ more = seeds := Except.ok.inj hlast
  obtain ⟨-, hseedLengths⟩ := ite_error_ok hfind
  split at hseedLengths
  · cases hseedLengths
  · obtain ⟨-, hloop⟩ := ite_error_ok hseedLengths
    obtain ⟨bump, hbump⟩ := findBump_ok hloop
    refine ⟨more.flatten ++ [UInt8.ofNat bump] ++ programId ++ pdaMarker, ?_⟩
    simpa [pdaPreimage] using hbump

theorem sampleState_sameCharges :
    SameCharges samplePrimitives sampleProgramId sampleState sampleStateAfterTransfer := by
  intro chargeId derived h
  obtain ⟨rest, haddress⟩ := gasChargePda_address h
  have hother : derived.address ≠ samplePublicShareAddress := by
    intro heq
    have hhead : derived.address.head? = some 103 := by
      rw [haddress]
      rfl
    have hpublic : samplePublicShareAddress.head? = some 100 := by decide +kernel
    rw [heq, hpublic] at hhead
    cases hhead
  rw [sampleStateAfterTransfer, if_neg hother]

theorem foreign_accounts_only_reject_sample :
    SameUnless NotOwned (sampleCheckOn sampleState) (sampleCheckOn sampleStateAfterTransfer) :=
  (foreign_accounts_only_reject sampleState_differForeign sampleState_sameCharges).2.2.2.1 _ _ _ _

/-- The transfer has a check rejected that came to a result without it. -/
theorem transfer_blocks_check :
    ¬∀ first second, DifferForeign sampleProgramId first second →
      sampleCheckOn first = sampleCheckOn second := by
  intro hclaim
  have hbefore : (sampleCheckOn sampleState).any (fun r => r.isOk) = true := by decide +kernel
  have hafter : (sampleCheckOn sampleStateAfterTransfer).any (fun r => r.isOk) = false := by
    decide +kernel
  rw [hclaim _ _ sampleState_differForeign, hafter] at hbefore
  cases hbefore

end Ika.Solana
