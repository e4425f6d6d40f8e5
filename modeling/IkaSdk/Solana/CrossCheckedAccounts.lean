import IkaSdk.Core.Grpc.CrossCheckedReads
import IkaSdk.Solana.ChainReads
import IkaSdk.Solana.RequestRecords
import IkaSdk.Solana.UsabilitySoundness
import Mathlib.Data.List.TakeWhile

/-! What both Solana endpoints served, when a cross-checked read of an account
came to a value. -/

namespace Ika.Solana

open Wire Interaction Eff

/-- What an account decodes to, and nothing where there is none. -/
def decodeIfAny {T : Type} (decode : ReadAccount → Except SdkError (Option T)) :
    Option ReadAccount → Except SdkError (Option T)
  | none => .ok none
  | some account => decode account

/-- An endpoint served what decodes to `value` at the address. -/
def Served {T : Type} (endpoint : CrossCheckEndpoint) (address : Except String Bytes)
    (decode : ReadAccount → Except SdkError (Option T)) (value : Option T)
    (tr : List (Event solanaInterface)) : Prop :=
  ∃ at_ account, address = .ok at_ ∧ ⟨.getAccount endpoint at_, .ok account⟩ ∈ tr ∧
    decodeIfAny decode account = .ok value

/-- Both endpoints served an account that decodes to the same fields, or both
none. -/
def BothServed {T U : Type} (address : Except String Bytes)
    (decode : ReadAccount → Except SdkError (Option T)) (fields : T → U) (value : Option T)
    (tr : List (Event solanaInterface)) : Prop :=
  Served .first address decode value tr ∧
    ∃ other, Served .second address decode other tr ∧ other.map fields = value.map fields

variable {T U : Type} {tr tr' : List (Event solanaInterface)} {endpoint : CrossCheckEndpoint}
  {address : Except String Bytes} {decode : ReadAccount → Except SdkError (Option T)}
  {value : Option T}

theorem Served.mono (h : Served endpoint address decode value tr) (hsub : ∀ e ∈ tr, e ∈ tr') :
    Served endpoint address decode value tr' := by
  obtain ⟨found, account, haddress, hmem, hdecode⟩ := h
  exact ⟨found, account, haddress, hsub _ hmem, hdecode⟩

theorem BothServed.mono {fields : T → U} (h : BothServed address decode fields value tr)
    (hsub : ∀ e ∈ tr, e ∈ tr') : BothServed address decode fields value tr' := by
  obtain ⟨hfirst, other, hsecond, hfields⟩ := h
  exact ⟨hfirst.mono hsub, other, hsecond.mono hsub, hfields⟩

/-! ## A cross-checked read -/

section CrossCheck

variable {what : String} {read : CrossCheckEndpoint → SolanaEff (Option T)} {equal : T → T → Bool}
  {position : T → ℕ}

theorem gives_readAtPosition {one : SolanaEff (Option T)} {a : AnswerAt T}
    (h : Gives (readAtPosition position one) tr (some (.ok (.answerAt a)))) :
    ∃ tr', (∀ e ∈ tr', e ∈ tr) ∧ Gives one tr' a.value := by
  obtain ⟨tr₁, tr₂, outcome, rfl, hattempt, h₁⟩ := gives_bind_iff.mp h
  obtain ⟨tr₃, tr₄, ended, rfl, -, h₂⟩ := gives_bind_iff.mp h₁
  obtain ⟨rfl, hraced⟩ := gives_pure_iff.mp h₂
  cases ended with
  | true => cases hraced
  | false =>
    have hraced : some outcome = some (.ok (.answerAt a)) := hraced
    obtain rfl := Option.some.inj hraced
    obtain ⟨tr₅, tr₆, read, rfl, hone, h₃⟩ := gives_bind_iff.mp (gives_attempt_iff.mp hattempt)
    obtain ⟨rfl, hanswer⟩ := gives_pure_iff.mp h₃
    cases hanswer
    exact ⟨tr₅, fun e he => by simp [he], hone⟩

/-- A read of an endpoint that shows where a value of it came from. -/
def ServedBy (address : Except String Bytes) (decode : ReadAccount → Except SdkError (Option T))
    (endpoint : CrossCheckEndpoint) (a : AnswerAt T) (tr : List (Event solanaInterface)) : Prop :=
  Served endpoint address decode a.value tr

theorem evidence_servedBy
    (hread : ∀ endpoint tr value, Gives (read endpoint) tr value →
      Served endpoint address decode value tr) :
    (accountCrossCheck what read equal position).Evidence (ServedBy address decode) where
  append := by
    intro endpoint a tr₁ tr₂ tr₃ h
    exact h.mono fun e he => by simp [he]
  readBoth := by
    intro deadline tr reads h
    obtain ⟨tr₁, tr₂, first, rfl, hfirst, h₁⟩ := gives_bind_iff.mp h
    obtain ⟨tr₃, tr₄, second, rfl, hsecond, h₂⟩ := gives_bind_iff.mp h₁
    obtain ⟨rfl, heq⟩ := gives_pure_iff.mp h₂
    cases heq
    constructor
    · rintro a rfl
      obtain ⟨tr', hsub, hgives⟩ := gives_readAtPosition hfirst
      exact (hread _ _ _ hgives).mono fun e he => by simp [hsub e he]
    · rintro a rfl
      obtain ⟨tr', hsub, hgives⟩ := gives_readAtPosition hsecond
      exact (hread _ _ _ hgives).mono fun e he => by simp [hsub e he]
  readAgain := by
    intro endpoint target deadline tr a h
    obtain ⟨tr', hsub, hgives⟩ := gives_readAtPosition h
    exact (hread _ _ _ hgives).mono hsub

/-- A value comes from both endpoints, whatever they served in between. -/
theorem crossCheckedAccountRead_served {fuel : ℕ} (fields : T → U)
    (hread : ∀ endpoint tr value, Gives (read endpoint) tr value →
      Served endpoint address decode value tr)
    (hequal : ∀ account account' a b, decode account = .ok (some a) →
      decode account' = .ok (some b) → equal a b = true → fields b = fields a)
    (h : Gives (crossCheckedAccountRead .getAccount fuel what read equal position) tr value) :
    BothServed address decode fields value tr := by
  obtain ⟨a, b, hfirst, hsecond, rfl, hsame⟩ :=
    CrossCheckedRead.run_agreed (evidence_servedBy hread) h
  refine ⟨hfirst, b.value, hsecond, ?_⟩
  obtain ⟨-, account, -, -, hdecode⟩ := hfirst
  obtain ⟨-, account', -, -, hdecode'⟩ := hsecond
  cases ha : a.value with
  | none =>
    cases hb : b.value with
    | none => rfl
    | some v' =>
      rw [ha, hb] at hsame
      cases hsame
  | some v =>
    cases hb : b.value with
    | none =>
      rw [ha, hb] at hsame
      cases hsame
    | some v' =>
      rw [ha] at hdecode hsame
      rw [hb] at hdecode' hsame
      cases account with
      | none => cases hdecode
      | some account =>
        cases account' with
        | none => cases hdecode'
        | some account' =>
          exact congrArg some (hequal account account' v v' hdecode hdecode' hsame)

end CrossCheck

/-! ## One endpoint -/

theorem readAs_served {address : Bytes} (h : Gives (readAs endpoint address decode) tr value) :
    Served endpoint (.ok address) decode value tr := by
  obtain ⟨tr₁, tr₂, account, rfl, hop, h₁⟩ := gives_bind_iff.mp h
  obtain rfl := gives_getAccount_iff.mp hop
  cases account with
  | none =>
    obtain ⟨rfl, rfl⟩ := gives_pure_iff.mp h₁
    exact ⟨address, none, rfl, by simp, rfl⟩
  | some account =>
    obtain ⟨rfl, hdecode⟩ := gives_lift_iff.mp h₁
    exact ⟨address, some account, rfl, by simp, hdecode⟩

/-- What decodes through `located`, for a read that first derives the address. -/
theorem readLocated_served {derived : Except String DerivedAddress}
    (h : Gives (do
      let derived ← (fromPackage derived : Except SdkError DerivedAddress)
      readAs endpoint derived.address decode : SolanaEff (Option T)) tr value) :
    Served endpoint (derived.map (·.address)) decode value tr := by
  obtain ⟨found, hderived, hread⟩ := gives_lift_bind_iff.mp h
  rw [fromPackage_ok hderived]
  exact readAs_served hread

variable (P : Primitives) (toBase58 : Bytes → String) (programId : Bytes) (fuel : ℕ)

/-! ## The reads -/

variable (P : Primitives) (toBase58 : Bytes → String) (programId : Bytes) (fuel : ℕ)

theorem chainEpoch_served {programId : PublicKey} {epoch : ℕ}
    (h : Gives (chainEpoch P toBase58 .getAccount fuel programId) tr epoch) :
    BothServed ((dwalletCoordinatorPda P programId.toBytes).map (·.address)) readCoordinatorEpoch
      id (some epoch) tr := by
  obtain ⟨derived, hderived, h₁⟩ := gives_lift_bind_iff.mp h
  obtain ⟨tr₁, tr₂, found, rfl, hread, h₂⟩ := gives_bind_iff.mp h₁
  cases found with
  | none => exact (gives_throw_iff.mp h₂).elim
  | some found =>
    obtain ⟨rfl, rfl⟩ := gives_pure_iff.mp h₂
    have hserved := crossCheckedAccountRead_served id (fun _ _ _ => readAs_served)
      (fun _ _ a b _ _ hequal => (beq_iff_eq.mp hequal).symm) hread
    rw [fromPackage_ok hderived]
    exact hserved.mono fun e he => by simp [he]

theorem currentEpoch_served {epoch : ℕ}
    (h : Gives (currentEpoch P .getAccount fuel programId) tr epoch) :
    BothServed ((deriveAddress P "SystemState" programId (seedValues [])).map (·.address))
      (readSystemStateEpoch programId) id (some epoch) tr := by
  obtain ⟨tr₁, tr₂, found, rfl, hread, h₁⟩ := gives_bind_iff.mp h
  cases found with
  | none => exact (gives_throw_iff.mp h₁).elim
  | some found =>
    obtain ⟨rfl, rfl⟩ := gives_pure_iff.mp h₁
    have hserved := crossCheckedAccountRead_served id
      (fun _ _ _ => readLocated_served) (fun _ _ a b _ _ hequal => (beq_iff_eq.mp hequal).symm)
      hread
    exact hserved.mono fun e he => by simp [he]

theorem isRegisteredNetworkKey_served {noaPublicKey : Bytes} {registered : Bool}
    (h : Gives (isRegisteredNetworkKey P .getAccount fuel programId noaPublicKey) tr registered) :
    noaPublicKey.length ≠ 32 ∧ registered = false ∨
      ∃ key, BothServed ((networkEncryptionKeyPda P programId noaPublicKey).map (·.address))
        (readNamedKey programId noaPublicKey) (fun k => (k.noaPublicKey, k.dkgOutputDigest)) key
        tr ∧ registered = key.isSome := by
  unfold isRegisteredNetworkKey at h
  by_cases hlength : noaPublicKey.length ≠ 32
  · rw [if_pos hlength] at h
    exact .inl ⟨hlength, (gives_pure_iff.mp h).2.symm⟩
  rw [if_neg hlength] at h
  obtain ⟨tr₁, tr₂, key, rfl, hread, h₁⟩ := gives_bind_iff.mp h
  obtain ⟨rfl, rfl⟩ := gives_pure_iff.mp h₁
  have hserved := crossCheckedAccountRead_served
    (fun k : NetworkEncryptionKeyAccount => (k.noaPublicKey, k.dkgOutputDigest))
    (fun _ _ _ => readLocated_served) (fun _ _ a b _ _ hequal => ?_) hread
  · exact .inr ⟨key, hserved.mono fun e he => by simp [he], rfl⟩
  · simp only [Bool.and_eq_true, beq_iff_eq] at hequal
    rw [hequal.1, hequal.2]

/-- 32 bytes are the bytes of the key they stand for. -/
theorem publicKeyOf_toBytes {value : Bytes} {key : PublicKey} (hlength : value.length = 32)
    (h : publicKeyOf value = .ok key) : key.toBytes = value := by
  have hzeros : value.takeWhile (· == 0) =
      List.replicate (value.takeWhile (· == 0)).length 0 := by
    refine List.eq_replicate_iff.mpr ⟨rfl, fun b hb => ?_⟩
    simpa using List.mem_takeWhile_imp hb
  have hsplit : value.takeWhile (· == 0) ++ value.dropWhile (· == 0) = value :=
    List.takeWhile_append_dropWhile
  have hcount : 32 - (value.dropWhile (· == 0)).length = (value.takeWhile (· == 0)).length := by
    have hsum := congrArg List.length hsplit
    rw [List.length_append, hlength] at hsum
    omega
  simp only [publicKeyOf] at h
  split_ifs at h
  cases h
  simp only
  rw [hcount, ← hzeros, hsplit]

theorem encryptionKeyTable : accountEntry "EncryptionKey" =
    .ok { discriminator := 107, version := 1, headerLen := some 120, isVariable := true } := by
  decide +kernel

/-- What a checked entry holds, besides its key and its signature. -/
theorem checkedEncryptionKeyEntry_ok {params : EncryptionKeyParams} {address : Bytes}
    {account : ReadAccount} {entry : EncryptionKeyEntry}
    (h : checkedEncryptionKeyEntry P toBase58 params address account = .ok entry) :
    entry.address = address ∧
      (∃ holder, publicKeyOf params.holderPublicKey = .ok holder ∧
        entry.signerPublicKey = holder.toBytes) ∧
      entry.curve = params.curve ∧ entry.signatureScheme = encryptionKeyEd25519SignatureScheme := by
  obtain ⟨_, -, h₁⟩ := bind_ok h
  obtain ⟨_, -, h₂⟩ := bind_ok h₁
  obtain ⟨table, htable, h₃⟩ := bind_ok h₂
  obtain ⟨_, hlayout, h₄⟩ := bind_ok h₃
  obtain ⟨signer, hsigner, h₅⟩ := bind_ok h₄
  obtain ⟨holder, hholder, h₆⟩ := bind_ok h₅
  obtain ⟨_, hsame, h₇⟩ := bind_ok h₆
  obtain ⟨_, -, h₈⟩ := bind_ok h₇
  obtain ⟨_, hscheme, h₉⟩ := bind_ok h₈
  obtain ⟨_, -, h₁₀⟩ := bind_ok h₉
  obtain ⟨_, -, h₁₁⟩ := bind_ok h₁₀
  cases h₁₁
  have hlong : 120 ≤ account.data.length := by
    have htable := fromPackage_ok htable
    rw [encryptionKeyTable] at htable
    cases htable
    have hlayout := ensure_ok hlayout
    simp only [isVariableAccount, startsAs, Option.getD_some, Bool.and_eq_true,
      decide_eq_true_eq] at hlayout
    exact hlayout.1.2.1
  have hlength : (slice account.data 2 34).length = 32 := by
    simp [slice]
    omega
  refine ⟨rfl, ⟨holder, fromPackage_ok hholder, ?_⟩, rfl, ensure_ok hscheme⟩
  rw [← ensure_ok hsame]
  exact (publicKeyOf_toBytes hlength (fromPackage_ok hsigner)).symm

/-- Two endpoints that serve the same key and signature serve the same entry. -/
theorem checkedEncryptionKeyEntry_same {params : EncryptionKeyParams} {address : Bytes}
    {account account' : ReadAccount} {entry entry' : EncryptionKeyEntry}
    (h : checkedEncryptionKeyEntry P toBase58 params address account = .ok entry)
    (h' : checkedEncryptionKeyEntry P toBase58 params address account' = .ok entry')
    (hkey : entry.encryptionKey = entry'.encryptionKey)
    (hsignature : entry.signature = entry'.signature) : entry' = entry := by
  obtain ⟨haddress, ⟨holder, hholder, hsigner⟩, hcurve, hscheme⟩ :=
    checkedEncryptionKeyEntry_ok P toBase58 h
  obtain ⟨haddress', ⟨holder', hholder', hsigner'⟩, hcurve', hscheme'⟩ :=
    checkedEncryptionKeyEntry_ok P toBase58 h'
  have hsame : holder' = holder := Except.ok.inj (hholder'.symm.trans hholder)
  cases entry
  cases entry'
  simp_all

theorem readEncryptionKey_served {params : EncryptionKeyParams} {entry : EncryptionKeyEntry}
    (h : Gives (readEncryptionKey P toBase58 .getAccount fuel params) tr entry) :
    ∃ address, encryptionKeyPda P params.programId.toBytes params.holderPublicKey params.curve =
        .ok address ∧
      BothServed (.ok address.address) (fun account =>
        (checkedEncryptionKeyEntry P toBase58 params address.address account).map some) id
        (some entry) tr := by
  obtain ⟨derived, hderived, h₁⟩ := gives_lift_bind_iff.mp h
  obtain ⟨tr₁, tr₂, found, rfl, hread, h₂⟩ := gives_bind_iff.mp h₁
  cases found with
  | none => exact (gives_throw_iff.mp h₂).elim
  | some found =>
    obtain ⟨rfl, rfl⟩ := gives_pure_iff.mp h₂
    have hserved := crossCheckedAccountRead_served id (fun _ _ _ => readAs_served)
      (fun account account' a b ha hb hequal => ?_) hread
    · exact ⟨derived, fromPackage_ok hderived, hserved.mono fun e he => by simp [he]⟩
    · obtain ⟨entry, hentry, hsome⟩ := map_ok ha
      obtain ⟨entry', hentry', hsome'⟩ := map_ok hb
      cases hsome
      cases hsome'
      simp only [Bool.and_eq_true, beq_iff_eq] at hequal
      exact checkedEncryptionKeyEntry_same P toBase58 hentry hentry' hequal.1 hequal.2

/-! ## The reads of a request's records -/

theorem hasGasCharge_served {chargeId : Bytes} {found : Bool}
    (h : Gives (hasGasCharge P programId .getAccount fuel chargeId) tr found) :
    ∃ present, BothServed ((gasChargePda P programId chargeId).map (·.address))
      (fun _ => .ok (some true)) id present tr ∧ found = present.isSome := by
  obtain ⟨derived, hderived, h₁⟩ := gives_lift_bind_iff.mp h
  obtain ⟨tr₁, tr₂, present, rfl, hread, h₂⟩ := gives_bind_iff.mp h₁
  obtain ⟨rfl, rfl⟩ := gives_pure_iff.mp h₂
  have hserved := crossCheckedAccountRead_served id (fun _ _ _ => readAs_served)
    (fun _ _ a b _ _ hequal => (beq_iff_eq.mp hequal).symm) hread
  rw [fromPackage_ok hderived]
  refine ⟨present, hserved.mono fun e he => by simp [he], ?_⟩
  obtain ⟨⟨-, account, -, -, hdecode⟩, -⟩ := hserved
  cases account with
  | none =>
    cases hdecode
    rfl
  | some account =>
    cases hdecode
    rfl

theorem readVoucher_served {decode : Bytes → Except SdkError (Option T)} {found : T → Option U}
    {voucher : Bytes} {value : Option U}
    (h : Gives (readVoucher decode found endpoint voucher) tr value) :
    Served endpoint (.ok voucher) (fun account => (decode account.data).map (·.bind found)) value
      tr := by
  obtain ⟨tr₁, tr₂, account, rfl, hop, h₁⟩ := gives_bind_iff.mp h
  obtain rfl := gives_getAccount_iff.mp hop
  obtain ⟨read, hdecode, h₂⟩ := gives_lift_bind_iff.mp h₁
  have hvalue : read.bind found = value ∧ tr₂ = [] := by
    cases read with
    | none =>
      obtain ⟨rfl, rfl⟩ := gives_pure_iff.mp h₂
      exact ⟨rfl, rfl⟩
    | some read =>
      obtain ⟨rfl, rfl⟩ := gives_pure_iff.mp h₂
      exact ⟨rfl, rfl⟩
  refine ⟨voucher, account, rfl, by simp, ?_⟩
  cases account with
  | none =>
    cases hdecode
    exact congrArg Except.ok hvalue.1
  | some account =>
    rw [← hvalue.1]
    exact (congrArg (Except.map (·.bind found)) hdecode).trans rfl

theorem voucherSignature_served {voucher : Bytes} {value : Option Bytes}
    (h : Gives (voucherSignature .getAccount fuel voucher) tr value) :
    BothServed (.ok voucher) (fun account => (readSignatureVoucherUnverified account.data).map
      (·.bind (storedSignature ·.signature))) id value tr :=
  crossCheckedAccountRead_served id (fun _ _ _ => readVoucher_served)
    (fun _ _ _ _ _ _ hequal => (beq_iff_eq.mp hequal).symm) h

theorem futureVoucher_served {voucher : Bytes} {value : Option FutureVoucher}
    (h : Gives (futureVoucher .getAccount fuel voucher) tr value) :
    BothServed (.ok voucher) (fun account =>
      (readFutureSignatureVoucherUnverified account.data).map
        (·.bind (some <| futureVoucherOf ·))) id value tr := by
  refine crossCheckedAccountRead_served id (fun _ _ _ => readVoucher_served) ?_ h
  rintro - - ⟨session, signature, closed⟩ ⟨session', signature', closed'⟩ - - hequal
  simp_all

/-- What `readThrough` makes of an account. -/
def readOwned (kind : String) (decode : Bytes → Except SdkError (Option T))
    (account : ReadAccount) : Except SdkError (Option T) := do
  ensure (account.owner = programId)
    (SdkError.error s!"the {kind} account is not owned by the ika-dwallet program")
  match ← decode account.data with
  | none => throw (.error s!"the {kind} account does not read as one")
  | some decoded => return some decoded

theorem readDerived_served {derived : Except String DerivedAddress} {kind : String}
    {decode : Bytes → Except SdkError (Option T)} {value : Option T}
    (h : Gives (readDerived programId endpoint derived kind decode) tr value) :
    Served endpoint (derived.map (·.address)) (readOwned programId kind decode) value tr := by
  obtain ⟨found, hderived, h₁⟩ := gives_lift_bind_iff.mp h
  rw [fromPackage_ok hderived]
  obtain ⟨tr₁, tr₂, account, rfl, hop, h₂⟩ := gives_bind_iff.mp h₁
  obtain rfl := gives_getAccount_iff.mp hop
  cases account with
  | none =>
    obtain ⟨rfl, rfl⟩ := gives_pure_iff.mp h₂
    exact ⟨found.address, none, rfl, by simp, rfl⟩
  | some account =>
    obtain ⟨_, howner, h₃⟩ := gives_lift_bind_iff.mp h₂
    obtain ⟨decoded, hdecode, h₄⟩ := gives_lift_bind_iff.mp h₃
    refine ⟨found.address, some account, rfl, by simp, ?_⟩
    simp only [decodeIfAny, readOwned, howner, hdecode, ok_bind]
    cases decoded with
    | none => exact (gives_throw_iff.mp h₄).elim
    | some decoded =>
      obtain ⟨-, rfl⟩ := gives_pure_iff.mp h₄
      rfl

theorem readPublicShareAttestation_served {lookup : DWalletLookup}
    {value : Option AttestationAccount}
    (h : Gives (readPublicShareAttestation P programId .getAccount fuel lookup) tr value) :
    BothServed ((publicUserShareAttestationPda P programId lookup.curve lookup.publicKey
      lookup.importedSessionIdentifier).map (·.address)) (readOwned programId
        "public share attestation" (readPublicShareAttestationUnverified P))
      AttestationAccount.toAttestationRecord value tr := by
  refine crossCheckedAccountRead_served _ (fun _ _ _ => readDerived_served programId) ?_ h
  intro _ _ a b _ _ hequal
  obtain ⟨⟨data, version, signature, signer⟩, _, _, _⟩ := a
  obtain ⟨⟨data', version', signature', signer'⟩, _, _, _⟩ := b
  simp only [sameAttestationRecord, Bool.and_eq_true, beq_iff_eq] at hequal
  obtain ⟨⟨⟨rfl, rfl⟩, rfl⟩, rfl⟩ := hequal
  rfl

/-- What the reads that are cross-checked return was served by both endpoints. -/
structure AccountsAgree (P : Primitives) (toBase58 : Bytes → String) (fuel : ℕ)
    (tr : List (Event solanaInterface)) : Prop where
  chainEpoch : ∀ (programId : PublicKey) (epoch : ℕ),
    Gives (chainEpoch P toBase58 .getAccount fuel programId) tr epoch →
      BothServed ((dwalletCoordinatorPda P programId.toBytes).map (·.address))
        readCoordinatorEpoch id (some epoch) tr
  currentEpoch : ∀ (programId : Bytes) (epoch : ℕ),
    Gives (currentEpoch P .getAccount fuel programId) tr epoch →
      BothServed ((deriveAddress P "SystemState" programId (seedValues [])).map (·.address))
        (readSystemStateEpoch programId) id (some epoch) tr
  networkKey : ∀ (programId noaPublicKey : Bytes) (registered : Bool),
    Gives (isRegisteredNetworkKey P .getAccount fuel programId noaPublicKey) tr registered →
      noaPublicKey.length ≠ 32 ∧ registered = false ∨
        ∃ key, BothServed ((networkEncryptionKeyPda P programId noaPublicKey).map (·.address))
          (readNamedKey programId noaPublicKey) (fun k => (k.noaPublicKey, k.dkgOutputDigest)) key
          tr ∧ registered = key.isSome
  encryptionKey : ∀ (params : EncryptionKeyParams) (entry : EncryptionKeyEntry),
    Gives (readEncryptionKey P toBase58 .getAccount fuel params) tr entry →
      ∃ address, encryptionKeyPda P params.programId.toBytes params.holderPublicKey params.curve =
          .ok address ∧
        BothServed (.ok address.address) (fun account =>
          (checkedEncryptionKeyEntry P toBase58 params address.address account).map some) id
          (some entry) tr
  gasCharge : ∀ (programId chargeId : Bytes) (found : Bool),
    Gives (hasGasCharge P programId .getAccount fuel chargeId) tr found →
      ∃ present, BothServed ((gasChargePda P programId chargeId).map (·.address))
        (fun _ => .ok (some true)) id present tr ∧ found = present.isSome
  voucherSignature : ∀ (voucher : Bytes) (value : Option Bytes),
    Gives (voucherSignature .getAccount fuel voucher) tr value →
      BothServed (.ok voucher) (fun account => (readSignatureVoucherUnverified account.data).map
        (·.bind (storedSignature ·.signature))) id value tr
  futureVoucher : ∀ (voucher : Bytes) (value : Option FutureVoucher),
    Gives (futureVoucher .getAccount fuel voucher) tr value →
      BothServed (.ok voucher) (fun account =>
        (readFutureSignatureVoucherUnverified account.data).map
          (·.bind (some <| futureVoucherOf ·))) id value tr
  publicShare : ∀ (programId : Bytes) (lookup : DWalletLookup) (value : Option AttestationAccount),
    Gives (readPublicShareAttestation P programId .getAccount fuel lookup) tr value →
      BothServed ((publicUserShareAttestationPda P programId lookup.curve lookup.publicKey
        lookup.importedSessionIdentifier).map (·.address)) (readOwned programId
          "public share attestation" (readPublicShareAttestationUnverified P))
        AttestationAccount.toAttestationRecord value tr

theorem accounts_agree (tr : List (Event solanaInterface)) :
    AccountsAgree P toBase58 fuel tr where
  chainEpoch _ _ := chainEpoch_served P toBase58 fuel
  currentEpoch programId _ := currentEpoch_served P programId fuel
  networkKey programId _ _ := isRegisteredNetworkKey_served P programId fuel
  encryptionKey _ _ := readEncryptionKey_served P toBase58 fuel
  gasCharge programId _ _ := hasGasCharge_served P programId fuel
  voucherSignature _ _ := voucherSignature_served fuel
  futureVoucher _ _ := futureVoucher_served fuel
  publicShare programId _ _ := readPublicShareAttestation_served P programId fuel

/-! ## The cross-check and what is built on it -/

theorem cross_checked_reads_agree {T : Type} (params : CrossCheckParams T) (P : Primitives)
    (toBase58 : Bytes → String) (fuel : ℕ) :
    CrossChecked params fuel ∧ ∀ tr, AccountsAgree P toBase58 fuel tr :=
  ⟨crossCheckedRead_crossChecked params fuel, accounts_agree P toBase58 fuel⟩

def sampleCrossCheck : CrossCheckParams ℕ where
  endpoints _ := ""
  what := "epoch"
  equal := (· == ·)
  windowMs := none
  retryIntervalMs := none

/-- The first endpoint is an epoch behind at first, and then catches up. -/
def sampleCatchUp : ∀ op : CrossCheckOp, CrossCheckOp.Ans ℕ op
  | .now => 0
  | .sleep _ => ()
  | .readBoth _ => ⟨some (.ok (.answerAt ⟨5, some 5⟩)), some (.ok (.answerAt ⟨6, some 6⟩)), false⟩
  | .readAgain .. => some (.ok (.answerAt ⟨6, some 6⟩))

theorem cross_checked_reads_agree_sample : ∃ tr,
    Gives (crossCheckedRead sampleCrossCheck 11) tr (some 6) ∧
      ∃ a b v', Gave .first a tr ∧ Gave .second b tr ∧ a.value = some 6 ∧ b.value = some v' ∧
        sampleCrossCheck.equal 6 v' = true := by
  have hsample : (Prog.transcript (fun _ => sampleCatchUp) 0
      (crossCheckedRead sampleCrossCheck 11).run).any (fun r =>
        decide (r.2.toOption = some (some 6))) = true := by
    decide +kernel
  obtain ⟨⟨tr, r⟩, hrun, hchecked⟩ := (Option.any_eq_true _ _).mp hsample
  have hreturns := Prog.returns_of_transcript hrun
  obtain rfl : r = .ok (some 6) := by
    cases r with
    | ok value => rw [Option.some.inj (of_decide_eq_true hchecked)]
    | error e => cases of_decide_eq_true hchecked
  exact ⟨tr, hreturns, (cross_checked_reads_agree sampleCrossCheck samplePrimitives
    (fun _ => "") 11).1.present tr 6 hreturns⟩

end Ika.Solana
