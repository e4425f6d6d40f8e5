import IkaSdk.Core.Common.ShareRequests
import IkaSdk.Core.Grpc.SignatureSchemes
import IkaSdk.Solana.UsabilitySoundness

/-! Waiting for the signature in a voucher. The account is read again and again, and may be
another one each time; its signature is returned once a read finds the voucher signed. -/

namespace Ika.Solana

open Wire Interaction Eff

/-! ## Reading until there is a value -/

/-- How long to wait and how long between two reads, in milliseconds. -/
structure WaitOptions where
  timeout : ℤ := 120000
  interval : ℤ := 1000
deriving DecidableEq, Repr

def clock : SolanaEff ℤ := Eff.liftOp (I := solanaInterface) .now

def sleep (ms : ℤ) : SolanaEff Unit := Eff.liftOp (I := solanaInterface) (.sleep ms)

section Poll

variable {T : Type} (read : SolanaEff (Option T)) (what : String)

def pollUntil (deadline interval : ℤ) : ℕ → SolanaEff T
  | 0 => Eff.cut
  | fuel + 1 => do
    match ← read with
    | some value => return value
    | none =>
      let now ← clock
      ensure (now < deadline) (SdkError.error s!"timed out waiting for {what}")
      sleep interval
      pollUntil deadline interval fuel

/-- Read until `read` returns a value, or throw once the timeout has passed. -/
def poll (options : WaitOptions) (fuel : ℕ) : SolanaEff T := do
  let now ← clock
  pollUntil read what (now + options.timeout) options.interval fuel

variable {read} {what} {value : T} {tr : List (Event solanaInterface)}

theorem gives_pollUntil {deadline interval : ℤ} {fuel : ℕ}
    (h : Gives (pollUntil read what deadline interval fuel) tr value) :
    ∃ front last, tr = front ++ last ∧ Gives read last (some value) := by
  induction fuel generalizing tr with
  | zero => exact (gives_cut_iff.mp h).elim
  | succ fuel ih =>
    obtain ⟨tr₁, tr₂, found, rfl, hread, hrest⟩ := gives_bind_iff.mp h
    cases found with
    | some value' =>
      obtain ⟨rfl, rfl⟩ := gives_pure_iff.mp hrest
      exact ⟨[], tr₁, by simp, hread⟩
    | none =>
      obtain ⟨tr₃, tr₄, now, rfl, -, hrest⟩ := gives_bind_iff.mp hrest
      obtain ⟨_, -, hrest⟩ := gives_lift_bind_iff.mp hrest
      obtain ⟨tr₅, tr₆, _, rfl, -, hagain⟩ := gives_bind_iff.mp hrest
      obtain ⟨front, last, rfl, hlast⟩ := ih hagain
      exact ⟨tr₁ ++ (tr₃ ++ (tr₅ ++ front)), last, by simp, hlast⟩

/-- What a poll gives is what its last read found. -/
theorem gives_poll {options : WaitOptions} {fuel : ℕ}
    (h : Gives (poll read what options fuel) tr value) :
    ∃ front last, tr = front ++ last ∧ Gives read last (some value) := by
  obtain ⟨tr₁, tr₂, now, rfl, -, hrest⟩ := gives_bind_iff.mp h
  obtain ⟨front, last, rfl, hlast⟩ := gives_pollUntil hrest
  exact ⟨tr₁ ++ front, last, by simp, hlast⟩

/-- A poll throws what its last read threw, or its timeout after a read that found nothing. -/
theorem throws_pollUntil {deadline interval : ℤ} {fuel : ℕ} {e : SdkError}
    (h : Throws (pollUntil read what deadline interval fuel) tr e) :
    (∃ front last, tr = front ++ last ∧ Throws read last e) ∨
      ∃ front last now, tr = front ++ last ++ [⟨.now, now⟩] ∧ Gives read last none ∧
        deadline ≤ now ∧ e = SdkError.error s!"timed out waiting for {what}" := by
  induction fuel generalizing tr with
  | zero => exact (throws_cut_iff.mp h).elim
  | succ fuel ih =>
    rcases throws_bind_iff.mp h with hread | ⟨tr₁, tr₂, found, rfl, hread, hrest⟩
    · exact .inl ⟨[], tr, rfl, hread⟩
    cases found with
    | some value => exact (throws_pure_iff.mp hrest).elim
    | none =>
      rcases throws_bind_iff.mp hrest with hclock | ⟨tr₃, tr₄, now, rfl, hclock, hchecked⟩
      · exact (throws_liftOp_iff.mp hclock).elim
      obtain rfl := gives_liftOp_iff.mp hclock
      rcases throws_bind_iff.mp hchecked with hlate | ⟨_, tr₄, _, rfl, hearly, hslept⟩
      · -- the deadline has passed
        obtain ⟨rfl, hended⟩ := throws_lift_iff.mp hlate
        unfold ensure at hended
        split_ifs at hended with hbefore
        cases hended
        exact .inr ⟨[], tr₁, now, by simp, hread, Int.not_lt.mp hbefore, rfl⟩
      · obtain ⟨rfl, -⟩ := gives_lift_iff.mp hearly
        rcases throws_bind_iff.mp hslept with hsleep | ⟨tr₅, tr₆, _, rfl, -, hagain⟩
        · exact (throws_liftOp_iff.mp hsleep).elim
        rcases ih hagain with ⟨front, last, rfl, hlast⟩ | ⟨front, last, ended, rfl, hlast⟩
        · exact .inl ⟨tr₁ ++ (⟨.now, now⟩ :: (tr₅ ++ front)), last, by simp, hlast⟩
        · exact .inr ⟨tr₁ ++ (⟨.now, now⟩ :: (tr₅ ++ front)), last, ended, by simp, hlast⟩

/-- A poll gives what a read finds after rounds that found nothing before the deadline. -/
theorem pollUntil_after {deadline interval : ℤ}
    {rounds : List (List (Event solanaInterface) × ℤ)} {fuel : ℕ}
    (hrounds : ∀ round ∈ rounds, Gives read round.1 none ∧ round.2 < deadline)
    (hfuel : rounds.length ≤ fuel) (hread : Gives read tr (some value)) :
    Gives (pollUntil read what deadline interval (fuel + 1))
      (rounds.flatMap (fun round => round.1 ++ [⟨.now, round.2⟩, ⟨.sleep interval, ()⟩]) ++ tr)
      value := by
  induction rounds generalizing fuel with
  | nil =>
    refine gives_bind_iff.mpr ⟨tr, [], some value, ?_, hread, gives_pure_iff.mpr ⟨rfl, rfl⟩⟩
    simp
  | cons round rounds ih =>
    obtain ⟨hround, hothers⟩ := List.forall_mem_cons.mp hrounds
    cases fuel with
    | zero => cases hfuel
    | succ fuel =>
      have hlater := ih hothers (Nat.le_of_succ_le_succ hfuel)
      rw [List.flatMap_cons, List.append_assoc, List.append_assoc]
      refine gives_bind_iff.mpr ⟨_, _, none, rfl, hround.1, ?_⟩
      refine gives_bind_iff.mpr ⟨[⟨.now, round.2⟩], _, round.2, rfl, gives_liftOp_iff.mpr rfl, ?_⟩
      refine gives_lift_bind_iff.mpr ⟨(), ensure_of hround.2, ?_⟩
      refine gives_bind_iff.mpr ⟨[⟨.sleep interval, ()⟩], _, (), rfl, ?_, hlater⟩
      exact gives_liftOp_iff.mpr rfl

theorem poll_after {options : WaitOptions} (now : ℤ)
    (rounds : List (List (Event solanaInterface) × ℤ)) {fuel : ℕ}
    (hrounds : ∀ round ∈ rounds, Gives read round.1 none ∧ round.2 < now + options.timeout)
    (hfuel : rounds.length ≤ fuel) (hread : Gives read tr (some value)) :
    Gives (poll read what options (fuel + 1)) (⟨.now, now⟩ :: (rounds.flatMap (fun round =>
      round.1 ++ [⟨.now, round.2⟩, ⟨.sleep options.interval, ()⟩]) ++ tr)) value :=
  gives_bind_iff.mpr ⟨[⟨.now, now⟩], _, now, rfl, gives_liftOp_iff.mpr rfl,
    pollUntil_after hrounds hfuel hread⟩

/-- A poll whose first read finds a value gives it. -/
theorem poll_first {options : WaitOptions} (now : ℤ) (hread : Gives read tr (some value)) :
    Gives (poll read what options 1) (⟨.now, now⟩ :: tr) value :=
  poll_after now [] (by simp) (le_refl _) hread

end Poll

/-! ## Vouchers -/

def signatureVoucherPending : ℕ := 0

def signatureVoucherSigned : ℕ := 1

/-- What a verified voucher read requires the voucher to hold. -/
structure ExpectedVoucherSignature where
  dwalletAddress : Bytes
  message : Bytes
  messageMetadata : Bytes
  signatureScheme : ℕ
deriving DecidableEq, Repr

/-- What a caller waits for: a signature over the message by the dWallet. -/
structure SignatureWait where
  signatureVoucher : Bytes
  dWallet : DWallet
  message : Bytes
  hashScheme : SignatureHash
  signatureAlgorithm : SignatureAlgorithm
  messageMetadata : Option Bytes
deriving DecidableEq, Repr

namespace SignatureWait

variable (params : SignatureWait)

def metadata : Bytes := params.messageMetadata.getD []

def expected (dwalletAddress : Bytes) (scheme : DWalletSignatureScheme) :
    ExpectedVoucherSignature where
  dwalletAddress := dwalletAddress
  message := params.message
  messageMetadata := params.metadata
  signatureScheme := scheme.number

/-- The scheme asked for. -/
def scheme : Except String DWalletSignatureScheme := do
  signatureSchemeOf (← fromNumberToCurve params.dWallet.curve) params.signatureAlgorithm
    params.hashScheme

end SignatureWait

section Read

variable (P : Primitives)

/-- The two digests a signature voucher stores. -/
def approvalMessageDigests (message messageMetadata : Bytes) : Bytes × Bytes :=
  futureSignMessageDigests P message messageMetadata

/-- The signature a voucher holds, after it verifies, or the empty signature when the voucher
holds none. -/
def voucherSignatureVerified (voucher : SignatureVoucherAccount)
    (expected : ExpectedVoucherSignature) (verifySignature : Bytes → Except SdkError Unit) :
    Except SdkError Bytes := do
  let digests := approvalMessageDigests P expected.message expected.messageMetadata
  ensure (voucher.dwallet = expected.dwalletAddress)
    (SdkError.error "the voucher is for another dWallet than the expected one")
  ensure (voucher.messageDigest = digests.1)
    (SdkError.error "the voucher is for another message than the expected one")
  ensure (voucher.messageMetadataDigest = digests.2)
    (SdkError.error "the voucher is for other message metadata than the expected")
  ensure (voucher.signatureScheme = expected.signatureScheme)
    (SdkError.error "the voucher is for another signature scheme than the expected one")
  if voucher.signature.length = 0 then return voucher.signature
  verifySignature voucher.signature
  return voucher.signature

def readSignatureVoucherVerified (data : Bytes) (expected : ExpectedVoucherSignature)
    (verifySignature : Bytes → Except SdkError Unit) :
    Except SdkError (Option SignatureVoucherAccount) := do
  match ← readSignatureVoucherUnverified data with
  | none => return none
  | some voucher =>
    let signature ← voucherSignatureVerified P voucher expected verifySignature
    return some { voucher with signature }

variable (toBase58 : Bytes → String) (programId : Bytes) (cryptography : AnswerCryptography)
  (params : SignatureWait)

/-- The check of a voucher's signature under the dWallet's output and the scheme asked for. -/
def SignatureWait.verify (scheme : DWalletSignatureScheme) (signature : Bytes) :
    Except String Unit :=
  verifySignatureWithScheme P cryptography params.dWallet.curve scheme.number params.message
    params.metadata params.dWallet.networkPublicOutput signature

/-- What the bytes of the voucher's account settle: nothing while it is pending. -/
def signatureIn (scheme : DWalletSignatureScheme) (data : Bytes) :
    Except SdkError (Option Bytes) := do
  let dwallet ← fromPackage (dwalletPda P programId params.dWallet.curve
    params.dWallet.publicKey params.dWallet.importedSessionIdentifier)
  match ← readSignatureVoucherVerified P data (params.expected dwallet.address scheme)
      fun signature => fromPackage (params.verify P cryptography scheme signature) with
  | none => return none
  | some voucher =>
    if voucher.status = signatureVoucherPending then return none
    let voucherName := toBase58 params.signatureVoucher
    ensure (voucher.status = signatureVoucherSigned) (SdkError.error
      s!"the signature voucher {voucherName} ended with status {voucher.status} and no signature")
    return some voucher.signature

def readSignature (scheme : DWalletSignatureScheme) : SolanaEff (Option Bytes) := do
  match ← getAccount .first params.signatureVoucher with
  | none => return none
  | some account => signatureIn P toBase58 programId cryptography params scheme account.data

def waitForSignature (options : WaitOptions) (fuel : ℕ) : SolanaEff Bytes := do
  let scheme ← fromPackage params.scheme
  let voucherName := toBase58 params.signatureVoucher
  poll (readSignature P toBase58 programId cryptography params scheme)
    s!"a signature in the voucher {voucherName}" options fuel

end Read

/-! ## What a wait returns -/

/-- A voucher of the dWallet, the message, the metadata and the scheme expected. -/
structure VoucherFor (P : Primitives) (expected : ExpectedVoucherSignature)
    (voucher : SignatureVoucherAccount) : Prop where
  dwallet : voucher.dwallet = expected.dwalletAddress
  messageDigest : voucher.messageDigest =
    (approvalMessageDigests P expected.message expected.messageMetadata).1
  messageMetadataDigest : voucher.messageMetadataDigest =
    (approvalMessageDigests P expected.message expected.messageMetadata).2
  signatureScheme : voucher.signatureScheme = expected.signatureScheme

/-- The bytes are a voucher of what is waited for, marked signed, that stores the signature. -/
def StoresSignature (P : Primitives) (programId : Bytes) (params : SignatureWait)
    (scheme : DWalletSignatureScheme) (data signature : Bytes) : Prop :=
  ∃ dwallet voucher,
    dwalletPda P programId params.dWallet.curve params.dWallet.publicKey
      params.dWallet.importedSessionIdentifier = .ok dwallet ∧
    readSignatureVoucherUnverified data = .ok (some voucher) ∧
    VoucherFor P (params.expected dwallet.address scheme) voucher ∧
    voucher.status = signatureVoucherSigned ∧ voucher.signature = signature

/-- The signature verifies over the message under the dWallet's public output and the scheme
asked for. -/
def SignedAsAsked (P : Primitives) (cryptography : AnswerCryptography) (params : SignatureWait)
    (signature : Bytes) : Prop :=
  ∃ scheme, params.scheme = .ok scheme ∧ params.verify P cryptography scheme signature = .ok ()

/-- The account is a voucher of what is waited for, marked signed, whose signature is empty. -/
def SignedButEmpty (P : Primitives) (programId : Bytes) (params : SignatureWait)
    (account : ReadAccount) : Prop :=
  ∃ scheme, params.scheme = .ok scheme ∧ StoresSignature P programId params scheme account.data []

/-- The accounts that a run read at an address are all in the set. -/
def ServedFrom (accounts : Set ReadAccount) (address : Bytes)
    (tr : List (Event solanaInterface)) : Prop :=
  ∀ account, ⟨.getAccount .first address, .ok (some account)⟩ ∈ tr → account ∈ accounts

section Verified

variable {P : Primitives} {toBase58 : Bytes → String} {programId : Bytes}
  {cryptography : AnswerCryptography} {params : SignatureWait} {scheme : DWalletSignatureScheme}
  {data signature : Bytes} {tr : List (Event solanaInterface)}

theorem voucherSignatureVerified_iff {voucher : SignatureVoucherAccount}
    {expected : ExpectedVoucherSignature} {verifySignature : Bytes → Except SdkError Unit} :
    voucherSignatureVerified P voucher expected verifySignature = .ok signature ↔
      VoucherFor P expected voucher ∧ voucher.signature = signature ∧
        (signature = [] ∨ verifySignature signature = .ok ()) := by
  unfold voucherSignatureVerified
  rw [ensure_bind_iff, ensure_bind_iff, ensure_bind_iff, ensure_bind_iff]
  constructor
  · rintro ⟨hdwallet, hmessage, hmetadata, hscheme, h⟩
    refine ⟨⟨hdwallet, hmessage, hmetadata, hscheme⟩, ?_⟩
    split_ifs at h with hempty
    · obtain rfl := Except.ok.inj h
      exact ⟨rfl, .inl (List.length_eq_zero_iff.mp hempty)⟩
    · obtain ⟨_, hverified, h⟩ := bind_ok h
      obtain rfl := Except.ok.inj h
      exact ⟨rfl, .inr hverified⟩
  · rintro ⟨hfor, rfl, hverified⟩
    refine ⟨hfor.dwallet, hfor.messageDigest, hfor.messageMetadataDigest, hfor.signatureScheme, ?_⟩
    rcases hverified with hempty | hverified
    · rw [if_pos (List.length_eq_zero_iff.mpr hempty)]
      rfl
    · rw [hverified]
      split_ifs <;> rfl

theorem readSignatureVoucherVerified_iff {voucher : SignatureVoucherAccount}
    {expected : ExpectedVoucherSignature} {verifySignature : Bytes → Except SdkError Unit} :
    readSignatureVoucherVerified P data expected verifySignature = .ok (some voucher) ↔
      readSignatureVoucherUnverified data = .ok (some voucher) ∧ VoucherFor P expected voucher ∧
        (voucher.signature = [] ∨ verifySignature voucher.signature = .ok ()) := by
  constructor
  · intro h
    obtain ⟨read, hread, h⟩ := bind_ok h
    cases read with
    | none => cases h
    | some found =>
      obtain ⟨stored, hstored, h⟩ := bind_ok h
      cases h
      obtain ⟨hfor, rfl, hverified⟩ := voucherSignatureVerified_iff.mp hstored
      exact ⟨hread, hfor, hverified⟩
  · rintro ⟨hread, hfor, hverified⟩
    have hstored := voucherSignatureVerified_iff.mpr ⟨hfor, rfl, hverified⟩
    exact bind_ok_iff.mpr ⟨some voucher, hread, bind_ok_iff.mpr ⟨_, hstored, rfl⟩⟩

/-- A read settles on a signature exactly when the voucher is marked signed and stores it, and
it is empty or verifies. -/
theorem signatureIn_iff :
    signatureIn P toBase58 programId cryptography params scheme data = .ok (some signature) ↔
      StoresSignature P programId params scheme data signature ∧
        (signature = [] ∨ params.verify P cryptography scheme signature = .ok ()) := by
  constructor
  · intro h
    obtain ⟨dwallet, hdwallet, h⟩ := bind_ok h
    obtain ⟨found, hfound, h⟩ := bind_ok h
    cases found with
    | none => cases h
    | some voucher =>
      obtain ⟨hread, hfor, hverified⟩ := readSignatureVoucherVerified_iff.mp hfound
      simp only at h
      split_ifs at h with hpending
      · cases h
      obtain ⟨hsigned, h⟩ := ensure_bind_iff.mp h
      cases h
      exact ⟨⟨dwallet, voucher, fromPackage_ok hdwallet, hread, hfor, hsigned, rfl⟩,
        hverified.imp_right fromPackage_ok⟩
  · rintro ⟨⟨dwallet, voucher, hdwallet, hread, hfor, hsigned, rfl⟩, hverified⟩
    have hfound : readSignatureVoucherVerified P data (params.expected dwallet.address scheme)
        (fun signature => fromPackage (params.verify P cryptography scheme signature)) =
          .ok (some voucher) := by
      refine readSignatureVoucherVerified_iff.mpr ⟨hread, hfor, ?_⟩
      exact hverified.imp_right fun h => (by simp only [h, fromPackage])
    have hpending : voucher.status ≠ signatureVoucherPending := by
      rw [hsigned]
      decide
    refine bind_ok_iff.mpr ⟨dwallet, (by rw [hdwallet]; rfl), ?_⟩
    refine bind_ok_iff.mpr ⟨some voucher, hfound, ?_⟩
    simp only
    rw [if_neg hpending]
    exact ensure_bind_iff.mpr ⟨hsigned, rfl⟩

theorem readSignature_gives_iff :
    Gives (readSignature P toBase58 programId cryptography params scheme) tr (some signature) ↔
      ∃ account, tr = [⟨.getAccount .first params.signatureVoucher, .ok (some account)⟩] ∧
        StoresSignature P programId params scheme account.data signature ∧
        (signature = [] ∨ params.verify P cryptography scheme signature = .ok ()) := by
  constructor
  · intro h
    obtain ⟨tr₁, tr₂, found, rfl, hread, hrest⟩ := gives_bind_iff.mp h
    obtain rfl := gives_getAccount_iff.mp hread
    cases found with
    | none => cases (gives_pure_iff.mp hrest).2
    | some account =>
      obtain ⟨rfl, hsettled⟩ := gives_lift_iff.mp hrest
      obtain ⟨hstores, hverified⟩ := signatureIn_iff.mp hsettled
      exact ⟨account, rfl, hstores, hverified⟩
  · rintro ⟨account, rfl, hstores, hverified⟩
    refine gives_bind_iff.mpr ⟨_, [], some account, rfl, gives_getAccount_iff.mpr rfl, ?_⟩
    exact gives_lift_iff.mpr ⟨rfl, signatureIn_iff.mpr ⟨hstores, hverified⟩⟩

/-- A signature returned was stored in an account that the wait read, and is empty or
verifies. -/
theorem waitForSignature_gives {options : WaitOptions} {fuel : ℕ}
    (h : Gives (waitForSignature P toBase58 programId cryptography params options fuel) tr
      signature) :
    ∃ scheme account, params.scheme = .ok scheme ∧
      ⟨.getAccount .first params.signatureVoucher, .ok (some account)⟩ ∈ tr ∧
      StoresSignature P programId params scheme account.data signature ∧
      (signature = [] ∨ params.verify P cryptography scheme signature = .ok ()) := by
  obtain ⟨scheme, hscheme, h⟩ := gives_lift_bind_iff.mp h
  obtain ⟨front, last, rfl, hlast⟩ := gives_poll h
  obtain ⟨account, rfl, hstores, hverified⟩ := readSignature_gives_iff.mp hlast
  exact ⟨scheme, account, fromPackage_ok hscheme, by simp, hstores, hverified⟩

/-- The wait returns an empty signature when its first read finds one in a voucher marked
signed. -/
theorem waitForSignature_empty {account : ReadAccount} (options : WaitOptions) (now : ℤ)
    (h : SignedButEmpty P programId params account) :
    Gives (waitForSignature P toBase58 programId cryptography params options 1)
      [⟨.now, now⟩, ⟨.getAccount .first params.signatureVoucher, .ok (some account)⟩] [] := by
  obtain ⟨scheme, hscheme, hstores⟩ := h
  refine gives_lift_bind_iff.mpr ⟨scheme, by rw [hscheme]; rfl, ?_⟩
  exact poll_first now (readSignature_gives_iff.mpr ⟨account, rfl, hstores, .inl rfl⟩)

/-- Over the accounts that the reads may serve, every signature returned verifies exactly when
the empty one does or none of the accounts is a voucher marked signed without a signature. -/
theorem waited_signatures_verify_iff (accounts : Set ReadAccount) :
    (∀ options fuel tr signature, ServedFrom accounts params.signatureVoucher tr →
      Gives (waitForSignature P toBase58 programId cryptography params options fuel) tr
        signature → SignedAsAsked P cryptography params signature) ↔
      SignedAsAsked P cryptography params [] ∨
        ∀ account ∈ accounts, ¬SignedButEmpty P programId params account := by
  constructor
  · intro h
    by_cases hnone : ∀ account ∈ accounts, ¬SignedButEmpty P programId params account
    · exact .inr hnone
    · obtain ⟨account, hmem, hempty⟩ : ∃ account ∈ accounts,
          SignedButEmpty P programId params account := by
        simpa using hnone
      -- the run with one read, which is of this account
      refine .inl (h {} 1 _ [] ?_ (waitForSignature_empty {} 0 hempty))
      intro served hserved
      rcases List.mem_cons.mp hserved with hclock | hread
      · cases hclock
      · cases List.mem_singleton.mp hread
        exact hmem
  · intro h options fuel tr signature hserved hgives
    obtain ⟨scheme, account, hscheme, hread, hstores, hverified⟩ := waitForSignature_gives hgives
    rcases hverified with rfl | hverified
    · rcases h with hempty | hnone
      · exact hempty
      · exact absurd ⟨scheme, hscheme, hstores⟩ (hnone account (hserved account hread))
    · exact ⟨scheme, hscheme, hverified⟩

end Verified

/-! ### A voucher marked signed without a signature -/

def sampleSigningDWallet : DWallet where
  curve := 2
  publicKey := List.replicate 32 1
  networkPublicOutput := List.replicate 32 2
  userSecretKeyShare := List.replicate 32 3
  attestation := {
    attestationData := []
    networkSignature := List.replicate 64 4
    signerNoaPublicKey := List.replicate 32 5
    networkPubkey := List.replicate 32 6 }
  networkKeyId := List.replicate 32 6
  importedSessionIdentifier := none
  share := .publicShare

def sampleWait : SignatureWait where
  signatureVoucher := List.replicate 32 8
  dWallet := sampleSigningDWallet
  message := [9]
  hashScheme := .sha512
  signatureAlgorithm := .eddsa
  messageMetadata := none

def sampleWaitProgram : Bytes := List.replicate 32 10

/-- The account of a voucher for the message, with a status and no signature. -/
def sampleVoucherAccount (status : UInt8) : ReadAccount where
  owner := sampleWaitProgram
  data :=
    [108, 1] ++ (dwalletPda samplePrimitives sampleWaitProgram 2 (List.replicate 32 1)
      none).toOption.elim [] (·.address) ++ (approvalMessageDigests samplePrimitives [9] []).1 ++
    List.replicate 32 0 ++ List.replicate 32 11 ++ [5, 0] ++ List.replicate 41 0 ++ [status] ++
    List.replicate 130 0

/-- A cryptography that takes no signature at all. -/
def strictCryptography : AnswerCryptography where
  publicKeyFromDWalletOutput _ publicOutput := .ok publicOutput
  userAndNetworkDKGOutputMatch _ _ _ := .ok true
  verifySignature _ _ _ _ _ _ _ := .error "the signature does not verify"
  verifyEcdsaBlake2b256Signature _ _ _ _ _ := .error "the signature does not verify"

theorem scheme_sampleWait : sampleWait.scheme = .ok .eddsaSha512 := by decide

theorem sampleVoucherAccount_settles : signatureIn samplePrimitives toHex sampleWaitProgram
    strictCryptography sampleWait .eddsaSha512 (sampleVoucherAccount 1).data = .ok (some []) := by
  decide +kernel

/-- The empty signature of a voucher marked signed is returned, and does not verify. -/
theorem empty_signature_returned : ∃ tr,
    Gives (waitForSignature samplePrimitives toHex sampleWaitProgram strictCryptography
      sampleWait {} 1) tr [] ∧
    ¬SignedAsAsked samplePrimitives strictCryptography sampleWait [] := by
  have hstores := (signatureIn_iff.mp sampleVoucherAccount_settles).1
  refine ⟨_, waitForSignature_empty {} 0 ⟨.eddsaSha512, scheme_sampleWait, hstores⟩, ?_⟩
  rintro ⟨scheme, hscheme, hverified⟩
  obtain rfl := Except.ok.inj (scheme_sampleWait.symm.trans hscheme)
  have hrefused : sampleWait.verify samplePrimitives strictCryptography .eddsaSha512 [] =
      .error "the signature does not verify" := by decide +kernel
  cases hrefused.symm.trans hverified

end Ika.Solana
