import IkaSdk.Core.Common.PresignPool
import IkaSdk.Core.Grpc.SignRequestSafety
import IkaSdk.Lib.Entries

/-! A sign that takes its own presigns: a presign that expires before its sign is sent is
replaced, so many times, and no session that may have run is followed by another. -/

namespace Ika

open Wire Interaction Eff

variable {H : Type}

def ownPresignAttempts : ℕ := 3

/-- The schemes whose sign on an imported-key dWallet takes a presign made for that dWallet. -/
def ecdsaSchemes : List DWalletSignatureScheme :=
  [.ecdsaKeccak256, .ecdsaSha256, .ecdsaDoubleSha256, .ecdsaBlake2b256]

/-! ## The calls -/

/-- What a sign or a future sign sends, besides its dWallet, voucher and presign. -/
structure SignTerms where
  message : Bytes
  messageMetadata : Option Bytes
  signatureScheme : DWalletSignatureScheme
deriving DecidableEq, Repr

/-- What a sign, or step 1 of a future sign, is once the voucher was read and the ownership of
the dWallet was checked. -/
structure SignParams where
  dWallet : DWallet
  usable : DWalletUsableOf
  terms : SignTerms
  voucher : Bytes
deriving DecidableEq, Repr

def SignParams.args (params : SignParams) (presign : Presign) : SignArgs where
  dwallet := params.dWallet
  usable := params.usable
  presign := presign
  message := params.terms.message
  messageMetadata := params.terms.messageMetadata
  signatureScheme := params.terms.signatureScheme.number
  voucher := params.voucher

section Calls

variable (P : Primitives) (connection : Connection) (issued : List IssuedState)
  (requester : Requester)

/-- Submit a sign, and check the signature of its answer. -/
def signatureOf (args : SignArgs) (fuel : ℕ) : EngineEff Unit H Bytes := do
  let submission ← sdk (requestSignature P connection issued requester args)
  let answered ← submission.run P connection.toNetwork requester fuel
  sdk (signatureFromResponseVerified P answered.1 connection.cryptography.toAnswerCryptography
    args.dwallet.curve args.signatureScheme args.message (args.messageMetadata.getD [])
    args.dwallet.networkPublicOutput)

/-- What step 1 of a future sign gives, of an answer that is checked here. -/
def partialSignatureOfAnswer (args : SignArgs) (response : TransactionResponseData)
    (sent : Sent Unit) : Except SdkError PartialSignature := do
  let scheme ← signatureSchemeNumber args.signatureScheme
  let attested ← verifyFutureSignAnswer P response connection.trusted {
    sessionIdentifier := sent.sessionIdentifier
    intendedChainSender := requester.intendedChainSender
    dwalletAttestation := args.dwallet.attestation
    presignAttestation := args.presign.attestation
    message := args.message
    messageMetadata := args.messageMetadata.getD []
    signatureScheme := scheme
    futureSignatureVoucher := args.voucher }
  let attestation ← answeredAttestation response
  return {
    partialUserSignatureAttestation := attestation
    dwalletAttestation := args.dwallet.attestation
    message := args.message
    messageMetadata := args.messageMetadata.getD []
    futureSignatureVoucher := args.voucher
    attested := attested }

/-- Submit step 1 of a future sign, and check its answer. -/
def partialSignatureOf (args : SignArgs) (fuel : ℕ) : EngineEff Unit H PartialSignature := do
  let submission ← requestFutureSignature P connection issued requester args
  let answered ← submission.run P connection.toNetwork requester fuel
  sdk (partialSignatureOfAnswer P connection requester args answered.1 answered.2)

/-- A presign made for one imported dWallet. -/
def requestBoundPresign (dwallet : DWallet) (signatureScheme fuel : ℕ) :
    EngineEff Unit H Presign := do
  sdk (requireServedDWallet connection.toNetwork dwallet)
  let scheme ← sdk (signatureSchemeNumber signatureScheme)
  let algorithm ← sdk (algorithmOf connection scheme)
  let request := DWalletRequest.presignForDWallet {
    networkKeyId := dwallet.networkKeyId
    dwalletPublicKey := dwallet.publicKey
    dwalletAttestation := dwallet.attestation
    curve := connection.curveInput
    signatureAlgorithm := algorithm }
  presign P connection requester request algorithm (some dwallet.publicKey) fuel

/-- The presign that a sign takes: an imported-key dWallet's ECDSA sign takes one made for the
dWallet, and every other sign a pool presign. -/
def takePresign (poolWaitMs : ℤ) (dWallet : DWallet) (terms : SignTerms) (fuel waits : ℕ) :
    EngineEff Unit H Presign := do
  let imported ← sdk (isImported P dWallet)
  if imported = true ∧ terms.signatureScheme ∈ ecdsaSchemes then
    requestBoundPresign P connection requester dWallet terms.signatureScheme.number fuel
  else
    requestPoolPresign P connection requester terms.signatureScheme.number (some poolWaitMs) fuel
      waits

end Calls

/-- Whether a call takes another presign after an error, with so many attempts left. -/
def replacesPresign (left : ℕ) : EngineError Unit → EngineEff Unit H Bool
  | .presignExpiredWithTheEpoch .. => return decide (0 < left)
  | _ => return false

/-- Run the step with the presign given, or else with a presign that the call takes. -/
def withPresign {α : Type} (take : EngineEff Unit H Presign) (given : Option Presign)
    (step : Presign → EngineEff Unit H α) : EngineEff Unit H α :=
  match given with
  | some presign => step presign
  | none => retry replacesPresign (take >>= step) ownPresignAttempts

section Clients

variable (P : Primitives) (connection : Connection) (issued : List IssuedState)
  (requester : Requester) (poolWaitMs : ℤ)

/-- A sign, from its ownership check on. -/
def requestSign (params : SignParams) (given : Option Presign) (fuel waits : ℕ) :
    EngineEff Unit H Bytes :=
  withPresign
    (takePresign P connection requester poolWaitMs params.dWallet params.terms fuel waits) given
    fun presign => signatureOf P connection issued requester (params.args presign) fuel

/-- Step 1 of a future sign, from its ownership check on. -/
def requestFutureSign (params : SignParams) (given : Option Presign) (fuel waits : ℕ) :
    EngineEff Unit H PartialSignature :=
  withPresign
    (takePresign P connection requester poolWaitMs params.dWallet params.terms fuel waits) given
    fun presign => partialSignatureOf P connection issued requester (params.args presign) fuel

end Clients

/-! ## One sign -/

/-- A sign, or step 1 of a future sign. -/
def DWalletRequest.isSign : DWalletRequest → Bool
  | sign _ => true
  | importedKeySign _ => true
  | futureSign _ => true
  | _ => false

/-- The request puts the presign to use. -/
def DWalletRequest.Carries (presign : Presign) : DWalletRequest → Prop
  | sign fields => fields.presignSessionIdentifier = presign.reference
  | importedKeySign fields => fields.presignSessionIdentifier = presign.reference
  | futureSign fields => fields.presignAttestation = presign.attestation
  | _ => False

theorem DWalletRequest.Carries.isSign {presign : Presign} {request : DWalletRequest}
    (h : request.Carries presign) : request.isSign = true := by
  cases request <;> first | rfl | cases h

/-- All that was sent is one request: it names the epoch of the presign and carries it. -/
def SendsOneSign (presign : Presign) (tr : List (EngineEvent Unit H)) : Prop :=
  ∀ c ∈ copies tr, (∀ c' ∈ copies tr, c' = c) ∧ c.epoch = some presign.epoch ∧
    ∃ data, c.data = some data ∧ data.request.Carries presign

/-- Nothing was sent, or after all that was sent, under one session, its lookup answered that
the session never ran. -/
def NeverRan (P : Primitives) (network : Network) (requester : Requester)
    (kind : PendingRequestKind) (epoch : ℕ) (tr : List (EngineEvent Unit H)) : Prop :=
  copies tr = [] ∨ ∃ session before found after, tr = before ++ found ++ after ∧
    copies tr = copies before ∧ (∀ c ∈ copies tr, c.session P = some session) ∧
    NotRunLookup P network (pendingRequest network requester ⟨epoch, session, ()⟩ kind) found

section Signs

variable {P : Primitives} {connection : Connection} {issued : List IssuedState}
  {network : Network} {requester : Requester} {fuel : ℕ} {tr : List (EngineEvent Unit H)}

variable {request : DWalletRequest} {kind : PendingRequestKind} {epoch : ℕ}
  {sign : SignedRequestData → EngineEff Unit H SignedRequest}

/-- A sign that is submitted for the epoch of its presign. -/
def signSubmission (request : DWalletRequest) (kind : PendingRequestKind) (epoch : ℕ)
    (sign : SignedRequestData → EngineEff Unit H SignedRequest) : Submission Unit H :=
  { submitRequest request kind with presign := some (epoch, sign) }

theorem sendsData_signAndSend (hsign : Signs requester.keypair.publicKey sign)
    (h : Begins (signAndSend P network requester epoch sign
      (fun _ _ => pure (BuiltRequest.mk request ())) fuel) tr) :
    ∃ preimage, SendsData requester.keypair.publicKey
      (signedData network requester epoch preimage request) tr := by
  have hfresh : ∀ preimage, Quiet [(⟨.freshPreimage, preimage⟩ : EngineEvent Unit H)] :=
    fun preimage => steady_quiet.still .freshPreimage trivial preimage
  rcases begins_signAndSend hsign h with
    rfl | ⟨preimage, tr', rfl, hbuild | ⟨tr₁, tr₂, built, rfl, hbuilt, hsends⟩⟩
  · exact ⟨[], .inl appendable_quiet.nil⟩
  · obtain rfl := begins_pure_iff.mp hbuild
    exact ⟨preimage, .inl (hfresh preimage)⟩
  · obtain ⟨rfl, rfl⟩ := gives_pure_iff.mp hbuilt
    exact ⟨preimage, hsends.prepend (hfresh preimage)⟩

theorem SendsData.append {publicKey : Bytes} {data : SignedRequestData}
    {tr₁ tr₂ : List (EngineEvent Unit H)} (h : SendsData publicKey data tr₁) (hquiet : Quiet tr₂) :
    SendsData publicKey data (tr₁ ++ tr₂) := by
  rcases h with hnothing | ⟨signed, hsigned, hsends⟩
  · exact .inl (appendable_quiet.append hnothing hquiet)
  · exact .inr ⟨signed, hsigned,
      (appendable_sendsOnly signed).append hsends (hquiet.sendsOnly signed)⟩

/-- What is left to do with a presign whose session never ran. -/
def expired (epoch : ℕ) : EngineEff Unit H (TransactionResponseData × Sent Unit) := do
  throw (.presignExpiredWithTheEpoch epoch (← perform .epoch))

theorem quiet_expired : Always Quiet (expired (H := H) epoch) :=
  always_bind appendable_quiet (always_perform steady_quiet trivial) fun _ =>
    always_throw appendable_quiet _

theorem quiet_afterClose (submission : Submission Unit H) (e : EngineError Unit) :
    Always Quiet (afterClose P network requester submission.describeRun fuel
      (some (expired epoch)) e) := by
  cases e with
  | closedBeforeAnswer sent refusal =>
    intro tr h
    rcases begins_afterClose (describes_describeRun submission) h with
      hquiet | ⟨next, before, found, rest, hnext, rfl, hlooked, hrest⟩
    · exact hquiet
    · obtain rfl := Option.some.inj hnext
      obtain ⟨_, _, _, -, -, hfound⟩ := hlooked.notRun
      have hbefore := appendable_quiet.append hlooked.quiet hfound.quiet
      exact appendable_quiet.append hbefore (quiet_expired rest hrest)
  | _ => exact always_throw appendable_quiet _

/-- However far the submission of a sign has come, it sent copies of one request at most. -/
theorem sendsData_signSubmission (hsign : Signs requester.keypair.publicKey sign)
    (h : Begins ((signSubmission request kind epoch sign).run P network requester fuel) tr) :
    ∃ preimage, SendsData requester.keypair.publicKey
      (signedData network requester epoch preimage request) tr := by
  rcases begins_bind h with hread | ⟨tr₁, tr₂, chainEpoch, rfl, hread, hrest⟩
  · exact ⟨[], .inl (always_readChainEpoch steady_quiet tr hread)⟩
  have hquiet : Quiet tr₁ := always_readChainEpoch steady_quiet tr₁ hread.begins
  split_ifs at hrest with hpast
  · obtain rfl := begins_throw_iff.mp hrest
    rw [List.append_nil]
    exact ⟨[], .inl hquiet⟩
  · rcases begins_tryCatch hrest with hsend | ⟨tr₃, tr₄, e, rfl, hsend, hafter⟩
    · obtain ⟨preimage, hsends⟩ := sendsData_signAndSend hsign hsend
      exact ⟨preimage, hsends.prepend hquiet⟩
    · obtain ⟨preimage, hsends⟩ := sendsData_signAndSend hsign hsend.begins
      have hlooked : Quiet tr₄ :=
        quiet_afterClose (signSubmission request kind epoch sign) e tr₄ hafter
      exact ⟨preimage, (hsends.append hlooked).prepend hquiet⟩

/-- The presign expired with its epoch only where nothing was sent, or where the session that
was sent never ran. -/
theorem neverRan_signSubmission (hsign : Signs requester.keypair.publicKey sign)
    {presignEpoch chainEpoch : ℕ}
    (h : Throws ((signSubmission request kind epoch sign).run P network requester fuel) tr
      (.presignExpiredWithTheEpoch presignEpoch chainEpoch)) :
    NeverRan P network requester kind epoch tr := by
  rcases throws_bind_iff.mp h with hread | ⟨tr₁, tr₂, shown, rfl, hread, hrest⟩
  · obtain ⟨error, herror⟩ := (ends_readChainEpoch hread.ends).2 _ rfl
    cases herror
  have hquiet : Quiet tr₁ := always_readChainEpoch steady_quiet tr₁ hread.begins
  split_ifs at hrest with hpast
  · obtain ⟨rfl, -⟩ := throws_throw_iff.mp hrest
    rw [List.append_nil]
    exact .inl hquiet.2
  obtain ⟨tr₃, tr₄, e, rfl, hsend, hafter⟩ := throws_tryCatch_iff.mp hrest
  have hbuild : ∀ session, ThrowsOnly IsSdk
      ((signSubmission (H := H) request kind epoch sign).build epoch session) :=
    fun session => throwsOnly_pure _
  -- What the sending throws is never the expiry itself.
  rcases throws_signAndSend hsign hbuild hsend with
    ⟨error, rfl⟩ | ⟨preimage, tr₅, tr₆, built, rfl, hbuilt, hsends, ⟨error, rfl⟩ | ⟨refusal, rfl⟩⟩
  · cases (throws_throw_iff.mp hafter).2
  · cases (throws_throw_iff.mp hafter).2
  obtain ⟨rfl, rfl⟩ := gives_pure_iff.mp hbuilt
  rcases throws_afterClose (describes_describeRun (signSubmission request kind epoch sign)) hafter
    with hclose | ⟨next, before, found, rest, hnext, rfl, hlooked, hexpired⟩
  · rcases hclose with ⟨error, herror⟩ | ⟨_, _, _, hran⟩ | ⟨_, _, _, _, _, hunknown⟩
    · cases herror
    · cases hran
    · cases hunknown
  obtain rfl := Option.some.inj hnext
  obtain ⟨_, _, kind', -, hkind, hfound⟩ := hlooked.notRun
  obtain rfl : kind = kind' := Except.ok.inj (gives_sdk_iff.mp hkind).2
  have hnothing : copies (found ++ rest) = [] := by
    rw [copies_append, hfound.quiet.2, (quiet_expired rest hexpired.begins).2]
    rfl
  have hsent : copies (tr₁ ++ ⟨.freshPreimage, preimage⟩ :: tr₆ ++ before) = copies tr₆ := by
    rw [copies_append, copies_append, hquiet.2, hlooked.quiet.2, List.append_nil]
    rfl
  have hwhole : copies (tr₁ ++ (⟨.freshPreimage, preimage⟩ :: ([] ++ tr₆) ++
      (before ++ found ++ rest))) = copies tr₆ := by
    rw [← hsent, ← List.append_nil (copies (_ ++ before)), ← hnothing, ← copies_append]
    simp
  refine .inr ⟨_, tr₁ ++ ⟨.freshPreimage, preimage⟩ :: tr₆ ++ before, found, rest, by simp, ?_, ?_,
    hfound⟩
  · rw [hwhole, hsent]
  · rw [hwhole]
    intro c hc
    rcases hsends with hnone | ⟨signed, hsigned, hsends⟩
    · rw [hnone.2] at hc
      cases hc
    · rw [hsends.2 c hc, hsigned.session_eq]
      rfl

/-! ## The steps -/

/-- What a step does with a presign: it sends one request at most, and tells that the presign
expired only of a session that never ran. -/
structure SignStep {α : Type} (P : Primitives) (network : Network) (requester : Requester)
    (kind : PendingRequestKind) (step : Presign → EngineEff Unit H α) : Prop where
  sends : ∀ presign tr, Begins (step presign) tr → SendsOneSign presign tr
  neverRan : ∀ presign tr presignEpoch chainEpoch,
    Throws (step presign) tr (.presignExpiredWithTheEpoch presignEpoch chainEpoch) →
    NeverRan P network requester kind presign.epoch tr

theorem SendsData.sendsOneSign {publicKey : Bytes} {data : SignedRequestData} {presign : Presign}
    (h : SendsData publicKey data tr) (hepoch : data.epoch = presign.epoch)
    (hcarries : data.request.Carries presign) : SendsOneSign presign tr := by
  intro c hc
  rcases h with hquiet | ⟨signed, hsigned, hsends⟩
  · rw [hquiet.2] at hc
    cases hc
  · obtain rfl := hsends.2 c hc
    refine ⟨hsends.2, ?_, data, hsigned.data_eq, hcarries⟩
    rw [hsigned.epoch_eq, hepoch]

theorem Quiet.sendsOneSign {presign : Presign} (h : Quiet tr) : SendsOneSign presign tr := by
  intro c hc
  rw [h.2] at hc
  cases hc

/-- A submission of a sign, before which nothing is sent and after which an answer is checked. -/
theorem sendsOneSign_submitted {α : Type} {presign : Presign}
    {make : EngineEff Unit H (Submission Unit H)}
    {check : TransactionResponseData × Sent Unit → Except SdkError α}
    (hmake : Always Quiet make)
    (hmade : ∀ tr submission, Gives make tr submission → ∃ request sign,
      submission = signSubmission request kind presign.epoch sign ∧ request.Carries presign ∧
        Signs requester.keypair.publicKey sign)
    (h : Begins (do
      let submission ← make
      let answered ← submission.run P network requester fuel
      sdk (check answered)) tr) : SendsOneSign presign tr := by
  rcases begins_bind h with hfirst | ⟨tr₁, tr₂, submission, rfl, hfirst, hrest⟩
  · exact (hmake tr hfirst).sendsOneSign
  obtain ⟨request, sign, rfl, hcarries, hsign⟩ := hmade tr₁ submission hfirst
  have hquiet := hmake tr₁ hfirst.begins
  rcases begins_bind hrest with hrun | ⟨tr₃, tr₄, answered, rfl, hrun, hcheck⟩
  · obtain ⟨preimage, hsends⟩ := sendsData_signSubmission hsign hrun
    exact (hsends.prepend hquiet).sendsOneSign rfl hcarries
  · obtain ⟨preimage, hsends⟩ := sendsData_signSubmission hsign hrun.begins
    have hlast : Quiet tr₄ := always_sdk appendable_quiet _ tr₄ hcheck
    exact ((hsends.append hlast).prepend hquiet).sendsOneSign rfl hcarries

theorem NeverRan.after {tr' : List (EngineEvent Unit H)} (hquiet : copies tr = [])
    (h : NeverRan P network requester kind epoch tr') :
    NeverRan P network requester kind epoch (tr ++ tr') := by
  have hcopies : copies (tr ++ tr') = copies tr' := by
    rw [copies_append, hquiet, List.nil_append]
  rcases h with hnone | ⟨session, before, found, after, rfl, hsent, hsession, hfound⟩
  · exact .inl (hcopies.trans hnone)
  · refine .inr ⟨session, tr ++ before, found, after, by simp, ?_, ?_, hfound⟩
    · rw [hcopies, hsent, copies_append, hquiet, List.nil_append]
    · rwa [hcopies]

theorem neverRan_submitted {α : Type} {presign : Presign} {presignEpoch chainEpoch : ℕ}
    {make : EngineEff Unit H (Submission Unit H)}
    {check : TransactionResponseData × Sent Unit → Except SdkError α}
    (hmake : Always Quiet make) (hsdk : ThrowsOnly IsSdk make)
    (hmade : ∀ tr submission, Gives make tr submission → ∃ request sign,
      submission = signSubmission request kind presign.epoch sign ∧ request.Carries presign ∧
        Signs requester.keypair.publicKey sign)
    (h : Throws (do
      let submission ← make
      let answered ← submission.run P network requester fuel
      sdk (check answered)) tr (.presignExpiredWithTheEpoch presignEpoch chainEpoch)) :
    NeverRan P network requester kind presign.epoch tr := by
  rcases throws_bind_iff.mp h with hfirst | ⟨tr₁, tr₂, submission, rfl, hfirst, hrest⟩
  · obtain ⟨error, herror⟩ := hsdk tr _ hfirst
    cases herror
  obtain ⟨request, sign, rfl, -, hsign⟩ := hmade tr₁ submission hfirst
  rcases throws_bind_iff.mp hrest with hrun | ⟨tr₃, tr₄, answered, rfl, -, hcheck⟩
  · exact (neverRan_signSubmission hsign hrun).after (hmake tr₁ hfirst.begins).2
  · obtain ⟨error, herror⟩ := throwsOnly_sdk _ tr₄ _ hcheck
    cases herror

theorem requestSignature_carries {args : SignArgs} {submission : Submission Unit H}
    (h : requestSignature P connection issued requester args = .ok submission) :
    ∃ request sign, submission =
        signSubmission request (.sign args.voucher) args.presign.epoch sign ∧
      request.Carries args.presign ∧ Signs requester.keypair.publicKey sign := by
  obtain ⟨scheme, -, h⟩ := bind_ok h
  obtain ⟨_, -, h⟩ := bind_ok h
  obtain ⟨_, -, h⟩ := bind_ok h
  obtain ⟨_, -, h⟩ := bind_ok h
  obtain ⟨userSignature, -, h⟩ := bind_ok h
  obtain ⟨imported, -, h⟩ := bind_ok h
  refine ⟨_, _, (Except.ok.inj h).symm, ?_, signs_signFor (signs_signWithUsable args.usable)⟩
  cases imported with
  | true => exact rfl
  | false => exact rfl

theorem signStep_signatureOf (params : SignParams) :
    SignStep P connection.toNetwork requester (.sign params.voucher) fun presign =>
      signatureOf (H := H) P connection issued requester (params.args presign) fuel := by
  have hmade : ∀ presign (tr : List (EngineEvent Unit H)) (submission : Submission Unit H),
      Gives (sdk (requestSignature P connection issued requester (params.args presign))) tr
        submission →
      ∃ request sign, submission =
          signSubmission request (.sign params.voucher) presign.epoch sign ∧
        request.Carries presign ∧ Signs requester.keypair.publicKey sign := by
    intro presign tr submission h
    exact requestSignature_carries (gives_sdk_iff.mp h).2
  constructor
  · intro presign tr h
    exact sendsOneSign_submitted (always_sdk appendable_quiet _) (hmade presign) h
  · intro presign tr presignEpoch chainEpoch h
    exact neverRan_submitted (always_sdk appendable_quiet _) (throwsOnly_sdk _) (hmade presign) h

theorem quiet_requestFutureSignature (args : SignArgs) :
    Always Quiet (requestFutureSignature (H := H) P connection issued requester args) := by
  have happend := appendable_quiet (T := Unit) (H := H)
  refine always_bind happend (always_sdk happend _) fun scheme => ?_
  refine always_bind happend (always_sdk happend _) fun _ => ?_
  refine always_bind happend (always_sdk happend _) fun _ => ?_
  refine always_bind happend (always_sdk happend _) fun _ => ?_
  refine always_bind happend (always_sdk happend _) fun userSignature => ?_
  refine always_bind happend (always_perform steady_quiet trivial) fun now => ?_
  exact always_bind happend (always_sdk happend _) fun request => always_pure happend _

theorem throwsOnly_requestFutureSignature (args : SignArgs) :
    ThrowsOnly IsSdk (requestFutureSignature (H := H) P connection issued requester args) := by
  refine throwsOnly_bind (throwsOnly_sdk _) fun scheme => ?_
  refine throwsOnly_bind (throwsOnly_sdk _) fun _ => ?_
  refine throwsOnly_bind (throwsOnly_sdk _) fun _ => ?_
  refine throwsOnly_bind (throwsOnly_sdk _) fun _ => ?_
  refine throwsOnly_bind (throwsOnly_sdk _) fun userSignature => ?_
  refine throwsOnly_bind (throwsOnly_perform .now) fun now => ?_
  exact throwsOnly_bind (throwsOnly_sdk _) fun request => throwsOnly_pure _

theorem signStep_partialSignatureOf (params : SignParams) :
    SignStep P connection.toNetwork requester (.futureSignStepOne params.voucher) fun presign =>
      partialSignatureOf (H := H) P connection issued requester (params.args presign) fuel := by
  have hmade : ∀ presign (tr : List (EngineEvent Unit H)) (submission : Submission Unit H),
      Gives (requestFutureSignature P connection issued requester (params.args presign)) tr
        submission →
      ∃ request sign, submission =
          signSubmission request (.futureSignStepOne params.voucher) presign.epoch sign ∧
        request.Carries presign ∧ Signs requester.keypair.publicKey sign := by
    intro presign tr submission h
    obtain ⟨_, scheme, userSignature, now, request, -, -, -, hrequest, rfl⟩ :=
      requestFutureSignature_gives h
    obtain ⟨state, stepOne, -, rfl, hnames⟩ := futureSignRequest_names hrequest
    exact ⟨_, _, rfl, hnames.presign, signs_signFor signs_signGrpcRequest⟩
  constructor
  · intro presign tr h
    exact sendsOneSign_submitted (quiet_requestFutureSignature _) (hmade presign) h
  · intro presign tr presignEpoch chainEpoch h
    exact neverRan_submitted (quiet_requestFutureSignature _) (throwsOnly_requestFutureSignature _)
      (hmade presign) h

/-! ## Taking a presign -/

/-- Another error than the expiry of a presign. -/
def NotExpired (e : EngineError Unit) : Prop :=
  ∀ presignEpoch chainEpoch, e ≠ .presignExpiredWithTheEpoch presignEpoch chainEpoch

theorem IsSdk.notExpired {e : EngineError Unit} (h : IsSdk e) : NotExpired e := by
  obtain ⟨error, rfl⟩ := h
  intro _ _ heq
  cases heq

theorem IsCloseError.notExpired {e : EngineError Unit} (h : IsCloseError e) : NotExpired e := by
  rcases h with hsdk | ⟨_, _, _, rfl⟩ | ⟨_, _, _, _, _, rfl⟩
  · exact hsdk.notExpired
  · intro _ _ heq
    cases heq
  · intro _ _ heq
    cases heq

/-- An attempt with what follows it expires no presign where what follows does not. -/
theorem notExpired_attempt {once : EngineEff Unit H (TransactionResponseData × Sent Unit)}
    {submission : Submission Unit H}
    {notRun : Option (EngineEff Unit H (TransactionResponseData × Sent Unit))}
    (honce : ThrowsOnly NotExpired once)
    (hnext : ∀ next, notRun = some next → ThrowsOnly NotExpired next) :
    ThrowsOnly NotExpired (tryCatch once
      (afterClose P network requester submission.describeRun fuel notRun)) := by
  intro tr e h
  obtain ⟨tr₁, tr₂, e', rfl, hthrown, hafter⟩ := throws_tryCatch_iff.mp h
  cases e' with
  | closedBeforeAnswer sent refusal =>
    rcases throws_afterClose (describes_describeRun submission) hafter with
      hclose | ⟨next, before, found, rest, hsome, -, -, hrest⟩
    · exact hclose.notExpired
    · exact hnext next hsome rest e hrest
  | _ =>
    obtain ⟨-, rfl⟩ := throws_throw_iff.mp hafter
    exact honce tr₁ _ hthrown

/-- The submission of a request without a presign expires none. -/
theorem notExpired_submitRequest :
    ThrowsOnly NotExpired
      ((submitRequest (H := H) request kind).run P network requester fuel) := by
  have honce : ThrowsOnly NotExpired
      (submitOnce P network requester (submitRequest (H := H) request kind).build fuel) := by
    intro tr e h
    rcases throws_bind_iff.mp h with hread | ⟨tr₁, tr₂, epoch, rfl, -, hsend⟩
    · obtain ⟨error, rfl⟩ := (ends_readChainEpoch hread.ends).2 e rfl
      exact IsSdk.notExpired ⟨error, rfl⟩
    · rcases throws_signAndSend (signs_signFor signs_signGrpcRequest)
          (fun session => throwsOnly_pure _) hsend with
        hsdk | ⟨_, _, _, _, -, -, -, ⟨error, rfl⟩ | ⟨refusal, rfl⟩⟩
      · exact hsdk.notExpired
      · intro _ _ heq
        cases heq
      · intro _ _ heq
        cases heq
  show ThrowsOnly NotExpired (submit P network requester _ _ fuel rebuildsAfterEpochClose)
  generalize rebuildsAfterEpochClose = left
  induction left with
  | zero => exact notExpired_attempt honce (by simp)
  | succ left ih =>
    apply notExpired_attempt honce
    intro next hnext
    obtain rfl := Option.some.inj hnext
    exact ih

/-- The request takes no presign to use. -/
def NoSign (request : DWalletRequest) : Prop := request.isSign = false

theorem notExpired_presign {algorithm : DWalletSignatureAlgorithm}
    {dwalletPublicKey : Option Bytes} :
    ThrowsOnly NotExpired
      (presign (H := H) P connection requester request algorithm dwalletPublicKey fuel) :=
  throwsOnly_bind notExpired_submitRequest fun _ =>
    (throwsOnly_sdk _).mono fun _ => IsSdk.notExpired

theorem copiesAsk_presign {algorithm : DWalletSignatureAlgorithm}
    {dwalletPublicKey : Option Bytes} (h : NoSign request) :
    Always (CopiesAsk NoSign)
      (presign (H := H) P connection requester request algorithm dwalletPublicKey fuel) := by
  have happend := (steady_copiesAsk (T := Unit) (H := H) (Φ := NoSign)).toAppendable
  have hmakes : (submitRequest (H := H) request .presign).Makes requester NoSign :=
    makes_submitRequest (fun _ _ hnone => by cases hnone) h
  exact always_bind happend hmakes.copiesAsk fun answered => always_sdk happend _

theorem waitsForPool_quiet {deadline : ℤ} (e : EngineError Unit) :
    Always Quiet (waitsForPool (H := H) deadline e) := by
  have happend := appendable_quiet (T := Unit) (H := H)
  unfold waitsForPool
  split_ifs
  · refine always_bind happend (always_perform steady_quiet trivial) fun now => ?_
    split_ifs
    · exact always_pure happend _
    · exact always_bind happend (always_perform steady_quiet trivial) fun _ => always_pure happend _
  · exact always_pure happend _

theorem takePresign_copiesAsk {poolWaitMs : ℤ} {dWallet : DWallet} {terms : SignTerms}
    {waits : ℕ} :
    Always (CopiesAsk NoSign)
      (takePresign (H := H) P connection requester poolWaitMs dWallet terms fuel waits) := by
  have happend := (steady_copiesAsk (T := Unit) (H := H) (Φ := NoSign)).toAppendable
  refine always_bind happend (always_sdk happend _) fun imported => ?_
  split_ifs
  · refine always_bind happend (always_sdk happend _) fun _ => ?_
    refine always_bind happend (always_sdk happend _) fun scheme => ?_
    refine always_bind happend (always_sdk happend _) fun algorithm => ?_
    apply copiesAsk_presign
    rfl
  · refine always_bind happend (always_sdk happend _) fun scheme => ?_
    refine always_bind happend (always_sdk happend _) fun algorithm => ?_
    refine always_bind happend (always_perform steady_copiesAsk trivial) fun now => ?_
    have hattempt : Always (CopiesAsk NoSign) (presign (H := H) P connection requester
        (.presign ⟨connection.networkKeyId, connection.curveInput, algorithm⟩) algorithm none
        fuel) := by
      apply copiesAsk_presign
      rfl
    refine always_retry happend hattempt (fun left e tr h => ?_) waits
    exact (waitsForPool_quiet e tr h).copiesAsk

theorem takePresign_notExpired {poolWaitMs : ℤ} {dWallet : DWallet} {terms : SignTerms}
    {waits : ℕ} :
    ThrowsOnly NotExpired
      (takePresign (H := H) P connection requester poolWaitMs dWallet terms fuel waits) := by
  have hsdk : ∀ {α : Type} (x : Except SdkError α),
      ThrowsOnly NotExpired (sdk x : EngineEff Unit H α) :=
    fun x => (throwsOnly_sdk x).mono fun _ => IsSdk.notExpired
  refine throwsOnly_bind (hsdk _) fun imported => ?_
  split_ifs
  · refine throwsOnly_bind (hsdk _) fun _ => ?_
    refine throwsOnly_bind (hsdk _) fun scheme => ?_
    exact throwsOnly_bind (hsdk _) fun algorithm => notExpired_presign
  · refine throwsOnly_bind (hsdk _) fun scheme => ?_
    refine throwsOnly_bind (hsdk _) fun algorithm => ?_
    refine throwsOnly_bind (throwsOnly_perform .now) fun now => ?_
    refine throwsOnly_retry notExpired_presign (fun left e => ?_) waits
    unfold waitsForPool
    split_ifs
    · refine throwsOnly_bind (throwsOnly_perform .now) fun now => ?_
      split_ifs
      · exact throwsOnly_pure _
      · exact throwsOnly_bind (throwsOnly_perform _) fun _ => throwsOnly_pure _
    · exact throwsOnly_pure _

end Signs

/-! ## The attempts of a call -/

/-- A presign that was taken, and the events of the sign that was run with it. -/
abbrev SignAttempt (H : Type) : Type := Presign × List (EngineEvent Unit H)

/-- The events of a call with so many attempts: each takes a presign and then runs its sign, and
another follows one whose presign expired only. -/
inductive OwnAttempts {α : Type} (take : EngineEff Unit H Presign)
    (step : Presign → EngineEff Unit H α) :
    ℕ → List (EngineEvent Unit H) → List (SignAttempt H) → Prop
  | taking {left : ℕ} {tr : List (EngineEvent Unit H)} : Begins take tr →
      OwnAttempts take step left tr []
  | signing {left : ℕ} {taken tr : List (EngineEvent Unit H)} {presign : Presign} :
      Gives take taken presign → Begins (step presign) tr →
      OwnAttempts take step (left + 1) (taken ++ tr) [(presign, tr)]
  | again {left presignEpoch chainEpoch : ℕ} {taken tr rest : List (EngineEvent Unit H)}
      {presign : Presign} {attempts : List (SignAttempt H)} :
      Gives take taken presign →
      Throws (step presign) tr (.presignExpiredWithTheEpoch presignEpoch chainEpoch) →
      OwnAttempts take step left rest attempts →
      OwnAttempts take step (left + 1) (taken ++ tr ++ rest) ((presign, tr) :: attempts)

/-- The copies of signs, and of first steps of future signs, as a validator decodes them. -/
def signCopies (tr : List (EngineEvent Unit H)) : List SignedRequest :=
  (copies tr).filter fun c => c.data.any fun data => data.request.isSign

section Attempts

variable {α : Type} {P : Primitives} {network : Network} {requester : Requester}
  {kind : PendingRequestKind} {take : EngineEff Unit H Presign}
  {step : Presign → EngineEff Unit H α} {left : ℕ} {tr : List (EngineEvent Unit H)}
  {attempts : List (SignAttempt H)}

/-- However far a call with presigns of its own has come, it made such attempts. -/
theorem ownAttempts_of_begins (htake : ThrowsOnly NotExpired take)
    (h : Begins (retry replacesPresign (take >>= step) left) tr) :
    ∃ attempts, OwnAttempts take step left tr attempts := by
  have hfirst : ∀ {left tr}, Begins (take >>= step) tr →
      ∃ attempts, OwnAttempts take step (left + 1) tr attempts := by
    intro left tr h
    rcases begins_bind h with htaking | ⟨taken, tr', presign, rfl, htaken, hsign⟩
    · exact ⟨[], .taking htaking⟩
    · exact ⟨_, .signing htaken hsign⟩
  induction left generalizing tr with
  | zero =>
    obtain rfl := begins_cut_iff.mp h
    exact ⟨[], .taking ⟨_, .refl _⟩⟩
  | succ left ih =>
    rcases begins_tryCatch h with hbegins | ⟨tr₁, tr₂, e, rfl, hthrows, hrest⟩
    · exact hfirst hbegins
    have hstops : replacesPresign (H := H) left e = pure false →
        ∃ attempts, OwnAttempts take step (left + 1) (tr₁ ++ tr₂) attempts := by
      intro hask
      rw [hask] at hrest
      obtain rfl : tr₂ = [] := begins_throw_iff.mp hrest
      rw [List.append_nil]
      exact hfirst hthrows.begins
    cases e with
    | presignExpiredWithTheEpoch presignEpoch chainEpoch =>
      rcases throws_bind_iff.mp hthrows with hfailed | ⟨taken, tr', presign, rfl, htaken, hsign⟩
      · exact absurd rfl (htake _ _ hfailed presignEpoch chainEpoch)
      · cases left with
        | zero => exact hstops rfl
        | succ left =>
          obtain ⟨attempts, hattempts⟩ := ih hrest
          exact ⟨_, .again htaken hsign hattempts⟩
    | _ => exact hstops rfl

theorem OwnAttempts.length_le (h : OwnAttempts take step left tr attempts) :
    attempts.length ≤ left := by
  induction h with
  | taking _ => exact Nat.zero_le _
  | signing _ _ => simp
  | again _ _ _ ih => simpa using ih

theorem OwnAttempts.signs (h : OwnAttempts take step left tr attempts) :
    ∀ attempt ∈ attempts, (∃ taken, Gives take taken attempt.1) ∧
      Begins (step attempt.1) attempt.2 := by
  induction h with
  | taking _ => simp
  | signing htaken hsign =>
    intro attempt hattempt
    obtain rfl := List.mem_singleton.mp hattempt
    exact ⟨⟨_, htaken⟩, hsign⟩
  | again htaken hsign _ ih =>
    intro attempt hattempt
    rcases List.mem_cons.mp hattempt with rfl | hlater
    · exact ⟨⟨_, htaken⟩, hsign.begins⟩
    · exact ih attempt hlater

/-- Every attempt that another follows ended with the expiry of its presign. -/
theorem OwnAttempts.expired (h : OwnAttempts take step left tr attempts) :
    ∀ attempt ∈ attempts.dropLast, ∃ presignEpoch chainEpoch,
      Throws (step attempt.1) attempt.2 (.presignExpiredWithTheEpoch presignEpoch chainEpoch) := by
  induction h with
  | taking _ => simp
  | signing _ _ => simp
  | @again left presignEpoch chainEpoch taken tr rest presign attempts _ hsign _ ih =>
    intro attempt hattempt
    cases attempts with
    | nil => simp at hattempt
    | cons next attempts =>
      rw [List.dropLast_cons_cons, List.mem_cons] at hattempt
      rcases hattempt with rfl | hlater
      · exact ⟨_, _, hsign⟩
      · exact ih attempt hlater

theorem signCopies_append (tr tr' : List (EngineEvent Unit H)) :
    signCopies (tr ++ tr') = signCopies tr ++ signCopies tr' := by
  unfold signCopies
  rw [copies_append, List.filter_append]

theorem CopiesAsk.signCopies (h : CopiesAsk NoSign tr) : signCopies tr = [] := by
  unfold Ika.signCopies
  rw [List.filter_eq_nil_iff]
  intro c hc
  obtain ⟨data, hdata, hnone⟩ := h c hc
  rw [hdata, Option.any_some, hnone]
  exact Bool.false_ne_true

theorem SendsOneSign.signCopies {presign : Presign} (h : SendsOneSign presign tr) :
    signCopies tr = copies tr := by
  unfold Ika.signCopies
  rw [List.filter_eq_self]
  intro c hc
  obtain ⟨-, -, data, hdata, hcarries⟩ := h c hc
  rw [hdata, Option.any_some]
  exact hcarries.isSign

/-- The signs that a call sent are those of its attempts, in their order. -/
theorem OwnAttempts.signCopies (htake : Always (CopiesAsk NoSign) take)
    (hstep : SignStep P network requester kind step)
    (h : OwnAttempts take step left tr attempts) :
    signCopies tr = attempts.flatMap fun attempt => copies attempt.2 := by
  induction h with
  | taking htaking => exact (htake _ htaking).signCopies
  | signing htaken hsign =>
    rw [signCopies_append, (htake _ htaken.begins).signCopies,
      (hstep.sends _ _ hsign).signCopies]
    simp
  | again htaken hsign _ ih =>
    rw [signCopies_append, signCopies_append, (htake _ htaken.begins).signCopies,
      (hstep.sends _ _ hsign.begins).signCopies, ih]
    rfl

/-- The session of a copy was looked up in the run, its epoch settled, and it never ran. -/
def CopyNeverRan (P : Primitives) (network : Network) (requester : Requester)
    (kind : PendingRequestKind) (tr : List (EngineEvent Unit H)) (c : SignedRequest) : Prop :=
  ∃ epoch session before found after, tr = before ++ found ++ after ∧ c.epoch = some epoch ∧
    c.session P = some session ∧
    NotRunLookup P network (pendingRequest network requester ⟨epoch, session, ()⟩ kind) found

theorem CopyNeverRan.mono {c : SignedRequest} (h : CopyNeverRan P network requester kind tr c)
    (first rest : List (EngineEvent Unit H)) :
    CopyNeverRan P network requester kind (first ++ tr ++ rest) c := by
  obtain ⟨epoch, session, before, found, after, rfl, hepoch, hsession, hfound⟩ := h
  exact ⟨epoch, session, first ++ before, found, after ++ rest, by simp, hepoch, hsession, hfound⟩

theorem NeverRan.copy {presign : Presign} {c : SignedRequest}
    (h : NeverRan P network requester kind presign.epoch tr) (hsends : SendsOneSign presign tr)
    (hc : c ∈ copies tr) : CopyNeverRan P network requester kind tr c := by
  rcases h with hnone | ⟨session, before, found, after, htr, -, hsession, hfound⟩
  · rw [hnone] at hc
    cases hc
  · exact ⟨_, session, before, found, after, htr, (hsends c hc).2.1, hsession c hc, hfound⟩

/-- A copy of a sign that an event sends. -/
def SendsSign (e : EngineEvent Unit H) (c : SignedRequest) : Prop := signCopies [e] = [c]

/-- Where a sign is sent, every sign that was sent before is the same, or never ran. -/
theorem OwnAttempts.sent_before (htake : Always (CopiesAsk NoSign) take)
    (hstep : SignStep P network requester kind step)
    (h : OwnAttempts take step left tr attempts) {before after : List (EngineEvent Unit H)}
    {e : EngineEvent Unit H} {c : SignedRequest} (hsplit : tr = before ++ e :: after)
    (hc : SendsSign e c) :
    ∀ c' ∈ Ika.signCopies before, c' = c ∨ CopyNeverRan P network requester kind before c' := by
  have hmem : ∀ {front back : List (EngineEvent Unit H)},
      c ∈ Ika.signCopies (front ++ e :: back) := by
    intro front back
    rw [← List.singleton_append, signCopies_append, signCopies_append, hc]
    simp
  have hnone : ∀ {taken}, Begins take taken → Ika.signCopies taken = [] :=
    fun htaking => (htake _ htaking).signCopies
  -- The sign is none of the copies that were sent for a presign.
  have htaken : ∀ {taken back before}, Begins take taken → taken ++ back = before ++ e :: after →
      ∃ front, before = taken ++ front ∧ back = front ++ e :: after := by
    intro taken back before htaking heq
    rcases append_split heq with ⟨rest, rfl, -⟩ | hrest
    · have hmem := @hmem before rest
      rw [hnone htaking] at hmem
      cases hmem
    · exact hrest
  have hsame : ∀ {front rest presign}, Begins (step presign) (front ++ e :: rest) →
      ∀ c' ∈ Ika.signCopies front, c' = c := by
    intro front rest presign hsign c' hc'
    have hsends := hstep.sends presign _ hsign
    have hmem := @hmem front rest
    rw [hsends.signCopies] at hmem
    refine (hsends c hmem).1 c' ?_
    rw [copies_append]
    exact List.mem_append_left _ (List.mem_of_mem_filter hc')
  induction h generalizing before with
  | @taking left tr htaking =>
    have hmem := @hmem before after
    rw [← hsplit, hnone htaking] at hmem
    cases hmem
  | signing htaking hsign =>
    obtain ⟨front, rfl, rfl⟩ := htaken htaking.begins hsplit
    intro c' hc'
    rw [signCopies_append, hnone htaking.begins, List.nil_append] at hc'
    exact .inl (hsame hsign c' hc')
  | @again left presignEpoch chainEpoch taken tr rest presign attempts htaking hsign _ ih =>
    rw [List.append_assoc] at hsplit
    obtain ⟨front, rfl, hfront⟩ := htaken htaking.begins hsplit
    intro c' hc'
    rw [signCopies_append, hnone htaking.begins, List.nil_append] at hc'
    rcases append_split hfront with ⟨more, rfl, -⟩ | ⟨more, rfl, hmore⟩
    · exact .inl (hsame hsign.begins c' hc')
    · rw [signCopies_append, List.mem_append] at hc'
      rcases hc' with hearlier | hlater
      · right
        have hshown := (hstep.neverRan presign tr _ _ hsign).copy (hstep.sends _ _ hsign.begins)
          (List.mem_of_mem_filter hearlier)
        rw [← List.append_assoc]
        exact hshown.mono taken more
      · rcases ih hmore c' hlater with hsame' | hshown
        · exact .inl hsame'
        · right
          have hafter := hshown.mono (taken ++ tr) []
          rwa [List.append_nil, List.append_assoc] at hafter

end Attempts

/-! ## Calls that take their own presigns -/

/-- What a call did with presigns of its own: each was put to one sign at most, and another sign
was sent only after the sessions before it were shown never to have run. -/
structure UsesPresignsOnce {α : Type} (P : Primitives) (network : Network) (requester : Requester)
    (kind : PendingRequestKind) (take : EngineEff Unit H Presign)
    (step : Presign → EngineEff Unit H α) (tr : List (EngineEvent Unit H))
    (attempts : List (SignAttempt H)) : Prop where
  ran : OwnAttempts take step ownPresignAttempts tr attempts
  bounded : attempts.length ≤ ownPresignAttempts
  sent : signCopies tr = attempts.flatMap fun attempt => copies attempt.2
  oneSign : ∀ attempt ∈ attempts, SendsOneSign attempt.1 attempt.2
  expired : ∀ attempt ∈ attempts.dropLast, ∃ presignEpoch chainEpoch,
    Throws (step attempt.1) attempt.2 (.presignExpiredWithTheEpoch presignEpoch chainEpoch)
  neverRan : ∀ attempt ∈ attempts, ∀ presignEpoch chainEpoch,
    Throws (step attempt.1) attempt.2 (.presignExpiredWithTheEpoch presignEpoch chainEpoch) →
    NeverRan P network requester kind attempt.1.epoch attempt.2
  sentBefore : ∀ before e after c, tr = before ++ e :: after → SendsSign e c →
    ∀ c' ∈ signCopies before, c' = c ∨ CopyNeverRan P network requester kind before c'

theorem usesPresignsOnce {α : Type} {P : Primitives} {network : Network} {requester : Requester}
    {kind : PendingRequestKind} {take : EngineEff Unit H Presign}
    {step : Presign → EngineEff Unit H α} {tr : List (EngineEvent Unit H)}
    (hasks : Always (CopiesAsk NoSign) take) (hthrows : ThrowsOnly NotExpired take)
    (hstep : SignStep P network requester kind step) (h : Begins (withPresign take none step) tr) :
    ∃ attempts, UsesPresignsOnce P network requester kind take step tr attempts := by
  obtain ⟨attempts, hattempts⟩ := ownAttempts_of_begins hthrows h
  refine ⟨attempts, hattempts, hattempts.length_le, hattempts.signCopies hasks hstep, ?_,
    hattempts.expired, ?_, ?_⟩
  · intro attempt hattempt
    exact hstep.sends _ _ (hattempts.signs attempt hattempt).2
  · intro attempt _ presignEpoch chainEpoch hexpired
    exact hstep.neverRan _ _ presignEpoch chainEpoch hexpired
  · intro before e after c hsplit hc
    exact hattempts.sent_before hasks hstep hsplit hc

/-- However far a sign, or step 1 of a future sign, that takes its own presigns has come, it put
each to one request at most, which names its epoch; a further request followed the expiry of the
presign before only, of which nothing was sent or the session never ran. -/
theorem own_presigns_used_once (P : Primitives) (H : Type) (connection : Connection)
    (issued : List IssuedState) (requester : Requester) (poolWaitMs : ℤ) (params : SignParams)
    (fuel waits : ℕ) (tr : List (EngineEvent Unit H)) :
    (Begins (requestSign P connection issued requester poolWaitMs params none fuel waits) tr →
      ∃ attempts, UsesPresignsOnce P connection.toNetwork requester (.sign params.voucher)
        (takePresign P connection requester poolWaitMs params.dWallet params.terms fuel waits)
        (fun presign => signatureOf P connection issued requester (params.args presign) fuel)
        tr attempts) ∧
    (Begins (requestFutureSign P connection issued requester poolWaitMs params none fuel waits)
        tr →
      ∃ attempts, UsesPresignsOnce P connection.toNetwork requester
        (.futureSignStepOne params.voucher)
        (takePresign P connection requester poolWaitMs params.dWallet params.terms fuel waits)
        (fun presign => partialSignatureOf P connection issued requester (params.args presign)
          fuel) tr attempts) := by
  constructor
  · intro h
    exact usesPresignsOnce takePresign_copiesAsk takePresign_notExpired
      (signStep_signatureOf params) h
  · intro h
    exact usesPresignsOnce takePresign_copiesAsk takePresign_notExpired
      (signStep_partialSignatureOf params) h

/-! ### A presign that expires before its sign -/

def sampleHeldState : IssuedState := { sampleWaitingShare with waiting := false }

def sampleSignParams : SignParams where
  dWallet := sampleDWallet
  usable := { toDWalletUsable := sampleUsable, holder := sampleMockRequester.keypair.publicKey }
  terms := ⟨[1], none, .eddsaSha512⟩
  voucher := List.replicate 32 8

/-- A presign of the epoch that its request names. -/
def samplePresignFor (signed : SignedRequest) : NetworkSignedAttestation :=
  sampleShareAnswer (versionedPresignDataAttestationBcs.encode {
    sessionIdentifier := (signed.session samplePrimitives).getD []
    epoch := signed.epoch.getD 0
    presignSessionIdentifier := [2]
    presignData := [3, 4]
    curve := .curve25519
    signatureAlgorithm := .eddsa
    dwalletPublicKey := none
    userPubkey := sampleMockRequester.keypair.publicKey })

/-- A chain that goes on to epoch 8 once the first presign is served, and a network that answers
every request. -/
def samplePassingEpoch (n : ℕ) : ∀ op : EngineOp Unit Unit, op.Ans
  | .chainEpoch => .ok (if n < 9 then 7 else 8)
  | .keepEpoch read => read
  | .epoch => if n < 9 then 7 else 8
  | .now => 0
  | .sleep _ => ()
  | .freshPreimage => List.replicate 32 (UInt8.ofNat n)
  | .build .. => .error (.error "")
  | .describe .. => .error (.error "")
  | .waitingRequestHolder _ => none
  | .signRequest _ => .error (.error "")
  | .submitTransaction signed _ =>
    if signed.data.any fun data => data.request.isSign then .ok (.signature [1])
    else .ok (.attestation (samplePresignFor signed))
  | .record _ => .error (.error "")

abbrev SampleSigned : Type := List (EngineEvent Unit Unit) × Except (EngineError Unit) Bytes

def sampleSignRun : Option SampleSigned :=
  (requestSign samplePrimitives sampleShareConnection [sampleHeldState] sampleMockRequester 180000
    sampleSignParams none 2 2).run.transcript samplePassingEpoch 0

/-- Two presigns are taken, and one sign is sent. -/
theorem own_presigns_used_once_sample : ∃ tr : List (EngineEvent Unit Unit),
    (copies tr).length = 3 ∧ (signCopies tr).length = 1 ∧
    ∃ attempts, UsesPresignsOnce samplePrimitives sampleShareConnection.toNetwork
      sampleMockRequester (.sign sampleSignParams.voucher)
      (takePresign samplePrimitives sampleShareConnection sampleMockRequester 180000
        sampleSignParams.dWallet sampleSignParams.terms 2 2)
      (fun presign => signatureOf samplePrimitives sampleShareConnection [sampleHeldState]
        sampleMockRequester (sampleSignParams.args presign) 2) tr attempts := by
  have hsample : sampleSignRun.any (fun r : SampleSigned => decide ((copies r.1).length = 3 ∧
      (signCopies r.1).length = 1)) = true := by
    decide +kernel
  obtain ⟨⟨tr, result⟩, hsome, hchecked⟩ := (Option.any_eq_true _ _).mp hsample
  obtain ⟨hcopies, hsigns⟩ := of_decide_eq_true hchecked
  unfold sampleSignRun at hsome
  have hends : Ends (requestSign samplePrimitives sampleShareConnection [sampleHeldState]
      sampleMockRequester 180000 sampleSignParams none 2 2) tr result :=
    Prog.returns_of_transcript hsome
  refine ⟨tr, hcopies, hsigns, ?_⟩
  exact (own_presigns_used_once samplePrimitives Unit sampleShareConnection [sampleHeldState]
    sampleMockRequester 180000 sampleSignParams 2 2 tr).1 ⟨_, hends⟩

end Ika
