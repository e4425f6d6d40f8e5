import IkaSdk.Core.Common.RequestSigners

/-! The calls that take a dWallet and a usability result together: what they send names the
dWallet of the result's check, and their lookups name the dWallet they were given. -/

namespace Ika

open Wire Interaction Eff

variable {P : Primitives} {T H : Type} {network : Network} {requester : Requester}

/-! ## What is sent was built -/

section Copies

variable {Φ : DWalletRequest → Prop} {fuel : ℕ}

/-- Every copy is of a request with the property. -/
def CopiesAsk (Φ : DWalletRequest → Prop) (tr : List (EngineEvent T H)) : Prop :=
  ∀ c ∈ copies tr, ∃ data, c.data = some data ∧ Φ data.request

theorem Quiet.copiesAsk {tr : List (EngineEvent T H)} (h : Quiet tr) : CopiesAsk Φ tr := by
  intro c hc
  rw [h.2] at hc
  cases hc

theorem steady_copiesAsk : Steady (CopiesAsk (T := T) (H := H) Φ) where
  nil := appendable_quiet.nil.copiesAsk
  append h h' := by
    intro c hc
    rw [copies_append, List.mem_append] at hc
    exact hc.elim (h c) (h' c)
  still op hop a := (steady_quiet.still op hop a).copiesAsk
  reads read n := (steady_quiet.reads read n).copiesAsk

theorem SendsData.copiesAsk {publicKey : Bytes} {data : SignedRequestData}
    {tr : List (EngineEvent T H)} (h : SendsData publicKey data tr) (hΦ : Φ data.request) :
    CopiesAsk Φ tr := by
  rcases h with hquiet | ⟨signed, hsigned, hsends⟩
  · exact hquiet.copiesAsk
  · intro c hc
    rw [hsends.2 c hc]
    exact ⟨data, hsigned.data_eq, hΦ⟩

/-- What a submission needs so that all it sends has the property. -/
structure Submission.Makes (requester : Requester) (Φ : DWalletRequest → Prop)
    (submission : Submission T H) : Prop where
  quiet : ∀ epoch session, Always Quiet (submission.build epoch session)
  built : ∀ epoch session built, CanGive (submission.build epoch session) built →
    Φ built.request
  signs : ∀ epoch sign, submission.presign = some (epoch, sign) →
    Signs requester.keypair.publicKey sign

theorem always_signAndSend_copiesAsk {epoch : ℕ}
    {sign : SignedRequestData → EngineEff T H SignedRequest}
    {build : ℕ → Bytes → EngineEff T H (BuiltRequest T)}
    (hsign : Signs requester.keypair.publicKey sign)
    (hquiet : ∀ session, Always Quiet (build epoch session))
    (hbuilt : ∀ session built, CanGive (build epoch session) built → Φ built.request) :
    Always (CopiesAsk Φ) (signAndSend P network requester epoch sign build fuel) := by
  have hfresh : ∀ preimage, CopiesAsk (T := T) (H := H) Φ [⟨.freshPreimage, preimage⟩] :=
    fun preimage => steady_copiesAsk.still .freshPreimage trivial preimage
  intro tr h
  rcases begins_signAndSend hsign h with
    rfl | ⟨preimage, tr', rfl, hbuild | ⟨tr₁, tr₂, built, rfl, hgives, hsends⟩⟩
  · exact steady_copiesAsk.nil
  · exact steady_copiesAsk.append (hfresh preimage) (hquiet _ tr' hbuild).copiesAsk
  · have hdata : CopiesAsk Φ tr₂ := hsends.copiesAsk (hbuilt _ built hgives.canGive)
    apply steady_copiesAsk.append (hfresh preimage)
    exact steady_copiesAsk.append (hquiet _ tr₁ hgives.begins).copiesAsk hdata

theorem describes_describeRun (submission : Submission T H) :
    Describes submission.describeRun where
  still hΦ _ _ := always_sdk hΦ.toAppendable _
  errors _ _ := throwsOnly_sdk _

theorem always_afterClose_copiesAsk {describe : Bytes → T → EngineEff T H PendingRequestKind}
    (hdescribe : Describes describe)
    {notRun : Option (EngineEff T H (TransactionResponseData × Sent T))}
    (hnext : ∀ next, notRun = some next → Always (CopiesAsk Φ) next) (e : EngineError T) :
    Always (CopiesAsk Φ) (afterClose P network requester describe fuel notRun e) := by
  cases e with
  | closedBeforeAnswer sent refusal =>
    intro tr h
    rcases begins_afterClose hdescribe h with
      hquiet | ⟨next, before, found, rest, hsome, rfl, hlooked, hrest⟩
    · exact hquiet.copiesAsk
    · obtain ⟨_, _, _, -, -, hfound⟩ := hlooked.notRun
      have hbefore := appendable_quiet.append hlooked.quiet hfound.quiet
      exact steady_copiesAsk.append hbefore.copiesAsk (hnext next hsome rest hrest)
  | _ => exact always_throw steady_copiesAsk.toAppendable _

/-- Whatever a submission sends, it built. -/
theorem Submission.Makes.copiesAsk {submission : Submission T H}
    (h : submission.Makes requester Φ) :
    Always (CopiesAsk Φ) (submission.run P network requester fuel) := by
  have happend := (steady_copiesAsk (T := T) (H := H) (Φ := Φ)).toAppendable
  have hdescribe := describes_describeRun submission
  unfold Submission.run
  cases hpresign : submission.presign with
  | none =>
    have honce : Always (CopiesAsk Φ) (submitOnce P network requester submission.build fuel) := by
      refine always_bind happend (always_readChainEpoch steady_copiesAsk) fun epoch => ?_
      exact always_signAndSend_copiesAsk (signs_signFor signs_signGrpcRequest) (h.quiet epoch)
        (h.built epoch)
    dsimp only
    generalize rebuildsAfterEpochClose = left
    induction left with
    | zero =>
      apply always_tryCatch happend honce
      exact always_afterClose_copiesAsk hdescribe (by simp)
    | succ left ih =>
      apply always_tryCatch happend honce
      apply always_afterClose_copiesAsk hdescribe
      intro next hnext
      obtain rfl := Option.some.inj hnext
      exact ih
  | some presign =>
    obtain ⟨epoch, sign⟩ := presign
    have hthrow : ∀ e : EngineError T, Always (CopiesAsk (H := H) Φ)
        (throw e : EngineEff T H (TransactionResponseData × Sent T)) := always_throw happend
    refine always_bind happend (always_readChainEpoch steady_copiesAsk) fun chainEpoch => ?_
    split_ifs
    · exact hthrow _
    · apply always_tryCatch happend
      · exact always_signAndSend_copiesAsk (h.signs epoch sign hpresign) (h.quiet epoch)
          (h.built epoch)
      · apply always_afterClose_copiesAsk hdescribe
        intro next hnext
        obtain rfl := Option.some.inj hnext
        refine always_bind happend (always_perform steady_copiesAsk trivial) fun _ => hthrow _

end Copies

/-! ## What is looked up was described -/

section Pending

variable {fuel : ℕ} {tr : List (EngineEvent T H)} {epoch chainEpoch : ℕ} {session : Bytes}
  {refusal : String} {pending : PendingRequest} {submission : Submission T H}

/-- The pending request is of a session as the submission describes it. -/
def Submission.DescribesPending (network : Network) (requester : Requester)
    (submission : Submission T H) (epoch : ℕ) (session : Bytes) (pending : PendingRequest) :
    Prop :=
  ∃ kept kind, submission.describe session kept = .ok kind ∧
    pending = pendingRequest network requester ⟨epoch, session, kept⟩ kind

theorem PendingOf.describesPending
    (h : PendingOf network requester submission.describeRun epoch session pending) :
    submission.DescribesPending network requester epoch session pending := by
  obtain ⟨kept, kind, tr, hkind, rfl⟩ := h
  exact ⟨kept, kind, (gives_sdk_iff.mp hkind).2, rfl⟩

/-- A close that a submission throws carries a pending request that it describes. -/
theorem throws_run_pending (hsdk : submission.ThrowsSdk)
    (hsigns : ∀ epoch sign, submission.presign = some (epoch, sign) →
      Signs requester.keypair.publicKey sign)
    (h : Throws (submission.run P network requester fuel) tr
      (.epochClosedBeforeAnswer epoch session chainEpoch refusal pending)) :
    submission.DescribesPending network requester epoch session pending := by
  have hdescribe := describes_describeRun submission
  unfold Submission.run at h
  cases hpresign : submission.presign with
  | none =>
    rw [hpresign] at h
    exact (throws_submit_pending hdescribe hsdk.build h).describesPending
  | some presign =>
    obtain ⟨presignEpoch, sign⟩ := presign
    rw [hpresign] at h
    rcases throws_bind_iff.mp h with hread | ⟨tr₁, tr₂, current, rfl, hread, hrest⟩
    · obtain ⟨error, herror⟩ := throwsOnly_readChainEpoch tr _ hread
      cases herror
    split_ifs at hrest
    · cases (throws_throw_iff.mp hrest).2
    · have honce : ∀ tr, ¬Throws (signAndSend P network requester presignEpoch sign
          (fun _ => submission.build presignEpoch) fuel) tr
          (.epochClosedBeforeAnswer epoch session chainEpoch refusal pending) :=
        fun _ => throws_signAndSend_not (hsigns _ _ hpresign) (hsdk.build presignEpoch)
      rcases throws_caught_pending hdescribe honce hrest with
        hpending | ⟨next, rest, hnext, hexpired⟩
      · exact hpending.describesPending
      · -- What follows a session that never ran throws that the presign expired.
        obtain rfl := Option.some.inj hnext
        rcases throws_bind_iff.mp hexpired with hnow | ⟨_, _, _, -, -, hthrow⟩
        · exact (throws_liftOp_iff.mp hnow).elim
        · cases (throws_throw_iff.mp hthrow).2

end Pending

/-! ## What a request names -/

/-- A dWallet as a request names it. -/
structure NamedDWallet where
  attestationData : Bytes
  publicKey : Bytes
  networkKeyId : Bytes
deriving DecidableEq, Repr

/-- The dWallet that a request carries the attestation of. -/
def DWalletRequest.dwallet : DWalletRequest → Option NamedDWallet
  | .futureSign fields => some ⟨fields.dwalletAttestation.attestationData, fields.dwalletPublicKey,
      fields.dwalletAttestation.networkPubkey⟩
  | .makeSharePublic fields => some ⟨fields.dwalletAttestation.attestationData,
      fields.dwalletPublicKey, fields.dwalletAttestation.networkPubkey⟩
  | .reEncryptShare fields => some ⟨fields.dwalletAttestation.attestationData,
      fields.dwalletPublicKey, fields.networkKeyId⟩
  | _ => none

def DWallet.named (dwallet : DWallet) : NamedDWallet :=
  ⟨dwallet.attestation.attestationData, dwallet.publicKey, dwallet.networkKeyId⟩

/-- The dWallet that an ownership check verified. -/
def IssuedState.named (state : IssuedState) : NamedDWallet :=
  ⟨state.attestation.attestationData, state.publicKey, state.attestation.networkPubkey⟩

/-- The dWallet and the usability result that a call is given together. -/
def EngineCall.given : EngineCall → Option (DWallet × DWalletUsable)
  | requestFutureSignature args => some (args.dwallet, args.usable.toDWalletUsable)
  | makeSharePublic dwallet usable => some (dwallet, usable)
  | reEncryptShare args => some (args.dwallet, args.usable)
  | _ => none

/-- Where the chain keeps the dWallet that an attestation is of. -/
def DWalletAttestation.lookup (attestation : DWalletAttestation) : DWalletLookup where
  curve := attestation.curve.number
  publicKey := attestation.publicKey
  importedSessionIdentifier :=
    if attestation.isImportedKey then some attestation.sessionIdentifier else none

/-- The lookup of a session names the dWallet of the request sent: the dWallet looked up, by its
curve, its public key and the session of its import, and the share attestation whose commit is
asked for. A future sign is looked up by its voucher. -/
def LookupNames (P : Primitives) (request : DWalletRequest) (pending : PendingRequest) : Prop :=
  match request with
  | .makeSharePublic fields => ∃ attested bytes,
      P.parse versionedDWalletDataAttestationBcs fields.dwalletAttestation.attestationData =
        .ok attested ∧ attested.publicKey = fields.dwalletPublicKey ∧
      publicShareAttestationBytes P pending.sessionIdentifier
        ⟨fields.dwalletAttestation.attestationData, attested.intendedChainSender,
          attested.publicKey⟩ fields.publicUserSecretKeyShare = .ok bytes ∧
      pending.kind = .makeSharePublic attested.lookup (P.keccak256 bytes)
  | .reEncryptShare fields => ∃ attested bytes,
      P.parse versionedDWalletDataAttestationBcs fields.dwalletAttestation.attestationData =
        .ok attested ∧ attested.publicKey = fields.dwalletPublicKey ∧
      encryptedShareAttestationBytes P pending.sessionIdentifier
        ⟨fields.dwalletAttestation.attestationData, attested.intendedChainSender,
          attested.publicKey⟩ fields.encryptedCentralizedSecretShareAndProof
        fields.encryptionKey fields.holder.signerPublicKey = .ok bytes ∧
      pending.kind = .reEncryptShare attested.lookup fields.holder.signerPublicKey
        (P.keccak256 bytes)
  | .futureSign fields => pending.kind = .futureSignStepOne fields.futureSignatureVoucher
  | _ => False

/-- A request that the runs of a submission send. -/
def Submission.Sends (P : Primitives) (network : Network) (requester : Requester)
    (submission : Submission T H) (request : DWalletRequest) : Prop :=
  ∃ fuel tr c data, Begins (submission.run P network requester fuel) tr ∧ c ∈ copies tr ∧
    c.data = some data ∧ data.request = request

theorem Submission.Makes.of_sends {Φ : DWalletRequest → Prop} {submission : Submission T H}
    (h : submission.Makes requester Φ) {request : DWalletRequest}
    (hsends : submission.Sends P network requester request) : Φ request := by
  obtain ⟨fuel, tr, c, data, hbegins, hc, hdata, rfl⟩ := hsends
  obtain ⟨data', hdata', hΦ⟩ := h.copiesAsk tr hbegins c hc
  obtain rfl := Option.some.inj (hdata.symm.trans hdata')
  exact hΦ

section Given

variable {connection : Connection} {issued : List IssuedState} {call : EngineCall}
  {dwallet : DWallet} {usable : DWalletUsable} {request : DWalletRequest}

/-- The dWallet that the result's check verified. -/
def checkedDWallet (issued : List IssuedState) (usable : DWalletUsable) : Option NamedDWallet :=
  (issuedGet issued usable.object).map IssuedState.named

/-- A submission whose request one of the share builders makes. -/
theorem makes_shareSubmission {build : ℤ → Except SdkError RequestOfResult}
    {kind : Bytes → Except SdkError PendingRequestKind} {Φ : DWalletRequest → Prop}
    (h : ∀ now built, build now = .ok built → Φ built.request) :
    (shareSubmission (H := H) build kind).Makes requester Φ where
  quiet _ _ := quiet_builtNow build
  built epoch session built hbuild := by
    obtain ⟨now, made, hmade, hrequest⟩ := canGive_builtNow_iff.mp hbuild
    rw [← hrequest]
    exact h now made hmade
  signs _ _ hnone := by cases hnone

theorem makes_submitRequest {kind : PendingRequestKind} {Φ : DWalletRequest → Prop}
    {presign : Option (ℕ × (SignedRequestData → EngineEff Unit H SignedRequest))}
    (hsigns : ∀ epoch sign, presign = some (epoch, sign) →
      Signs requester.keypair.publicKey sign) (h : Φ request) :
    Submission.Makes requester Φ { submitRequest (H := H) request kind with presign } where
  quiet _ _ := always_pure appendable_quiet _
  built epoch session built hbuild := by
    obtain rfl := canGive_pure_iff.mp hbuild
    exact h
  signs := hsigns

/-- The check of a dWallet's attestation ties the whole lookup to the attestation. -/
theorem lookupOf_verified {verified : VerifiedDWalletAttestation} {data : DWalletAttestation}
    (hverified : verifiedDWallet P connection.trusted dwallet = .ok verified)
    (hdata : P.parse versionedDWalletDataAttestationBcs dwallet.attestation.attestationData =
      .ok data) : lookupOf dwallet = data.lookup := by
  have hfor := verifyDWalletAttestationRecord_ok hverified
  obtain rfl : verified.attestation = data := Except.ok.inj (hfor.signed.decodes.symm.trans hdata)
  have hcurve := hfor.curve
  have hkey := hfor.publicKey
  have himported := hfor.imported
  have hsession := hfor.session
  unfold lookupOf DWalletAttestation.lookup
  dsimp only at hcurve hkey himported hsession
  rw [hcurve, hkey, himported]
  cases hasked : dwallet.importedSessionIdentifier with
  | none => simp
  | some session => simp [hsession session hasked]

/-- What a description takes from the attestation of a checked dWallet, and its lookup. -/
theorem dwalletAttested_lookup {verified : VerifiedDWalletAttestation} {attested : DWalletAttested}
    (hverified : verifiedDWallet P connection.trusted dwallet = .ok verified)
    (hattested : dwalletAttested P dwallet = .ok attested) :
    ∃ data, P.parse versionedDWalletDataAttestationBcs dwallet.attestation.attestationData =
        .ok data ∧ data.publicKey = dwallet.publicKey ∧ lookupOf dwallet = data.lookup ∧
      attested = ⟨dwallet.attestation.attestationData, data.intendedChainSender,
        data.publicKey⟩ := by
  obtain ⟨data, hdata, hfields⟩ := bind_ok hattested
  have hparsed := fromPackage_ok hdata
  have hlookup := lookupOf_verified hverified hparsed
  have hkey := congrArg DWalletLookup.publicKey hlookup
  exact ⟨data, hparsed, hkey.symm, hlookup, (Except.ok.inj hfields).symm⟩

theorem describeMakeSharePublic_names {verified : VerifiedDWalletAttestation} {session : Bytes}
    {kind : PendingRequestKind} {fields : MakeSharePublicRequest} {epoch : ℕ}
    {transportKey : Bytes} {curve : ℕ} {networkKeyId : Bytes}
    (hverified : verifiedDWallet P connection.trusted dwallet = .ok verified)
    (hdescribe : describeMakeSharePublic P dwallet session = .ok kind)
    (hshare : fields.publicUserSecretKeyShare = dwallet.userSecretKeyShare)
    (hnamed : (DWalletRequest.makeSharePublic fields).dwallet = some dwallet.named) :
    LookupNames P (.makeSharePublic fields)
      ⟨epoch, session, transportKey, curve, networkKeyId, kind⟩ := by
  obtain ⟨attested, hattested, hrest⟩ := bind_ok hdescribe
  obtain ⟨bytes, hbytes, hkind⟩ := bind_ok hrest
  obtain rfl := Except.ok.inj hkind
  obtain ⟨data, hparsed, hkey, hlookup, rfl⟩ := dwalletAttested_lookup hverified hattested
  obtain ⟨hattestation, hnamedKey, -⟩ := NamedDWallet.mk.inj (Option.some.inj hnamed)
  refine ⟨data, bytes, ?_, hkey.trans hnamedKey.symm, ?_, by rw [hlookup]⟩
  · rw [hattestation]
    exact hparsed
  · rw [hattestation, hshare]
    exact fromPackage_ok hbytes

theorem describeReEncryptShare_names {verified : VerifiedDWalletAttestation} {session : Bytes}
    {kind : PendingRequestKind} {fields : ReEncryptShareRequest} {epoch : ℕ}
    {transportKey : Bytes} {curve : ℕ} {networkKeyId : Bytes}
    (hverified : verifiedDWallet P connection.trusted dwallet = .ok verified)
    (hdescribe : describeReEncryptShare P dwallet fields.encryptedCentralizedSecretShareAndProof
      fields.encryptionKey fields.holder.signerPublicKey session = .ok kind)
    (hnamed : (DWalletRequest.reEncryptShare fields).dwallet = some dwallet.named) :
    LookupNames P (.reEncryptShare fields)
      ⟨epoch, session, transportKey, curve, networkKeyId, kind⟩ := by
  obtain ⟨attested, hattested, hrest⟩ := bind_ok hdescribe
  obtain ⟨bytes, hbytes, hkind⟩ := bind_ok hrest
  obtain rfl := Except.ok.inj hkind
  obtain ⟨data, hparsed, hkey, hlookup, rfl⟩ := dwalletAttested_lookup hverified hattested
  obtain ⟨hattestation, hnamedKey, -⟩ := NamedDWallet.mk.inj (Option.some.inj hnamed)
  refine ⟨data, bytes, ?_, hkey.trans hnamedKey.symm, ?_, by rw [hlookup]⟩
  · rw [hattestation]
    exact hparsed
  · rw [hattestation]
    exact fromPackage_ok hbytes

/-- What is asked of a request of a call: it names the checked dWallet, and where that is the
dWallet given, so do the lookups. -/
structure NamesChecked (P : Primitives) (network : Network) (requester : Requester)
    (issued : List IssuedState) (dwallet : DWallet) (usable : DWalletUsable)
    (submission : Submission T H) (request : DWalletRequest) : Prop where
  named : request.dwallet = checkedDWallet issued usable
  lookups : request.dwallet = some dwallet.named → ∀ epoch session pending,
    submission.DescribesPending network requester epoch session pending →
    LookupNames P request pending

theorem checkedDWallet_of {state : IssuedState} (h : issuedGet issued usable.object = some state) :
    checkedDWallet issued usable = some state.named := by
  unfold checkedDWallet
  rw [h]
  rfl

theorem makes_requestFutureSignature {args : SignArgs} {submission : Submission Unit H}
    {tr : List (EngineEvent Unit H)}
    (h : Gives (requestFutureSignature P connection issued requester args) tr submission) :
    submission.Makes requester (NamesChecked P connection.toNetwork requester issued args.dwallet
      args.usable.toDWalletUsable submission) := by
  obtain ⟨_, scheme, userSignature, now, request, -, -, -, hrequest, rfl⟩ :=
    requestFutureSignature_gives h
  obtain ⟨state, stepOne, hstate, rfl, hnames⟩ := futureSignRequest_names hrequest
  apply makes_submitRequest
  · intro epoch sign hsome
    cases hsome
    exact signs_signFor signs_signGrpcRequest
  · constructor
    · rw [checkedDWallet_of hstate]
      show some (NamedDWallet.mk _ _ _) = some (NamedDWallet.mk _ _ _)
      rw [hnames.dwallet, hnames.publicKey]
    · rintro _ epoch session _ ⟨kept, kind, hdescribe, rfl⟩
      obtain rfl := Except.ok.inj hdescribe
      show PendingRequestKind.futureSignStepOne _ = .futureSignStepOne _
      rw [hnames.voucher]
      rfl

theorem makes_makeSharePublic {submission : Submission Unit H}
    (h : makeSharePublicSubmission P connection issued dwallet usable = .ok submission) :
    submission.Makes requester (NamesChecked P connection.toNetwork requester issued dwallet usable
      submission) := by
  obtain ⟨_, -, -, hverified, rfl⟩ := makeSharePublicSubmission_ok h
  apply makes_shareSubmission
  intro now built hbuilt
  obtain ⟨state, hstate, rfl⟩ := makeSharePublicRequest_names hbuilt
  constructor
  · rw [checkedDWallet_of hstate]
    rfl
  · rintro hnamed epoch session _ ⟨kept, kind, hdescribe, rfl⟩
    exact describeMakeSharePublic_names hverified hdescribe rfl hnamed

theorem makes_reEncryptShare {args : ReEncryptArgs} {submission : Submission Unit H}
    {tr : List (EngineEvent Unit H)}
    (h : Gives (reEncryptShareSubmission P connection issued args) tr submission) :
    submission.Makes requester (NamesChecked P connection.toNetwork requester issued args.dwallet
      args.usable submission) := by
  obtain ⟨_, _, _, encryptedShareAndProof, -, -, hverified, -, rfl⟩ :=
    reEncryptShareSubmission_gives h
  apply makes_shareSubmission
  intro now built hbuilt
  obtain ⟨state, hstate, rfl⟩ := reEncryptShareRequest_names hbuilt
  constructor
  · rw [checkedDWallet_of hstate]
    rfl
  · rintro hnamed epoch session _ ⟨kept, kind, hdescribe, rfl⟩
    exact describeReEncryptShare_names hverified hdescribe hnamed

theorem makes_given {submission : Submission call.Kept H}
    {tr : List (EngineEvent call.Kept H)} (hgiven : call.given = some (dwallet, usable))
    (h : Gives (call.submission P connection issued requester) tr submission) :
    submission.Makes requester
      (NamesChecked P connection.toNetwork requester issued dwallet usable submission) := by
  cases call with
  | requestFutureSignature args =>
    cases hgiven
    exact makes_requestFutureSignature h
  | makeSharePublic dwallet' usable' =>
    cases hgiven
    exact makes_makeSharePublic (gives_sdk_iff.mp h).2
  | reEncryptShare args =>
    cases hgiven
    exact makes_reEncryptShare h
  | _ => cases hgiven

/-- Before its submission a call sends nothing. -/
theorem quiet_submission (call : EngineCall) :
    Always Quiet (call.submission (H := H) P connection issued requester) := by
  have happend := appendable_quiet (T := Unit) (H := H)
  cases call with
  | requestFutureSignature args =>
    refine always_bind happend (always_sdk happend _) fun scheme => ?_
    refine always_bind happend (always_sdk happend _) fun _ => ?_
    refine always_bind happend (always_sdk happend _) fun _ => ?_
    refine always_bind happend (always_sdk happend _) fun _ => ?_
    refine always_bind happend (always_sdk happend _) fun userSignature => ?_
    refine always_bind happend (always_perform steady_quiet trivial) fun now => ?_
    exact always_bind happend (always_sdk happend _) fun request => always_pure happend _
  | reEncryptShare args =>
    refine always_bind happend (always_sdk happend _) fun _ => ?_
    refine always_bind happend (always_sdk happend _) fun _ => ?_
    refine always_bind happend (always_sdk happend _) fun _ => ?_
    refine always_bind happend ?_ fun _ => ?_
    · exact always_bind happend (quiet_builtNow _) fun _ => always_pure happend _
    · exact always_bind happend (always_sdk happend _) fun _ => always_pure happend _
  | _ => exact always_sdk appendable_quiet _

/-- What a call sends, its submission sends. -/
theorem sends_of_call {fuel : ℕ} {tr : List (EngineEvent call.Kept H)}
    (h : Begins (call.run P connection issued requester fuel) tr) {c : SignedRequest}
    (hc : c ∈ copies tr) : ∃ submission : Submission call.Kept H,
      CanGive (call.submission P connection issued requester) submission ∧
      ∃ tr', Begins (submission.run P connection.toNetwork requester fuel) tr' ∧
        c ∈ copies tr' := by
  rcases begins_bind h with hmaking | ⟨tr₁, tr₂, submission, rfl, hmade, hrun⟩
  · rw [(quiet_submission call tr hmaking).2] at hc
    cases hc
  · rw [copies_append, (quiet_submission call tr₁ hmade.begins).2, List.nil_append] at hc
    exact ⟨submission, hmade.canGive, tr₂, hrun, hc⟩

/-- A call throws of itself what its checks throw. -/
theorem throwsOnly_submission (call : EngineCall) :
    ThrowsOnly IsSdk (call.submission (H := H) P connection issued requester) := by
  cases call with
  | requestFutureSignature args =>
    refine throwsOnly_bind (throwsOnly_sdk _) fun scheme => ?_
    refine throwsOnly_bind (throwsOnly_sdk _) fun _ => ?_
    refine throwsOnly_bind (throwsOnly_sdk _) fun _ => ?_
    refine throwsOnly_bind (throwsOnly_sdk _) fun _ => ?_
    refine throwsOnly_bind (throwsOnly_sdk _) fun userSignature => ?_
    refine throwsOnly_bind (throwsOnly_perform _) fun now => ?_
    exact throwsOnly_bind (throwsOnly_sdk _) fun request => throwsOnly_pure _
  | reEncryptShare args =>
    refine throwsOnly_bind (throwsOnly_sdk _) fun _ => ?_
    refine throwsOnly_bind (throwsOnly_sdk _) fun _ => ?_
    refine throwsOnly_bind (throwsOnly_sdk _) fun _ => ?_
    refine throwsOnly_bind ?_ fun _ => ?_
    · exact throwsOnly_bind (throwsOnly_builtNow _) fun _ => throwsOnly_pure _
    · exact throwsOnly_bind (throwsOnly_sdk _) fun _ => throwsOnly_pure _
  | _ => exact throwsOnly_sdk _

/-- A close that a call throws is of its submission, which sent all that the call sent. -/
theorem throws_call_pending {fuel : ℕ} {tr : List (EngineEvent call.Kept H)}
    {epoch chainEpoch : ℕ} {session : Bytes} {refusal : String} {pending : PendingRequest}
    (hgiven : call.given = some (dwallet, usable))
    (h : Throws (call.run P connection issued requester fuel) tr
      (.epochClosedBeforeAnswer epoch session chainEpoch refusal pending)) :
    ∃ submission : Submission call.Kept H,
      CanGive (call.submission P connection issued requester) submission ∧
      (∀ c ∈ copies tr, ∃ data, c.data = some data ∧
        submission.Sends P connection.toNetwork requester data.request) ∧
      submission.DescribesPending connection.toNetwork requester epoch session pending := by
  rcases throws_bind_iff.mp h with hmaking | ⟨tr₁, tr₂, submission, rfl, hmade, hrun⟩
  · obtain ⟨error, herror⟩ := throwsOnly_submission call tr _ hmaking
    cases herror
  have hmakes := makes_given hgiven hmade
  refine ⟨submission, hmade.canGive, fun c hc => ?_,
    throws_run_pending (submission_throwsSdk hmade) hmakes.signs hrun⟩
  rw [copies_append, (quiet_submission call tr₁ hmade.begins).2, List.nil_append] at hc
  obtain ⟨data, hdata, -⟩ := hmakes.copiesAsk tr₂ hrun.begins c hc
  exact ⟨data, hdata, fuel, tr₂, c, data, hrun.begins, hc, hdata, rfl⟩

end Given

/-- All that a call sends is of a request of its submission, and a close that it throws carries
what the submission describes; and a request of it names the dWallet that was given, and so does
every lookup that it describes, exactly where that dWallet is the one that the check of the
usability result verified. -/
theorem acts_on_given_iff (P : Primitives) (H : Type) (connection : Connection)
    (issued : List IssuedState) (requester : Requester) {call : EngineCall} {dwallet : DWallet}
    {usable : DWalletUsable} (hgiven : call.given = some (dwallet, usable)) :
    (∀ fuel tr, Begins (call.run (H := H) P connection issued requester fuel) tr →
      ∀ c ∈ copies tr, ∃ (submission : Submission call.Kept H) (data : SignedRequestData),
        CanGive (call.submission P connection issued requester) submission ∧
        c.data = some data ∧
        submission.Sends P connection.toNetwork requester data.request) ∧
    (∀ fuel tr epoch session chainEpoch refusal pending,
      Throws (call.run (H := H) P connection issued requester fuel) tr
        (.epochClosedBeforeAnswer epoch session chainEpoch refusal pending) →
      ∃ submission : Submission call.Kept H,
        CanGive (call.submission P connection issued requester) submission ∧
        (∀ c ∈ copies tr, ∃ data, c.data = some data ∧
          submission.Sends P connection.toNetwork requester data.request) ∧
        submission.DescribesPending connection.toNetwork requester epoch session pending) ∧
    ∀ (submission : Submission call.Kept H) (request : DWalletRequest),
      CanGive (call.submission P connection issued requester) submission →
      submission.Sends P connection.toNetwork requester request →
      ((request.dwallet = some dwallet.named ∧ ∀ epoch session pending,
          submission.DescribesPending connection.toNetwork requester epoch session pending →
          LookupNames P request pending) ↔
        checkedDWallet issued usable = some dwallet.named) := by
  refine ⟨fun fuel tr hbegins c hc => ?_, fun fuel tr _ _ _ _ _ h => throws_call_pending hgiven h,
    ?_⟩
  · obtain ⟨submission, ⟨tr₁, hmade⟩, tr', hrun, hc'⟩ := sends_of_call hbegins hc
    obtain ⟨data, hdata, -⟩ := (makes_given hgiven hmade).copiesAsk tr' hrun c hc'
    exact ⟨submission, data, hmade.canGive, hdata, fuel, tr', c, data, hrun, hc', hdata, rfl⟩
  · rintro submission request ⟨tr, hmade⟩ hsends
    have hnames := (makes_given hgiven hmade).of_sends hsends
    constructor
    · rintro ⟨hnamed, -⟩
      rw [← hnames.named, hnamed]
    · intro hchecked
      have hnamed := hnames.named.trans hchecked
      exact ⟨hnamed, hnames.lookups hnamed⟩

/-! ### Two attestations with one public output -/

/-- What makes the sample dWallet's share public, with the result of the state's check. -/
def sampleReveal (state : IssuedState) : Submission Unit Unit :=
  shareSubmission
    (fun now => makeSharePublicRequest [state] now sampleUsable.object
      sampleDWallet.userSecretKeyShare)
    (describeMakeSharePublic samplePrimitives sampleDWallet)

def sampleRevealed (state : IssuedState) : DWalletRequest :=
  .makeSharePublic ⟨state.publicKey, state.attestation, sampleDWallet.userSecretKeyShare⟩

theorem sampleReveal_made (state : IssuedState) :
    CanGive ((EngineCall.makeSharePublic sampleDWallet sampleUsable).submission samplePrimitives
      sampleShareConnection [state] sampleMockRequester) (sampleReveal state) := by
  have hserved : requireServedDWallet sampleShareConnection.toNetwork sampleDWallet = .ok () := by
    decide +kernel
  have hverified : verifiedDWallet samplePrimitives sampleTrustedNetwork sampleDWallet =
      .ok sampleVerified := by decide +kernel
  have hmade : makeSharePublicSubmission (H := Unit) samplePrimitives sampleShareConnection
      [state] sampleDWallet sampleUsable = .ok (sampleReveal state) :=
    makeSharePublicSubmission_of hserved rfl hverified
  exact canGive_sdk_iff.mpr hmade

/-- A chain at epoch 7, and a validator that answers no request. -/
def sampleSilentValidator (_ : ℕ) : ∀ op : EngineOp Unit Unit, op.Ans
  | .chainEpoch => .ok 7
  | .keepEpoch read => read
  | .epoch => 7
  | .now => 0
  | .sleep _ => ()
  | .freshPreimage => List.replicate 32 3
  | .build .. => .error (.error "")
  | .describe .. => .error (.error "")
  | .waitingRequestHolder _ => none
  | .signRequest _ => .error (.error "")
  | .submitTransaction .. => .error ⟨some 13, none, ""⟩
  | .record _ => .error (.error "")

/-- Whether the run against the silent validator sends the state's request. -/
def sampleRevealSent (state : IssuedState) : Bool :=
  (((sampleReveal state).run samplePrimitives sampleShareConnection.toNetwork sampleMockRequester
    1).run.transcript sampleSilentValidator 0).any fun r =>
      (copies r.1).any fun c => decide (c.data.map (·.request) = some (sampleRevealed state))

theorem sends_of_sampleRevealSent {state : IssuedState} (h : sampleRevealSent state = true) :
    (sampleReveal state).Sends samplePrimitives sampleShareConnection.toNetwork
      sampleMockRequester (sampleRevealed state) := by
  obtain ⟨⟨tr, result⟩, hsome, hsent⟩ := (Option.any_eq_true _ _).mp h
  obtain ⟨c, hc, hdecided⟩ := List.any_eq_true.mp hsent
  obtain ⟨data, hdata, hrequest⟩ := Option.map_eq_some_iff.mp (of_decide_eq_true hdecided)
  exact ⟨1, tr, c, data, ⟨_, Prog.returns_of_transcript hsome⟩, hc, hdata, hrequest⟩

/-- With the result of its own check, what makes the sample dWallet's share public names it. -/
theorem made_public_names_sample :
    (sampleRevealed sampleWaitingShare).dwallet = some sampleDWallet.named ∧
    ∀ epoch session pending,
      (sampleReveal sampleWaitingShare).DescribesPending sampleShareConnection.toNetwork
        sampleMockRequester epoch session pending →
      LookupNames samplePrimitives (sampleRevealed sampleWaitingShare) pending := by
  have hgiven : (EngineCall.makeSharePublic sampleDWallet sampleUsable).given =
      some (sampleDWallet, sampleUsable) := rfl
  have hsent : sampleRevealSent sampleWaitingShare = true := by decide +kernel
  obtain ⟨-, -, hnames⟩ := acts_on_given_iff samplePrimitives Unit sampleShareConnection
    [sampleWaitingShare] sampleMockRequester hgiven
  exact (hnames _ _ (sampleReveal_made _) (sends_of_sampleRevealSent hsent)).mpr
    (by decide +kernel)

/-- A check that verified an attestation of another session, with the sample dWallet's key and
public output. -/
def sampleOtherChecked : IssuedState :=
  { sampleWaitingShare with
    waiting := false
    attestation := { sampleDWallet.attestation with
      attestationData := versionedDWalletDataAttestationBcs.encode
        { sampleAttestation with sessionIdentifier := List.replicate 32 8 } } }

/-- The result of the other attestation's check passes for the sample dWallet: what makes its
share public names the other attestation. -/
theorem other_attestation_revealed :
    (EngineCall.makeSharePublic sampleDWallet sampleUsable).given =
      some (sampleDWallet, sampleUsable) ∧
    CanGive ((EngineCall.makeSharePublic sampleDWallet sampleUsable).submission samplePrimitives
      sampleShareConnection [sampleOtherChecked] sampleMockRequester)
      (sampleReveal sampleOtherChecked) ∧
    (sampleReveal sampleOtherChecked).Sends samplePrimitives sampleShareConnection.toNetwork
      sampleMockRequester (sampleRevealed sampleOtherChecked) ∧
    checkedDWallet [sampleOtherChecked] sampleUsable = some sampleOtherChecked.named ∧
    sampleOtherChecked.publicOutput = sampleDWallet.networkPublicOutput ∧
    (sampleRevealed sampleOtherChecked).dwallet = some sampleOtherChecked.named ∧
    (sampleRevealed sampleOtherChecked).dwallet ≠ some sampleDWallet.named := by
  have hsent : sampleRevealSent sampleOtherChecked = true := by decide +kernel
  refine ⟨rfl, sampleReveal_made _, sends_of_sampleRevealSent hsent, by decide +kernel, rfl, rfl,
    by decide +kernel⟩

end Ika
