import IkaSdk.Core.Common.SentSessions
import IkaSdk.Lib.Resolved

/-! Signing through a request signer beside signing with the key itself: the request is built
with a placeholder key, so a check of the key sees the placeholder. -/

namespace Ika

open Wire Interaction Eff

variable {P : Primitives} {T H : Type} {requester : Requester} {holder : Option Bytes}

/-! ## A signer that signs with a key -/

/-- Every signature of the secret key verifies under the public key. -/
def SigningKeypair (P : Primitives) (keypair : TransportKeypair) : Prop :=
  ∀ message, P.ed25519Verify (P.ed25519Sign message keypair.secretKey) message
    keypair.publicKey = .ok true

def Requester.byKey (requester : Requester) : Requester := { requester with signer := false }

def Requester.bySigner (requester : Requester) : Requester := { requester with signer := true }

/-- The signer's answers, which are signatures of the secret key, and the holder that was kept
for the request. -/
def signerAnswers (P : Primitives) (secretKey : Bytes) (holder : Option Bytes) :
    ∀ op : EngineOp T H, Prog (engineInterface T H) op.Ans
  | .waitingRequestHolder _ => .pure holder
  | .signRequest bytes => .pure (.ok (P.ed25519Sign (requestSigningMessage bytes) secretKey))
  | .chainEpoch => .perform (I := engineInterface T H) .chainEpoch
  | .keepEpoch read => .perform (I := engineInterface T H) (.keepEpoch read)
  | .epoch => .perform (I := engineInterface T H) .epoch
  | .now => .perform (I := engineInterface T H) .now
  | .sleep ms => .perform (I := engineInterface T H) (.sleep ms)
  | .freshPreimage => .perform (I := engineInterface T H) .freshPreimage
  | .build epoch session => .perform (I := engineInterface T H) (.build epoch session)
  | .describe session kept => .perform (I := engineInterface T H) (.describe session kept)
  | .submitTransaction signed timeoutMs =>
    .perform (I := engineInterface T H) (.submitTransaction signed timeoutMs)
  | .record op => .perform (I := engineInterface T H) (.record op)

/-- The program once the signer and the kept holder have answered. -/
def resolved {α : Type} (P : Primitives) (requester : Requester) (holder : Option Bytes)
    (p : EngineEff T H α) : EngineEff T H α :=
  resolve (signerAnswers P requester.keypair.secretKey holder) p

theorem resolved_bind {α β : Type} (p : EngineEff T H α) (f : α → EngineEff T H β) :
    resolved P requester holder (p >>= f) =
      resolved P requester holder p >>= fun a => resolved P requester holder (f a) :=
  resolve_bind p f

theorem resolved_sdk {α : Type} (x : Except SdkError α) :
    resolved P requester holder (sdk x : EngineEff T H α) = sdk x := rfl

theorem resolved_waitingRequestHolder (request : DWalletRequest) :
    resolved P requester holder (perform (T := T) (H := H) (.waitingRequestHolder request)) =
      pure holder := resolve_liftOp rfl

theorem resolved_signRequest (bytes : Bytes) :
    resolved P requester holder (perform (T := T) (H := H) (.signRequest bytes)) =
      pure (.ok (P.ed25519Sign (requestSigningMessage bytes) requester.keypair.secretKey)) :=
  resolve_liftOp rfl

theorem sdk_bind {α β : Type} (x : Except SdkError α) (f : α → Except SdkError β) :
    (sdk x >>= fun a => sdk (f a) : EngineEff T H β) = sdk (x >>= f) := by
  cases x with
  | error e => rfl
  | ok a => rfl

theorem sdk_inj {α : Type} {x y : Except SdkError α}
    (h : (sdk x : EngineEff T H α) = sdk y) : x = y := by
  have hpure : (Prog.pure (x.mapError EngineError.sdk) :
      Prog (engineInterface T H) (Except (EngineError T) α)) =
        .pure (y.mapError EngineError.sdk) := congrArg ExceptT.run h
  have hmap := Prog.pure.inj hpure
  cases x with
  | error e =>
    cases y with
    | error e' =>
      cases hmap
      rfl
    | ok b => cases hmap
  | ok a =>
    cases y with
    | error e' => cases hmap
    | ok b =>
      cases hmap
      rfl

/-! ## What is signed -/

section Signed

/-- The bytes of a request, within the limits. -/
def requestBytes (data : SignedRequestData) : Except SdkError Bytes := do
  assertRequestFieldsWithinLimits data
  let signedRequestData ← fromPackage (signedRequestDataBcs.serialize data)
  assertSignedRequestDataWithinLimit signedRequestData
  return signedRequestData

/-- The request with its signature under the key. -/
def signedWith (P : Primitives) (keypair : TransportKeypair) (signedRequestData : Bytes) :
    SignedRequest where
  userSignature := userSignatureBcs.encode (.ed25519
    (P.ed25519Sign (requestSigningMessage signedRequestData) keypair.secretKey) keypair.publicKey)
  signedRequestData := signedRequestData

theorem serialize_ed25519 (signature publicKey : Bytes) :
    userSignatureBcs.serialize (.ed25519 signature publicKey) =
      .ok (userSignatureBcs.encode (.ed25519 signature publicKey)) := rfl

theorem signSerializedRequest_signedWith (keypair : TransportKeypair) (signedRequestData : Bytes) :
    signSerializedRequest P keypair signedRequestData =
      assertSignedRequestDataWithinLimit signedRequestData >>= fun _ =>
        .ok (signedWith P keypair signedRequestData) := rfl

theorem signRequestBytes_eq (keypair : TransportKeypair) (data : SignedRequestData) :
    signRequestBytes P keypair data =
      requestBytes data >>= fun bytes => .ok (signedWith P keypair bytes) := by
  unfold signRequestBytes requestBytes
  cases assertRequestFieldsWithinLimits data with
  | error e => rfl
  | ok _ =>
    cases signedRequestDataBcs.serialize data with
    | error e => rfl
    | ok bytes =>
      simp only [ok_bind, fromPackage, signSerializedRequest_signedWith]
      cases assertSignedRequestDataWithinLimit bytes with
      | error e => rfl
      | ok _ => rfl

theorem signedBySigner_eq (hkey : SigningKeypair P requester.keypair) (bytes : Bytes) :
    signedBySigner P requester.keypair.publicKey bytes
      (P.ed25519Sign (requestSigningMessage bytes) requester.keypair.secretKey) =
        .ok (signedWith P requester.keypair bytes) := by
  unfold signedBySigner
  rw [hkey, serialize_ed25519]
  rfl

/-- Through the signer, the bytes that pass the checks are signed under the requester's key. -/
theorem resolved_signFor_bySigner (hkey : SigningKeypair P requester.keypair)
    {sign : TransportKeypair → EngineEff T H SignedRequest} {checked : EngineEff T H Bytes}
    (hsign : resolved P requester holder (sign (unsignedKeypair P)) =
      checked >>= fun bytes => pure (signedWith P (unsignedKeypair P) bytes)) :
    resolved P requester holder (signFor P requester.bySigner sign) =
      checked >>= fun bytes => pure (signedWith P requester.keypair bytes) := by
  unfold signFor
  rw [if_pos (show requester.bySigner.signer = true from rfl), resolved_bind, hsign, bind_assoc]
  congr 1
  funext bytes
  rw [pure_bind, resolved_bind, resolved_signRequest, pure_bind]
  show resolved P requester holder (sdk (signedBySigner P requester.keypair.publicKey bytes
    (P.ed25519Sign (requestSigningMessage bytes) requester.keypair.secretKey))) = _
  rw [signedBySigner_eq hkey]
  rfl

end Signed

/-! ## Requests that `signGrpcRequest` signs -/

section Grpc

/-- The bytes that `signGrpcRequest` signs for the holder that was kept, where it checks the
key. -/
def grpcBytes (holder : Option Bytes) (publicKey : Bytes) (data : SignedRequestData) :
    Except SdkError Bytes := do
  requireNoDWalletSign data.request
  requireWaitingHolder holder publicKey
  requestBytes data

theorem resolved_signGrpcRequest (keypair : TransportKeypair) (data : SignedRequestData) :
    resolved P requester holder (signGrpcRequest (T := T) (H := H) P keypair data) =
      sdk (grpcBytes holder keypair.publicKey data) >>= fun bytes =>
        pure (signedWith P keypair bytes) := by
  unfold signGrpcRequest grpcBytes
  rw [← sdk_bind, resolved_bind, bind_assoc]
  congr 1
  funext _
  rw [resolved_bind, resolved_waitingRequestHolder, pure_bind, ← sdk_bind, resolved_bind,
    bind_assoc, signRequestBytes_eq, ← sdk_bind, resolved_sdk]
  congr 1
  funext _
  rw [resolved_bind]
  rfl

theorem resolved_signGrpc_byKey (data : SignedRequestData) :
    resolved P requester holder (signGrpc (T := T) (H := H) P requester.byKey data) =
      sdk (grpcBytes holder requester.keypair.publicKey data) >>= fun bytes =>
        pure (signedWith P requester.keypair bytes) :=
  resolved_signGrpcRequest requester.keypair data

/-- Through the signer the placeholder's key is checked, and the signature is the same. -/
theorem resolved_signGrpc_bySigner (hkey : SigningKeypair P requester.keypair)
    (data : SignedRequestData) :
    resolved P requester holder (signGrpc (T := T) (H := H) P requester.bySigner data) =
      sdk (grpcBytes holder (unsignedKeypair P).publicKey data) >>= fun bytes =>
        pure (signedWith P requester.keypair bytes) :=
  resolved_signFor_bySigner hkey (resolved_signGrpcRequest (unsignedKeypair P) data)

/-- The kept holder, if there is one, is the request key exactly if it is the placeholder. -/
def HolderAgrees (P : Primitives) (requester : Requester) (holder : Option Bytes) : Prop :=
  ∀ key, holder = some key → (requester.keypair.publicKey = key ↔
    (unsignedKeypair P).publicKey = key)

def waitingRefusal (holder : Bytes) : SdkError :=
  .error ("the dWallet waits for its holder's acceptance, and only that holder may " ++
    "re-encrypt its share or make it public while it waits: sign this request with the key " ++
    toHex holder)

theorem requireWaitingHolder_some (key publicKey : Bytes) :
    requireWaitingHolder (some key) publicKey = ensure (publicKey = key) (waitingRefusal key) :=
  rfl

theorem requireWaitingHolder_congr {publicKey publicKey' : Bytes}
    (h : ∀ key, holder = some key → (publicKey = key ↔ publicKey' = key)) :
    requireWaitingHolder holder publicKey = requireWaitingHolder holder publicKey' := by
  cases holder with
  | none => rfl
  | some key =>
    rw [requireWaitingHolder_some, requireWaitingHolder_some]
    unfold ensure
    by_cases hkey : publicKey = key
    · rw [if_pos hkey, if_pos ((h key rfl).mp hkey)]
    · rw [if_neg hkey, if_neg (mt (h key rfl).mpr hkey)]

theorem signGrpc_alike (hkey : SigningKeypair P requester.keypair)
    (hagrees : HolderAgrees P requester holder) (data : SignedRequestData) :
    resolved P requester holder (signGrpc (T := T) (H := H) P requester.bySigner data) =
      resolved P requester holder (signGrpc P requester.byKey data) := by
  rw [resolved_signGrpc_bySigner hkey, resolved_signGrpc_byKey]
  unfold grpcBytes
  rw [requireWaitingHolder_congr hagrees]

/-! ### The texts of the refusals -/

/-- The text is of the form "the c…". -/
def StartsThe (c : Char) (text : String) : Prop :=
  ∃ rest, text.toList = 't' :: 'h' :: 'e' :: ' ' :: c :: rest

theorem StartsThe.append {c : Char} {text : String} (h : StartsThe c text) (more : String) :
    StartsThe c (text ++ more) := by
  obtain ⟨rest, htext⟩ := h
  refine ⟨rest ++ more.toList, ?_⟩
  rw [String.toList_append, htext]
  rfl

theorem StartsThe.unique {c c' : Char} {text : String} (h : StartsThe c text)
    (h' : StartsThe c' text) : c = c' := by
  obtain ⟨rest, htext⟩ := h
  obtain ⟨rest', htext'⟩ := h'
  rw [htext] at htext'
  cases htext'
  rfl

theorem startsThe_waitingRefusal (key : Bytes) : StartsThe 'd' (waitingRefusal key).message := by
  apply StartsThe.append
  apply StartsThe.append
  exact ⟨_, rfl⟩

/-- The limits and the format refuse a request in other words than a waiting share does. -/
theorem requestBytes_ne_waitingRefusal {data : SignedRequestData} {key : Bytes} :
    requestBytes data ≠ .error (waitingRefusal key) := by
  have hother : ∀ {c : Char} {message : String}, StartsThe c message → c ≠ 'd' →
      SdkError.error message ≠ waitingRefusal key := by
    intro c message hstarts hc heq
    apply hc
    apply hstarts.unique
    rw [show message = (waitingRefusal key).message from congrArg SdkError.message heq]
    exact startsThe_waitingRefusal key
  intro h
  rcases bind_error h with hfields | ⟨_, -, h⟩
  · unfold assertRequestFieldsWithinLimits at hfields
    split at hfields
    · cases hfields
    · refine hother (c := 'r') ?_ (by decide) (Except.error.inj hfields)
      repeat apply StartsThe.append
      exact ⟨_, rfl⟩
  rcases bind_error h with hformat | ⟨bytes, -, h⟩
  · unfold Codec.serialize fromPackage at hformat
    split_ifs at hformat
    exact hother (c := 'v') ⟨_, rfl⟩ (by decide) (Except.error.inj hformat)
  rcases bind_error h with hlimit | ⟨_, -, h⟩
  · unfold assertSignedRequestDataWithinLimit ensure at hlimit
    split_ifs at hlimit
    refine hother (c := 's') ?_ (by decide) (Except.error.inj hlimit)
    repeat apply StartsThe.append
    exact ⟨_, rfl⟩
  · cases h

theorem grpcBytes_eq {data : SignedRequestData} (hkind : dwalletSignRequestKind data.request = none)
    (publicKey : Bytes) :
    grpcBytes holder publicKey data =
      requireWaitingHolder holder publicKey >>= fun _ => requestBytes data := by
  have hrequire : requireNoDWalletSign data.request = .ok () := by
    unfold requireNoDWalletSign
    rw [hkind]
  unfold grpcBytes
  rw [hrequire, ok_bind]

theorem sdk_signedWith (keypair : TransportKeypair) (x : Except SdkError Bytes) :
    (sdk x >>= fun bytes => pure (signedWith P keypair bytes) : EngineEff T H SignedRequest) =
      sdk (x >>= fun bytes => .ok (signedWith P keypair bytes)) := by
  cases x with
  | error e => rfl
  | ok bytes => rfl

/-- A check that passes for one key and fails for another tells them apart. -/
theorem waiting_congr {keypair : TransportKeypair} {data : SignedRequestData}
    {key publicKey publicKey' : Bytes}
    (h : (requireWaitingHolder (some key) publicKey >>= fun _ => requestBytes data) >>=
        (fun bytes => Except.ok (signedWith P keypair bytes)) =
      (requireWaitingHolder (some key) publicKey' >>= fun _ => requestBytes data) >>= fun bytes =>
        Except.ok (signedWith P keypair bytes))
    (hkey : publicKey = key) : publicKey' = key := by
  by_contra hother
  rw [requireWaitingHolder_some, requireWaitingHolder_some, ensure_of hkey, ensure,
    if_neg hother, ok_bind, error_bind, error_bind] at h
  rcases bind_error h with hbytes | ⟨bytes, -, hsigned⟩
  · exact requestBytes_ne_waitingRefusal hbytes
  · cases hsigned

theorem signGrpc_alike_iff (hkey : SigningKeypair P requester.keypair) {data : SignedRequestData}
    (hkind : dwalletSignRequestKind data.request = none) :
    resolved P requester holder (signGrpc (T := T) (H := H) P requester.bySigner data) =
      resolved P requester holder (signGrpc P requester.byKey data) ↔
        HolderAgrees P requester holder := by
  refine ⟨fun h key hholder => ?_, fun hagrees => signGrpc_alike hkey hagrees data⟩
  rw [resolved_signGrpc_bySigner hkey, resolved_signGrpc_byKey, sdk_signedWith,
    sdk_signedWith] at h
  have hboth := sdk_inj h
  rw [grpcBytes_eq hkind, grpcBytes_eq hkind, hholder] at hboth
  exact ⟨waiting_congr hboth.symm, waiting_congr hboth⟩

end Grpc

/-! ## Sign requests -/

section Sign

variable {issued : List IssuedState} {usable : DWalletUsableOf}

/-- The checks of a sign, up to its signature: they read nothing of the key. -/
def checkedSign (P : Primitives) (issued : List IssuedState) :
    OwnershipEff H (Bytes × List IssuedState) := do
  let signedData ← readSignedData
  let prepared ← prepareSign P signedData
  let ownership ← readOwnership
  requireRequestChain (checkedChain issued ownership) prepared.requestChain
  let (result, issued) ← requireDWalletUsable P issued ownership prepared.sign.dwalletAttestation
  match issuedGet issued result with
  | none =>
    throw (.dwalletUsabilityNotChecked "the usability result was not made by assertDWalletUsable")
  | some recorded =>
    requireRequestChain (some recorded.chain) prepared.requestChain
    return (prepared.signedRequestData, issued)

theorem signDWalletSignRequest_eq (keypair : TransportKeypair) :
    signDWalletSignRequest (H := H) P issued keypair = (do
      let checked ← checkedSign P issued
      let signed ← signSerializedRequest P keypair checked.1
      return (signed, checked.2)) := by
  unfold signDWalletSignRequest checkedSign
  simp only [bind_assoc]
  congr 1
  funext signedData
  congr 1
  funext prepared
  congr 1
  funext ownership
  congr 1
  funext _
  congr 1
  funext checked
  obtain ⟨result, issued'⟩ := checked
  dsimp only
  cases issuedGet issued' result with
  | none => rfl
  | some recorded =>
    simp only [bind_assoc]
    rfl

/-- The bytes that a sign request signs, once its checks passed. -/
def usableBytes (P : Primitives) (issued : List IssuedState) (usable : DWalletUsableOf)
    (data : SignedRequestData) : EngineEff T H Bytes :=
  ExceptT.mk (((checkedSign (H := H) P issued).run.interp (usableAnswers data usable)) >>=
    fun outcome => .pure ((outcome.map Prod.fst).mapError EngineError.sdk))

theorem signWithUsable_eq (keypair : TransportKeypair) (data : SignedRequestData) :
    signWithUsable (T := T) (H := H) P issued usable keypair data =
      usableBytes P issued usable data >>= fun bytes =>
        sdk (signSerializedRequest P keypair bytes) := by
  apply ExceptT.ext
  unfold signWithUsable usableBytes
  rw [signDWalletSignRequest_eq]
  show ((checkedSign (H := H) P issued).run >>= ExceptT.bindCont fun checked => do
      let signed ← signSerializedRequest P keypair checked.1
      return (signed, checked.2)).interp (usableAnswers data usable) >>= _ =
    (((checkedSign (H := H) P issued).run.interp (usableAnswers data usable)) >>= _) >>= _
  rw [Prog.interp_bind, bind_assoc, bind_assoc]
  congr 1
  funext outcome
  cases outcome with
  | error e => rfl
  | ok checked =>
    show ((ExceptT.run (do
        let signed ← (liftM (signSerializedRequest P keypair checked.1) :
          OwnershipEff H SignedRequest)
        return (signed, checked.2))).interp (usableAnswers data usable) >>= _) =
      (sdk (signSerializedRequest P keypair checked.1) : EngineEff T H SignedRequest).run
    cases signSerializedRequest P keypair checked.1 with
    | error e => rfl
    | ok signed => rfl

/-- The key of a sign request is used for its signature only. -/
theorem signWithUsable_alike (hkey : SigningKeypair P requester.keypair)
    (data : SignedRequestData) :
    resolved P requester holder (signFor (T := T) (H := H) P requester.bySigner fun keypair =>
        signWithUsable P issued usable keypair data) =
      resolved P requester holder (signFor P requester.byKey fun keypair =>
        signWithUsable P issued usable keypair data) := by
  have hsigned : ∀ keypair, resolved P requester holder
      (signWithUsable (T := T) (H := H) P issued usable keypair data) =
        (resolved P requester holder (usableBytes P issued usable data) >>= fun bytes =>
          sdk (assertSignedRequestDataWithinLimit bytes >>= fun _ => .ok bytes)) >>= fun bytes =>
            pure (signedWith P keypair bytes) := by
    intro keypair
    rw [signWithUsable_eq, resolved_bind, bind_assoc]
    congr 1
    funext bytes
    rw [signSerializedRequest_signedWith, resolved_sdk]
    cases assertSignedRequestDataWithinLimit bytes with
    | error e => rfl
    | ok _ => rfl
  rw [resolved_signFor_bySigner hkey (hsigned (unsignedKeypair P))]
  exact (hsigned requester.keypair).symm

end Sign

/-! ## Whole submissions -/

section Submissions

variable {network : Network} {fuel : ℕ}
  {describe : Bytes → T → EngineEff T H PendingRequestKind}
  {build : ℕ → Bytes → EngineEff T H (BuiltRequest T)}

/-- Two programs, by signer and by key, that come to the same once the signer answered. -/
abbrev Alike {α : Type} (P : Primitives) (requester : Requester) (holder : Option Bytes)
    (bySigner byKey : EngineEff T H α) : Prop :=
  resolved P requester holder bySigner = resolved P requester holder byKey

theorem alike_signAndSend {epoch : ℕ} {sign sign' : SignedRequestData → EngineEff T H SignedRequest}
    (hsign : ∀ data, Alike P requester holder (sign data) (sign' data)) :
    Alike P requester holder
      (signAndSend P network requester.bySigner epoch sign build fuel)
      (signAndSend P network requester.byKey epoch sign' build fuel) := by
  apply resolve_bind_congr rfl
  intro preimage
  apply resolve_bind_congr rfl
  intro built
  apply resolve_bind_congr (hsign _)
  exact fun signed => rfl

theorem alike_afterClose
    {notRun notRun' : Option (EngineEff T H (TransactionResponseData × Sent T))}
    (h : Option.Rel (Alike P requester holder) notRun notRun') (e : EngineError T) :
    Alike P requester holder
      (afterClose P network requester.bySigner describe fuel notRun e)
      (afterClose P network requester.byKey describe fuel notRun' e) := by
  cases e with
  | closedBeforeAnswer sent refusal =>
    apply resolve_bind_congr rfl
    intro pending
    apply resolve_bind_congr rfl
    intro outcome
    cases h with
    | none => rfl
    | some hnext =>
      cases outcome with
      | notRun => exact hnext
      | _ => rfl
  | _ => rfl

theorem alike_submit
    (hsign : ∀ data, Alike (T := T) (H := H) P requester holder (signGrpc P requester.bySigner data)
      (signGrpc P requester.byKey data)) (left : ℕ) :
    Alike P requester holder
      (submit P network requester.bySigner build describe fuel left)
      (submit P network requester.byKey build describe fuel left) := by
  have honce : Alike P requester holder
      (submitOnce P network requester.bySigner build fuel)
      (submitOnce P network requester.byKey build fuel) := by
    apply resolve_bind_congr rfl
    exact fun epoch => alike_signAndSend hsign
  induction left with
  | zero => exact resolve_tryCatch_congr honce (alike_afterClose .none)
  | succ left ih => exact resolve_tryCatch_congr honce (alike_afterClose (.some ih))

theorem alike_submitWithPresign {epoch : ℕ}
    {sign sign' : SignedRequestData → EngineEff T H SignedRequest}
    {build : Bytes → EngineEff T H (BuiltRequest T)}
    (hsign : ∀ data, Alike P requester holder (sign data) (sign' data)) :
    Alike P requester holder
      (submitWithPresign P network requester.bySigner epoch sign build describe fuel)
      (submitWithPresign P network requester.byKey epoch sign' build describe fuel) := by
  apply resolve_bind_congr rfl
  intro chainEpoch
  split_ifs with hpast
  · rfl
  · exact resolve_tryCatch_congr (alike_signAndSend hsign) (alike_afterClose (.some rfl))

/-- Submissions that differ only in how they sign, and sign alike. -/
structure SubmissionsAlike (P : Primitives) (requester : Requester) (holder : Option Bytes)
    (bySigner byKey : Submission T H) : Prop where
  build : bySigner.build = byKey.build
  describe : bySigner.describe = byKey.describe
  presign : Option.Rel (fun s k => s.1 = k.1 ∧ ∀ data, Alike P requester holder (s.2 data)
    (k.2 data)) bySigner.presign byKey.presign

theorem alike_run {s k : Submission T H} (h : SubmissionsAlike P requester holder s k)
    (hsign : ∀ data, Alike (T := T) (H := H) P requester holder (signGrpc P requester.bySigner data)
      (signGrpc P requester.byKey data)) :
    Alike P requester holder (s.run P network requester.bySigner fuel)
      (k.run P network requester.byKey fuel) := by
  obtain ⟨build, describe, presign⟩ := s
  obtain ⟨build', describe', presign'⟩ := k
  obtain ⟨rfl, rfl, hpresign⟩ := h
  unfold Submission.run
  cases hpresign with
  | none => exact alike_submit hsign rebuildsAfterEpochClose
  | some hsome =>
    obtain ⟨hepoch, hsigns⟩ := hsome
    dsimp only
    rw [hepoch]
    exact alike_submitWithPresign hsigns

end Submissions

/-! ## Whole calls -/

/-- A call: its checks, and the submission of what it makes. -/
def EngineCall.run (P : Primitives) (connection : Connection) (issued : List IssuedState)
    (requester : Requester) (call : EngineCall) (fuel : ℕ) :
    EngineEff call.Kept H (TransactionResponseData × Sent call.Kept) := do
  let submission ← call.submission P connection issued requester
  submission.run P connection.toNetwork requester fuel

theorem submissionsAlike_refl {submission : Submission T H} (hpresign : submission.presign = none) :
    SubmissionsAlike P requester holder submission submission where
  build := rfl
  describe := rfl
  presign := by
    rw [hpresign]
    exact .none

section Calls

variable {connection : Connection} {issued : List IssuedState} {fuel : ℕ}

theorem signGrpc_alike_all (hkey : SigningKeypair P requester.keypair)
    (hagrees : HolderAgrees P requester holder) (data : SignedRequestData) :
    Alike (T := T) (H := H) P requester holder (signGrpc P requester.bySigner data)
      (signGrpc P requester.byKey data) := signGrpc_alike hkey hagrees data

/-- A call whose submission is made without the requester and consumes no presign. -/
theorem alike_sdk_run (hkey : SigningKeypair P requester.keypair)
    (hagrees : HolderAgrees P requester holder) {network : Network}
    {x : Except SdkError (Submission T H)}
    (hnone : ∀ submission, x = .ok submission → submission.presign = none) :
    Alike P requester holder
      (sdk x >>= fun submission => submission.run P network requester.bySigner fuel)
      (sdk x >>= fun submission => submission.run P network requester.byKey fuel) := by
  cases x with
  | error e => rw [sdk_error_bind, sdk_error_bind]
  | ok submission =>
    rw [sdk_ok_bind, sdk_ok_bind]
    exact alike_run (submissionsAlike_refl (hnone submission rfl)) (signGrpc_alike_all hkey hagrees)

theorem alike_createDWallet (hkey : SigningKeypair P requester.keypair)
    (hagrees : HolderAgrees P requester holder) (share : Option ShareEncryption)
    (sign : Option SignDuringDkg) :
    Alike (H := H) P requester holder
      (sdk (createDWallet P connection requester.bySigner share sign) >>= fun submission =>
        submission.run P connection.toNetwork requester.bySigner fuel)
      (sdk (createDWallet P connection requester.byKey share sign) >>= fun submission =>
        submission.run P connection.toNetwork requester.byKey fuel) := by
  unfold createDWallet
  simp only [← sdk_bind, bind_assoc, except_pure, sdk_ok_bind]
  apply resolve_bind_congr rfl
  intro scheme
  apply resolve_bind_congr rfl
  intro _
  apply resolve_bind_congr rfl
  intro presign
  have hgrpc := signGrpc_alike_all (T := KeptDkg) (H := H) hkey hagrees
  cases presign with
  | none => exact alike_run ⟨rfl, rfl, .none⟩ hgrpc
  | some presign => exact alike_run ⟨rfl, rfl, .some ⟨rfl, hgrpc⟩⟩ hgrpc

theorem alike_requestSignature (hkey : SigningKeypair P requester.keypair)
    (hagrees : HolderAgrees P requester holder) (args : SignArgs) :
    Alike (H := H) P requester holder
      (sdk (requestSignature P connection issued requester.bySigner args) >>= fun submission =>
        submission.run P connection.toNetwork requester.bySigner fuel)
      (sdk (requestSignature P connection issued requester.byKey args) >>= fun submission =>
        submission.run P connection.toNetwork requester.byKey fuel) := by
  unfold requestSignature
  simp only [← sdk_bind, bind_assoc, except_pure, sdk_ok_bind]
  apply resolve_bind_congr rfl
  intro scheme
  apply resolve_bind_congr rfl
  intro _
  apply resolve_bind_congr rfl
  intro _
  apply resolve_bind_congr rfl
  intro _
  apply resolve_bind_congr rfl
  intro userSignature
  apply resolve_bind_congr rfl
  intro imported
  exact alike_run ⟨rfl, rfl, .some ⟨rfl, signWithUsable_alike hkey⟩⟩
    (signGrpc_alike_all hkey hagrees)

theorem alike_requestFutureSignature (hkey : SigningKeypair P requester.keypair)
    (hagrees : HolderAgrees P requester holder) (args : SignArgs) :
    Alike (H := H) P requester holder
      (requestFutureSignature P connection issued requester.bySigner args >>= fun submission =>
        submission.run P connection.toNetwork requester.bySigner fuel)
      (requestFutureSignature P connection issued requester.byKey args >>= fun submission =>
        submission.run P connection.toNetwork requester.byKey fuel) := by
  unfold requestFutureSignature
  simp only [bind_assoc, pure_bind]
  apply resolve_bind_congr rfl
  intro scheme
  apply resolve_bind_congr rfl
  intro _
  apply resolve_bind_congr rfl
  intro _
  apply resolve_bind_congr rfl
  intro _
  apply resolve_bind_congr rfl
  intro userSignature
  apply resolve_bind_congr rfl
  intro now
  apply resolve_bind_congr rfl
  intro request
  have hgrpc := signGrpc_alike_all (T := Unit) (H := H) hkey hagrees
  exact alike_run ⟨rfl, rfl, .some ⟨rfl, hgrpc⟩⟩ hgrpc

theorem alike_reEncryptShare (hkey : SigningKeypair P requester.keypair)
    (hagrees : HolderAgrees P requester holder) (args : ReEncryptArgs) :
    Alike (H := H) P requester holder
      (reEncryptShareSubmission P connection issued args >>= fun submission =>
        submission.run P connection.toNetwork requester.bySigner fuel)
      (reEncryptShareSubmission P connection issued args >>= fun submission =>
        submission.run P connection.toNetwork requester.byKey fuel) := by
  unfold reEncryptShareSubmission
  simp only [bind_assoc, pure_bind]
  apply resolve_bind_congr rfl
  intro _
  apply resolve_bind_congr rfl
  intro _
  apply resolve_bind_congr rfl
  intro _
  apply resolve_bind_congr rfl
  intro _
  apply resolve_bind_congr rfl
  intro encryptedShareAndProof
  exact alike_run (submissionsAlike_refl rfl) (signGrpc_alike_all hkey hagrees)

theorem alike_call (hkey : SigningKeypair P requester.keypair)
    (hagrees : HolderAgrees P requester holder) (call : EngineCall) :
    Alike (H := H) P requester holder
      (call.run P connection issued requester.bySigner fuel)
      (call.run P connection issued requester.byKey fuel) := by
  cases call with
  | createDWallet share sign => exact alike_createDWallet hkey hagrees share sign
  | verifyImportedKey share secretKey =>
    refine alike_sdk_run hkey hagrees fun submission hok => ?_
    obtain rfl := verifyImportedKey_ok hok
    rfl
  | requestPresign signatureScheme =>
    refine alike_sdk_run hkey hagrees fun submission hok => ?_
    obtain ⟨request, rfl⟩ := requestPresign_ok hok
    rfl
  | requestPresignForDWallet dwallet signatureScheme =>
    refine alike_sdk_run hkey hagrees fun submission hok => ?_
    obtain ⟨request, rfl⟩ := requestPresignForDWallet_ok hok
    rfl
  | requestSignature args => exact alike_requestSignature hkey hagrees args
  | requestFutureSignature args => exact alike_requestFutureSignature hkey hagrees args
  | completeFutureSignature given =>
    refine alike_sdk_run hkey hagrees fun submission hok => ?_
    obtain ⟨request, rfl⟩ := completionSubmission_ok hok
    rfl
  | makeSharePublic dwallet usable =>
    refine alike_sdk_run hkey hagrees fun submission hok => ?_
    obtain ⟨verified, -, -, -, rfl⟩ := makeSharePublicSubmission_ok hok
    rfl
  | reEncryptShare args => exact alike_reEncryptShare hkey hagrees args

end Calls

/-! ## The requests that the calls build -/

namespace EngineCall

/-- The signing of a call's request. -/
def sign (P : Primitives) (issued : List IssuedState) (requester : Requester)
    (call : EngineCall) (data : SignedRequestData) : EngineEff call.Kept H SignedRequest :=
  match call with
  | requestSignature args => signFor P requester fun keypair =>
      signWithUsable P issued args.usable keypair data
  | _ => signGrpc P requester data

/-- The holder of a result that waits. -/
def waitingHolderOf (issued : List IssuedState) (usable : UsableObject) : Option Bytes :=
  (issuedGet issued usable).bind fun state => if state.waiting then some state.holder else none

/-- The holder that is kept for a call's request. -/
def keptHolder (issued : List IssuedState) : EngineCall → Option Bytes
  | makeSharePublic _ usable => waitingHolderOf issued usable.object
  | reEncryptShare args => waitingHolderOf issued args.usable.object
  | _ => none

/-- The call may build the request. -/
def Builds (P : Primitives) (H : Type) (connection : Connection) (issued : List IssuedState)
    (requester : Requester) (call : EngineCall) (request : DWalletRequest) : Prop :=
  ∃ submission : Submission call.Kept H,
    CanGive (call.submission P connection issued requester) submission ∧
    ∃ epoch session kept, CanGive (submission.build epoch session) ⟨request, kept⟩

end EngineCall

section Builds

variable {connection : Connection} {issued : List IssuedState} {request : DWalletRequest}

theorem waitingHolder_requestOfResult {state : IssuedState} {usable : UsableObject}
    (h : issuedGet issued usable = some state) :
    (requestOfResult state request).waitingHolder = EngineCall.waitingHolderOf issued usable := by
  unfold EngineCall.waitingHolderOf
  rw [h]
  rfl

theorem canGive_builtNow_iff {build : ℤ → Except SdkError RequestOfResult} {kept : Unit} :
    CanGive (builtNow (H := H) build) ⟨request, kept⟩ ↔
      ∃ now built, build now = .ok built ∧ built.request = request := by
  unfold builtNow
  constructor
  · intro h
    obtain ⟨now, -, h⟩ := canGive_bind_iff.mp h
    obtain ⟨built, hbuilt, h⟩ := canGive_bind_iff.mp h
    have hrequest := congrArg BuiltRequest.request (canGive_pure_iff.mp h)
    exact ⟨now, built, canGive_sdk_iff.mp hbuilt, hrequest⟩
  · rintro ⟨now, built, hbuilt, rfl⟩
    apply canGive_bind (canGive_perform .now now)
    apply canGive_bind (canGive_sdk_iff.mpr hbuilt)
    exact canGive_pure_iff.mpr rfl

/-- The holder of a waiting result is kept for every make-public that is built from it. -/
theorem makeSharePublic_kept {dwallet : DWallet} {usable : DWalletUsable}
    (h : (EngineCall.makeSharePublic dwallet usable).Builds P H connection issued requester
      request) :
    ∃ now built, makeSharePublicRequest issued now usable.object dwallet.userSecretKeyShare =
        .ok built ∧ built.request = request ∧
      built.waitingHolder = (EngineCall.makeSharePublic dwallet usable).keptHolder issued := by
  obtain ⟨submission, hmade, epoch, session, kept, hbuild⟩ := h
  obtain ⟨_, -, -, -, rfl⟩ := makeSharePublicSubmission_ok (canGive_sdk_iff.mp hmade)
  obtain ⟨now, built, hbuilt, hrequest⟩ := canGive_builtNow_iff.mp hbuild
  obtain ⟨state, hstate, rfl⟩ := makeSharePublicRequest_names hbuilt
  exact ⟨now, _, hbuilt, hrequest, waitingHolder_requestOfResult hstate⟩

/-- The holder of a waiting result is kept for every re-encryption that is built from it. -/
theorem reEncryptShare_kept {args : ReEncryptArgs}
    (h : (EngineCall.reEncryptShare args).Builds P H connection issued requester request) :
    ∃ now built encryptedShareAndProof,
      reEncryptionOf issued args encryptedShareAndProof now = .ok built ∧
        built.request = request ∧
        built.waitingHolder = (EngineCall.reEncryptShare args).keptHolder issued := by
  obtain ⟨submission, ⟨tr, hmade⟩, epoch, session, kept, hbuild⟩ := h
  obtain ⟨_, _, _, encryptedShareAndProof, -, -, -, -, rfl⟩ := reEncryptShareSubmission_gives hmade
  obtain ⟨now, built, hbuilt, hrequest⟩ := canGive_builtNow_iff.mp hbuild
  obtain ⟨state, hstate, rfl⟩ := reEncryptShareRequest_names hbuilt
  exact ⟨now, _, encryptedShareAndProof, hbuilt, hrequest, waitingHolder_requestOfResult hstate⟩

theorem canGive_submitRequest_iff {request' : DWalletRequest} {kind : PendingRequestKind}
    {epoch : ℕ} {session : Bytes} {kept : Unit} :
    CanGive ((submitRequest (H := H) request kind).build epoch session) ⟨request', kept⟩ ↔
      request = request' := by
  unfold submitRequest
  simp

theorem dkgRequest_kind {share : Option ShareEncryption}
    {sign : Option (SignDuringDkg × DWalletSignatureScheme)} {session : Bytes}
    {built : BuiltRequest KeptDkg} (h : dkgRequest P connection share sign session = .ok built) :
    dwalletSignRequestKind built.request = none := by
  obtain ⟨prepared, -, h⟩ := bind_ok h
  obtain ⟨encrypted, -, h⟩ := bind_ok h
  obtain ⟨signRequest, -, h⟩ := bind_ok h
  obtain rfl := Except.ok.inj h
  rfl

theorem importedKeyRequest_kind {share : ShareEncryption} {secretKey session : Bytes}
    {built : BuiltRequest KeptImport}
    (h : importedKeyRequest connection share secretKey session = .ok built) :
    dwalletSignRequestKind built.request = none := by
  obtain ⟨prepared, -, h⟩ := bind_ok h
  obtain ⟨encryptedShareAndProof, -, h⟩ := bind_ok h
  obtain rfl := Except.ok.inj h
  rfl

theorem checkedCompletion_kind {network : Network} {trusted : TrustedNetwork}
    {given : PartialSignature} {checked : DWalletAttestation × DWalletRequest}
    (h : checkedCompletion P network trusted given = .ok checked) :
    dwalletSignRequestKind checked.2 = none := by
  obtain ⟨_, -, h⟩ := bind_ok h
  obtain ⟨_, -, h⟩ := bind_ok h
  obtain ⟨completion, hcompletion, h⟩ := bind_ok h
  obtain rfl := Except.ok.inj h
  obtain ⟨attested, dwallet, hfits⟩ := completeFutureSignRequest_ok hcompletion
  rw [completeFutureSignRequest_of hfits] at hcompletion
  rw [← Except.ok.inj hcompletion]
  split_ifs <;> rfl

/-- Every call but a sign builds requests of the kinds that `signGrpcRequest` signs. -/
theorem builds_kind {call : EngineCall}
    (hcall : ∀ args, call ≠ .requestSignature args)
    (h : call.Builds P H connection issued requester request) :
    dwalletSignRequestKind request = none := by
  cases call with
  | requestSignature args => exact (hcall args rfl).elim
  | createDWallet share sign =>
    obtain ⟨submission, hmade, epoch, session, kept, hbuild⟩ := h
    obtain ⟨scheme, presign, rfl⟩ := createDWallet_ok (canGive_sdk_iff.mp hmade)
    exact dkgRequest_kind (fromPackage_ok (canGive_sdk_iff.mp hbuild))
  | verifyImportedKey share secretKey =>
    obtain ⟨submission, hmade, epoch, session, kept, hbuild⟩ := h
    obtain rfl := verifyImportedKey_ok (canGive_sdk_iff.mp hmade)
    exact importedKeyRequest_kind (fromPackage_ok (canGive_sdk_iff.mp hbuild))
  | requestPresign signatureScheme =>
    obtain ⟨submission, hmade, epoch, session, kept, hbuild⟩ := h
    obtain ⟨scheme, -, hmade⟩ := bind_ok (canGive_sdk_iff.mp hmade)
    obtain ⟨algorithm, -, hmade⟩ := bind_ok hmade
    obtain rfl := Except.ok.inj hmade
    obtain rfl := canGive_submitRequest_iff.mp hbuild
    rfl
  | requestPresignForDWallet dwallet signatureScheme =>
    obtain ⟨submission, hmade, epoch, session, kept, hbuild⟩ := h
    obtain ⟨_, -, hmade⟩ := bind_ok (canGive_sdk_iff.mp hmade)
    obtain ⟨scheme, -, hmade⟩ := bind_ok hmade
    obtain ⟨algorithm, -, hmade⟩ := bind_ok hmade
    obtain rfl := Except.ok.inj hmade
    obtain rfl := canGive_submitRequest_iff.mp hbuild
    rfl
  | requestFutureSignature args =>
    obtain ⟨submission, ⟨tr, hmade⟩, epoch, session, kept, hbuild⟩ := h
    obtain ⟨_, _, _, _, _, -, -, -, hrequest, rfl⟩ := requestFutureSignature_gives hmade
    obtain ⟨state, stepOne, -, rfl, -⟩ := futureSignRequest_names hrequest
    obtain rfl := congrArg BuiltRequest.request (canGive_pure_iff.mp hbuild)
    rfl
  | completeFutureSignature given =>
    obtain ⟨submission, hmade, epoch, session, kept, hbuild⟩ := h
    obtain ⟨checked, hchecked, hmade⟩ := bind_ok (canGive_sdk_iff.mp hmade)
    obtain rfl := Except.ok.inj hmade
    obtain rfl := canGive_submitRequest_iff.mp hbuild
    exact checkedCompletion_kind hchecked
  | makeSharePublic dwallet usable =>
    obtain ⟨now, built, hbuilt, rfl, -⟩ := makeSharePublic_kept h
    obtain ⟨state, -, rfl⟩ := makeSharePublicRequest_names hbuilt
    rfl
  | reEncryptShare args =>
    obtain ⟨now, built, encryptedShareAndProof, hbuilt, rfl, -⟩ := reEncryptShare_kept h
    obtain ⟨state, -, rfl⟩ := reEncryptShareRequest_names hbuilt
    rfl

theorem sign_eq_signGrpc {call : EngineCall} (hcall : ∀ args, call ≠ .requestSignature args)
    (data : SignedRequestData) :
    call.sign (H := H) P issued requester data = signGrpc P requester data := by
  cases call with
  | requestSignature args => exact (hcall args rfl).elim
  | _ => rfl

/-- The signing through a signer and with the key come to the same exactly where the holder
that is kept for the request is both the request key and the placeholder, or neither. -/
theorem sign_alike_iff (hkey : SigningKeypair P requester.keypair) {call : EngineCall}
    (h : call.Builds P H connection issued requester request) :
    (∀ data : SignedRequestData, data.request = request →
      Alike (H := H) P requester (call.keptHolder issued)
        (call.sign P issued requester.bySigner data)
        (call.sign P issued requester.byKey data)) ↔
      HolderAgrees P requester (call.keptHolder issued) := by
  by_cases hcall : ∃ args, call = .requestSignature args
  · obtain ⟨args, rfl⟩ := hcall
    constructor
    · intro _ key hnone
      cases hnone
    · exact fun _ data _ => signWithUsable_alike hkey data
  · have hother : ∀ args, call ≠ .requestSignature args := fun args heq => hcall ⟨args, heq⟩
    simp only [sign_eq_signGrpc hother]
    constructor
    · intro halike
      have hsigned := halike ⟨[], 0, .solana, 0, [], request⟩ rfl
      exact (signGrpc_alike_iff hkey (builds_kind hother h)).mp hsigned
    · exact fun hagrees data _ => signGrpc_alike hkey hagrees data

end Builds

/-- A request is signed through the signer as with the key exactly where the holder kept for it,
if there is one, is the request key and the placeholder alike, or neither of them; and then
the whole call comes to the same. -/
theorem signer_signs_as_key_iff {connection : Connection} {issued : List IssuedState}
    (hkey : SigningKeypair P requester.keypair) {call : EngineCall} {request : DWalletRequest}
    (hbuilds : call.Builds P H connection issued requester request) :
    ((∀ data : SignedRequestData, data.request = request →
        Alike (H := H) P requester (call.keptHolder issued)
          (call.sign P issued requester.bySigner data)
          (call.sign P issued requester.byKey data)) ↔
      HolderAgrees P requester (call.keptHolder issued)) ∧
    (HolderAgrees P requester (call.keptHolder issued) → ∀ fuel,
      Alike (H := H) P requester (call.keptHolder issued)
        (call.run P connection issued requester.bySigner fuel)
        (call.run P connection issued requester.byKey fuel)) := by
  constructor
  · exact sign_alike_iff hkey hbuilds
  · intro hagrees fuel
    exact alike_call hkey hagrees call

theorem signingKeypair_sample (keypair : TransportKeypair) :
    SigningKeypair samplePrimitives keypair := fun _ => rfl

def samplePoolRequest : DWalletRequest :=
  .presign ⟨sampleMockConnection.networkKeyId, .curve25519, .eddsa⟩

def samplePoolData : SignedRequestData where
  sessionIdentifierPreimage := List.replicate 32 3
  epoch := 7
  chainId := .solana
  network := 2
  intendedChainSender := List.replicate 32 16
  request := samplePoolRequest

/-- A request for a pool presign is signed through a signer as with the key. -/
theorem presign_signs_as_key_sample :
    Alike (H := Unit) samplePrimitives sampleMockRequester none
      ((EngineCall.requestPresign 5).sign samplePrimitives [] sampleMockRequester.bySigner
        samplePoolData)
      ((EngineCall.requestPresign 5).sign samplePrimitives [] sampleMockRequester.byKey
        samplePoolData) := by
  have hbuilds : (EngineCall.requestPresign 5).Builds samplePrimitives Unit sampleMockConnection []
      sampleMockRequester samplePoolRequest :=
    ⟨submitRequest samplePoolRequest .presign, canGive_sdk_iff.mpr rfl, 0, [], (),
      canGive_submitRequest_iff.mpr rfl⟩
  obtain ⟨hsign, -⟩ := signer_signs_as_key_iff (signingKeypair_sample _) hbuilds
  apply hsign.mpr _ samplePoolData rfl
  intro key hnone
  cases hnone

/-! ### A waiting share -/

/-- A result that waits, for the sample dWallet and with the request key as its holder. -/
def sampleWaitingShare : IssuedState where
  chain := .solana
  address := List.replicate 32 1
  curve := 2
  publicKey := sampleDWallet.publicKey
  importedSessionIdentifier := none
  holder := sampleMockRequester.keypair.publicKey
  share := .encrypted
  migrated := false
  waiting := true
  publicOutput := sampleDWallet.networkPublicOutput
  attestation := sampleDWallet.attestation
  verifiedAt := 0

def sampleShareConnection : Connection :=
  { sampleMockConnection with
    networkKeyId := sampleDWallet.networkKeyId
    latestNetworkKeyId := sampleDWallet.networkKeyId }

def sampleUsable : DWalletUsable := ⟨.issued 0, sampleDWallet.networkPublicOutput⟩

/-- What the sample dWallet's holder sends to make its share public. -/
def sampleRevealData : SignedRequestData where
  sessionIdentifierPreimage := List.replicate 32 3
  epoch := 7
  chainId := .solana
  network := 2
  intendedChainSender := List.replicate 32 16
  request := .makeSharePublic ⟨sampleDWallet.publicKey, sampleDWallet.attestation,
    sampleDWallet.userSecretKeyShare⟩

/-- The holder of a waiting share makes it public with its key; through a signer of that key
the request is refused, since the placeholder is not the holder. -/
theorem waiting_holder_refused_through_signer :
    SigningKeypair samplePrimitives sampleMockRequester.keypair ∧
    (EngineCall.makeSharePublic sampleDWallet sampleUsable).Builds samplePrimitives Unit
      sampleShareConnection [sampleWaitingShare] sampleMockRequester sampleRevealData.request ∧
    (EngineCall.makeSharePublic sampleDWallet sampleUsable).keptHolder [sampleWaitingShare] =
      some sampleMockRequester.keypair.publicKey ∧
    (∃ signed, resolved samplePrimitives sampleMockRequester
      (some sampleMockRequester.keypair.publicKey)
      ((EngineCall.makeSharePublic sampleDWallet sampleUsable).sign (H := Unit) samplePrimitives
        [sampleWaitingShare] sampleMockRequester.byKey sampleRevealData) = pure signed) ∧
    resolved samplePrimitives sampleMockRequester (some sampleMockRequester.keypair.publicKey)
      ((EngineCall.makeSharePublic sampleDWallet sampleUsable).sign (H := Unit) samplePrimitives
        [sampleWaitingShare] sampleMockRequester.bySigner sampleRevealData) =
      throw (.sdk (waitingRefusal sampleMockRequester.keypair.publicKey)) := by
  refine ⟨signingKeypair_sample _, ?_, rfl, ?_, ?_⟩
  · have hserved : requireServedDWallet sampleShareConnection.toNetwork sampleDWallet = .ok () := by
      decide +kernel
    have hverified : verifiedDWallet samplePrimitives sampleTrustedNetwork sampleDWallet =
        .ok sampleVerified := by decide +kernel
    have hmade : makeSharePublicSubmission (H := Unit) samplePrimitives sampleShareConnection
        [sampleWaitingShare] sampleDWallet sampleUsable = _ :=
      makeSharePublicSubmission_of hserved rfl hverified
    have hbuilt : makeSharePublicRequest [sampleWaitingShare] 1 sampleUsable.object
        sampleDWallet.userSecretKeyShare =
          .ok (requestOfResult sampleWaitingShare sampleRevealData.request) := by decide +kernel
    exact ⟨_, canGive_sdk_iff.mpr hmade, 7, [], (),
      canGive_builtNow_iff.mpr ⟨1, _, hbuilt, rfl⟩⟩
  · refine ⟨signedWith samplePrimitives sampleMockRequester.keypair
      (signedRequestDataBcs.encode sampleRevealData), ?_⟩
    have hbytes : grpcBytes (some sampleMockRequester.keypair.publicKey)
        sampleMockRequester.keypair.publicKey sampleRevealData =
          .ok (signedRequestDataBcs.encode sampleRevealData) := by decide +kernel
    exact (resolved_signGrpc_byKey sampleRevealData).trans (by rw [hbytes]; rfl)
  · have hrefused : grpcBytes (some sampleMockRequester.keypair.publicKey)
        (unsignedKeypair samplePrimitives).publicKey sampleRevealData =
          .error (waitingRefusal sampleMockRequester.keypair.publicKey) := by decide +kernel
    exact (resolved_signGrpc_bySigner (signingKeypair_sample _) sampleRevealData).trans
      (by rw [hrefused]; rfl)

end Ika
