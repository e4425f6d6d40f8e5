import IkaSdk.Core.Common.Submission
import IkaSdk.Lib.Outcomes

/-! Outcomes that a submission has in some run: a validator may answer the first copy of a
request, whatever was built and signed. -/

namespace Ika

open Wire Interaction Eff

variable {P : Primitives} {T H : Type} {network : Network} {requester : Requester}
  {signed : SignedRequest} {answer : TransactionResponseData}

theorem canGive_perform (op : EngineOp T H) (a : op.Ans) : CanGive (perform op) a :=
  canGive_liftOp (I := engineInterface T H) a

theorem canGive_sdk_iff {α : Type} {x : Except SdkError α} {a : α} :
    CanGive (sdk x : EngineEff T H α) a ↔ x = .ok a := by
  rw [sdk, canGive_lift_iff]
  cases x <;> simp [Except.mapError]

theorem canGive_readChainEpoch (epoch : ℕ) :
    CanGive (readChainEpoch (T := T) (H := H)) epoch := by
  refine canGive_bind ?_ (canGive_perform (.keepEpoch epoch) epoch)
  exact canGive_bind (canGive_perform .chainEpoch (.ok epoch)) (canGive_sdk_iff.mpr rfl)

/-- An answer that is neither a refusal of an unread deposit nor one of a closed epoch. -/
structure Final (answer : TransactionResponseData) (epoch : ℕ) : Prop where
  read : depositUnread answer = false
  fresh : staleEpochRefusal answer epoch = none

theorem final_signature (signature : Bytes) (epoch : ℕ) : Final (.signature signature) epoch :=
  ⟨rfl, rfl⟩

theorem Final.unlessStale {sent : Sent T} (h : Final answer sent.epoch) :
    unlessStale answer sent = .ok (answer, sent) := by
  unfold Ika.unlessStale
  rw [h.fresh]
  cases answer <;> rfl

theorem canGive_sendSigned {sent : Sent T} (fuel : ℕ) (h : Final answer sent.epoch) :
    CanGive (sendSigned (H := H) sent signed (fuel + 1)) (answer, sent) := by
  refine canGive_bind (canGive_tryCatch_iff.mpr (.inl ?_)) (canGive_lift_iff.mpr h.unlessStale)
  have hanswered : CanGive (sendUntilAnswered (T := T) (H := H) signed (fuel + 1)) answer := by
    refine canGive_bind (canGive_perform .now (0 : ℤ)) ?_
    refine canGive_bind (canGive_perform .now (0 : ℤ)) ?_
    refine canGive_bind (canGive_perform (.submitTransaction signed _) (.ok answer)) ?_
    exact canGive_pure_iff.mpr rfl
  refine canGive_bind hanswered (canGive_bind (canGive_perform .now (0 : ℤ)) ?_)
  unfold resendUntilRead
  rw [h.read]
  exact canGive_pure_iff.mpr rfl

theorem canGive_signAndSend {epoch : ℕ} {sign : SignedRequestData → EngineEff T H SignedRequest}
    {build : ℕ → Bytes → EngineEff T H (BuiltRequest T)} {preimage : Bytes}
    {built : BuiltRequest T} (fuel : ℕ)
    (hbuild : CanGive (build epoch (sessionIdentifier P requester epoch preimage)) built)
    (hsign : CanGive (sign (signedData network requester epoch preimage built.request)) signed)
    (h : Final answer epoch) :
    CanGive (signAndSend P network requester epoch sign build (fuel + 1))
      (answer, ⟨epoch, sessionIdentifier P requester epoch preimage, built.kept⟩) := by
  refine canGive_bind (canGive_perform .freshPreimage preimage) ?_
  exact canGive_bind hbuild (canGive_bind hsign (canGive_sendSigned fuel h))

/-- Some epoch, some preimage and some run of its signing sign the request. -/
def Signable (P : Primitives) (T H : Type) (network : Network) (requester : Requester)
    (request : DWalletRequest) : Prop :=
  ∃ epoch preimage signed, CanGive (signFor (T := T) (H := H) P requester fun keypair =>
    signGrpcRequest P keypair (signedData network requester epoch preimage request)) signed

theorem signable_of {request : DWalletRequest} {epoch : ℕ} {preimage : Bytes}
    (hsigner : requester.signer = false) (hkind : dwalletSignRequestKind request = none)
    (h : signRequestBytes P requester.keypair
      (signedData network requester epoch preimage request) = .ok signed) :
    Signable P T H network requester request := by
  refine ⟨epoch, preimage, signed, ?_⟩
  have hrequire : requireNoDWalletSign request = .ok () := by
    unfold requireNoDWalletSign
    rw [hkind]
  unfold signFor
  rw [hsigner, if_neg Bool.false_ne_true]
  refine canGive_bind (canGive_sdk_iff.mpr hrequire) ?_
  refine canGive_bind (canGive_perform (.waitingRequestHolder _) none) ?_
  exact canGive_bind (canGive_sdk_iff.mpr rfl) (canGive_sdk_iff.mpr h)

theorem canGive_submit {build : ℕ → Bytes → EngineEff T H (BuiltRequest T)}
    {describe : Bytes → T → EngineEff T H PendingRequestKind} (epoch : ℕ) (preimage : Bytes)
    {built : BuiltRequest T} (fuel left : ℕ)
    (hbuild : CanGive (build epoch (sessionIdentifier P requester epoch preimage)) built)
    (hsign : CanGive (signFor (T := T) (H := H) P requester fun keypair => signGrpcRequest P keypair
      (signedData network requester epoch preimage built.request)) signed)
    (h : Final answer epoch) :
    CanGive (submit P network requester build describe (fuel + 1) left)
      (answer, ⟨epoch, sessionIdentifier P requester epoch preimage, built.kept⟩) := by
  have honce : CanGive (submitOnce P network requester build (fuel + 1))
      (answer, ⟨epoch, sessionIdentifier P requester epoch preimage, built.kept⟩) :=
    canGive_bind (canGive_readChainEpoch epoch) (canGive_signAndSend fuel hbuild hsign h)
  cases left with
  | zero => exact canGive_tryCatch_iff.mpr (.inl honce)
  | succ left => exact canGive_tryCatch_iff.mpr (.inl honce)

/-! ## What an attempt signed -/

section Signed

variable {epoch fuel : ℕ} {request : DWalletRequest} {kept : T}
  {sign : SignedRequestData → EngineEff T H SignedRequest}
  {outcome : TransactionResponseData × Sent T} {sent : Sent T} {refusal : String}

/-- Everything signed by an attempt with one request in the making. -/
theorem signed_of_gives
    (h : CanGive (signAndSend P network requester epoch sign (fun _ _ => pure ⟨request, kept⟩)
      fuel) outcome) :
    ∃ preimage signed,
      CanGive (sign (signedData network requester epoch preimage request)) signed := by
  obtain ⟨preimage, -, h⟩ := canGive_bind_iff.mp h
  obtain ⟨built, hbuilt, h⟩ := canGive_bind_iff.mp h
  obtain ⟨signed, hsigned, -⟩ := canGive_bind_iff.mp h
  obtain rfl := canGive_pure_iff.mp hbuilt
  exact ⟨preimage, signed, hsigned⟩

/-- A session that an attempt found closed was signed for. -/
theorem signed_of_closed (hsign : ∀ data, ThrowsOnly IsSdk (sign data))
    (h : CanThrow (signAndSend P network requester epoch sign (fun _ _ => pure ⟨request, kept⟩)
      fuel) (.closedBeforeAnswer sent refusal)) :
    ∃ preimage signed,
      CanGive (sign (signedData network requester epoch preimage request)) signed := by
  rcases canThrow_bind_iff.mp h with hfresh | ⟨preimage, -, h⟩
  · exact (canThrow_liftOp_iff.mp hfresh).elim
  rcases canThrow_bind_iff.mp h with hbuild | ⟨built, hbuilt, h⟩
  · exact (canThrow_pure_iff.mp hbuild).elim
  obtain rfl := canGive_pure_iff.mp hbuilt
  rcases canThrow_bind_iff.mp h with ⟨tr, hrefused⟩ | ⟨signed, hsigned, -⟩
  · obtain ⟨error, herror⟩ := hsign _ tr _ hrefused
    cases herror
  · exact ⟨preimage, signed, hsigned⟩

/-- A submission of one request that returned an answer signed it. -/
theorem signable_of_submit {left : ℕ} {describe : Bytes → T → EngineEff T H PendingRequestKind}
    (h : CanGive (submit P network requester (fun _ _ => pure ⟨request, kept⟩) describe fuel
      left) outcome) : Signable P T H network requester request := by
  have hattempt : ∀ {notRun}, CanGive (tryCatch
      (submitOnce P network requester (fun _ _ => pure ⟨request, kept⟩) fuel)
      (afterClose P network requester describe fuel notRun)) outcome →
        Signable P T H network requester request := by
    intro notRun h
    rcases canGive_tryCatch_iff.mp h with hgives | ⟨e, hthrows, hafter⟩
    · obtain ⟨epoch, -, hsend⟩ := canGive_bind_iff.mp hgives
      exact ⟨epoch, signed_of_gives hsend⟩
    · cases e with
      | closedBeforeAnswer sent refusal =>
        rcases canThrow_bind_iff.mp hthrows with ⟨tr, hread⟩ | ⟨epoch, -, hsend⟩
        · obtain ⟨error, herror⟩ := throwsOnly_readChainEpoch tr _ hread
          cases herror
        · exact ⟨epoch, signed_of_closed (signs_signFor signs_signGrpcRequest).errors hsend⟩
      | _ => exact (canGive_throw_iff.mp hafter).elim
  cases left with
  | zero => exact hattempt h
  | succ left => exact hattempt h

end Signed

end Ika
