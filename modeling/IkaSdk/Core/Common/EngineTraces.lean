import IkaSdk.Core.Common.Engine
import IkaSdk.Lib.Beginnings

/-! What a submission that has come any way sent: the copies of one signed
request, under the session that was built for it, and after a refusal the
lookup of that session. -/

namespace Ika

open Wire Interaction Eff

variable {T H : Type}

abbrev EngineEvent (T H : Type) := Event (engineInterface T H)

/-! ## Copies and openings -/

/-- The signed request that an operation sends a copy of. -/
def EngineOp.copy : EngineOp T H → Option SignedRequest
  | submitTransaction signed _ => some signed
  | _ => none

/-- The epoch and the session that an operation has a request built for. -/
def EngineOp.opening : EngineOp T H → Option (ℕ × Bytes)
  | build requestEpoch sessionIdentifier => some (requestEpoch, sessionIdentifier)
  | _ => none

def copies (tr : List (EngineEvent T H)) : List SignedRequest := tr.filterMap (·.op.copy)

def openings (tr : List (EngineEvent T H)) : List (ℕ × Bytes) := tr.filterMap (·.op.opening)

@[simp] theorem copies_nil : copies ([] : List (EngineEvent T H)) = [] := rfl

@[simp] theorem openings_nil : openings ([] : List (EngineEvent T H)) = [] := rfl

@[simp] theorem copies_append (tr tr' : List (EngineEvent T H)) :
    copies (tr ++ tr') = copies tr ++ copies tr' := List.filterMap_append

@[simp] theorem openings_append (tr tr' : List (EngineEvent T H)) :
    openings (tr ++ tr') = openings tr ++ openings tr' := List.filterMap_append

/-- Nothing is built and nothing is sent. -/
def Quiet (tr : List (EngineEvent T H)) : Prop := openings tr = [] ∧ copies tr = []

/-- Nothing is built, and copies of one signed request are sent. -/
def SendsOnly (signed : SignedRequest) (tr : List (EngineEvent T H)) : Prop :=
  openings tr = [] ∧ ∀ c ∈ copies tr, c = signed

theorem appendable_quiet : Appendable (Quiet (T := T) (H := H)) where
  nil := ⟨rfl, rfl⟩
  append h h' := by simp [Quiet, h.1, h.2, h'.1, h'.2]

theorem appendable_sendsOnly (signed : SignedRequest) :
    Appendable (SendsOnly (T := T) (H := H) signed) where
  nil := ⟨rfl, by simp⟩
  append h h' := by
    refine ⟨by simp [h.1, h'.1], fun c hc => ?_⟩
    rw [copies_append, List.mem_append] at hc
    exact hc.elim (h.2 c) (h'.2 c)

/-- Every read that is kept was read. -/
def KeepsReads (tr : List (EngineEvent T H)) : Prop :=
  ∀ read n, ⟨.keepEpoch read, n⟩ ∈ tr → ⟨.chainEpoch, .ok read⟩ ∈ tr

theorem appendable_keepsReads : Appendable (KeepsReads (T := T) (H := H)) where
  nil := by simp [KeepsReads]
  append h h' := by
    intro read n hmem
    rcases List.mem_append.mp hmem with hfirst | hlast
    · exact List.mem_append_left _ (h read n hfirst)
    · exact List.mem_append_right _ (h' read n hlast)

/-- An operation that neither builds nor sends nor keeps a read. -/
def EngineOp.still : EngineOp T H → Prop
  | build .. => False
  | submitTransaction .. => False
  | keepEpoch _ => False
  | _ => True

theorem gives_sdk_iff {α : Type} {x : Except SdkError α} {a : α} {tr : List (EngineEvent T H)} :
    Gives (sdk x) tr a ↔ tr = [] ∧ x = .ok a := by
  rw [sdk, gives_lift_iff]
  cases x <;> simp [Except.mapError]

theorem gives_readChainEpoch {tr : List (EngineEvent T H)} {n : ℕ}
    (h : Gives readChainEpoch tr n) :
    ∃ read, tr = [⟨.chainEpoch, .ok read⟩, ⟨.keepEpoch read, n⟩] := by
  obtain ⟨tr₁, tr₂, read, rfl, hread, hkeep⟩ := gives_bind_iff.mp h
  obtain rfl := gives_liftOp_iff.mp hkeep
  obtain ⟨tr₃, tr₄, answer, rfl, hanswer, hlast⟩ := gives_bind_iff.mp hread
  obtain rfl := gives_liftOp_iff.mp hanswer
  obtain ⟨rfl, rfl⟩ := gives_sdk_iff.mp hlast
  exact ⟨read, rfl⟩

/-- A read of the chain's epoch that has come any way. -/
theorem begins_readChainEpoch {tr : List (EngineEvent T H)} (h : Begins readChainEpoch tr) :
    tr = [] ∨ (∃ answer, tr = [⟨.chainEpoch, answer⟩]) ∨
      ∃ read n, tr = [⟨.chainEpoch, .ok read⟩, ⟨.keepEpoch read, n⟩] := by
  have hread : ∀ {tr}, Begins (chainEpoch (T := T) (H := H)) tr →
      tr = [] ∨ ∃ answer, tr = [⟨.chainEpoch, answer⟩] := by
    intro tr h
    rcases begins_bind h with hop | ⟨tr₁, tr₂, answer, rfl, hop, hlast⟩
    · exact begins_liftOp_iff.mp hop
    · obtain rfl := gives_liftOp_iff.mp hop
      obtain rfl := begins_lift_iff.mp hlast
      exact .inr ⟨answer, rfl⟩
  rcases begins_bind h with hfirst | ⟨tr₁, tr₂, read, rfl, hfirst, hkeep⟩
  · exact (hread hfirst).imp id .inl
  · obtain ⟨tr₃, tr₄, answer, rfl, hanswer, hlast⟩ := gives_bind_iff.mp hfirst
    obtain rfl := gives_liftOp_iff.mp hanswer
    obtain ⟨rfl, rfl⟩ := gives_sdk_iff.mp hlast
    rcases begins_liftOp_iff.mp hkeep with rfl | ⟨n, rfl⟩
    · exact .inr (.inl ⟨_, rfl⟩)
    · exact .inr (.inr ⟨read, n, rfl⟩)

/-- A property of the events that everything but building and sending has. -/
structure Steady (Φ : List (EngineEvent T H) → Prop) : Prop extends Appendable Φ where
  still : ∀ op : EngineOp T H, op.still → ∀ a, Φ [⟨op, a⟩]
  reads : ∀ read n, Φ [⟨.chainEpoch, .ok read⟩, ⟨.keepEpoch read, n⟩]

theorem steady_quiet : Steady (Quiet (T := T) (H := H)) where
  toAppendable := appendable_quiet
  still op hop a := by cases op <;> first | exact hop.elim | exact ⟨rfl, rfl⟩
  reads read n := ⟨rfl, rfl⟩

theorem steady_sendsOnly (signed : SignedRequest) :
    Steady (SendsOnly (T := T) (H := H) signed) where
  toAppendable := appendable_sendsOnly signed
  still op hop a := by
    have hquiet : Quiet [(⟨op, a⟩ : EngineEvent T H)] := steady_quiet.still op hop a
    exact ⟨hquiet.1, by simp [hquiet.2]⟩
  reads read n := ⟨rfl, by simp [copies, EngineOp.copy]⟩

theorem steady_keepsReads : Steady (KeepsReads (T := T) (H := H)) where
  toAppendable := appendable_keepsReads
  still op hop a := by
    intro read n hmem
    cases List.mem_singleton.mp hmem
    exact hop.elim
  reads read n := by
    intro read' n' hmem
    rcases List.mem_cons.mp hmem with heq | hkeep
    · cases heq
    · cases List.mem_singleton.mp hkeep
      exact List.mem_cons_self

theorem Quiet.sendsOnly {tr : List (EngineEvent T H)} (h : Quiet tr) (signed : SignedRequest) :
    SendsOnly signed tr := ⟨h.1, by simp [h.2]⟩

section Steps

variable {Φ : List (EngineEvent T H) → Prop}

theorem always_perform (hΦ : Steady Φ) {op : EngineOp T H} (h : op.still) :
    Always Φ (perform op) := always_liftOp hΦ.toAppendable (hΦ.still op h)

theorem always_readChainEpoch (hΦ : Steady Φ) : Always Φ readChainEpoch := by
  intro tr h
  rcases begins_readChainEpoch h with rfl | ⟨answer, rfl⟩ | ⟨read, n, rfl⟩
  · exact hΦ.nil
  · exact hΦ.still .chainEpoch trivial answer
  · exact hΦ.reads read n

end Steps

theorem always_sdk {α : Type} {Φ : List (EngineEvent T H) → Prop} (hΦ : Appendable Φ)
    (x : Except SdkError α) : Always Φ (sdk x) := always_lift hΦ _

/-! ## Errors -/

/-- Errors of the SDK's checks, of the caller's functions and of the readers. -/
def IsSdk (e : EngineError T) : Prop := ∃ error, e = .sdk error

def IsGrpc (e : EngineError T) : Prop := ∃ error, e = .grpc error

theorem throwsOnly_sdk {α : Type} (x : Except SdkError α) :
    ThrowsOnly IsSdk (sdk x : EngineEff T H α) := by
  refine throwsOnly_lift fun e he => ?_
  cases x with
  | ok a => cases he
  | error error =>
    cases he
    exact ⟨error, rfl⟩

theorem throwsOnly_perform {S : EngineError T → Prop} (op : EngineOp T H) :
    ThrowsOnly S (perform op) := throwsOnly_liftOp (I := engineInterface T H) op

/-- An operation of the caller or of a reader throws what it answers. -/
theorem throwsOnly_performSdk {α : Type} (op : EngineOp T H)
    (f : op.Ans → Except SdkError α) : ThrowsOnly IsSdk (perform op >>= fun a => sdk (f a)) :=
  throwsOnly_bind (throwsOnly_perform op) fun a => throwsOnly_sdk (f a)

theorem throwsOnly_readChainEpoch : ThrowsOnly IsSdk (readChainEpoch : EngineEff T H ℕ) :=
  throwsOnly_bind (throwsOnly_performSdk .chainEpoch id) fun read =>
    throwsOnly_perform (.keepEpoch read)

/-! ## The lookup -/

/-- A read of a lookup, among the events of the submission. -/
def recordEvent (e : Event (recordInterface H)) : EngineEvent T H := ⟨.record e.op, e.ans⟩

theorem implements_record {es : List (Event (recordInterface H))} {tr : List (EngineEvent T H)}
    (h : Prog.Implements
      (fun op => Prog.perform (I := engineInterface T H) (.record op)) es tr) :
    tr = es.map recordEvent := by
  induction h with
  | nil => rfl
  | @cons e es tr₁ tr₂ hfirst _ ih =>
    obtain ⟨a, tr', rfl, hlast⟩ := Prog.returns_call_iff.mp hfirst
    obtain ⟨rfl, rfl⟩ := Prog.returns_pure_iff.mp hlast
    rw [ih]
    rfl

theorem gives_lookup {α : Type} {p : RecordEff H α} {tr : List (EngineEvent T H)}
    {r : Except SdkError α} (h : Gives (lookup p) tr r) :
    ∃ es, tr = es.map recordEvent ∧ Prog.Returns p.run es r := by
  obtain ⟨tr₁, tr₂, r', rfl, hp, hlast⟩ := Prog.returns_bind_iff.mp h
  obtain ⟨rfl, heq⟩ := Prog.returns_pure_iff.mp hlast
  cases heq
  obtain ⟨es, hes, himplements⟩ := Prog.returns_interp hp
  exact ⟨es, by rw [List.append_nil, implements_record himplements], hes⟩

theorem always_lookup {α : Type} {Φ : List (EngineEvent T H) → Prop} (hΦ : Appendable Φ)
    (hrecord : ∀ (op : RecordOp H) a, Φ [⟨.record op, a⟩]) (p : RecordEff H α) :
    Always Φ (lookup (T := T) p) := by
  rintro tr ⟨q, hrun⟩
  have hinterp : Prog.Always Φ (p.run.interp
      fun op => Prog.perform (I := engineInterface T H) (.record op)) :=
    Prog.always_interp (I := recordInterface H) hΦ
      (fun op => Prog.always_perform (I := engineInterface T H) hΦ (hrecord op)) p.run
  exact Prog.always_bind hΦ hinterp (fun r => Prog.always_pure hΦ _) tr q hrun

theorem throwsOnly_lookup {α : Type} {S : EngineError T → Prop} (p : RecordEff H α) :
    ThrowsOnly S (lookup (T := T) p) := by
  intro tr e h
  obtain ⟨tr₁, tr₂, r, rfl, -, hlast⟩ := Prog.returns_bind_iff.mp h
  cases (Prog.returns_pure_iff.mp hlast).2

/-! ## Sending -/

section Sending

variable {Φ : List (EngineEvent T H) → Prop} {signed : SignedRequest}

theorem always_resendUntilAnswered (hΦ : Steady Φ)
    (hsend : ∀ timeoutMs a, Φ [⟨.submitTransaction signed timeoutMs, a⟩]) (deadline : ℤ)
    (fuel : ℕ) : Always Φ (resendUntilAnswered signed deadline fuel) := by
  have happend := hΦ.toAppendable
  induction fuel with
  | zero => exact always_cut happend
  | succ fuel ih =>
    refine always_bind happend (always_perform hΦ trivial) fun now => ?_
    refine always_bind happend (always_liftOp happend (hsend _)) fun answer => ?_
    cases answer with
    | ok answer => exact always_pure happend answer
    | error error =>
      dsimp only
      split_ifs
      · exact always_throw happend _
      · refine always_bind happend (always_perform hΦ trivial) fun later => ?_
        split_ifs
        · exact always_throw happend _
        · exact always_bind happend (always_perform hΦ trivial) fun _ => ih

theorem always_resendUntilRead (hΦ : Steady Φ)
    (hsend : ∀ timeoutMs a, Φ [⟨.submitTransaction signed timeoutMs, a⟩]) (deadline : ℤ)
    (answer : TransactionResponseData) (fuel : ℕ) :
    Always Φ (resendUntilRead signed deadline answer fuel) := by
  have happend := hΦ.toAppendable
  induction fuel generalizing answer with
  | zero => exact always_cut happend
  | succ fuel ih =>
    unfold resendUntilRead
    split_ifs
    · refine always_bind happend (always_perform hΦ trivial) fun now => ?_
      split_ifs
      · refine always_bind happend (always_perform hΦ trivial) fun _ => ?_
        refine always_bind happend (always_liftOp happend (hsend _)) fun later => ?_
        cases later with
        | ok later => exact ih later
        | error error => exact always_throw happend _
      · exact always_pure happend answer
    · exact always_pure happend answer

theorem always_sendSigned (hΦ : Steady Φ)
    (hsend : ∀ timeoutMs a, Φ [⟨.submitTransaction signed timeoutMs, a⟩]) (sent : Sent T)
    (fuel : ℕ) : Always Φ (sendSigned sent signed fuel) := by
  have happend := hΦ.toAppendable
  have hanswer : Always Φ (sendUntilAnswered signed fuel) :=
    always_bind happend (always_perform hΦ trivial) fun start =>
      always_resendUntilAnswered hΦ hsend _ fuel
  have hread : ∀ answer, Always Φ (resendWhileDepositUnread answer signed fuel) := fun answer =>
    always_bind happend (always_perform hΦ trivial) fun start =>
      always_resendUntilRead hΦ hsend _ answer fuel
  refine always_bind happend
    (always_tryCatch happend (always_bind happend hanswer hread) fun e => ?_) fun answer => ?_
  · exact always_throw happend _
  · exact always_lift happend _

/-- Whatever is sent for a signed request is a copy of it. -/
theorem sendSigned_sendsOnly (sent : Sent T) (signed : SignedRequest) (fuel : ℕ) :
    Always (SendsOnly signed) (sendSigned (H := H) sent signed fuel) := by
  refine always_sendSigned (steady_sendsOnly signed) (fun timeoutMs a => ⟨rfl, ?_⟩) sent fuel
  simp [copies, EngineOp.copy]

end Sending

theorem throwsOnly_resendUntilAnswered (signed : SignedRequest) (deadline : ℤ) (fuel : ℕ) :
    ThrowsOnly IsGrpc (resendUntilAnswered (T := T) (H := H) signed deadline fuel) := by
  induction fuel with
  | zero => exact throwsOnly_cut
  | succ fuel ih =>
    refine throwsOnly_bind (throwsOnly_perform _) fun now => ?_
    refine throwsOnly_bind (throwsOnly_perform _) fun answer => ?_
    cases answer with
    | ok answer => exact throwsOnly_pure answer
    | error error =>
      dsimp only
      split_ifs
      · exact throwsOnly_throw ⟨error, rfl⟩
      · refine throwsOnly_bind (throwsOnly_perform _) fun later => ?_
        split_ifs
        · exact throwsOnly_throw ⟨error, rfl⟩
        · exact throwsOnly_bind (throwsOnly_perform _) fun _ => ih

theorem throwsOnly_resendUntilRead (signed : SignedRequest) (deadline : ℤ)
    (answer : TransactionResponseData) (fuel : ℕ) :
    ThrowsOnly IsGrpc (resendUntilRead (T := T) (H := H) signed deadline answer fuel) := by
  induction fuel generalizing answer with
  | zero => exact throwsOnly_cut
  | succ fuel ih =>
    unfold resendUntilRead
    split_ifs
    · refine throwsOnly_bind (throwsOnly_perform _) fun now => ?_
      split_ifs
      · refine throwsOnly_bind (throwsOnly_perform _) fun _ => ?_
        refine throwsOnly_bind (throwsOnly_perform _) fun later => ?_
        cases later with
        | ok later => exact ih later
        | error error => exact throwsOnly_throw ⟨error, rfl⟩
      · exact throwsOnly_pure answer
    · exact throwsOnly_pure answer

/-- Sending throws an error of a call, or the close of the very session sent. -/
theorem throwsOnly_sendSigned (sent : Sent T) (signed : SignedRequest) (fuel : ℕ) :
    ThrowsOnly (fun e => IsGrpc e ∨ ∃ refusal, e = .closedBeforeAnswer sent refusal)
      (sendSigned (H := H) sent signed fuel) := by
  have hcalls : ThrowsOnly IsGrpc (do
      resendWhileDepositUnread (T := T) (H := H) (← sendUntilAnswered signed fuel) signed
        fuel) := by
    refine throwsOnly_bind ?_ fun answer => ?_
    · exact throwsOnly_bind (throwsOnly_perform _) fun start =>
        throwsOnly_resendUntilAnswered signed _ fuel
    · exact throwsOnly_bind (throwsOnly_perform _) fun start =>
        throwsOnly_resendUntilRead signed _ answer fuel
  refine throwsOnly_bind (throwsOnly_tryCatch hcalls ?_) fun answer => throwsOnly_lift ?_
  · rintro _ ⟨error, rfl⟩
    refine throwsOnly_throw ?_
    simp only [closedByRefusal]
    split_ifs
    · exact .inr ⟨_, rfl⟩
    · exact .inl ⟨error, rfl⟩
  · intro e he
    unfold unlessStale at he
    split at he
    · cases he
      exact .inr ⟨_, rfl⟩
    · cases he

/-! ## Sessions -/

section Sessions

variable {P : Primitives} {network : Network} {requester : Requester}

/-- Made from the data, with a signature under the key. -/
structure SignedAs (publicKey : Bytes) (data : SignedRequestData) (signed : SignedRequest) :
    Prop where
  bytes : signedRequestDataBcs.serialize data = .ok signed.signedRequestData
  signature : ∃ signature, userSignatureBcs.serialize
    (.ed25519 signature publicKey) = .ok signed.userSignature

/-- What a submission needs of the function that signs its request. -/
structure Signs (publicKey : Bytes) (sign : SignedRequestData → EngineEff T H SignedRequest) :
    Prop where
  still : ∀ {Φ}, Steady Φ → ∀ data, Always Φ (sign data)
  signed : ∀ data tr signed, Gives (sign data) tr signed → SignedAs publicKey data signed
  errors : ∀ data, ThrowsOnly IsSdk (sign data)

/-- Nothing is sent, or copies of one request made from the data. -/
def SendsData (publicKey : Bytes) (data : SignedRequestData)
    (tr : List (EngineEvent T H)) : Prop :=
  Quiet tr ∨ ∃ signed, SignedAs publicKey data signed ∧ SendsOnly signed tr

variable {epoch fuel : ℕ} {sign : SignedRequestData → EngineEff T H SignedRequest}
  {build : ℕ → Bytes → EngineEff T H (BuiltRequest T)} {tr : List (EngineEvent T H)}

theorem SendsData.prepend {publicKey : Bytes} {data : SignedRequestData}
    {tr₁ tr₂ : List (EngineEvent T H)}
    (hquiet : Quiet tr₁) (h : SendsData publicKey data tr₂) :
    SendsData publicKey data (tr₁ ++ tr₂) := by
  rcases h with hnothing | ⟨signed, hsigned, hsends⟩
  · exact .inl (appendable_quiet.append hquiet hnothing)
  · exact .inr ⟨signed, hsigned,
      (appendable_sendsOnly signed).append (hquiet.sendsOnly signed) hsends⟩

theorem begins_signAndSend (hsign : Signs requester.keypair.publicKey sign)
    (h : Begins (signAndSend P network requester epoch sign build fuel) tr) :
    tr = [] ∨ ∃ preimage tr', tr = ⟨.freshPreimage, preimage⟩ :: tr' ∧
      (Begins (build epoch (sessionIdentifier P requester epoch preimage)) tr' ∨
        ∃ tr₁ tr₂ built, tr' = tr₁ ++ tr₂ ∧
          Gives (build epoch (sessionIdentifier P requester epoch preimage)) tr₁ built ∧
          SendsData requester.keypair.publicKey
            (signedData network requester epoch preimage built.request) tr₂) := by
  rcases begins_bind h with hfresh | ⟨tr₁, tr₂, preimage, rfl, hfresh, hrest⟩
  · rcases begins_liftOp_iff.mp hfresh with rfl | ⟨preimage, rfl⟩
    · exact .inl rfl
    · exact .inr ⟨preimage, [], rfl, .inl ⟨_, .refl _⟩⟩
  · obtain rfl := gives_liftOp_iff.mp hfresh
    refine .inr ⟨preimage, tr₂, rfl, ?_⟩
    rcases begins_bind hrest with hbuild | ⟨tr₃, tr₄, built, rfl, hbuild, hsend⟩
    · exact .inl hbuild
    · refine .inr ⟨tr₃, tr₄, built, rfl, hbuild, ?_⟩
      rcases begins_bind hsend with hsigning | ⟨tr₅, tr₆, signed, rfl, hsigning, hsent⟩
      · exact .inl (hsign.still steady_quiet _ tr₄ hsigning)
      · refine SendsData.prepend (hsign.still steady_quiet _ tr₅ hsigning.begins)
          (.inr ⟨signed, ?_, ?_⟩)
        · exact hsign.signed _ tr₅ signed hsigning
        · exact sendSigned_sendsOnly _ signed fuel tr₆ hsent

theorem throws_signAndSend (hsign : Signs requester.keypair.publicKey sign)
    (hbuild : ∀ session, ThrowsOnly IsSdk (build epoch session)) {e : EngineError T}
    (h : Throws (signAndSend P network requester epoch sign build fuel) tr e) :
    IsSdk e ∨ ∃ preimage tr₁ tr₂ built,
      tr = ⟨.freshPreimage, preimage⟩ :: (tr₁ ++ tr₂) ∧
      Gives (build epoch (sessionIdentifier P requester epoch preimage)) tr₁ built ∧
      SendsData requester.keypair.publicKey
        (signedData network requester epoch preimage built.request) tr₂ ∧
      (IsGrpc e ∨ ∃ refusal, e = .closedBeforeAnswer
        ⟨epoch, sessionIdentifier P requester epoch preimage, built.kept⟩ refusal) := by
  rcases throws_bind_iff.mp h with hfresh | ⟨tr₁, tr₂, preimage, rfl, hfresh, hrest⟩
  · exact (throws_liftOp_iff.mp hfresh).elim
  obtain rfl := gives_liftOp_iff.mp hfresh
  rcases throws_bind_iff.mp hrest with hfailed | ⟨tr₃, tr₄, built, rfl, hbuilt, hsend⟩
  · exact .inl (hbuild _ tr₂ e hfailed)
  rcases throws_bind_iff.mp hsend with hfailed | ⟨tr₅, tr₆, signed, rfl, hsigning, hsent⟩
  · exact .inl (hsign.errors _ tr₄ e hfailed)
  refine .inr ⟨preimage, tr₃, tr₅ ++ tr₆, built, rfl, hbuilt, ?_, ?_⟩
  · refine SendsData.prepend (hsign.still steady_quiet _ tr₅ hsigning.begins)
      (.inr ⟨signed, ?_, ?_⟩)
    · exact hsign.signed _ tr₅ signed hsigning
    · exact sendSigned_sendsOnly _ signed fuel tr₆ hsent.begins
  · exact throwsOnly_sendSigned _ signed fuel tr₆ e hsent

/-! ## After a close -/

/-- The connection's epoch was at or past the one at which every session of the
request's epoch is settled, and then the lookup answered that it never ran. -/
def NotRunLookup (P : Primitives) (network : Network) (pending : PendingRequest)
    (tr : List (EngineEvent T H)) : Prop :=
  network.requestRecords = true ∧ ∃ (n : ℕ) (es : List (Event (recordInterface H))),
    tr = ⟨.epoch, n⟩ :: es.map recordEvent ∧ settledAtEpoch pending ≤ n ∧
      Gives (findSession P pending network.shares) es .notRun

theorem settledOutcome_notRun {pending : PendingRequest}
    (h : Gives (settledOutcome (T := T) (H := H) P network pending) tr .notRun) :
    NotRunLookup P network pending tr := by
  unfold settledOutcome at h
  split_ifs at h with hrecords
  · obtain ⟨tr₁, tr₂, n, rfl, hepoch, hrest⟩ := gives_bind_iff.mp h
    obtain rfl := gives_liftOp_iff.mp hepoch
    split_ifs at hrest with hearly
    · cases (gives_pure_iff.mp hrest).2
    · obtain ⟨tr₃, tr₄, r, rfl, hlookup, hlast⟩ := gives_bind_iff.mp hrest
      obtain ⟨es, rfl, hfound⟩ := gives_lookup hlookup
      cases r with
      | ok outcome =>
        obtain ⟨rfl, rfl⟩ := gives_pure_iff.mp hlast
        exact ⟨hrecords, n, es, by simp, not_lt.mp hearly, hfound⟩
      | error e => cases (gives_pure_iff.mp hlast).2
  · cases (gives_pure_iff.mp h).2

theorem always_waitForEpoch {Φ : List (EngineEvent T H) → Prop} (hΦ : Steady Φ)
    (settledAt : ℕ) (deadline : ℤ) (fuel : ℕ) :
    Always Φ (waitForEpoch settledAt deadline fuel) := by
  have happend := hΦ.toAppendable
  induction fuel with
  | zero => exact always_cut happend
  | succ fuel ih =>
    refine always_bind happend (always_perform hΦ trivial) fun epoch => ?_
    split_ifs
    · refine always_bind happend (always_perform hΦ trivial) fun now => ?_
      split_ifs
      · have hread : Always Φ (discard (Eff.attempt readChainEpoch)) :=
          always_bind happend (always_attempt (always_readChainEpoch hΦ))
            fun _ => always_pure happend _
        refine always_bind happend hread fun _ => ?_
        refine always_bind happend (always_perform hΦ trivial) fun epoch => ?_
        split_ifs
        · exact always_bind happend (always_perform hΦ trivial) fun _ => ih
        · exact always_pure happend _
      · exact always_pure happend _
    · exact always_pure happend _

theorem always_settledOutcome {Φ : List (EngineEvent T H) → Prop} (hΦ : Steady Φ)
    (pending : PendingRequest) : Always Φ (settledOutcome P network pending) := by
  have happend := hΦ.toAppendable
  unfold settledOutcome
  split_ifs
  · refine always_bind happend (always_perform hΦ trivial) fun epoch => ?_
    split_ifs
    · exact always_pure happend _
    · have hlookup : Always Φ (lookup (findSession P (H := H) pending network.shares)) :=
        always_lookup happend (fun op a => hΦ.still (.record op) trivial a) _
      refine always_bind happend hlookup fun r => ?_
      cases r <;> exact always_pure happend _
  · exact always_pure happend _

theorem always_outcomeAfterEpochClose {Φ : List (EngineEvent T H) → Prop} (hΦ : Steady Φ)
    (pending : PendingRequest) (fuel : ℕ) :
    Always Φ (outcomeAfterEpochClose P network pending fuel) := by
  have happend := hΦ.toAppendable
  refine always_bind happend (always_perform hΦ trivial) fun start => ?_
  exact always_bind happend (always_waitForEpoch hΦ _ _ fuel) fun _ =>
    always_settledOutcome hΦ pending

theorem outcomeAfterEpochClose_notRun {pending : PendingRequest}
    (h : Gives (outcomeAfterEpochClose (T := T) (H := H) P network pending fuel) tr .notRun) :
    ∃ tr₁ found, tr = tr₁ ++ found ∧ Quiet tr₁ ∧ NotRunLookup P network pending found := by
  obtain ⟨tr₁, tr₂, start, rfl, hstart, hrest⟩ := gives_bind_iff.mp h
  obtain ⟨tr₃, tr₄, _, rfl, hwait, hfound⟩ := gives_bind_iff.mp hrest
  refine ⟨tr₁ ++ tr₃, tr₄, by simp, ?_, settledOutcome_notRun hfound⟩
  have hclock : Always Quiet (nowMs (T := T) (H := H)) :=
    @always_perform T H Quiet steady_quiet .now trivial
  exact appendable_quiet.append (hclock tr₁ hstart.begins)
    (always_waitForEpoch steady_quiet _ _ fuel tr₃ hwait.begins)

theorem throwsOnly_outcomeAfterEpochClose {S : EngineError T → Prop} (pending : PendingRequest)
    (fuel : ℕ) :
    ThrowsOnly S (outcomeAfterEpochClose (T := T) (H := H) P network pending fuel) := by
  refine throwsOnly_bind (throwsOnly_perform _) fun start => throwsOnly_bind ?_ fun _ => ?_
  · generalize settledAtEpoch pending = settledAt, start + epochCloseWaitMs = deadline
    induction fuel with
    | zero => exact throwsOnly_cut
    | succ fuel ih =>
      refine throwsOnly_bind (throwsOnly_perform _) fun epoch => ?_
      split_ifs
      · refine throwsOnly_bind (throwsOnly_perform _) fun now => ?_
        split_ifs
        · refine throwsOnly_bind ?_ fun _ => throwsOnly_bind (throwsOnly_perform _) fun epoch => ?_
          · exact throwsOnly_bind (throwsOnly_attempt _) fun _ => throwsOnly_pure _
          · split_ifs
            · exact throwsOnly_bind (throwsOnly_perform _) fun _ => ih
            · exact throwsOnly_pure _
        · exact throwsOnly_pure _
      · exact throwsOnly_pure _
  · unfold settledOutcome
    split_ifs
    · refine throwsOnly_bind (throwsOnly_perform _) fun epoch => ?_
      split_ifs
      · exact throwsOnly_pure _
      · refine throwsOnly_bind (throwsOnly_lookup _) fun r => ?_
        cases r <;> exact throwsOnly_pure _
    · exact throwsOnly_pure _

theorem always_answerOrThrow {Φ : List (EngineEvent T H) → Prop} (hΦ : Steady Φ)
    (sent : Sent T) (refusal : String) (outcome : RequestOutcome) (pending : PendingRequest) :
    Always Φ (answerOrThrow sent refusal outcome pending) := by
  have happend := hΦ.toAppendable
  have hunknown : Always Φ (do
      let chainEpoch ← perform (T := T) (H := H) .epoch
      (throw (.epochClosedBeforeAnswer sent.epoch sent.sessionIdentifier chainEpoch refusal
        pending) :
        EngineEff T H (TransactionResponseData × Sent T))) :=
    always_bind happend (always_perform hΦ trivial) fun _ => always_throw happend _
  cases outcome with
  | notRun => exact hunknown
  | ran record => exact always_throw happend _
  | signature signature => exact always_pure happend _
  | unknown => exact hunknown

/-- What a submission needs of the function that describes its request. -/
structure Describes (describe : Bytes → T → EngineEff T H PendingRequestKind) : Prop where
  still : ∀ {Φ}, Steady Φ → ∀ session kept, Always Φ (describe session kept)
  errors : ∀ session kept, ThrowsOnly IsSdk (describe session kept)

/-- The events up to where what follows a session that never ran begins: the
session's description, a wait, and the lookup. -/
structure LookedUp (P : Primitives) (network : Network) (requester : Requester)
    (describe : Bytes → T → EngineEff T H PendingRequestKind) (sent : Sent T)
    (before found : List (EngineEvent T H)) : Prop where
  quiet : Quiet before
  notRun : ∃ tr₁ tr₂ kind, before = tr₁ ++ tr₂ ∧
    Gives (describe sent.sessionIdentifier sent.kept) tr₁ kind ∧
    NotRunLookup P network (pendingRequest network requester sent kind) found

section AfterClose

variable {describe : Bytes → T → EngineEff T H PendingRequestKind}
  {notRun : Option (EngineEff T H (TransactionResponseData × Sent T))} {sent : Sent T}
  {refusal : String}

theorem gives_pending {pending' : PendingRequest}
    (h : Gives (pending network requester describe sent) tr pending') :
    ∃ kind, Gives (describe sent.sessionIdentifier sent.kept) tr kind ∧
      pending' = pendingRequest network requester sent kind := by
  obtain ⟨tr₁, tr₂, kind, rfl, hkind, hlast⟩ := gives_bind_iff.mp h
  obtain ⟨rfl, rfl⟩ := gives_pure_iff.mp hlast
  exact ⟨kind, by rwa [List.append_nil], rfl⟩

theorem always_pending {Φ : List (EngineEvent T H) → Prop} (hΦ : Steady Φ)
    (hdescribe : Describes describe) : Always Φ (pending network requester describe sent) :=
  always_bind hΦ.toAppendable (hdescribe.still hΦ _ _) fun _ => always_pure hΦ.toAppendable _

/-- What follows a close is quiet, up to what follows a session that never ran. -/
theorem begins_afterClose (hdescribe : Describes describe)
    (h : Begins (afterClose P network requester describe fuel notRun
      (.closedBeforeAnswer sent refusal)) tr) :
    Quiet tr ∨ ∃ next before found rest, notRun = some next ∧ tr = before ++ found ++ rest ∧
      LookedUp P network requester describe sent before found ∧ Begins next rest := by
  rcases begins_bind h with hpending | ⟨tr₁, tr₂, pending', rfl, hpending, hrest⟩
  · exact .inl (always_pending steady_quiet hdescribe tr hpending)
  have hquiet : Quiet tr₁ := always_pending steady_quiet hdescribe tr₁ hpending.begins
  obtain ⟨kind, hkind, rfl⟩ := gives_pending hpending
  rcases begins_bind hrest with hwait | ⟨tr₃, tr₄, outcome, rfl, houtcome, hnext⟩
  · exact .inl (appendable_quiet.append hquiet
      (always_outcomeAfterEpochClose steady_quiet _ fuel tr₂ hwait))
  have hwaited := always_outcomeAfterEpochClose steady_quiet _ fuel tr₃ houtcome.begins
  split at hnext
  · next _ _ next =>
    obtain ⟨tr₅, found, rfl, hbefore, hfound⟩ := outcomeAfterEpochClose_notRun houtcome
    refine .inr ⟨next, tr₁ ++ tr₅, found, tr₄, rfl, by simp, ?_, hnext⟩
    exact ⟨appendable_quiet.append hquiet hbefore, tr₁, tr₅, kind, rfl, hkind, hfound⟩
  · have hlast := always_answerOrThrow steady_quiet _ _ _ _ tr₄ hnext
    exact .inl (appendable_quiet.append hquiet (appendable_quiet.append hwaited hlast))

/-- The errors that what follows a close throws of itself. -/
def IsCloseError (e : EngineError T) : Prop :=
  IsSdk e ∨ (∃ epoch session record, e = .requestRanBeforeAnswer epoch session record) ∨
    ∃ epoch session chainEpoch refusal pending,
      e = .epochClosedBeforeAnswer epoch session chainEpoch refusal pending

theorem throwsOnly_answerOrThrow (outcome : RequestOutcome) (pending : PendingRequest) :
    ThrowsOnly IsCloseError (answerOrThrow (H := H) sent refusal outcome pending) := by
  have hunknown : ThrowsOnly IsCloseError (do
      let chainEpoch ← perform (T := T) (H := H) .epoch
      (throw (.epochClosedBeforeAnswer sent.epoch sent.sessionIdentifier chainEpoch refusal
        pending) :
        EngineEff T H (TransactionResponseData × Sent T))) :=
    throwsOnly_bind (throwsOnly_perform _) fun chainEpoch =>
      throwsOnly_throw (.inr (.inr ⟨_, _, _, _, _, rfl⟩))
  cases outcome with
  | notRun => exact hunknown
  | ran record => exact throwsOnly_throw (.inr (.inl ⟨_, _, _, rfl⟩))
  | signature signature => exact throwsOnly_pure _
  | unknown => exact hunknown

/-- An error of another kind comes from what follows a session that never ran. -/
theorem throws_afterClose (hdescribe : Describes describe) {e : EngineError T}
    (h : Throws (afterClose P network requester describe fuel notRun
      (.closedBeforeAnswer sent refusal)) tr e) :
    IsCloseError e ∨ ∃ next before found rest, notRun = some next ∧
      tr = before ++ found ++ rest ∧
      LookedUp P network requester describe sent before found ∧ Throws next rest e := by
  rcases throws_bind_iff.mp h with hpending | ⟨tr₁, tr₂, pending', rfl, hpending, hrest⟩
  · refine .inl (.inl ?_)
    exact throwsOnly_bind (hdescribe.errors _ _) (fun _ => throwsOnly_pure _) tr e hpending
  have hquiet : Quiet tr₁ := always_pending steady_quiet hdescribe tr₁ hpending.begins
  obtain ⟨kind, hkind, rfl⟩ := gives_pending hpending
  rcases throws_bind_iff.mp hrest with hwait | ⟨tr₃, tr₄, outcome, rfl, houtcome, hnext⟩
  · exact .inl (throwsOnly_outcomeAfterEpochClose _ fuel tr₂ e hwait)
  split at hnext
  · next _ _ next =>
    obtain ⟨tr₅, found, rfl, hbefore, hfound⟩ := outcomeAfterEpochClose_notRun houtcome
    refine .inr ⟨next, tr₁ ++ tr₅, found, tr₄, rfl, by simp, ?_, hnext⟩
    exact ⟨appendable_quiet.append hquiet hbefore, tr₁, tr₅, kind, rfl, hkind, hfound⟩
  · exact .inl (throwsOnly_answerOrThrow _ _ tr₄ e hnext)

end AfterClose

end Sessions

end Ika
