import IkaSdk.Core.Common.EngineTraces

/-! The sessions of one submission: a new one is opened only once the chain
showed that the one before it never ran, every copy sent under a session is the
same, and the epochs that the sessions name grow. -/

namespace Ika

open Wire Interaction Eff

variable {T H : Type}

/-! ## Signing -/

section Signing

variable {P : Primitives} {requester : Requester}

theorem signSerializedRequest_ok {keypair : TransportKeypair} {bytes : Bytes}
    {signed : SignedRequest} (h : signSerializedRequest P keypair bytes = .ok signed) :
    signed.signedRequestData = bytes ∧ ∃ signature, userSignatureBcs.serialize
      (.ed25519 signature keypair.publicKey) = .ok signed.userSignature := by
  obtain ⟨_, -, hrest⟩ := bind_ok h
  obtain ⟨userSignature, hserialized, hlast⟩ := bind_ok hrest
  cases hlast
  exact ⟨rfl, _, fromPackage_ok hserialized⟩

theorem signRequestBytes_ok {keypair : TransportKeypair} {data : SignedRequestData}
    {signed : SignedRequest} (h : signRequestBytes P keypair data = .ok signed) :
    SignedAs keypair.publicKey data signed := by
  obtain ⟨_, -, hrest⟩ := bind_ok h
  obtain ⟨bytes, hbytes, hsigned⟩ := bind_ok hrest
  obtain ⟨rfl, hsignature⟩ := signSerializedRequest_ok hsigned
  exact ⟨fromPackage_ok hbytes, hsignature⟩

theorem signs_signGrpcRequest (keypair : TransportKeypair) :
    Signs keypair.publicKey (signGrpcRequest (T := T) (H := H) P keypair) where
  still hΦ data := by
    have happend := hΦ.toAppendable
    refine always_bind happend (always_sdk happend _) fun _ => ?_
    refine always_bind happend (always_perform hΦ trivial) fun holder => ?_
    exact always_bind happend (always_sdk happend _) fun _ => always_sdk happend _
  signed data tr signed h := by
    obtain ⟨tr₁, tr₂, _, rfl, -, hholder⟩ := gives_bind_iff.mp h
    obtain ⟨tr₃, tr₄, holder, rfl, -, hcheck⟩ := gives_bind_iff.mp hholder
    obtain ⟨tr₅, tr₆, _, rfl, -, hbytes⟩ := gives_bind_iff.mp hcheck
    exact signRequestBytes_ok (gives_sdk_iff.mp hbytes).2
  errors data := by
    refine throwsOnly_bind (throwsOnly_sdk _) fun _ => ?_
    refine throwsOnly_bind (throwsOnly_perform _) fun holder => ?_
    exact throwsOnly_bind (throwsOnly_sdk _) fun _ => throwsOnly_sdk _

theorem signedBySigner_ok {publicKey bytes signature : Bytes} {signed : SignedRequest}
    (h : signedBySigner P publicKey bytes signature = .ok signed) :
    signed.signedRequestData = bytes ∧ ∃ signature, userSignatureBcs.serialize
      (.ed25519 signature publicKey) = .ok signed.userSignature := by
  obtain ⟨_, -, hrest⟩ := bind_ok h
  obtain ⟨_, -, hserialize⟩ := bind_ok hrest
  obtain ⟨userSignature, hserialized, hlast⟩ := bind_ok hserialize
  cases hlast
  exact ⟨rfl, _, fromPackage_ok hserialized⟩

/-- With a request signer the bytes are those made with a placeholder key, and
the signature is under the requester's key. -/
theorem signs_signFor {sign : TransportKeypair → SignedRequestData → EngineEff T H SignedRequest}
    (hsign : ∀ keypair, Signs keypair.publicKey (sign keypair)) :
    Signs requester.keypair.publicKey
      (fun data => signFor P requester fun keypair => sign keypair data) := by
  unfold signFor
  split_ifs with hsigner
  · refine ⟨fun hΦ data => ?_, fun data tr signed h => ?_, fun data => ?_⟩
    · have happend := hΦ.toAppendable
      refine always_bind happend ((hsign _).still hΦ data) fun signed => ?_
      refine always_bind happend (always_perform hΦ trivial) fun answer => ?_
      exact always_bind happend (always_sdk happend _) fun signature => always_sdk happend _
    · obtain ⟨tr₁, tr₂, unsigned, rfl, hunsigned, hrest⟩ := gives_bind_iff.mp h
      obtain ⟨tr₃, tr₄, answer, rfl, -, hanswer⟩ := gives_bind_iff.mp hrest
      obtain ⟨tr₅, tr₆, signature, rfl, -, hlast⟩ := gives_bind_iff.mp hanswer
      obtain ⟨hbytes, hsignature⟩ := signedBySigner_ok (gives_sdk_iff.mp hlast).2
      have hmade := ((hsign _).signed data tr₁ unsigned hunsigned).bytes
      exact ⟨by rw [hbytes]; exact hmade, hsignature⟩
    · refine throwsOnly_bind ((hsign _).errors data) fun signed => ?_
      refine throwsOnly_bind (throwsOnly_perform _) fun answer => ?_
      exact throwsOnly_bind (throwsOnly_sdk _) fun signature => throwsOnly_sdk _
  · exact hsign requester.keypair

end Signing

/-! ## What a signed request names -/

section Named

variable {P : Primitives} {publicKey : Bytes} {data : SignedRequestData} {signed : SignedRequest}

theorem SignedAs.data_eq (h : SignedAs publicKey data signed) : signed.data = some data := by
  rw [SignedRequest.data, Codec.decode_serialize h.bytes]
  rfl

theorem SignedAs.epoch_eq (h : SignedAs publicKey data signed) :
    signed.epoch = some data.epoch := by
  rw [SignedRequest.epoch, h.data_eq]
  rfl

theorem SignedAs.sessionPreimage_eq (h : SignedAs publicKey data signed) :
    signed.sessionPreimage = some (grpcSessionPreimage data.epoch .ed25519 publicKey
      data.sessionIdentifierPreimage) := by
  obtain ⟨signature, hsignature⟩ := h.signature
  rw [SignedRequest.sessionPreimage, h.data_eq, SignedRequest.signature,
    Codec.decode_serialize hsignature]
  rfl

theorem SignedAs.session_eq (h : SignedAs publicKey data signed) :
    signed.session P = some (grpcSessionIdentifier P data.epoch .ed25519 publicKey
      data.sessionIdentifierPreimage) := by
  rw [SignedRequest.session, h.sessionPreimage_eq]
  rfl

/-- A request that can be serialized names an epoch of 64 bits. -/
theorem SignedAs.epoch_lt (h : SignedAs publicKey data signed) : data.epoch < 256 ^ 8 := by
  have hvalid : signedRequestDataBcs.valid data := (Codec.serialize_ok h.bytes).1
  simp only [signedRequestDataBcs, Codec.iso, Codec.pair, Codec.uint, Bool.and_eq_true,
    decide_eq_true_eq] at hvalid
  exact hvalid.2.1

end Named

/-! ## Rounds -/

/-- The value of the connection's epoch that an event reports. -/
def epochSeen : EngineEvent T H → Option ℕ
  | ⟨.epoch, n⟩ => some n
  | ⟨.keepEpoch _, n⟩ => some n
  | _ => none

def epochsSeen (tr : List (EngineEvent T H)) : List ℕ := tr.filterMap epochSeen

@[simp] theorem epochsSeen_append (tr tr' : List (EngineEvent T H)) :
    epochsSeen (tr ++ tr') = epochsSeen tr ++ epochsSeen tr' := List.filterMap_append

section Rounds

variable (P : Primitives) (network : Network) (requester : Requester)

/-- The events of one session: it is opened once, for an epoch that the
connection had seen, and the copies sent are all of one request that names it. -/
structure Round (tr : List (EngineEvent T H)) (opening : ℕ × Bytes) : Prop where
  opened : openings tr = [opening]
  seen : opening.1 ∈ epochsSeen tr
  same : ∀ c ∈ copies tr, ∀ c' ∈ copies tr, c = c'
  made : ∀ c ∈ copies tr, ∃ preimage request,
    opening.2 = sessionIdentifier P requester opening.1 preimage ∧
      SignedAs requester.keypair.publicKey
        (signedData network requester opening.1 preimage request) c

/-- The session of the opening was described as its builder kept it, and then
looked up: it never ran. -/
def FoundNotRun (opening : ℕ × Bytes) (before found : List (EngineEvent T H)) : Prop :=
  ∃ (built : BuiltRequest T) (kind : PendingRequestKind),
    ⟨.build opening.1 opening.2, .ok built⟩ ∈ before ∧
    ⟨.describe opening.2 built.kept, .ok kind⟩ ∈ before ∧
    NotRunLookup P network
      (pendingRequest network requester ⟨opening.1, opening.2, built.kept⟩ kind) found

/-- A submission that may still rebuild its request so many times: a further
session follows a round only after the lookup of that round's session. -/
inductive Rounds : ℕ → List (EngineEvent T H) → Prop
  | unopened {left : ℕ} {tr : List (EngineEvent T H)} : Quiet tr → Rounds left tr
  | opened {left : ℕ} {tr : List (EngineEvent T H)} {opening : ℕ × Bytes} :
      Round P network requester tr opening → Rounds left tr
  | again {left : ℕ} {tr found rest : List (EngineEvent T H)} {opening : ℕ × Bytes} :
      Round P network requester tr opening →
      FoundNotRun P network requester opening tr found → Rounds left rest →
      Rounds (left + 1) (tr ++ found ++ rest)

end Rounds

section Submit

variable {P : Primitives} {network : Network} {requester : Requester} {fuel : ℕ}
  {tr : List (EngineEvent T H)}

theorem Round.append {tr' : List (EngineEvent T H)} {opening : ℕ × Bytes}
    (h : Round P network requester tr opening) (hquiet : Quiet tr') :
    Round P network requester (tr ++ tr') opening where
  opened := by rw [openings_append, h.opened, hquiet.1]; rfl
  seen := by rw [epochsSeen_append]; exact List.mem_append_left _ h.seen
  same := by rw [copies_append, hquiet.2, List.append_nil]; exact h.same
  made := by rw [copies_append, hquiet.2, List.append_nil]; exact h.made

theorem gives_buildRequest {epoch : ℕ} {session : Bytes} {built : BuiltRequest T}
    (h : Gives (buildRequest (H := H) epoch session) tr built) :
    tr = [⟨.build epoch session, .ok built⟩] := by
  obtain ⟨tr₁, tr₂, answer, rfl, hanswer, hlast⟩ := gives_bind_iff.mp h
  obtain rfl := gives_liftOp_iff.mp hanswer
  obtain ⟨rfl, rfl⟩ := gives_sdk_iff.mp hlast
  rfl

theorem begins_buildRequest {epoch : ℕ} {session : Bytes}
    (h : Begins (buildRequest (T := T) (H := H) epoch session) tr) :
    tr = [] ∨ ∃ answer, tr = [⟨.build epoch session, answer⟩] := by
  rcases begins_bind h with hop | ⟨tr₁, tr₂, answer, rfl, hop, hlast⟩
  · exact begins_liftOp_iff.mp hop
  · obtain rfl := gives_liftOp_iff.mp hop
    obtain rfl := begins_lift_iff.mp hlast
    exact .inr ⟨answer, rfl⟩

theorem gives_describeRequest {session : Bytes} {kept : T} {kind : PendingRequestKind}
    (h : Gives (describeRequest (H := H) session kept) tr kind) :
    tr = [⟨.describe session kept, .ok kind⟩] := by
  obtain ⟨tr₁, tr₂, answer, rfl, hanswer, hlast⟩ := gives_bind_iff.mp h
  obtain rfl := gives_liftOp_iff.mp hanswer
  obtain ⟨rfl, rfl⟩ := gives_sdk_iff.mp hlast
  rfl

theorem describes_describeRequest : Describes (describeRequest (T := T) (H := H)) where
  still hΦ _ _ :=
    always_bind hΦ.toAppendable (always_perform hΦ trivial) fun _ => always_sdk hΦ.toAppendable _
  errors session kept := throwsOnly_performSdk (.describe session kept) id

/-- The round that a session's events make: the epoch was read, the request was
built, and what was sent since is of the data signed. -/
theorem round_of_sends {read epoch : ℕ} {preimage : Bytes} {request : DWalletRequest}
    {answer : Except SdkError (BuiltRequest T)} {sends : List (EngineEvent T H)}
    (h : SendsData requester.keypair.publicKey
      (signedData network requester epoch preimage request) sends) :
    Round P network requester
      ([⟨.chainEpoch, .ok read⟩, ⟨.keepEpoch read, epoch⟩] ++ ⟨.freshPreimage, preimage⟩ ::
        ([⟨.build epoch (sessionIdentifier P requester epoch preimage), answer⟩] ++ sends))
      (epoch, sessionIdentifier P requester epoch preimage) := by
  have hopenings : openings sends = [] := by
    rcases h with hquiet | ⟨signed, -, hsends⟩
    · exact hquiet.1
    · exact hsends.1
  have hcopies : ∀ c ∈ copies sends, ∀ c' ∈ copies sends, c = c' := by
    rcases h with hquiet | ⟨signed, -, hsends⟩
    · simp [hquiet.2]
    · intro c hc c' hc'
      rw [hsends.2 c hc, hsends.2 c' hc']
  refine ⟨?_, ?_, hcopies, fun c hc => ⟨preimage, request, rfl, ?_⟩⟩
  · show _ :: openings sends = _
    rw [hopenings]
  · exact List.mem_cons_self
  · rcases h with hquiet | ⟨signed, hsigned, hsends⟩
    · have hnone : c ∈ copies sends := hc
      rw [hquiet.2] at hnone
      cases hnone
    · rw [hsends.2 c hc]
      exact hsigned

theorem begins_submitOnce
    (h : Begins (submitOnce P network requester (buildRequest (T := T) (H := H)) fuel) tr) :
    Quiet tr ∨ ∃ opening, Round P network requester tr opening := by
  rcases begins_bind h with hread | ⟨tr₁, tr₂, epoch, rfl, hread, hsend⟩
  · exact .inl (always_readChainEpoch steady_quiet tr hread)
  have hreading : Quiet tr₁ := always_readChainEpoch steady_quiet tr₁ hread.begins
  obtain ⟨read, rfl⟩ := gives_readChainEpoch hread
  rcases begins_signAndSend (signs_signFor signs_signGrpcRequest) hsend with
    rfl | ⟨preimage, tr₃, rfl, hbuild | ⟨tr₄, tr₅, built, rfl, hbuilt, hsends⟩⟩
  · exact .inl (by rwa [List.append_nil])
  · have hnothing : SendsData (T := T) (H := H) requester.keypair.publicKey
        (signedData network requester epoch preimage .retiredAcceptShare) [] :=
      .inl appendable_quiet.nil
    rcases begins_buildRequest hbuild with rfl | ⟨answer, rfl⟩
    · exact .inl (by simp [Quiet, openings, copies, EngineOp.opening, EngineOp.copy])
    · exact .inr ⟨_, by simpa using round_of_sends hnothing⟩
  · obtain rfl := gives_buildRequest hbuilt
    exact .inr ⟨_, round_of_sends hsends⟩

theorem throws_submitOnce {sent : Sent T} {refusal : String}
    (h : Throws (submitOnce P network requester (buildRequest (T := T) (H := H)) fuel) tr
      (.closedBeforeAnswer sent refusal)) :
    ∃ built, Round P network requester tr (sent.epoch, sent.sessionIdentifier) ∧
      ⟨.build sent.epoch sent.sessionIdentifier, .ok built⟩ ∈ tr ∧ sent.kept = built.kept := by
  rcases throws_bind_iff.mp h with hread | ⟨tr₁, tr₂, epoch, rfl, hread, hsend⟩
  · obtain ⟨error, herror⟩ := throwsOnly_readChainEpoch tr _ hread
    cases herror
  obtain ⟨read, rfl⟩ := gives_readChainEpoch hread
  rcases throws_signAndSend (signs_signFor signs_signGrpcRequest)
      (fun session => throwsOnly_performSdk (.build epoch session) id) hsend with
    ⟨error, herror⟩ | ⟨preimage, tr₃, tr₄, built, rfl, hbuilt, hsends, hclosed⟩
  · cases herror
  obtain rfl := gives_buildRequest hbuilt
  rcases hclosed with ⟨error, herror⟩ | ⟨refusal', hclosed⟩
  · cases herror
  · cases hclosed
    exact ⟨built, round_of_sends hsends, by simp, rfl⟩

/-- One attempt and what follows it: nothing, a round, or a round whose session
never ran and what follows then. -/
theorem begins_attempt {notRun : Option (EngineEff T H (TransactionResponseData × Sent T))}
    (h : Begins (tryCatch (submitOnce P network requester buildRequest fuel)
      (afterClose P network requester describeRequest fuel notRun)) tr) :
    Quiet tr ∨ (∃ opening, Round P network requester tr opening) ∨
      ∃ next tr₁ found rest opening, notRun = some next ∧ tr = tr₁ ++ found ++ rest ∧
        Round P network requester tr₁ opening ∧
        FoundNotRun P network requester opening tr₁ found ∧ Begins next rest := by
  rcases begins_tryCatch h with hfirst | ⟨tr₁, tr₂, e, rfl, hfirst, hafter⟩
  · exact (begins_submitOnce hfirst).imp id .inl
  cases e with
  | closedBeforeAnswer sent refusal =>
    obtain ⟨built, hround, hbuilt, hkept⟩ := throws_submitOnce hfirst
    rcases begins_afterClose describes_describeRequest hafter with
      hquiet | ⟨next, before, found, rest, hnext, rfl, hlooked, hrest⟩
    · exact .inr (.inl ⟨_, hround.append hquiet⟩)
    obtain ⟨tr₃, tr₄, kind, rfl, hkind, hfound⟩ := hlooked.notRun
    obtain rfl := gives_describeRequest hkind
    refine .inr (.inr ⟨next, _, found, rest, _, hnext, by simp, hround.append hlooked.quiet,
      ⟨built, kind, List.mem_append_left _ hbuilt, ?_, ?_⟩, hrest⟩)
    · rw [← hkept]
      exact List.mem_append_right _ List.mem_cons_self
    · rw [← hkept]
      exact hfound
  | _ =>
    obtain rfl : tr₂ = [] := begins_throw_iff.mp hafter
    rw [List.append_nil]
    exact (begins_submitOnce hfirst.begins).imp id .inl

/-- Every submission, however far it has come, runs in rounds. -/
theorem submit_rounds {left : ℕ} (h : Begins (submit P network requester
      (buildRequest (T := T) (H := H)) describeRequest fuel left) tr) :
    Rounds P network requester left tr := by
  induction left generalizing tr with
  | zero =>
    rcases begins_attempt h with hquiet | ⟨opening, hround⟩ |
      ⟨next, tr₁, found, rest, opening, hnone, -⟩
    · exact .unopened hquiet
    · exact .opened hround
    · cases hnone
  | succ left ih =>
    rcases begins_attempt h with hquiet | ⟨opening, hround⟩ |
      ⟨next, tr₁, found, rest, opening, hnext, rfl, hround, hfound, hrest⟩
    · exact .unopened hquiet
    · exact .opened hround
    · cases hnext
      exact .again hround hfound (ih hrest)

section Properties

variable {Φ : List (EngineEvent T H) → Prop}

theorem always_submitOnce (hΦ : Steady Φ)
    (hbuild : ∀ epoch session a, Φ [⟨.build epoch session, a⟩])
    (hsend : ∀ signed timeoutMs a, Φ [⟨.submitTransaction signed timeoutMs, a⟩]) :
    Always Φ (submitOnce P network requester (buildRequest (T := T) (H := H)) fuel) := by
  have happend := hΦ.toAppendable
  refine always_bind happend (always_readChainEpoch hΦ) fun epoch => ?_
  refine always_bind happend (@always_perform T H Φ hΦ .freshPreimage trivial) fun preimage => ?_
  refine always_bind happend ?_ fun built => ?_
  · exact always_bind happend (always_liftOp happend (hbuild _ _)) fun _ => always_sdk happend _
  · refine always_bind happend ((signs_signFor signs_signGrpcRequest).still hΦ _) fun signed => ?_
    exact always_sendSigned hΦ (hsend signed) _ fuel

/-- What every attempt has, a submission has: a close adds no more than what is
neither built nor sent. -/
theorem always_submit (hΦ : Steady Φ)
    (honce : Always Φ (submitOnce P network requester (buildRequest (T := T) (H := H)) fuel))
    {left : ℕ} :
    Always Φ (submit P network requester buildRequest describeRequest fuel left) := by
  have happend := hΦ.toAppendable
  have hafter : ∀ notRun, (∀ next, notRun = some next → Always Φ next) → ∀ e,
      Always Φ
        (afterClose P network requester (describeRequest (T := T) (H := H)) fuel notRun e) := by
    intro notRun hnext e
    cases e with
    | closedBeforeAnswer sent refusal =>
      refine always_bind happend (always_pending hΦ describes_describeRequest) fun pending => ?_
      refine always_bind happend (always_outcomeAfterEpochClose hΦ _ fuel) fun outcome => ?_
      split
      · exact hnext _ rfl
      · exact always_answerOrThrow hΦ _ _ _ _
    | _ => exact always_throw happend _
  induction left with
  | zero => exact always_tryCatch happend honce (hafter none (by simp))
  | succ left ih =>
    refine always_tryCatch happend honce (hafter _ fun next hnext => ?_)
    obtain rfl := Option.some.inj hnext
    exact ih

end Properties

/-! ## What the rounds give -/

theorem NotRunLookup.quiet {pending : PendingRequest} {found : List (EngineEvent T H)}
    (h : NotRunLookup P network pending found) : Quiet found := by
  obtain ⟨-, n, es, rfl, -, -⟩ := h
  have hreads : Quiet (es.map (recordEvent (T := T))) := by
    induction es with
    | nil => exact appendable_quiet.nil
    | cons e es ih => exact ih
  exact hreads

/-- The request is built once, and once more for each rebuild. -/
theorem Rounds.openings_length {left : ℕ} (h : Rounds P network requester left tr) :
    (openings tr).length ≤ left + 1 := by
  induction h with
  | unopened hquiet => simp [hquiet.1]
  | opened hround => simp [hround.opened]
  | @again left tr found rest opening hround hfound _ ih =>
    obtain ⟨_, _, -, -, hlookup⟩ := hfound
    rw [openings_append, openings_append, hround.opened, hlookup.quiet.1]
    simp only [List.append_nil, List.length_append, List.length_singleton]
    omega

/-- Every copy sent names an opened session. -/
theorem Rounds.copies_opened {left : ℕ} (h : Rounds P network requester left tr)
    {c : SignedRequest} (hc : c ∈ copies tr) : ∃ opening ∈ openings tr,
      c.epoch = some opening.1 ∧ c.session P = some opening.2 := by
  have hround : ∀ {tr : List (EngineEvent T H)} {opening : ℕ × Bytes},
      Round P network requester tr opening → c ∈ copies tr →
      c.epoch = some opening.1 ∧ c.session P = some opening.2 := by
    intro tr opening hround hmem
    obtain ⟨preimage, request, hsession, hsigned⟩ := hround.made c hmem
    exact ⟨hsigned.epoch_eq, by rw [hsigned.session_eq, hsession]; rfl⟩
  induction h with
  | unopened hquiet =>
    rw [hquiet.2] at hc
    cases hc
  | opened hopened => exact ⟨_, by rw [hopened.opened]; simp, hround hopened hc⟩
  | @again left tr found rest opening hopened hfound _ ih =>
    obtain ⟨_, _, -, -, hlookup⟩ := hfound
    rw [copies_append, copies_append, hlookup.quiet.2, List.append_nil, List.mem_append] at hc
    rw [openings_append, openings_append, hopened.opened]
    rcases hc with hfirst | hrest
    · exact ⟨opening, by simp, hround hopened hfirst⟩
    · obtain ⟨opening', hmem, hnames⟩ := ih hrest
      exact ⟨opening', List.mem_append_right _ hmem, hnames⟩

/-- A copy is of a request that can be serialized, signed under the requester's key. -/
theorem Rounds.copies_made {left : ℕ} (h : Rounds P network requester left tr)
    {c : SignedRequest} (hc : c ∈ copies tr) :
    ∃ data, SignedAs requester.keypair.publicKey data c := by
  induction h with
  | unopened hquiet =>
    rw [hquiet.2] at hc
    cases hc
  | opened hopened =>
    obtain ⟨preimage, request, -, hsigned⟩ := hopened.made c hc
    exact ⟨_, hsigned⟩
  | @again left tr found rest opening hopened hfound _ ih =>
    obtain ⟨_, _, -, -, hlookup⟩ := hfound
    rw [copies_append, copies_append, hlookup.quiet.2, List.append_nil, List.mem_append] at hc
    rcases hc with hfirst | hrest
    · obtain ⟨preimage, request, -, hsigned⟩ := hopened.made c hfirst
      exact ⟨_, hsigned⟩
    · exact ih hrest

/-! ## The epochs of the rounds -/

/-- The answers that the connection's epoch gives while it holds `epoch`: other
calls of the connection may raise it, and keeping a later read raises it. -/
inductive EpochField : ℕ → List (EngineEvent T H) → Prop
  | nil {epoch : ℕ} : EpochField epoch []
  | raised {epoch later : ℕ} {tr : List (EngineEvent T H)} :
      epoch ≤ later → EpochField later tr → EpochField epoch tr
  | epoch {epoch : ℕ} {tr : List (EngineEvent T H)} :
      EpochField epoch tr → EpochField epoch (⟨.epoch, epoch⟩ :: tr)
  | keepEpoch {epoch read : ℕ} {tr : List (EngineEvent T H)} :
      EpochField (max epoch read) tr →
      EpochField epoch (⟨.keepEpoch read, max epoch read⟩ :: tr)
  | other {epoch : ℕ} {e : EngineEvent T H} {tr : List (EngineEvent T H)} :
      epochSeen e = none → EpochField epoch tr → EpochField epoch (e :: tr)

theorem EpochField.le {epoch : ℕ} (h : EpochField epoch tr) : ∀ n ∈ epochsSeen tr, epoch ≤ n := by
  induction h with
  | nil => simp [epochsSeen]
  | raised hle _ ih => exact fun n hn => hle.trans (ih n hn)
  | epoch _ ih => exact List.forall_mem_cons.mpr ⟨le_refl _, ih⟩
  | keepEpoch _ ih =>
    refine List.forall_mem_cons.mpr ⟨le_max_left _ _, fun n hn => ?_⟩
    exact (le_max_left _ _).trans (ih n hn)
  | other hnone _ ih =>
    rw [epochsSeen, List.filterMap_cons_none hnone]
    exact ih

/-- The connection's epoch never goes back. -/
theorem EpochField.pairwise {epoch : ℕ} (h : EpochField epoch tr) :
    (epochsSeen tr).Pairwise (· ≤ ·) := by
  induction h with
  | nil => exact List.Pairwise.nil
  | raised _ _ ih => exact ih
  | epoch h ih => exact List.pairwise_cons.mpr ⟨h.le, ih⟩
  | keepEpoch h ih => exact List.pairwise_cons.mpr ⟨h.le, ih⟩
  | other hnone _ ih =>
    rw [epochsSeen, List.filterMap_cons_none hnone]
    exact ih

/-- Whether the answers are those of a connection's epoch. -/
def epochFieldHolds : ℕ → List (EngineEvent T H) → Bool
  | _, [] => true
  | epoch, ⟨.epoch, n⟩ :: tr => decide (epoch ≤ n) && epochFieldHolds n tr
  | epoch, ⟨.keepEpoch read, n⟩ :: tr =>
    decide (epoch ≤ n) && decide (read ≤ n) && epochFieldHolds n tr
  | epoch, _ :: tr => epochFieldHolds epoch tr

theorem epochField_of_holds {epoch : ℕ} {tr : List (EngineEvent T H)}
    (h : epochFieldHolds epoch tr = true) : EpochField epoch tr := by
  induction tr generalizing epoch with
  | nil => exact .nil
  | cons e tr ih =>
    obtain ⟨op, ans⟩ := e
    cases op with
    | epoch =>
      obtain ⟨hle, hrest⟩ := Bool.and_eq_true_iff.mp h
      exact .raised (of_decide_eq_true hle) (.epoch (ih hrest))
    | keepEpoch read =>
      obtain ⟨hboth, hrest⟩ := Bool.and_eq_true_iff.mp h
      obtain ⟨hle, hread⟩ := Bool.and_eq_true_iff.mp hboth
      have hmax : max ans read = ans := max_eq_left (of_decide_eq_true hread)
      refine .raised (of_decide_eq_true hle) ?_
      have hkept : EpochField ans ((⟨.keepEpoch read, max ans read⟩ : EngineEvent T H) :: tr) :=
        .keepEpoch (by rw [hmax]; exact ih hrest)
      rwa [hmax] at hkept
    | _ => exact .other rfl (ih h)

theorem Rounds.openings_seen {left : ℕ} (h : Rounds P network requester left tr) :
    ∀ opening ∈ openings tr, opening.1 ∈ epochsSeen tr := by
  induction h with
  | unopened hquiet => simp [hquiet.1]
  | opened hround =>
    rw [hround.opened]
    exact List.forall_mem_singleton.mpr hround.seen
  | @again left tr found rest opening hround hfound _ ih =>
    obtain ⟨_, _, -, -, hlookup⟩ := hfound
    rw [openings_append, openings_append, hround.opened, hlookup.quiet.1, epochsSeen_append,
      epochsSeen_append]
    intro opening' hmem
    rcases List.mem_append.mp hmem with hfirst | hrest
    · obtain rfl : opening' = opening := by simpa using hfirst
      simp [hround.seen]
    · simp [ih opening' hrest]

/-- Copies that name one epoch are of one request: a later round names a later
epoch, past the one at which the earlier session is settled. -/
theorem Rounds.copies_same {left : ℕ} (h : Rounds P network requester left tr)
    (hraised : (epochsSeen tr).Pairwise (· ≤ ·)) :
    ∀ c ∈ copies tr, ∀ c' ∈ copies tr, c.epoch = c'.epoch → c = c' := by
  induction h with
  | unopened hquiet => simp [hquiet.2]
  | opened hround => exact fun c hc c' hc' _ => hround.same c hc c' hc'
  | @again left tr found rest opening hround hfound hrest ih =>
    obtain ⟨built, kind, -, -, hlookup⟩ := hfound
    have hcopies : copies (tr ++ found ++ rest) = copies tr ++ copies rest := by
      simp [hlookup.quiet.2]
    obtain ⟨-, n, es, hfound, hsettled, -⟩ := hlookup
    rw [epochsSeen_append, epochsSeen_append, List.append_assoc] at hraised
    have hlater : ∀ later ∈ epochsSeen rest, opening.1 < later := by
      intro later hmem
      have hseen : n ∈ epochsSeen found := by
        rw [hfound]
        exact List.mem_cons_self
      have hle : n ≤ later :=
        (List.pairwise_append.mp (List.pairwise_append.mp hraised).2.1).2.2 n hseen later hmem
      exact (epoch_lt_settledAtEpoch _).trans_le (hsettled.trans hle)
    have hapart : ∀ c ∈ copies tr, ∀ c' ∈ copies rest, c.epoch ≠ c'.epoch := by
      intro c hc c' hc' heq
      obtain ⟨preimage, request, -, hsigned⟩ := hround.made c hc
      obtain ⟨opening', hmem, hepoch, -⟩ := hrest.copies_opened hc'
      have hsame : opening.1 = opening'.1 := by
        rw [hsigned.epoch_eq, hepoch] at heq
        exact Option.some.inj heq
      have hlt : opening.1 < opening'.1 := hlater _ (hrest.openings_seen opening' hmem)
      omega
    have hrestRaised : (epochsSeen rest).Pairwise (· ≤ ·) :=
      (List.pairwise_append.mp (List.pairwise_append.mp hraised).2.1).2.1
    rw [hcopies]
    intro c hc c' hc' heq
    rcases List.mem_append.mp hc with hfirst | hlast <;>
      rcases List.mem_append.mp hc' with hfirst' | hlast'
    · exact hround.same c hfirst c' hfirst'
    · exact (hapart c hfirst c' hlast' heq).elim
    · exact (hapart c' hfirst' c hlast heq.symm).elim
    · exact ih hrestRaised c hlast c' hlast' heq

/-- Before a further session is opened, every earlier one was looked up and
found not to have run. -/
theorem Rounds.opened_after {left : ℕ} (h : Rounds P network requester left tr)
    {before after : List (EngineEvent T H)} {epoch : ℕ} {session : Bytes}
    {answer : Except SdkError (BuiltRequest T)}
    (hsplit : tr = before ++ ⟨.build epoch session, answer⟩ :: after) :
    ∀ opening ∈ openings before, ∃ tr₁ found tr₂, before = tr₁ ++ found ++ tr₂ ∧
      FoundNotRun P network requester opening tr₁ found := by
  have hfirst : ∀ {opening : ℕ × Bytes} {before after : List (EngineEvent T H)},
      openings (before ++ ⟨.build epoch session, answer⟩ :: after) = [opening] →
      openings before = [] := by
    intro opening before after hone
    rw [openings_append, show openings (⟨.build epoch session, answer⟩ :: after) =
      (epoch, session) :: openings after from rfl] at hone
    have hlength := congrArg List.length hone
    simp only [List.length_append, List.length_cons, List.length_nil] at hlength
    exact List.length_eq_zero_iff.mp (by omega)
  induction h generalizing before after with
  | unopened hquiet =>
    rw [hsplit] at hquiet
    have hnone : openings before ++ (epoch, session) :: openings after = [] := by
      rw [← hquiet.1, openings_append]
      rfl
    simp at hnone
  | opened hround =>
    rw [hsplit] at hround
    rw [hfirst hround.opened]
    simp
  | @again left tr found rest opening hround hfound _ ih =>
    have hfoundQuiet : Quiet found := by
      obtain ⟨_, _, -, -, hlookup⟩ := hfound
      exact hlookup.quiet
    rcases List.append_eq_append_iff.mp hsplit with
      ⟨before', rfl, hrest⟩ | ⟨middle, hmiddle, hrest⟩
    · intro opening' hmem
      rw [openings_append, openings_append, hround.opened, hfoundQuiet.1, List.append_nil,
        List.singleton_append] at hmem
      rcases List.mem_cons.mp hmem with rfl | hmem
      · exact ⟨tr, found, before', rfl, hfound⟩
      · obtain ⟨tr₁, found', tr₂, rfl, hfound'⟩ := ih hrest opening' hmem
        obtain ⟨built, kind, hbuilt, hkind, hlookup⟩ := hfound'
        exact ⟨tr ++ found ++ tr₁, found', tr₂, by simp, built, kind,
          List.mem_append_right _ hbuilt, List.mem_append_right _ hkind, hlookup⟩
    · have hone : openings (tr ++ found) = [opening] := by
        rw [openings_append, hround.opened, hfoundQuiet.1]
        rfl
      cases middle with
      | nil =>
        obtain rfl : tr ++ found = before := by simpa using hmiddle
        intro opening' hmem
        obtain rfl : opening' = opening := by simpa [hone] using hmem
        exact ⟨tr, found, [], by simp, hfound⟩
      | cons e middle =>
        obtain rfl : ⟨.build epoch session, answer⟩ = e := by
          simpa using congrArg List.head? hrest
        rw [hmiddle] at hone
        rw [hfirst hone]
        simp

end Submit

end Ika
