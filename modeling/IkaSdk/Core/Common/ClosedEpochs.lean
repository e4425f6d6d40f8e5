import IkaSdk.Core.Common.LastAnswers
import IkaSdk.Core.Grpc.SignRequestSafety
import IkaSdk.Lib.Texts

/-! What a validator says of a request whose epoch closes: the two sentences of a closing
epoch, and the text that names the request's epoch and the later one. The copies that are
answered so are told by their answers. -/

namespace Ika

open Wire Interaction Eff Texts

variable {T H : Type}

/-! ## The word of a closed epoch -/

/-- The text is a number in decimal digits. -/
def Writes (digits : List Char) (n : ℕ) : Prop :=
  digits ≠ [] ∧ (∀ c ∈ digits, c.isDigit) ∧
    digits.foldl (fun n c => 10 * n + (c.toNat - '0'.toNat)) 0 = n

def NoDigitAhead (text : List Char) : Prop := ∀ c rest, text = c :: rest → ¬c.isDigit

/-- The text begins with `request epoch N does not match current epoch M`. -/
def NamesEpochs (text : List Char) (epochs : ℕ × ℕ) : Prop :=
  ∃ requestDigits currentDigits rest, text = "request epoch ".toList ++ (requestDigits ++
      (" does not match current epoch ".toList ++ (currentDigits ++ rest))) ∧
    Writes requestDigits epochs.1 ∧ Writes currentDigits epochs.2 ∧ NoDigitAhead rest

/-- A validator's word that the epoch of a request closes or has closed. -/
inductive SaysClosed (epoch : ℕ) : Except GrpcError TransactionResponseData → Prop
  | closing {error : GrpcError} : error.code = some GrpcStatus.unavailable →
      error.details = some epochClosingRefusal ∨
        error.details = some gasWaitEndedWithTheEpoch →
      SaysClosed epoch (.error error)
  | stale {message : String} {current : ℕ} : epoch < current →
      Leftmost NamesEpochs message.toList (epoch, current) →
      SaysClosed epoch (.ok (.error message))

theorem takeWhile_digits {digits rest : List Char} (hdigits : ∀ c ∈ digits, c.isDigit)
    (hrest : NoDigitAhead rest) :
    (digits ++ rest).takeWhile Char.isDigit = digits ∧
      (digits ++ rest).dropWhile Char.isDigit = rest := by
  rw [List.takeWhile_append_of_pos hdigits, List.dropWhile_append_of_pos hdigits]
  cases rest with
  | nil => exact ⟨List.append_nil digits, rfl⟩
  | cons c rest =>
    have hnot : ¬c.isDigit := hrest c rest rfl
    rw [List.takeWhile_cons_of_neg hnot, List.dropWhile_cons_of_neg hnot, List.append_nil]
    exact ⟨rfl, rfl⟩

theorem noDigitAhead_dropWhile (text : List Char) :
    NoDigitAhead (text.dropWhile Char.isDigit) := by
  intro c rest h
  have hhead := List.head?_dropWhile_not Char.isDigit text
  rw [h] at hhead
  simpa using hhead

theorem matchNumber_iff {text rest : List Char} {n : ℕ} :
    matchNumber text = some (n, rest) ↔
      ∃ digits, text = digits ++ rest ∧ Writes digits n ∧ NoDigitAhead rest := by
  unfold matchNumber
  dsimp only
  constructor
  · intro h
    split_ifs at h with hempty
    obtain ⟨hvalue, hrest⟩ := Prod.mk.inj (Option.some.inj h)
    refine ⟨text.takeWhile Char.isDigit, ?_, ⟨?_, ?_, hvalue⟩, ?_⟩
    · rw [← hrest, List.takeWhile_append_dropWhile]
    · simpa using hempty
    · exact fun c hc => List.mem_takeWhile_imp hc
    · rw [← hrest]
      exact noDigitAhead_dropWhile text
  · rintro ⟨digits, rfl, ⟨hne, hdigits, hvalue⟩, hrest⟩
    obtain ⟨htake, hdrop⟩ := takeWhile_digits hdigits hrest
    rw [htake, hdrop, if_neg (by simpa using hne), hvalue]

theorem matchText_iff {part : String} {text rest : List Char} :
    matchText part text = some rest ↔ text = part.toList ++ rest := by
  unfold matchText
  constructor
  · intro h
    split_ifs at h with hprefix
    obtain ⟨rest', rfl⟩ := hprefix
    rw [← Option.some.inj h, ← String.length_toList, List.drop_left]
  · rintro rfl
    rw [if_pos (List.prefix_append _ _), ← String.length_toList, List.drop_left]

theorem staleEpochMatchHere_iff {text : List Char} {epochs : ℕ × ℕ} :
    staleEpochMatchHere text = some epochs ↔ NamesEpochs text epochs := by
  unfold staleEpochMatchHere
  simp only [Option.bind_eq_bind, Option.bind_eq_some_iff, Option.pure_def, Option.some.injEq]
  constructor
  · rintro ⟨rest₁, hrequest, ⟨epoch, rest₂⟩, hepoch, rest₃, hcurrent, ⟨current, rest₄⟩, hlater, rfl⟩
    obtain ⟨requestDigits, rfl, hwrites, -⟩ := matchNumber_iff.mp hepoch
    obtain ⟨currentDigits, rfl, hwrites', hrest⟩ := matchNumber_iff.mp hlater
    obtain rfl := matchText_iff.mp hcurrent
    exact ⟨requestDigits, currentDigits, rest₄, matchText_iff.mp hrequest, hwrites, hwrites', hrest⟩
  · rintro ⟨requestDigits, currentDigits, rest, rfl, hwrites, hwrites', hrest⟩
    have hblank : NoDigitAhead (" does not match current epoch ".toList ++
        (currentDigits ++ rest)) := by
      intro c tail h
      obtain rfl : ' ' = c := (List.cons.inj h).1
      decide
    exact ⟨_, matchText_iff.mpr rfl, _, matchNumber_iff.mpr ⟨requestDigits, rfl, hwrites, hblank⟩,
      _, matchText_iff.mpr rfl, _, matchNumber_iff.mpr ⟨currentDigits, rfl, hwrites', hrest⟩, rfl⟩

/-- The regular expression finds the first place that names two epochs. -/
theorem staleEpochMatch_iff {text : List Char} {epochs : ℕ × ℕ} :
    staleEpochMatch text = some epochs ↔ Leftmost NamesEpochs text epochs := by
  induction text with
  | nil =>
    rw [leftmost_nil_iff]
    constructor
    · intro h
      cases h
    · rintro ⟨_, _, _, h, -⟩
      cases h
  | cons c text ih =>
    rw [staleEpochMatch, leftmost_cons_iff, ← ih, ← staleEpochMatchHere_iff]
    cases hhere : staleEpochMatchHere (c :: text) with
    | some found =>
      constructor
      · exact fun h => .inl h
      · rintro (h | ⟨hnone, -⟩)
        · exact h
        · exact absurd (staleEpochMatchHere_iff.mp hhere) (hnone found)
    | none =>
      have hnone : ∀ found, ¬NamesEpochs (c :: text) found := by
        intro found hnames
        rw [staleEpochMatchHere_iff.mpr hnames] at hhere
        cases hhere
      constructor
      · exact fun h => .inr ⟨hnone, h⟩
      · rintro (h | ⟨-, h⟩)
        · cases h
        · exact h

theorem staleEpochRefusal_iff {message : String} {epoch current : ℕ} :
    staleEpochRefusal (.error message) epoch = some current ↔
      epoch < current ∧ Leftmost NamesEpochs message.toList (epoch, current) := by
  rw [← staleEpochMatch_iff]
  unfold staleEpochRefusal
  dsimp only
  rcases staleEpochMatch message.toList with _ | ⟨requestEpoch, later⟩
  · simp
  · dsimp only
    split_ifs with hstale
    · obtain ⟨rfl, hlt⟩ := hstale
      simp only [Option.some.injEq, Prod.mk.injEq, true_and]
      exact ⟨fun h => ⟨h ▸ hlt, h⟩, And.right⟩
    · simp only [Option.some.injEq, Prod.mk.injEq, false_iff]
      rintro ⟨hlt, rfl, rfl⟩
      exact hstale ⟨rfl, hlt⟩

/-- The attempt whose last copy is answered so ends with the close of its session exactly
where the answer says that the epoch closed. -/
theorem saysClosed_iff {sent : Sent T} {a : Except GrpcError TransactionResponseData} :
    SaysClosed sent.epoch a ↔
      ∃ refusal, concluded sent a = .error (.closedBeforeAnswer sent refusal) := by
  constructor
  · rintro (@⟨error, hcode, hdetails⟩ | @⟨message, _, hlt, hnames⟩)
    · refine ⟨error.details.getD "", ?_⟩
      rw [concluded, closedByRefusal, if_pos]
      unfold isEpochClosingRefusal
      simpa [hcode] using hdetails
    · refine ⟨message, ?_⟩
      simp only [concluded, unlessStale, staleEpochRefusal_iff.mpr ⟨hlt, hnames⟩]
  · rintro ⟨refusal, hclosed⟩
    rcases concluded_cases sent a with
      ⟨_, -, -, heq⟩ | ⟨_, -, heq⟩ | ⟨message, rfl, hstale, -⟩ | ⟨status, rfl, hclosing, -⟩
    · cases heq.symm.trans hclosed
    · cases heq.symm.trans hclosed
    · obtain ⟨current, hcurrent⟩ := Option.ne_none_iff_exists'.mp hstale
      obtain ⟨hlt, hnames⟩ := staleEpochRefusal_iff.mp hcurrent
      exact .stale hlt hnames
    · unfold isEpochClosingRefusal at hclosing
      have hsaid : status.code = some GrpcStatus.unavailable ∧
          (status.details = some epochClosingRefusal ∨
            status.details = some gasWaitEndedWithTheEpoch) := by
        simpa using hclosing
      exact .closing hsaid.1 hsaid.2

/-! ## The answers of a run -/

section Answers

variable {P : Primitives} {epoch : ℕ} {session : Bytes} {tr : List (EngineEvent T H)}

/-- The copies of a run with their answers, in order. -/
def answers (tr : List (EngineEvent T H)) :
    List (SignedRequest × Except GrpcError TransactionResponseData) := tr.filterMap answerTo

theorem answers_append (tr tr' : List (EngineEvent T H)) :
    answers (tr ++ tr') = answers tr ++ answers tr' := List.filterMap_append

/-- A copy of the session was answered with the word that its epoch closed. -/
def ClosedIn (P : Primitives) (tr : List (EngineEvent T H)) (epoch : ℕ) (session : Bytes) :
    Prop :=
  ∃ c a, (c, a) ∈ answers tr ∧ c.session P = some session ∧ c.epoch = some epoch ∧
    SaysClosed epoch a

/-- Once a validator said that the epoch of a session closed, no copy of that session met an
error that says otherwise. -/
def StaysClosed (P : Primitives) (tr : List (EngineEvent T H)) : Prop :=
  ∀ epoch session first rest, tr = first ++ rest → ClosedIn P first epoch session →
    ∀ c e, (c, .error e) ∈ answers rest → c.session P = some session → SaysClosed epoch (.error e)

theorem ClosedIn.prepend (h : ClosedIn P tr epoch session) (first : List (EngineEvent T H)) :
    ClosedIn P (first ++ tr) epoch session := by
  obtain ⟨c, a, hmem, hcopy⟩ := h
  exact ⟨c, a, by rw [answers_append]; exact List.mem_append_right _ hmem, hcopy⟩

theorem StaysClosed.front {rest : List (EngineEvent T H)} (h : StaysClosed P (tr ++ rest)) :
    StaysClosed P tr := by
  rintro epoch session first last rfl hclosed c e hmem
  refine h epoch session first (last ++ rest) (by rw [List.append_assoc]) hclosed c e ?_
  rw [answers_append]
  exact List.mem_append_left _ hmem

theorem StaysClosed.back {first : List (EngineEvent T H)} (h : StaysClosed P (first ++ tr)) :
    StaysClosed P tr := by
  rintro epoch session front last rfl hclosed
  exact h epoch session (first ++ front) last (by rw [List.append_assoc]) (hclosed.prepend first)

/-- A run that sends one copy meets no later error. -/
theorem staysClosed_of_one (h : (copies tr).length ≤ 1) : StaysClosed P tr := by
  rintro epoch session first rest rfl ⟨c, a, hmem, -⟩ c' e hlater -
  rw [copies_eq_map, List.length_map] at h
  change (answers (first ++ rest)).length ≤ 1 at h
  rw [answers_append, List.length_append] at h
  have hfirst := List.length_pos_of_mem hmem
  have hrest := List.length_pos_of_mem hlater
  omega

theorem mem_copies_of_answers {c : SignedRequest} {a : Except GrpcError TransactionResponseData}
    (h : (c, a) ∈ answers tr) : c ∈ copies tr := by
  rw [copies_eq_map]
  exact List.mem_map_of_mem (f := Prod.fst) h

theorem mem_answers_of_lastAnswer {c : SignedRequest}
    {a : Except GrpcError TransactionResponseData} (h : lastAnswer tr = some (c, a)) :
    (c, a) ∈ answers tr := List.mem_of_getLast? h

variable {sent : Sent T} {a : Except GrpcError TransactionResponseData}

/-- An attempt whose last answer says that the epoch closed found its session closed. -/
theorem Attempted.closedIn (h : Attempted P tr sent a) (hclosing : SaysClosed sent.epoch a) :
    ClosedIn P tr sent.epoch sent.sessionIdentifier := by
  obtain ⟨c, hlast⟩ := h.last
  have hcopy := mem_copies_of_lastAnswer hlast
  exact ⟨c, a, mem_answers_of_lastAnswer hlast, h.session c hcopy, h.epoch c hcopy, hclosing⟩

/-- The session that an attempt found closed is its own, and the last copy was answered, or
says so too. -/
theorem Attempted.of_closedIn (h : Attempted P tr sent a) (hclosed : ClosedIn P tr epoch session)
    (hstays : StaysClosed P tr) : sent.epoch = epoch ∧ sent.sessionIdentifier = session ∧
      (SaysClosed epoch a ∨ ∃ answer, a = .ok answer) := by
  obtain ⟨c, said, hmem, hsession, hepoch, hclosing⟩ := hclosed
  have hcopy := mem_copies_of_answers hmem
  obtain rfl := Option.some.inj ((h.session c hcopy).symm.trans hsession)
  obtain rfl := Option.some.inj ((h.epoch c hcopy).symm.trans hepoch)
  refine ⟨rfl, rfl, ?_⟩
  cases a with
  | ok answer => exact .inr ⟨answer, rfl⟩
  | error e =>
    left
    obtain ⟨event, hevent, hanswer⟩ := List.mem_filterMap.mp hmem
    obtain ⟨first, rest, rfl⟩ := List.append_of_mem hevent
    obtain ⟨last, hlast⟩ := h.last
    rw [← List.singleton_append, ← List.append_assoc] at hlast hstays h
    have hfirst : (c, said) ∈ answers (first ++ [event]) :=
      List.mem_filterMap.mpr ⟨event, by simp, hanswer⟩
    rw [lastAnswer_append] at hlast
    cases hrest : lastAnswer rest with
    | none =>
      -- The closing answer is the last.
      have hsaid : lastAnswer (first ++ [event]) = some (c, said) := by
        rw [lastAnswer_append, lastAnswer, List.filterMap_cons_some hanswer]
        rfl
      rw [hrest, Option.none_or, hsaid] at hlast
      cases hlast
      exact hclosing
    | some later =>
      rw [hrest, Option.some_or] at hlast
      cases hlast
      have hmem' := mem_answers_of_lastAnswer hrest
      have hlater : last ∈ copies (first ++ [event] ++ rest) := by
        rw [copies_append]
        exact List.mem_append_right _ (mem_copies_of_answers hmem')
      exact hstays _ _ _ rest rfl ⟨c, said, hfirst, hsession, hepoch, hclosing⟩ last e hmem'
        (h.session last hlater)

end Answers

/-! ## What the calls submit -/

section Calls

variable {P : Primitives} {connection : Connection} {issued : List IssuedState}
  {requester : Requester}

theorem signs_signWithUsable (usable : DWalletUsableOf) (keypair : TransportKeypair) :
    Signs keypair.publicKey (signWithUsable (T := Unit) (H := H) P issued usable keypair) where
  still {Φ} hΦ data := by
    have happend := hΦ.toAppendable
    have hanswers : ∀ op, Prog.Always Φ (usableAnswers (H := H) (T := Unit) data usable op) := by
      intro op
      cases op with
      | now => exact Prog.always_perform happend (hΦ.still .now trivial)
      | _ => exact Prog.always_pure happend _
    rintro tr ⟨q, hrun⟩
    have hinterp := Prog.always_interp happend hanswers
      (signDWalletSignRequest P (H := H) issued keypair).run
    exact Prog.always_bind happend hinterp (fun outcome => Prog.always_pure happend _) tr q hrun
  signed data tr signed h := by
    obtain ⟨tr₁, tr₂, outcome, rfl, hinterp, hlast⟩ := Prog.returns_bind_iff.mp h
    obtain ⟨-, hlast⟩ := Prog.returns_pure_iff.mp hlast
    cases outcome with
    | error error => cases hlast
    | ok made =>
      cases hlast
      obtain ⟨es, hgives, himplements⟩ := Prog.returns_interp hinterp
      obtain ⟨signedData, ownership, prepared, rest, _, _, rfl, hprepare, -, -, -, -, hsigned⟩ :=
        signDWalletSignRequest_gives_iff.mp hgives
      -- The first event answers with the data that was given.
      obtain rfl : data = signedData := by
        cases himplements with
        | cons hfirst _ => exact (Prog.returns_pure_iff.mp hfirst).2
      obtain ⟨hbytes, hsignature⟩ := signSerializedRequest_ok hsigned
      refine ⟨?_, hsignature⟩
      rw [hbytes]
      exact (prepareSign_ok hprepare).bytes
  errors data := throwsOnly_signWithUsable usable keypair data

theorem quiet_builtNow (build : ℤ → Except SdkError RequestOfResult) :
    Always Quiet (builtNow (H := H) build) := by
  have happend := appendable_quiet (T := Unit) (H := H)
  refine always_bind happend (always_perform steady_quiet trivial) fun now => ?_
  exact always_bind happend (always_sdk happend _) fun built => always_pure happend _

theorem orderly_submitRequest {request : DWalletRequest} {kind : PendingRequestKind}
    {presign : Option (ℕ × (SignedRequestData → EngineEff Unit H SignedRequest))}
    (hsigns : ∀ epoch sign, presign = some (epoch, sign) →
      Signs requester.keypair.publicKey sign) :
    Submission.Orderly requester { submitRequest (H := H) request kind with presign } where
  quiet _ _ := always_pure appendable_quiet _
  errors _ _ := throwsOnly_pure _
  signs := hsigns

theorem orderly_shareSubmission {build : ℤ → Except SdkError RequestOfResult}
    {kind : Bytes → Except SdkError PendingRequestKind} :
    (shareSubmission (H := H) build kind).Orderly requester where
  quiet _ _ := quiet_builtNow build
  errors _ _ := throwsOnly_builtNow _
  signs _ _ hnone := by cases hnone

/-- Every call submits a request that is built and signed quietly, under the requester's key. -/
theorem submission_orderly {call : EngineCall} {tr : List (EngineEvent call.Kept H)}
    {submission : Submission call.Kept H}
    (h : Gives (call.submission P connection issued requester) tr submission) :
    submission.Orderly requester := by
  have hsdk := submission_throwsSdk h
  have hnone : ∀ {T : Type} (epoch : ℕ) (sign : SignedRequestData → EngineEff T H SignedRequest),
      none = some (epoch, sign) → Signs requester.keypair.publicKey sign := by
    intro T epoch sign hnone
    cases hnone
  cases call with
  | createDWallet share sign =>
    obtain ⟨scheme, epoch, rfl⟩ := createDWallet_ok (gives_sdk_iff.mp h).2
    refine ⟨fun _ _ => always_sdk appendable_quiet _, hsdk.build, fun epoch' sign' hsome => ?_⟩
    obtain ⟨_, -, hsign⟩ := Option.map_eq_some_iff.mp hsome
    cases hsign
    exact signs_signFor signs_signGrpcRequest
  | verifyImportedKey share secretKey =>
    obtain rfl := verifyImportedKey_ok (gives_sdk_iff.mp h).2
    exact ⟨fun _ _ => always_sdk appendable_quiet _, hsdk.build, hnone⟩
  | requestPresign signatureScheme =>
    obtain ⟨request, rfl⟩ := requestPresign_ok (gives_sdk_iff.mp h).2
    exact orderly_submitRequest hnone
  | requestPresignForDWallet dwallet signatureScheme =>
    obtain ⟨request, rfl⟩ := requestPresignForDWallet_ok (gives_sdk_iff.mp h).2
    exact orderly_submitRequest hnone
  | requestSignature args =>
    obtain ⟨request, rfl⟩ := requestSignature_ok (gives_sdk_iff.mp h).2
    refine orderly_submitRequest fun epoch sign hsome => ?_
    cases hsome
    exact signs_signFor (signs_signWithUsable args.usable)
  | requestFutureSignature args =>
    obtain ⟨verified, scheme, userSignature, now, request, -, -, -, -, rfl⟩ :=
      requestFutureSignature_gives h
    refine orderly_submitRequest fun epoch sign hsome => ?_
    cases hsome
    exact signs_signFor signs_signGrpcRequest
  | completeFutureSignature given =>
    obtain ⟨request, rfl⟩ := completionSubmission_ok (gives_sdk_iff.mp h).2
    exact orderly_submitRequest hnone
  | makeSharePublic dwallet usable =>
    obtain ⟨verified, -, -, -, rfl⟩ := makeSharePublicSubmission_ok (gives_sdk_iff.mp h).2
    exact orderly_shareSubmission
  | reEncryptShare args =>
    obtain ⟨verified, now, built, encrypted, -, -, -, -, rfl⟩ := reEncryptShareSubmission_gives h
    exact orderly_shareSubmission

end Calls

end Ika
