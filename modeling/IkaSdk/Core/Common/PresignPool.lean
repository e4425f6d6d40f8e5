import IkaSdk.Core.Common.GivenDWallets
import IkaSdk.Core.Common.QuotedRefusals
import IkaSdk.Lib.Retries

/-! The wait for the presign pool: a presign is asked for again, under a new session, while the
text of the error quotes the refusal of an empty pool. -/

namespace Ika

open Wire Interaction Eff

variable {H : Type}

def poolRetryMs : ℕ := 3000

/-! ## The call -/

section Calls

variable (P : Primitives) (connection : Connection) (requester : Requester)

/-- The presign of a checked answer. -/
def presignOfAnswer (algorithm : DWalletSignatureAlgorithm) (dwalletPublicKey : Option Bytes)
    (response : TransactionResponseData) (sent : Sent Unit) : Except SdkError Presign := do
  let data ← verifyPresignAnswer P response connection.trusted {
    sessionIdentifier := sent.sessionIdentifier
    epoch := sent.epoch
    curve := connection.curveInput
    signatureAlgorithm := algorithm
    dwalletPublicKey := dwalletPublicKey
    networkKeyId := connection.networkKeyId }
  ensure (data.userPubkey = requester.keypair.publicKey)
    (.error "the presign was served to another requester than this one")
  let attestation ← answeredAttestation response
  return ⟨data.presignSessionIdentifier, data.presignData, attestation, sent.epoch⟩

/-- Submit a presign request, and check its answer. -/
def presign (request : DWalletRequest) (algorithm : DWalletSignatureAlgorithm)
    (dwalletPublicKey : Option Bytes) (fuel : ℕ) : EngineEff Unit H Presign := do
  let answered ← (submitRequest request .presign).run P connection.toNetwork requester fuel
  sdk (presignOfAnswer P connection requester algorithm dwalletPublicKey answered.1 answered.2)

def poolEmpty (error : EngineError Unit) : Bool := includes error.message presignPoolEmptyRefusal

/-- Whether the presign is asked for again after an error, once the wait is over. -/
def waitsForPool (deadline : ℤ) (error : EngineError Unit) : EngineEff Unit H Bool := do
  if poolEmpty error then
    let now ← nowMs
    if deadline ≤ now then return false
    sleep poolRetryMs
    return true
  else return false

/-- One presign from the pool for a scheme, the wait for the pool included. -/
def requestPoolPresign (signatureScheme : ℕ) (poolWaitMs : Option ℤ) (fuel waits : ℕ) :
    EngineEff Unit H Presign := do
  let scheme ← sdk (signatureSchemeNumber signatureScheme)
  let algorithm ← sdk (algorithmOf connection scheme)
  let request := .presign ⟨connection.networkKeyId, connection.curveInput, algorithm⟩
  let now ← nowMs
  retry (fun _ => waitsForPool (now + poolWaitMs.getD 0))
    (presign P connection requester request algorithm none fuel) waits

end Calls

/-! ## What an attempt leaves behind -/

section Attempts

variable {P : Primitives} {connection : Connection} {requester : Requester}
  {tr : List (EngineEvent Unit H)} {e : EngineError Unit} {c : SignedRequest}
  {a : Except GrpcError TransactionResponseData}

/-- The answer to a copy is the refusal of an empty pool. -/
def PoolEmptyAnswer (c : SignedRequest) : Except GrpcError TransactionResponseData → Prop
  | .ok (.error message) => includes message presignPoolEmptyRefusal = true ∧
      ∀ epoch ∈ c.epoch, staleEpochRefusal (.error message) epoch = none
  | _ => False

/-- The answer to a copy quotes the refusal and says otherwise: a status, or that the epoch of
the copy is over. -/
def QuotesPoolEmpty (c : SignedRequest) : Except GrpcError TransactionResponseData → Prop
  | .ok (.error message) => includes message presignPoolEmptyRefusal = true ∧
      ∃ epoch ∈ c.epoch, staleEpochRefusal (.error message) epoch ≠ none
  | .error status => includes status.message presignPoolEmptyRefusal = true
  | _ => False

theorem PoolEmptyAnswer.not_quotes (h : PoolEmptyAnswer c a) : ¬QuotesPoolEmpty c a := by
  intro hquotes
  cases a with
  | error status => cases h
  | ok answer =>
    cases answer with
    | error message =>
      obtain ⟨-, epoch, hepoch, hstale⟩ := hquotes
      exact hstale (h.2 epoch hepoch)
    | _ => cases h

/-- The session was answered with the refusal, or shown never to have run. -/
def Settled (P : Primitives) (network : Network) (tr : List (EngineEvent Unit H))
    (session : Bytes) : Prop :=
  (∃ c a, lastAnswer tr = some (c, a) ∧ c.session P = some session ∧ PoolEmptyAnswer c a) ∨
    ShownNotRun P network tr session

/-- Every session of the attempt is settled, and its error does not say that one ran. -/
def AllSettled (P : Primitives) (network : Network) (tr : List (EngineEvent Unit H))
    (e : EngineError Unit) : Prop :=
  (∀ c ∈ copies tr, ∃ session, c.session P = some session ∧ Settled P network tr session) ∧
    ∀ epoch session record, e ≠ .requestRanBeforeAnswer epoch session record

/-- The last answer of the attempt does not quote the refusal, unless its session was shown
never to have run. -/
def Unquoted (P : Primitives) (network : Network) (tr : List (EngineEvent Unit H)) : Prop :=
  ∀ c a session, lastAnswer tr = some (c, a) → c.session P = some session →
    QuotesPoolEmpty c a → ShownNotRun P network tr session

theorem AllSettled.unquoted {network : Network} (h : AllSettled P network tr e) :
    Unquoted P network tr := by
  intro c a session hlast hsession hquotes
  obtain ⟨session', hsession', hsettled⟩ := h.1 c (mem_copies_of_lastAnswer hlast)
  obtain rfl := Option.some.inj (hsession.symm.trans hsession')
  rcases hsettled with ⟨c', a', hlast', -, hempty⟩ | hshown
  · -- The last answer cannot be both.
    cases hlast.symm.trans hlast'
    exact absurd hquotes hempty.not_quotes
  · exact hshown

theorem regular_presign {request : DWalletRequest} :
    (submitRequest (H := H) request .presign).Regular requester where
  quiet _ _ := always_pure appendable_quiet _
  errors _ _ := throwsOnly_pure _
  signs _ _ h := by cases h
  described _ _ := ⟨.presign, rfl⟩

/-- The chain's record of a presign that ran is a charge. -/
theorem unquoting_ran_presign {pending : PendingRequest} {shares : Bool}
    {es : List (Event (recordInterface H))} {record : String} (hkind : pending.kind = .presign)
    (h : Gives (findSession P (H := H) pending shares) es (.ran record)) : Unquoting record := by
  unfold findSession at h
  rw [hkind] at h
  obtain ⟨_, _, found, -, hcharged, hrest⟩ := gives_bind_iff.mp h
  cases found with
  | none => cases (gives_pure_iff.mp hrest).2
  | some charge =>
    cases (gives_pure_iff.mp hrest).2
    obtain ⟨_, _, source, -, -, hnamed⟩ := gives_bind_iff.mp hcharged
    cases source with
    | none => cases (gives_pure_iff.mp hnamed).2
    | some source =>
      cases (gives_pure_iff.mp hnamed).2
      have htext : Unquoting "the charge record " := by decide +kernel
      have hname : Unquoting source.name := by cases source <;> decide +kernel
      exact htext.append hname

theorem not_includes_closingRefusal {status : GrpcError}
    (h : isEpochClosingRefusal status = true) :
    includes (status.details.getD "") presignPoolEmptyRefusal = false := by
  unfold isEpochClosingRefusal at h
  rw [Bool.and_eq_true, Bool.or_eq_true, decide_eq_true_eq, decide_eq_true_eq,
    decide_eq_true_eq] at h
  rcases h.2 with hdetails | hdetails
  · rw [hdetails]
    decide +kernel
  · rw [hdetails]
    decide +kernel

/-- A check whose error quotes the refusal checked an answer that quotes it. -/
theorem refusal_of_presignOfAnswer (hparser : ParserSilent P)
    {algorithm : DWalletSignatureAlgorithm} {dwalletPublicKey : Option Bytes}
    {answer : TransactionResponseData} {sent : Sent Unit} {error : SdkError}
    (h : presignOfAnswer P connection requester algorithm dwalletPublicKey answer sent =
      .error error)
    (hquotes : includes error.message presignPoolEmptyRefusal = true) :
    ∃ message, answer = .error message ∧ includes message presignPoolEmptyRefusal = true := by
  by_cases hanswer : ∃ message, answer = .error message
  · obtain ⟨message, rfl⟩ := hanswer
    refine ⟨message, rfl, ?_⟩
    cases h
    by_contra hsilent
    have hbefore : Unquoting "the network refused the request" := by decide +kernel
    have htext := not_includes_after_colon hbefore (eq_false_of_ne_true hsilent)
    exact Bool.false_ne_true (htext.symm.trans hquotes)
  · have hsilent : Refuses Silent (presignOfAnswer P connection requester algorithm
        dwalletPublicKey answer sent) := by
      unfold presignOfAnswer
      apply refuses_bind
      · exact silent_verifyPresignAnswer hparser fun message heq => hanswer ⟨message, heq⟩
      intro data _
      apply refuses_bind
      · exact refuses_ensure (by decide +kernel)
      intro _ _
      apply refuses_bind
      · cases answer with
        | error message => exact absurd ⟨message, rfl⟩ hanswer
        | signature signature => exact refuses_error (by decide +kernel)
        | attestation attestation => exact refuses_ok attestation
      intro attestation _
      exact refuses_ok _
    exact absurd (hsilent error h) (by rw [Silent, hquotes]; exact Bool.true_eq_false_eq_False)

/-- An error that an attempt ends with and that quotes the refusal quotes the last answer. -/
theorem quoted_of_attempted (hparser : ParserSilent P) {request : DWalletRequest}
    {algorithm : DWalletSignatureAlgorithm} {dwalletPublicKey : Option Bytes} {sent : Sent Unit}
    {r : Except (EngineError Unit) (TransactionResponseData × Sent Unit)}
    (hepoch : c.epoch = some sent.epoch)
    (hends : EndsAs P connection.toNetwork H (submitRequest request .presign) sent a r)
    (he : r = .error e ∨ ∃ answered error, r = .ok answered ∧ e = .sdk error ∧
      presignOfAnswer P connection requester algorithm dwalletPublicKey answered.1 answered.2 =
        .error error)
    (hquotes : poolEmpty e = true) :
    (PoolEmptyAnswer c a ∨ QuotesPoolEmpty c a) ∧
      ∀ epoch session record, e ≠ .requestRanBeforeAnswer epoch session record := by
  cases hends with
  | concluded hopen =>
    rcases concluded_cases sent a with
      ⟨answer, rfl, hstale, heq⟩ | ⟨status, rfl, heq⟩ | ⟨message, -, -, heq⟩ | ⟨status, -, -, heq⟩
    · rw [heq] at he
      rcases he with hthrown | ⟨answered, error, hanswered, rfl, hcheck⟩
      · cases hthrown
      · cases hanswered
        obtain ⟨message, rfl, hmessage⟩ := refusal_of_presignOfAnswer hparser hcheck hquotes
        refine ⟨.inl ⟨hmessage, fun epoch hmem => ?_⟩, fun _ _ _ heq => by cases heq⟩
        rw [hepoch] at hmem
        rwa [← Option.some.inj hmem]
    · rw [heq] at he
      rcases he with hthrown | ⟨_, _, hanswered, -, -⟩
      · cases hthrown
        exact ⟨.inr hquotes, fun _ _ _ heq => by cases heq⟩
      · cases hanswered
    · exact absurd heq (hopen _)
    · exact absurd heq (hopen _)
  | signature hclosed =>
    rcases he with hthrown | ⟨answered, error, hanswered, rfl, hcheck⟩
    · cases hthrown
    · -- A signature is no answer to a presign request, and its refusal quotes nothing.
      cases hanswered
      obtain ⟨message, hnot, -⟩ := refusal_of_presignOfAnswer hparser hcheck hquotes
      cases hnot
  | ran hclosed hkind hlookup =>
    rcases he with hthrown | ⟨_, _, hanswered, -, -⟩
    · cases hthrown
      rcases hlookup with hunknown | ⟨es, hfound⟩
      · cases hunknown
      · have hpresign := (Except.ok.inj hkind).symm
        have htext : Unquoting (EngineError.requestRanBeforeAnswer (T := Unit) sent.epoch
            sent.sessionIdentifier _).message :=
          unquoting_requestRanBeforeAnswer (unquoting_ran_presign hpresign hfound)
        exact absurd hquotes (by rw [poolEmpty, htext.not_includes]; exact Bool.false_ne_true)
    · cases hanswered
  | unknown hclosed =>
    rcases he with hthrown | ⟨_, _, hanswered, -, -⟩
    · cases hthrown
      have hrefusal := includes_epochClosedBeforeAnswer hquotes
      refine ⟨.inr ?_, fun _ _ _ heq => by cases heq⟩
      rcases concluded_cases sent a with ⟨_, -, -, heq⟩ | ⟨_, -, heq⟩ |
        ⟨message, rfl, hstale, heq⟩ | ⟨status, -, hclosing, heq⟩
      · cases heq.symm.trans hclosed
      · cases heq.symm.trans hclosed
      · cases heq.symm.trans hclosed
        exact ⟨hrefusal, sent.epoch, hepoch, hstale⟩
      · -- The refusals of a closing epoch are texts of their own.
        cases heq.symm.trans hclosed
        have hsilent := not_includes_closingRefusal hclosing
        rw [hsilent] at hrefusal
        cases hrefusal
    · cases hanswered

/-- How an attempt may throw: its submission does, or the check of what it answered. -/
theorem throws_presign {request : DWalletRequest} {algorithm : DWalletSignatureAlgorithm}
    {dwalletPublicKey : Option Bytes} {fuel : ℕ}
    (h : Throws (presign P connection requester request algorithm dwalletPublicKey fuel) tr e) :
    ∃ r, Ends ((submitRequest request .presign).run P connection.toNetwork requester fuel) tr r ∧
      (r = .error e ∨ ∃ answered error, r = .ok answered ∧ e = .sdk error ∧
        presignOfAnswer P connection requester algorithm dwalletPublicKey answered.1 answered.2 =
          .error error) := by
  rcases throws_bind_iff.mp h with hrun | ⟨tr₁, tr₂, answered, rfl, hrun, hcheck⟩
  · exact ⟨.error e, hrun.ends, .inl rfl⟩
  · obtain ⟨rfl, hmapped⟩ := throws_lift_iff.mp hcheck
    rw [List.append_nil]
    cases hanswer : presignOfAnswer P connection requester algorithm dwalletPublicKey answered.1
      answered.2 with
    | ok presign =>
      rw [hanswer] at hmapped
      cases hmapped
    | error error =>
      rw [hanswer] at hmapped
      cases hmapped
      exact ⟨.ok answered, hrun.ends, .inr ⟨answered, error, rfl, rfl, hanswer⟩⟩

/-- An attempt whose error quotes the refusal is settled exactly where its last answer does not
quote the refusal for another end. -/
theorem allSettled_iff_unquoted (hparser : ParserSilent P) {request : DWalletRequest}
    {algorithm : DWalletSignatureAlgorithm} {dwalletPublicKey : Option Bytes} {fuel : ℕ}
    (h : Throws (presign P connection requester request algorithm dwalletPublicKey fuel) tr e)
    (hquotes : poolEmpty e = true) :
    AllSettled P connection.toNetwork tr e ↔ Unquoted P connection.toNetwork tr := by
  refine ⟨AllSettled.unquoted, fun hunquoted => ?_⟩
  obtain ⟨r, hrun, he⟩ := throws_presign h
  obtain ⟨tr₁, tr₂, rfl, hshown, hend⟩ := runEnds regular_presign hrun
  have hfront : ∀ c ∈ copies tr₁, ∃ session, c.session P = some session ∧
      Settled P connection.toNetwork (tr₁ ++ tr₂) session := by
    intro c hc
    obtain ⟨session, hsession, hfound⟩ := hshown c hc
    exact ⟨session, hsession, .inr (hfound.mono [] tr₂)⟩
  rcases hend with ⟨hnone, hlast⟩ | ⟨sent, a, hattempted, hends⟩
  · -- Nothing was sent after the sessions that were shown never to have run.
    refine ⟨fun c hc => ?_, ?_⟩
    · rw [copies_append, hnone, List.append_nil] at hc
      exact hfront c hc
    · intro epoch session record heq
      subst heq
      rcases he with hthrown | ⟨_, _, -, hsdk, -⟩
      · rcases hlast with ⟨_, hsdk⟩ | ⟨_, _, hexpired⟩
        · cases hthrown.symm.trans hsdk
        · cases hthrown.symm.trans hexpired
      · cases hsdk
  · obtain ⟨c, hlast⟩ := hattempted.last
    have hmem := mem_copies_of_lastAnswer hlast
    have hwhole := lastAnswer_of_rest tr₁ hlast
    obtain ⟨hanswer, hrecord⟩ :=
      quoted_of_attempted hparser (hattempted.epoch c hmem) hends he hquotes
    have hsettled : Settled P connection.toNetwork (tr₁ ++ tr₂) sent.sessionIdentifier := by
      rcases hanswer with hempty | hquoted
      · exact .inl ⟨c, a, hwhole, hattempted.session c hmem, hempty⟩
      · exact .inr (hunquoted c a _ hwhole (hattempted.session c hmem) hquoted)
    refine ⟨fun c' hc' => ?_, hrecord⟩
    rw [copies_append, List.mem_append] at hc'
    rcases hc' with hc' | hc'
    · exact hfront c' hc'
    · exact ⟨_, hattempted.session c' hc', hsettled⟩

theorem gives_waitsForPool {deadline : ℤ} (h : Gives (waitsForPool (H := H) deadline e) tr true) :
    poolEmpty e = true := by
  unfold waitsForPool at h
  split_ifs at h with hempty
  · exact hempty
  · cases (gives_pure_iff.mp h).2

end Attempts

/-- In a run of the call, an attempt with these events threw this error, and a new session
followed. -/
def PoolFollowed (P : Primitives) (connection : Connection) (requester : Requester)
    (signatureScheme : ℕ) (poolWaitMs : Option ℤ) (fuel waits : ℕ)
    (tr tr' : List (EngineEvent Unit H)) (e : EngineError Unit) : Prop :=
  ∃ scheme algorithm now rest, signatureSchemeNumber signatureScheme = .ok scheme ∧
    algorithmOf connection scheme = .ok algorithm ∧ tr = ⟨.now, now⟩ :: rest ∧
    Followed (fun _ => waitsForPool (now + poolWaitMs.getD 0))
      (presign P connection requester
        (.presign ⟨connection.networkKeyId, connection.curveInput, algorithm⟩) algorithm none fuel)
      waits rest tr' e

/-- In every run of the call, the sessions of each attempt that another follows are settled
exactly where no such attempt's last answer quotes the refusal for another end. -/
theorem pool_wait_settled_iff (P : Primitives) (hparser : ParserSilent P) (H : Type)
    (connection : Connection) (requester : Requester) (signatureScheme : ℕ)
    (poolWaitMs : Option ℤ) (fuel waits : ℕ) (tr : List (EngineEvent Unit H)) :
    (∀ tr' e, PoolFollowed P connection requester signatureScheme poolWaitMs fuel waits tr tr' e →
      AllSettled P connection.toNetwork tr' e) ↔
    ∀ tr' e, PoolFollowed P connection requester signatureScheme poolWaitMs fuel waits tr tr' e →
      Unquoted P connection.toNetwork tr' := by
  have heach : ∀ tr' e, PoolFollowed P connection requester signatureScheme poolWaitMs fuel waits
      tr tr' e →
      (AllSettled P connection.toNetwork tr' e ↔ Unquoted P connection.toNetwork tr') := by
    rintro tr' e ⟨_, _, _, _, -, -, -, hfollowed⟩
    obtain ⟨hthrows, _, _, hask⟩ := hfollowed.throws
    exact allSettled_iff_unquoted hparser hthrows (gives_waitsForPool hask)
  constructor
  · intro h tr' e hfollowed
    exact (heach tr' e hfollowed).mp (h tr' e hfollowed)
  · intro h tr' e hfollowed
    exact (heach tr' e hfollowed).mpr (h tr' e hfollowed)

/-! ### A stale epoch's refusal that quotes an empty pool -/

/-- A connection without the chain's records of requests. -/
def sampleUnreadConnection : Connection := { sampleMockConnection with requestRecords := false }

/-- A chain that goes on to epoch 9, and a validator that refuses every request with a text. -/
def sampleRefusals (text : String) (chainEpoch : ℕ) (now : ℤ) (n : ℕ) :
    ∀ op : EngineOp Unit Unit, op.Ans
  | .chainEpoch => .ok (if n < 5 then chainEpoch else 9)
  | .keepEpoch read => read
  | .epoch => if n < 5 then chainEpoch else 9
  | .now => now
  | .sleep _ => ()
  | .freshPreimage => List.replicate 32 3
  | .build .. => .error (.error "")
  | .describe .. => .error (.error "")
  | .waitingRequestHolder _ => none
  | .signRequest _ => .error (.error "")
  | .submitTransaction .. => .ok (.error text)
  | .record _ => .error (.error "")

def sampleStaleQuote : String :=
  "request epoch 7 does not match current epoch 8; presign pool empty for requested algorithm"

def sampleAttempt : EngineEff Unit Unit Presign :=
  presign samplePrimitives sampleUnreadConnection sampleMockRequester
    (.presign ⟨sampleUnreadConnection.networkKeyId, .curve25519, .eddsa⟩) .eddsa none 2

def sampleFollowed : List (EngineEvent Unit Unit) → List (EngineEvent Unit Unit) →
    EngineError Unit → Prop :=
  PoolFollowed samplePrimitives sampleUnreadConnection sampleMockRequester 5 (some 180000) 2 2

theorem sampleFollowed_of {tr rest : List (EngineEvent Unit Unit)} {e : EngineError Unit}
    (hthrows : Throws sampleAttempt tr e) (hempty : poolEmpty e = true)
    (hrest : Begins (retry (fun _ => waitsForPool 180000) sampleAttempt 1) rest) :
    sampleFollowed (⟨.now, 0⟩ :: (tr ++ [⟨.now, 0⟩, ⟨.sleep poolRetryMs, ()⟩] ++ rest)) tr e := by
  refine ⟨.eddsaSha512, .eddsa, 0, _, by decide +kernel, by decide +kernel, rfl, ?_⟩
  have hwait : Gives (waitsForPool (H := Unit) (0 + (some 180000).getD 0) e)
      [⟨.now, 0⟩, ⟨.sleep poolRetryMs, ()⟩] true := by
    rw [waitsForPool, if_pos hempty]
    refine ends_perform_cons .now 0 ?_
    exact ends_perform_cons (.sleep poolRetryMs) () (gives_pure_iff.mpr ⟨rfl, rfl⟩)
  exact .here hthrows hwait hrest

/-- Whether an attempt ends with an error that quotes the refusal. -/
def endsQuoting : Except (EngineError Unit) Presign → Bool
  | .error e => poolEmpty e
  | .ok _ => false

/-- The pool is empty once: the attempt is followed, and the sessions of those that are settled
exactly where none quotes the refusal for another end. -/
theorem pool_wait_settled_sample : ∃ tr tr' e, sampleFollowed tr tr' e ∧
    ((∀ tr' e, sampleFollowed tr tr' e →
        AllSettled samplePrimitives sampleUnreadConnection.toNetwork tr' e) ↔
      ∀ tr' e, sampleFollowed tr tr' e →
        Unquoted samplePrimitives sampleUnreadConnection.toNetwork tr') := by
  have hsample : ((sampleAttempt.run.transcript (sampleRefusals presignPoolEmptyRefusal 7 0) 0).any
      fun first => endsQuoting first.2) = true := by decide +kernel
  obtain ⟨⟨tr', r⟩, hfirst, hquoting⟩ := (Option.any_eq_true _ _).mp hsample
  cases r with
  | ok presign => cases hquoting
  | error e =>
    exact ⟨_, tr', e, sampleFollowed_of (Prog.returns_of_transcript hfirst) hquoting
      ⟨_, .refl _⟩, pool_wait_settled_iff samplePrimitives parserSilent_sample Unit
        sampleUnreadConnection sampleMockRequester 5 (some 180000) 2 2 _⟩

/-- The attempt ends as epoch 7 closed, and its error quotes the refusal. -/
def closedQuoting : Except (EngineError Unit) Presign → Bool
  | .error (.epochClosedBeforeAnswer epoch session chainEpoch refusal pending) =>
    epoch == 7 &&
      poolEmpty (.epochClosedBeforeAnswer epoch session chainEpoch refusal pending)
  | _ => false

theorem closedQuoting_iff {r : Except (EngineError Unit) Presign} :
    closedQuoting r = true ↔ ∃ session chainEpoch refusal pending,
      r = .error (.epochClosedBeforeAnswer 7 session chainEpoch refusal pending) ∧
      poolEmpty (.epochClosedBeforeAnswer 7 session chainEpoch refusal pending) = true := by
  constructor
  · intro h
    unfold closedQuoting at h
    split at h
    · obtain ⟨hepoch, hempty⟩ := Bool.and_eq_true_iff.mp h
      obtain rfl := eq_of_beq hepoch
      exact ⟨_, _, _, _, rfl, hempty⟩
    · cases h
  · rintro ⟨_, _, _, _, rfl, h⟩
    exact h

/-- The last copy is of epoch 7 and was refused as stale. -/
def refusedStale (tr : List (EngineEvent Unit Unit)) : Bool :=
  (lastAnswer tr).any fun last =>
    last.1.epoch == some 7 && decide (last.2.toOption = some (.error sampleStaleQuote))

theorem refusedStale_iff {tr : List (EngineEvent Unit Unit)} :
    refusedStale tr = true ↔ ∃ c, lastAnswer tr = some (c, .ok (.error sampleStaleQuote)) ∧
      c.epoch = some 7 := by
  constructor
  · intro h
    obtain ⟨⟨c, a⟩, hlast, hrefused⟩ := (Option.any_eq_true _ _).mp h
    obtain ⟨hepoch, hanswer⟩ := Bool.and_eq_true_iff.mp hrefused
    cases a with
    | error status => cases of_decide_eq_true hanswer
    | ok answer =>
      obtain rfl := Option.some.inj (of_decide_eq_true hanswer)
      exact ⟨c, hlast, eq_of_beq hepoch⟩
  · rintro ⟨c, hlast, hepoch⟩
    simp [refusedStale, hlast, hepoch, Except.toOption]

/-- An attempt of the sample's call, and what the call does after it. -/
abbrev SampleAttempt : Type := List (EngineEvent Unit Unit) × Except (EngineError Unit) Presign

/-- The call asks again after its epoch closed, and sends under another session. -/
def askedAgain (first second : SampleAttempt) : Bool :=
  closedQuoting first.2 && refusedStale first.1 &&
    (copies first.1).any fun c => (copies second.1).any fun c' =>
      decide (c.session samplePrimitives ≠ c'.session samplePrimitives)

def sampleAskedAgain : Bool :=
  (sampleAttempt.run.transcript (sampleRefusals sampleStaleQuote 7 0) 0).any fun first =>
    ((retry (fun _ => waitsForPool 180000) sampleAttempt 1).run.transcript
      (sampleRefusals presignPoolEmptyRefusal 9 200000) 0).any (askedAgain first)

/-- A validator refuses a presign request of epoch 7 as stale and quotes the refusal of an empty
pool. The outcome of the session is not known, and the call opens another. -/
theorem stale_quote_asked_again : ∃ tr' e rest,
    sampleFollowed (⟨.now, 0⟩ :: (tr' ++ [⟨.now, 0⟩, ⟨.sleep poolRetryMs, ()⟩] ++ rest)) tr' e ∧
    (∃ session chainEpoch refusal pending,
      e = .epochClosedBeforeAnswer 7 session chainEpoch refusal pending) ∧
    (∃ c ∈ copies tr', ∃ c' ∈ copies rest,
      c.session samplePrimitives ≠ c'.session samplePrimitives) ∧
    ¬AllSettled samplePrimitives sampleUnreadConnection.toNetwork tr' e := by
  have hsample : sampleAskedAgain = true := by decide +kernel
  obtain ⟨⟨tr', r⟩, hfirst, hsecond⟩ := (Option.any_eq_true _ _).mp hsample
  obtain ⟨⟨rest, r'⟩, hrest, hboth⟩ := (Option.any_eq_true _ _).mp hsecond
  obtain ⟨hclosed, hsent⟩ := Bool.and_eq_true_iff.mp hboth
  obtain ⟨hquoting, hstale⟩ := Bool.and_eq_true_iff.mp hclosed
  obtain ⟨session, chainEpoch, refusal, pending, hthrown, hempty⟩ := closedQuoting_iff.mp hquoting
  obtain ⟨c, hlast, hepoch⟩ := refusedStale_iff.mp hstale
  dsimp only at hthrown hlast
  subst hthrown
  have hthrows := Prog.returns_of_transcript hfirst
  refine ⟨tr', .epochClosedBeforeAnswer 7 session chainEpoch refusal pending, rest, ?_,
    ⟨session, chainEpoch, refusal, pending, rfl⟩, ?_, ?_⟩
  · exact sampleFollowed_of hthrows hempty ⟨_, Prog.returns_of_transcript hrest⟩
  · obtain ⟨c, hc, hsecond⟩ := List.any_eq_true.mp hsent
    obtain ⟨c', hc', hother⟩ := List.any_eq_true.mp hsecond
    exact ⟨c, hc, c', hc', of_decide_eq_true hother⟩
  · intro hsettled
    obtain ⟨session, hsession, -⟩ := hsettled.1 c (mem_copies_of_lastAnswer hlast)
    have hquotes : QuotesPoolEmpty c (.ok (.error sampleStaleQuote)) :=
      ⟨by decide +kernel, 7, hepoch, by decide +kernel⟩
    -- Without the chain's records no session is shown never to have run.
    obtain ⟨_, _, _, _, -, -, hrecords, -⟩ := hsettled.unquoted c _ session hlast hsession hquotes
    cases hrecords

end Ika
