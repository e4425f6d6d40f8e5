import IkaSdk.Core.Common.LastAnswers
import IkaSdk.Lib.Texts

/-! The texts of the engine's errors, and which of them can quote the refusal of an empty
presign pool. The texts of the SDK itself never do. -/

namespace Ika

open Wire Interaction Eff Texts

variable {T H : Type}

/-- What a caller whose request's epoch closed is told to do. -/
def closedAdvice : String :=
  ". Pass the error's pending request to IkaClient.resolveSession before you send the request " ++
    "again."

/-- The text of an error, as `error.message` reads it. -/
def EngineError.message : EngineError T → String
  | sdk error => error.message
  | grpc error => error.message
  | closedBeforeAnswer sent refusal =>
    s!"the request's epoch {sent.epoch} closed before an answer (\"{refusal}\")"
  | presignExpiredWithTheEpoch epoch chainEpoch =>
    s!"the presign was made in epoch {epoch}, and the chain shows epoch {chainEpoch}. " ++
      "The presign expired with its epoch, and nothing was sent: take a new presign, and sign " ++
      "with it."
  | requestRanBeforeAnswer epoch _ record =>
    s!"the request for epoch {epoch} got no answer before its epoch closed, and the chain " ++
      s!"shows it ran: {record}"
  | epochClosedBeforeAnswer epoch sessionIdentifier chainEpoch refusal _ =>
    s!"the request for epoch {epoch} was refused (\"{refusal}\"" ++
      s!"), and it may have run in that epoch: its session is {toHex sessionIdentifier}" ++
      s!". The chain shows epoch {chainEpoch}" ++ closedAdvice

def presignPoolEmptyRefusal : String := "presign pool empty for requested algorithm"

/-! ## Texts without the refusal -/

/-- Looks for the letters that the refusal's second word has in a row, `mpt`. -/
def refusalReader : DFA Char (Fin 4) where
  step s c :=
    if s = 3 then 3
    else if c = 'm' then 1
    else if s = 1 ∧ c = 'p' then 2
    else if s = 2 ∧ c = 't' then 3
    else 0
  start := 0
  accept := {3}

theorem accepts_refusalReader {s : Fin 4} : s ∈ refusalReader.accept ↔ s = 3 := Iff.rfl

instance : DecidablePred (· ∈ refusalReader.accept) := fun s =>
  decidable_of_iff (s = 3) accepts_refusalReader.symm

/-- The text has nothing of the refusal's second word, and does not end as it begins. -/
def Unquoting (text : String) : Prop := Passes refusalReader text.toList

instance (text : String) : Decidable (Unquoting text) :=
  inferInstanceAs (Decidable (refusalReader.evalFrom 0 text.toList = 0))

theorem Unquoting.append {text text' : String} (h : Unquoting text) (h' : Unquoting text') :
    Unquoting (text ++ text') := by
  unfold Unquoting
  rw [String.toList_append]
  exact Passes.append h h'

/-- What the reader looks for begins with an `m`. -/
theorem unquoting_of_letters {text : String} (h : 'm' ∉ text.toList) : Unquoting text := by
  apply passes_of_steps
  intro c hc
  have hother : c ≠ 'm' := fun heq => h (heq ▸ hc)
  have hstart : refusalReader.start = 0 := rfl
  simp [refusalReader, hother]

theorem unquoting_number (n : ℕ) : Unquoting (toString n) := by
  apply unquoting_of_letters
  intro hletter
  have hdigit := Nat.isDigit_of_mem_toDigits (by decide) (by decide)
    (Nat.toList_repr ▸ hletter : 'm' ∈ Nat.toDigits 10 n)
  revert hdigit
  decide

theorem unquoting_hex (bytes : Bytes) : Unquoting (toHex bytes) := by
  apply unquoting_of_letters
  have hdigits : ∀ n < 16, hexDigit n ≠ 'm' := by decide
  intro hletter
  rw [toHex, String.toList_ofList, List.mem_flatMap] at hletter
  obtain ⟨b, -, hb⟩ := hletter
  have hsize : b.toNat < 256 := b.toNat_lt
  rcases List.mem_pair.mp hb with heq | heq
  · exact hdigits _ (by omega) heq.symm
  · exact hdigits _ (by omega) heq.symm

theorem Unquoting.not_includes {text : String} (h : Unquoting text) :
    includes text presignPoolEmptyRefusal = false := by
  apply decide_eq_false
  apply Passes.not_infix h
  · decide
  · decide +kernel
  · intro s hs c
    rw [accepts_refusalReader] at hs
    subst hs
    rfl

theorem not_includes_after_colon {before reason : String} (hbefore : Unquoting before)
    (hreason : includes reason presignPoolEmptyRefusal = false) :
    includes (before ++ ": " ++ reason) presignPoolEmptyRefusal = false := by
  apply decide_eq_false
  intro hquoted
  have htext : (before ++ ": " ++ reason).toList =
      before.toList ++ ':' :: ' ' :: reason.toList := by
    rw [String.toList_append, String.toList_append, List.append_assoc]
    rfl
  rw [htext] at hquoted
  rcases infix_of_split (by decide) hquoted with hfront | hback
  · exact of_decide_eq_false hbefore.not_includes hfront
  · exact of_decide_eq_false hreason (infix_of_cons (by decide) hback)

theorem includes_quoted {before refusal after : String} (hbefore : Unquoting before)
    (hafter : Unquoting after)
    (h : includes (before ++ "\"" ++ refusal ++ ("\"" ++ after)) presignPoolEmptyRefusal = true) :
    includes refusal presignPoolEmptyRefusal = true := by
  have htext : (before ++ "\"" ++ refusal ++ ("\"" ++ after)).toList =
      before.toList ++ Char.ofNat 34 :: (refusal.toList ++ Char.ofNat 34 :: after.toList) := by
    simp only [String.toList_append, List.append_assoc]
    rfl
  apply decide_eq_true
  have hquoted := of_decide_eq_true h
  rw [htext] at hquoted
  rcases infix_of_split (by decide) hquoted with hfront | hrest
  · exact absurd hfront (of_decide_eq_false hbefore.not_includes)
  rcases infix_of_split (by decide) hrest with hmiddle | hback
  · exact hmiddle
  · exact absurd hback (of_decide_eq_false hafter.not_includes)

/-- What an error of a closed epoch quotes of the refusal, the validator wrote. -/
theorem includes_epochClosedBeforeAnswer {epoch chainEpoch : ℕ} {session : Bytes}
    {refusal : String} {pending : PendingRequest}
    (h : includes (EngineError.epochClosedBeforeAnswer (T := T) epoch session chainEpoch refusal
      pending).message presignPoolEmptyRefusal = true) :
    includes refusal presignPoolEmptyRefusal = true := by
  have hfront : Unquoting ("the request for epoch " ++ toString epoch ++ " was refused (") := by
    have hlast : Unquoting " was refused (" := by decide +kernel
    have hfirst : Unquoting "the request for epoch " := by decide +kernel
    exact (hfirst.append (unquoting_number epoch)).append hlast
  have hback : Unquoting ("), and it may have run in that epoch: its session is " ++
      toHex session ++ ". The chain shows epoch " ++ toString chainEpoch ++ closedAdvice) := by
    have hlast : Unquoting closedAdvice := by decide +kernel
    have hchain : Unquoting ". The chain shows epoch " := by decide +kernel
    have hfirst : Unquoting "), and it may have run in that epoch: its session is " := by
      decide +kernel
    exact (((hfirst.append (unquoting_hex session)).append hchain).append
      (unquoting_number chainEpoch)).append hlast
  have htext : (EngineError.epochClosedBeforeAnswer (T := T) epoch session chainEpoch refusal
      pending).message = "the request for epoch " ++ toString epoch ++ " was refused (" ++ "\"" ++
        refusal ++ ("\"" ++ ("), and it may have run in that epoch: its session is " ++
          toHex session ++ ". The chain shows epoch " ++ toString chainEpoch ++ closedAdvice)) := by
    have hopen : " was refused (\"" = " was refused (" ++ "\"" := by decide +kernel
    unfold EngineError.message
    rw [hopen]
    simp only [String.append_assoc]
    rfl
  rw [htext] at h
  exact includes_quoted hfront hback h

/-- That a request ran quotes nothing but its record. -/
theorem unquoting_requestRanBeforeAnswer {epoch : ℕ} {session : Bytes} {record : String}
    (hrecord : Unquoting record) :
    Unquoting (EngineError.requestRanBeforeAnswer (T := T) epoch session record).message := by
  have hfirst : Unquoting "the request for epoch " := by decide +kernel
  have hclosed : Unquoting " got no answer before its epoch closed, and the chain " := by
    decide +kernel
  have hran : Unquoting "shows it ran: " := by decide +kernel
  exact ((hfirst.append (unquoting_number epoch)).append hclosed).append (hran.append hrecord)

/-! ## The checks of a presign -/

/-- The error's text does not quote the refusal. -/
def Silent (error : SdkError) : Prop := includes error.message presignPoolEmptyRefusal = false

instance : DecidablePred Silent := fun error =>
  inferInstanceAs (Decidable (includes error.message presignPoolEmptyRefusal = false))

/-- The texts of the BCS reader's errors do not quote the refusal. -/
def ParserSilent (P : Primitives) : Prop :=
  ∀ {α : Type} (c : Codec α) (bytes : Bytes) (reason : String),
    P.parse c bytes = .error reason → includes reason presignPoolEmptyRefusal = false

theorem parserSilent_sample : ParserSilent samplePrimitives := by
  intro α c bytes reason h
  simp only [samplePrimitives] at h
  split at h
  · split_ifs at h
    obtain rfl := Except.error.inj h
    decide +kernel
  · obtain rfl := Except.error.inj h
    decide +kernel

theorem silent_requireSent {field what : String} {holds : Prop} [Decidable holds]
    (htext : Unquoting s!"the attestation's {field} is not {what}") :
    Refuses Silent (requireSent field holds what) := refuses_ensure htext.not_includes

theorem unquoting_networkKeyRefusal {named expected : Bytes} {network : IkaNetwork}
    {trusted : Option TrustedNetworkKeys} {refusal : String}
    (h : attestationNetworkKeyRefusalIn ikaDeployedNetworks named expected network trusted =
      some refusal) : Unquoting refusal := by
  unfold attestationNetworkKeyRefusalIn at h
  split_ifs at h
  · cases h
    decide +kernel
  · cases h
    decide +kernel
  · cases network with
    | custom keys => cases h
    | deployed name =>
      -- No network has a list yet.
      cases name <;> cases h <;> decide +kernel

theorem silent_verifyAttestationNetworkKey {named expected : Bytes} {network : IkaNetwork}
    {trusted : Option TrustedNetworkKeys} :
    Refuses Silent (verifyAttestationNetworkKey named expected network trusted) := by
  unfold verifyAttestationNetworkKey
  split
  · exact refuses_ok ()
  · next refusal hrefusal =>
    exact refuses_error (unquoting_networkKeyRefusal hrefusal).not_includes

section Checks

variable {P : Primitives} (hparser : ParserSilent P)

include hparser

theorem silent_verifyAndDecode_presign {record : AttestationRecord} {trusted : TrustedNetworkKeys} :
    Refuses Silent (verifyAndDecode P record trusted .presign none) := by
  have hdecode : Refuses Silent (decodeExactly P .presign record.attestationData) := by
    unfold decodeExactly
    split
    · next reason hreason =>
      have hbefore : Unquoting "the attestation bytes are not a presign attestation" := by
        decide +kernel
      have htext := not_includes_after_colon hbefore (hparser _ _ _ hreason)
      apply refuses_error
      exact htext
    · dsimp only
      split_ifs
      · apply refuses_error
        have hleft : Unquoting ("the attestation bytes are not exactly a presign attestation: " ++
            "bytes are left over, or a length is not written as BCS writes it") := by
          decide +kernel
        exact hleft.not_includes
      · exact refuses_ok _
  have hversion : Unquoting ("attestation version " ++ toString record.attestationVersion ++
      " is not one this SDK knows") := by
    have hfirst : Unquoting "attestation version " := by decide +kernel
    have hlast : Unquoting " is not one this SDK knows" := by decide +kernel
    exact (hfirst.append (unquoting_number _)).append hlast
  unfold verifyAndDecode
  apply refuses_bind
  · exact refuses_ensure (by decide +kernel)
  intro _ _
  apply refuses_bind
  · exact refuses_ensure hversion.not_includes
  intro _ _
  apply refuses_bind
  · exact refuses_ensure (by decide +kernel)
  intro _ _
  apply refuses_bind
  · exact refuses_ensure (by decide +kernel)
  intro _ _
  apply refuses_bind hdecode
  intro decoded _
  exact refuses_ok decoded

/-- The checks of an answer that is no error quote no refusal. -/
theorem silent_verifyPresignAnswer {answer : TransactionResponseData} {trusted : TrustedNetwork}
    {sent : SentPresign} (hanswer : ∀ message, answer ≠ .error message) :
    Refuses Silent (verifyPresignAnswer P answer trusted sent) := by
  have hname : Refuses Silent (attestationOfAnswer answer trusted.network sent.networkKeyId) := by
    cases answer with
    | error message => exact absurd rfl (hanswer message)
    | signature signature => exact refuses_error (by decide +kernel)
    | attestation attestation =>
      apply refuses_bind silent_verifyAttestationNetworkKey
      intro _ _
      exact refuses_ok _
  unfold verifyPresignAnswer
  apply refuses_bind hname
  intro answered _
  apply refuses_bind
  · apply refuses_bind (silent_verifyAndDecode_presign hparser)
    intro _ _
    exact refuses_ok ()
  intro _ _
  apply refuses_bind
  · unfold decodeV1
    split
    · exact refuses_ok _
    · next reason hreason =>
      have hbefore : Unquoting "the presign attestation does not decode" := by decide +kernel
      have htext := not_includes_after_colon hbefore (hparser _ _ _ hreason)
      apply refuses_error
      exact htext
  intro attestation _
  repeat
    apply refuses_bind
    · exact silent_requireSent (by decide +kernel)
    intro _ _
  exact refuses_ok attestation

end Checks

end Ika
