import IkaSdk.Core.Grpc.NetworkKeyOutput

/-! What stands behind a network key's outputs once they are returned: the
chain's records of them, each with a proof under a registered network key. And
how long a check may take: no longer than the time that its reads share. -/

namespace Ika

open Wire Interaction

/-! ## One record -/

theorem withinTimeLeft_ok {α : Type} {timedOut : String} {read : Option (Except SdkError α)}
    {a : α} (h : withinTimeLeft timedOut read = .ok a) : read = some (.ok a) := by
  cases read with
  | none => cases h
  | some outcome => exact congrArg some (mapError_ok h)

theorem gives_recordWithin {kind : KeyRecordKind} {key : Bytes} {ms : ℤ} {timedOut : String}
    {tr : List (Event keyRecordInterface)} {record : Option NetworkKeyOutputRecord}
    (h : Eff.Gives (KeyRecordEff.recordWithin kind key ms timedOut) tr record) :
    tr = [⟨.recordWithin kind key ms, some (.ok record)⟩] := by
  obtain ⟨read, tr', rfl, hrest⟩ := Prog.returns_call_iff.mp h
  obtain ⟨rfl, hread⟩ := Prog.returns_pure_iff.mp hrest
  obtain rfl := withinTimeLeft_ok hread
  rfl

theorem gives_isRegisteredWithin {key : Bytes} {ms : ℤ} {timedOut : String}
    {tr : List (Event keyRecordInterface)} {registered : Bool}
    (h : Eff.Gives (KeyRecordEff.isRegisteredWithin key ms timedOut) tr registered) :
    tr = [⟨.isRegisteredWithin key ms, some (.ok registered)⟩] := by
  obtain ⟨read, tr', rfl, hrest⟩ := Prog.returns_call_iff.mp h
  obtain ⟨rfl, hread⟩ := Prog.returns_pure_iff.mp hrest
  obtain rfl := withinTimeLeft_ok hread
  rfl

/-- The proof is exactly one of version 0, and its signature verifies over the
message under the signer that it names. -/
def ProofSigned (P : Primitives) (message proof signer : Bytes) : Prop :=
  ∃ signature, versionedAttestationProofBcs.serialize ⟨0, signer, signature⟩ = .ok proof ∧
    P.ed25519Verify signature message signer = .ok true

/-- The chain answered a record of this digest during the run, and that the
signer of the record's proof is a registered network key. -/
def RecordHolds (P : Primitives) (kind : KeyRecordKind) (key digest message : Bytes)
    (tr : List (Event keyRecordInterface)) : Prop :=
  ∃ record signer, record.digest = digest ∧ ProofSigned P message record.proof signer ∧
    (∃ ms, ⟨.recordWithin kind key ms, some (.ok (some record))⟩ ∈ tr) ∧
    ∃ ms, ⟨.isRegisteredWithin signer ms, some (.ok true)⟩ ∈ tr

theorem RecordHolds.mono {P : Primitives} {kind : KeyRecordKind} {key digest message : Bytes}
    {tr tr' : List (Event keyRecordInterface)} (h : RecordHolds P kind key digest message tr)
    (hsub : ∀ e ∈ tr, e ∈ tr') : RecordHolds P kind key digest message tr' := by
  obtain ⟨record, signer, hdigest, hproof, ⟨ms, hread⟩, ms', hregistered⟩ := h
  exact ⟨record, signer, hdigest, hproof, ⟨ms, hsub _ hread⟩, ms', hsub _ hregistered⟩

theorem recordOnceSigned_gives {key digest : Bytes} {kind : KeyRecordKind} {deadline : ℤ}
    {wait : ReshareRecordWait} {fuel : ℕ} {tr : List (Event keyRecordInterface)}
    {record : NetworkKeyOutputRecord}
    (h : Eff.Gives (recordOnceSigned key kind digest deadline wait fuel) tr record) :
    ∃ ms, ⟨.recordWithin kind key ms, some (.ok (some record))⟩ ∈ tr := by
  obtain ⟨front, last, read, rfl, hread, hsettled⟩ := Polling.gives_poll h
  obtain ⟨tr₁, tr₂, now, rfl, -, hwithin⟩ := Eff.gives_bind_iff.mp hread
  obtain rfl := gives_recordWithin hwithin
  cases read with
  | none =>
    cases kind with
    | dkg => cases hsettled
    | reshare epoch => cases hsettled
  | some read =>
    change (if _ then _ else _) = _ at hsettled
    split_ifs at hsettled
    cases hsettled
    exact ⟨deadline - now, by simp⟩

section Checks

variable {P : Primitives} {blake2b256 : Bytes → Bytes}

theorem verifyNetworkKeyRecordProof_ok {what : String} {message proof signer : Bytes}
    (h : verifyNetworkKeyRecordProof P what message proof = .ok signer) :
    ProofSigned P message proof signer := by
  obtain ⟨_, -, h₁⟩ := bind_ok h
  obtain ⟨decoded, hdecode, h₂⟩ := bind_ok h₁
  obtain ⟨_, hversion, h₃⟩ := bind_ok h₂
  obtain ⟨_, hverifies, h₄⟩ := bind_ok h₃
  cases h₄
  obtain ⟨parsed, -, h₅⟩ := bind_ok hdecode
  obtain ⟨_, hserialize, h₆⟩ := bind_ok h₅
  cases h₆
  refine ⟨decoded.noaSignature, ?_, signatureVerifies_iff.mp (ensure_ok hverifies)⟩
  have hexact := ensure_ok hserialize
  rwa [← ensure_ok hversion]

theorem verifyRecordProof_gives {what : String} {record : NetworkKeyOutputRecord}
    {message : Bytes → Except String Bytes} {deadline : ℤ} {wait : ReshareRecordWait}
    {tr : List (Event keyRecordInterface)} {u : Unit}
    (h : Eff.Gives (verifyRecordProof P what record message deadline wait) tr u) :
    ∃ signed signer, message record.digest = .ok signed ∧
      ProofSigned P signed record.proof signer ∧
      ∃ ms, ⟨.isRegisteredWithin signer ms, some (.ok true)⟩ ∈ tr := by
  obtain ⟨_, -, h₁⟩ := Eff.gives_lift_bind_iff.mp h
  obtain ⟨signer, hsigner, h₂⟩ := Eff.gives_lift_bind_iff.mp h₁
  obtain ⟨tr₁, tr₂, now, rfl, -, h₃⟩ := Eff.gives_bind_iff.mp h₂
  obtain ⟨tr₃, tr₄, registered, rfl, hread, h₄⟩ := Eff.gives_bind_iff.mp h₃
  obtain rfl := gives_isRegisteredWithin hread
  obtain ⟨-, hregistered⟩ := Eff.gives_lift_iff.mp h₄
  obtain rfl : registered = true := ensure_ok hregistered
  obtain ⟨signed, hmessage, hproof⟩ := bind_ok (mapError_ok hsigner)
  exact ⟨signed, signer, fromPackage_ok hmessage, verifyNetworkKeyRecordProof_ok hproof,
    deadline - now, by simp⟩

/-- A record that was read, and whose check passed, holds. -/
theorem recordHolds_of_gives {what : String} {kind : KeyRecordKind} {key : Bytes}
    {record : NetworkKeyOutputRecord} {message : Bytes → Except String Bytes} {deadline : ℤ}
    {wait : ReshareRecordWait} {front tr : List (Event keyRecordInterface)} {u : Unit}
    (hread : ∃ ms, ⟨.recordWithin kind key ms, some (.ok (some record))⟩ ∈ front)
    (h : Eff.Gives (verifyRecordProof P what record message deadline wait) tr u) :
    ∃ signed, message record.digest = .ok signed ∧
      RecordHolds P kind key record.digest signed (front ++ tr) := by
  obtain ⟨signed, signer, hmessage, hproof, ms', hregistered⟩ := verifyRecordProof_gives h
  obtain ⟨ms, hread⟩ := hread
  exact ⟨signed, hmessage, record, signer, rfl, hproof,
    ⟨ms, List.mem_append_left _ hread⟩, ms', List.mem_append_right _ hregistered⟩

theorem verifyAgainstRecord_gives {what : String} {kind : KeyRecordKind} {key output : Bytes}
    {record : NetworkKeyOutputRecord} {message : Bytes → Except String Bytes} {deadline : ℤ}
    {wait : ReshareRecordWait} {front tr : List (Event keyRecordInterface)} {u : Unit}
    (hread : ∃ ms, ⟨.recordWithin kind key ms, some (.ok (some record))⟩ ∈ front)
    (h : Eff.Gives (verifyAgainstRecord P blake2b256 what output record message deadline wait)
      tr u) :
    ∃ signed, message (networkOutputDigest blake2b256 output) = .ok signed ∧
      RecordHolds P kind key (networkOutputDigest blake2b256 output) signed (front ++ tr) := by
  obtain ⟨_, hdigest, h₁⟩ := Eff.gives_lift_bind_iff.mp h
  rw [ensure_ok hdigest]
  exact recordHolds_of_gives hread h₁

/-! ## The outputs -/

/-- Outputs that were returned: those served for the caller's key, each with a
record of its digest that holds over the message of its kind. -/
structure OutputChecked (P : Primitives) (blake2b256 : Bytes → Bytes) (served : NetworkKeyOutput)
    (networkKeyId : Bytes) (tr : List (Event keyRecordInterface)) (result : NetworkKeyOutput) :
    Prop where
  result : result = served
  answered : served.networkKeyId = networkKeyId
  dkg : ∃ message, networkKeyDkgRecordMessage networkKeyId
      (networkOutputDigest blake2b256 served.networkDkgOutput) = .ok message ∧
    RecordHolds P .dkg networkKeyId (networkOutputDigest blake2b256 served.networkDkgOutput)
      message tr
  reshare : ∀ output, served.latestReconfigurationOutput = some output →
    ∃ message, networkKeyReconfigurationRecordMessage networkKeyId served.epoch
        (networkOutputDigest blake2b256 output) = .ok message ∧
      RecordHolds P (.reshare served.epoch) networkKeyId (networkOutputDigest blake2b256 output)
        message tr

theorem verifyNetworkKeyOutput_gives {served : NetworkKeyOutput} {networkKeyId : Bytes}
    {wait : ReshareRecordWait} {fuel : ℕ} {tr : List (Event keyRecordInterface)}
    {result : NetworkKeyOutput}
    (h : Eff.Gives (verifyNetworkKeyOutput P blake2b256 served networkKeyId wait fuel) tr result) :
    OutputChecked P blake2b256 served networkKeyId tr result := by
  obtain ⟨_, hkey, h₁⟩ := Eff.gives_lift_bind_iff.mp h
  obtain ⟨tr₀, trRest, start, rfl, -, h₂⟩ := Eff.gives_bind_iff.mp h₁
  obtain ⟨trDkg, tr₁, dkgRecord, rfl, hdkg, h₃⟩ := Eff.gives_bind_iff.mp h₂
  obtain ⟨trProof, tr₂, _, rfl, hproof, h₄⟩ := Eff.gives_bind_iff.mp h₃
  obtain ⟨trReshare, tr₃, _, rfl, hreshare, h₅⟩ := Eff.gives_bind_iff.mp h₄
  obtain ⟨rfl, rfl⟩ := Eff.gives_pure_iff.mp h₅
  obtain ⟨signed, hmessage, hholds⟩ :=
    verifyAgainstRecord_gives (recordOnceSigned_gives hdkg) hproof
  refine {
    result := rfl
    answered := ensure_ok hkey
    dkg := ⟨signed, hmessage, hholds.mono fun e he => ?_⟩
    reshare := fun output houtput => ?_ }
  · rcases List.mem_append.mp he with he | he <;> simp [he]
  · rw [houtput] at hreshare
    obtain ⟨tr₄, tr₅, record, rfl, hrecord, hagainst⟩ := Eff.gives_bind_iff.mp hreshare
    obtain ⟨signed', hmessage', hholds'⟩ :=
      verifyAgainstRecord_gives (recordOnceSigned_gives hrecord) hagainst
    refine ⟨signed', hmessage', hholds'.mono fun e he => ?_⟩
    rcases List.mem_append.mp he with he | he <;> simp [he]

theorem verifySignedDkgRecord_gives {noaPublicKey dkgOutputDigest : Bytes}
    {wait : ReshareRecordWait} {fuel : ℕ} {tr : List (Event keyRecordInterface)} {u : Unit}
    (h : Eff.Gives (verifySignedDkgRecord P noaPublicKey dkgOutputDigest wait fuel) tr u) :
    ∃ message, networkKeyDkgRecordMessage noaPublicKey dkgOutputDigest = .ok message ∧
      RecordHolds P .dkg noaPublicKey dkgOutputDigest message tr := by
  obtain ⟨tr₀, trRest, start, rfl, -, h₁⟩ := Eff.gives_bind_iff.mp h
  obtain ⟨trDkg, tr₁, record, rfl, hdkg, h₂⟩ := Eff.gives_bind_iff.mp h₁
  obtain ⟨_, hdigest, h₃⟩ := Eff.gives_lift_bind_iff.mp h₂
  obtain ⟨signed, hmessage, hholds⟩ := recordHolds_of_gives (recordOnceSigned_gives hdkg) h₃
  rw [ensure_ok hdigest] at hmessage hholds
  exact ⟨signed, hmessage, hholds.mono fun e he => by simp [he]⟩

/-! ## Time -/

/-- Time passes only while something is awaited: a timer ends when it is due, and
a raced read by then. -/
def RecordTakes (s : ℤ) (e : Event keyRecordInterface) (t : ℤ) : Prop :=
  match e with
  | ⟨.now, time⟩ => t = s ∧ time = s
  | ⟨.sleep ms, _⟩ => s ≤ t ∧ t ≤ s + max 0 ms ∧ (0 < ms → s < t)
  | ⟨.recordWithin _ _ ms, _⟩ | ⟨.isRegisteredWithin _ ms, _⟩ => s ≤ t ∧ t ≤ s + max 0 ms

/-- A time within the budget of a check that began at `start`. -/
def InBudget (start : ℤ) (wait : ReshareRecordWait) (time : ℤ) : Prop :=
  start ≤ time ∧ time ≤ start + max 0 wait.budgetMs

/-- Turns enough for the budget, when every pause takes time. -/
def EnoughReads (wait : ReshareRecordWait) (fuel : ℕ) : Prop :=
  0 < wait.pauseMs ∧ max 0 wait.budgetMs + 1 < fuel

def recordClock (start : ℤ) (wait : ReshareRecordWait) (fuel : ℕ) :
    Setting keyRecordInterface ℤ where
  moves := RecordTakes
  atCall time _ := InBudget start wait time
  atCut time := InBudget start wait time ∧ ¬EnoughReads wait fuel

section Clock

variable {start time : ℤ} {wait : ReshareRecordWait} {fuel : ℕ}

/-- What a read raced against the deadline leaves of the budget. -/
theorem InBudget.race {t : ℤ} (h : InBudget start wait time)
    (htakes : time ≤ t ∧ t ≤ time + max 0 (start + wait.budgetMs - time)) :
    InBudget start wait t := by
  obtain ⟨hstart, hlimit⟩ := h
  refine ⟨hstart.trans htakes.1, ?_⟩
  omega

theorem wp_readNow {α : Type} {f : ℤ → KeyRecordEff α}
    {post : Except NetworkKeyOutputThrown α → ℤ → Prop} (h : InBudget start wait time)
    (hrest : Eff.wp (recordClock start wait fuel) (f time) post time) :
    Eff.wp (recordClock start wait fuel) (KeyRecordEff.now >>= f) post time := by
  refine Eff.wp_liftOp_bind h ?_
  rintro now t ⟨rfl, rfl⟩
  exact hrest

theorem wp_recordOnceSigned {key digest : Bytes} {kind : KeyRecordKind}
    (h : InBudget start wait time) :
    Eff.wp (recordClock start wait fuel)
      (recordOnceSigned key kind digest (start + wait.budgetMs) wait fuel)
      (fun _ => InBudget start wait) time := by
  cases fuel with
  | zero =>
    show InBudget start wait time ∧ ¬EnoughReads wait 0
    refine ⟨h, fun henough => ?_⟩
    have hturns := henough.2
    simp only [Nat.cast_zero] at hturns
    omega
  | succ fuel =>
    refine Polling.wp_poll_within id (InBudget start wait) (EnoughReads wait (fuel + 1))
      ?_ ?_ ?_ ?_ (fun henough => henough.1) ?_ h
    · exact fun w hw henough => ⟨hw, henough⟩
    · intro w hw
      refine wp_readNow hw ⟨hw, fun read t htakes => ?_⟩
      have ht := hw.race htakes
      show Eff.followed _ _ (withinTimeLeft _ read) t
      generalize withinTimeLeft _ read = outcome
      cases outcome with
      | error e => exact ht
      | ok record => exact ⟨ht, htakes.1, fun _ _ => ht⟩
    · intro w hw
      refine Eff.wp_liftOp hw ?_
      rintro now t ⟨rfl, rfl⟩
      exact ⟨hw, le_rfl, rfl, fun _ => hw⟩
    · intro w hw hearly
      refine Eff.wp_liftOp hw fun _ t htakes => ?_
      obtain ⟨hle, hdue, hforward⟩ := htakes
      refine ⟨⟨hw.1.trans hle, ?_⟩, hforward⟩
      have hlimit := hw.2
      change w + wait.pauseMs ≤ start + wait.budgetMs at hearly
      change t ≤ w + max 0 wait.pauseMs at hdue
      omega
    · intro henough
      have hturns := henough.2
      have hstart := h.1
      push_cast at hturns
      simp only [id]
      omega

theorem wp_verifyRecordProof {what : String} {record : NetworkKeyOutputRecord}
    {message : Bytes → Except String Bytes} (h : InBudget start wait time) :
    Eff.wp (recordClock start wait fuel)
      (verifyRecordProof P what record message (start + wait.budgetMs) wait)
      (fun _ => InBudget start wait) time := by
  refine Eff.wp_lift_bind (fun _ _ => ?_) fun _ _ => h
  refine Eff.wp_lift_bind (fun signer _ => ?_) fun _ _ => h
  refine wp_readNow h (Eff.wp_bind ⟨h, fun read t htakes => ?_⟩)
  have ht := h.race htakes
  show Eff.followed _ _ (withinTimeLeft _ read) t
  generalize withinTimeLeft _ read = outcome
  cases outcome with
  | error e => exact ht
  | ok registered => exact Eff.wp_lift ht

theorem wp_verifyAgainstRecord {what : String} {output : Bytes} {record : NetworkKeyOutputRecord}
    {message : Bytes → Except String Bytes} (h : InBudget start wait time) :
    Eff.wp (recordClock start wait fuel)
      (verifyAgainstRecord P blake2b256 what output record message (start + wait.budgetMs) wait)
      (fun _ => InBudget start wait) time :=
  Eff.wp_lift_bind (fun _ _ => wp_verifyRecordProof h) fun _ _ => h

/-- One part of a check after another, each within the budget. -/
theorem wp_budget_bind {α β : Type} {p : KeyRecordEff α} {f : α → KeyRecordEff β}
    (hp : Eff.wp (recordClock start wait fuel) p (fun _ => InBudget start wait) time)
    (hf : ∀ a t, InBudget start wait t →
      Eff.wp (recordClock start wait fuel) (f a) (fun _ => InBudget start wait) t) :
    Eff.wp (recordClock start wait fuel) (p >>= f) (fun _ => InBudget start wait) time := by
  refine Eff.wp_bind (Eff.wp_mono hp fun r t ht => ?_)
  cases r with
  | error e => exact ht
  | ok a => exact hf a t ht

theorem inBudget_start : InBudget start wait start := ⟨le_rfl, by omega⟩

theorem wp_verifyNetworkKeyOutput {served : NetworkKeyOutput} {networkKeyId : Bytes} :
    Eff.wp (recordClock start wait fuel)
      (verifyNetworkKeyOutput P blake2b256 served networkKeyId wait fuel)
      (fun _ => InBudget start wait) start := by
  refine Eff.wp_lift_bind (fun _ _ => ?_) fun _ _ => inBudget_start
  refine wp_readNow inBudget_start ?_
  refine wp_budget_bind (wp_recordOnceSigned inBudget_start) fun dkgRecord t ht => ?_
  refine wp_budget_bind (wp_verifyAgainstRecord ht) fun _ t ht => ?_
  refine wp_budget_bind ?_ fun _ t ht => ht
  cases served.latestReconfigurationOutput with
  | none => exact ht
  | some output =>
    exact wp_budget_bind (wp_recordOnceSigned ht) fun record t ht => wp_verifyAgainstRecord ht

theorem wp_verifySignedDkgRecord {noaPublicKey dkgOutputDigest : Bytes} :
    Eff.wp (recordClock start wait fuel)
      (verifySignedDkgRecord P noaPublicKey dkgOutputDigest wait fuel)
      (fun _ => InBudget start wait) start := by
  refine wp_readNow inBudget_start ?_
  refine wp_budget_bind (wp_recordOnceSigned inBudget_start) fun record t ht => ?_
  exact Eff.wp_lift_bind (fun _ _ => wp_verifyRecordProof ht) fun _ _ => ht

/-- However far a check has come, its budget is not over, and with turns enough
it is never cut. -/
def EndsInBudget {α : Type} (wait : ReshareRecordWait) (fuel : ℕ) (check : KeyRecordEff α) :
    Prop :=
  ∀ tr q start time, Prog.Run check.run tr q → Path RecordTakes start tr time →
    time ≤ start + max 0 wait.budgetMs ∧ (EnoughReads wait fuel → q ≠ .cut)

theorem EndsInBudget.of_wp {α : Type} {check : KeyRecordEff α}
    (h : ∀ start, Eff.wp (recordClock start wait fuel) check (fun _ => InBudget start wait)
      start) : EndsInBudget wait fuel check := by
  intro tr q start time hrun hpath
  have hin : InBudget start wait time := Eff.wp_begins (h start) ⟨q, hrun⟩ hpath
    (fun _ _ hpost => hpost) (fun _ _ hcall => hcall) fun _ hcut => hcut.1
  refine ⟨hin.2, ?_⟩
  rintro henough rfl
  exact (Eff.wp_cuts (h start) hrun hpath).2 henough

end Clock

end Checks

/-! ## Every check -/

/-- Outputs are returned only with their records behind them, a signed DKG record
passes only under the same condition, and all reads of one check share its budget. -/
theorem network_key_outputs_fail_closed (P : Primitives) (blake2b256 : Bytes → Bytes)
    (wait : ReshareRecordWait) (fuel : ℕ) :
    (∀ served networkKeyId tr result,
      Eff.Gives (verifyNetworkKeyOutput P blake2b256 served networkKeyId wait fuel) tr result →
      OutputChecked P blake2b256 served networkKeyId tr result) ∧
    (∀ noaPublicKey dkgOutputDigest tr,
      Eff.Gives (verifySignedDkgRecord P noaPublicKey dkgOutputDigest wait fuel) tr () →
      ∃ message, networkKeyDkgRecordMessage noaPublicKey dkgOutputDigest = .ok message ∧
        RecordHolds P .dkg noaPublicKey dkgOutputDigest message tr) ∧
    (∀ served networkKeyId,
      EndsInBudget wait fuel (verifyNetworkKeyOutput P blake2b256 served networkKeyId wait fuel)) ∧
    ∀ noaPublicKey dkgOutputDigest,
      EndsInBudget wait fuel (verifySignedDkgRecord P noaPublicKey dkgOutputDigest wait fuel) := by
  refine ⟨fun served networkKeyId tr result h => verifyNetworkKeyOutput_gives h,
    fun noaPublicKey dkgOutputDigest tr h => verifySignedDkgRecord_gives h,
    fun served networkKeyId => ?_, fun noaPublicKey dkgOutputDigest => ?_⟩
  · exact EndsInBudget.of_wp fun start => wp_verifyNetworkKeyOutput
  · exact EndsInBudget.of_wp fun start => wp_verifySignedDkgRecord

def sampleNetworkKey : Bytes := List.replicate 32 7

def sampleOutputs : NetworkKeyOutput where
  networkDkgOutput := [1, 2, 3]
  latestReconfigurationOutput := some [4, 5]
  epoch := 6
  dkgAtEpoch := 1
  networkKeyId := sampleNetworkKey

/-- The chain's records of the sample outputs; the first read finds the proof not
written yet. -/
def sampleKeyRecords (n : ℕ) : ∀ op : KeyRecordOp, KeyRecordOp.Ans op
  | .now => 1000 * n
  | .sleep _ => ()
  | .recordWithin kind _ _ =>
    let output : Bytes := if kind = .dkg then [1, 2, 3] else [4, 5]
    let proof := versionedAttestationProofBcs.encode ⟨0, sampleNetworkKey, List.replicate 64 8⟩
    some (.ok (some ⟨samplePrimitives.keccak256 output, if n < 3 then [] else proof⟩))
  | .isRegisteredWithin _ _ => some (.ok true)

theorem network_key_outputs_fail_closed_sample : ∃ tr,
    Eff.Gives (verifyNetworkKeyOutput samplePrimitives samplePrimitives.keccak256 sampleOutputs
      sampleNetworkKey reshareRecordWait 3) tr sampleOutputs ∧
    OutputChecked samplePrimitives samplePrimitives.keccak256 sampleOutputs sampleNetworkKey tr
      sampleOutputs := by
  have hsample : (Prog.transcript (I := keyRecordInterface) sampleKeyRecords 0
    (verifyNetworkKeyOutput
      samplePrimitives samplePrimitives.keccak256 sampleOutputs sampleNetworkKey
      reshareRecordWait 3).run).any (fun r => decide (r.2 = .ok sampleOutputs)) = true := by
    decide +kernel
  obtain ⟨⟨tr, r⟩, hrun, hresult⟩ := (Option.any_eq_true _ _).mp hsample
  obtain rfl := of_decide_eq_true hresult
  have hgives := Prog.returns_of_transcript hrun
  exact ⟨tr, hgives, (network_key_outputs_fail_closed samplePrimitives samplePrimitives.keccak256
    reshareRecordWait 3).1 sampleOutputs sampleNetworkKey tr sampleOutputs hgives⟩

end Ika
