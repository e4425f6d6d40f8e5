import IkaSdk.Core.Grpc.SignRequestSafety

/-! The two ways to authorize a sign, with a reader and with a fresh result of a
check by the same reader: they sign the same requests but for the network key
that a request names and the acceptance that a reader reports. -/

namespace Ika

open Wire Interaction Eff

variable {P : Primitives} {H : Type} {tr : List (Event (ownershipInterface H))}
  {reader : DWalletShareReader} {issued : List IssuedState} {keypair : TransportKeypair}

/-- The request, the reader and the answers by which the two paths are compared:
`reads` is what the check reads after the user's key, and `clock` is read when
its result is reused. -/
structure Comparison (H : Type) where
  signedData : SignedRequestData
  reader : DWalletShareReader
  userKey : Bytes
  reads : List (Event (ownershipInterface H))
  clock : ℤ

namespace Comparison

def checkEvents (c : Comparison H) : List (Event (ownershipInterface H)) :=
  ⟨.getSigningPublicKeyBytes, .ok c.userKey⟩ :: c.reads

/-- The sign is given the reader. -/
def SignsWithReader (P : Primitives) (issued : List IssuedState) (keypair : TransportKeypair)
    (c : Comparison H) (signed : SignedRequest) : Prop :=
  ∃ issued', Gives (signDWalletSignRequest P issued keypair)
    (⟨.signedData, c.signedData⟩ :: ⟨.ownership, ⟨some c.reader, none⟩⟩ ::
      ⟨.getSigningPublicKeyBytes, .ok c.userKey⟩ :: c.checkEvents) (signed, issued')

/-- The check succeeds on the request's attestation, and the sign is given its
result. -/
def SignsWithResult (P : Primitives) (issued : List IssuedState) (keypair : TransportKeypair)
    (c : Comparison H) (signed : SignedRequest) : Prop :=
  ∃ sign st issued', signOf c.signedData.request = .ok sign ∧
    Gives (assertDWalletUsable P c.reader sign.dwalletAttestation.attestationData none none)
      c.checkEvents st ∧
    Gives (signDWalletSignRequest (H := H) P (issued ++ [st]) keypair)
      [⟨.signedData, c.signedData⟩, ⟨.ownership, ⟨none, some (.issued issued.length)⟩⟩,
        ⟨.getSigningPublicKeyBytes, .ok c.userKey⟩, ⟨.now, c.clock⟩] (signed, issued')

/-- The result is reused while it is fresh. -/
def Fresh (c : Comparison H) : Prop :=
  ∀ now : ℤ, (⟨.now, now⟩ : Event (ownershipInterface H)) ∈ c.reads →
    c.clock - now ≤ dwalletUsableMaxAgeMs

/-- The request passes what both paths ask of it, and the check passes. -/
def Passes (P : Primitives) (c : Comparison H) (sign : SignRequest) : Prop :=
  (∃ prepared, prepareSign P c.signedData = .ok prepared ∧ prepared.sign = sign ∧
    prepared.requestChain = c.reader.chain) ∧
  ∃ st, Gives (assertDWalletUsable P c.reader sign.dwalletAttestation.attestationData none none)
    c.checkEvents st

/-- The dWallet's record names the network key that the request names. -/
def SameNetworkKey (c : Comparison H) (sign : SignRequest) : Prop :=
  ∀ (lookup : DWalletLookup) (record : CheckedDWalletRecord H),
    (⟨.readDWallet lookup, .ok (some record)⟩ : Event (ownershipInterface H)) ∈ c.reads →
      record.networkPublicKey = sign.dwalletAttestation.networkPubkey

/-- Where the attestation names a holder, the share is not reported as one whose
acceptance was given, since none was. -/
def NotReportedGiven (P : Primitives) (c : Comparison H) (sign : SignRequest) : Prop :=
  ∀ attestation, P.parse versionedDWalletDataAttestationBcs
      sign.dwalletAttestation.attestationData = .ok attestation →
    attestation.holder.isSome → ReportsGivenOnlyIfGiven c.reads

end Comparison

theorem signOf_prepared {signedData : SignedRequestData} {prepared : PreparedSign}
    (h : prepareSign P signedData = .ok prepared) :
    signOf signedData.request = .ok prepared.sign := by
  rcases (prepareSign_ok h).kind with hkind | hkind <;> rw [hkind] <;> rfl

theorem signsWithReader_iff {c : Comparison H} {signed : SignedRequest} :
    c.SignsWithReader P issued keypair signed ↔
      ∃ prepared st, prepareSign P c.signedData = .ok prepared ∧
        prepared.requestChain = c.reader.chain ∧
        Gives (assertDWalletUsable P c.reader prepared.sign.dwalletAttestation.attestationData
          none none) c.checkEvents st ∧
        signSerializedRequest P keypair prepared.signedRequestData = .ok signed := by
  constructor
  · rintro ⟨issued', h⟩
    obtain ⟨signedData, ownership, prepared, rest, object, recorded, heq, hprepare, -, hresult,
      hget, hchain, hsigned⟩ := signDWalletSignRequest_gives_iff.mp h
    cases heq
    obtain ⟨userKey, check, st, heq, hcheck, rfl, rfl⟩ :=
      requireDWalletUsable_reader_iff.mp hresult
    cases heq
    obtain rfl : st = recorded := Option.some.inj (issuedGet_last.symm.trans hget)
    obtain ⟨_, _, hshown⟩ := assertDWalletUsable_shown hcheck
    exact ⟨prepared, st, hprepare, hchain.symm.trans hshown.chain, hcheck, hsigned⟩
  · rintro ⟨prepared, st, hprepare, hchain, hcheck, hsigned⟩
    obtain ⟨_, _, hshown⟩ := assertDWalletUsable_shown hcheck
    refine ⟨issued ++ [st], signDWalletSignRequest_gives_iff.mpr ⟨c.signedData,
      ⟨some c.reader, none⟩, prepared, _, .issued issued.length, st, rfl, hprepare,
      requireRequestChain_some_iff.mpr hchain.symm, ?_, issuedGet_last,
      hshown.chain.trans hchain.symm, hsigned⟩⟩
    exact requireDWalletUsable_reader_iff.mpr ⟨c.userKey, c.checkEvents, st, rfl, hcheck, rfl, rfl⟩

theorem signsWithResult_iff {c : Comparison H} {signed : SignedRequest} :
    c.SignsWithResult P issued keypair signed ↔
      ∃ prepared st, prepareSign P c.signedData = .ok prepared ∧
        prepared.requestChain = c.reader.chain ∧
        Gives (assertDWalletUsable P c.reader prepared.sign.dwalletAttestation.attestationData
          none none) c.checkEvents st ∧
        Reusable P st prepared.sign.dwalletAttestation c.userKey c.clock ∧
        signSerializedRequest P keypair prepared.signedRequestData = .ok signed := by
  constructor
  · rintro ⟨sign, st, issued', hsign, hcheck, h⟩
    obtain ⟨signedData, ownership, prepared, rest, object, recorded, heq, hprepare, -, hresult,
      hget, hchain, hsigned⟩ := signDWalletSignRequest_gives_iff.mp h
    cases heq
    obtain ⟨userKey, verified, now, heq, hverified, hreusable, rfl, rfl⟩ :=
      requireDWalletUsable_result_iff.mp hresult
    cases heq
    obtain rfl : st = verified := Option.some.inj (issuedGet_last.symm.trans hverified)
    obtain rfl : st = recorded := Option.some.inj (issuedGet_last.symm.trans hget)
    obtain rfl : prepared.sign = sign :=
      Except.ok.inj ((signOf_prepared hprepare).symm.trans hsign)
    obtain ⟨_, _, hshown⟩ := assertDWalletUsable_shown hcheck
    exact ⟨prepared, st, hprepare, hchain.symm.trans hshown.chain, hcheck, hreusable, hsigned⟩
  · rintro ⟨prepared, st, hprepare, hchain, hcheck, hreusable, hsigned⟩
    obtain ⟨_, _, hshown⟩ := assertDWalletUsable_shown hcheck
    have hsame : st.chain = prepared.requestChain := hshown.chain.trans hchain.symm
    refine ⟨prepared.sign, st, issued ++ [st], signOf_prepared hprepare, hcheck,
      signDWalletSignRequest_gives_iff.mpr ⟨c.signedData, ⟨none, some (.issued issued.length)⟩,
      prepared, _, .issued issued.length, st, rfl, hprepare, ?_, ?_, issuedGet_last, hsame,
      hsigned⟩⟩
    · simp only [checkedChain, issuedGet_last, Option.map_some]
      exact requireRequestChain_some_iff.mpr hsame
    · exact requireDWalletUsable_result_iff.mpr
        ⟨c.userKey, st, c.clock, rfl, issuedGet_last, hreusable, rfl, rfl⟩

theorem ShareShown.notWaiting_iff {dwallet : ChainDWallet H} {userKey : Bytes}
    {classic : Option String} {share : UsableShare} {migrated waiting : Bool}
    (h : ShareShown P reader dwallet userKey classic none tr share migrated waiting) :
    waiting = false ↔
      (dwallet.verified.attestation.holder.isSome → ReportsGivenOnlyIfGiven tr) := by
  cases h with
  | publicShare => simp [ReportsGivenOnlyIfGiven]
  | @named holder record attestation hnamed hverified hwaits =>
    constructor
    · intro hnot _ handle key share hmem
      rcases List.mem_pair.mp hmem with hmem | hmem
      · cases hmem
      · cases hmem
        exact hnot
    · intro hreports
      exact hreports (by simp [hnamed]) _ _ _ (List.mem_pair.mpr (.inr rfl))
  | attached hnone => simp [hnone]
  | migrated hnone => simp [hnone]

/-- A fresh result of a check can be reused for the request it ran for exactly
when the network key and the report of the acceptance allow it. -/
theorem reusable_iff {c : Comparison H} {sign : SignRequest} {st : IssuedState}
    (h : Gives (assertDWalletUsable P c.reader sign.dwalletAttestation.attestationData none none)
      c.checkEvents st) (hfresh : c.Fresh) :
    Reusable P st sign.dwalletAttestation c.userKey c.clock ↔
      c.SameNetworkKey sign ∧ c.NotReportedGiven P sign := by
  obtain ⟨record, dwallet, shareTr, htr, hparse, hasked, -, -, hshare, -, hattestation, -⟩ :=
    assertDWalletUsable_gives h
  obtain ⟨hkey, hreads⟩ := List.cons.inj htr
  have hholder : c.userKey = st.holder := by
    have hans := (Event.mk.inj hkey).2
    exact Except.ok.inj (eq_of_heq hans)
  have hnetwork : c.SameNetworkKey sign ↔
      st.attestation.networkPubkey = sign.dwalletAttestation.networkPubkey := by
    rw [hattestation]
    constructor
    · intro hsame
      exact hsame _ record (by rw [hreads]; exact List.mem_cons_self)
    · intro heq lookup record' hmem
      rw [hreads] at hmem
      rcases List.mem_cons.mp hmem with hmem | hmem
      · cases hmem
        exact heq
      · rcases List.mem_append.mp hmem with hmem | hmem
        · obtain ⟨_, hop⟩ | ⟨_, _, _, hop⟩ | ⟨_, _, _, hop⟩ := hshare.ops hmem <;> cases hop
        · cases List.mem_singleton.mp hmem
  have hevents : ReportsGivenOnlyIfGiven c.reads ↔ ReportsGivenOnlyIfGiven shareTr := by
    simp [ReportsGivenOnlyIfGiven, hreads]
  have hreported : c.NotReportedGiven P sign ↔ st.waiting = false := by
    rw [hshare.notWaiting_iff, ← hevents]
    constructor
    · intro hnot hnamed
      exact hnot _ hparse hnamed
    · intro hreports attestation hdecoded hnamed
      obtain rfl := Except.ok.inj (hdecoded.symm.trans hparse)
      exact hreports hnamed
  constructor
  · intro hreusable
    exact ⟨hnetwork.mpr hreusable.networkKey, hreported.mpr hreusable.notWaiting⟩
  · rintro ⟨hsame, hnot⟩
    refine ⟨⟨_, hparse, hasked⟩, hholder.symm, by rw [hattestation], hnetwork.mp hsame,
      hfresh _ ?_, hreported.mp hnot⟩
    rw [hreads]
    simp

/-- For a fresh result, the two paths sign the same requests as the same bytes
exactly when, for a request that passes what both ask, the record's network key
is the request's and no acceptance is reported as given. -/
theorem paths_agree_iff (P : Primitives) (issued : List IssuedState) (keypair : TransportKeypair)
    (c : Comparison H) (hfresh : c.Fresh) :
    (∀ signed, c.SignsWithReader P issued keypair signed ↔
      c.SignsWithResult P issued keypair signed) ↔
    ∀ sign, c.Passes P sign → c.SameNetworkKey sign ∧ c.NotReportedGiven P sign := by
  constructor
  · rintro hagree sign ⟨⟨prepared, hprepare, rfl, hchain⟩, st, hcheck⟩
    have hsigned := @signSerializedRequest_eq P keypair _ (prepareSign_ok hprepare).limits.whole
    have hreader : c.SignsWithReader P issued keypair _ :=
      signsWithReader_iff.mpr ⟨prepared, st, hprepare, hchain, hcheck, hsigned⟩
    obtain ⟨prepared', st', hprepare', -, hcheck', hreusable, -⟩ :=
      signsWithResult_iff.mp ((hagree _).mp hreader)
    obtain rfl := Except.ok.inj (hprepare.symm.trans hprepare')
    exact (reusable_iff hcheck' hfresh).mp hreusable
  · intro hcondition signed
    rw [signsWithReader_iff, signsWithResult_iff]
    constructor
    · rintro ⟨prepared, st, hprepare, hchain, hcheck, hsigned⟩
      have hsame := hcondition prepared.sign ⟨⟨prepared, hprepare, rfl, hchain⟩, st, hcheck⟩
      exact ⟨prepared, st, hprepare, hchain, hcheck, (reusable_iff hcheck hfresh).mpr hsame,
        hsigned⟩
    · rintro ⟨prepared, st, hprepare, hchain, hcheck, -, hsigned⟩
      exact ⟨prepared, st, hprepare, hchain, hcheck, hsigned⟩

/-! ## A request that names another network key than the record -/

/-- What the check reads after the user's key, when the sample reader answers. -/
def sampleReads : List (Event (ownershipInterface Unit)) :=
  (((assertDWalletUsable samplePrimitives sampleReader
    (versionedDWalletDataAttestationBcs.encode sampleAttestation) none none).run.transcript
      (sampleAnswers false) 0).map fun r => r.1.tail).getD []

/-- The sample request, with the network key it names. -/
def sampleComparison (networkPubkey : Bytes) : Comparison Unit where
  signedData := { sampleSignedData with
    request := .sign { sampleSign with
      dwalletAttestation := { sampleSign.dwalletAttestation with networkPubkey } } }
  reader := sampleReader
  userKey := List.replicate 32 4
  reads := sampleReads
  clock := 0

theorem sampleComparison_check (networkPubkey : Bytes) : ∃ st,
    Gives (assertDWalletUsable samplePrimitives sampleReader
      (versionedDWalletDataAttestationBcs.encode sampleAttestation) none none)
      (sampleComparison networkPubkey).checkEvents st := by
  have hrun : ((assertDWalletUsable samplePrimitives sampleReader
      (versionedDWalletDataAttestationBcs.encode sampleAttestation) none none).run.transcript
        (sampleAnswers false) 0).any
        (fun r => match r.2 with | .ok st => st.holder = List.replicate 32 4 | .error _ => false) =
          true := by
    decide +kernel
  obtain ⟨⟨tr, result⟩, hsome, hholder⟩ := (Option.any_eq_true _ _).mp hrun
  have hreturns := Prog.returns_of_transcript hsome
  cases result with
  | error e => cases hholder
  | ok st =>
    have hkey : st.holder = List.replicate 32 4 := by simpa using hholder
    obtain ⟨_, _, _, htr, -⟩ := assertDWalletUsable_gives hreturns
    refine ⟨st, ?_⟩
    have hevents : (sampleComparison networkPubkey).checkEvents = tr := by
      simp only [sampleComparison, Comparison.checkEvents, sampleReads, hsome, Option.map_some,
        Option.getD_some]
      rw [htr, hkey, List.tail_cons]
    rw [hevents]
    exact hreturns

theorem sampleReads_now {now : ℤ}
    (h : (⟨.now, now⟩ : Event (ownershipInterface Unit)) ∈ sampleReads) : now = 0 := by
  unfold sampleReads at h
  cases hsome : ((assertDWalletUsable samplePrimitives sampleReader
      (versionedDWalletDataAttestationBcs.encode sampleAttestation) none none).run.transcript
        (sampleAnswers false) 0) with
  | none =>
    rw [hsome] at h
    cases h
  | some r =>
    rw [hsome] at h
    obtain ⟨_, hans⟩ := Prog.mem_transcript hsome (List.mem_of_mem_tail h)
    exact hans

theorem sampleComparison_fresh (networkPubkey : Bytes) :
    (sampleComparison networkPubkey).Fresh := by
  intro now hmem
  simp only [sampleComparison] at hmem ⊢
  rw [sampleReads_now hmem]
  decide

theorem sampleComparison_prepares (networkPubkey : Bytes)
    (h : networkPubkey = List.replicate 32 7 ∨ networkPubkey = List.replicate 32 8) :
    ∃ prepared, prepareSign samplePrimitives (sampleComparison networkPubkey).signedData =
        .ok prepared ∧ prepared.requestChain = sampleReader.chain ∧
      prepared.sign.dwalletAttestation =
        { sampleSign.dwalletAttestation with networkPubkey } := by
  have hok : (prepareSign samplePrimitives (sampleComparison networkPubkey).signedData).isOk := by
    rcases h with rfl | rfl <;> decide +kernel
  cases hprepare : prepareSign samplePrimitives (sampleComparison networkPubkey).signedData with
  | error e =>
    rw [hprepare] at hok
    cases hok
  | ok prepared =>
    have hprepared := prepareSign_ok hprepare
    refine ⟨prepared, rfl, hprepared.chain, ?_⟩
    rcases hprepared.kind with hkind | hkind
    · rw [← DWalletRequest.sign.inj hkind]
    · cases hkind

theorem paths_disagree : (sampleComparison (List.replicate 32 8)).Fresh ∧
    ¬∀ signed, (sampleComparison (List.replicate 32 8)).SignsWithReader samplePrimitives []
      sampleKeypair signed ↔
        (sampleComparison (List.replicate 32 8)).SignsWithResult samplePrimitives []
          sampleKeypair signed := by
  refine ⟨sampleComparison_fresh _, fun hagree => ?_⟩
  obtain ⟨prepared, hprepare, hchain, hattestation⟩ := sampleComparison_prepares _ (.inr rfl)
  obtain ⟨st, hcheck⟩ := sampleComparison_check (List.replicate 32 8)
  have hdata : prepared.sign.dwalletAttestation.attestationData =
      versionedDWalletDataAttestationBcs.encode sampleAttestation := by
    rw [hattestation]
    rfl
  have hsigned := @signSerializedRequest_eq samplePrimitives sampleKeypair _
    (prepareSign_ok hprepare).limits.whole
  rw [← hdata] at hcheck
  have hreader : Comparison.SignsWithReader samplePrimitives [] sampleKeypair
      (sampleComparison (List.replicate 32 8)) _ :=
    signsWithReader_iff.mpr ⟨prepared, st, hprepare, hchain, hcheck, hsigned⟩
  obtain ⟨prepared', st', hprepare', -, hcheck', hreusable, -⟩ :=
    signsWithResult_iff.mp ((hagree _).mp hreader)
  obtain rfl := Except.ok.inj (hprepare.symm.trans hprepare')
  -- the check took the record's key, which is the one trusted key
  obtain ⟨record, dwallet, hshown⟩ := assertDWalletUsable_shown hcheck'
  have hkey := hreusable.networkKey
  rw [hshown.attestation, hattestation] at hkey
  have htrusted := hshown.networkPublicKey
  rw [show record.networkPublicKey = List.replicate 32 8 from hkey] at htrusted
  revert htrusted
  decide

theorem paths_agree_iff_sample :
    (∀ signed, (sampleComparison (List.replicate 32 7)).SignsWithReader samplePrimitives []
      sampleKeypair signed ↔
        (sampleComparison (List.replicate 32 7)).SignsWithResult samplePrimitives []
          sampleKeypair signed) ↔
    ∀ sign, (sampleComparison (List.replicate 32 7)).Passes samplePrimitives sign →
      (sampleComparison (List.replicate 32 7)).SameNetworkKey sign ∧
        (sampleComparison (List.replicate 32 7)).NotReportedGiven samplePrimitives sign :=
  paths_agree_iff samplePrimitives [] sampleKeypair _ (sampleComparison_fresh _)

end Ika
