import IkaSdk.Core.Grpc.SignRequest
import IkaSdk.Core.Grpc.UsableSoundness

/-! What a signed `Sign` request shows: which bytes were signed, and which check
of the dWallet's ownership stands behind the signature, on the path that runs
the check and on the path that reuses a result. -/

namespace Ika

open Wire Interaction Eff

variable {P : Primitives} {H : Type} {tr : List (Event (ownershipInterface H))}
  {reader : DWalletShareReader} {issued issued' : List IssuedState} {keypair : TransportKeypair}

/-! ## The request -/

/-- What the part of a sign before the ownership value is read shows. -/
structure Prepared (P : Primitives) (signedData : SignedRequestData) (prepared : PreparedSign) :
    Prop where
  bytes : signedRequestDataBcs.serialize signedData = .ok prepared.signedRequestData
  limits : WithinLimits signedData prepared.signedRequestData
  kind : signedData.request = .sign prepared.sign ∨
    signedData.request = .importedKeySign prepared.sign
  metadata : requireMessageMetadataOfScheme P prepared.sign.signatureScheme
    prepared.sign.messageMetadata = .ok ()
  chain : prepared.requestChain = signedData.chainId.chain

theorem signOf_ok {request : DWalletRequest} {sign : SignRequest} (h : signOf request = .ok sign) :
    request = .sign sign ∨ request = .importedKeySign sign := by
  cases request with
  | sign s =>
    cases h
    exact .inl rfl
  | importedKeySign s =>
    cases h
    exact .inr rfl
  | _ => cases h

theorem prepareSign_ok {signedData : SignedRequestData} {prepared : PreparedSign}
    (h : prepareSign P signedData = .ok prepared) : Prepared P signedData prepared := by
  unfold prepareSign at h
  obtain ⟨_, hfields, h⟩ := bind_ok h
  obtain ⟨bytes, hbytes, h⟩ := bind_ok h
  obtain ⟨_, hwhole, h⟩ := bind_ok h
  obtain ⟨decoded, hdecoded, h⟩ := bind_ok h
  obtain ⟨sign, hsign, h⟩ := bind_ok h
  obtain ⟨_, hmetadata, h⟩ := bind_ok h
  cases h
  have hserialized := fromPackage_ok hbytes
  have hsame : decoded = signedData := by
    have hparsed := P.parse_serialize hserialized
    rw [fromPackage_ok hdecoded] at hparsed
    exact Except.ok.inj hparsed
  subst hsame
  exact ⟨hserialized, ⟨assertRequestFieldsWithinLimits_iff.mp hfields, ensure_ok hwhole⟩,
    signOf_ok hsign, hmetadata, rfl⟩

/-- The bytes and the signature over them that the transport key makes. -/
theorem signSerializedRequest_eq {bytes : Bytes} (h : bytes.length ≤ signedRequestDataBytes) :
    signSerializedRequest P keypair bytes = .ok {
      userSignature := userSignatureBcs.encode (.ed25519
        (P.ed25519Sign (requestSigningMessage bytes) keypair.secretKey) keypair.publicKey)
      signedRequestData := bytes } := by
  unfold signSerializedRequest assertSignedRequestDataWithinLimit
  rw [ensure_of h]
  rfl

theorem requireRequestChain_some_iff {chain requestChain : Chain} :
    requireRequestChain (some chain) requestChain = .ok () ↔ chain = requestChain := by
  unfold requireRequestChain
  exact ⟨fun h => ensure_ok h, fun h => ensure_of h⟩

/-! ## The two paths -/

theorem requireUsableState_iff {verified : IssuedState} {attestation : DWalletAttestation}
    {data networkKey userKey : Bytes} :
    requireUsableState verified attestation data networkKey userKey = .ok () ↔
      askedOf attestation =
        ⟨verified.curve, verified.publicKey, verified.importedSessionIdentifier⟩ ∧
      verified.holder = userKey ∧ verified.attestation.attestationData = data ∧
      verified.attestation.networkPubkey = networkKey := by
  constructor
  · intro h
    obtain ⟨_, hdwallet, h⟩ := bind_ok h
    obtain ⟨_, hholder, h⟩ := bind_ok h
    obtain ⟨_, hdata, h⟩ := bind_ok h
    obtain ⟨hcurve, hkey, hsession⟩ := ensure_ok hdwallet
    have hasked : askedOf attestation = ⟨verified.curve, verified.publicKey,
        verified.importedSessionIdentifier⟩ := by rw [hcurve, hkey, hsession]
    exact ⟨hasked, ensure_ok hholder, ensure_ok hdata, ensure_ok h⟩
  · rintro ⟨hasked, hholder, hdata, hkey⟩
    unfold requireUsableState
    rw [hasked]
    simp [ensure, hholder, hdata, hkey]

theorem decodeDWalletAttestation_iff {data : Bytes} {attestation : DWalletAttestation} :
    decodeDWalletAttestation P data = .ok attestation ↔
      P.parse versionedDWalletDataAttestationBcs data = .ok attestation := by
  refine ⟨decodeDWalletAttestation_ok, fun h => ?_⟩
  unfold decodeDWalletAttestation
  rw [h]

/-- What the path that reuses a result asks of the result and of the clock. -/
structure Reusable (P : Primitives) (verified : IssuedState)
    (requested : NetworkSignedAttestation) (userKey : Bytes) (now : ℤ) : Prop where
  names : ∃ attestation,
    P.parse versionedDWalletDataAttestationBcs requested.attestationData = .ok attestation ∧
    askedOf attestation =
      ⟨verified.curve, verified.publicKey, verified.importedSessionIdentifier⟩
  holder : verified.holder = userKey
  data : verified.attestation.attestationData = requested.attestationData
  networkKey : verified.attestation.networkPubkey = requested.networkPubkey
  age : now - verified.verifiedAt ≤ dwalletUsableMaxAgeMs
  notWaiting : verified.waiting = false

theorem requireDWalletUsable_result_iff {readers : Option DWalletShareReader}
    {usable object : UsableObject} {requested : NetworkSignedAttestation} :
    Gives (requireDWalletUsable P issued ⟨readers, some usable⟩ requested) tr
        (object, issued') ↔
      ∃ userKey verified now, tr = [⟨.getSigningPublicKeyBytes, .ok userKey⟩, ⟨.now, now⟩] ∧
        issuedGet issued usable = some verified ∧ Reusable P verified requested userKey now ∧
        object = usable ∧ issued' = issued := by
  constructor
  · intro h
    obtain ⟨tr₁, tr₂, userKey, rfl, hkey, hchecks⟩ := gives_bind_iff.mp h
    obtain rfl := gives_getSigningPublicKeyBytes_iff.mp hkey
    obtain ⟨attestation, hdecode, hchecks⟩ := gives_lift_bind_iff.mp hchecks
    obtain ⟨tr₃, tr₄, _, rfl, hfor, hwaiting⟩ := gives_bind_iff.mp hchecks
    obtain ⟨_, hnot, hlast⟩ := gives_lift_bind_iff.mp hwaiting
    obtain ⟨rfl, heq⟩ := gives_pure_iff.mp hlast
    unfold requireUsableFor at hfor
    cases hget : issuedGet issued usable with
    | none =>
      rw [hget] at hfor
      exact (gives_throw_iff.mp hfor).elim
    | some verified =>
      rw [hget] at hfor
      obtain ⟨_, hstate, hage⟩ := gives_lift_bind_iff.mp hfor
      obtain ⟨tr₅, tr₆, now, rfl, hnow, hend⟩ := gives_bind_iff.mp hage
      obtain rfl := gives_liftOp_iff.mp hnow
      obtain ⟨rfl, hyoung⟩ := gives_lift_iff.mp hend
      obtain ⟨hasked, hholder, hdata, hnetwork⟩ := requireUsableState_iff.mp hstate
      have hready : verified.waiting = false := by
        have hne := ensure_ok hnot
        rw [hget] at hne
        simpa using hne
      cases heq
      exact ⟨userKey, verified, now, rfl, rfl, ⟨⟨attestation, decodeDWalletAttestation_ok hdecode,
        hasked⟩, hholder, hdata, hnetwork, ensure_ok hyoung, hready⟩, rfl, rfl⟩
  · rintro ⟨userKey, verified, now, rfl, hget, hreusable, rfl, rfl⟩
    obtain ⟨attestation, hparse, hasked⟩ := hreusable.names
    have hstate := requireUsableState_iff.mpr
      ⟨hasked, hreusable.holder, hreusable.data, hreusable.networkKey⟩
    refine gives_bind_iff.mpr ⟨[⟨.getSigningPublicKeyBytes, .ok userKey⟩], [⟨.now, now⟩], userKey,
      rfl, gives_getSigningPublicKeyBytes_iff.mpr rfl, ?_⟩
    refine gives_lift_bind_iff.mpr ⟨attestation, decodeDWalletAttestation_iff.mpr hparse, ?_⟩
    refine gives_bind_iff.mpr ⟨[⟨.now, now⟩], [], (), rfl, ?_, ?_⟩
    · unfold requireUsableFor
      rw [hget]
      refine gives_lift_bind_iff.mpr ⟨(), hstate, ?_⟩
      exact gives_bind_iff.mpr ⟨[⟨.now, now⟩], [], now, rfl, gives_liftOp_iff.mpr rfl,
        gives_lift_iff.mpr ⟨rfl, ensure_of hreusable.age⟩⟩
    · refine gives_lift_bind_iff.mpr ⟨(), ensure_of ?_, gives_pure_iff.mpr ⟨rfl, rfl⟩⟩
      simp [hget, hreusable.notWaiting]

theorem requireDWalletUsable_reader_iff {object : UsableObject}
    {requested : NetworkSignedAttestation} :
    Gives (requireDWalletUsable P issued ⟨some reader, none⟩ requested) tr (object, issued') ↔
      ∃ userKey check st, tr = ⟨.getSigningPublicKeyBytes, .ok userKey⟩ :: check ∧
        Gives (assertDWalletUsable P reader requested.attestationData none none) check st ∧
        object = .issued issued.length ∧ issued' = issued ++ [st] := by
  constructor
  · intro h
    obtain ⟨tr₁, tr₂, userKey, rfl, hkey, hcheck⟩ := gives_bind_iff.mp h
    obtain rfl := gives_getSigningPublicKeyBytes_iff.mp hkey
    obtain ⟨tr₃, tr₄, st, rfl, hst, hlast⟩ := gives_bind_iff.mp hcheck
    obtain ⟨rfl, heq⟩ := gives_pure_iff.mp hlast
    cases heq
    exact ⟨userKey, tr₃, st, by simp, hst, rfl, rfl⟩
  · rintro ⟨userKey, check, st, rfl, hst, rfl, rfl⟩
    refine gives_bind_iff.mpr ⟨[⟨.getSigningPublicKeyBytes, .ok userKey⟩], check, userKey, rfl,
      gives_getSigningPublicKeyBytes_iff.mpr rfl, ?_⟩
    exact gives_bind_iff.mpr ⟨check, [], st, (List.append_nil _).symm, hst,
      gives_pure_iff.mpr ⟨rfl, rfl⟩⟩

theorem requireDWalletUsable_neither {requested : NetworkSignedAttestation}
    {r : UsableObject × List IssuedState}
    (h : Gives (requireDWalletUsable P issued ⟨none, none⟩ requested) tr r) : False := by
  obtain ⟨tr₁, tr₂, userKey, rfl, -, hthrow⟩ := gives_bind_iff.mp h
  exact gives_throw_iff.mp hthrow

/-- A sign is a prepared request, an ownership value, and then the ownership
check, whose result was made on the request's chain. -/
theorem signDWalletSignRequest_gives_iff {signed : SignedRequest} :
    Gives (signDWalletSignRequest P issued keypair) tr (signed, issued') ↔
      ∃ signedData ownership prepared rest object recorded,
        tr = ⟨.signedData, signedData⟩ :: ⟨.ownership, ownership⟩ :: rest ∧
        prepareSign P signedData = .ok prepared ∧
        requireRequestChain (checkedChain issued ownership) prepared.requestChain = .ok () ∧
        Gives (requireDWalletUsable P issued ownership prepared.sign.dwalletAttestation) rest
          (object, issued') ∧
        issuedGet issued' object = some recorded ∧ recorded.chain = prepared.requestChain ∧
        signSerializedRequest P keypair prepared.signedRequestData = .ok signed := by
  constructor
  · intro h
    obtain ⟨tr₁, tr₂, signedData, rfl, hdata, hprepare⟩ := gives_bind_iff.mp h
    obtain rfl := gives_liftOp_iff.mp hdata
    obtain ⟨prepared, hprepared, hownership⟩ := gives_lift_bind_iff.mp hprepare
    obtain ⟨tr₃, tr₄, ownership, rfl, hop, hchain⟩ := gives_bind_iff.mp hownership
    obtain rfl := gives_liftOp_iff.mp hop
    obtain ⟨_, hchecked, hcheck⟩ := gives_lift_bind_iff.mp hchain
    obtain ⟨tr₅, tr₆, ⟨object, after⟩, rfl, hresult, hrecorded⟩ := gives_bind_iff.mp hcheck
    cases hget : issuedGet after object with
    | none =>
      simp only [hget] at hrecorded
      exact (gives_throw_iff.mp hrecorded).elim
    | some recorded =>
      simp only [hget] at hrecorded
      obtain ⟨_, hsame, hsign⟩ := gives_lift_bind_iff.mp hrecorded
      obtain ⟨_, hsigned, hlast⟩ := gives_lift_bind_iff.mp hsign
      obtain ⟨rfl, heq⟩ := gives_pure_iff.mp hlast
      cases heq
      exact ⟨signedData, ownership, prepared, tr₅, object, recorded, by simp, hprepared, hchecked,
        hresult, hget, requireRequestChain_some_iff.mp hsame, hsigned⟩
  · rintro ⟨signedData, ownership, prepared, rest, object, recorded, rfl, hprepared, hchecked,
      hresult, hget, hsame, hsigned⟩
    refine gives_bind_iff.mpr ⟨[⟨.signedData, signedData⟩], ⟨.ownership, ownership⟩ :: rest,
      signedData, rfl, gives_liftOp_iff.mpr rfl, ?_⟩
    refine gives_lift_bind_iff.mpr ⟨prepared, hprepared, ?_⟩
    refine gives_bind_iff.mpr ⟨[⟨.ownership, ownership⟩], rest, ownership, rfl,
      gives_liftOp_iff.mpr rfl, ?_⟩
    refine gives_lift_bind_iff.mpr ⟨(), hchecked, ?_⟩
    refine gives_bind_iff.mpr ⟨rest, [], (object, issued'), (List.append_nil _).symm, hresult, ?_⟩
    simp only [hget]
    refine gives_lift_bind_iff.mpr ⟨(), requireRequestChain_some_iff.mpr hsame, ?_⟩
    exact gives_lift_bind_iff.mpr ⟨signed, hsigned, gives_pure_iff.mpr ⟨rfl, rfl⟩⟩

/-! ## What has been issued -/

/-- A check of the attestation `data` made `st`, and its reads show the result. -/
def CheckRan (P : Primitives) (st : IssuedState) (data : Bytes) : Prop :=
  ∃ (H : Type) (reader : DWalletShareReader) (classicShareId : Option String)
    (acceptanceSignature : Option Bytes) (tr : List (Event (ownershipInterface H)))
    (record : CheckedDWalletRecord H) (dwallet : VerifiedDWalletAttestation),
    Gives (assertDWalletUsable P reader data classicShareId acceptanceSignature) tr st ∧
      CheckShown P reader data classicShareId acceptanceSignature tr st record dwallet

theorem checkRan_of_gives {data : Bytes} {classic : Option String} {given : Option Bytes}
    {st : IssuedState} (h : Gives (assertDWalletUsable P reader data classic given) tr st) :
    CheckRan P st data := by
  obtain ⟨record, dwallet, hshown⟩ := assertDWalletUsable_shown h
  exact ⟨H, reader, classic, given, tr, record, dwallet, h, hshown⟩

theorem CheckRan.attestationData {st : IssuedState} {data : Bytes} (h : CheckRan P st data) :
    st.attestation.attestationData = data := by
  obtain ⟨_, _, _, _, _, _, _, -, hshown⟩ := h
  rw [hshown.attestation]

/-- The lists of states that runs of the check issue, one after the other. -/
inductive Issued (P : Primitives) : List IssuedState → Prop
  | start : Issued P []
  | check {H : Type} {issued : List IssuedState} {reader : DWalletShareReader} {data : Bytes}
      {classic : Option String} {given : Option Bytes}
      {tr : List (Event (ownershipInterface H))} {st : IssuedState} :
      Issued P issued → Gives (assertDWalletUsable P reader data classic given) tr st →
        Issued P (issued ++ [st])

theorem Issued.checkRan (h : Issued P issued) {st : IssuedState} (hst : st ∈ issued) :
    CheckRan P st st.attestation.attestationData := by
  induction h with
  | start => cases hst
  | check _ hgives ih =>
    rcases List.mem_append.mp hst with hst | hst
    · exact ih hst
    · obtain rfl := List.mem_singleton.mp hst
      have hran := checkRan_of_gives hgives
      rwa [hran.attestationData]

theorem issuedGet_mem {object : UsableObject} {st : IssuedState}
    (h : issuedGet issued object = some st) :
    ∃ id, object = .issued id ∧ issued[id]? = some st := by
  cases object with
  | other => cases h
  | issued id => exact ⟨id, rfl, h⟩

theorem issuedGet_last {st : IssuedState} :
    issuedGet (issued ++ [st]) (.issued issued.length) = some st := by
  simp [issuedGet]

/-! ## Safety -/

/-- The reads of a share are none of the caller's values, nor of the dWallet or the clock. -/
theorem ShareShown.ops {dwallet : ChainDWallet H} {userKey : Bytes} {classic : Option String}
    {given : Option Bytes} {share : UsableShare} {migrated waiting : Bool}
    (h : ShareShown P reader dwallet userKey classic given tr share migrated waiting)
    {e : Event (ownershipInterface H)} (he : e ∈ tr) :
    (∃ record, e.op = .readPublicShare record) ∨
      (∃ record holder given, e.op = .readEncryptedShare record holder given) ∨
      ∃ record key classic, e.op = .migratedShare record key classic := by
  cases h with
  | migrated _ hattached =>
    rcases List.mem_cons.mp he with rfl | he
    · simp
    · rcases List.mem_append.mp he with he | he
      · rw [hattached e he]
        simp
      · rw [List.mem_singleton.mp he]
        simp
  | publicShare =>
    rw [List.mem_singleton.mp he]
    simp
  | _ =>
    rcases List.mem_pair.mp he with rfl | rfl
    · simp
    · simp

/-- The check never reads the caller's request or ownership value. -/
theorem assertDWalletUsable_ops {data : Bytes} {classic : Option String} {given : Option Bytes}
    {st : IssuedState} (h : Gives (assertDWalletUsable P reader data classic given) tr st)
    {e : Event (ownershipInterface H)} (he : e ∈ tr) : e.op ≠ .signedData ∧ e.op ≠ .ownership := by
  obtain ⟨record, dwallet, shareTr, rfl, -, -, -, -, hshare, -, -⟩ := assertDWalletUsable_gives h
  rcases List.mem_cons.mp he with rfl | he
  · simp
  rcases List.mem_cons.mp he with rfl | he
  · simp
  rcases List.mem_append.mp he with he | he
  · obtain ⟨_, hop⟩ | ⟨_, _, _, hop⟩ | ⟨_, _, _, hop⟩ := hshare.ops he <;> simp [hop]
  · rw [List.mem_singleton.mp he]
    simp

/-- A reader reports an acceptance as given only when it was given one. -/
def ReportsGivenOnlyIfGiven (tr : List (Event (ownershipInterface H))) : Prop :=
  ∀ (record : H) (holder : Bytes) (share : CheckedEncryptedShareRecord),
    (⟨.readEncryptedShare record holder none, .ok (some share)⟩ :
      Event (ownershipInterface H)) ∈ tr → share.acceptanceGiven = false

theorem notWaiting_of_reports {data : Bytes} {classic : Option String} {st : IssuedState}
    (h : Gives (assertDWalletUsable P reader data classic none) tr st)
    (hreports : ReportsGivenOnlyIfGiven tr) : st.waiting = false := by
  obtain ⟨record, dwallet, hshown⟩ := assertDWalletUsable_shown h
  by_contra hwaiting
  rw [Bool.not_eq_false] at hwaiting
  obtain ⟨hencrypted, hmigrated, holder, hnamed, -⟩ := hshown.waiting hwaiting
  obtain ⟨given, shareRecord, share, hread, -, hgiven⟩ := hshown.encrypted hencrypted hmigrated
  rw [hnamed] at hgiven
  obtain ⟨rfl, heq⟩ := hgiven
  have hfalse := hreports _ _ _ hread
  rw [← heq, hwaiting] at hfalse
  cases hfalse

/-- The check behind a signature: one that this call ran with the reader, or one
whose result was given, under the clock that was read. -/
inductive CheckBehind (P : Primitives) (issued : List IssuedState) (ownership : DWalletOwnership)
    (data : Bytes) (rest : List (Event (ownershipInterface H))) (st : IssuedState) : Prop
  | reader (reader : DWalletShareReader) (check : List (Event (ownershipInterface H)))
      (given : ownership.usable = none ∧ ownership.reader = some reader)
      (ran : Gives (assertDWalletUsable P reader data none none) check st)
      (within : check <:+ rest)
  | result (id : ℕ) (now : ℤ) (given : ownership.usable = some (.issued id))
      (kept : issued[id]? = some st) (clock : ⟨.now, now⟩ ∈ rest)
      (age : now - st.verifiedAt ≤ dwalletUsableMaxAgeMs)

/-- What stands behind a signed request: the request as it was when it was read,
the ownership value as it was, and the state `st` of a check. -/
structure SafelySigned (P : Primitives) (issued : List IssuedState) (keypair : TransportKeypair)
    (tr : List (Event (ownershipInterface H))) (signed : SignedRequest)
    (issued' : List IssuedState) (signedData : SignedRequestData) (ownership : DWalletOwnership)
    (sign : SignRequest) (rest : List (Event (ownershipInterface H))) (st : IssuedState) :
    Prop where
  reads : tr = ⟨.signedData, signedData⟩ :: ⟨.ownership, ownership⟩ :: rest
  readOnce : ∀ e ∈ rest, e.op ≠ .signedData ∧ e.op ≠ .ownership
  bytes : signedRequestDataBcs.serialize signedData = .ok signed.signedRequestData
  signature : signed.userSignature = userSignatureBcs.encode (.ed25519
    (P.ed25519Sign (requestSigningMessage signed.signedRequestData) keypair.secretKey)
    keypair.publicKey)
  decodes : P.parse signedRequestDataBcs signed.signedRequestData = .ok signedData
  kind : signedData.request = .sign sign ∨ signedData.request = .importedKeySign sign
  limits : WithinLimits signedData signed.signedRequestData
  kept : st ∈ issued'
  ran : CheckRan P st sign.dwalletAttestation.attestationData
  chain : st.chain = signedData.chainId.chain
  userKey : ⟨.getSigningPublicKeyBytes, .ok st.holder⟩ ∈ rest
  notWaiting : st.waiting = false
  behind : CheckBehind P issued ownership sign.dwalletAttestation.attestationData rest st

theorem signDWalletSignRequest_shown {signed : SignedRequest} (hissued : Issued P issued)
    (hreports : ReportsGivenOnlyIfGiven tr)
    (h : Gives (signDWalletSignRequest P issued keypair) tr (signed, issued')) :
    ∃ signedData ownership sign rest st, SafelySigned P issued keypair tr signed issued'
      signedData ownership sign rest st := by
  obtain ⟨signedData, ⟨readers, usable⟩, prepared, rest, object, recorded, rfl, hprepare, hchecked,
    hresult, hget, hchain, hsigned⟩ := signDWalletSignRequest_gives_iff.mp h
  have hprepared := prepareSign_ok hprepare
  rw [signSerializedRequest_eq hprepared.limits.whole] at hsigned
  cases hsigned
  have hdecodes := P.parse_serialize hprepared.bytes
  have hrecorded := hchain.trans hprepared.chain
  cases usable with
  | some usable =>
    obtain ⟨userKey, verified, now, rfl, hverified, hreusable, rfl, rfl⟩ :=
      requireDWalletUsable_result_iff.mp hresult
    obtain rfl : verified = recorded := Option.some.inj (hverified.symm.trans hget)
    obtain ⟨id, rfl, hkept⟩ := issuedGet_mem hget
    have hmem := List.mem_of_getElem? hkept
    have hran := hissued.checkRan hmem
    rw [hreusable.data] at hran
    exact ⟨signedData, _, prepared.sign, _, verified, rfl, by simp, hprepared.bytes, rfl, hdecodes,
      hprepared.kind, hprepared.limits, hmem, hran, hrecorded, by simp [hreusable.holder],
      hreusable.notWaiting, .result id now rfl hkept (by simp) hreusable.age⟩
  | none =>
    cases readers with
    | none => exact (requireDWalletUsable_neither hresult).elim
    | some reader =>
      obtain ⟨userKey, check, st, rfl, hcheck, rfl, rfl⟩ :=
        requireDWalletUsable_reader_iff.mp hresult
      obtain rfl : st = recorded := Option.some.inj (issuedGet_last.symm.trans hget)
      have hkey : ⟨.getSigningPublicKeyBytes, .ok st.holder⟩ ∈ check := by
        obtain ⟨_, _, hshown⟩ := assertDWalletUsable_shown hcheck
        exact hshown.userKey
      have hnot := notWaiting_of_reports hcheck fun record holder share he =>
        hreports record holder share (by simp [he])
      exact ⟨signedData, _, prepared.sign, _, st, rfl, by
        simpa using fun e he => assertDWalletUsable_ops hcheck he, hprepared.bytes, rfl, hdecodes,
        hprepared.kind, hprepared.limits, by simp, checkRan_of_gives hcheck, hrecorded,
        List.mem_cons_of_mem _ hkey, hnot, .reader reader check ⟨rfl, rfl⟩ hcheck
          (List.suffix_cons _ _)⟩

/-- A sign issues at most the result of the check it ran itself. -/
theorem signDWalletSignRequest_issued {signed : SignedRequest} (hissued : Issued P issued)
    (h : Gives (signDWalletSignRequest P issued keypair) tr (signed, issued')) :
    Issued P issued' := by
  obtain ⟨_, ⟨readers, usable⟩, _, rest, _, _, rfl, -, -, hresult, -⟩ :=
    signDWalletSignRequest_gives_iff.mp h
  cases usable with
  | some usable =>
    obtain ⟨_, _, _, -, -, -, -, rfl⟩ := requireDWalletUsable_result_iff.mp hresult
    exact hissued
  | none =>
    cases readers with
    | none => exact (requireDWalletUsable_neither hresult).elim
    | some reader =>
      obtain ⟨_, check, st, -, hcheck, -, rfl⟩ := requireDWalletUsable_reader_iff.mp hresult
      exact .check hissued hcheck

theorem total_requireDWalletUsable {ownership : DWalletOwnership}
    {requested : NetworkSignedAttestation} :
    Prog.Total (requireDWalletUsable (H := H) P issued ownership requested).run := by
  refine total_bind (fun _ => trivial) fun userKey => ?_
  split
  · refine total_lift_bind fun attestation => ?_
    refine total_bind ?_ fun _ => total_lift_bind fun _ => trivial
    unfold requireUsableFor
    split
    · trivial
    · exact total_lift_bind fun _ => total_bind (fun _ => trivial) fun _ => trivial
  · exact total_bind total_assertDWalletUsable fun _ => trivial
  · trivial

theorem total_signDWalletSignRequest :
    Prog.Total (signDWalletSignRequest (H := H) P issued keypair).run := by
  refine total_bind (fun _ => trivial) fun signedData => total_lift_bind fun prepared => ?_
  refine total_bind (fun _ => trivial) fun ownership => total_lift_bind fun _ => ?_
  refine total_bind total_requireDWalletUsable fun result => ?_
  dsimp only
  split
  · trivial
  · exact total_lift_bind fun _ => total_lift_bind fun _ => trivial

/-- From any issued states, a sign of whatever the caller passes ends, and it
throws unless a check stands behind what it signed. -/
theorem signDWalletSignRequest_safe (P : Primitives) (issued : List IssuedState)
    (keypair : TransportKeypair) (hissued : Issued P issued) :
    Prog.Total (signDWalletSignRequest (H := H) P issued keypair).run ∧
      ∀ (tr : List (Event (ownershipInterface H)))
        (result : Except SdkError (SignedRequest × List IssuedState)),
        Prog.Returns (signDWalletSignRequest P issued keypair).run tr result →
        ReportsGivenOnlyIfGiven tr →
        (∃ e, result = .error e) ∨
          ∃ signed issued' signedData ownership sign rest st, result = .ok (signed, issued') ∧
            Issued P issued' ∧ SafelySigned P issued keypair tr signed issued' signedData
              ownership sign rest st := by
  refine ⟨total_signDWalletSignRequest, fun tr result h hreports => ?_⟩
  rcases gives_or_throws h with ⟨⟨signed, issued'⟩, rfl, hgives⟩ | ⟨e, rfl, -⟩
  · obtain ⟨signedData, ownership, sign, rest, st, hsafe⟩ :=
      signDWalletSignRequest_shown hissued hreports hgives
    exact .inr ⟨signed, issued', signedData, ownership, sign, rest, st, rfl,
      signDWalletSignRequest_issued hissued hgives, hsafe⟩
  · exact .inl ⟨e, rfl⟩

def sampleKeypair : TransportKeypair := ⟨List.replicate 32 14, List.replicate 32 15⟩

/-- The sample request is signed with the reader that holds the sample records. -/
theorem signDWalletSignRequest_safe_sample :
    ∃ tr signed issued' signedData ownership sign rest st,
      SafelySigned (H := Unit) samplePrimitives [] sampleKeypair tr signed issued' signedData
        ownership sign rest st := by
  have hrun : ((signDWalletSignRequest samplePrimitives [] sampleKeypair).run.transcript
      (sampleAnswers false) 0).any (fun r => r.2.isOk) = true := by
    decide +kernel
  obtain ⟨⟨tr, result⟩, hsome, hok⟩ := (Option.any_eq_true _ _).mp hrun
  have hreports : ReportsGivenOnlyIfGiven tr := by
    intro record holder share hmem
    obtain ⟨_, hans⟩ := Prog.mem_transcript hsome hmem
    cases hans
    rfl
  rcases (signDWalletSignRequest_safe samplePrimitives [] sampleKeypair .start).2 tr result
    (Prog.returns_of_transcript hsome) hreports with ⟨e, rfl⟩ | ⟨signed, issued', signedData,
      ownership, sign, rest, st, -, -, hsafe⟩
  · cases hok
  · exact ⟨tr, signed, issued', signedData, ownership, sign, rest, st, hsafe⟩

end Ika
