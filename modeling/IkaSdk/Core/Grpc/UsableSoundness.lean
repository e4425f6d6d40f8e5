import IkaSdk.Core.Grpc.ShareOwnership

/-! What a run of the ownership check that returned a result has read, whatever
the reader answered: each lemma takes one part of the check apart, and the last
theorem puts the parts together for `assertDWalletUsable`. -/

namespace Ika

open Wire Interaction Eff

variable {P : Primitives} {H : Type} {tr : List (Event (ownershipInterface H))}
  {reader : DWalletShareReader} {dwallet : ChainDWallet H} {asked : AskedDWallet}
  {userKey : Bytes}

/-! ## The parts of the check -/

theorem gives_getSigningPublicKeyBytes_iff {key : Bytes} :
    Gives (getSigningPublicKeyBytes (H := H)) tr key ↔
      tr = [⟨.getSigningPublicKeyBytes, .ok key⟩] := by
  simp [Gives, getSigningPublicKeyBytes, Prog.perform, Prog.returns_call_iff]

theorem gives_readDWallet_iff {lookup : DWalletLookup} {r : Option (CheckedDWalletRecord H)} :
    Gives (readDWallet lookup) tr r ↔ tr = [⟨.readDWallet lookup, .ok r⟩] := by
  simp [Gives, readDWallet, Prog.perform, Prog.returns_call_iff]

theorem gives_readEncryptedShare_iff {record : H} {holder : Bytes} {given : Option Bytes}
    {r : Option CheckedEncryptedShareRecord} :
    Gives (readEncryptedShare record holder given) tr r ↔
      tr = [⟨.readEncryptedShare record holder given, .ok r⟩] := by
  simp [Gives, readEncryptedShare, Prog.perform, Prog.returns_call_iff]

theorem gives_readPublicShare_iff {record : H} {r : Option AttestationRecord} :
    Gives (readPublicShare record) tr r ↔ tr = [⟨.readPublicShare record, .ok r⟩] := by
  simp [Gives, readPublicShare, Prog.perform, Prog.returns_call_iff]

theorem gives_migratedShare_iff {record : H} {key : Bytes} {classic : Option String}
    {r : Option Unit} :
    Gives (migratedShare record key classic) tr r ↔
      tr = [⟨.migratedShare record key classic, .ok r⟩] := by
  simp [Gives, migratedShare, Prog.perform, Prog.returns_call_iff]

theorem decodeDWalletAttestation_ok {data : Bytes} {attestation : DWalletAttestation}
    (h : decodeDWalletAttestation P data = .ok attestation) :
    P.parse versionedDWalletDataAttestationBcs data = .ok attestation := by
  unfold decodeDWalletAttestation at h
  split at h
  · next decoded hparse =>
    cases h
    exact hparse
  · cases h

theorem requireAttestedKeyOfOutput_ok {attestation : DWalletAttestation}
    {cryptography : UserCryptography} {u : Unit}
    (h : requireAttestedKeyOfOutput attestation cryptography = .ok u) :
    cryptography.publicKeyFromDWalletOutput attestation.curve.number attestation.publicOutput =
      .ok attestation.publicKey := by
  obtain ⟨key, hkey, h⟩ := bind_ok h
  have heq : attestation.publicKey = key := ensure_ok h
  rw [heq]
  exact fromPackage_ok hkey

/-- What one read of the dWallet's record shows. -/
structure HoldsDWallet (P : Primitives) (reader : DWalletShareReader) (asked : AskedDWallet)
    (data : Bytes) (record : CheckedDWalletRecord H) (dwallet : ChainDWallet H) : Prop where
  verified : VerifiedFor P reader.trustedNetworkKeys record.attestation asked dwallet.verified
  data : record.attestation.attestationData = data
  address : dwallet.address = record.address
  networkPublicKey : dwallet.networkPublicKey = record.networkPublicKey
  trusted : record.networkPublicKey ∈ reader.trustedNetworkKeys.publicKeys
  handle : dwallet.handle = record.handle
  migratedShare : dwallet.migratedShare = record.migratedShare

theorem readDWalletHolding_gives {data : Bytes}
    (h : Gives (readDWalletHolding P reader asked data) tr dwallet) :
    ∃ record, tr = [⟨.readDWallet ⟨asked.curve, asked.publicKey,
        asked.importedSessionIdentifier⟩, .ok (some record)⟩] ∧
      HoldsDWallet P reader asked data record dwallet := by
  obtain ⟨tr₁, tr₂, found, rfl, hread, h⟩ := gives_bind_iff.mp h
  cases found with
  | none => exact (gives_throw_iff.mp h).elim
  | some found =>
    obtain ⟨_, hdata, h⟩ := gives_lift_bind_iff.mp h
    obtain ⟨rfl, rfl⟩ := gives_pure_iff.mp h
    obtain ⟨tr₁, tr₂, answer, rfl, hop, hrest⟩ := gives_bind_iff.mp hread
    obtain rfl := gives_readDWallet_iff.mp hop
    cases answer with
    | none => cases (gives_pure_iff.mp hrest).2
    | some record =>
      obtain ⟨verified, hverified, hrest⟩ := gives_lift_bind_iff.mp hrest
      obtain ⟨_, htrusted, hrest⟩ := gives_lift_bind_iff.mp hrest
      obtain ⟨rfl, heq⟩ := gives_pure_iff.mp hrest
      cases heq
      have hverified := verifyDWalletAttestationRecord_ok hverified
      exact ⟨record, rfl, hverified, hverified.data ▸ ensure_ok hdata, rfl, rfl,
        ensure_ok htrusted, rfl, rfl⟩

/-- What one read of the user's own share shows. -/
theorem readOwnShare_gives {given : Option Bytes} {r : Option OwnShare}
    (h : Gives (readOwnShare P reader dwallet userKey given) tr r) :
    ∃ answer, tr = [⟨.readEncryptedShare dwallet.handle userKey given, .ok answer⟩] ∧
      match answer, r with
      | none, none => True
      | some share, some own => ∃ attestation,
          EncryptedShareFor P reader.trustedNetworkKeys share.toAttestationRecord
            dwallet.verified userKey attestation ∧ own = ⟨userKey, share.acceptanceGiven⟩
      | _, _ => False := by
  obtain ⟨tr₁, tr₂, answer, rfl, hop, hrest⟩ := gives_bind_iff.mp h
  obtain rfl := gives_readEncryptedShare_iff.mp hop
  cases answer with
  | none =>
    obtain ⟨rfl, rfl⟩ := gives_pure_iff.mp hrest
    exact ⟨none, rfl, trivial⟩
  | some share =>
    obtain ⟨attestation, hshare, hrest⟩ := gives_lift_bind_iff.mp hrest
    obtain ⟨rfl, rfl⟩ := gives_pure_iff.mp hrest
    have hshare := verifyEncryptedShareAttestationRecord_ok hshare
    exact ⟨some share, rfl, attestation, hshare, by rw [hshare.holder]⟩

theorem hasPublicShare_gives {r : Bool} (h : Gives (hasPublicShare P reader dwallet) tr r) :
    ∃ answer, tr = [⟨.readPublicShare dwallet.handle, .ok answer⟩] ∧
      match answer with
      | none => r = false
      | some share => r = true ∧ ∃ attestation, PublicShareFor P reader.trustedNetworkKeys share
          dwallet.verified attestation := by
  obtain ⟨tr₁, tr₂, answer, rfl, hop, hrest⟩ := gives_bind_iff.mp h
  obtain rfl := gives_readPublicShare_iff.mp hop
  cases answer with
  | none =>
    obtain ⟨rfl, rfl⟩ := gives_pure_iff.mp hrest
    exact ⟨none, rfl, rfl⟩
  | some share =>
    obtain ⟨attestation, hshare, hrest⟩ := gives_lift_bind_iff.mp hrest
    obtain ⟨rfl, rfl⟩ := gives_pure_iff.mp hrest
    exact ⟨some share, rfl, rfl, attestation, verifyPublicShareAttestationRecord_ok hshare⟩

theorem orAnotherHolder_gives {detail : String} {read : OwnershipEff H (Option OwnShare)}
    {r : Option OwnShare} (h : Gives (orAnotherHolder asked userKey detail read) tr r) :
    Gives read tr r := by
  rcases gives_tryCatch_iff.mp h with h | ⟨tr₁, tr₂, e, rfl, -, h⟩
  · exact h
  · split at h <;> exact (gives_throw_iff.mp h).elim

/-- The reads that showed a share, and what the check makes of them: the share,
whether it is migrated and whether it waits. -/
inductive ShareShown (P : Primitives) (reader : DWalletShareReader) (dwallet : ChainDWallet H)
    (userKey : Bytes) (classicShareId : Option String) (acceptanceSignature : Option Bytes) :
    List (Event (ownershipInterface H)) → UsableShare → Bool → Bool → Prop
  | publicShare {record : AttestationRecord} {share : PublicShareAttestation}
      (verified : PublicShareFor P reader.trustedNetworkKeys record dwallet.verified share) :
      ShareShown P reader dwallet userKey classicShareId acceptanceSignature
        [⟨.readPublicShare dwallet.handle, .ok (some record)⟩] .publicShare false false
  | named {holder : ShareHolder} {record : CheckedEncryptedShareRecord}
      {share : EncryptedShareAttestation}
      (named : dwallet.verified.attestation.holder = some holder)
      (verified : EncryptedShareFor P reader.trustedNetworkKeys record.toAttestationRecord
        dwallet.verified userKey share)
      (waits : record.acceptanceGiven → holder.signerPublicKey = userKey) :
      ShareShown P reader dwallet userKey classicShareId acceptanceSignature
        [⟨.readPublicShare dwallet.handle, .ok none⟩,
          ⟨.readEncryptedShare dwallet.handle userKey acceptanceSignature, .ok (some record)⟩]
        .encrypted false record.acceptanceGiven
  | attached {record : CheckedEncryptedShareRecord} {share : EncryptedShareAttestation}
      (unnamed : dwallet.verified.attestation.holder = none)
      (verified : EncryptedShareFor P reader.trustedNetworkKeys record.toAttestationRecord
        dwallet.verified userKey share) :
      ShareShown P reader dwallet userKey classicShareId acceptanceSignature
        [⟨.readPublicShare dwallet.handle, .ok none⟩,
          ⟨.readEncryptedShare dwallet.handle userKey none, .ok (some record)⟩]
        .encrypted false false
  | migrated {attached : List (Event (ownershipInterface H))}
      (unnamed : dwallet.verified.attestation.holder = none)
      (noneAttached : ∀ e ∈ attached,
        e = ⟨.readEncryptedShare dwallet.handle userKey none, .ok none⟩) :
      ShareShown P reader dwallet userKey classicShareId acceptanceSignature
        (⟨.readPublicShare dwallet.handle, .ok none⟩ :: (attached ++
          [⟨.migratedShare dwallet.handle userKey classicShareId, .ok (some ())⟩]))
        .encrypted true false

theorem attachedShareOfMigratedDWallet_gives {r : Bool}
    (h : Gives (attachedShareOfMigratedDWallet P reader dwallet asked userKey) tr r) :
    (r = true → ∃ record share, tr =
        [⟨.readEncryptedShare dwallet.handle userKey none, .ok (some record)⟩] ∧
      EncryptedShareFor P reader.trustedNetworkKeys record.toAttestationRecord dwallet.verified
        userKey share) ∧
    (r = false → ∀ e ∈ tr, e = ⟨.readEncryptedShare dwallet.handle userKey none, .ok none⟩) := by
  unfold attachedShareOfMigratedDWallet at h
  dsimp only at h
  split_ifs at h
  · obtain ⟨tr₁, tr₂, own, rfl, hread, hrest⟩ := gives_bind_iff.mp h
    obtain ⟨answer, rfl, hanswer⟩ := readOwnShare_gives (orAnotherHolder_gives hread)
    cases own with
    | none =>
      obtain ⟨rfl, rfl⟩ := gives_pure_iff.mp hrest
      cases answer with
      | none => simp
      | some record => exact hanswer.elim
    | some own =>
      obtain ⟨_, -, hlast⟩ := gives_lift_bind_iff.mp hrest
      obtain ⟨rfl, rfl⟩ := gives_pure_iff.mp hlast
      cases answer with
      | none => exact hanswer.elim
      | some record =>
        obtain ⟨share, hshare, -⟩ := hanswer
        exact ⟨fun _ => ⟨record, share, rfl, hshare⟩, nofun⟩
  · obtain ⟨rfl, rfl⟩ := gives_pure_iff.mp h
    simp

theorem usabilityWithoutHolder_gives {classic : Option String} {acceptance : Option Bytes}
    {r : UsableShare × Bool} (hnone : dwallet.verified.attestation.holder = none)
    (h : Gives (usabilityWithoutHolder P reader dwallet asked userKey classic) tr r) :
    ShareShown P reader dwallet userKey classic acceptance
      (⟨.readPublicShare dwallet.handle, .ok none⟩ :: tr) r.1 r.2 false := by
  obtain ⟨tr₁, tr₂, attached, rfl, hattached, hrest⟩ := gives_bind_iff.mp h
  obtain ⟨hshown, hnoneAttached⟩ := attachedShareOfMigratedDWallet_gives hattached
  split_ifs at hrest with htrue
  · obtain ⟨record, share, rfl, hshare⟩ := hshown htrue
    obtain ⟨rfl, rfl⟩ := gives_pure_iff.mp hrest
    exact .attached hnone hshare
  · obtain ⟨tr₃, tr₄, migrated, rfl, hmigrated, hlast⟩ := gives_bind_iff.mp hrest
    cases migrated with
    | none => exact (gives_throw_iff.mp hlast).elim
    | some u =>
      obtain ⟨rfl, rfl⟩ := gives_pure_iff.mp hlast
      unfold runMigrationCheck at hmigrated
      split_ifs at hmigrated
      · obtain rfl := gives_migratedShare_iff.mp hmigrated
        rw [List.append_nil]
        exact .migrated hnone (hnoneAttached (Bool.not_eq_true _ ▸ htrue))
      · cases (gives_pure_iff.mp hmigrated).2

theorem usabilityOfEncryptedShare_gives {holder : ShareHolder} {classic : Option String}
    {acceptance : Option Bytes} {r : Bool}
    (hnamed : dwallet.verified.attestation.holder = some holder)
    (h : Gives (usabilityOfEncryptedShare P reader dwallet asked userKey holder.signerPublicKey
      acceptance) tr r) :
    ShareShown P reader dwallet userKey classic acceptance
      (⟨.readPublicShare dwallet.handle, .ok none⟩ :: tr) .encrypted false r := by
  obtain ⟨tr₁, tr₂, own, rfl, hread, hrest⟩ := gives_bind_iff.mp h
  obtain ⟨answer, rfl, hanswer⟩ := readOwnShare_gives (orAnotherHolder_gives hread)
  cases own with
  | none => exact (gives_throw_iff.mp hrest).elim
  | some own =>
    obtain ⟨_, -, hrest⟩ := gives_lift_bind_iff.mp hrest
    obtain ⟨_, hwaits, hrest⟩ := gives_lift_bind_iff.mp hrest
    obtain ⟨rfl, rfl⟩ := gives_pure_iff.mp hrest
    cases answer with
    | none => exact hanswer.elim
    | some record =>
      obtain ⟨share, hshare, rfl⟩ := hanswer
      refine .named hnamed hshare fun hgiven => ?_
      by_contra hanother
      exact ensure_ok hwaits ⟨hgiven, hanother⟩

theorem usabilityOfShare_gives {classic : Option String} {acceptance : Option Bytes}
    {r : UsableShare × Bool × Bool}
    (h : Gives (usabilityOfShare P reader dwallet asked userKey classic acceptance) tr r) :
    ShareShown P reader dwallet userKey classic acceptance tr r.1 r.2.1 r.2.2 := by
  obtain ⟨tr₁, tr₂, isPublic, rfl, hpublic, hrest⟩ := gives_bind_iff.mp h
  obtain ⟨answer, rfl, hanswer⟩ := hasPublicShare_gives hpublic
  cases answer with
  | some record =>
    obtain ⟨rfl, share, hshare⟩ := hanswer
    obtain ⟨rfl, rfl⟩ := gives_pure_iff.mp hrest
    exact .publicShare hshare
  | none =>
    cases hanswer
    simp only [Bool.false_eq_true, if_false] at hrest
    cases hholder : dwallet.verified.attestation.holder with
    | none =>
      rw [hholder] at hrest
      obtain ⟨tr₃, tr₄, found, rfl, hfound, hlast⟩ := gives_bind_iff.mp hrest
      obtain ⟨rfl, rfl⟩ := gives_pure_iff.mp hlast
      rw [List.append_nil]
      exact usabilityWithoutHolder_gives hholder hfound
    | some holder =>
      rw [hholder] at hrest
      obtain ⟨tr₃, tr₄, waiting, rfl, hwaiting, hlast⟩ := gives_bind_iff.mp hrest
      obtain ⟨rfl, rfl⟩ := gives_pure_iff.mp hlast
      rw [List.append_nil]
      exact usabilityOfEncryptedShare_gives hholder hwaiting

variable {classic : Option String} {acceptance : Option Bytes} {share : UsableShare}
  {migrated waiting : Bool}

theorem ShareShown.of_public
    (h : ShareShown P reader dwallet userKey classic acceptance tr share migrated waiting)
    (hpublic : share = .publicShare) : migrated = false ∧ ∃ record attestation,
      ⟨.readPublicShare dwallet.handle, .ok (some record)⟩ ∈ tr ∧
        PublicShareFor P reader.trustedNetworkKeys record dwallet.verified attestation := by
  cases h with
  | publicShare hverified => exact ⟨rfl, _, _, List.mem_singleton_self _, hverified⟩
  | _ => cases hpublic

theorem ShareShown.of_encrypted
    (h : ShareShown P reader dwallet userKey classic acceptance tr share migrated waiting)
    (hencrypted : share = .encrypted) (hnot : migrated = false) :
    ∃ given record attestation,
      ⟨.readEncryptedShare dwallet.handle userKey given, .ok (some record)⟩ ∈ tr ∧
        EncryptedShareFor P reader.trustedNetworkKeys record.toAttestationRecord dwallet.verified
          userKey attestation ∧
        if dwallet.verified.attestation.holder.isSome then
          given = acceptance ∧ waiting = record.acceptanceGiven
        else given = none ∧ waiting = false := by
  cases h with
  | publicShare => cases hencrypted
  | named hnamed hverified => exact ⟨acceptance, _, _, by simp, hverified, by simp [hnamed]⟩
  | attached hnone hverified => exact ⟨none, _, _, by simp, hverified, by simp [hnone]⟩
  | migrated => cases hnot

theorem ShareShown.of_waiting
    (h : ShareShown P reader dwallet userKey classic acceptance tr share migrated waiting)
    (hwaiting : waiting = true) : share = .encrypted ∧ migrated = false ∧
      ∃ holder, dwallet.verified.attestation.holder = some holder ∧
        holder.signerPublicKey = userKey := by
  cases h with
  | named hnamed _ hwaits => exact ⟨rfl, rfl, _, hnamed, hwaits hwaiting⟩
  | _ => cases hwaiting

theorem ShareShown.of_migrated
    (h : ShareShown P reader dwallet userKey classic acceptance tr share migrated waiting)
    (hmigrated : migrated = true) : share = .encrypted ∧
      dwallet.verified.attestation.holder = none ∧
      ⟨.migratedShare dwallet.handle userKey classic, .ok (some ())⟩ ∈ tr := by
  cases h with
  | migrated hnone => exact ⟨rfl, hnone, by simp⟩
  | _ => cases hmigrated

/-! ## The whole check -/

/-- What the events of a run and the signed bytes show about the result `st` for
the attestation `data`, whose record a read answered as `record`. -/
structure CheckShown (P : Primitives) (reader : DWalletShareReader) (data : Bytes)
    (classicShareId : Option String) (acceptanceSignature : Option Bytes)
    (tr : List (Event (ownershipInterface H))) (st : IssuedState)
    (record : CheckedDWalletRecord H) (dwallet : VerifiedDWalletAttestation) : Prop where
  userKey : ⟨.getSigningPublicKeyBytes, .ok st.holder⟩ ∈ tr
  read : ⟨.readDWallet ⟨st.curve, st.publicKey, st.importedSessionIdentifier⟩,
    .ok (some record)⟩ ∈ tr
  chain : st.chain = reader.chain
  stored : record.attestation.attestationData = data
  attestationData : dwallet.attestationData = data
  attestation : st.attestation = ⟨data, dwallet.networkSignature, record.networkPublicKey,
    dwallet.signerNoaPublicKey⟩
  trusted : dwallet.signerNoaPublicKey ∈ reader.trustedNetworkKeys.publicKeys
  verifies : P.ed25519Verify dwallet.networkSignature (attestationSigningMessage .dwallet data)
    dwallet.signerNoaPublicKey = .ok true
  decodes : P.parse versionedDWalletDataAttestationBcs data = .ok dwallet.attestation
  asked : askedOf dwallet.attestation = ⟨st.curve, st.publicKey, st.importedSessionIdentifier⟩
  keyOfOutput : (reader.cryptography.getD P.realCryptography).publicKeyFromDWalletOutput
    dwallet.attestation.curve.number dwallet.attestation.publicOutput =
      .ok dwallet.attestation.publicKey
  publicShare : st.share = .publicShare → st.migrated = false ∧ ∃ shareRecord share,
    ⟨.readPublicShare record.handle, .ok (some shareRecord)⟩ ∈ tr ∧
      PublicShareFor P reader.trustedNetworkKeys shareRecord dwallet share
  encrypted : st.share = .encrypted → st.migrated = false → ∃ given shareRecord share,
    ⟨.readEncryptedShare record.handle st.holder given, .ok (some shareRecord)⟩ ∈ tr ∧
      EncryptedShareFor P reader.trustedNetworkKeys shareRecord.toAttestationRecord dwallet
        st.holder share ∧
      if dwallet.attestation.holder.isSome then
        given = acceptanceSignature ∧ st.waiting = shareRecord.acceptanceGiven
      else given = none ∧ st.waiting = false
  networkPublicKey : record.networkPublicKey ∈ reader.trustedNetworkKeys.publicKeys
  verifiedAt : ⟨.now, st.verifiedAt⟩ ∈ tr
  waiting : st.waiting → st.share = .encrypted ∧ st.migrated = false ∧
    ∃ holder, dwallet.attestation.holder = some holder ∧ holder.signerPublicKey = st.holder
  migrated : st.migrated → st.share = .encrypted ∧ dwallet.attestation.holder = none ∧
    ⟨.migratedShare record.handle st.holder classicShareId, .ok (some ())⟩ ∈ tr

/-- The parts of a run that returned a result, in the order of their reads. -/
theorem assertDWalletUsable_gives {data : Bytes} {classic : Option String}
    {acceptance : Option Bytes} {st : IssuedState}
    (h : Gives (assertDWalletUsable P reader data classic acceptance) tr st) :
    ∃ (record : CheckedDWalletRecord H) (dwallet : ChainDWallet H)
      (shareTr : List (Event (ownershipInterface H))),
      tr = ⟨.getSigningPublicKeyBytes, .ok st.holder⟩ ::
        ⟨.readDWallet ⟨st.curve, st.publicKey, st.importedSessionIdentifier⟩, .ok (some record)⟩ ::
        (shareTr ++ [⟨.now, st.verifiedAt⟩]) ∧
      P.parse versionedDWalletDataAttestationBcs data = .ok dwallet.verified.attestation ∧
      askedOf dwallet.verified.attestation =
        ⟨st.curve, st.publicKey, st.importedSessionIdentifier⟩ ∧
      HoldsDWallet P reader (askedOf dwallet.verified.attestation) data record dwallet ∧
      (reader.cryptography.getD P.realCryptography).publicKeyFromDWalletOutput
        dwallet.verified.attestation.curve.number dwallet.verified.attestation.publicOutput =
          .ok dwallet.verified.attestation.publicKey ∧
      ShareShown P reader dwallet st.holder classic acceptance shareTr st.share st.migrated
        st.waiting ∧
      st.chain = reader.chain ∧
      st.attestation = ⟨data, dwallet.verified.networkSignature, record.networkPublicKey,
        dwallet.verified.signerNoaPublicKey⟩ ∧
      st.address = record.address ∧
      st.publicOutput = dwallet.verified.attestation.publicOutput := by
  obtain ⟨tr₁, tr₂, key, rfl, hkey, hafterKey⟩ := gives_bind_iff.mp h
  obtain rfl := gives_getSigningPublicKeyBytes_iff.mp hkey
  obtain ⟨attestation, hdecode, hdecoded⟩ := gives_lift_bind_iff.mp hafterKey
  dsimp only at hdecoded
  obtain ⟨tr₃, tr₄, dwallet, rfl, hread, hafterRead⟩ := gives_bind_iff.mp hdecoded
  obtain ⟨record, rfl, hholds⟩ := readDWalletHolding_gives hread
  obtain ⟨_, houtput, hchecked⟩ := gives_lift_bind_iff.mp hafterRead
  obtain ⟨tr₅, tr₆, found, rfl, hshare, hafterShare⟩ := gives_bind_iff.mp hchecked
  obtain ⟨tr₇, tr₈, clock, rfl, hnow, hlast⟩ := gives_bind_iff.mp hafterShare
  obtain rfl := gives_liftOp_iff.mp hnow
  obtain ⟨rfl, rfl⟩ := gives_pure_iff.mp hlast
  have hparse := decodeDWalletAttestation_ok hdecode
  -- the record's attestation is the one decoded first, both being read from the same bytes
  have hsame : dwallet.verified.attestation = attestation := by
    have hsigned := hholds.verified.signed.decodes
    rw [hholds.data] at hsigned
    exact Except.ok.inj (hsigned.symm.trans hparse)
  subst hsame
  refine ⟨record, dwallet, tr₅, by simp, hparse, rfl, hholds, requireAttestedKeyOfOutput_ok houtput,
    usabilityOfShare_gives hshare, rfl, ?_, hholds.address, rfl⟩
  rw [hholds.networkPublicKey, hholds.verified.data, hholds.data]

/-- The result shows what was checked, with the record's address and the attested output. -/
theorem assertDWalletUsable_returned {data : Bytes} {classic : Option String}
    {acceptance : Option Bytes} {st : IssuedState}
    (h : Gives (assertDWalletUsable P reader data classic acceptance) tr st) :
    ∃ (record : CheckedDWalletRecord H) (dwallet : VerifiedDWalletAttestation),
      CheckShown P reader data classic acceptance tr st record dwallet ∧
        st.address = record.address ∧ st.publicOutput = dwallet.attestation.publicOutput := by
  obtain ⟨record, dwallet, shareTr, rfl, hparse, hasked, hholds, houtput, hshare, hchain, hatt,
    haddress, hpublicOutput⟩ := assertDWalletUsable_gives h
  have hsigned := hholds.verified.signed
  have hsub : ∀ e ∈ shareTr, e ∈ (⟨.getSigningPublicKeyBytes, .ok st.holder⟩ ::
      ⟨.readDWallet ⟨st.curve, st.publicKey, st.importedSessionIdentifier⟩, .ok (some record)⟩ ::
        (shareTr ++ [⟨.now, st.verifiedAt⟩]) : List (Event (ownershipInterface H))) := by
    intro e he
    simp [he]
  have hdata : dwallet.verified.attestationData = data := hholds.verified.data.trans hholds.data
  refine ⟨record, dwallet.verified, ⟨by simp, by simp, hchain, hholds.data, hdata, hatt, ?_, ?_,
    hparse, hasked, houtput, ?_, ?_, ?_, ?_, ?_, ?_⟩, haddress, hpublicOutput⟩
  · rw [hholds.verified.signer]
    exact hsigned.trusted
  · rw [hholds.verified.signer, hholds.verified.signature, ← hholds.data]
    exact hsigned.verifies
  · intro hpublic
    obtain ⟨hnot, shareRecord, share, hread, hverified⟩ := hshare.of_public hpublic
    exact ⟨hnot, shareRecord, share, hsub _ (hholds.handle ▸ hread), hverified⟩
  · intro henc hnot
    obtain ⟨given, shareRecord, share, hread, hverified, hgiven⟩ := hshare.of_encrypted henc hnot
    exact ⟨given, shareRecord, share, hsub _ (hholds.handle ▸ hread), hverified, hgiven⟩
  · exact hholds.trusted
  · simp
  · exact fun hwaiting => hshare.of_waiting hwaiting
  · intro hmigrated
    obtain ⟨henc, hnone, hread⟩ := hshare.of_migrated hmigrated
    exact ⟨henc, hnone, hsub _ (hholds.handle ▸ hread)⟩

theorem assertDWalletUsable_shown {data : Bytes} {classic : Option String}
    {acceptance : Option Bytes} {st : IssuedState}
    (h : Gives (assertDWalletUsable P reader data classic acceptance) tr st) :
    ∃ (record : CheckedDWalletRecord H) (dwallet : VerifiedDWalletAttestation),
      CheckShown P reader data classic acceptance tr st record dwallet := by
  obtain ⟨record, dwallet, hshown, -⟩ := assertDWalletUsable_returned h
  exact ⟨record, dwallet, hshown⟩

/-! ## The check comes to an end -/

theorem total_readChainDWallet : Prog.Total (readChainDWallet (H := H) P reader asked).run := by
  refine total_bind (fun _ => trivial) fun answer => ?_
  cases answer with
  | none => trivial
  | some record => exact total_lift_bind fun _ => total_lift_bind fun _ => trivial

theorem total_readDWalletHolding {data : Bytes} :
    Prog.Total (readDWalletHolding (H := H) P reader asked data).run := by
  refine total_bind total_readChainDWallet fun found => ?_
  cases found with
  | none => trivial
  | some dwallet => exact total_lift_bind fun _ => trivial

theorem total_readOwnShare {given : Option Bytes} :
    Prog.Total (readOwnShare P reader dwallet userKey given).run := by
  refine total_bind (fun _ => trivial) fun answer => ?_
  cases answer with
  | none => trivial
  | some record => exact total_lift_bind fun _ => trivial

theorem total_hasPublicShare : Prog.Total (hasPublicShare P reader dwallet).run := by
  refine total_bind (fun _ => trivial) fun answer => ?_
  cases answer with
  | none => trivial
  | some record => exact total_lift_bind fun _ => trivial

theorem total_orAnotherHolder {detail : String} {read : OwnershipEff H (Option OwnShare)}
    (h : Prog.Total read.run) : Prog.Total (orAnotherHolder asked userKey detail read).run := by
  refine total_tryCatch h fun e => ?_
  split <;> trivial

theorem total_usabilityWithoutHolder :
    Prog.Total (usabilityWithoutHolder P reader dwallet asked userKey classic).run := by
  refine total_bind ?_ fun attached => ?_
  · unfold attachedShareOfMigratedDWallet
    dsimp only
    split_ifs
    · refine total_bind (total_orAnotherHolder total_readOwnShare) fun own => ?_
      cases own with
      | none => trivial
      | some own => exact total_lift_bind fun _ => trivial
    · trivial
  · split_ifs
    · trivial
    · refine total_bind ?_ fun migrated => ?_
      · unfold runMigrationCheck
        split_ifs
        · exact fun _ => trivial
        · trivial
      · cases migrated <;> trivial

theorem total_usabilityOfEncryptedShare {namedHolder : Bytes} :
    Prog.Total (usabilityOfEncryptedShare P reader dwallet asked userKey namedHolder
      acceptance).run := by
  refine total_bind (total_orAnotherHolder total_readOwnShare) fun own => ?_
  cases own with
  | none => trivial
  | some own => exact total_lift_bind fun _ => total_lift_bind fun _ => trivial

theorem total_usabilityOfShare :
    Prog.Total (usabilityOfShare P reader dwallet asked userKey classic acceptance).run := by
  refine total_bind total_hasPublicShare fun isPublic => ?_
  split_ifs
  · trivial
  · split
    · exact total_bind total_usabilityWithoutHolder fun _ => trivial
    · exact total_bind total_usabilityOfEncryptedShare fun _ => trivial

theorem total_assertDWalletUsable {data : Bytes} :
    Prog.Total (assertDWalletUsable (H := H) P reader data classic acceptance).run := by
  refine total_bind (fun _ => trivial) fun key => total_lift_bind fun attestation => ?_
  refine total_bind total_readDWalletHolding fun dwallet => total_lift_bind fun _ => ?_
  exact total_bind total_usabilityOfShare fun _ => total_bind (fun _ => trivial) fun _ => trivial

/-! ## Soundness -/

/-- Whatever the reader answers, a run of the check ends, and it throws unless
its reads show the result it returns. -/
theorem assertDWalletUsable_sound (P : Primitives) (reader : DWalletShareReader) (data : Bytes)
    (classicShareId : Option String) (acceptanceSignature : Option Bytes) :
    Prog.Total (assertDWalletUsable (H := H) P reader data classicShareId acceptanceSignature).run ∧
      ∀ (tr : List (Event (ownershipInterface H))) (result : Except SdkError IssuedState),
        Prog.Returns (assertDWalletUsable P reader data classicShareId acceptanceSignature).run
          tr result →
        (∃ e, result = .error e) ∨ ∃ st record dwallet, result = .ok st ∧
          CheckShown P reader data classicShareId acceptanceSignature tr st record dwallet := by
  refine ⟨total_assertDWalletUsable, fun tr result h => ?_⟩
  rcases gives_or_throws h with ⟨st, rfl, hgives⟩ | ⟨e, rfl, -⟩
  · obtain ⟨record, dwallet, hshown⟩ := assertDWalletUsable_shown hgives
    exact .inr ⟨st, record, dwallet, rfl, hshown⟩
  · exact .inl ⟨e, rfl⟩

def sampleReader : DWalletShareReader where
  chain := .solana
  trustedNetworkKeys := ⟨[List.replicate 32 7]⟩
  cryptography := none

def sampleAttestation : DWalletAttestation where
  sessionIdentifier := List.replicate 32 1
  intendedChainSender := List.replicate 32 2
  curve := .curve25519
  publicKey := List.replicate 32 3
  publicOutput := List.replicate 32 3
  isImportedKey := false
  signDuringDkgSignature := none
  holder := some ⟨.ed25519, List.replicate 32 4⟩
  encryptionKeyHash := some (List.replicate 32 5)
  encryptedShareHash := some (List.replicate 32 6)
  epoch := 9

def sampleShareAttestation : EncryptedShareAttestation where
  sessionIdentifier := sampleAttestation.sessionIdentifier
  intendedChainSender := sampleAttestation.intendedChainSender
  dwalletPublicKey := sampleAttestation.publicKey
  encryptedShareHash := List.replicate 32 6
  encryptionKeyHash := List.replicate 32 5
  holder := ⟨.ed25519, List.replicate 32 4⟩
  dwalletAttestationDigest := dwalletAttestationDigest samplePrimitives
    (versionedDWalletDataAttestationBcs.encode sampleAttestation)

def sampleRecord (attestationData : Bytes) : AttestationRecord where
  attestationData := attestationData
  attestationVersion := 0
  networkSignature := List.replicate 64 8
  signerNoaPublicKey := List.replicate 32 7

def sampleSign : SignRequest where
  message := [1, 2, 3]
  messageMetadata := []
  signatureScheme := .eddsaSha512
  presignSessionIdentifier := List.replicate 32 12
  messageCentralizedSignature := [4, 5]
  dwalletAttestation := {
    attestationData := versionedDWalletDataAttestationBcs.encode sampleAttestation
    networkSignature := List.replicate 64 8
    networkPubkey := List.replicate 32 7
    signerNoaPublicKey := List.replicate 32 7 }
  signatureVoucher := List.replicate 32 13

def sampleSignedData : SignedRequestData where
  sessionIdentifierPreimage := List.replicate 32 11
  epoch := 9
  chainId := .solana
  network := 1
  intendedChainSender := List.replicate 32 2
  request := .sign sampleSign

/-- A reader that holds the sample records, and says whether the acceptance it
reports was the one given. -/
def sampleAnswers (acceptanceGiven : Bool) (_ : ℕ) : ∀ op : OwnershipOp Unit, OwnershipOp.Ans op
  | .getSigningPublicKeyBytes => .ok (List.replicate 32 4)
  | .now => 0
  | .readDWallet _ => .ok (some {
      handle := ()
      address := List.replicate 32 9
      networkPublicKey := List.replicate 32 7
      attestation := sampleRecord (versionedDWalletDataAttestationBcs.encode sampleAttestation)
      migratedShare := false })
  | .readEncryptedShare .. => .ok (some {
      sampleRecord (versionedEncryptedUserKeyShareAttestationBcs.encode
        sampleShareAttestation) with acceptanceGiven })
  | .readPublicShare _ => .ok none
  | .migratedShare .. => .ok none
  | .signedData => sampleSignedData
  | .ownership => ⟨some sampleReader, none⟩

theorem assertDWalletUsable_sound_waiting : ∃ tr st record dwallet, st.waiting = true ∧
    CheckShown samplePrimitives sampleReader
      (versionedDWalletDataAttestationBcs.encode sampleAttestation) none
      (some (List.replicate 64 10)) (H := Unit) tr st record dwallet := by
  have hrun : ((assertDWalletUsable samplePrimitives sampleReader
      (versionedDWalletDataAttestationBcs.encode sampleAttestation) none
      (some (List.replicate 64 10))).run.transcript (sampleAnswers true) 0).any
        (fun r => match r.2 with | .ok st => st.waiting | .error _ => false) = true := by
    decide +kernel
  obtain ⟨⟨tr, result⟩, hsome, hwaiting⟩ := (Option.any_eq_true _ _).mp hrun
  rcases (assertDWalletUsable_sound samplePrimitives sampleReader _ none _).2 tr result
    (Prog.returns_of_transcript hsome) with ⟨e, rfl⟩ | ⟨st, record, dwallet, rfl, hshown⟩
  · cases hwaiting
  · exact ⟨tr, st, record, dwallet, hwaiting, hshown⟩

end Ika
