import IkaSdk.Core.Grpc.ShareAcceptance
import IkaSdk.Solana.StoredShares

/-! Shares on Solana that wait for their acceptance: what the check of a share's
arrival takes for one, and what the lookup of a re-encryption makes of one. -/

namespace Ika.Solana

open Wire Interaction Eff

variable {P : Primitives} {programId : Bytes} {caller : ∀ op : SolanaOp, op.Ans}
  {state : ChainState} {keys : TrustedNetworkKeys} {handle : SolanaDWalletHandle} {holder : Bytes}

/-! ## Reads never refuse the acceptance -/

theorem refuses_fromPackage {α : Type} {x : Except String α} :
    Refuses (refusesAcceptance · = false) (fromPackage x) := by
  intro e h
  cases x with
  | ok a => cases h
  | error reason =>
    cases h
    rfl

theorem refuses_decodeAttestationProof {envelope : Bytes} :
    Refuses (refusesAcceptance · = false) (decodeAttestationProof P envelope) := by
  unfold decodeAttestationProof
  split
  · exact refuses_error (refusesAcceptance_other (by decide))
  · refine refuses_bind refuses_fromPackage fun _ _ => ?_
    refine refuses_bind (refuses_ensure (by decide)) fun _ _ => ?_
    exact refuses_bind (refuses_ensure rfl) fun _ _ => refuses_ok _

theorem refuses_rebuildFields {kind : AttestationKind} {version : ℕ} {laidOut : Bytes} :
    Refuses (refusesAcceptance · = false) (rebuildFields P kind version laidOut) := by
  unfold rebuildFields
  split
  · refine refuses_map (refuses_bind (refuses_ensure rfl) fun _ _ => ?_)
    split
    · exact refuses_ok _
    · exact refuses_error rfl
  · exact refuses_ok _

theorem refuses_readAttestationAccount {kind : AttestationKind}
    {readers : List (String × FieldReader)} {data : Bytes} :
    Refuses (refusesAcceptance · = false) (readAttestationAccount P kind readers data) := by
  refine refuses_bind refuses_fromPackage fun entry _ => ?_
  split_ifs
  · exact refuses_ok _
  refine refuses_bind refuses_decodeAttestationProof fun proof _ => ?_
  split
  · exact refuses_ok _
  · refine refuses_bind refuses_rebuildFields fun rebuilt _ => ?_
    split <;> exact refuses_ok _

theorem refuses_readEncryptedUserSecretKeyShare {data : Bytes} :
    Refuses (refusesAcceptance · = false) (readEncryptedUserSecretKeyShareUnverified data) := by
  refine refuses_bind refuses_fromPackage fun entry _ => ?_
  split_ifs <;> exact refuses_ok _

theorem refuses_readEncryptionKey {data : Bytes} :
    Refuses (refusesAcceptance · = false) (readEncryptionKeyUnverified data) := by
  refine refuses_bind refuses_fromPackage fun entry _ => ?_
  split_ifs <;> exact refuses_ok _

theorem refusesAt_readDerived {T : Type} {endpoint : CrossCheckEndpoint}
    {derived : Except String DerivedAddress} {kind : String}
    {decode : Bytes → Except SdkError (Option T)}
    (hdecode : ∀ data, Refuses (refusesAcceptance · = false) (decode data)) :
    RefusesAt (stateAnswers caller state) (refusesAcceptance · = false)
      (readDerived programId endpoint derived kind decode) := by
  refine refusesAt_bind (refusesAt_lift refuses_fromPackage) fun derived => ?_
  refine refusesAt_bind (fun e h => by cases h) fun account => ?_
  cases account with
  | none => exact refusesAt_pure _
  | some account =>
    refine refusesAt_bind (refusesAt_lift (refuses_ensure rfl)) fun _ => ?_
    refine refusesAt_bind (refusesAt_lift (hdecode _)) fun decoded => ?_
    cases decoded with
    | none => exact refusesAt_throw rfl
    | some decoded => exact refusesAt_pure _

theorem refusesAt_readEncryptedShareAccounts {lookup : DWalletLookup} :
    RefusesAt (stateAnswers caller state) (refusesAcceptance · = false)
      (readEncryptedShareAccounts P programId lookup holder) := by
  refine refusesAt_bind
    (refusesAt_readDerived fun _ => refuses_readEncryptedUserSecretKeyShare) fun account => ?_
  refine refusesAt_bind
    (refusesAt_readDerived fun _ => refuses_readAttestationAccount) fun attestation => ?_
  cases account with
  | none => exact refusesAt_pure _
  | some account =>
    cases attestation with
    | none => exact refusesAt_pure _
    | some attestation =>
      refine refusesAt_bind (refusesAt_readDerived fun _ => refuses_readEncryptionKey)
        fun entry => ?_
      cases entry.filter fun e => e.signerPublicKey = holder ∧ e.curve = lookup.curve with
      | none => exact refusesAt_throw (by decide)
      | some entry => exact refusesAt_pure _

/-! ## The arrival of a share -/

theorem eval_checkedReadEncryptedShare {given : Option Bytes} {share : EncryptedShareRead}
    (h : eval (stateAnswers caller state)
      (readEncryptedShareAccounts P programId handle.lookup holder) = some (.ok (some share))) :
    eval (stateAnswers caller state)
        (checkedReadEncryptedShare P programId keys handle holder given) =
      some ((verifySolanaEncryptedShareRecord P share.account
        share.attestation.toAttestationRecord keys handle.dwallet handle.address holder
        share.registeredEncryptionKey given).map fun verified =>
          some { share.attestation.toAttestationRecord with
                 acceptanceGiven := verified.acceptanceGiven }) := by
  rw [checkedReadEncryptedShare, eval_bind, h]
  simp only [Option.bind_some, eval_bind, eval_lift]
  cases verifySolanaEncryptedShareRecord P share.account share.attestation.toAttestationRecord
    keys handle.dwallet handle.address holder share.registeredEncryptionKey given <;> rfl

theorem eval_shareIsOnChain {I : Interface} (answer : ∀ op, I.Ans op)
    (read : Eff I SdkError (Option CheckedEncryptedShareRecord)) :
    eval answer (shareIsOnChain read) = (eval answer read).bind fun
      | .ok share => some (.ok share.isSome)
      | .error e => if refusesAcceptance e then some (.ok true) else some (.error e) := by
  rw [shareIsOnChain, eval_tryCatch, eval_bind]
  rcases eval answer read with _ | e | share
  · rfl
  · change eval answer (if refusesAcceptance e then pure true else throw e) = _
    simp only [Option.bind_some]
    split_ifs <;> rfl
  · rfl

/-- A share that is on the chain was served, and nothing stored in it was refused
but the acceptance. -/
theorem shareIsOnChain_true
    (h : eval (stateAnswers caller state) (shareIsOnChain
      (checkedReadEncryptedShare P programId keys handle holder none)) = some (.ok true)) :
    ∃ read share, eval (stateAnswers caller state)
        (readEncryptedShareAccounts P programId handle.lookup holder) = some (.ok (some read)) ∧
      StoredShare P read.account read.attestation.toAttestationRecord keys handle.dwallet
        handle.address holder read.registeredEncryptionKey share ∧
      (read.account.accepted → read.account.acceptanceDigest =
        acceptedDigest P read.attestation.toAttestationRecord handle.dwallet share) := by
  rw [eval_shareIsOnChain] at h
  have hbind : eval (stateAnswers caller state)
      (checkedReadEncryptedShare P programId keys handle holder none) = _ := eval_bind _ _ _
  cases haccounts : eval (stateAnswers caller state)
      (readEncryptedShareAccounts P programId handle.lookup holder) with
  | none =>
    rw [hbind, haccounts] at h
    cases h
  | some accounts =>
    rcases accounts with e | _ | read
    · -- The reads themselves refuse no acceptance, so this error is thrown on.
      have hother := refusesAt_readEncryptedShareAccounts e haccounts
      rw [hbind, haccounts] at h
      simp [hother] at h
    · rw [hbind, haccounts] at h
      cases h
    · rw [eval_checkedReadEncryptedShare haccounts] at h
      cases hverified : verifySolanaEncryptedShareRecord P read.account
          read.attestation.toAttestationRecord keys handle.dwallet handle.address holder
          read.registeredEncryptionKey none with
      | ok verified =>
        rw [verifySolanaEncryptedShareRecord_eq] at hverified
        obtain ⟨share, hstored, hacceptance⟩ := bind_ok hverified
        obtain ⟨r, haccepted, -⟩ := bind_ok hacceptance
        obtain ⟨-, hdigest, -⟩ := requireAcceptance_none_iff.mp haccepted
        exact ⟨read, share, rfl, requireStoredShare_iff.mp hstored, fun _ => hdigest⟩
      | error e =>
        rw [hverified] at h
        cases hwaits : refusesAcceptance e with
        | true =>
          obtain ⟨share, hstored, hdigest⟩ :=
            verifySolanaEncryptedShareRecord_waits hverified hwaits
          exact ⟨read, share, rfl, hstored, hdigest⟩
        | false =>
          simp [Except.map, hwaits] at h

/-- Everything stored in a share's account but its acceptance signature is right. -/
structure RightButAcceptance (P : Primitives) (keys : TrustedNetworkKeys)
    (handle : SolanaDWalletHandle) (holder : Bytes) (read : EncryptedShareRead)
    (share : EncryptedShareAttestation) : Prop where
  stored : StoredShare P read.account read.attestation.toAttestationRecord keys handle.dwallet
    handle.address holder read.registeredEncryptionKey share
  digest : read.account.acceptanceDigest =
    acceptedDigest P read.attestation.toAttestationRecord handle.dwallet share

/-- A share taken to be on the chain is right in everything but its acceptance
signature exactly when it is marked accepted or stores the digest to accept. -/
theorem shareIsOnChain_right_iff
    (h : eval (stateAnswers caller state) (shareIsOnChain
      (checkedReadEncryptedShare P programId keys handle holder none)) = some (.ok true)) :
    ∃ read share, eval (stateAnswers caller state)
        (readEncryptedShareAccounts P programId handle.lookup holder) = some (.ok (some read)) ∧
      verifyEncryptedShareAttestationRecord P read.attestation.toAttestationRecord keys
        handle.dwallet holder = .ok share ∧
      (RightButAcceptance P keys handle holder read share ↔
        read.account.accepted ∨ read.account.acceptanceDigest =
          acceptedDigest P read.attestation.toAttestationRecord handle.dwallet share) := by
  obtain ⟨read, share, hread, hstored, hdigest⟩ := shareIsOnChain_true h
  refine ⟨read, share, hread, hstored.attested, fun hright => .inr hright.digest, ?_⟩
  rintro (haccepted | hright)
  · exact ⟨hstored, hdigest haccepted⟩
  · exact ⟨hstored, hright⟩

/-! ## The reads of a dWallet under other keys -/

/-- The check of a dWallet's two accounts, once they are read. -/
def checkedAccounts (P : Primitives) (keys : TrustedNetworkKeys) (lookup : DWalletLookup)
    (derived : DerivedAddress) (attestation : AttestationAccount) (account : DWalletAccount) :
    Except SdkError (Option (CheckedDWalletRecord SolanaDWalletHandle)) := do
  let dwallet ← verifyDWalletAttestationRecord P attestation.toAttestationRecord keys
    ⟨lookup.curve, lookup.publicKey, lookup.importedSessionIdentifier⟩
  ensure (account.noaPublicKey ∈ keys.publicKeys) (SdkError.attestationRecord .record
    "the dWallet account's network key is not one of the trusted network keys"
    (some "noa_public_key"))
  verifyStoredDWallet ⟨account.curve, account.publicKey, account.isImported,
    account.importedSessionIdentifier⟩ dwallet
  return some { handle := ⟨lookup, dwallet, derived.address⟩, address := derived.address,
                networkPublicKey := account.noaPublicKey,
                attestation := attestation.toAttestationRecord, migratedShare := false }

/-- A dWallet's accounts that are right under some keys are right exactly under
those that hold the attestation's signer and the account's network key. -/
theorem checkedAccounts_under (keys' : TrustedNetworkKeys) {lookup : DWalletLookup}
    {derived : DerivedAddress} {attestation : AttestationAccount} {account : DWalletAccount}
    {record : CheckedDWalletRecord SolanaDWalletHandle}
    (h : checkedAccounts P keys lookup derived attestation account = .ok (some record)) :
    if record.attestation.signerNoaPublicKey ∈ keys'.publicKeys ∧
        record.networkPublicKey ∈ keys'.publicKeys then
      checkedAccounts P keys' lookup derived attestation account = .ok (some record)
    else ∃ e, checkedAccounts P keys' lookup derived attestation account = .error e := by
  obtain ⟨dwallet, hdwallet, h⟩ := bind_ok h
  obtain ⟨_, -, h⟩ := bind_ok h
  obtain ⟨_, hstored, h⟩ := bind_ok h
  cases h
  split_ifs with htrusted
  · have hunder := (verifyDWalletAttestationRecord_under keys' hdwallet).mpr htrusted.1
    unfold checkedAccounts
    rw [hunder, ok_bind, ensure_of htrusted.2, ok_bind, hstored]
    rfl
  · cases houtcome : checkedAccounts P keys' lookup derived attestation account with
    | error e => exact ⟨e, rfl⟩
    | ok r =>
      obtain ⟨dwallet', hdwallet', hrest⟩ := bind_ok houtcome
      obtain ⟨_, hnetworkKey, -⟩ := bind_ok hrest
      have hsigner := (verifyDWalletAttestationRecord_ok hdwallet').signed.trusted
      exact (htrusted ⟨hsigner, ensure_ok hnetworkKey⟩).elim

/-- A dWallet that is read under some keys has two accounts, which the read
under any other keys checks. -/
theorem eval_checkedReadDWallet {lookup : DWalletLookup}
    {record : CheckedDWalletRecord SolanaDWalletHandle}
    (h : eval (stateAnswers caller state) (checkedReadDWallet P programId keys lookup) =
      some (.ok (some record))) :
    ∃ derived attestation account, ∀ keys' : TrustedNetworkKeys,
      eval (stateAnswers caller state) (checkedReadDWallet P programId keys' lookup) =
        some (checkedAccounts P keys' lookup derived attestation account) := by
  obtain ⟨derived, hderived, h⟩ := eval_bind_ok h
  obtain ⟨attestation, hattestation, h⟩ := eval_bind_ok h
  cases attestation with
  | none => cases h
  | some attestation =>
    obtain ⟨dwallet, -, h⟩ := eval_bind_ok h
    obtain ⟨account, haccount, h⟩ := eval_bind_ok h
    cases account with
    | none => cases h
    | some account =>
      refine ⟨derived, attestation, account, fun keys' => ?_⟩
      unfold checkedReadDWallet checkedAccounts
      rw [eval_bind_of_ok hderived, eval_bind_of_ok hattestation]
      dsimp only
      rw [eval_bind, eval_lift]
      cases verifyDWalletAttestationRecord P attestation.toAttestationRecord keys'
          ⟨lookup.curve, lookup.publicKey, lookup.importedSessionIdentifier⟩ with
      | error e => rfl
      | ok dwallet' =>
        rw [Option.bind_some, ok_bind]
        dsimp only
        rw [eval_bind_of_ok haccount]
        dsimp only
        rw [eval_bind, eval_lift, Option.bind_some]
        cases ensure (account.noaPublicKey ∈ keys'.publicKeys) (SdkError.attestationRecord
            .record "the dWallet account's network key is not one of the trusted network keys"
            (some "noa_public_key")) with
        | error e => rfl
        | ok u =>
          rw [ok_bind]
          dsimp only
          rw [eval_bind, eval_lift, Option.bind_some]
          cases verifyStoredDWallet ⟨account.curve, account.publicKey, account.isImported,
            account.importedSessionIdentifier⟩ dwallet' <;> rfl

/-! ## The lookup of a re-encryption -/

/-- The share of a holder on the chain, written by the network under the keys of
its signers, with an acceptance that verifies if it is marked accepted. -/
structure DeliveredShare (P : Primitives) (programId : Bytes) (signers : TrustedNetworkKeys)
    (caller : ∀ op : SolanaOp, op.Ans) (state : ChainState) (lookup : DWalletLookup)
    (holder : Bytes) (record : CheckedDWalletRecord SolanaDWalletHandle)
    (read : EncryptedShareRead) (share : EncryptedShareAttestation) : Prop where
  dwallet : eval (stateAnswers caller state) (checkedReadDWallet P programId signers lookup) =
    some (.ok (some record))
  accounts : eval (stateAnswers caller state)
    (readEncryptedShareAccounts P programId record.handle.lookup holder) = some (.ok (some read))
  stored : StoredShare P read.account read.attestation.toAttestationRecord signers
    record.handle.dwallet record.handle.address holder read.registeredEncryptionKey share
  acceptance : read.account.accepted → read.account.acceptanceDigest =
      acceptedDigest P read.attestation.toAttestationRecord record.handle.dwallet share ∧
    signatureVerifies P read.account.acceptanceSignature read.account.acceptanceDigest
      share.holder.signerPublicKey

/-- The keys hold every key of the network that signed the share, its dWallet's
attestation or the dWallet's account. -/
structure TrustsSigners (keys : TrustedNetworkKeys)
    (record : CheckedDWalletRecord SolanaDWalletHandle) (read : EncryptedShareRead) : Prop where
  dwallet : record.attestation.signerNoaPublicKey ∈ keys.publicKeys
  account : record.networkPublicKey ∈ keys.publicKeys
  share : read.attestation.signerNoaPublicKey ∈ keys.publicKeys

section Lookup

variable {signers : TrustedNetworkKeys} {lookup : DWalletLookup}
  {record : CheckedDWalletRecord SolanaDWalletHandle} {read : EncryptedShareRead}
  {share : EncryptedShareAttestation}

/-- The reader answers an accepted share, and refuses one that waits. -/
theorem DeliveredShare.eval_read
    (h : DeliveredShare P programId keys caller state lookup holder record read share) :
    ∃ outcome, eval (stateAnswers caller state)
        (checkedReadEncryptedShare P programId keys record.handle holder none) = some outcome ∧
      if read.account.accepted then ∃ found, outcome = .ok (some found)
      else ∃ reason, outcome = .error (.attestationRecord .record reason (some "accepted")) := by
  refine ⟨_, eval_checkedReadEncryptedShare h.accounts, ?_⟩
  rw [verifySolanaEncryptedShareRecord_eq, requireStoredShare_iff.mpr h.stored, ok_bind]
  split_ifs with haccepted
  · obtain ⟨hdigest, hsignature⟩ := h.acceptance haccepted
    rw [hdigest] at hsignature
    rw [requireAcceptance_none_iff.mpr ⟨haccepted, hdigest, hsignature, rfl⟩]
    exact ⟨_, rfl⟩
  · have hnot : read.account.accepted = false := by simpa using haccepted
    unfold requireAcceptance requireStoredField ensure
    rw [hnot]
    exact ⟨_, rfl⟩

/-- The reader refuses a share whose signer is not trusted, accepted or not. -/
theorem DeliveredShare.eval_read_untrusted
    (h : DeliveredShare P programId signers caller state lookup holder record read share)
    (hshare : read.attestation.signerNoaPublicKey ∉ keys.publicKeys) :
    ∃ e, eval (stateAnswers caller state)
      (checkedReadEncryptedShare P programId keys record.handle holder none) =
        some (.error e) := by
  rw [eval_checkedReadEncryptedShare h.accounts]
  cases hverified : verifySolanaEncryptedShareRecord P read.account
      read.attestation.toAttestationRecord keys record.handle.dwallet record.handle.address
      holder read.registeredEncryptionKey none with
  | error e => exact ⟨e, rfl⟩
  | ok verified =>
    exact (hshare (verifySolanaEncryptedShareRecord_ok hverified).share.signed.trusted).elim

/-- What the lookup of a re-encryption makes of the read of the new holder's share. -/
theorem eval_findSession_reEncryptShare {H : Type} {pending : PendingRequest} {itemId : Bytes}
    {record : CheckedDWalletRecord H} (hkind : pending.kind = .reEncryptShare lookup holder itemId)
    {answer : ∀ op : RecordOp H, Except SdkError op.Read}
    (hdwallet : answer (.readDWallet lookup) = .ok (some record)) :
    (∀ found, answer (.readEncryptedShare record.handle holder) = .ok (some found) →
      eval (I := recordInterface H) answer (findSession P pending true) =
        some (.ok (.ran "the new holder's share"))) ∧
    ∀ e, answer (.readEncryptedShare record.handle holder) = .error e →
      eval (I := recordInterface H) answer (findSession P pending true) = some (.error e) := by
  have hread : eval (I := recordInterface H) answer (encryptedShareOf true lookup holder) =
      some (((answer (.readEncryptedShare record.handle holder) :
        Except SdkError (Option CheckedEncryptedShareRecord))).map (·.isSome)) := by
    have hrecord : eval (I := recordInterface H) answer (dwalletRecord true lookup) =
        some (.ok (some record)) := by
      unfold dwalletRecord
      rw [eval_bind, ensure_of rfl]
      exact congrArg some hdwallet
    unfold encryptedShareOf
    rw [eval_bind, hrecord, Option.bind_some]
    dsimp only
    rw [eval_bind]
    change Option.bind (some (answer (.readEncryptedShare record.handle holder))) _ = _
    cases (answer (.readEncryptedShare record.handle holder) :
      Except SdkError (Option CheckedEncryptedShareRecord)) <;> rfl
  unfold findSession
  rw [hkind]
  dsimp only
  rw [eval_bind, hread]
  constructor
  · intro found hfound
    rw [hfound]
    rfl
  · intro e he
    rw [he]
    rfl

/-- The lookup of a re-encryption passes on what the read of the dWallet throws. -/
theorem eval_findSession_reEncryptShare_error {H : Type} {pending : PendingRequest}
    {itemId : Bytes} (hkind : pending.kind = .reEncryptShare lookup holder itemId)
    {answer : ∀ op : RecordOp H, Except SdkError op.Read} {e : SdkError}
    (hdwallet : answer (.readDWallet lookup) = .error e) :
    eval (I := recordInterface H) answer (findSession P pending true) = some (.error e) := by
  have hrecord : eval (I := recordInterface H) answer (dwalletRecord true lookup) =
      some (.error e) := by
    unfold dwalletRecord
    rw [eval_bind, ensure_of rfl]
    exact congrArg some hdwallet
  have hread : eval (I := recordInterface H) answer (encryptedShareOf true lookup holder) =
      some (.error e) := by
    unfold encryptedShareOf
    exact eval_bind_of_error hrecord _
  unfold findSession
  rw [hkind]
  dsimp only
  exact eval_bind_of_error hread _

/-- What is read of a delivered share under other keys that hold its signers. -/
theorem DeliveredShare.under
    (h : DeliveredShare P programId signers caller state lookup holder record read share)
    (htrusts : TrustsSigners keys record read) :
    DeliveredShare P programId keys caller state lookup holder record read share := by
  refine { h with dwallet := ?_, stored := (h.stored.under keys).mpr htrusts.share }
  obtain ⟨derived, attestation, account, hread⟩ := eval_checkedReadDWallet h.dwallet
  have hchecked := Option.some.inj ((hread signers).symm.trans h.dwallet)
  have hunder := checkedAccounts_under keys hchecked
  rw [if_pos ⟨htrusts.dwallet, htrusts.account⟩] at hunder
  rw [hread keys, hunder]

/-- The keys under which a delivered share is right hold its signers. -/
theorem DeliveredShare.trusts
    (h : DeliveredShare P programId signers caller state lookup holder record read share) :
    TrustsSigners signers record read := by
  obtain ⟨derived, attestation, account, hread⟩ := eval_checkedReadDWallet h.dwallet
  have hchecked := Option.some.inj ((hread signers).symm.trans h.dwallet)
  have hunder := checkedAccounts_under signers hchecked
  have hshare := (h.stored.under signers).mp h.stored
  split_ifs at hunder with htrusted
  · exact ⟨htrusted.1, htrusted.2, hshare⟩
  · obtain ⟨e, he⟩ := hunder
    rw [hchecked] at he
    cases he

variable {crossCheck : SolanaReadCrossCheck} {fuel : ℕ} {pending : PendingRequest}

/-- An accepted share whose signers are trusted is found; any other fails the lookup. -/
theorem DeliveredShare.lookupOn (crossCheck : SolanaReadCrossCheck) (fuel : ℕ)
    (keys : TrustedNetworkKeys)
    (h : DeliveredShare P programId signers caller state lookup holder record read share)
    {itemId : Bytes} (hkind : pending.kind = .reEncryptShare lookup holder itemId) :
    ∃ outcome, lookupOn P programId crossCheck (fuel + 1) keys caller pending true state =
        some outcome ∧
      (read.account.accepted ∧ TrustsSigners keys record read →
        outcome = .ok (.ran "the new holder's share")) ∧
      (¬(read.account.accepted ∧ TrustsSigners keys record read) → ∃ e, outcome = .error e) := by
  choose answer hanswer using fun op => @eval_requestRecordReads P programId caller state
    crossCheck fuel keys op
  unfold Solana.lookupOn
  rw [Prog.eval_interp hanswer]
  obtain ⟨derived, attestation, account, hreads⟩ := eval_checkedReadDWallet h.dwallet
  have hchecked := Option.some.inj ((hreads signers).symm.trans h.dwallet)
  have hunder := checkedAccounts_under keys hchecked
  have hread : answer (.readDWallet lookup) =
      checkedAccounts P keys lookup derived attestation account :=
    Option.some.inj ((hanswer (.readDWallet lookup)).symm.trans (hreads keys))
  split_ifs at hunder with htrusted
  · have hdwallet : answer (.readDWallet lookup) = .ok (some record) := hread.trans hunder
    obtain ⟨hfound, hfailed⟩ := eval_findSession_reEncryptShare (P := P) hkind hdwallet
    by_cases hshare : read.attestation.signerNoaPublicKey ∈ keys.publicKeys
    · -- Every signer is trusted, so what is read does not depend on the keys.
      have htrusts : TrustsSigners keys record read := ⟨htrusted.1, htrusted.2, hshare⟩
      obtain ⟨outcome, heval, houtcome⟩ := (h.under htrusts).eval_read
      have hanswered : answer (.readEncryptedShare record.handle holder) = outcome :=
        Option.some.inj ((hanswer (.readEncryptedShare record.handle holder)).symm.trans heval)
      split_ifs at houtcome with haccepted
      · obtain ⟨found, rfl⟩ := houtcome
        exact ⟨_, hfound found hanswered, fun _ => rfl,
          fun hnot => (hnot ⟨haccepted, htrusts⟩).elim⟩
      · obtain ⟨reason, rfl⟩ := houtcome
        exact ⟨_, hfailed _ hanswered, fun hboth => (haccepted hboth.1).elim, fun _ => ⟨_, rfl⟩⟩
    · obtain ⟨e, hrefused⟩ := h.eval_read_untrusted hshare
      have hanswered : answer (.readEncryptedShare record.handle holder) = .error e :=
        Option.some.inj ((hanswer (.readEncryptedShare record.handle holder)).symm.trans hrefused)
      exact ⟨_, hfailed _ hanswered, fun hboth => (hshare hboth.2.share).elim, fun _ => ⟨_, rfl⟩⟩
  · obtain ⟨e, he⟩ := hunder
    refine ⟨_, eval_findSession_reEncryptShare_error hkind (hread.trans he), ?_, fun _ => ⟨_, rfl⟩⟩
    exact fun hboth => (htrusted ⟨hboth.2.dwallet, hboth.2.account⟩).elim

/-- The resolution of a pending request over the accounts of a state. -/
def resolveOn (P : Primitives) (programId : Bytes) (crossCheck : SolanaReadCrossCheck) (fuel : ℕ)
    (network : IkaNetwork) (chainEpoch : SolanaEff ℕ) (caller : ∀ op : SolanaOp, op.Ans)
    (pending : PendingRequest) (state : ChainState) :
    Option (Except SdkError SessionResolution) :=
  eval (stateAnswers caller state) (resolveSession network chainEpoch
    (fun keys => ofProg ((findSession P pending true).run.interp
      (requestRecordReads P programId crossCheck fuel keys))) pending)

/-- What the resolution of a pending request needs of a delivered share, once the
epoch is settled: it is accepted, and the keys of the resolution hold its signers. -/
def Resolvable (network : IkaNetwork) (pending : PendingRequest)
    (record : CheckedDWalletRecord SolanaDWalletHandle) (read : EncryptedShareRead) : Prop :=
  read.account.accepted ∧ ∃ trusted, resolutionKeys network pending = .ok trusted ∧
    TrustsSigners trusted.toTrustedNetworkKeys record read

/-- From the settled epoch on, a session resolves only with an accepted share
whose signers the pending request's keys hold. -/
theorem DeliveredShare.resolveOn (crossCheck : SolanaReadCrossCheck) (fuel : ℕ)
    (network : IkaNetwork)
    (h : DeliveredShare P programId signers caller state lookup holder record read share)
    {itemId : Bytes} (hkind : pending.kind = .reEncryptShare lookup holder itemId)
    {chainEpoch : SolanaEff ℕ} {epoch : ℕ}
    (hepoch : eval (stateAnswers caller state) chainEpoch = some (.ok epoch)) :
    ∃ outcome, resolveOn P programId crossCheck (fuel + 1) network chainEpoch caller pending
        state = some outcome ∧
      (epoch < settledAtEpoch pending ∨ Resolvable network pending record read →
        ∃ r, outcome = .ok r) ∧
      (¬(epoch < settledAtEpoch pending ∨ Resolvable network pending record read) →
        ∃ e, outcome = .error e) := by
  unfold Solana.resolveOn resolveSession
  rw [eval_bind_of_ok hepoch]
  dsimp only
  by_cases hsettled : epoch < settledAtEpoch pending
  · rw [if_pos hsettled]
    exact ⟨_, rfl, fun _ => ⟨_, rfl⟩, fun hnot => (hnot (.inl hsettled)).elim⟩
  rw [if_neg hsettled]
  cases hkeys : resolutionKeys network pending with
  | error reason =>
    refine ⟨_, rfl, ?_, fun _ => ⟨_, rfl⟩⟩
    rintro (hbefore | ⟨-, trusted, htrusted, -⟩)
    · exact (hsettled hbefore).elim
    · rw [hkeys] at htrusted
      cases htrusted
  | ok trusted =>
    obtain ⟨outcome, hlookup, hran, hthrows⟩ :=
      h.lookupOn crossCheck fuel trusted.toTrustedNetworkKeys hkind
    have hfind : eval (stateAnswers caller state)
        (ofProg ((findSession P pending true).run.interp
          (requestRecordReads P programId crossCheck (fuel + 1) trusted.toTrustedNetworkKeys)) :
            SolanaEff RequestOutcome) = some outcome := hlookup
    rw [fromPackage, eval_bind, eval_lift, Option.bind_some]
    dsimp only
    rw [eval_bind, hfind, Option.bind_some]
    by_cases hresolvable : read.account.accepted ∧
        TrustsSigners trusted.toTrustedNetworkKeys record read
    · obtain rfl := hran hresolvable
      refine ⟨_, rfl, fun _ => ⟨_, rfl⟩, fun hnot => (hnot (.inr ?_)).elim⟩
      exact ⟨hresolvable.1, trusted, hkeys, hresolvable.2⟩
    · obtain ⟨e, rfl⟩ := hthrows hresolvable
      refine ⟨_, rfl, ?_, fun _ => ⟨e, rfl⟩⟩
      rintro (hbefore | ⟨haccepted, trusted', htrusted, htrusts⟩)
      · exact (hsettled hbefore).elim
      · obtain rfl : trusted = trusted' := Except.ok.inj (hkeys.symm.trans htrusted)
        exact (hresolvable ⟨haccepted, htrusts⟩).elim

/-- A share of the new holder on the chain counts as run exactly when the holder
has accepted it and the keys of the lookup hold its signers, and its session
resolves exactly when this is so of the pending request's keys or its epoch is
not settled yet: else the lookup, and the resolution, throw. -/
theorem delivered_share_ran_iff (network : IkaNetwork)
    (h : DeliveredShare P programId signers caller state lookup holder record read share)
    {itemId : Bytes} (hkind : pending.kind = .reEncryptShare lookup holder itemId)
    {chainEpoch : SolanaEff ℕ} {epoch : ℕ}
    (hepoch : eval (stateAnswers caller state) chainEpoch = some (.ok epoch)) :
    (∀ keys, (∃ text, Solana.lookupOn P programId crossCheck (fuel + 1) keys caller pending true
        state = some (.ok (.ran text))) ↔
      read.account.accepted ∧ TrustsSigners keys record read) ∧
    ((∃ resolution, Solana.resolveOn P programId crossCheck (fuel + 1) network chainEpoch caller
        pending state = some (.ok resolution)) ↔
      epoch < settledAtEpoch pending ∨ Resolvable network pending record read) := by
  constructor
  · intro keys
    obtain ⟨outcome, hlookup, hran, hthrows⟩ := h.lookupOn crossCheck fuel keys hkind
    rw [hlookup]
    by_cases hfound : read.account.accepted ∧ TrustsSigners keys record read
    · exact ⟨fun _ => hfound, fun _ => ⟨_, congrArg some (hran hfound)⟩⟩
    · obtain ⟨e, rfl⟩ := hthrows hfound
      refine ⟨?_, fun hboth => absurd hboth hfound⟩
      rintro ⟨text, htext⟩
      cases htext
  · obtain ⟨outcome, hresolve, hok, hthrows⟩ := h.resolveOn crossCheck fuel network hkind hepoch
    rw [hresolve]
    by_cases hresolves : epoch < settledAtEpoch pending ∨ Resolvable network pending record read
    · obtain ⟨r, rfl⟩ := hok hresolves
      exact ⟨fun _ => hresolves, fun _ => ⟨r, rfl⟩⟩
    · obtain ⟨e, rfl⟩ := hthrows hresolves
      refine ⟨?_, fun hboth => absurd hboth hresolves⟩
      rintro ⟨r, hr⟩
      cases hr

end Lookup

/-! ### A re-encryption -/

/-- The attestation of the new holder's share, of its own session. -/
def sampleShareData : Bytes := sampleReEncryptedData (List.replicate 32 15)

/-- The new holder's share with the given acceptance, beside the accounts of its dWallet. -/
def sampleReEncryption (accepted : UInt8) (digest : Bytes) : ChainState := fun address =>
  let key := sampleAttestation.publicKey
  let holder := List.replicate 32 14
  let accounts := [
    (addressOr (encryptedUserSecretKeySharePda samplePrimitives sampleProgramId 2 key holder none),
      ⟨sampleProgramId, [101, 1] ++ sampleDWalletAddress ++ holder ++ List.replicate 32 18 ++ [1] ++
        leBytes 8 9 ++ [255, accepted] ++ List.replicate 7 0 ++ [40, 0] ++ List.replicate 64 10 ++
        digest ++ List.replicate 40 16⟩),
    (addressOr (encryptedShareAttestationPda samplePrimitives sampleProgramId 2 key holder none),
      ⟨sampleProgramId, [104, 1, 255] ++ sampleProof ++ List.replicate 32 15 ++ [32] ++
        sampleAttestation.intendedChainSender ++ [32] ++ key ++ List.replicate 32 16 ++
        List.replicate 32 17 ++ [0] ++ holder ++ sampleShareAttestation.dwalletAttestationDigest⟩),
    (addressOr (encryptionKeyPda samplePrimitives sampleProgramId holder 2),
      ⟨sampleProgramId, [107, 1] ++ holder ++ [0, 2, 0, 40, 0] ++ List.replicate 64 11 ++
        leBytes 8 9 ++ List.replicate 9 0 ++ List.replicate 40 17⟩)]
  (accounts ++ sampleAccounts).lookup address

def sampleLookup : DWalletLookup := ⟨2, sampleAttestation.publicKey, none⟩

/-- Whether the sample state holds the new holder's share with the given
acceptance, and everything else stored in it is right. -/
def sampleHolds (accepted : UInt8) (digest : Bytes) (acceptance : Bool) : Bool :=
  let state := sampleReEncryption accepted digest
  let holder := List.replicate 32 14
  let keys : TrustedNetworkKeys := ⟨[List.replicate 32 7]⟩
  let answers := stateAnswers (sampleSolanaAnswers 0) state
  (eval answers (checkedReadDWallet samplePrimitives sampleProgramId keys sampleLookup)).any fun
    | .ok (some record) =>
      (eval answers (readEncryptedShareAccounts samplePrimitives sampleProgramId
        record.handle.lookup holder)).any fun
      | .ok (some read) =>
        read.account.accepted == acceptance && read.account.acceptanceDigest == digest &&
          (match requireStoredShare samplePrimitives read.account
              read.attestation.toAttestationRecord keys record.handle.dwallet
              record.handle.address holder read.registeredEncryptionKey with
          | .ok share => acceptedDigest samplePrimitives read.attestation.toAttestationRecord
              record.handle.dwallet share == samplePrimitives.keccak256 sampleShareData
          | .error _ => false)
      | _ => false
    | _ => false

theorem sampleReEncryption_delivered {accepted : UInt8} {digest : Bytes} {acceptance : Bool}
    (h : sampleHolds accepted digest acceptance)
    (hdigest : acceptance → digest = samplePrimitives.keccak256 sampleShareData) :
    ∃ record read share, DeliveredShare samplePrimitives sampleProgramId
        ⟨[List.replicate 32 7]⟩ (sampleSolanaAnswers 0) (sampleReEncryption accepted digest)
        sampleLookup (List.replicate 32 14) record read share ∧
      read.account.accepted = acceptance ∧ read.account.acceptanceDigest = digest ∧
      acceptedDigest samplePrimitives read.attestation.toAttestationRecord record.handle.dwallet
        share = samplePrimitives.keccak256 sampleShareData := by
  unfold sampleHolds at h
  dsimp only at h
  obtain ⟨found, hrecord, h⟩ := (Option.any_eq_true _ _).mp h
  split at h
  case h_2 => cases h
  next record =>
  obtain ⟨found, hread, h⟩ := (Option.any_eq_true _ _).mp h
  split at h
  case h_2 => cases h
  next read =>
  obtain ⟨hflags, h⟩ := Bool.and_eq_true_iff.mp h
  obtain ⟨haccepted, hstoredDigest⟩ := Bool.and_eq_true_iff.mp hflags
  have haccepted := beq_iff_eq.mp haccepted
  have hstoredDigest := beq_iff_eq.mp hstoredDigest
  split at h
  case h_2 => cases h
  next share hstored =>
  have hexpected := beq_iff_eq.mp h
  refine ⟨record, read, share, ⟨hrecord, hread, requireStoredShare_iff.mp hstored, ?_⟩, haccepted,
    hstoredDigest, hexpected⟩
  intro hmarked
  have hsame := hdigest (haccepted.symm.trans hmarked)
  have hverifies : ∀ signature message key,
      signatureVerifies samplePrimitives signature message key := fun _ _ _ => rfl
  exact ⟨hstoredDigest.trans (hsame.trans hexpected.symm), hverifies _ _ _⟩

def sampleReEncryptPending : PendingRequest where
  epoch := 9
  sessionIdentifier := List.replicate 32 15
  transportKey := List.replicate 32 19
  curve := 2
  networkKeyId := List.replicate 32 7
  kind := .reEncryptShare sampleLookup (List.replicate 32 14) (List.replicate 32 21)

/-- A lookup of the new holder's accepted share. -/
theorem delivered_share_ran_sample :
    ∃ text, lookupOn samplePrimitives sampleProgramId .notCrossChecked 1 ⟨[List.replicate 32 7]⟩
      (sampleSolanaAnswers 0) sampleReEncryptPending true
      (sampleReEncryption 1 (samplePrimitives.keccak256 sampleShareData)) =
        some (.ok (.ran text)) := by
  have hholds : sampleHolds 1 (samplePrimitives.keccak256 sampleShareData) true := by
    decide +kernel
  obtain ⟨record, read, share, hdelivered, haccepted, -⟩ :=
    sampleReEncryption_delivered hholds fun _ => rfl
  exact ((delivered_share_ran_iff (.custom []) hdelivered rfl (eval_pure _ 11)).1 _).mpr
    ⟨haccepted, hdelivered.trusts⟩

/-- The new holder's share waits on the chain, and its session does not resolve. -/
theorem waiting_share_not_resolved :
    (∃ record read share, DeliveredShare samplePrimitives sampleProgramId
        ⟨[List.replicate 32 7]⟩ (sampleSolanaAnswers 0)
        (sampleReEncryption 0 (samplePrimitives.keccak256 sampleShareData))
        sampleLookup (List.replicate 32 14) record read share) ∧
      (¬∃ text, lookupOn samplePrimitives sampleProgramId .notCrossChecked 1
        ⟨[List.replicate 32 7]⟩ (sampleSolanaAnswers 0) sampleReEncryptPending true
        (sampleReEncryption 0 (samplePrimitives.keccak256 sampleShareData)) =
          some (.ok (.ran text))) ∧
      ¬∃ resolution, resolveOn samplePrimitives sampleProgramId .notCrossChecked 1
        (.custom []) (pure 11) (sampleSolanaAnswers 0) sampleReEncryptPending
        (sampleReEncryption 0 (samplePrimitives.keccak256 sampleShareData)) =
          some (.ok resolution) := by
  have hholds : sampleHolds 0 (samplePrimitives.keccak256 sampleShareData) false := by
    decide +kernel
  obtain ⟨record, read, share, hdelivered, haccepted, -⟩ :=
    sampleReEncryption_delivered hholds (fun h => by cases h)
  have hkind : sampleReEncryptPending.kind = .reEncryptShare _ _ _ := rfl
  have hwaits : ¬read.account.accepted := by simp [haccepted]
  obtain ⟨outcome, hlookup, -, hthrows⟩ :=
    hdelivered.lookupOn .notCrossChecked 0 ⟨[List.replicate 32 7]⟩ hkind
  obtain ⟨resolved, hresolve, -, hfails⟩ :=
    hdelivered.resolveOn .notCrossChecked 0 (.custom []) hkind (eval_pure _ 11)
  obtain ⟨e, rfl⟩ := hthrows fun hboth => hwaits hboth.1
  obtain ⟨e', rfl⟩ := hfails fun hresolves =>
    hresolves.elim (by decide) fun hresolvable => hwaits hresolvable.1
  refine ⟨⟨record, read, share, hdelivered⟩, ?_, ?_⟩
  · rintro ⟨text, hran⟩
    rw [hlookup] at hran
    cases hran
  · rintro ⟨resolution, hok⟩
    rw [hresolve] at hok
    cases hok

/-- The new holder's accepted share is on the chain, and right in everything but
its acceptance signature. -/
theorem shareIsOnChain_right_sample : ∃ handle read share,
    RightButAcceptance samplePrimitives ⟨[List.replicate 32 7]⟩ handle (List.replicate 32 14)
      read share := by
  have hholds : sampleHolds 1 (samplePrimitives.keccak256 sampleShareData) true := by
    decide +kernel
  obtain ⟨record, read, share, hdelivered, haccepted, -⟩ :=
    sampleReEncryption_delivered hholds fun _ => rfl
  obtain ⟨outcome, hread, houtcome⟩ := hdelivered.eval_read
  rw [if_pos haccepted] at houtcome
  obtain ⟨found, rfl⟩ := houtcome
  have hon : eval (stateAnswers (sampleSolanaAnswers 0)
      (sampleReEncryption 1 (samplePrimitives.keccak256 sampleShareData)))
      (shareIsOnChain (checkedReadEncryptedShare samplePrimitives sampleProgramId
        ⟨[List.replicate 32 7]⟩ record.handle (List.replicate 32 14) none)) =
        some (.ok true) := by
    rw [eval_shareIsOnChain, hread]
    rfl
  obtain ⟨read', share', hread', -, hright⟩ := shareIsOnChain_right_iff hon
  have hsame := hread'.symm.trans hdelivered.accounts
  obtain rfl : read' = read := Option.some.inj (Except.ok.inj (Option.some.inj hsame))
  exact ⟨record.handle, read', share', hright.mpr (.inl haccepted)⟩

/-- A share that waits with another digest than the one to accept is taken to be
on the chain. -/
theorem waiting_share_wrong_digest :
    ∃ handle read share,
      eval (stateAnswers (sampleSolanaAnswers 0) (sampleReEncryption 0 (List.replicate 32 0)))
        (shareIsOnChain (checkedReadEncryptedShare samplePrimitives sampleProgramId
          ⟨[List.replicate 32 7]⟩ handle (List.replicate 32 14) none)) = some (.ok true) ∧
      eval (stateAnswers (sampleSolanaAnswers 0) (sampleReEncryption 0 (List.replicate 32 0)))
        (readEncryptedShareAccounts samplePrimitives sampleProgramId handle.lookup
          (List.replicate 32 14)) = some (.ok (some read)) ∧
      verifyEncryptedShareAttestationRecord samplePrimitives
        read.attestation.toAttestationRecord ⟨[List.replicate 32 7]⟩ handle.dwallet
        (List.replicate 32 14) = .ok share ∧
      ¬RightButAcceptance samplePrimitives ⟨[List.replicate 32 7]⟩ handle
        (List.replicate 32 14) read share := by
  have hholds : sampleHolds 0 (List.replicate 32 0) false := by decide +kernel
  obtain ⟨record, read, share, hdelivered, haccepted, hdigest, hexpected⟩ :=
    sampleReEncryption_delivered hholds (fun h => by cases h)
  obtain ⟨outcome, hread, houtcome⟩ := hdelivered.eval_read
  rw [if_neg (by rw [haccepted]; decide)] at houtcome
  obtain ⟨reason, rfl⟩ := houtcome
  refine ⟨record.handle, read, share, ?_, hdelivered.accounts, hdelivered.stored.attested, ?_⟩
  · rw [eval_shareIsOnChain, hread]
    have hwaits : refusesAcceptance (.attestationRecord .record reason (some "accepted")) = true :=
      rfl
    simp [hwaits]
  · intro hright
    have hsame := hdigest.symm.trans (hright.digest.trans hexpected)
    revert hsame
    decide +kernel

end Ika.Solana
