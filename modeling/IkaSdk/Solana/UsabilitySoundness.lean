import IkaSdk.Core.Grpc.UsableSoundness
import IkaSdk.Solana.Usability

/-! What an encrypted share that the ownership check returned over the Solana
reader shows about the accounts that were served, whatever was served. -/

namespace Ika.Solana

open Wire Interaction Eff

variable {P : Primitives} {programId : Bytes} {tr : List (Event solanaInterface)}
  {keys : TrustedNetworkKeys}

/-! ## Reads of accounts -/

/-- An account owned by the program was served at the derived address, and its
bytes read as `value`. -/
def ServedAt {T : Type} (programId : Bytes) (tr : List (Event solanaInterface))
    (derived : Except String DerivedAddress) (decode : Bytes → Except SdkError (Option T))
    (value : T) : Prop :=
  ∃ address endpoint account, derived = .ok address ∧
    ⟨.getAccount endpoint address.address, .ok (some account)⟩ ∈ tr ∧
    account.owner = programId ∧ decode account.data = .ok (some value)

theorem ServedAt.mono {T : Type} {tr' : List (Event solanaInterface)}
    {derived : Except String DerivedAddress} {decode : Bytes → Except SdkError (Option T)}
    {value : T} (h : ServedAt programId tr derived decode value) (hsub : ∀ e ∈ tr, e ∈ tr') :
    ServedAt programId tr' derived decode value := by
  obtain ⟨address, endpoint, account, hderived, hmem, howner, hdecode⟩ := h
  exact ⟨address, endpoint, account, hderived, hsub _ hmem, howner, hdecode⟩

theorem gives_getAccount_iff {endpoint : CrossCheckEndpoint} {address : Bytes}
    {r : Option ReadAccount} :
    Gives (getAccount endpoint address) tr r ↔ tr = [⟨.getAccount endpoint address, .ok r⟩] := by
  simp [Gives, getAccount, Prog.perform, Prog.returns_call_iff]

theorem readDerived_gives {T : Type} {endpoint : CrossCheckEndpoint}
    {derived : Except String DerivedAddress} {kind : String}
    {decode : Bytes → Except SdkError (Option T)} {value : T}
    (h : Gives (readDerived programId endpoint derived kind decode) tr (some value)) :
    ServedAt programId tr derived decode value := by
  obtain ⟨address, hderived, hread⟩ := gives_lift_bind_iff.mp h
  obtain ⟨tr₁, tr₂, account, rfl, hop, hrest⟩ := gives_bind_iff.mp hread
  obtain rfl := gives_getAccount_iff.mp hop
  cases account with
  | none => cases (gives_pure_iff.mp hrest).2
  | some account =>
    obtain ⟨_, howner, hdecoded⟩ := gives_lift_bind_iff.mp hrest
    obtain ⟨decoded, hdecode, hlast⟩ := gives_lift_bind_iff.mp hdecoded
    cases decoded with
    | none => exact (gives_throw_iff.mp hlast).elim
    | some decoded =>
      obtain ⟨rfl, heq⟩ := gives_pure_iff.mp hlast
      cases heq
      exact ⟨address, endpoint, account, fromPackage_ok hderived, by simp, ensure_ok howner,
        hdecode⟩

/-! ## The checked records -/

/-- What a checked dWallet record shows about the accounts that were served. -/
structure DWalletServed (P : Primitives) (programId : Bytes) (keys : TrustedNetworkKeys)
    (tr : List (Event solanaInterface)) (lookup : DWalletLookup)
    (record : CheckedDWalletRecord SolanaDWalletHandle) (account : DWalletAccount) : Prop where
  handle : record.handle.lookup = lookup
  verified : VerifiedFor P keys record.attestation
    ⟨lookup.curve, lookup.publicKey, lookup.importedSessionIdentifier⟩ record.handle.dwallet
  address : ∃ derived, dwalletPda P programId lookup.curve lookup.publicKey
    lookup.importedSessionIdentifier = .ok derived ∧ record.handle.address = derived.address
  served : ServedAt programId tr (dwalletPda P programId lookup.curve lookup.publicKey
    lookup.importedSessionIdentifier) Solana.readDWallet account
  trusted : account.noaPublicKey ∈ keys.publicKeys
  networkKey : record.networkPublicKey = account.noaPublicKey
  stored : verifyStoredDWallet ⟨account.curve, account.publicKey, account.isImported,
    account.importedSessionIdentifier⟩ record.handle.dwallet = .ok ()
  notMigrated : record.migratedShare = false

theorem checkedReadDWallet_gives {lookup : DWalletLookup}
    {record : CheckedDWalletRecord SolanaDWalletHandle}
    (h : Gives (checkedReadDWallet P programId keys lookup) tr (some record)) :
    ∃ account, DWalletServed P programId keys tr lookup record account := by
  obtain ⟨derived, hderived, hread⟩ := gives_lift_bind_iff.mp h
  obtain ⟨tr₁, tr₂, attestation, rfl, hattestation, hafter⟩ := gives_bind_iff.mp hread
  cases attestation with
  | none => cases (gives_pure_iff.mp hafter).2
  | some attestation =>
    obtain ⟨dwallet, hdwallet, hverified⟩ := gives_lift_bind_iff.mp hafter
    obtain ⟨tr₃, tr₄, account, rfl, haccount, hchecks⟩ := gives_bind_iff.mp hverified
    cases account with
    | none => exact (gives_throw_iff.mp hchecks).elim
    | some account =>
      obtain ⟨_, htrusted, hstored⟩ := gives_lift_bind_iff.mp hchecks
      obtain ⟨_, hsame, hlast⟩ := gives_lift_bind_iff.mp hstored
      obtain ⟨rfl, heq⟩ := gives_pure_iff.mp hlast
      cases heq
      have hserved : ServedAt programId (tr₁ ++ (tr₃ ++ [])) _ Solana.readDWallet account :=
        (readDerived_gives haccount).mono fun e he => by simp [he]
      exact ⟨account, rfl, verifyDWalletAttestationRecord_ok hdwallet,
        ⟨derived, fromPackage_ok hderived, rfl⟩, hserved, ensure_ok htrusted, rfl, hsame, rfl⟩

/-- What a checked share record shows about the accounts that were served. -/
structure ShareServed (P : Primitives) (programId : Bytes) (keys : TrustedNetworkKeys)
    (tr : List (Event solanaInterface)) (handle : SolanaDWalletHandle) (holder : Bytes)
    (given : Option Bytes) (record : CheckedEncryptedShareRecord)
    (account : EncryptedUserSecretKeyShareAccount) (key : EncryptionKeyAccount)
    (verified : VerifiedSolanaEncryptedShare) : Prop where
  accountServed : ServedAt programId tr (encryptedUserSecretKeySharePda P programId
    handle.lookup.curve handle.lookup.publicKey holder handle.lookup.importedSessionIdentifier)
    readEncryptedUserSecretKeyShareUnverified account
  recordServed : ∃ stored, ServedAt programId tr (encryptedShareAttestationPda P programId
    handle.lookup.curve handle.lookup.publicKey holder handle.lookup.importedSessionIdentifier)
    (readEncryptedShareAttestationUnverified P) stored ∧
      stored.toAttestationRecord = record.toAttestationRecord
  keyServed : ServedAt programId tr (encryptionKeyPda P programId holder handle.lookup.curve)
    readEncryptionKeyUnverified key
  keyOwner : key.signerPublicKey = holder ∧ key.curve = handle.lookup.curve
  checked : ShareAccountFor P account record.toAttestationRecord keys handle.dwallet
    handle.address holder key.encryptionKey given verified
  acceptanceGiven : record.acceptanceGiven = verified.acceptanceGiven

theorem checkedReadEncryptedShare_gives {handle : SolanaDWalletHandle} {holder : Bytes}
    {given : Option Bytes} {record : CheckedEncryptedShareRecord}
    (h : Gives (checkedReadEncryptedShare P programId keys handle holder given) tr
      (some record)) :
    ∃ account key verified, ShareServed P programId keys tr handle holder given record account
      key verified := by
  obtain ⟨tr₁, tr₂, share, rfl, hread, hafter⟩ := gives_bind_iff.mp h
  cases share with
  | none => cases (gives_pure_iff.mp hafter).2
  | some share =>
    obtain ⟨verified, hverified, hlast⟩ := gives_lift_bind_iff.mp hafter
    obtain ⟨rfl, heq⟩ := gives_pure_iff.mp hlast
    cases heq
    rw [List.append_nil]
    obtain ⟨tr₃, tr₄, account, rfl, haccount, hrest⟩ := gives_bind_iff.mp hread
    obtain ⟨tr₅, tr₆, attestation, rfl, hattestation, hboth⟩ := gives_bind_iff.mp hrest
    cases account with
    | none => cases attestation <;> cases (gives_pure_iff.mp hboth).2
    | some account =>
      cases attestation with
      | none => cases (gives_pure_iff.mp hboth).2
      | some attestation =>
        obtain ⟨tr₇, tr₈, entry, rfl, hentry, hkey⟩ := gives_bind_iff.mp hboth
        cases hfilter : entry.filter
            fun e => e.signerPublicKey = holder ∧ e.curve = handle.lookup.curve with
        | none =>
          rw [hfilter] at hkey
          exact (gives_throw_iff.mp hkey).elim
        | some key =>
          rw [hfilter] at hkey
          obtain ⟨rfl, heq⟩ := gives_pure_iff.mp hkey
          cases heq
          obtain ⟨rfl, howner⟩ := Option.filter_eq_some_iff.mp hfilter
          have hkeyOwner : key.signerPublicKey = holder ∧ key.curve = handle.lookup.curve := by
            simpa using howner
          exact ⟨account, key, verified,
            (readDerived_gives haccount).mono fun e he => by simp [he],
            ⟨attestation, (readDerived_gives hattestation).mono fun e he => by simp [he], rfl⟩,
            (readDerived_gives hentry).mono fun e he => by simp [he],
            hkeyOwner, verifySolanaEncryptedShareRecord_ok hverified, rfl⟩

/-! ## The whole check -/

/-- What stands on the served accounts behind an encrypted share that does not
wait, for the holder that the user's own keys named. -/
structure AcceptedShare (P : Primitives) (programId : Bytes) (keys : TrustedNetworkKeys)
    (data : Bytes) (tr : List (Event solanaInterface)) (st : IssuedState)
    (attestation : DWalletAttestation) (dwallet : DWalletAccount)
    (account : EncryptedUserSecretKeyShareAccount) (shareRecord : AttestationAccount)
    (share : EncryptedShareAttestation) (key : EncryptionKeyAccount) : Prop where
  userKey : ⟨.getSigningPublicKeyBytes, .ok st.holder⟩ ∈ tr
  signed : ∃ record : AttestationRecord, record.attestationData = data ∧
    NetworkSigned P keys .dwallet record attestation
  dwalletServed : ServedAt programId tr (dwalletPda P programId st.curve st.publicKey
    st.importedSessionIdentifier) Solana.readDWallet dwallet
  curve : dwallet.curve = attestation.curve.number
  publicKey : dwallet.publicKey = attestation.publicKey
  isImported : dwallet.isImported = attestation.isImportedKey
  session : dwallet.importedSessionIdentifier =
    if attestation.isImportedKey then some attestation.sessionIdentifier else none
  asked : askedOf attestation = ⟨st.curve, st.publicKey, st.importedSessionIdentifier⟩
  networkKey : dwallet.noaPublicKey ∈ keys.publicKeys
  shareServed : ServedAt programId tr (encryptedUserSecretKeySharePda P programId st.curve
    st.publicKey st.holder st.importedSessionIdentifier)
    readEncryptedUserSecretKeyShareUnverified account
  shareRecordServed : ServedAt programId tr (encryptedShareAttestationPda P programId st.curve
    st.publicKey st.holder st.importedSessionIdentifier)
    (readEncryptedShareAttestationUnverified P) shareRecord
  shareSigned : NetworkSigned P keys .encryptedShare shareRecord.toAttestationRecord share
  holder : share.holder = ⟨.ed25519, st.holder⟩
  binds : share.dwalletAttestationDigest = P.keccak256 data
  ciphertext : P.keccak256 account.encryptedShare = share.encryptedShareHash
  keyServed : ServedAt programId tr (encryptionKeyPda P programId st.holder st.curve)
    readEncryptionKeyUnverified key
  keyOwner : key.signerPublicKey = st.holder ∧ key.curve = st.curve
  encryptionKey : P.keccak256 key.encryptionKey = share.encryptionKeyHash
  accepted : account.accepted = true
  digest : account.acceptanceDigest = solanaAcceptedDigest P
    (isShareOfTheCreatingRequest share.sessionIdentifier attestation) data
    shareRecord.attestationData
  acceptance : P.ed25519Verify account.acceptanceSignature (solanaAcceptedDigest P
    (isShareOfTheCreatingRequest share.sessionIdentifier attestation) data
    shareRecord.attestationData) st.holder = .ok true

theorem encrypted_share_accepted {crossCheck : SolanaReadCrossCheck} {fuel : ℕ}
    {cryptography : Option UserCryptography} {data : Bytes} {classic : Option String}
    {given : Option Bytes} {st : IssuedState}
    (h : Prog.Returns ((assertDWalletUsable P (dwalletShareReader keys cryptography) data classic
      given).run.interp (dwalletShareReads P programId crossCheck fuel keys)) tr (.ok st))
    (hencrypted : st.share = .encrypted) (hnot : st.waiting = false) :
    ∃ attestation dwallet account shareRecord share key, AcceptedShare P programId keys data tr st
      attestation dwallet account shareRecord share key := by
  obtain ⟨es, hreturns, himplements⟩ := Prog.returns_interp h
  obtain ⟨record, dwallet, hshown⟩ := assertDWalletUsable_shown hreturns
  -- the reader has no migration check, so the share is one of these contracts
  have hmigrated : st.migrated = false := by
    by_contra hmigrated
    rw [Bool.not_eq_false] at hmigrated
    obtain ⟨-, -, hmem⟩ := hshown.migrated hmigrated
    obtain ⟨tr', hhandler, -⟩ := himplements.mem hmem
    cases (Prog.returns_pure_iff.mp hhandler).2
  obtain ⟨tr₀, hkeyRead, hsub₀⟩ := himplements.mem hshown.userKey
  obtain ⟨answer, _, rfl, hanswered⟩ := Prog.returns_call_iff.mp hkeyRead
  obtain ⟨rfl, rfl⟩ := Prog.returns_pure_iff.mp hanswered
  obtain ⟨tr₁, hdwallet, hsub₁⟩ := himplements.mem hshown.read
  obtain ⟨account, hserved⟩ := checkedReadDWallet_gives hdwallet
  obtain ⟨givenShare, shareRecord, share, hread, hshare, hwaiting⟩ :=
    hshown.encrypted hencrypted hmigrated
  obtain ⟨tr₂, hshareRead, hsub₂⟩ := himplements.mem hread
  obtain ⟨shareAccount, key, verified, hshareServed⟩ :=
    checkedReadEncryptedShare_gives hshareRead
  have hchecked := hshareServed.checked
  have hdata : record.handle.dwallet.attestationData = data :=
    hserved.verified.data.trans hshown.stored
  have hattestation : record.handle.dwallet.attestation = dwallet.attestation := by
    have hdecodes := hserved.verified.signed.decodes
    rw [hshown.stored] at hdecodes
    exact Except.ok.inj (hdecodes.symm.trans hshown.decodes)
  have hnotGiven : verified.acceptanceGiven = false := by
    rw [← hshareServed.acceptanceGiven]
    split_ifs at hwaiting with hnamed
    · rw [← hwaiting.2, hnot]
    · rw [hshareServed.acceptanceGiven, hchecked.standsIn, hwaiting.1]
      simp
  have haccepted : shareAccount.accepted = true := by
    simpa [hnotGiven] using hchecked.accepted
  have hsignature : verified.acceptanceSignature = shareAccount.acceptanceSignature := by
    simpa [hnotGiven] using hchecked.signature
  have hdigest := hchecked.digest
  have hverifies := hchecked.verifies
  rw [hdata, hattestation] at hdigest
  rw [hsignature, hdigest] at hverifies
  obtain ⟨stored, hstoredServed, hstoredRecord⟩ := hshareServed.recordServed
  rw [← hstoredRecord] at hdigest hverifies
  have hshareFor := hchecked.share
  rw [← hstoredRecord] at hshareFor
  have hdigestOf := hshareFor.binds.digest
  rw [hdata] at hdigestOf
  have hlookup := hserved.handle
  obtain ⟨hcurve, hkey, himported, hsession⟩ := verifyStoredDWallet_ok hserved.stored
  rw [hattestation] at hcurve hkey himported hsession
  have haccountServed := hshareServed.accountServed
  have hkeyServed := hshareServed.keyServed
  have hkeyOwner := hshareServed.keyOwner
  rw [hlookup] at haccountServed hstoredServed hkeyServed hkeyOwner
  exact ⟨dwallet.attestation, account, shareAccount, stored, verified.attestation, key,
    hsub₀ _ (List.mem_singleton.mpr rfl),
    ⟨record.attestation, hshown.stored, hattestation ▸ hserved.verified.signed⟩,
    hserved.served.mono hsub₁, hcurve, hkey, himported, hsession, hshown.asked, hserved.trusted,
    haccountServed.mono hsub₂, hstoredServed.mono hsub₂, hshareFor.signed, hshareFor.holder,
    hdigestOf, hchecked.ciphertext, hkeyServed.mono hsub₂, hkeyOwner, hchecked.encryptionKey,
    haccepted, hdigest, hverifies⟩

/-! ### A share that was accepted -/

def sampleProgramId : Bytes := List.replicate 32 20

def sampleProof : Bytes :=
  versionedAttestationProofBcs.encode ⟨0, List.replicate 32 7, List.replicate 64 8⟩

def sampleDWalletAttestationAccount : Bytes :=
  [104, 1, 255] ++ sampleProof ++ sampleAttestation.sessionIdentifier ++ [32] ++
    sampleAttestation.intendedChainSender ++ [2, 32] ++ sampleAttestation.publicKey ++ [32, 0] ++
    sampleAttestation.publicOutput ++ [0, 0, 1, 0] ++ List.replicate 32 4 ++ [1] ++
    List.replicate 32 5 ++ [1] ++ List.replicate 32 6 ++ leBytes 8 9

def sampleDWalletAccount : Bytes :=
  [97, 1] ++ List.replicate 32 2 ++ [2, 0, 1, 32] ++ sampleAttestation.publicKey ++
    List.replicate 33 0 ++ leBytes 8 9 ++ List.replicate 32 7 ++ [0, 255] ++ List.replicate 40 0

def sampleDWalletAddress : Bytes :=
  match dwalletPda samplePrimitives sampleProgramId 2 sampleAttestation.publicKey none with
  | .ok derived => derived.address
  | .error _ => []

def sampleShareAccount : Bytes :=
  [101, 1] ++ sampleDWalletAddress ++ List.replicate 32 4 ++ List.replicate 32 0 ++ [0] ++
    leBytes 8 9 ++ [255, 1] ++ List.replicate 7 0 ++ [40, 0] ++ List.replicate 64 10 ++
    sampleShareAttestation.dwalletAttestationDigest ++ List.replicate 40 6

def sampleShareAttestationAccount : Bytes :=
  [104, 1, 255] ++ sampleProof ++ sampleAttestation.sessionIdentifier ++ [32] ++
    sampleAttestation.intendedChainSender ++ [32] ++ sampleAttestation.publicKey ++
    List.replicate 32 6 ++ List.replicate 32 5 ++ [0] ++ List.replicate 32 4 ++
    sampleShareAttestation.dwalletAttestationDigest

def sampleEncryptionKeyAccount : Bytes :=
  [107, 1] ++ List.replicate 32 4 ++ [0, 2, 0, 40, 0] ++ List.replicate 64 11 ++ leBytes 8 9 ++
    List.replicate 9 0 ++ List.replicate 40 5

/-- The accounts in the order of the reads; the public share's is absent. -/
def sampleServed : List (Option ReadAccount) :=
  [none, some ⟨sampleProgramId, sampleDWalletAttestationAccount⟩,
    some ⟨sampleProgramId, sampleDWalletAccount⟩, none,
    some ⟨sampleProgramId, sampleShareAccount⟩,
    some ⟨sampleProgramId, sampleShareAttestationAccount⟩,
    some ⟨sampleProgramId, sampleEncryptionKeyAccount⟩]

def sampleSolanaAnswers (n : ℕ) : ∀ op : SolanaOp, op.Ans
  | .signedData => sampleSignedData
  | .ownership => ⟨none, none⟩
  | .getSigningPublicKeyBytes => .ok (List.replicate 32 4)
  | .now => 0
  | .getAccount .. => .ok (sampleServed.getD n none)
  | .windowEnded => false
  | .sleep _ => ()

def sampleSolanaCheck : Prog solanaInterface (Except SdkError IssuedState) :=
  (assertDWalletUsable samplePrimitives (dwalletShareReader ⟨[List.replicate 32 7]⟩ none)
    (versionedDWalletDataAttestationBcs.encode sampleAttestation) none none).run.interp
    (dwalletShareReads samplePrimitives sampleProgramId .notCrossChecked 0
      ⟨[List.replicate 32 7]⟩)

theorem encrypted_share_accepted_sample :
    ∃ tr st attestation dwallet account shareRecord share key,
      AcceptedShare samplePrimitives sampleProgramId ⟨[List.replicate 32 7]⟩
        (versionedDWalletDataAttestationBcs.encode sampleAttestation) tr st attestation dwallet
        account shareRecord share key := by
  have hrun : (sampleSolanaCheck.transcript sampleSolanaAnswers 0).any (fun r => match r.2 with
      | .ok st => st.share == .encrypted && !st.waiting
      | .error _ => false) = true := by
    decide +kernel
  obtain ⟨⟨tr, result⟩, hsome, hresult⟩ := (Option.any_eq_true _ _).mp hrun
  have hreturns := Prog.returns_of_transcript hsome
  cases result with
  | error e => cases hresult
  | ok st =>
    obtain ⟨hencrypted, hnot⟩ : st.share = .encrypted ∧ st.waiting = false := by
      simpa using hresult
    exact ⟨tr, st, encrypted_share_accepted hreturns hencrypted hnot⟩

end Ika.Solana
