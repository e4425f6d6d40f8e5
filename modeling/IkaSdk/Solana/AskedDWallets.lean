import IkaSdk.Core.Grpc.DWalletReads
import IkaSdk.Solana.CrossCheckedAccounts

/-! The dWallet that a read over the program's accounts returns is the one asked for, whatever
accounts were served, and others the next time. -/

namespace Ika.Solana

open Wire Interaction Eff

/-! ## The reader -/

section Reader

variable (P : Primitives) (programId : Bytes)

/-- The account at the address names a dWallet, which is then read where its own values say. -/
def checkedReadDWalletAt (keys : TrustedNetworkKeys) (address : Bytes) :
    SolanaEff (Option (CheckedDWalletRecord SolanaDWalletHandle)) := do
  match ← readThrough programId .first address "dWallet" Solana.readDWallet with
  | none => return none
  | some stored =>
    match ← checkedReadDWallet P programId keys
      ⟨stored.curve, stored.publicKey, stored.importedSessionIdentifier⟩ with
    | none => return none
    | some record =>
      ensure (record.address = address) (SdkError.attestationRecord .record
        "the dWallet account read is not at the address its own dWallet derives"
        (some "address"))
      return some record

/-- The reads of `dwalletShareReader`, by the operations of a reader. -/
def dwalletReaderReads (crossCheck : SolanaReadCrossCheck) (fuel : ℕ) (keys : TrustedNetworkKeys) :
    ∀ op : ReaderOp SolanaDWalletHandle, Prog solanaInterface op.Ans
  | .check op => dwalletShareReads P programId crossCheck fuel keys op
  | .readDWalletAt address => (checkedReadDWalletAt P programId keys address).run

end Reader

variable {P : Primitives} {programId : Bytes} {tr : List (Event solanaInterface)}
  {keys : TrustedNetworkKeys} {crossCheck : SolanaReadCrossCheck} {fuel : ℕ}

/-! ## Public shares -/

/-- A value read from an account that was served is of an account owned by the program. -/
theorem Served.servedAt {T : Type} {endpoint : CrossCheckEndpoint}
    {derived : Except String DerivedAddress} {kind : String}
    {decode : Bytes → Except SdkError (Option T)} {value : T}
    (h : Served endpoint (derived.map (·.address)) (readOwned programId kind decode) (some value)
      tr) : ServedAt programId tr derived decode value := by
  obtain ⟨found, account, haddress, hmem, hdecode⟩ := h
  obtain ⟨address, hderived, rfl⟩ := map_ok haddress
  cases account with
  | none => cases hdecode
  | some account =>
    obtain ⟨_, howner, hread⟩ := bind_ok hdecode
    obtain ⟨decoded, hdecoded, hlast⟩ := bind_ok hread
    cases decoded with
    | none => cases hlast
    | some decoded =>
      cases hlast
      exact ⟨address, endpoint, account, hderived, hmem, ensure_ok howner, hdecoded⟩

/-- With a second endpoint or without, the first one served the public share that is read. -/
theorem checkedReadPublicShare_gives {handle : SolanaDWalletHandle} {record : AttestationRecord}
    (h : Gives (checkedReadPublicShare P programId crossCheck fuel handle) tr (some record)) :
    ∃ stored, ServedAt programId tr (publicUserShareAttestationPda P programId
      handle.lookup.curve handle.lookup.publicKey handle.lookup.importedSessionIdentifier)
      (readPublicShareAttestationUnverified P) stored ∧ stored.toAttestationRecord = record := by
  obtain ⟨tr₁, tr₂, share, rfl, hread, hlast⟩ := gives_bind_iff.mp h
  obtain ⟨rfl, hrecord⟩ := gives_pure_iff.mp hlast
  rw [List.append_nil]
  cases share with
  | none => cases hrecord
  | some stored =>
    refine ⟨stored, ?_, Option.some.inj hrecord⟩
    cases crossCheck with
    | notCrossChecked => exact (readDerived_served programId hread).servedAt
    | getAccount => exact (readPublicShareAttestation_served P programId fuel hread).1.servedAt

/-! ## The dWallet asked for -/

theorem ShareServed.mono {tr' : List (Event solanaInterface)} {handle : SolanaDWalletHandle}
    {holder : Bytes} {given : Option Bytes} {record : CheckedEncryptedShareRecord}
    {account : EncryptedUserSecretKeyShareAccount} {key : EncryptionKeyAccount}
    {verified : VerifiedSolanaEncryptedShare}
    (h : ShareServed P programId keys tr handle holder given record account key verified)
    (hsub : ∀ e ∈ tr, e ∈ tr') :
    ShareServed P programId keys tr' handle holder given record account key verified := by
  obtain ⟨stored, hstored, hrecord⟩ := h.recordServed
  exact ⟨h.accountServed.mono hsub, ⟨stored, hstored.mono hsub, hrecord⟩, h.keyServed.mono hsub,
    h.keyOwner, h.checked, h.acceptanceGiven⟩

/-- The attestation names the dWallet asked for, or values that derive the address asked for. -/
def NamedBy (P : Primitives) (programId : Bytes) (attestation : DWalletAttestation) :
    DWalletToRead → Prop
  | .address address => ∃ derived, dwalletPda P programId attestation.curve.number
      attestation.publicKey (askedOf attestation).importedSessionIdentifier = .ok derived ∧
    derived.address = address
  | .lookup lookup => attestation.curve.number = lookup.curve ∧
    attestation.publicKey = lookup.publicKey ∧
    (askedOf attestation).importedSessionIdentifier = lookup.importedSessionIdentifier

/-- What stands behind the result of a read: its attestation bytes are signed by a trusted key and
name the dWallet asked for, and the record its share was decided by was checked against them. -/
structure AskedDWalletRead (P : Primitives) (programId : Bytes) (keys : TrustedNetworkKeys)
    (asked : DWalletToRead) (tr : List (Event solanaInterface)) (st : IssuedState)
    (dwallet : VerifiedDWalletAttestation) : Prop where
  bytes : dwallet.attestationData = st.attestation.attestationData
  trusted : st.attestation.signerNoaPublicKey ∈ keys.publicKeys
  verifies : P.ed25519Verify st.attestation.networkSignature
    (attestationSigningMessage .dwallet st.attestation.attestationData)
    st.attestation.signerNoaPublicKey = .ok true
  decodes : P.parse versionedDWalletDataAttestationBcs st.attestation.attestationData =
    .ok dwallet.attestation
  named : NamedBy P programId dwallet.attestation asked
  fields : askedOf dwallet.attestation = ⟨st.curve, st.publicKey, st.importedSessionIdentifier⟩
  publicOutput : st.publicOutput = dwallet.attestation.publicOutput
  notMigrated : st.migrated = false
  publicShare : st.share = .publicShare → ∃ stored share, ServedAt programId tr
    (publicUserShareAttestationPda P programId st.curve st.publicKey st.importedSessionIdentifier)
    (readPublicShareAttestationUnverified P) stored ∧
      PublicShareFor P keys stored.toAttestationRecord dwallet share
  encryptedShare : st.share = .encrypted → ∃ handle given record account key verified,
    ShareServed P programId keys tr handle st.holder given record account key verified ∧
      handle.lookup = ⟨st.curve, st.publicKey, st.importedSessionIdentifier⟩ ∧
      handle.dwallet.attestationData = st.attestation.attestationData

theorem checkedReadDWallet_address {lookup : DWalletLookup}
    {record : CheckedDWalletRecord SolanaDWalletHandle}
    (h : Gives (checkedReadDWallet P programId keys lookup) tr (some record)) :
    record.handle.address = record.address := by
  obtain ⟨derived, -, hread⟩ := gives_lift_bind_iff.mp h
  obtain ⟨tr₁, tr₂, attestation, rfl, -, hafter⟩ := gives_bind_iff.mp hread
  cases attestation with
  | none => cases (gives_pure_iff.mp hafter).2
  | some attestation =>
    obtain ⟨dwallet, -, hverified⟩ := gives_lift_bind_iff.mp hafter
    obtain ⟨tr₃, tr₄, account, rfl, -, hchecks⟩ := gives_bind_iff.mp hverified
    cases account with
    | none => exact (gives_throw_iff.mp hchecks).elim
    | some account =>
      obtain ⟨_, -, hstored⟩ := gives_lift_bind_iff.mp hchecks
      obtain ⟨_, -, hlast⟩ := gives_lift_bind_iff.mp hstored
      obtain ⟨-, heq⟩ := gives_pure_iff.mp hlast
      cases heq
      rfl

/-- The result of a read is of the dWallet asked for: whatever accounts each read was served, the
attestation in it names that dWallet and its share was checked against that attestation. -/
theorem reads_the_dwallet_asked_for {cryptography : Option UserCryptography}
    {asked : DWalletToRead} {classic : Option String} {acceptance : Option Bytes}
    {st : IssuedState}
    (h : Prog.Returns ((readDWalletVerified P (dwalletShareReader keys cryptography) true asked
      classic acceptance).run.interp (dwalletReaderReads P programId crossCheck fuel keys)) tr
        (.ok st)) :
    ∃ dwallet, AskedDWalletRead P programId keys asked tr st dwallet := by
  obtain ⟨es, hreturns, himplements⟩ := Prog.returns_interp h
  obtain ⟨hasked, data, checks, hchecks, hsub⟩ := readDWalletVerified_gives hreturns
  obtain ⟨record, dwallet, hshown, haddress, houtput⟩ := assertDWalletUsable_returned hchecks
  have hbytes : st.attestation.attestationData = data := by rw [hshown.attestation]
  have hfields := hshown.asked
  -- the reads of the check, and not the first one, are what the result comes from
  obtain ⟨tr₁, hread, hsub₁⟩ := himplements.mem (hsub _ hshown.read)
  obtain ⟨account, hserved⟩ := checkedReadDWallet_gives hread
  have hhandle : record.handle.dwallet.attestationData = st.attestation.attestationData := by
    rw [hserved.verified.data, hshown.stored, hbytes]
  have hmigrated : st.migrated = false := by
    by_contra hmigrated
    rw [Bool.not_eq_false] at hmigrated
    obtain ⟨-, -, hmem⟩ := hshown.migrated hmigrated
    obtain ⟨tr₂, hhandler, -⟩ := himplements.mem (hsub _ hmem)
    cases (Prog.returns_pure_iff.mp hhandler).2
  have hnamed : NamedBy P programId dwallet.attestation asked := by
    have hcurve : dwallet.attestation.curve.number = st.curve :=
      congrArg AskedDWallet.curve hfields
    have hkey : dwallet.attestation.publicKey = st.publicKey :=
      congrArg AskedDWallet.publicKey hfields
    have hsession : (askedOf dwallet.attestation).importedSessionIdentifier =
        st.importedSessionIdentifier := congrArg AskedDWallet.importedSessionIdentifier hfields
    cases asked with
    | address address =>
      obtain ⟨derived, hderived, hat⟩ := hserved.address
      have hsame : derived.address = address := by
        rw [← hat, checkedReadDWallet_address hread, ← haddress]
        exact hasked
      refine ⟨derived, ?_, hsame⟩
      rw [hcurve, hkey, hsession]
      exact hderived
    | lookup lookup =>
      obtain rfl : _ = lookup := hasked
      exact ⟨hcurve, hkey, hsession⟩
  refine ⟨dwallet, hshown.attestationData.trans hbytes.symm, ?_, ?_, ?_, hnamed, hfields, houtput,
    hmigrated, fun hpublic => ?_, fun hencrypted => ?_⟩
  · rw [hshown.attestation]
    exact hshown.trusted
  · rw [hshown.attestation]
    exact hshown.verifies
  · rw [hbytes]
    exact hshown.decodes
  · obtain ⟨-, shareRecord, share, hmem, hshare⟩ := hshown.publicShare hpublic
    obtain ⟨tr₂, hshareRead, hsub₂⟩ := himplements.mem (hsub _ hmem)
    obtain ⟨stored, hstored, rfl⟩ := checkedReadPublicShare_gives hshareRead
    rw [hserved.handle] at hstored
    exact ⟨stored, share, hstored.mono hsub₂, hshare⟩
  · obtain ⟨given, shareRecord, share, hmem, -⟩ := hshown.encrypted hencrypted hmigrated
    obtain ⟨tr₂, hshareRead, hsub₂⟩ := himplements.mem (hsub _ hmem)
    obtain ⟨shareAccount, key, verified, hshare⟩ := checkedReadEncryptedShare_gives hshareRead
    exact ⟨record.handle, given, shareRecord, shareAccount, key, verified, hshare.mono hsub₂,
      hserved.handle, hhandle⟩

/-! ### A dWallet read at its address -/

/-- The accounts in the order of the reads: the dWallet's, for the values that it names, and then
its records, which are read twice. -/
def sampleServedAt : List (Option ReadAccount) :=
  [some ⟨sampleProgramId, sampleDWalletAccount⟩,
    some ⟨sampleProgramId, sampleDWalletAttestationAccount⟩,
    some ⟨sampleProgramId, sampleDWalletAccount⟩] ++ sampleServed

def sampleAnswersAt (n : ℕ) : ∀ op : SolanaOp, op.Ans
  | .signedData => sampleSignedData
  | .ownership => ⟨none, none⟩
  | .getSigningPublicKeyBytes => .ok (List.replicate 32 4)
  | .now => 0
  | .getAccount .. => .ok (sampleServedAt.getD n none)
  | .windowEnded => false
  | .sleep _ => ()

def sampleReadAt : Prog solanaInterface (Except SdkError IssuedState) :=
  (readDWalletVerified samplePrimitives (dwalletShareReader ⟨[List.replicate 32 7]⟩ none) true
    (.address sampleDWalletAddress) none none).run.interp
    (dwalletReaderReads samplePrimitives sampleProgramId .notCrossChecked 0
      ⟨[List.replicate 32 7]⟩)

theorem reads_the_dwallet_asked_for_sample : ∃ tr st dwallet, st.share = .encrypted ∧
    AskedDWalletRead samplePrimitives sampleProgramId ⟨[List.replicate 32 7]⟩
      (.address sampleDWalletAddress) tr st dwallet := by
  have hrun : (sampleReadAt.transcript sampleAnswersAt 0).any (fun r => match r.2 with
      | .ok st => st.share == .encrypted
      | .error _ => false) = true := by
    decide +kernel
  obtain ⟨⟨tr, result⟩, hsome, hresult⟩ := (Option.any_eq_true _ _).mp hrun
  have hreturns := Prog.returns_of_transcript hsome
  cases result with
  | error e => cases hresult
  | ok st =>
    have hencrypted : st.share = .encrypted := by simpa using hresult
    obtain ⟨dwallet, hread⟩ := reads_the_dwallet_asked_for hreturns
    exact ⟨tr, st, dwallet, hencrypted, hread⟩

end Ika.Solana
