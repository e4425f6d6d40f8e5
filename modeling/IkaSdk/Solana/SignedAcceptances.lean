import IkaSdk.Core.Grpc.ShareAcceptance
import IkaSdk.Solana.StoredShares

/-! What becomes of an acceptance that a new holder signs: the account that stores
it passes the checks of its dWallet's share, unless the share names the session
that created the dWallet. -/

namespace Ika.Solana

open Wire Interaction Eff

variable {P : Primitives} {args : AcceptReEncryptedShareArguments}
  {acceptance : ShareAcceptanceSignature} {dwallet : VerifiedDWalletAttestation}
  {share : EncryptedShareAttestation} {account : EncryptedUserSecretKeyShareAccount}
  {dwalletAddress : Bytes} {given : Option Bytes}

/-- An account of the dWallet that stores the ciphertext and the acceptance. -/
structure StoresAcceptance (account : EncryptedUserSecretKeyShareAccount)
    (args : AcceptReEncryptedShareArguments) (acceptance : ShareAcceptanceSignature)
    (dwalletAddress : Bytes) : Prop where
  dwallet : account.dwallet = dwalletAddress
  owner : account.encryptionKeyOwner = acceptance.holderPublicKey
  ciphertext : account.encryptedShare = args.encryptedShareAndProof
  accepted : account.accepted = true
  signature : account.acceptanceSignature = acceptance.signature
  digest : account.acceptanceDigest = acceptance.acceptanceDigest

/-- The account of a re-encrypted share, which names the share it was made from. -/
structure StoresReEncryption (account : EncryptedUserSecretKeyShareAccount)
    (args : AcceptReEncryptedShareArguments) (acceptance : ShareAcceptanceSignature)
    (dwalletAddress : Bytes) : Prop
    extends StoresAcceptance account args acceptance dwalletAddress where
  isReEncrypted : account.isReEncrypted = true
  sourceLength : account.sourceShare.length = 32
  source : noSourceShare account = false

/-- Both checks of a share's record accept the account and the attestation. -/
def RecordAccepted (P : Primitives) (args : AcceptReEncryptedShareArguments)
    (acceptance : ShareAcceptanceSignature) (dwallet : VerifiedDWalletAttestation)
    (account : EncryptedUserSecretKeyShareAccount) (dwalletAddress : Bytes)
    (given : Option Bytes) : Prop :=
  (∃ attestation, verifyEncryptedShareAttestationRecord P
    (recordOfAttestation args.shareAttestation) args.reader.trustedNetworkKeys dwallet
    acceptance.holderPublicKey = .ok attestation) ∧
  ∃ verified, verifySolanaEncryptedShareRecord P account
    (recordOfAttestation args.shareAttestation) args.reader.trustedNetworkKeys dwallet
    dwalletAddress acceptance.holderPublicKey args.encryptionKey given = .ok verified

/-- The record's check reads the share that the signing decoded. -/
theorem verified_share_eq {record : AttestationRecord} {trusted : TrustedNetworkKeys}
    {holder : Bytes} {share' : EncryptedShareAttestation}
    (hcanonical : AttestationKind.encryptedShare.bcs.serialize share = .ok record.attestationData)
    (h : verifyEncryptedShareAttestationRecord P record trusted dwallet holder = .ok share') :
    share' = share := by
  have hdecodes := (verifyEncryptedShareAttestationRecord_ok h).signed.decodes
  exact Except.ok.inj (hdecodes.symm.trans (P.parse_serialize hcanonical))

theorem isFirstShare_iff :
    isFirstShare share dwallet ↔
      share.sessionIdentifier = dwallet.attestation.sessionIdentifier := beq_iff_eq

/-- A share of another session: the account that stores its acceptance is right. -/
theorem StoresReEncryption.accepted_of_other
    (hchecked : ReEncryptedShareChecked P args dwallet.attestation share)
    (hdata : dwallet.attestationData = args.dwalletAttestation)
    (hsigns : ∀ message, P.ed25519Verify (P.ed25519Sign message args.holderSecretKey) message
      (P.ed25519GetPublicKey args.holderSecretKey) = .ok true)
    (hacceptance : acceptance = signShareAcceptance P args.holderSecretKey
      (P.keccak256 args.shareAttestation.attestationData))
    (hstores : StoresReEncryption account args acceptance dwalletAddress)
    (hother : share.sessionIdentifier ≠ dwallet.attestation.sessionIdentifier) :
    RecordAccepted P args acceptance dwallet account dwalletAddress given := by
  subst hacceptance
  have hattested := (hchecked.right hdata hother).accepted
  have hnotFirst : isFirstShare share dwallet = false := by
    rw [← Bool.not_eq_true, isFirstShare_iff]
    exact hother
  have hholder : share.holder.signerPublicKey = P.ed25519GetPublicKey args.holderSecretKey := by
    rw [hchecked.holder]
  have hstored : StoredShare P account (recordOfAttestation args.shareAttestation)
      args.reader.trustedNetworkKeys dwallet dwalletAddress
      (P.ed25519GetPublicKey args.holderSecretKey) args.encryptionKey share := by
    refine ⟨hstores.dwallet, hattested, hholder.trans hstores.owner.symm,
      ⟨hstores.sourceLength, ?_⟩, ?_, ?_, hchecked.encryptionKey.symm⟩
    · rw [hnotFirst, hstores.source]
      rfl
    · rw [hnotFirst]
      exact hstores.isReEncrypted
    · rw [hstores.ciphertext]
      exact hchecked.ciphertext.symm
  refine ⟨⟨share, hattested⟩, ?_⟩
  -- The digest to accept is the one signed, and the signature is the holder's over it.
  have hdigest : acceptedDigest P (recordOfAttestation args.shareAttestation) dwallet share =
      account.acceptanceDigest := by
    rw [hstores.digest]
    unfold acceptedDigest solanaAcceptedDigest
    rw [hnotFirst]
    rfl
  have hverifies : signatureVerifies P account.acceptanceSignature account.acceptanceDigest
      share.holder.signerPublicKey := by
    rw [hstores.signature, hstores.digest, hholder]
    exact signatureVerifies_iff.mpr (hsigns _)
  rw [verifySolanaEncryptedShareRecord_eq]
  have hfront := requireStoredShare_iff.mpr hstored
  rw [show (signShareAcceptance P args.holderSecretKey
    (P.keccak256 args.shareAttestation.attestationData)).holderPublicKey =
      P.ed25519GetPublicKey args.holderSecretKey from rfl, hfront, ok_bind, hdigest]
  unfold requireAcceptance requireStoredField
  rw [hstores.accepted]
  simp only [Bool.not_true, Bool.false_and, Bool.true_or, Bool.false_eq_true, if_false]
  rw [ensure_of trivial, ok_bind, ensure_of trivial, ok_bind, ensure_of hverifies]
  exact ⟨_, rfl⟩

/-- What an accepted account of a share of the dWallet's own session shows: it is
a first share's, accepted by a signature over the dWallet's digest. -/
theorem StoresAcceptance.own_session
    (hchecked : ReEncryptedShareChecked P args dwallet.attestation share)
    (hacceptance : acceptance = signShareAcceptance P args.holderSecretKey
      (P.keccak256 args.shareAttestation.attestationData))
    (hstores : StoresAcceptance account args acceptance dwalletAddress)
    (hown : share.sessionIdentifier = dwallet.attestation.sessionIdentifier)
    (h : RecordAccepted P args acceptance dwallet account dwalletAddress given) :
    account.isReEncrypted = false ∧ P.keccak256 dwallet.attestationData =
      P.keccak256 args.shareAttestation.attestationData := by
  obtain ⟨-, verified, hverified⟩ := h
  rw [verifySolanaEncryptedShareRecord_eq] at hverified
  obtain ⟨share', hfront, hrest⟩ := bind_ok hverified
  have hstored := requireStoredShare_iff.mp hfront
  obtain rfl := verified_share_eq hchecked.signed.canonical hstored.attested
  have hfirst : isFirstShare share' dwallet = true := isFirstShare_iff.mpr hown
  refine ⟨by rw [hstored.isReEncrypted, hfirst]; rfl, ?_⟩
  obtain ⟨r, haccepted, -⟩ := bind_ok hrest
  obtain ⟨_, -, haccepted⟩ := bind_ok haccepted
  obtain ⟨_, hdigest, -⟩ := bind_ok haccepted
  have hdigest : account.acceptanceDigest =
      acceptedDigest P (recordOfAttestation args.shareAttestation) dwallet share' :=
    ensure_ok hdigest
  unfold acceptedDigest solanaAcceptedDigest at hdigest
  rw [hfirst, if_pos rfl] at hdigest
  rw [← hdigest, hstores.digest, hacceptance]
  rfl

/-- An acceptance that a run signed is accepted with the record that stores it
exactly when the share names another session than the dWallet's own. In the
dWallet's own session no account that stores it is accepted, whatever else it
stores, unless the hash takes the two attestations for one. -/
theorem signed_acceptance_usable_iff (P : Primitives) (decrypt : DecryptUserShare)
    (args : AcceptReEncryptedShareArguments)
    (hsigns : ∀ message, P.ed25519Verify (P.ed25519Sign message args.holderSecretKey) message
      (P.ed25519GetPublicKey args.holderSecretKey) = .ok true)
    {H : Type} {tr : List (Event (ownershipInterface H))} {acceptance : ShareAcceptanceSignature}
    (h : Gives (signReEncryptedShareAcceptance P decrypt args) tr acceptance)
    {dwallet : VerifiedDWalletAttestation}
    (hdata : dwallet.attestationData = args.dwalletAttestation)
    (hattestation : decodeDWalletAttestation P dwallet.attestationData = .ok dwallet.attestation) :
    ∃ share, decodeEncryptedShareAttestation P args.shareAttestation.attestationData = .ok share ∧
      (∀ account dwalletAddress given, StoresReEncryption account args acceptance dwalletAddress →
        (RecordAccepted P args acceptance dwallet account dwalletAddress given ↔
          share.sessionIdentifier ≠ dwallet.attestation.sessionIdentifier)) ∧
      ∀ account dwalletAddress given, StoresAcceptance account args acceptance dwalletAddress →
        share.sessionIdentifier = dwallet.attestation.sessionIdentifier →
        RecordAccepted P args acceptance dwallet account dwalletAddress given →
        P.keccak256 dwallet.attestationData =
          P.keccak256 args.shareAttestation.attestationData := by
  obtain ⟨attestation, share, hparse, hchecked, hacceptance⟩ :=
    signReEncryptedShareAcceptance_gives h
  have hsame := decodeDWalletAttestation_ok hattestation
  rw [hdata] at hsame
  obtain rfl : attestation = dwallet.attestation := Except.ok.inj (hparse.symm.trans hsame)
  refine ⟨share, decodeEncryptedShareAttestation_serialize hchecked.signed.canonical, ?_, ?_⟩
  · intro account dwalletAddress given hstores
    constructor
    · intro haccepted hown
      have hfirst := (hstores.own_session hchecked hacceptance hown haccepted).1
      rw [hstores.isReEncrypted] at hfirst
      cases hfirst
    · exact hstores.accepted_of_other hchecked hdata hsigns hacceptance
  · intro account dwalletAddress given hstores hown haccepted
    exact (hstores.own_session hchecked hacceptance hown haccepted).2

def sampleAcceptedAccount (acceptance : ShareAcceptanceSignature) :
    EncryptedUserSecretKeyShareAccount where
  dwallet := List.replicate 32 9
  encryptionKeyOwner := acceptance.holderPublicKey
  sourceShare := List.replicate 32 18
  isReEncrypted := true
  createdEpoch := 9
  bump := 255
  accepted := true
  reserved := List.replicate 7 0
  acceptanceSignature := acceptance.signature
  acceptanceDigest := acceptance.acceptanceDigest
  encryptedShare := List.replicate 40 16

theorem sampleAcceptedAccount_stores (session : Bytes) (acceptance : ShareAcceptanceSignature) :
    StoresReEncryption (sampleAcceptedAccount acceptance) (sampleAcceptArguments session)
      acceptance (List.replicate 32 9) := by
  have hsource : ((List.replicate 32 (18 : UInt8)).length == 32 &&
      (List.replicate 32 (18 : UInt8)).all (· == 0)) = false := by decide
  exact ⟨⟨rfl, rfl, rfl, rfl, rfl, rfl⟩, rfl, rfl, hsource⟩

theorem sampleVerified_decodes :
    decodeDWalletAttestation samplePrimitives sampleVerified.attestationData =
      .ok sampleVerified.attestation := by
  decide +kernel

/-- A share of another session than the dWallet's, and its accepted record. -/
theorem signed_acceptance_usable_sample : ∃ acceptance,
    RecordAccepted samplePrimitives (sampleAcceptArguments (List.replicate 32 15)) acceptance
      sampleVerified (sampleAcceptedAccount acceptance) (List.replicate 32 9) none := by
  obtain ⟨tr, acceptance, h⟩ :=
    sampleAcceptRun_gives (List.replicate 32 15) (by decide +kernel)
  have hdata : sampleVerified.attestationData =
      (sampleAcceptArguments (List.replicate 32 15)).dwalletAttestation := rfl
  obtain ⟨share, hdecoded, husable, -⟩ := signed_acceptance_usable_iff samplePrimitives
    sampleDecrypt _ (fun _ => rfl) h hdata sampleVerified_decodes
  have hother : (decodeEncryptedShareAttestation samplePrimitives
      (sampleReEncryptedData (List.replicate 32 15))).toOption.all
        (fun share => share.sessionIdentifier != sampleVerified.attestation.sessionIdentifier) := by
    decide +kernel
  have hdecoded : decodeEncryptedShareAttestation samplePrimitives
      (sampleReEncryptedData (List.replicate 32 15)) = .ok share := hdecoded
  rw [hdecoded] at hother
  have hother : (share.sessionIdentifier != sampleVerified.attestation.sessionIdentifier) :=
    hother
  refine ⟨acceptance, (husable _ _ _ (sampleAcceptedAccount_stores _ acceptance)).mpr ?_⟩
  exact bne_iff_ne.mp hother

/-- A share of the dWallet's own session: the run signs, and no account that stores
the acceptance is accepted. -/
theorem signed_acceptance_refused : ∃ tr acceptance,
    Gives (signReEncryptedShareAcceptance (H := Unit) samplePrimitives sampleDecrypt
      (sampleAcceptArguments sampleAttestation.sessionIdentifier)) tr acceptance ∧
    StoresReEncryption (sampleAcceptedAccount acceptance)
      (sampleAcceptArguments sampleAttestation.sessionIdentifier) acceptance
      (List.replicate 32 9) ∧
    ¬RecordAccepted samplePrimitives (sampleAcceptArguments sampleAttestation.sessionIdentifier)
      acceptance sampleVerified (sampleAcceptedAccount acceptance) (List.replicate 32 9) none := by
  obtain ⟨tr, acceptance, h⟩ :=
    sampleAcceptRun_gives sampleAttestation.sessionIdentifier (by decide +kernel)
  refine ⟨tr, acceptance, h, sampleAcceptedAccount_stores _ acceptance, ?_⟩
  rintro ⟨⟨attestation, hverified⟩, -⟩
  obtain ⟨_, _, -, -, rfl⟩ := signReEncryptedShareAcceptance_gives h
  have hrefused : (verifyEncryptedShareAttestationRecord samplePrimitives
      (recordOfAttestation
        (sampleAcceptArguments sampleAttestation.sessionIdentifier).shareAttestation)
      sampleReader.trustedNetworkKeys sampleVerified (List.replicate 32 14)).toOption.isNone := by
    decide +kernel
  have hverified : verifyEncryptedShareAttestationRecord samplePrimitives
      (recordOfAttestation
        (sampleAcceptArguments sampleAttestation.sessionIdentifier).shareAttestation)
      sampleReader.trustedNetworkKeys sampleVerified (List.replicate 32 14) =
        .ok attestation := hverified
  rw [hverified] at hrefused
  cases hrefused

end Ika.Solana
