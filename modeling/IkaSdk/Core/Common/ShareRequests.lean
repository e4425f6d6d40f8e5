import IkaSdk.Core.Common.Submission
import IkaSdk.Core.Grpc.Requests

/-! Making a share public and re-encrypting it: the request that is built, the
attestation its lookup asks for, and the check of its answer. -/

namespace Ika

open Wire Interaction Eff

/-! ## Share attestations in advance -/

/-- The fields of a dWallet's attestation that a share attestation repeats. -/
structure DWalletAttested where
  attestationData : Bytes
  intendedChainSender : Bytes
  publicKey : Bytes
deriving DecidableEq, Repr

inductive DWalletShare
  | encrypted (holder : Bytes)
  | publicShare
deriving DecidableEq, Repr

/-- A dWallet and what the user side keeps to use it. -/
structure DWallet where
  curve : ℕ
  publicKey : Bytes
  networkPublicOutput : Bytes
  userSecretKeyShare : Bytes
  attestation : NetworkSignedAttestation
  networkKeyId : Bytes
  importedSessionIdentifier : Option Bytes
  share : DWalletShare
deriving DecidableEq, Repr

/-- A usability result, with the public output its check verified. -/
structure DWalletUsable where
  object : UsableObject
  publicOutput : Bytes
deriving DecidableEq, Repr

section Attestations

variable (P : Primitives)

/-- The bytes of the share attestation the network signs for a make-public session. -/
def publicShareAttestationBytes (sessionIdentifier : Bytes) (dwallet : DWalletAttested)
    (publicUserSecretKeyShare : Bytes) : Except String Bytes :=
  versionedPublicUserKeyShareAttestationBcs.serialize {
    sessionIdentifier
    intendedChainSender := dwallet.intendedChainSender
    dwalletPublicKey := dwallet.publicKey
    publicUserSecretKeyShare
    dwalletAttestationDigest := dwalletAttestationDigest P dwallet.attestationData }

/-- The bytes of the share attestation the network signs for a re-encryption session. -/
def encryptedShareAttestationBytes (sessionIdentifier : Bytes) (dwallet : DWalletAttested)
    (encryptedShareAndProof encryptionKey holderSignerPublicKey : Bytes) : Except String Bytes :=
  versionedEncryptedUserKeyShareAttestationBcs.serialize {
    sessionIdentifier
    intendedChainSender := dwallet.intendedChainSender
    dwalletPublicKey := dwallet.publicKey
    encryptedShareHash := P.keccak256 encryptedShareAndProof
    encryptionKeyHash := P.keccak256 encryptionKey
    holder := ⟨.ed25519, holderSignerPublicKey⟩
    dwalletAttestationDigest := dwalletAttestationDigest P dwallet.attestationData }

/-- The lookup of the dWallet's records on the chain. -/
def lookupOf (dwallet : DWallet) : DWalletLookup :=
  ⟨dwallet.curve, dwallet.publicKey, dwallet.importedSessionIdentifier⟩

def dwalletAttested (dwallet : DWallet) : Except SdkError DWalletAttested := do
  let attestationData := dwallet.attestation.attestationData
  let data ← fromPackage (P.parse versionedDWalletDataAttestationBcs attestationData)
  return ⟨attestationData, data.intendedChainSender, data.publicKey⟩

/-- How the engine describes a make-public session for its lookup. -/
def describeMakeSharePublic (dwallet : DWallet) (sessionIdentifier : Bytes) :
    Except SdkError PendingRequestKind := do
  let attested ← dwalletAttested P dwallet
  let bytes ← fromPackage
    (publicShareAttestationBytes P sessionIdentifier attested dwallet.userSecretKeyShare)
  return .makeSharePublic (lookupOf dwallet) (P.keccak256 bytes)

/-- How the engine describes a re-encryption session for its lookup. -/
def describeReEncryptShare (dwallet : DWallet)
    (encryptedShareAndProof encryptionKey newHolderSignerPublicKey sessionIdentifier : Bytes) :
    Except SdkError PendingRequestKind := do
  let attested ← dwalletAttested P dwallet
  let bytes ← fromPackage (encryptedShareAttestationBytes P sessionIdentifier attested
    encryptedShareAndProof encryptionKey newHolderSignerPublicKey)
  return .reEncryptShare (lookupOf dwallet) newHolderSignerPublicKey (P.keccak256 bytes)

end Attestations

/-! ## The calls -/

section Checks

def requireServedDWallet (network : Network) (dwallet : DWallet) : Except SdkError Unit := do
  let dwalletKey := toHex dwallet.networkKeyId
  let servedKey := toHex network.networkKeyId
  let curveName := fun number : ℕ => (curves[number]?.map DWalletCurve.name).getD "undefined"
  let dwalletCurve := curveName dwallet.curve
  let servedCurve := curveName network.curveNumber
  ensure (dwallet.networkKeyId = network.networkKeyId) (SdkError.error
    (s!"the dWallet is under the network key {dwalletKey}, and this connection " ++
      s!"serves {servedKey}; connect under the dWallet's key"))
  ensure (dwallet.curve = network.curveNumber) (SdkError.error
    s!"the dWallet is on curve {dwalletCurve}, and this connection serves {servedCurve}")

/-- The dWallet's public output must be the one its ownership check verified. -/
def requireCheckedOutput (dwallet : DWallet) (usable : DWalletUsable) : Except SdkError Unit :=
  ensure (dwallet.networkPublicOutput = usable.publicOutput) (SdkError.error
    ("the dWallet's public output is not the one its ownership check verified in the " ++
      "attestation; take the dWallet's public output from the checked attestation"))

def verifiedDWallet (P : Primitives) (trusted : TrustedNetwork) (dwallet : DWallet) :
    Except SdkError VerifiedDWalletAttestation :=
  verifyDWalletAttestationRecord P (recordOfAttestation dwallet.attestation)
    trusted.toTrustedNetworkKeys
    ⟨dwallet.curve, dwallet.publicKey, dwallet.importedSessionIdentifier⟩

/-- The attestation that an answer holds, past the check that it does. -/
def answeredAttestation : TransactionResponseData → Except SdkError NetworkSignedAttestation
  | .attestation answer => .ok answer
  | _ => .error (.typeError
      "Cannot read properties of undefined (reading 'attestation_data')")

end Checks

structure MadePublic where
  dwallet : DWallet
  publicShareAttestation : PublicShareAttestation
deriving DecidableEq, Repr

/-- What a re-encryption returns, and what the sender gives the new holder. -/
structure ReEncryptedShare where
  dwalletAttestation : NetworkSignedAttestation
  shareAttestation : NetworkSignedAttestation
  encryptedShareAndProof : Bytes
deriving DecidableEq, Repr

structure ReEncryptArgs where
  dwallet : DWallet
  usable : DWalletUsable
  newHolderSignerPublicKey : Bytes
  newHolderEntry : HolderEncryptionKeyEntry

section Calls

variable (P : Primitives) {H : Type} (network : Network) (trusted : TrustedNetwork)
  (issued : List IssuedState)

/-- The build of a request that one of the builders makes now. -/
def builtNow (request : ℤ → Except SdkError RequestOfResult) :
    EngineEff Unit H (BuiltRequest Unit) := do
  let now ← nowMs
  let built ← sdk (request now)
  return ⟨built.request, ()⟩

/-- The submission of a request whose builder and lookup keep nothing else. -/
def submitShare (requester : Requester) (request : ℤ → Except SdkError RequestOfResult)
    (kind : Bytes → Except SdkError PendingRequestKind) (fuel : ℕ) :
    EngineEff Unit H (TransactionResponseData × Sent Unit) :=
  submit P network requester (fun _ _ => builtNow request) (fun session _ => sdk (kind session))
    fuel rebuildsAfterEpochClose

/-- What the check of a make-public answer is given about the request. -/
def sentMakeSharePublic (dwallet : DWallet) (sessionIdentifier : Bytes) : SentMakeSharePublic where
  sessionIdentifier
  networkKeyId := network.networkKeyId
  publicUserSecretKeyShare := dwallet.userSecretKeyShare

/-- Reveal the dWallet's user share, and return the dWallet with a public share. -/
def makeSharePublic (requester : Requester) (dwallet : DWallet) (usable : DWalletUsable)
    (fuel : ℕ) : EngineEff Unit H MadePublic := do
  sdk (requireServedDWallet network dwallet)
  sdk (requireCheckedOutput dwallet usable)
  let verified ← sdk (verifiedDWallet P trusted dwallet)
  let answered ← submitShare P network requester
    (fun now => makeSharePublicRequest issued now usable.object dwallet.userSecretKeyShare)
    (describeMakeSharePublic P dwallet) fuel
  let publicShareAttestation ← sdk (verifyMakeSharePublicAnswer P answered.1 trusted verified
    (sentMakeSharePublic network dwallet answered.2.sessionIdentifier))
  return ⟨{ dwallet with share := .publicShare }, publicShareAttestation⟩

/-- What the check of a re-encryption's answer is given about the request. -/
def sentReEncryptShare (args : ReEncryptArgs) (encryptedShareAndProof sessionIdentifier : Bytes) :
    SentReEncryptShare where
  sessionIdentifier
  networkKeyId := network.networkKeyId
  encryptedShareAndProof
  encryptionKey := args.newHolderEntry.encryptionKey
  holderSignerPublicKey := args.newHolderSignerPublicKey

/-- Re-encrypt the dWallet's user share to a new holder. `encryptSecretShare` is
the client's encryption of a share to a key. -/
def reEncryptShare (encryptSecretShare : Bytes → Bytes → Except SdkError Bytes)
    (requester : Requester) (args : ReEncryptArgs) (fuel : ℕ) :
    EngineEff Unit H ReEncryptedShare := do
  sdk (requireServedDWallet network args.dwallet)
  sdk (requireCheckedOutput args.dwallet args.usable)
  let verified ← sdk (verifiedDWallet P trusted args.dwallet)
  let build := fun (encryptedShareAndProof : Bytes) (now : ℤ) => reEncryptShareRequest issued now {
    usable := args.usable.object
    encryptedShareAndProof
    newHolderSignerPublicKey := args.newHolderSignerPublicKey
    newHolderEntry := args.newHolderEntry }
  -- Checked before anything is encrypted.
  discard (builtNow (build []))
  let encryptedShareAndProof ← sdk
    (encryptSecretShare args.dwallet.userSecretKeyShare args.newHolderEntry.encryptionKey)
  let answered ← submitShare P network requester (build encryptedShareAndProof)
    (describeReEncryptShare P args.dwallet encryptedShareAndProof
      args.newHolderEntry.encryptionKey args.newHolderSignerPublicKey) fuel
  discard (sdk (verifyReEncryptShareAnswer P answered.1 trusted verified
    (sentReEncryptShare network args encryptedShareAndProof answered.2.sessionIdentifier)))
  let answer ← sdk (answeredAttestation answered.1)
  return ⟨args.dwallet.attestation, answer, encryptedShareAndProof⟩

end Calls

/-! ## Pending requests of a submission -/

section Pending

variable {P : Primitives} {T H : Type} {network : Network} {requester : Requester} {fuel : ℕ}
  {tr : List (EngineEvent T H)} {epoch chainEpoch : ℕ} {session : Bytes} {refusal : String}
  {pending' : PendingRequest} {sent : Sent T}

/-- A pending request of a session: what the engine knows of it and how it is described. -/
def PendingOf (network : Network) (requester : Requester)
    (describe : Bytes → T → EngineEff T H PendingRequestKind) (epoch : ℕ) (session : Bytes)
    (pending : PendingRequest) : Prop :=
  ∃ kept kind tr, Gives (describe session kept) tr kind ∧
    pending = pendingRequest network requester ⟨epoch, session, kept⟩ kind

theorem throws_answerOrThrow {closed : String} {outcome : RequestOutcome}
    {pending : PendingRequest}
    (h : Throws (answerOrThrow (H := H) sent closed outcome pending) tr
      (.epochClosedBeforeAnswer epoch session chainEpoch refusal pending')) :
    epoch = sent.epoch ∧ session = sent.sessionIdentifier ∧ pending' = pending := by
  have hunknown : ∀ {tr}, Throws (do
      let chainEpoch ← perform (T := T) (H := H) .epoch
      (throw (.epochClosedBeforeAnswer sent.epoch sent.sessionIdentifier chainEpoch closed
        pending) : EngineEff T H (TransactionResponseData × Sent T))) tr
        (.epochClosedBeforeAnswer epoch session chainEpoch refusal pending') →
      epoch = sent.epoch ∧ session = sent.sessionIdentifier ∧ pending' = pending := by
    intro tr h
    rcases throws_bind_iff.mp h with hread | ⟨_, _, _, -, -, hthrow⟩
    · exact (throws_liftOp_iff.mp hread).elim
    · obtain ⟨-, herror⟩ := throws_throw_iff.mp hthrow
      cases herror
      exact ⟨rfl, rfl, rfl⟩
  cases outcome with
  | notRun => exact hunknown h
  | ran record => cases (throws_throw_iff.mp h).2
  | signature signature => cases (throws_pure_iff.mp h)
  | unknown => exact hunknown h

variable {describe : Bytes → T → EngineEff T H PendingRequestKind}
  {build : ℕ → Bytes → EngineEff T H (BuiltRequest T)}

/-- The close that a submission throws names the session it looked up. -/
theorem throws_afterClose_pending {closed : String} (hdescribe : Describes describe)
    {notRun : Option (EngineEff T H (TransactionResponseData × Sent T))}
    (h : Throws (afterClose P network requester describe fuel notRun
      (.closedBeforeAnswer sent closed)) tr
      (.epochClosedBeforeAnswer epoch session chainEpoch refusal pending')) :
    PendingOf network requester describe epoch session pending' ∨
      ∃ next rest, notRun = some next ∧ Throws next rest
        (.epochClosedBeforeAnswer epoch session chainEpoch refusal pending') := by
  rcases throws_bind_iff.mp h with hpending | ⟨tr₁, tr₂, pending, rfl, hpending, hrest⟩
  · obtain ⟨error, herror⟩ :=
      throwsOnly_bind (hdescribe.errors _ _) (fun _ => throwsOnly_pure _) tr _ hpending
    cases herror
  obtain ⟨kind, hkind, rfl⟩ := gives_pending hpending
  rcases throws_bind_iff.mp hrest with hwait | ⟨tr₃, tr₄, outcome, rfl, houtcome, hnext⟩
  · have hnever : ThrowsOnly (fun _ => False) (outcomeAfterEpochClose (T := T) (H := H) P network
        (pendingRequest network requester sent kind) fuel) :=
      throwsOnly_outcomeAfterEpochClose _ fuel
    exact (hnever tr₂ _ hwait).elim
  split at hnext
  · next next => exact .inr ⟨next, tr₄, rfl, hnext⟩
  · obtain ⟨rfl, rfl, rfl⟩ := throws_answerOrThrow hnext
    exact .inl ⟨sent.kept, kind, tr₁, hkind, rfl⟩

/-- The sending does not itself throw the close of a looked up session. -/
theorem throws_signAndSend_not {sign : SignedRequestData → EngineEff T H SignedRequest}
    {current : ℕ} (hsign : Signs requester.keypair.publicKey sign)
    (hbuild : ∀ session, ThrowsOnly IsSdk (build current session)) :
    ¬Throws (signAndSend P network requester current sign build fuel) tr
      (.epochClosedBeforeAnswer epoch session chainEpoch refusal pending') := by
  intro h
  rcases throws_signAndSend hsign hbuild h with
    ⟨error, herror⟩ | ⟨preimage, tr₃, tr₄, built, rfl, hbuilt, hsends, hclosed⟩
  · cases herror
  · rcases hclosed with ⟨error, herror⟩ | ⟨refusal', hclosed⟩
    · cases herror
    · cases hclosed

theorem throws_submitOnce_not (hbuild : ∀ epoch session, ThrowsOnly IsSdk (build epoch session)) :
    ¬Throws (submitOnce P network requester build fuel) tr
      (.epochClosedBeforeAnswer epoch session chainEpoch refusal pending') := by
  intro h
  rcases throws_bind_iff.mp h with hread | ⟨tr₁, tr₂, current, rfl, hread, hsend⟩
  · obtain ⟨error, herror⟩ := throwsOnly_readChainEpoch tr _ hread
    cases herror
  · exact throws_signAndSend_not (signs_signFor signs_signGrpcRequest) (hbuild current) hsend

/-- What catches a close throws another only with the pending request of its session, or from
what follows a session that never ran. -/
theorem throws_caught_pending (hdescribe : Describes describe)
    {p : EngineEff T H (TransactionResponseData × Sent T)}
    {notRun : Option (EngineEff T H (TransactionResponseData × Sent T))}
    (hp : ∀ tr, ¬Throws p tr
      (.epochClosedBeforeAnswer epoch session chainEpoch refusal pending'))
    (h : Throws (tryCatch p (afterClose P network requester describe fuel notRun)) tr
      (.epochClosedBeforeAnswer epoch session chainEpoch refusal pending')) :
    PendingOf network requester describe epoch session pending' ∨
      ∃ next rest, notRun = some next ∧ Throws next rest
        (.epochClosedBeforeAnswer epoch session chainEpoch refusal pending') := by
  obtain ⟨tr₁, tr₂, e, rfl, hfirst, hafter⟩ := throws_tryCatch_iff.mp h
  cases e with
  | closedBeforeAnswer sent closed => exact throws_afterClose_pending hdescribe hafter
  | _ =>
    -- Every other error is thrown again as it is.
    obtain ⟨-, hsame⟩ := throws_throw_iff.mp hafter
    rw [hsame] at hfirst
    exact (hp tr₁ hfirst).elim

/-- Every close that a submission throws carries the pending request of its session. -/
theorem throws_submit_pending (hdescribe : Describes describe)
    (hbuild : ∀ epoch session, ThrowsOnly IsSdk (build epoch session)) {left : ℕ}
    (h : Throws (submit P network requester build describe fuel left) tr
      (.epochClosedBeforeAnswer epoch session chainEpoch refusal pending')) :
    PendingOf network requester describe epoch session pending' := by
  have honce : ∀ tr, ¬Throws (submitOnce P network requester build fuel) tr
      (.epochClosedBeforeAnswer epoch session chainEpoch refusal pending') :=
    fun _ => throws_submitOnce_not hbuild
  induction left generalizing tr with
  | zero =>
    rcases throws_caught_pending hdescribe honce h with hpending | ⟨next, rest, hnone, -⟩
    · exact hpending
    · cases hnone
  | succ left ih =>
    rcases throws_caught_pending hdescribe honce h with hpending | ⟨next, rest, hnext, hrest⟩
    · exact hpending
    · obtain rfl := Option.some.inj hnext
      exact ih hrest

end Pending

end Ika
