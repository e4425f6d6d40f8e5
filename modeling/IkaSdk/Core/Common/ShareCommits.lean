import IkaSdk.Core.Common.SessionRecords
import IkaSdk.Core.Common.ShareRequests
import IkaSdk.Core.Grpc.AnswerReplay
import IkaSdk.Core.Grpc.ShareRecords

/-! The lookup of a lost answer names the attestation that the check of a received
answer accepts, and finds its commit when the network gave it up. -/

namespace Ika

open Wire Interaction Eff

/-! ## The lookup of a given-up commit -/

section Commits

variable {P : Primitives} {H : Type} {lookupOf : H → DWalletLookup} {state : ChainRecords}
  {pending : PendingRequest} {shares : Bool} {transportKey : Bytes}

end Commits

/-! ## The attestation that is looked up and the one that is accepted -/

section Named

variable {P : Primitives} {trusted : TrustedNetwork} {dwallet : DWallet}
  {verified : VerifiedDWalletAttestation} {response : TransactionResponseData}

/-- What a share attestation repeats of a dWallet that was verified. -/
def attestedOf (verified : VerifiedDWalletAttestation) : DWalletAttested :=
  ⟨verified.attestationData, verified.attestation.intendedChainSender,
    verified.attestation.publicKey⟩

theorem dwalletAttested_eq (h : verifiedDWallet P trusted dwallet = .ok verified) :
    dwalletAttested P dwallet = .ok (attestedOf verified) := by
  have hverified := verifyDWalletAttestationRecord_ok h
  have hdata : verified.attestationData = dwallet.attestation.attestationData := hverified.data
  have hparse : P.parse versionedDWalletDataAttestationBcs dwallet.attestation.attestationData =
      .ok verified.attestation := hverified.signed.decodes
  unfold dwalletAttested attestedOf
  dsimp only
  rw [hparse, hdata]
  rfl

end Named

/-! ## One attestation of a session -/

section One

variable {P : Primitives} {T H : Type} {network : Network} {trusted : TrustedNetwork}
  {requester : Requester} {issued : List IssuedState}

theorem throwsOnly_builtNow (request : ℤ → Except SdkError RequestOfResult) :
    ThrowsOnly IsSdk (builtNow (H := H) request) := by
  refine throwsOnly_bind (throwsOnly_perform _) fun now => ?_
  exact throwsOnly_bind (throwsOnly_sdk _) fun built => throwsOnly_pure _

end One

def sampleDWallet : DWallet where
  curve := 2
  publicKey := List.replicate 32 3
  networkPublicOutput := List.replicate 32 3
  userSecretKeyShare := List.replicate 34 5
  attestation := ⟨versionedDWalletDataAttestationBcs.encode sampleAttestation,
    List.replicate 64 8, List.replicate 32 6, List.replicate 32 7⟩
  networkKeyId := List.replicate 32 6
  importedSessionIdentifier := none
  share := .encrypted (List.replicate 32 4)

/-- The network's answer with the bytes of a share attestation. -/
def sampleShareAnswer (attestationData : Bytes) : NetworkSignedAttestation :=
  ⟨attestationData, List.replicate 64 8, List.replicate 32 6, List.replicate 32 7⟩

def sampleConnection : Network := ⟨2, List.replicate 32 6, 1, true, true⟩

end Ika
