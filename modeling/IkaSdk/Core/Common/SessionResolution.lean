import IkaSdk.Core.Common.RequestRecords
import IkaSdk.Core.Grpc.DeployedNetworks

/-! What a client answers for a pending request once the chain shows that its
epoch is settled, and whether a share that the network wrote is on the chain. -/

namespace Ika

open Wire Interaction

/-! ## Pending requests -/

/-- What `resolveSession` found for a pending request. -/
inductive SessionResolution
  | waiting (chainEpoch settledAt : ℕ)
  | ran (record : String)
  | neverRan
  | unknown
deriving DecidableEq, Repr

def SessionResolution.of : RequestOutcome → SessionResolution
  | .notRun => neverRan
  | .ran record => ran record
  | .signature _ => ran "a signature in the voucher"
  | .unknown => unknown

/-- On a custom network, the key that the pending request names; else the listed ones. -/
def resolutionKeys (network : IkaNetwork) (pending : PendingRequest) :
    Except String TrustedNetwork :=
  match network with
  | .custom _ => trustedNetworkKeys (.custom [pending.networkKeyId])
  | .deployed _ => trustedNetworkKeys network

/-- `findSession` is the lookup over the client's own readers, under the keys. -/
def resolveSession {I : Interface} (network : IkaNetwork) (chainEpoch : Eff I SdkError ℕ)
    (findSession : TrustedNetworkKeys → Eff I SdkError RequestOutcome)
    (pending : PendingRequest) : Eff I SdkError SessionResolution := do
  let epoch ← chainEpoch
  let settledAt := settledAtEpoch pending
  if epoch < settledAt then return .waiting epoch settledAt
  else
    let trusted ← fromPackage (resolutionKeys network pending)
    let outcome ← findSession trusted.toTrustedNetworkKeys
    return .of outcome

/-! ## Shares that wait for their acceptance -/

/-- The stored fields a share's record check refuses while the share waits for
its holder's acceptance. -/
def unacceptedShareFields : List String := ["accepted", "acceptance_signature"]

/-- Whether an error is the refusal of one of those fields. -/
def refusesAcceptance : SdkError → Bool
  | .attestationRecord .record _ (some field) => unacceptedShareFields.contains field
  | _ => false

theorem refusesAcceptance_other {check : AttestationRecordCheck} {reason field : String}
    (h : unacceptedShareFields.contains field = false) :
    refusesAcceptance (.attestationRecord check reason (some field)) = false := by
  cases check with
  | record => exact h
  | _ => rfl

/-- Whether the chain holds the holder's share that is read, accepted or waiting. -/
def shareIsOnChain {I : Interface}
    (readEncryptedShare : Eff I SdkError (Option CheckedEncryptedShareRecord)) :
    Eff I SdkError Bool :=
  tryCatch (do return (← readEncryptedShare).isSome) fun error =>
    if refusesAcceptance error then return true else throw error

end Ika
