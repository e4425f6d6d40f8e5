import IkaSdk.Core.Grpc.AttestationRecord
import IkaSdk.Lib.Polling

/-! The committee a client trusts: the check of what a validator answers against
the client's own chain, and the members of the committees that passed it. -/

namespace Ika

open Wire Interaction

def committeeAttestationLength : ℕ := 41

structure CommitteeMember where
  consensusPubkey : Bytes
  networkPubkey : Bytes
deriving DecidableEq, Repr

def committeeMemberBcs : Codec CommitteeMember :=
  ((Codec.fixedBytes 32).pair (Codec.fixedBytes 32)).iso (fun f => ⟨f.1, f.2⟩)
    (fun m => (m.consensusPubkey, m.networkPubkey)) fun _ => rfl

def committeeMembersBcs : Codec (List CommitteeMember) := committeeMemberBcs.vector

structure CommitteeAttestation where
  epoch : ℕ
  membersDigest : Bytes
deriving DecidableEq, Repr

/-- A committee with the network's signature, as a validator serves it. -/
structure SignedCommittee where
  members : Bytes
  attestation : Bytes
  signerNoaPublicKey : Bytes
  signature : Bytes
deriving DecidableEq, Repr

structure VerifiedCommittee where
  epoch : ℕ
  members : List CommitteeMember
deriving DecidableEq, Repr

structure CommitteeAnswer where
  committee : Option SignedCommittee
  nextCommittee : Option SignedCommittee
deriving DecidableEq, Repr

structure VerifiedCommittees where
  /-- The epoch of the chain that the committees were checked against. -/
  chainEpoch : ℕ
  committee : VerifiedCommittee
  nextCommittee : Option VerifiedCommittee
deriving DecidableEq, Repr

/-! ## The attestation and the members -/

/-- Negative when `left` sorts before `right`, byte by byte. -/
def compareBytes : Bytes → Bytes → ℤ
  | [], right => -right.length
  | _ :: _, [] => 1
  | l :: left, r :: right => if l ≠ r then (if l < r then -1 else 1) else compareBytes left right

def decodeCommitteeAttestation (bytes : Bytes) : Except String CommitteeAttestation := do
  match bytes with
  | [] => throw "the committee attestation is empty"
  | variant :: fields =>
    ensure (variant = 0) s!"the committee attestation has an unknown variant {variant}"
    ensure (bytes.length = committeeAttestationLength)
      s!"the committee attestation is {bytes.length} bytes, not {committeeAttestationLength}"
    return { epoch := leValue (fields.take 8), membersDigest := fields.drop 8 }

def encodeCommitteeAttestation (attestation : CommitteeAttestation) : Except String Bytes := do
  ensure (attestation.membersDigest.length = 32)
    s!"the members' digest is {attestation.membersDigest.length} bytes, not 32"
  ensure (attestation.epoch ≤ 0xffffffffffffffff) s!"the epoch {attestation.epoch} is not a u64"
  return 0 :: (leBytes 8 attestation.epoch ++ attestation.membersDigest)

/-- Each member sorts before the one after it. -/
def strictlyAscending (list : List CommitteeMember) : Bool :=
  (list.zip list.tail).all fun pair =>
    decide (compareBytes pair.1.consensusPubkey pair.2.consensusPubkey < 0)

/-! ## The epochs -/

structure ChainEpochRetry where
  pauseMs : ℤ
  budgetMs : ℤ
deriving DecidableEq, Repr

def chainEpochRetry : ChainEpochRetry := ⟨5000, 60000⟩

inductive EpochStanding
  | old
  | fresh
  | ahead
deriving DecidableEq, Repr

def epochStanding (epoch chainEpoch : ℕ) : EpochStanding :=
  if epoch < chainEpoch then .old else if epoch - chainEpoch ≤ 1 then .fresh else .ahead

/-! ## The reads of the chain -/

inductive CommitteeOp
  | now
  | sleep (ms : ℤ)
  | currentEpoch
  | isRegisteredNetworkKey (noaPublicKey : Bytes)
deriving DecidableEq, Repr

abbrev CommitteeOp.Ans : CommitteeOp → Type
  | now => ℤ
  | sleep _ => Unit
  | currentEpoch => Except SdkError ℕ
  | isRegisteredNetworkKey _ => Except SdkError Bool

abbrev committeeInterface : Interface := ⟨CommitteeOp, CommitteeOp.Ans⟩

abbrev CommitteeEff (α : Type) := Eff committeeInterface SdkError α

namespace CommitteeEff

def now : CommitteeEff ℤ := Eff.liftOp (I := committeeInterface) .now

def sleep (ms : ℤ) : CommitteeEff Unit := Eff.liftOp (I := committeeInterface) (.sleep ms)

def currentEpoch : CommitteeEff ℕ :=
  Eff.ofProg (Prog.perform (I := committeeInterface) .currentEpoch)

def isRegisteredNetworkKey (noaPublicKey : Bytes) : CommitteeEff Bool :=
  Eff.ofProg (Prog.perform (I := committeeInterface) (.isRegisteredNetworkKey noaPublicKey))

end CommitteeEff

/-- What a read of the chain's epoch settles for the committee of `epoch`. -/
def settledByChainEpoch (epoch chainEpoch : ℕ) : Option (Except SdkError ℕ) :=
  match epochStanding epoch chainEpoch with
  | .fresh => some (.ok chainEpoch)
  | .old => some (.error (.error (s!"the validator answered the committee of epoch {epoch}, " ++
      s!"older than the chain's epoch {chainEpoch}")))
  | .ahead => none

def chainEpochPolling (epoch : ℕ) (retry : ChainEpochRetry) :
    Polling committeeInterface SdkError ℕ ℕ where
  read := CommitteeEff.currentEpoch
  settled := settledByChainEpoch epoch
  now := CommitteeEff.now
  sleep := CommitteeEff.sleep
  pauseMs := retry.pauseMs
  outOfTime chainEpoch := .error (s!"the validator answered the committee of epoch {epoch}, " ++
    s!"more than one epoch after the chain's epoch {chainEpoch}, and the chain did not catch up " ++
    s!"in {retry.budgetMs} ms")

/-- The chain's epoch once the committee of `epoch` is fresh against it. -/
def freshChainEpoch (epoch : ℕ) (retry : ChainEpochRetry) (fuel : ℕ) : CommitteeEff ℕ := do
  let budgetEnd := (← CommitteeEff.now) + retry.budgetMs
  (chainEpochPolling epoch retry).poll budgetEnd fuel

section Checks

variable (P : Primitives) (blake2b256 : Bytes → Bytes)

def committeeMembersDigest (members : Bytes) : Bytes := blake2b256 members

def decodeCommitteeMembers (members membersDigest : Bytes) :
    Except String (List CommitteeMember) := do
  ensure (committeeMembersDigest blake2b256 members = membersDigest)
    "the members do not hash to the signed digest"
  let list ← (P.parse committeeMembersBcs members).mapError fun reason =>
    s!"the committee's members do not decode: {reason}"
  ensure (committeeMembersBcs.serialize list = .ok members)
    "the committee's members do not decode: they have trailing bytes"
  ensure (list.length ≠ 0) "the committee has no members"
  ensure (strictlyAscending list)
    "the committee's members are not in strictly ascending order of consensus key"
  return list

/-- `which` names the committee in the errors. -/
def verifySignedCommittee (signed : SignedCommittee) (which : String) :
    Except SdkError VerifiedCommittee := do
  ensure (signed.signerNoaPublicKey.length = 32) (SdkError.error
    s!"the {which} names a signer of {signed.signerNoaPublicKey.length} bytes, not 32")
  ensure (signed.signature.length = 64) (SdkError.error
    s!"the {which} carries a signature of {signed.signature.length} bytes, not 64")
  let refused (reason : String) := SdkError.error s!"the {which} is refused: {reason}"
  let attestation ← (decodeCommitteeAttestation signed.attestation).mapError refused
  ensure (signatureVerifies P signed.signature (committeeSigningMessage signed.attestation)
      signed.signerNoaPublicKey)
    (refused ("the committee's signature does not verify under its signer " ++
      toHex signed.signerNoaPublicKey))
  let members ← (decodeCommitteeMembers P blake2b256 signed.members
    attestation.membersDigest).mapError refused
  return { epoch := attestation.epoch, members }

/-- One served committee, checked except for its epoch. -/
def verifyCommitteeSigner (signed : SignedCommittee) (which : String) :
    CommitteeEff VerifiedCommittee := do
  let verified ← verifySignedCommittee P blake2b256 signed which
  let registered ← CommitteeEff.isRegisteredNetworkKey signed.signerNoaPublicKey
  ensure registered (SdkError.error (s!"the {which} is signed by " ++
    s!"{toHex signed.signerNoaPublicKey}, which is not a network key registered on the chain"))
  return verified

def verifyNextCommittee : Option SignedCommittee → CommitteeEff (Option VerifiedCommittee)
  | none => return none
  | some signed => return some (← verifyCommitteeSigner P blake2b256 signed "next committee")

def verifyCommitteeAnswer (answer : CommitteeAnswer) (retry : ChainEpochRetry) (fuel : ℕ) :
    CommitteeEff VerifiedCommittees := do
  match answer.committee with
  | none => throw (.error "the validator answered no committee")
  | some signed =>
    let committee ← verifyCommitteeSigner P blake2b256 signed "committee"
    let nextCommittee ← verifyNextCommittee P blake2b256 answer.nextCommittee
    let chainEpoch ← freshChainEpoch committee.epoch retry fuel
    let keepNext (next : VerifiedCommittee) : Bool :=
      next.epoch == committee.epoch + 1 && epochStanding next.epoch chainEpoch == .fresh
    return { chainEpoch, committee, nextCommittee := nextCommittee.filter keepNext }

end Checks

end Ika
