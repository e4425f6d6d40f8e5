import IkaSdk.Core.Grpc.ShareOwnership

/-! What a request leaves on the chain, found from its session identifier once
the chain shows that the request's epoch closed. -/

namespace Ika

open Wire Interaction

/-! ## Charges -/

/-- Why the network charged a session without delivering anything. -/
inductive GasChargeSource
  | refusedRequest
  | rejectedSession
  | completedPresign
  | movedNetworkKeySession
  | givenUpSignature
  | givenUpShareCommit
deriving DecidableEq, Repr

def GasChargeSource.name : GasChargeSource → String
  | refusedRequest => "RefusedRequest"
  | rejectedSession => "RejectedSession"
  | completedPresign => "CompletedPresign"
  | movedNetworkKeySession => "MovedNetworkKeySession"
  | givenUpSignature => "GivenUpSignature"
  | givenUpShareCommit => "GivenUpShareCommit"

def gasChargeBcs : Codec (Bytes × Bytes × Bytes) :=
  Codec.byteVector.pair (Codec.byteVector.pair (.fixedBytes 32))

def signatureCommitBcs : Codec (Bytes × Bytes) := Codec.byteVector.pair (.fixedBytes 32)

/-- The bytes whose hash is the id of a charge, the node's name of its source. -/
def gasChargePreimage (source : String) (id : Bytes) : Except String Bytes :=
  gasChargeBcs.serialize (textBytes "IkaGasCharge", textBytes source, id)

def gasChargeId (P : Primitives) (source : GasChargeSource) (id : Bytes) : Except String Bytes :=
  (gasChargePreimage source.name id).map P.keccak256

def signatureCommitItemId (P : Primitives) (sessionIdentifier : Bytes) : Except String Bytes :=
  (signatureCommitBcs.serialize (textBytes "IkaSignatureCommit", sessionIdentifier)).map
    P.keccak256

/-! ## Pending requests -/

/-- What one kind of pending request holds besides. -/
inductive PendingRequestKind
  | presign
  | sign (voucher : Bytes)
  | futureSignStepOne (voucher : Bytes)
  | futureSignCompletion (voucher : Bytes)
  | makeSharePublic (dwallet : DWalletLookup) (shareCommitItemId : Bytes)
  | reEncryptShare (dwallet : DWalletLookup) (newHolder shareCommitItemId : Bytes)
  | dkg (dwallet : DWalletLookup)
  | importedKey (dwallet : DWalletLookup)
deriving DecidableEq, Repr

/-- A request whose epoch closed before an answer, with what its lookup needs. -/
structure PendingRequest where
  epoch : ℕ
  sessionIdentifier : Bytes
  transportKey : Bytes
  curve : ℕ
  networkKeyId : Bytes
  kind : PendingRequestKind
deriving DecidableEq, Repr

/-- The epoch the chain must show before every session of the request's epoch is
settled on it. -/
def settledAtEpoch (pending : PendingRequest) : ℕ :=
  pending.epoch + match pending.kind with
    | .reEncryptShare .. => 2
    | _ => 1

theorem epoch_lt_settledAtEpoch (pending : PendingRequest) :
    pending.epoch < settledAtEpoch pending := by
  unfold settledAtEpoch
  split <;> omega

/-- What a request's lookup found on the chain. -/
inductive RequestOutcome
  | notRun
  | ran (record : String)
  | signature (signature : Bytes)
  | unknown
deriving DecidableEq, Repr

/-! ## Readers -/

/-- What a future signature voucher holds. `closed` is for a step 1 that the
network gave up. -/
structure FutureVoucher where
  stepOneSession : Option Bytes
  signature : Option Bytes
  closed : Bool
deriving DecidableEq, Repr

/-- The chain reads of a lookup. The share reads go through the record that
`readDWallet` returned. -/
inductive RecordOp (H : Type)
  | hasGasCharge (transportKey chargeId : Bytes)
  | voucherSignature (voucher : Bytes)
  | futureVoucher (voucher : Bytes)
  | readDWallet (lookup : DWalletLookup)
  | readEncryptedShare (record : H) (holderSignerPublicKey : Bytes)
  | readPublicShare (record : H)

abbrev RecordOp.Read {H : Type} : RecordOp H → Type
  | hasGasCharge .. => Bool
  | voucherSignature _ => Option Bytes
  | futureVoucher _ => Option FutureVoucher
  | readDWallet _ => Option (CheckedDWalletRecord H)
  | readEncryptedShare .. => Option CheckedEncryptedShareRecord
  | readPublicShare _ => Option AttestationRecord

abbrev recordInterface (H : Type) : Interface := ⟨RecordOp H, fun op => Except SdkError op.Read⟩

abbrev RecordEff (H α : Type) := Eff (recordInterface H) SdkError α

def readRecord {H : Type} (op : RecordOp H) : RecordEff H op.Read :=
  Eff.ofProg (Prog.perform (I := recordInterface H) op)

/-! ## The lookup -/

section Lookup

variable (P : Primitives) {H : Type}

/-- The first of the charges that the deposit holds. Every charge is read. -/
def heldCharge (transportKey : Bytes) :
    List (GasChargeSource × Bytes) → RecordEff H (Option GasChargeSource)
  | [] => return none
  | (source, id) :: rest => do
    let chargeId ← fromPackage (gasChargeId P source id)
    let held : Bool ← readRecord (H := H) (.hasGasCharge transportKey chargeId)
    let found ← heldCharge transportKey rest
    return if held then some source else found

/-- The charges of a session, whatever its request asked for. -/
def sessionCharges (sessionIdentifier : Bytes) : List (GasChargeSource × Bytes) :=
  [GasChargeSource.refusedRequest, .rejectedSession, .movedNetworkKeySession].map
    fun source => (source, sessionIdentifier)

def charged (pending : PendingRequest) (more : List (GasChargeSource × Bytes)) :
    RecordEff H (Option String) := do
  let found ← heldCharge P pending.transportKey (sessionCharges pending.sessionIdentifier ++ more)
  return found.map fun source => s!"the charge record {source.name}"

def ranOr (pending : PendingRequest) (otherwise : RequestOutcome)
    (more : List (GasChargeSource × Bytes)) : RecordEff H RequestOutcome := do
  match ← charged P pending more with
  | none => return otherwise
  | some record => return .ran record

/-- `shares` is whether the caller gave a share reader. -/
def dwalletRecord (shares : Bool) (dwallet : DWalletLookup) :
    RecordEff H (Option (CheckedDWalletRecord H)) := do
  ensure (shares = true) (SdkError.error "a share lookup needs the share reader")
  readRecord (H := H) (.readDWallet dwallet)

/-- Whether the dWallet is on the chain with a public share. -/
def publicShareOf (shares : Bool) (dwallet : DWalletLookup) : RecordEff H Bool := do
  match ← dwalletRecord shares dwallet with
  | none => return false
  | some record =>
    let share : Option AttestationRecord ← readRecord (H := H) (.readPublicShare record.handle)
    return share.isSome

/-- Whether the dWallet is on the chain with a share of the holder. -/
def encryptedShareOf (shares : Bool) (dwallet : DWalletLookup) (newHolder : Bytes) :
    RecordEff H Bool := do
  match ← dwalletRecord shares dwallet with
  | none => return false
  | some record =>
    let share : Option CheckedEncryptedShareRecord ←
      readRecord (H := H) (.readEncryptedShare record.handle newHolder)
    return share.isSome

/-- The lookup of a request that creates a dWallet, whose given-up commit has a
charge that nothing here can name. -/
def findDWallet (pending : PendingRequest) (shares : Bool) (dwallet : DWalletLookup) :
    RecordEff H RequestOutcome := do
  let record : Option (CheckedDWalletRecord H) ← dwalletRecord shares dwallet
  if record.isSome then return .ran "the dWallet" else ranOr P pending .unknown []

/-- The lookup of a sign once its voucher was read. -/
def findSignature (pending : PendingRequest) :
    Option Bytes → RecordEff H RequestOutcome
  | some signature => return .signature signature
  | none => do
    let itemId ← fromPackage (signatureCommitItemId P pending.sessionIdentifier)
    ranOr P pending .notRun [(.givenUpSignature, itemId)]

def findStepOne (pending : PendingRequest) (voucher : FutureVoucher) :
    RecordEff H RequestOutcome :=
  match voucher.stepOneSession with
  | some session =>
    return .ran (if session = pending.sessionIdentifier then "this request's step 1 in the voucher"
      else "another step 1 in the voucher")
  | none =>
    if voucher.signature.isSome then return .ran "a signature in the voucher"
    else if voucher.closed then ranOr P pending .unknown []
    else ranOr P pending .notRun []

def findSession (pending : PendingRequest) (shares : Bool) : RecordEff H RequestOutcome :=
  match pending.kind with
  | .presign => ranOr P pending .notRun [(.completedPresign, pending.sessionIdentifier)]
  | .sign voucher => do
    findSignature P pending (← readRecord (H := H) (.voucherSignature voucher))
  | .futureSignStepOne voucher => do
    match ← readRecord (H := H) (.futureVoucher voucher) with
    | none => return .unknown
    | some (voucher : FutureVoucher) => findStepOne P pending voucher
  | .futureSignCompletion voucher => do
    let voucher : Option FutureVoucher ← readRecord (H := H) (.futureVoucher voucher)
    findSignature P pending (voucher.bind (·.signature))
  | .makeSharePublic dwallet shareCommitItemId => do
    if ← publicShareOf (H := H) shares dwallet then return .ran "the dWallet's public share"
    else ranOr P pending .notRun [(.givenUpShareCommit, shareCommitItemId)]
  | .reEncryptShare dwallet newHolder shareCommitItemId => do
    if ← encryptedShareOf (H := H) shares dwallet newHolder then
      return .ran "the new holder's share"
    else ranOr P pending .notRun [(.givenUpShareCommit, shareCommitItemId)]
  | .dkg dwallet => findDWallet P pending shares dwallet
  | .importedKey dwallet => findDWallet P pending shares dwallet

end Lookup

end Ika
