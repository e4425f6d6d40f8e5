import IkaSdk.Core.Grpc.AttestationRecord
import IkaSdk.Lib.Polling

/-! The check of a network key's public outputs against the records that the
network writes on a chain. The reads of the chain and the clock are operations,
and every read is raced against the deadline that the reads of one check share. -/

namespace Ika

open Wire Interaction

def networkOutputDigest (blake2b256 : Bytes → Bytes) (output : Bytes) : Bytes := blake2b256 output

/-- A chain's record of one output. The proof is empty while the network has not
written it. -/
structure NetworkKeyOutputRecord where
  digest : Bytes
  proof : Bytes
deriving DecidableEq, Repr

structure NetworkKeyOutput where
  networkDkgOutput : Bytes
  latestReconfigurationOutput : Option Bytes
  epoch : ℤ
  dkgAtEpoch : ℤ
  networkKeyId : Bytes
deriving DecidableEq, Repr

inductive NetworkKeyOutputCheck
  | key
  | record
  | digest
  | decode
  | version
  | signer
  | signature
deriving DecidableEq, Repr

/-- What the check throws: its own error, which names the check that failed, or
any other. -/
inductive NetworkKeyOutputThrown
  | networkKeyOutput (check : NetworkKeyOutputCheck) (message : String)
  | other (error : SdkError)
deriving DecidableEq, Repr

structure ReshareRecordWait where
  pauseMs : ℤ
  budgetMs : ℤ
deriving DecidableEq, Repr

def reshareRecordWait : ReshareRecordWait := ⟨2000, 120000⟩

inductive KeyRecordKind
  | dkg
  | reshare (epoch : ℤ)
deriving DecidableEq, Repr

/-! ## The reads -/

/-- A read that may take so many milliseconds: none when its timer was first. -/
inductive KeyRecordOp
  | now
  | sleep (ms : ℤ)
  | recordWithin (kind : KeyRecordKind) (noaPublicKey : Bytes) (ms : ℤ)
  | isRegisteredWithin (noaPublicKey : Bytes) (ms : ℤ)
deriving DecidableEq, Repr

abbrev KeyRecordOp.Ans : KeyRecordOp → Type
  | now => ℤ
  | sleep _ => Unit
  | recordWithin .. => Option (Except SdkError (Option NetworkKeyOutputRecord))
  | isRegisteredWithin .. => Option (Except SdkError Bool)

abbrev keyRecordInterface : Interface := ⟨KeyRecordOp, KeyRecordOp.Ans⟩

abbrev KeyRecordEff (α : Type) := Eff keyRecordInterface NetworkKeyOutputThrown α

/-- The value of a raced read. -/
def withinTimeLeft {α : Type} (timedOut : String) :
    Option (Except SdkError α) → Except NetworkKeyOutputThrown α
  | some outcome => outcome.mapError .other
  | none => .error (.other (.error timedOut))

namespace KeyRecordEff

def now : KeyRecordEff ℤ := Eff.liftOp (I := keyRecordInterface) .now

def sleep (ms : ℤ) : KeyRecordEff Unit := Eff.liftOp (I := keyRecordInterface) (.sleep ms)

def recordWithin (kind : KeyRecordKind) (noaPublicKey : Bytes) (ms : ℤ) (timedOut : String) :
    KeyRecordEff (Option NetworkKeyOutputRecord) :=
  Eff.ofProg (.call (I := keyRecordInterface) (.recordWithin kind noaPublicKey ms) fun read =>
    .pure (withinTimeLeft timedOut read))

def isRegisteredWithin (noaPublicKey : Bytes) (ms : ℤ) (timedOut : String) : KeyRecordEff Bool :=
  Eff.ofProg (.call (I := keyRecordInterface) (.isRegisteredWithin noaPublicKey ms) fun read =>
    .pure (withinTimeLeft timedOut read))

end KeyRecordEff

/-! ## The wait for a signed record -/

def KeyRecordKind.recordName (key : String) : KeyRecordKind → String
  | .dkg => s!"record of the DKG output of the network key {key}"
  | .reshare epoch => s!"record of the reshare of the network key {key} for epoch {epoch}"

/-- What one read of a record settles. A record of another digest is handed on,
for the check that follows to refuse it. -/
def settledByRecord (kind : KeyRecordKind) (key : String) (servedDigest : Bytes) :
    Option NetworkKeyOutputRecord → Option (Except NetworkKeyOutputThrown NetworkKeyOutputRecord)
  | none =>
    match kind with
    | .dkg => some (.error (.networkKeyOutput .record
        s!"no network key {key} is registered on the chain"))
    | .reshare _ => none
  | some record =>
    if record.digest ≠ servedDigest ∨ record.proof.length ≠ 0 then some (.ok record) else none

def recordPolling (networkKeyId : Bytes) (kind : KeyRecordKind) (servedDigest : Bytes)
    (deadline : ℤ) (wait : ReshareRecordWait) : Polling keyRecordInterface NetworkKeyOutputThrown
      (Option NetworkKeyOutputRecord) NetworkKeyOutputRecord where
  read := do
    let now ← KeyRecordEff.now
    KeyRecordEff.recordWithin kind networkKeyId (deadline - now)
      (s!"the chain did not answer the read of the {kind.recordName (toHex networkKeyId)} " ++
        s!"within the {wait.budgetMs} ms the records were read for")
  settled := settledByRecord kind (toHex networkKeyId) servedDigest
  now := KeyRecordEff.now
  sleep := KeyRecordEff.sleep
  pauseMs := wait.pauseMs
  outOfTime record := .networkKeyOutput .record
    (if record.isNone then
      s!"the chain has no {kind.recordName (toHex networkKeyId)}, and none was written in the " ++
        s!"{wait.budgetMs} ms the records were read for"
    else
      s!"the chain's {kind.recordName (toHex networkKeyId)} holds no proof yet, and none was " ++
        s!"written in the {wait.budgetMs} ms the records were read for")

/-- The record of a network key, once it holds a proof or another digest. -/
def recordOnceSigned (networkKeyId : Bytes) (kind : KeyRecordKind) (servedDigest : Bytes)
    (deadline : ℤ) (wait : ReshareRecordWait) (fuel : ℕ) : KeyRecordEff NetworkKeyOutputRecord :=
  (recordPolling networkKeyId kind servedDigest deadline wait).poll deadline fuel

section Checks

variable (P : Primitives) (blake2b256 : Bytes → Bytes)

/-! ## The proof of a record -/

def decodeRecordProof (what : String) (proof : Bytes) : Except SdkError AttestationProofV1 := do
  let malformed := SdkError.attestationRecord .decode
    s!"the {what} stores a proof that is not one VersionedAttestationProof" none
  let decoded ← (P.parse versionedAttestationProofBcs proof).mapError fun _ => malformed
  ensure (versionedAttestationProofBcs.serialize decoded = .ok proof) malformed
  return decoded

/-- The key that signed a record's proof over the record's message. -/
def verifyNetworkKeyRecordProof (what : String) (message proof : Bytes) :
    Except SdkError Bytes := do
  ensure (¬(proof.length ≠ 0 ∧ proof.all (· == 0))) (SdkError.attestationRecord .decode
    s!"the {what} stores an all-zero proof, which is no proof" none)
  let decoded ← decodeRecordProof P what proof
  ensure (decoded.attestationVersion = 0) (SdkError.attestationRecord .version
    (s!"the {what} carries a proof of attestation version {decoded.attestationVersion}; " ++
      "network key records are version 0") none)
  let signer := decoded.signerNoaPublicKey
  ensure (signatureVerifies P decoded.noaSignature message signer) (SdkError.attestationRecord
    .signature s!"the signature on the {what} does not verify under its signer {toHex signer}" none)
  return signer

/-- The three checks of a proof that the output's error names as its own. -/
def asOutputError : SdkError → NetworkKeyOutputThrown
  | .attestationRecord .decode message _ => .networkKeyOutput .decode message
  | .attestationRecord .version message _ => .networkKeyOutput .version message
  | .attestationRecord .signature message _ => .networkKeyOutput .signature message
  | error => .other error

def recordSigner (what : String) (record : NetworkKeyOutputRecord)
    (message : Bytes → Except String Bytes) : Except SdkError Bytes := do
  let message ← fromPackage (message record.digest)
  verifyNetworkKeyRecordProof P s!"record of the {what}" message record.proof

def verifyRecordProof (what : String) (record : NetworkKeyOutputRecord)
    (message : Bytes → Except String Bytes) (deadline : ℤ) (wait : ReshareRecordWait) :
    KeyRecordEff Unit := do
  ensure (record.proof.length ≠ 0) (NetworkKeyOutputThrown.networkKeyOutput .record
    s!"the chain's record of the {what} holds no proof")
  let signer ← (recordSigner P what record message).mapError asOutputError
  let now ← KeyRecordEff.now
  let registered ← KeyRecordEff.isRegisteredWithin signer (deadline - now)
    (s!"the chain did not answer the read of whether {toHex signer}, the signer of the record " ++
      s!"of the {what}, is a registered network key within the {wait.budgetMs} ms the " ++
      "records were read for")
  ensure registered (NetworkKeyOutputThrown.networkKeyOutput .signer
    (s!"the record of the {what} is signed by {toHex signer}, which is not a network key " ++
      "registered on the chain"))

def verifyAgainstRecord (what : String) (output : Bytes) (record : NetworkKeyOutputRecord)
    (message : Bytes → Except String Bytes) (deadline : ℤ) (wait : ReshareRecordWait) :
    KeyRecordEff Unit := do
  ensure (networkOutputDigest blake2b256 output = record.digest)
    (NetworkKeyOutputThrown.networkKeyOutput .digest
      s!"the {what} the validator served does not hash to the digest the chain records")
  verifyRecordProof P what record message deadline wait

/-! ## The outputs -/

def verifyReconfigurationOutput (epoch : ℤ) (networkKeyId : Bytes) (deadline : ℤ)
    (wait : ReshareRecordWait) (fuel : ℕ) : Option Bytes → KeyRecordEff Unit
  | none => return ()
  | some output => do
    let record ← recordOnceSigned networkKeyId (.reshare epoch)
      (networkOutputDigest blake2b256 output) deadline wait fuel
    verifyAgainstRecord P blake2b256 s!"reshare output for epoch {epoch}" output record
      (networkKeyReconfigurationRecordMessage networkKeyId epoch) deadline wait

def verifyNetworkKeyOutput (served : NetworkKeyOutput) (networkKeyId : Bytes)
    (wait : ReshareRecordWait) (fuel : ℕ) : KeyRecordEff NetworkKeyOutput := do
  ensure (served.networkKeyId = networkKeyId) (NetworkKeyOutputThrown.networkKeyOutput .key
    (s!"the validator answered for the network key {toHex served.networkKeyId}, not for " ++
      toHex networkKeyId))
  let deadline := (← KeyRecordEff.now) + wait.budgetMs
  let dkgRecord ← recordOnceSigned networkKeyId .dkg
    (networkOutputDigest blake2b256 served.networkDkgOutput) deadline wait fuel
  verifyAgainstRecord P blake2b256 "network DKG output" served.networkDkgOutput dkgRecord
    (networkKeyDkgRecordMessage networkKeyId) deadline wait
  verifyReconfigurationOutput P blake2b256 served.epoch networkKeyId deadline wait fuel
    served.latestReconfigurationOutput
  return served

def verifySignedDkgRecord (noaPublicKey dkgOutputDigest : Bytes) (wait : ReshareRecordWait)
    (fuel : ℕ) : KeyRecordEff Unit := do
  let deadline := (← KeyRecordEff.now) + wait.budgetMs
  let record ← recordOnceSigned noaPublicKey .dkg dkgOutputDigest deadline wait fuel
  ensure (record.digest = dkgOutputDigest) (NetworkKeyOutputThrown.networkKeyOutput .digest
    (s!"the chain's record of the DKG output of the network key {toHex noaPublicKey} holds " ++
      "another digest than the one read for the key"))
  verifyRecordProof P "network DKG output" record (networkKeyDkgRecordMessage noaPublicKey)
    deadline wait

end Checks

end Ika
