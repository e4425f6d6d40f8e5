import IkaSdk.Core.Grpc.RequestSizeLimits
import IkaSdk.Core.Grpc.ShareOwnership

/-! The signing of a `Sign` or `ImportedKeySign` request: the request is made
into bytes before the first wait, the ownership of the dWallet those bytes name
is checked or an earlier result is reused, and exactly those bytes are signed. -/

namespace Ika

open Wire Interaction

/-! ## Message metadata -/

structure SchnorrkelMessageMetadata where
  context : Bytes
deriving DecidableEq, Repr

def schnorrkelMessageMetadataBcs : Codec SchnorrkelMessageMetadata :=
  Codec.byteVector.iso (fun f => ⟨f⟩) (fun m => m.context) fun _ => rfl

structure Blake2bMessageMetadata where
  personal : Bytes
  salt : Bytes
deriving DecidableEq, Repr

def blake2bMessageMetadataBcs : Codec Blake2bMessageMetadata :=
  (Codec.byteVector.pair .byteVector).iso (fun f => ⟨f.1, f.2⟩) (fun m => (m.personal, m.salt))
    fun _ => rfl

structure TransportKeypair where
  secretKey : Bytes
  publicKey : Bytes

/-- The two byte payloads that a transaction carries. -/
structure SignedRequest where
  userSignature : Bytes
  signedRequestData : Bytes
deriving DecidableEq, Repr

def dwalletUsableMaxAgeMs : ℤ := 5 * 60 * 1000

def waitingResultBuildsNoSign : String :=
  "the usability result says the dWallet waits for its holder: accept a share on the chain, or " ++
    "make the share public, and run assertDWalletUsable again before you sign"

section Request

variable (P : Primitives)

/-- Decode the metadata and refuse bytes after it. -/
def parseMessageMetadata {α : Type} (c : Codec α) (leftOver : String) (messageMetadata : Bytes) :
    Except String Unit := do
  let metadata ← P.parse c messageMetadata
  let written ← c.serialize metadata
  if written.length ≠ messageMetadata.length then .error leftOver else .ok ()

def parseBlake2bMessageMetadata : Bytes → Except String Unit :=
  parseMessageMetadata P blake2bMessageMetadataBcs
    "invalid Blake2b message_metadata: bytes remain after the salt"

def parseSchnorrkelMessageMetadata : Bytes → Except String Unit :=
  parseMessageMetadata P schnorrkelMessageMetadataBcs
    "invalid Schnorrkel message_metadata: bytes remain after the context"

def metadataDecodes (name : String) : Except String Unit → Except SdkError Unit
  | .ok () => .ok ()
  | .error reason =>
    .error (.error (if reason.startsWith "invalid " then reason
      else s!"invalid {name} message_metadata: {reason}"))

def requireMessageMetadataOfScheme (signatureScheme : DWalletSignatureScheme)
    (messageMetadata : Bytes) : Except SdkError Unit :=
  match signatureScheme with
  | .ecdsaBlake2b256 => metadataDecodes "Blake2b" (parseBlake2bMessageMetadata P messageMetadata)
  | .schnorrkelMerlin =>
    metadataDecodes "Schnorrkel" (parseSchnorrkelMessageMetadata P messageMetadata)
  | scheme => ensure (messageMetadata.length = 0)
      (.error s!"message_metadata must be empty for the scheme {scheme.name}")

/-- The sign that a request asks for; no other kind is signed here. -/
def signOf : DWalletRequest → Except SdkError SignRequest
  | .sign sign => .ok sign
  | .importedKeySign sign => .ok sign
  | _ => .error (.typeError ("signDWalletSignRequest signs only a Sign or ImportedKeySign " ++
      "request; sign any other request with signGrpcRequest"))

def ChainId.chain : ChainId → Chain
  | sui => .sui
  | solana => .solana

/-- What the bytes of a request say that the rest of its signing uses. -/
structure PreparedSign where
  signedRequestData : Bytes
  sign : SignRequest
  requestChain : Chain

/-- The part of a sign before the caller's ownership value is read. -/
def prepareSign (signedData : SignedRequestData) : Except SdkError PreparedSign := do
  assertRequestFieldsWithinLimits signedData
  let signedRequestData ← fromPackage (signedRequestDataBcs.serialize signedData)
  assertSignedRequestDataWithinLimit signedRequestData
  let decoded ← fromPackage (P.parse signedRequestDataBcs signedRequestData)
  let sign ← signOf decoded.request
  requireMessageMetadataOfScheme P sign.signatureScheme sign.messageMetadata
  return { signedRequestData, sign, requestChain := decoded.chainId.chain }

/-- Sign the bytes of a request with the transport key. -/
def signSerializedRequest (keypair : TransportKeypair) (signedRequestData : Bytes) :
    Except SdkError SignedRequest := do
  assertSignedRequestDataWithinLimit signedRequestData
  let signature := P.ed25519Sign (requestSigningMessage signedRequestData) keypair.secretKey
  let userSignature ← fromPackage
    (userSignatureBcs.serialize (.ed25519 signature keypair.publicKey))
  return { userSignature, signedRequestData }

/-! ## Earlier results -/

/-- The state kept for a result object. `issued` lists the states of all results
that checks have made, in the order they were made. -/
def issuedGet (issued : List IssuedState) : UsableObject → Option IssuedState
  | .issued id => issued[id]?
  | .other => none

/-- The comparisons of an earlier result with the request, up to its age. -/
def requireUsableState (verified : IssuedState) (attestation : DWalletAttestation)
    (attestationData networkPublicKey userKey : Bytes) : Except SdkError Unit := do
  let asked := askedOf attestation
  ensure (verified.curve = asked.curve ∧ verified.publicKey = asked.publicKey ∧
      verified.importedSessionIdentifier = asked.importedSessionIdentifier)
    (.dwalletUsabilityNotChecked
      "the usability result is for another dWallet than the one this request signs for")
  ensure (verified.holder = userKey)
    (.dwalletUsabilityNotChecked
      "the usability result is for another user key than the one given")
  ensure (verified.attestation.attestationData = attestationData)
    (.dwalletUsabilityNotChecked
      ("the usability result checked another attestation of the dWallet than the one this " ++
        "request carries"))
  ensure (verified.attestation.networkPubkey = networkPublicKey)
    (.dwalletUsabilityNotChecked
      ("the usability result was checked under another network key than the one this " ++
        "request's attestation names"))

def requireUsableAge (age : ℤ) : Except SdkError Unit :=
  ensure (age ≤ dwalletUsableMaxAgeMs) (.dwalletUsabilityNotChecked
    (s!"the usability result is {age} ms old, over the {dwalletUsableMaxAgeMs} ms a " ++
      "result may be reused; run assertDWalletUsable again"))

def requireUsableFor {H : Type} (issued : List IssuedState) (usable : UsableObject)
    (attestation : DWalletAttestation) (attestationData networkPublicKey userKey : Bytes) :
    OwnershipEff H Unit := do
  match issuedGet issued usable with
  | none =>
    throw (.dwalletUsabilityNotChecked
      ("the usability result was not made by assertDWalletUsable; run the check, or pass a " ++
        "reader"))
  | some verified =>
    requireUsableState verified attestation attestationData networkPublicKey userKey
    let now ← dateNow
    requireUsableAge (now - verified.verifiedAt)

/-- Run the check, or reuse an earlier result; the second component is what is
issued after it. -/
def requireDWalletUsable {H : Type} (issued : List IssuedState) (ownership : DWalletOwnership)
    (dwalletAttestation : NetworkSignedAttestation) :
    OwnershipEff H (UsableObject × List IssuedState) := do
  let userKey ← getSigningPublicKeyBytes
  match ownership.usable, ownership.reader with
  | some usable, _ =>
    let attestation ← decodeDWalletAttestation P dwalletAttestation.attestationData
    requireUsableFor issued usable attestation dwalletAttestation.attestationData
      dwalletAttestation.networkPubkey userKey
    ensure ((issuedGet issued usable).map IssuedState.waiting ≠ some true)
      (SdkError.dwalletUsabilityNotChecked waitingResultBuildsNoSign)
    return (usable, issued)
  | none, some reader =>
    let state ← assertDWalletUsable P reader dwalletAttestation.attestationData none none
    return (.issued issued.length, issued ++ [state])
  | none, none =>
    throw (.dwalletUsabilityNotChecked
      ("a builder that signs for a dWallet needs a reader, to check that your key holds the " ++
        "dWallet's share, or the result of an earlier assertDWalletUsable; it was given neither"))

/-- The chain that the check reads, or read, before anything is asked of it. -/
def checkedChain (issued : List IssuedState) (ownership : DWalletOwnership) : Option Chain :=
  match ownership.usable with
  | some usable => (issuedGet issued usable).map IssuedState.chain
  | none => ownership.reader.map DWalletShareReader.chain

def requireRequestChain (checked : Option Chain) (requestChain : Chain) : Except SdkError Unit :=
  match checked with
  | none => .ok ()
  | some chain =>
    ensure (chain = requestChain) (.dwalletCheckedOnAnotherChain chain requestChain)

/-- The signed request and what is issued after it. -/
def signDWalletSignRequest {H : Type} (issued : List IssuedState) (keypair : TransportKeypair) :
    OwnershipEff H (SignedRequest × List IssuedState) := do
  let signedData ← readSignedData
  let prepared ← prepareSign P signedData
  let ownership ← readOwnership
  requireRequestChain (checkedChain issued ownership) prepared.requestChain
  let (result, issued) ← requireDWalletUsable P issued ownership prepared.sign.dwalletAttestation
  match issuedGet issued result with
  | none =>
    throw (.dwalletUsabilityNotChecked "the usability result was not made by assertDWalletUsable")
  | some recorded =>
    requireRequestChain (some recorded.chain) prepared.requestChain
    let signed ← signSerializedRequest P keypair prepared.signedRequestData
    return (signed, issued)

end Request

end Ika
