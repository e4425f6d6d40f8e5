import IkaSdk.Core.Grpc.AnswerChecks
import IkaSdk.Core.Grpc.Requests
import IkaSdk.Lib.Shortest

/-! Signing and verifying by scheme. The builder of a request, the check of its
metadata, the user's sign message and the verifier each have a table of their own; all
of them read a scheme, a curve and a metadata alike. -/

namespace Ika

open Wire

/-- The number of a scheme, in a request and in a voucher. -/
def DWalletSignatureScheme.number (scheme : DWalletSignatureScheme) : ℕ :=
  dwalletSignatureSchemes.idxOf scheme

/-! ## The user's sign message -/

/-- What a client's cryptography makes of a share, a presign and a message. -/
structure SignCryptography where
  createUserSignMessageWithPublicOutput (protocolPublicParameters publicOutput userSecretKeyShare
    presign message : Bytes) (hash : SignatureHash) (signatureAlgorithm : SignatureAlgorithm)
    (curve : Curve) (schnorrkelSigningContext : Option Bytes) : Except String Bytes
  createUserSignMessageWithUserPublicOutput (protocolPublicParameters userPublicOutput
    userSecretKeyShare presign message : Bytes) (hash : SignatureHash)
    (signatureAlgorithm : SignatureAlgorithm) (curve : Curve)
    (schnorrkelSigningContext : Option Bytes) : Except String Bytes
  createUserSignMessageEcdsaBlake2b256 (protocolPublicParameters publicOutput userSecretKeyShare
    presign message personal salt : Bytes) : Except String Bytes

structure UserSignMessageWithScheme where
  protocolPublicParameters : Bytes
  curve : ℕ
  signatureScheme : ℕ
  message : Bytes
  messageMetadata : Bytes
  dWalletPublicOutput : Bytes
  userSecretKeyShare : Bytes
  presign : Bytes
deriving DecidableEq, Repr

/-- Whose output a sign message is computed from. -/
inductive SignOutput
  | dwallet
  | user
deriving DecidableEq, Repr

/-- The signer's curve, algorithm and hash of a scheme on a curve, for the schemes that
take no metadata. -/
def plainSignerOf (signatureScheme curve : ℕ) :
    Option (Curve × SignatureAlgorithm × SignatureHash) :=
  if signatureScheme = 0 ∧ curve = 0 then some (.secp256k1, .ecdsaSecp256k1, .keccak256)
  else if signatureScheme = 1 ∧ curve = 0 then some (.secp256k1, .ecdsaSecp256k1, .sha256)
  else if signatureScheme = 2 ∧ curve = 0 then some (.secp256k1, .ecdsaSecp256k1, .doubleSha256)
  else if signatureScheme = 3 ∧ curve = 0 then some (.secp256k1, .taproot, .sha256)
  else if signatureScheme = 1 ∧ curve = 1 then some (.secp256r1, .ecdsaSecp256r1, .sha256)
  else if signatureScheme = 5 ∧ curve = 2 then some (.ed25519, .eddsa, .sha512)
  else none

section SignMessage

variable (P : Primitives) (cryptography : SignCryptography)

def signMessage (args : UserSignMessageWithScheme) (output : SignOutput) (signerCurve : Curve)
    (signatureAlgorithm : SignatureAlgorithm) (hash : SignatureHash)
    (schnorrkelSigningContext : Option Bytes) : Except String Bytes :=
  (match output with
    | .dwallet => cryptography.createUserSignMessageWithPublicOutput
    | .user => cryptography.createUserSignMessageWithUserPublicOutput)
    args.protocolPublicParameters args.dWalletPublicOutput args.userSecretKeyShare args.presign
    args.message hash signatureAlgorithm signerCurve schnorrkelSigningContext

def userSignMessageWithScheme (args : UserSignMessageWithScheme) (output : SignOutput) :
    Except String Bytes :=
  if args.signatureScheme = 4 ∧ args.curve = 0 then do
    let metadata ← messageMetadataOf P blake2bMessageMetadataBcs
      "invalid Blake2b message_metadata: bytes remain after the salt" args.messageMetadata
    ensure (output ≠ .user)
      ("a sign during DKG cannot use EcdsaBlake2b256: the BLAKE2b-256 sign is computed from " ++
        "the network output only")
    cryptography.createUserSignMessageEcdsaBlake2b256 args.protocolPublicParameters
      args.dWalletPublicOutput args.userSecretKeyShare args.presign args.message
      metadata.personal metadata.salt
  else if args.signatureScheme = 6 ∧ args.curve = 3 then do
    let metadata ← messageMetadataOf P schnorrkelMessageMetadataBcs
      "invalid Schnorrkel message_metadata: bytes remain after the context" args.messageMetadata
    let signingContext :=
      if metadata.context.length = 0 then defaultSchnorrkelContext else metadata.context
    signMessage cryptography args output .ristretto .schnorrkel .merlin (some signingContext)
  else
    let takesMetadata := args.signatureScheme = 6 ∨ args.signatureScheme = 4
    if ¬takesMetadata ∧ args.messageMetadata.length ≠ 0 then
      .error "message_metadata must be empty for this signature scheme"
    else
      match plainSignerOf args.signatureScheme args.curve with
      | some (signerCurve, signatureAlgorithm, hash) =>
        signMessage cryptography args output signerCurve signatureAlgorithm hash none
      | none => .error
          s!"Signature scheme {args.signatureScheme} does not sign on curve {args.curve}"

def createUserSignMessageWithScheme (args : UserSignMessageWithScheme) : Except String Bytes :=
  userSignMessageWithScheme P cryptography args .dwallet

end SignMessage

/-! ## How a message is signed -/

/-- How a message is hashed and signed: an ECDSA signature over its BLAKE2b-256 hash, or
one that the verifier's own tables name. -/
inductive SchemeUse
  | ecdsaBlake2b256 (personal salt : Bytes)
  | named (curve : Curve) (signatureAlgorithm : SignatureAlgorithm) (hash : SignatureHash)
      (schnorrkelSigningContext : Option Bytes)
deriving DecidableEq, Repr

def SignatureAlgorithm.base : SignatureAlgorithm → DWalletSignatureAlgorithm
  | ecdsaSecp256k1 => .ecdsaSecp256k1
  | taproot => .taproot
  | ecdsaSecp256r1 => .ecdsaSecp256r1
  | eddsa => .eddsa
  | schnorrkel => .schnorrkel

namespace SchemeUse

def algorithm : SchemeUse → DWalletSignatureAlgorithm
  | ecdsaBlake2b256 .. => .ecdsaSecp256k1
  | named _ signatureAlgorithm .. => signatureAlgorithm.base

def verify (cryptography : AnswerCryptography) (dWalletPublicOutput message signature : Bytes) :
    SchemeUse → Except String Unit
  | ecdsaBlake2b256 personal salt =>
    cryptography.verifyEcdsaBlake2b256Signature dWalletPublicOutput message signature personal salt
  | named curve signatureAlgorithm hash context =>
    cryptography.verifySignature curve signatureAlgorithm hash dWalletPublicOutput message
      signature context

def sign (cryptography : SignCryptography) (args : UserSignMessageWithScheme) :
    SchemeUse → Except String Bytes
  | ecdsaBlake2b256 personal salt =>
    cryptography.createUserSignMessageEcdsaBlake2b256 args.protocolPublicParameters
      args.dWalletPublicOutput args.userSecretKeyShare args.presign args.message personal salt
  | named curve signatureAlgorithm hash context =>
    signMessage cryptography args .dwallet curve signatureAlgorithm hash context

end SchemeUse

/-- How a scheme that takes no metadata signs on a curve. -/
def plainUse (signatureScheme curve : ℕ) : Except String SchemeUse :=
  match plainVerifierOf signatureScheme curve with
  | some (curve, signatureAlgorithm, hash) => .ok (.named curve signatureAlgorithm hash none)
  | none => .error s!"Signature scheme {signatureScheme} does not sign on curve {curve}"

/-- How a scheme signs on a curve under a metadata. -/
def schemeUse (P : Primitives) (signatureScheme curve : ℕ) (messageMetadata : Bytes) :
    Except String SchemeUse :=
  if signatureScheme = 4 ∧ curve = 0 then do
    let metadata ← messageMetadataOf P blake2bMessageMetadataBcs
      "invalid Blake2b message_metadata: bytes remain after the salt" messageMetadata
    return .ecdsaBlake2b256 metadata.personal metadata.salt
  else if signatureScheme = 6 ∧ curve = 3 then do
    let metadata ← messageMetadataOf P schnorrkelMessageMetadataBcs
      "invalid Schnorrkel message_metadata: bytes remain after the context" messageMetadata
    return .named .ristretto .schnorrkel .merlin (some
      (if metadata.context.length = 0 then defaultSchnorrkelContext else metadata.context))
  else if ¬(signatureScheme = 6 ∨ signatureScheme = 4) ∧ messageMetadata.length ≠ 0 then
    .error "message_metadata must be empty for this signature scheme"
  else plainUse signatureScheme curve

def signatureAlgorithmOnCurve (signatureScheme : DWalletSignatureScheme) (curve : DWalletCurve) :
    Except SdkError DWalletSignatureAlgorithm :=
  match baseAlgorithm signatureScheme curve with
  | some algorithm => .ok algorithm
  | none => .error (.error
      s!"the scheme {signatureScheme.name} does not sign on the curve {curve.name}")

/-! ## The scheme of an algorithm and a hash -/

def fromNumberToCurve (curveNumber : ℕ) : Except String Curve :=
  match curveNumber with
  | 0 => .ok .secp256k1
  | 1 => .ok .secp256r1
  | 2 => .ok .ed25519
  | 3 => .ok .ristretto
  | _ => .error s!"Unknown curve number: {curveNumber}"

/-- The value of an algorithm in the client's types. -/
def SignatureAlgorithm.value : SignatureAlgorithm → String
  | ecdsaSecp256k1 => "ECDSASecp256k1"
  | taproot => "Taproot"
  | ecdsaSecp256r1 => "ECDSASecp256r1"
  | eddsa => "EdDSA"
  | schnorrkel => "Schnorrkel"

def SignatureHash.value : SignatureHash → String
  | keccak256 => "KECCAK256"
  | sha256 => "SHA256"
  | doubleSha256 => "DoubleSHA256"
  | sha512 => "SHA512"
  | merlin => "Merlin"

def getHashName : SignatureHash → String
  | .keccak256 => "KECCAK256 (SHA3)"
  | .sha256 => "SHA256"
  | .doubleSha256 => "DoubleSHA256"
  | .sha512 => "SHA512"
  | .merlin => "Merlin"

def getSignatureAlgorithmName : SignatureAlgorithm → String
  | .ecdsaSecp256k1 => "ECDSASecp256k1"
  | .taproot => "Taproot"
  | .ecdsaSecp256r1 => "ECDSASecp256r1"
  | .eddsa => "EdDSA"
  | .schnorrkel => "Schnorrkel (Ristretto)"

def getCurveName : Curve → String
  | .secp256k1 => "secp256k1"
  | .secp256r1 => "secp256r1"
  | .ed25519 => "Ed25519"
  | .ristretto => "Ristretto"

def validHashes : SignatureAlgorithm → List SignatureHash
  | .ecdsaSecp256k1 => [.keccak256, .sha256, .doubleSha256]
  | .taproot => [.sha256]
  | .ecdsaSecp256r1 => [.sha256]
  | .eddsa => [.sha512]
  | .schnorrkel => [.merlin]

def SignatureAlgorithm.curve : SignatureAlgorithm → Curve
  | ecdsaSecp256k1 => .secp256k1
  | taproot => .secp256k1
  | ecdsaSecp256r1 => .secp256r1
  | eddsa => .ed25519
  | schnorrkel => .ristretto

def validateCurveSignatureAlgorithm (curve : Curve) (signatureAlgorithm : SignatureAlgorithm) :
    Except String Unit :=
  let algorithmName := getSignatureAlgorithmName signatureAlgorithm
  let expectedName := getCurveName signatureAlgorithm.curve
  let curveName := getCurveName curve
  ensure (curve = signatureAlgorithm.curve)
    (s!"Invalid curve and signature algorithm combination: {algorithmName} requires " ++
      s!"{expectedName}, but {curveName} was provided.")

def validateHashSignatureCombination (hash : SignatureHash)
    (signatureAlgorithm : SignatureAlgorithm) : Except String Unit :=
  let supported := ", ".intercalate ((validHashes signatureAlgorithm).map getHashName)
  let algorithmName := getSignatureAlgorithmName signatureAlgorithm
  let hashName := getHashName hash
  ensure (hash ∈ validHashes signatureAlgorithm)
    (s!"Invalid hash and signature algorithm combination: {algorithmName} does not support " ++
      s!"{hashName}. Supported hash algorithms for {algorithmName}: {supported}")

/-- The network's scheme of an algorithm with a hash. -/
def schemesOf : SignatureAlgorithm → SignatureHash → Option DWalletSignatureScheme
  | .ecdsaSecp256k1, .keccak256 => some .ecdsaKeccak256
  | .ecdsaSecp256k1, .sha256 => some .ecdsaSha256
  | .ecdsaSecp256k1, .doubleSha256 => some .ecdsaDoubleSha256
  | .ecdsaSecp256r1, .sha256 => some .ecdsaSha256
  | .taproot, .sha256 => some .taprootSha256
  | .eddsa, .sha512 => some .eddsaSha512
  | .schnorrkel, .merlin => some .schnorrkelMerlin
  | _, _ => none

def signatureSchemeOf (curve : Curve) (signatureAlgorithm : SignatureAlgorithm)
    (hash : SignatureHash) : Except String DWalletSignatureScheme := do
  validateCurveSignatureAlgorithm curve signatureAlgorithm
  validateHashSignatureCombination hash signatureAlgorithm
  match schemesOf signatureAlgorithm hash with
  | some scheme => .ok scheme
  | none =>
    .error s!"the network has no scheme for {signatureAlgorithm.value} with {hash.value}"

/-! ## The tables agree -/

/-- The request's builder takes the scheme on the curve, with the metadata. -/
def RequestAccepts (P : Primitives) (scheme : DWalletSignatureScheme) (curve : DWalletCurve)
    (messageMetadata : Bytes) : Prop :=
  requireMessageMetadataOfScheme P scheme messageMetadata = .ok () ∧
    ∃ algorithm, signatureAlgorithmOnCurve scheme curve = .ok algorithm

/-- Some signature under the scheme on the curve, with the metadata, can be checked. -/
def CanBeVerified (P : Primitives) (scheme : DWalletSignatureScheme) (curve : DWalletCurve)
    (messageMetadata : Bytes) : Prop :=
  ∃ cryptography message dWalletPublicOutput signature,
    verifySignatureWithScheme P cryptography curve.number scheme.number message messageMetadata
      dWalletPublicOutput signature = .ok ()

/-- The metadata is what BCS writes for a value of the scheme's metadata type. -/
def CanonicalMetadata (scheme : DWalletSignatureScheme) (messageMetadata : Bytes) : Prop :=
  match scheme with
  | .ecdsaBlake2b256 => ∃ metadata, messageMetadata = blake2bMessageMetadataBcs.encode metadata
  | .schnorrkelMerlin => ∃ metadata, messageMetadata = schnorrkelMessageMetadataBcs.encode metadata
  | _ => messageMetadata = []

/-- The package's reader takes the value that the format has at the front of the bytes. -/
structure ReadsMetadata (P : Primitives) : Prop where
  blake2b : ∀ {bytes metadata}, P.parse blake2bMessageMetadataBcs bytes = .ok metadata →
    ∃ rest, blake2bMessageMetadataBcs.decode bytes = some (metadata, rest)
  schnorrkel : ∀ {bytes metadata}, P.parse schnorrkelMessageMetadataBcs bytes = .ok metadata →
    ∃ rest, schnorrkelMessageMetadataBcs.decode bytes = some (metadata, rest)

section Tables

variable {P : Primitives}

theorem plainSignerOf_eq (signatureScheme curve : ℕ) :
    plainSignerOf signatureScheme curve = plainVerifierOf signatureScheme curve := by
  unfold plainSignerOf
  split_ifs with h₀ h₁ h₂ h₃ h₄ h₅
  · obtain ⟨rfl, rfl⟩ := h₀
    rfl
  · obtain ⟨rfl, rfl⟩ := h₁
    rfl
  · obtain ⟨rfl, rfl⟩ := h₂
    rfl
  · obtain ⟨rfl, rfl⟩ := h₃
    rfl
  · obtain ⟨rfl, rfl⟩ := h₄
    rfl
  · obtain ⟨rfl, rfl⟩ := h₅
    rfl
  · unfold plainVerifierOf
    split <;> first | rfl | simp at h₀ h₁ h₂ h₃ h₄ h₅

theorem verifySignatureWithScheme_eq (cryptography : AnswerCryptography)
    (signatureScheme curve : ℕ) (message messageMetadata dWalletPublicOutput signature : Bytes) :
    verifySignatureWithScheme P cryptography curve signatureScheme message messageMetadata
      dWalletPublicOutput signature = schemeUse P signatureScheme curve messageMetadata >>=
        fun use => use.verify cryptography dWalletPublicOutput message signature := by
  unfold verifySignatureWithScheme schemeUse
  dsimp only
  split_ifs with hblake2b hschnorrkel hmetadata
  · cases messageMetadataOf P blake2bMessageMetadataBcs _ messageMetadata <;> rfl
  · cases messageMetadataOf P schnorrkelMessageMetadataBcs _ messageMetadata <;> rfl
  · rfl
  · unfold plainUse
    cases plainVerifierOf signatureScheme curve <;> rfl

theorem createUserSignMessageWithScheme_eq (cryptography : SignCryptography)
    (args : UserSignMessageWithScheme) :
    createUserSignMessageWithScheme P cryptography args =
      schemeUse P args.signatureScheme args.curve args.messageMetadata >>=
        fun use => use.sign cryptography args := by
  unfold createUserSignMessageWithScheme userSignMessageWithScheme schemeUse
  dsimp only
  split_ifs with hblake2b hschnorrkel hmetadata
  · cases messageMetadataOf P blake2bMessageMetadataBcs _ args.messageMetadata <;> rfl
  · cases messageMetadataOf P schnorrkelMessageMetadataBcs _ args.messageMetadata <;> rfl
  · rfl
  · rw [plainSignerOf_eq]
    unfold plainUse
    cases plainVerifierOf args.signatureScheme args.curve <;> rfl

/-! ### Metadata -/

theorem messageMetadataOf_ok {α : Type} {c : Codec α} {leftOver : String} {bytes : Bytes} {a : α}
    (h : messageMetadataOf P c leftOver bytes = .ok a) :
    P.parse c bytes = .ok a ∧ (c.encode a).length = bytes.length := by
  obtain ⟨metadata, hparse, h⟩ := bind_ok h
  obtain ⟨written, hwritten, h⟩ := bind_ok h
  split_ifs at h with hlength
  obtain rfl := Except.ok.inj h
  obtain ⟨-, rfl⟩ := Codec.serialize_ok hwritten
  exact ⟨hparse, not_not.mp hlength⟩

theorem messageMetadataOf_encode {α : Type} {c : Codec α} {leftOver : String} {a : α}
    (hvalid : c.valid a) : messageMetadataOf P c leftOver (c.encode a) = .ok a := by
  have hwritten : c.serialize a = .ok (c.encode a) := if_pos hvalid
  simp only [messageMetadataOf, P.parse_encode c a hvalid, hwritten, ok_bind]
  rw [if_neg (not_not.mpr rfl)]

/-- The metadata check and the verifier read the same value. -/
theorem parseMessageMetadata_iff {α : Type} {c : Codec α} {leftOver : String} {bytes : Bytes} :
    parseMessageMetadata P c leftOver bytes = .ok () ↔
      ∃ a, messageMetadataOf P c leftOver bytes = .ok a := by
  unfold parseMessageMetadata messageMetadataOf
  cases P.parse c bytes with
  | error reason => exact ⟨fun h => (by cases h), fun ⟨_, h⟩ => (by cases h)⟩
  | ok a =>
    simp only [ok_bind]
    cases c.serialize a with
    | error reason => exact ⟨fun h => (by cases h), fun ⟨_, h⟩ => (by cases h)⟩
    | ok written =>
      simp only [ok_bind]
      split_ifs with hlength
      · exact ⟨fun h => (by cases h), fun ⟨_, h⟩ => (by cases h)⟩
      · exact ⟨fun _ => ⟨a, rfl⟩, fun _ => rfl⟩

theorem metadataDecodes_iff {name : String} {parsed : Except String Unit} :
    metadataDecodes name parsed = .ok () ↔ parsed = .ok () := by
  cases parsed with
  | error reason => exact ⟨fun h => (by cases h), fun h => (by cases h)⟩
  | ok _ => exact ⟨fun _ => rfl, fun _ => rfl⟩

theorem messageMetadataOf_canonical {α : Type} {c : Codec α} (hshortest : c.Shortest)
    (hreads : ∀ {bytes a}, P.parse c bytes = .ok a → ∃ rest, c.decode bytes = some (a, rest))
    {leftOver : String} {bytes : Bytes} {a : α}
    (h : messageMetadataOf P c leftOver bytes = .ok a) : bytes = c.encode a := by
  obtain ⟨hparse, hlength⟩ := messageMetadataOf_ok h
  obtain ⟨rest, hdecode⟩ := hreads hparse
  exact hshortest.eq_encode hdecode hlength

theorem shortest_blake2b : blake2bMessageMetadataBcs.Shortest :=
  Codec.Shortest.iso (Codec.shortest_byteVector.pair Codec.shortest_byteVector) fun _ => rfl

theorem shortest_schnorrkel : schnorrkelMessageMetadataBcs.Shortest :=
  Codec.Shortest.iso Codec.shortest_byteVector fun _ => rfl

/-- Metadata is accepted exactly when it is canonical. -/
theorem requireMessageMetadata_iff (hreads : ReadsMetadata P) {scheme : DWalletSignatureScheme}
    {messageMetadata : Bytes} : requireMessageMetadataOfScheme P scheme messageMetadata = .ok () ↔
      CanonicalMetadata scheme messageMetadata := by
  have hempty : ∀ reason : SdkError, ensure (messageMetadata.length = 0) reason = .ok () ↔
      messageMetadata = [] := fun reason => ensure_iff.trans List.length_eq_zero_iff
  cases scheme with
  | ecdsaBlake2b256 =>
    refine metadataDecodes_iff.trans (parseMessageMetadata_iff.trans ⟨?_, ?_⟩)
    · rintro ⟨metadata, h⟩
      exact ⟨metadata, messageMetadataOf_canonical shortest_blake2b hreads.blake2b h⟩
    · rintro ⟨metadata, rfl⟩
      exact ⟨metadata, messageMetadataOf_encode rfl⟩
  | schnorrkelMerlin =>
    refine metadataDecodes_iff.trans (parseMessageMetadata_iff.trans ⟨?_, ?_⟩)
    · rintro ⟨metadata, h⟩
      exact ⟨metadata, messageMetadataOf_canonical shortest_schnorrkel hreads.schnorrkel h⟩
    · rintro ⟨metadata, rfl⟩
      exact ⟨metadata, messageMetadataOf_encode rfl⟩
  | _ => exact hempty _

/-! ### One use -/

/-- What the metadata and the tables give for a scheme on a curve. -/
inductive UseOf (P : Primitives) :
    DWalletSignatureScheme → DWalletCurve → Bytes → SchemeUse → Prop
  | blake2b {messageMetadata : Bytes} {metadata : Blake2bMessageMetadata}
      (h : messageMetadataOf P blake2bMessageMetadataBcs
        "invalid Blake2b message_metadata: bytes remain after the salt" messageMetadata =
          .ok metadata) :
      UseOf P .ecdsaBlake2b256 .secp256k1 messageMetadata
        (.ecdsaBlake2b256 metadata.personal metadata.salt)
  | schnorrkel {messageMetadata : Bytes} {metadata : SchnorrkelMessageMetadata}
      (h : messageMetadataOf P schnorrkelMessageMetadataBcs
        "invalid Schnorrkel message_metadata: bytes remain after the context" messageMetadata =
          .ok metadata) :
      UseOf P .schnorrkelMerlin .ristretto messageMetadata (.named .ristretto .schnorrkel .merlin
        (some (if metadata.context.length = 0 then defaultSchnorrkelContext
          else metadata.context)))
  | plain {scheme : DWalletSignatureScheme} {curve : DWalletCurve} {verifierCurve : Curve}
      {signatureAlgorithm : SignatureAlgorithm} {hash : SignatureHash}
      (hblake2b : scheme ≠ .ecdsaBlake2b256) (hschnorrkel : scheme ≠ .schnorrkelMerlin)
      (h : plainVerifierOf scheme.number curve.number =
        some (verifierCurve, signatureAlgorithm, hash)) :
      UseOf P scheme curve [] (.named verifierCurve signatureAlgorithm hash none)

theorem schemeUse_plain {scheme : DWalletSignatureScheme} {curve : DWalletCurve}
    {messageMetadata : Bytes} (hblake2b : scheme ≠ .ecdsaBlake2b256)
    (hschnorrkel : scheme ≠ .schnorrkelMerlin) :
    schemeUse P scheme.number curve.number messageMetadata =
      if messageMetadata.length ≠ 0 then
        .error "message_metadata must be empty for this signature scheme"
      else plainUse scheme.number curve.number := by
  have hfour : scheme.number ≠ 4 := by
    cases scheme <;> first | decide | contradiction
  have hsix : scheme.number ≠ 6 := by
    cases scheme <;> first | decide | contradiction
  simp only [schemeUse, hfour, hsix, false_and, or_self, not_false_eq_true, true_and, if_false]

theorem schemeUse_iff {scheme : DWalletSignatureScheme} {curve : DWalletCurve}
    {messageMetadata : Bytes} {use : SchemeUse} :
    schemeUse P scheme.number curve.number messageMetadata = .ok use ↔
      UseOf P scheme curve messageMetadata use := by
  constructor
  · intro h
    by_cases hblake2b : scheme = .ecdsaBlake2b256
    · subst hblake2b
      cases curve with
      | secp256k1 =>
        obtain ⟨metadata, hmetadata, h⟩ := bind_ok h
        cases h
        exact .blake2b hmetadata
      | _ => cases h
    by_cases hschnorrkel : scheme = .schnorrkelMerlin
    · subst hschnorrkel
      cases curve with
      | ristretto =>
        obtain ⟨metadata, hmetadata, h⟩ := bind_ok h
        cases h
        exact .schnorrkel hmetadata
      | _ => cases h
    · rw [schemeUse_plain hblake2b hschnorrkel] at h
      obtain ⟨hempty, h⟩ := ite_error_ok h
      obtain rfl := List.length_eq_zero_iff.mp (not_not.mp hempty)
      unfold plainUse at h
      cases hverifier : plainVerifierOf scheme.number curve.number with
      | none =>
        rw [hverifier] at h
        cases h
      | some verifier =>
        rw [hverifier] at h
        cases h
        exact .plain hblake2b hschnorrkel hverifier
  · intro h
    cases h with
    | blake2b h =>
      show messageMetadataOf P _ _ _ >>= _ = _
      rw [h]
      rfl
    | schnorrkel h =>
      show messageMetadataOf P _ _ _ >>= _ = _
      rw [h]
      rfl
    | plain hblake2b hschnorrkel h =>
      rw [schemeUse_plain hblake2b hschnorrkel, plainUse, h]
      rfl

/-- The request's table and the verifier's are one, where a scheme takes no metadata. -/
theorem baseAlgorithm_eq {scheme : DWalletSignatureScheme} {curve : DWalletCurve}
    (hblake2b : scheme ≠ .ecdsaBlake2b256) (hschnorrkel : scheme ≠ .schnorrkelMerlin) :
    baseAlgorithm scheme curve =
      (plainVerifierOf scheme.number curve.number).map fun verifier => verifier.2.1.base := by
  cases scheme <;> first | contradiction | cases curve <;> rfl

theorem signatureAlgorithmOnCurve_iff {scheme : DWalletSignatureScheme} {curve : DWalletCurve}
    {algorithm : DWalletSignatureAlgorithm} :
    signatureAlgorithmOnCurve scheme curve = .ok algorithm ↔
      baseAlgorithm scheme curve = some algorithm := by
  unfold signatureAlgorithmOnCurve
  cases baseAlgorithm scheme curve with
  | none => exact ⟨fun h => (by cases h), fun h => (by cases h)⟩
  | some found => exact ⟨fun h => by cases h; rfl, fun h => by cases h; rfl⟩

theorem useOf_algorithm {scheme : DWalletSignatureScheme} {curve : DWalletCurve}
    {messageMetadata : Bytes} {use : SchemeUse} (h : UseOf P scheme curve messageMetadata use) :
    baseAlgorithm scheme curve = some use.algorithm := by
  cases h with
  | blake2b => rfl
  | schnorrkel => rfl
  | plain hblake2b hschnorrkel h =>
    rw [baseAlgorithm_eq hblake2b hschnorrkel, h]
    rfl

theorem requireMessageMetadata_plain {scheme : DWalletSignatureScheme} {messageMetadata : Bytes}
    (hblake2b : scheme ≠ .ecdsaBlake2b256) (hschnorrkel : scheme ≠ .schnorrkelMerlin) :
    requireMessageMetadataOfScheme P scheme messageMetadata = .ok () ↔ messageMetadata = [] := by
  have hensure : ∀ reason : SdkError, ensure (messageMetadata.length = 0) reason = .ok () ↔
      messageMetadata = [] := fun reason => ensure_iff.trans List.length_eq_zero_iff
  cases scheme <;> first | contradiction | exact hensure _

theorem useOf_accepts {scheme : DWalletSignatureScheme} {curve : DWalletCurve}
    {messageMetadata : Bytes} {use : SchemeUse} (h : UseOf P scheme curve messageMetadata use) :
    RequestAccepts P scheme curve messageMetadata := by
  refine ⟨?_, use.algorithm, signatureAlgorithmOnCurve_iff.mpr (useOf_algorithm h)⟩
  cases h with
  | blake2b h => exact metadataDecodes_iff.mpr (parseMessageMetadata_iff.mpr ⟨_, h⟩)
  | schnorrkel h => exact metadataDecodes_iff.mpr (parseMessageMetadata_iff.mpr ⟨_, h⟩)
  | plain hblake2b hschnorrkel => exact (requireMessageMetadata_plain hblake2b hschnorrkel).mpr rfl

/-- A request is taken exactly when its scheme has a use on the curve. -/
theorem requestAccepts_iff {scheme : DWalletSignatureScheme} {curve : DWalletCurve}
    {messageMetadata : Bytes} : RequestAccepts P scheme curve messageMetadata ↔
      ∃ use, UseOf P scheme curve messageMetadata use := by
  refine ⟨?_, fun ⟨use, h⟩ => useOf_accepts h⟩
  rintro ⟨hmetadata, algorithm, hcurve⟩
  have hbase := signatureAlgorithmOnCurve_iff.mp hcurve
  by_cases hblake2b : scheme = .ecdsaBlake2b256
  · subst hblake2b
    obtain ⟨metadata, h⟩ := parseMessageMetadata_iff.mp (metadataDecodes_iff.mp hmetadata)
    cases curve with
    | secp256k1 => exact ⟨_, .blake2b h⟩
    | _ => cases hbase
  by_cases hschnorrkel : scheme = .schnorrkelMerlin
  · subst hschnorrkel
    obtain ⟨metadata, h⟩ := parseMessageMetadata_iff.mp (metadataDecodes_iff.mp hmetadata)
    cases curve with
    | ristretto => exact ⟨_, .schnorrkel h⟩
    | _ => cases hbase
  · obtain rfl := (requireMessageMetadata_plain hblake2b hschnorrkel).mp hmetadata
    rw [baseAlgorithm_eq hblake2b hschnorrkel] at hbase
    obtain ⟨verifier, hverifier, -⟩ := Option.map_eq_some_iff.mp hbase
    exact ⟨_, .plain hblake2b hschnorrkel hverifier⟩

theorem requestAccepts_iff_verified {scheme : DWalletSignatureScheme} {curve : DWalletCurve}
    {messageMetadata : Bytes} : RequestAccepts P scheme curve messageMetadata ↔
      CanBeVerified P scheme curve messageMetadata := by
  rw [requestAccepts_iff]
  constructor
  · rintro ⟨use, h⟩
    refine ⟨lenientCryptography, [], [], [], ?_⟩
    rw [verifySignatureWithScheme_eq, schemeUse_iff.mpr h, ok_bind]
    cases use <;> rfl
  · rintro ⟨cryptography, message, dWalletPublicOutput, signature, h⟩
    rw [verifySignatureWithScheme_eq] at h
    obtain ⟨use, huse, -⟩ := bind_ok h
    exact ⟨use, schemeUse_iff.mp huse⟩

/-! ### Two metadata -/

/-- The one names no signing context, and the other the context that the network then takes. -/
def NoneAndDefault (messageMetadata messageMetadata' : Bytes) : Prop :=
  messageMetadata = schnorrkelMessageMetadataBcs.encode ⟨[]⟩ ∧
    messageMetadata' = schnorrkelMessageMetadataBcs.encode ⟨defaultSchnorrkelContext⟩

theorem signingContext_inj {context context' : Bytes}
    (h : (if context.length = 0 then defaultSchnorrkelContext else context) =
      if context'.length = 0 then defaultSchnorrkelContext else context') :
    context = context' ∨ (context = [] ∧ context' = defaultSchnorrkelContext) ∨
      (context' = [] ∧ context = defaultSchnorrkelContext) := by
  split_ifs at h with hnone hnone' hnone'
  · left
    rw [List.length_eq_zero_iff.mp hnone, List.length_eq_zero_iff.mp hnone']
  · exact .inr (.inl ⟨List.length_eq_zero_iff.mp hnone, h.symm⟩)
  · exact .inr (.inr ⟨List.length_eq_zero_iff.mp hnone', h⟩)
  · exact .inl h

theorem useOf_metadata (hreads : ReadsMetadata P) {scheme : DWalletSignatureScheme}
    {curve : DWalletCurve} {messageMetadata messageMetadata' : Bytes} {use : SchemeUse}
    (h : UseOf P scheme curve messageMetadata use)
    (h' : UseOf P scheme curve messageMetadata' use) :
    messageMetadata = messageMetadata' ∨ (scheme = .schnorrkelMerlin ∧
      (NoneAndDefault messageMetadata messageMetadata' ∨
        NoneAndDefault messageMetadata' messageMetadata)) := by
  -- the same use comes from the same constructor, so the two values read are compared
  generalize hsame : use = use' at h'
  cases h with
  | blake2b h =>
    cases h' with
    | blake2b h' =>
      obtain ⟨hpersonal, hsalt⟩ := SchemeUse.ecdsaBlake2b256.inj hsame
      left
      rw [messageMetadataOf_canonical shortest_blake2b hreads.blake2b h,
        messageMetadataOf_canonical shortest_blake2b hreads.blake2b h']
      exact congrArg₂ (fun personal salt => blake2bMessageMetadataBcs.encode ⟨personal, salt⟩)
        hpersonal hsalt
    | plain hblake2b => exact absurd rfl hblake2b
  | schnorrkel h =>
    cases h' with
    | schnorrkel h' =>
      obtain ⟨-, -, -, hcontext⟩ := SchemeUse.named.inj hsame
      rw [messageMetadataOf_canonical shortest_schnorrkel hreads.schnorrkel h,
        messageMetadataOf_canonical shortest_schnorrkel hreads.schnorrkel h']
      rcases signingContext_inj (Option.some.inj hcontext) with hsame | ⟨hnone, hdefault⟩ |
        ⟨hnone, hdefault⟩
      · exact .inl (congrArg (fun context => schnorrkelMessageMetadataBcs.encode ⟨context⟩) hsame)
      · exact .inr ⟨rfl, .inl ⟨by rw [← hnone], by rw [← hdefault]⟩⟩
      · exact .inr ⟨rfl, .inr ⟨by rw [← hnone], by rw [← hdefault]⟩⟩
    | plain _ hschnorrkel => exact absurd rfl hschnorrkel
  | plain hblake2b hschnorrkel =>
    cases h' with
    | blake2b => exact absurd rfl hblake2b
    | schnorrkel => exact absurd rfl hschnorrkel
    | plain => exact .inl rfl

/-! ### Two schemes -/

/-- On one curve another scheme has another use. -/
theorem useOf_scheme {scheme scheme' : DWalletSignatureScheme} {curve : DWalletCurve}
    {messageMetadata : Bytes} {use : SchemeUse} (h : UseOf P scheme curve messageMetadata use)
    (h' : UseOf P scheme' curve messageMetadata use) : scheme = scheme' := by
  generalize hsame : use = use' at h'
  cases h with
  | blake2b =>
    cases h' with
    | blake2b => rfl
    | plain => cases hsame
  | schnorrkel =>
    cases h' with
    | schnorrkel => rfl
    | plain => cases hsame
  | plain _ _ h =>
    cases h' with
    | blake2b => cases hsame
    | schnorrkel => cases hsame
    | plain _ _ h' =>
      cases hsame
      have htable := h.trans h'.symm
      cases curve <;> cases scheme <;> cases h <;> cases scheme' <;> first | rfl | cases htable

/-- A cryptography that takes the signatures of one use of a scheme only. -/
def onlyUse (use : SchemeUse) : AnswerCryptography :=
  let require := fun use' : SchemeUse =>
    if use' = use then Except.ok () else .error "the signature does not verify"
  { lenientCryptography with
    verifySignature := fun curve algorithm hash _ _ _ context =>
      require (.named curve algorithm hash context)
    verifyEcdsaBlake2b256Signature := fun _ _ _ personal salt =>
      require (.ecdsaBlake2b256 personal salt) }

theorem verify_onlyUse_iff {use use' : SchemeUse} {dWalletPublicOutput message signature : Bytes} :
    use'.verify (onlyUse use) dWalletPublicOutput message signature = .ok () ↔ use' = use := by
  have hrequire : (if use' = use then Except.ok () else
      .error "the signature does not verify" : Except String Unit) = .ok () ↔ use' = use := by
    split_ifs with h
    · exact ⟨fun _ => h, fun _ => rfl⟩
    · exact ⟨fun herror => (by cases herror), fun hsame => absurd hsame h⟩
  cases use' <;> exact hrequire

/-! ### Agreement -/

/-- What the request's path and the verification's make of one scheme, curve and metadata. -/
structure SchemesAgree (P : Primitives) (scheme : DWalletSignatureScheme) (curve : DWalletCurve)
    (messageMetadata : Bytes) : Prop where
  accepts : RequestAccepts P scheme curve messageMetadata ↔
    CanBeVerified P scheme curve messageMetadata
  canonical : requireMessageMetadataOfScheme P scheme messageMetadata = .ok () ↔
    CanonicalMetadata scheme messageMetadata
  /-- The request, the user's sign message and the verifier take one use of the scheme. -/
  use : RequestAccepts P scheme curve messageMetadata → ∃ use,
    schemeUse P scheme.number curve.number messageMetadata = .ok use ∧
    signatureAlgorithmOnCurve scheme curve = .ok use.algorithm ∧
    (∀ cryptography args, args.signatureScheme = scheme.number → args.curve = curve.number →
      args.messageMetadata = messageMetadata →
        createUserSignMessageWithScheme P cryptography args = use.sign cryptography args) ∧
    ∀ cryptography message dWalletPublicOutput signature,
      verifySignatureWithScheme P cryptography curve.number scheme.number message messageMetadata
        dWalletPublicOutput signature =
          use.verify cryptography dWalletPublicOutput message signature
  /-- Another metadata has another use, but where the one names no signing context. -/
  distinct : ∀ messageMetadata' use,
    schemeUse P scheme.number curve.number messageMetadata = .ok use →
    schemeUse P scheme.number curve.number messageMetadata' = .ok use →
      messageMetadata = messageMetadata' ∨ (scheme = .schnorrkelMerlin ∧
        (NoneAndDefault messageMetadata messageMetadata' ∨
          NoneAndDefault messageMetadata' messageMetadata))

end Tables

/-- Signing and verifying agree on every scheme, curve and metadata. -/
theorem schemes_agree {P : Primitives} (hreads : ReadsMetadata P)
    (scheme : DWalletSignatureScheme) (curve : DWalletCurve) (messageMetadata : Bytes) :
    SchemesAgree P scheme curve messageMetadata where
  accepts := requestAccepts_iff_verified
  canonical := requireMessageMetadata_iff hreads
  use := by
    intro haccepts
    obtain ⟨use, h⟩ := requestAccepts_iff.mp haccepts
    have huse := schemeUse_iff.mpr h
    refine ⟨use, huse, signatureAlgorithmOnCurve_iff.mpr (useOf_algorithm h), ?_, ?_⟩
    · intro cryptography args hscheme hcurve hmetadata
      rw [createUserSignMessageWithScheme_eq, hscheme, hcurve, hmetadata, huse, ok_bind]
    · intro cryptography message dWalletPublicOutput signature
      rw [verifySignatureWithScheme_eq, huse, ok_bind]
  distinct := by
    intro messageMetadata' use h h'
    exact useOf_metadata hreads (schemeUse_iff.mp h) (schemeUse_iff.mp h')

theorem readsMetadata_sample : ReadsMetadata samplePrimitives :=
  ⟨samplePrimitives_reads, samplePrimitives_reads⟩

theorem schemes_agree_sample : SchemesAgree samplePrimitives .schnorrkelMerlin .ristretto [1, 7] :=
  schemes_agree readsMetadata_sample _ _ _

theorem schemeUse_none_eq_default :
    schemeUse samplePrimitives 6 3 [0] =
      schemeUse samplePrimitives 6 3 (9 :: defaultSchnorrkelContext) := by
  decide +kernel

/-- A metadata that names no signing context and one that names the network's default are
both canonical, and the verifier takes one context from both. -/
theorem two_metadata_one_context : ∃ messageMetadata messageMetadata' : Bytes,
    messageMetadata ≠ messageMetadata' ∧
    CanonicalMetadata .schnorrkelMerlin messageMetadata ∧
    CanonicalMetadata .schnorrkelMerlin messageMetadata' ∧
    RequestAccepts samplePrimitives .schnorrkelMerlin .ristretto messageMetadata ∧
    RequestAccepts samplePrimitives .schnorrkelMerlin .ristretto messageMetadata' ∧
    ∀ cryptography message dWalletPublicOutput signature,
      verifySignatureWithScheme samplePrimitives cryptography 3 6 message messageMetadata
        dWalletPublicOutput signature =
      verifySignatureWithScheme samplePrimitives cryptography 3 6 message messageMetadata'
        dWalletPublicOutput signature := by
  refine ⟨[0], 9 :: defaultSchnorrkelContext, by decide, ⟨⟨[]⟩, by decide +kernel⟩,
    ⟨⟨defaultSchnorrkelContext⟩, by decide +kernel⟩, ⟨by decide +kernel, .schnorrkel, rfl⟩,
    ⟨by decide +kernel, .schnorrkel, rfl⟩, ?_⟩
  intro cryptography message dWalletPublicOutput signature
  rw [verifySignatureWithScheme_eq, verifySignatureWithScheme_eq, schemeUse_none_eq_default]

end Ika
