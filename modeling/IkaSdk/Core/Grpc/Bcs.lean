import IkaSdk.Lib.Codec

/-! The BCS types of the attestations that the network signs: the fields of
each kind and the bytes they are written as. -/

namespace Ika

open Wire

/-! ## Enumerations -/

inductive DWalletCurve
  | secp256k1
  | secp256r1
  | curve25519
  | ristretto
deriving DecidableEq, Repr

/-- The curves in the order of their numbers. -/
def curves : List DWalletCurve := [.secp256k1, .secp256r1, .curve25519, .ristretto]

def DWalletCurve.number (c : DWalletCurve) : ℕ := curves.idxOf c

def dwalletCurveBcs : Codec DWalletCurve := .unitEnum curves

inductive DWalletSignatureAlgorithm
  | ecdsaSecp256k1
  | ecdsaSecp256r1
  | taproot
  | eddsa
  | schnorrkel
  | taprootVss
  | eddsaVss
  | schnorrkelVss
deriving DecidableEq, Repr

def signatureAlgorithms : List DWalletSignatureAlgorithm :=
  [.ecdsaSecp256k1, .ecdsaSecp256r1, .taproot, .eddsa, .schnorrkel, .taprootVss, .eddsaVss,
    .schnorrkelVss]

def dwalletSignatureAlgorithmBcs : Codec DWalletSignatureAlgorithm := .unitEnum signatureAlgorithms

inductive DWalletSignatureScheme
  | ecdsaKeccak256
  | ecdsaSha256
  | ecdsaDoubleSha256
  | taprootSha256
  | ecdsaBlake2b256
  | eddsaSha512
  | schnorrkelMerlin
deriving DecidableEq, Repr

def dwalletSignatureSchemes : List DWalletSignatureScheme :=
  [.ecdsaKeccak256, .ecdsaSha256, .ecdsaDoubleSha256, .taprootSha256, .ecdsaBlake2b256,
    .eddsaSha512, .schnorrkelMerlin]

/-- The name of a scheme, as an error message writes it. -/
def DWalletSignatureScheme.name : DWalletSignatureScheme → String
  | ecdsaKeccak256 => "EcdsaKeccak256"
  | ecdsaSha256 => "EcdsaSha256"
  | ecdsaDoubleSha256 => "EcdsaDoubleSha256"
  | taprootSha256 => "TaprootSha256"
  | ecdsaBlake2b256 => "EcdsaBlake2b256"
  | eddsaSha512 => "EddsaSha512"
  | schnorrkelMerlin => "SchnorrkelMerlin"

def dwalletSignatureSchemeBcs : Codec DWalletSignatureScheme := .unitEnum dwalletSignatureSchemes

inductive SignatureScheme
  | ed25519
  | secp256k1
  | secp256r1
deriving DecidableEq, Repr

def signatureSchemes : List SignatureScheme := [.ed25519, .secp256k1, .secp256r1]

def SignatureScheme.number (s : SignatureScheme) : ℕ := signatureSchemes.idxOf s

def signatureSchemeBcs : Codec SignatureScheme := .unitEnum signatureSchemes

inductive ChainId
  | solana
  | sui
deriving DecidableEq, Repr

def chainIdBcs : Codec ChainId := .unitEnum [.solana, .sui]

/-! ## Signed attestations -/

structure NetworkSignedAttestation where
  attestationData : Bytes
  networkSignature : Bytes
  networkPubkey : Bytes
  signerNoaPublicKey : Bytes
deriving DecidableEq, Repr

def networkSignedAttestationBcs : Codec NetworkSignedAttestation :=
  (Codec.byteVector.pair (Codec.byteVector.pair (Codec.byteVector.pair (.fixedBytes 32)))).iso
    (fun f => ⟨f.1, f.2.1, f.2.2.1, f.2.2.2⟩)
    (fun a => (a.attestationData, a.networkSignature, a.networkPubkey, a.signerNoaPublicKey))
    fun _ => rfl

structure ShareHolder where
  signatureScheme : SignatureScheme
  signerPublicKey : Bytes
deriving DecidableEq, Repr

def shareHolderBcs : Codec ShareHolder :=
  (signatureSchemeBcs.pair (.fixedBytes 32)).iso (fun f => ⟨f.1, f.2⟩)
    (fun h => (h.signatureScheme, h.signerPublicKey)) fun _ => rfl

structure AttestationProofV1 where
  attestationVersion : ℕ
  signerNoaPublicKey : Bytes
  noaSignature : Bytes
deriving DecidableEq, Repr

/-- A versioned type with the one variant `V1`. -/
def versioned {α : Type} (c : Codec α) : Codec α :=
  .enumOf (fun _ => 0) fun
    | 0 => c
    | _ => .never

theorem versioned_encode {α : Type} (c : Codec α) (a : α) :
    (versioned c).encode a = 0 :: c.encode a := rfl

theorem versioned_decode {α : Type} (c : Codec α) (bytes : Bytes) :
    (versioned c).decode (0 :: bytes) = c.decode bytes := rfl

def versionedAttestationProofBcs : Codec AttestationProofV1 :=
  versioned (((Codec.uint 1).pair ((Codec.fixedBytes 32).pair (.fixedBytes 64))).iso
    (fun f => ⟨f.1, f.2.1, f.2.2⟩)
    (fun p => (p.attestationVersion, p.signerNoaPublicKey, p.noaSignature)) fun _ => rfl)

structure DWalletAttestation where
  sessionIdentifier : Bytes
  intendedChainSender : Bytes
  curve : DWalletCurve
  publicKey : Bytes
  publicOutput : Bytes
  isImportedKey : Bool
  signDuringDkgSignature : Option Bytes
  holder : Option ShareHolder
  encryptionKeyHash : Option Bytes
  encryptedShareHash : Option Bytes
  epoch : ℕ
deriving DecidableEq, Repr

def versionedDWalletDataAttestationBcs : Codec DWalletAttestation :=
  versioned (((Codec.fixedBytes 32).pair (Codec.byteVector.pair (dwalletCurveBcs.pair
    (Codec.byteVector.pair (Codec.byteVector.pair (Codec.bool.pair
      ((Codec.option .byteVector).pair ((Codec.option shareHolderBcs).pair
        ((Codec.option (.fixedBytes 32)).pair ((Codec.option (.fixedBytes 32)).pair
          (.uint 8))))))))))).iso
    (fun f => ⟨f.1, f.2.1, f.2.2.1, f.2.2.2.1, f.2.2.2.2.1, f.2.2.2.2.2.1, f.2.2.2.2.2.2.1,
      f.2.2.2.2.2.2.2.1, f.2.2.2.2.2.2.2.2.1, f.2.2.2.2.2.2.2.2.2.1, f.2.2.2.2.2.2.2.2.2.2⟩)
    (fun a => (a.sessionIdentifier, a.intendedChainSender, a.curve, a.publicKey,
      a.publicOutput, a.isImportedKey, a.signDuringDkgSignature, a.holder,
      a.encryptionKeyHash, a.encryptedShareHash, a.epoch)) fun _ => rfl)

structure EncryptedShareAttestation where
  sessionIdentifier : Bytes
  intendedChainSender : Bytes
  dwalletPublicKey : Bytes
  encryptedShareHash : Bytes
  encryptionKeyHash : Bytes
  holder : ShareHolder
  dwalletAttestationDigest : Bytes
deriving DecidableEq, Repr

def versionedEncryptedUserKeyShareAttestationBcs : Codec EncryptedShareAttestation :=
  versioned (((Codec.fixedBytes 32).pair (Codec.byteVector.pair (Codec.byteVector.pair
    ((Codec.fixedBytes 32).pair ((Codec.fixedBytes 32).pair
      (shareHolderBcs.pair (.fixedBytes 32))))))).iso
    (fun f => ⟨f.1, f.2.1, f.2.2.1, f.2.2.2.1, f.2.2.2.2.1, f.2.2.2.2.2.1, f.2.2.2.2.2.2⟩)
    (fun a => (a.sessionIdentifier, a.intendedChainSender, a.dwalletPublicKey,
      a.encryptedShareHash, a.encryptionKeyHash, a.holder, a.dwalletAttestationDigest))
    fun _ => rfl)

structure PublicShareAttestation where
  sessionIdentifier : Bytes
  intendedChainSender : Bytes
  dwalletPublicKey : Bytes
  publicUserSecretKeyShare : Bytes
  dwalletAttestationDigest : Bytes
deriving DecidableEq, Repr

def versionedPublicUserKeyShareAttestationBcs : Codec PublicShareAttestation :=
  versioned (((Codec.fixedBytes 32).pair (Codec.byteVector.pair (Codec.byteVector.pair
    (Codec.byteVector.pair (.fixedBytes 32))))).iso
    (fun f => ⟨f.1, f.2.1, f.2.2.1, f.2.2.2.1, f.2.2.2.2⟩)
    (fun a => (a.sessionIdentifier, a.intendedChainSender, a.dwalletPublicKey,
      a.publicUserSecretKeyShare, a.dwalletAttestationDigest)) fun _ => rfl)

structure PresignAttestation where
  sessionIdentifier : Bytes
  epoch : ℕ
  presignSessionIdentifier : Bytes
  presignData : Bytes
  curve : DWalletCurve
  signatureAlgorithm : DWalletSignatureAlgorithm
  dwalletPublicKey : Option Bytes
  userPubkey : Bytes
deriving DecidableEq, Repr

def versionedPresignDataAttestationBcs : Codec PresignAttestation :=
  versioned (((Codec.fixedBytes 32).pair ((Codec.uint 8).pair (Codec.byteVector.pair
    (Codec.byteVector.pair (dwalletCurveBcs.pair (dwalletSignatureAlgorithmBcs.pair
      ((Codec.option .byteVector).pair .byteVector))))))).iso
    (fun f => ⟨f.1, f.2.1, f.2.2.1, f.2.2.2.1, f.2.2.2.2.1, f.2.2.2.2.2.1, f.2.2.2.2.2.2.1,
      f.2.2.2.2.2.2.2⟩)
    (fun a => (a.sessionIdentifier, a.epoch, a.presignSessionIdentifier, a.presignData,
      a.curve, a.signatureAlgorithm, a.dwalletPublicKey, a.userPubkey)) fun _ => rfl)

structure PartialUserSignatureAttestation where
  sessionIdentifier : Bytes
  intendedChainSender : Bytes
  dwalletPublicKey : Bytes
  dwalletAttestationHash : Bytes
  futureSignatureVoucher : Bytes
  presignSessionIdentifier : Bytes
  presignAttestationHash : Bytes
  messageDigest : Bytes
  messageMetadataDigest : Bytes
  signatureScheme : DWalletSignatureScheme
  verifiedSignData : Bytes
deriving DecidableEq, Repr

def versionedPartialUserSignatureAttestationBcs : Codec PartialUserSignatureAttestation :=
  versioned (((Codec.fixedBytes 32).pair (Codec.byteVector.pair (Codec.byteVector.pair
    ((Codec.fixedBytes 32).pair ((Codec.fixedBytes 32).pair (Codec.byteVector.pair
      ((Codec.fixedBytes 32).pair ((Codec.fixedBytes 32).pair ((Codec.fixedBytes 32).pair
        (dwalletSignatureSchemeBcs.pair .byteVector)))))))))).iso
    (fun f => ⟨f.1, f.2.1, f.2.2.1, f.2.2.2.1, f.2.2.2.2.1, f.2.2.2.2.2.1, f.2.2.2.2.2.2.1,
      f.2.2.2.2.2.2.2.1, f.2.2.2.2.2.2.2.2.1, f.2.2.2.2.2.2.2.2.2.1, f.2.2.2.2.2.2.2.2.2.2⟩)
    (fun a => (a.sessionIdentifier, a.intendedChainSender, a.dwalletPublicKey,
      a.dwalletAttestationHash, a.futureSignatureVoucher, a.presignSessionIdentifier,
      a.presignAttestationHash, a.messageDigest, a.messageMetadataDigest, a.signatureScheme,
      a.verifiedSignData)) fun _ => rfl)

end Ika
