import IkaSdk.Core.Grpc.Bcs

/-! The BCS types of a request: every kind with its fields, and the data that a
transport key signs. -/

namespace Ika

open Wire

inductive UserSecretKeyShare
  | encrypted (encryptedCentralizedSecretShareAndProof encryptionKey signerPublicKey : Bytes)
  | publicShare (publicUserSecretKeyShare : Bytes)
deriving DecidableEq, Repr

def userSecretKeyShareBcs : Codec UserSecretKeyShare :=
  .enumOf (fun | .encrypted .. => 0 | .publicShare _ => 1) fun
    | 0 => (Codec.byteVector.pair (Codec.byteVector.pair .byteVector)).variant
        (fun f => .encrypted f.1 f.2.1 f.2.2)
        (fun | .encrypted a b c => some (a, b, c) | _ => none)
        fun s f h => by cases s <;> cases h; rfl
    | 1 => Codec.byteVector.variant .publicShare
        (fun | .publicShare a => some a | _ => none)
        fun s f h => by cases s <;> cases h; rfl
    | _ => .never

structure SignDuringDkgRequest where
  presignSessionIdentifier : Bytes
  presign : Bytes
  signatureScheme : DWalletSignatureScheme
  message : Bytes
  messageMetadata : Bytes
  messageCentralizedSignature : Bytes
deriving DecidableEq, Repr

def signDuringDkgRequestBcs : Codec SignDuringDkgRequest :=
  (Codec.byteVector.pair (Codec.byteVector.pair (dwalletSignatureSchemeBcs.pair
    (Codec.byteVector.pair (Codec.byteVector.pair .byteVector))))).iso
    (fun f => ⟨f.1, f.2.1, f.2.2.1, f.2.2.2.1, f.2.2.2.2.1, f.2.2.2.2.2⟩)
    (fun r => (r.presignSessionIdentifier, r.presign, r.signatureScheme, r.message,
      r.messageMetadata, r.messageCentralizedSignature)) fun _ => rfl

structure DkgRequest where
  networkKeyId : Bytes
  curve : DWalletCurve
  centralizedPublicKeyShareAndProof : Bytes
  userSecretKeyShare : UserSecretKeyShare
  userPublicOutput : Bytes
  signDuringDkgRequest : Option SignDuringDkgRequest
deriving DecidableEq, Repr

/-- The brand of a network key id admits 32 bytes only. -/
def networkKeyIdBcs : Codec Bytes :=
  { Codec.byteVector with
    valid := fun a => a.length == 32
    decode_encode := fun a _ rest => Codec.byteVector.decode_encode a rfl rest }

def dkgRequestBcs : Codec DkgRequest :=
  (networkKeyIdBcs.pair (dwalletCurveBcs.pair (Codec.byteVector.pair
    (userSecretKeyShareBcs.pair (Codec.byteVector.pair
      (Codec.option signDuringDkgRequestBcs)))))).iso
    (fun f => ⟨f.1, f.2.1, f.2.2.1, f.2.2.2.1, f.2.2.2.2.1, f.2.2.2.2.2⟩)
    (fun r => (r.networkKeyId, r.curve, r.centralizedPublicKeyShareAndProof,
      r.userSecretKeyShare, r.userPublicOutput, r.signDuringDkgRequest)) fun _ => rfl

/-- The fields of `Sign` and of `ImportedKeySign`. -/
structure SignRequest where
  message : Bytes
  messageMetadata : Bytes
  signatureScheme : DWalletSignatureScheme
  presignSessionIdentifier : Bytes
  messageCentralizedSignature : Bytes
  dwalletAttestation : NetworkSignedAttestation
  signatureVoucher : Bytes
deriving DecidableEq, Repr

def signRequestBcs : Codec SignRequest :=
  (Codec.byteVector.pair (Codec.byteVector.pair (dwalletSignatureSchemeBcs.pair
    (Codec.byteVector.pair (Codec.byteVector.pair
      (networkSignedAttestationBcs.pair (.fixedBytes 32))))))).iso
    (fun f => ⟨f.1, f.2.1, f.2.2.1, f.2.2.2.1, f.2.2.2.2.1, f.2.2.2.2.2.1, f.2.2.2.2.2.2⟩)
    (fun r => (r.message, r.messageMetadata, r.signatureScheme, r.presignSessionIdentifier,
      r.messageCentralizedSignature, r.dwalletAttestation, r.signatureVoucher)) fun _ => rfl

structure PresignRequest where
  networkKeyId : Bytes
  curve : DWalletCurve
  signatureAlgorithm : DWalletSignatureAlgorithm
deriving DecidableEq, Repr

def presignRequestBcs : Codec PresignRequest :=
  (networkKeyIdBcs.pair (dwalletCurveBcs.pair dwalletSignatureAlgorithmBcs)).iso
    (fun f => ⟨f.1, f.2.1, f.2.2⟩)
    (fun r => (r.networkKeyId, r.curve, r.signatureAlgorithm)) fun _ => rfl

structure PresignForDWalletRequest where
  networkKeyId : Bytes
  dwalletPublicKey : Bytes
  dwalletAttestation : NetworkSignedAttestation
  curve : DWalletCurve
  signatureAlgorithm : DWalletSignatureAlgorithm
deriving DecidableEq, Repr

def presignForDWalletRequestBcs : Codec PresignForDWalletRequest :=
  (networkKeyIdBcs.pair (Codec.byteVector.pair (networkSignedAttestationBcs.pair
    (dwalletCurveBcs.pair dwalletSignatureAlgorithmBcs)))).iso
    (fun f => ⟨f.1, f.2.1, f.2.2.1, f.2.2.2.1, f.2.2.2.2⟩)
    (fun r => (r.networkKeyId, r.dwalletPublicKey, r.dwalletAttestation, r.curve,
      r.signatureAlgorithm)) fun _ => rfl

structure ImportedKeyVerificationRequest where
  networkKeyId : Bytes
  curve : DWalletCurve
  centralizedPartyMessage : Bytes
  userSecretKeyShare : UserSecretKeyShare
  userPublicOutput : Bytes
deriving DecidableEq, Repr

def importedKeyVerificationRequestBcs : Codec ImportedKeyVerificationRequest :=
  (networkKeyIdBcs.pair (dwalletCurveBcs.pair (Codec.byteVector.pair
    (userSecretKeyShareBcs.pair .byteVector)))).iso
    (fun f => ⟨f.1, f.2.1, f.2.2.1, f.2.2.2.1, f.2.2.2.2⟩)
    (fun r => (r.networkKeyId, r.curve, r.centralizedPartyMessage, r.userSecretKeyShare,
      r.userPublicOutput)) fun _ => rfl

/-- The fields of `AttachEncryptedShare`; `ReEncryptShare` adds its source. -/
structure AttachEncryptedShareRequest where
  networkKeyId : Bytes
  dwalletPublicKey : Bytes
  dwalletAttestation : NetworkSignedAttestation
  encryptedCentralizedSecretShareAndProof : Bytes
  encryptionKey : Bytes
  holder : ShareHolder
deriving DecidableEq, Repr

def attachEncryptedShareRequestBcs : Codec AttachEncryptedShareRequest :=
  (networkKeyIdBcs.pair (Codec.byteVector.pair (networkSignedAttestationBcs.pair
    (Codec.byteVector.pair (Codec.byteVector.pair shareHolderBcs))))).iso
    (fun f => ⟨f.1, f.2.1, f.2.2.1, f.2.2.2.1, f.2.2.2.2.1, f.2.2.2.2.2⟩)
    (fun r => (r.networkKeyId, r.dwalletPublicKey, r.dwalletAttestation,
      r.encryptedCentralizedSecretShareAndProof, r.encryptionKey, r.holder)) fun _ => rfl

structure ReEncryptShareRequest extends AttachEncryptedShareRequest where
  sourceHolder : ShareHolder
deriving DecidableEq, Repr

def reEncryptShareRequestBcs : Codec ReEncryptShareRequest :=
  (attachEncryptedShareRequestBcs.pair shareHolderBcs).iso (fun f => ⟨f.1, f.2⟩)
    (fun r => (r.toAttachEncryptedShareRequest, r.sourceHolder)) fun _ => rfl

structure MakeSharePublicRequest where
  dwalletPublicKey : Bytes
  dwalletAttestation : NetworkSignedAttestation
  publicUserSecretKeyShare : Bytes
deriving DecidableEq, Repr

def makeSharePublicRequestBcs : Codec MakeSharePublicRequest :=
  (Codec.byteVector.pair (networkSignedAttestationBcs.pair .byteVector)).iso
    (fun f => ⟨f.1, f.2.1, f.2.2⟩)
    (fun r => (r.dwalletPublicKey, r.dwalletAttestation, r.publicUserSecretKeyShare)) fun _ => rfl

structure FutureSignRequest where
  dwalletPublicKey : Bytes
  dwalletAttestation : NetworkSignedAttestation
  presignAttestation : NetworkSignedAttestation
  message : Bytes
  messageMetadata : Bytes
  messageCentralizedSignature : Bytes
  signatureScheme : DWalletSignatureScheme
  futureSignatureVoucher : Bytes
deriving DecidableEq, Repr

def futureSignRequestBcs : Codec FutureSignRequest :=
  (Codec.byteVector.pair (networkSignedAttestationBcs.pair (networkSignedAttestationBcs.pair
    (Codec.byteVector.pair (Codec.byteVector.pair (Codec.byteVector.pair
      (dwalletSignatureSchemeBcs.pair (.fixedBytes 32)))))))).iso
    (fun f => ⟨f.1, f.2.1, f.2.2.1, f.2.2.2.1, f.2.2.2.2.1, f.2.2.2.2.2.1, f.2.2.2.2.2.2.1,
      f.2.2.2.2.2.2.2⟩)
    (fun r => (r.dwalletPublicKey, r.dwalletAttestation, r.presignAttestation, r.message,
      r.messageMetadata, r.messageCentralizedSignature, r.signatureScheme,
      r.futureSignatureVoucher)) fun _ => rfl

/-- The fields of the completion of a future sign, of either kind of dWallet. -/
structure SignWithPartialUserSigRequest where
  partialUserSignatureAttestation : NetworkSignedAttestation
  dwalletAttestation : NetworkSignedAttestation
  message : Bytes
  messageMetadata : Bytes
  futureSignatureVoucher : Bytes
deriving DecidableEq, Repr

def signWithPartialUserSigRequestBcs : Codec SignWithPartialUserSigRequest :=
  (networkSignedAttestationBcs.pair (networkSignedAttestationBcs.pair
    (Codec.byteVector.pair (Codec.byteVector.pair (.fixedBytes 32))))).iso
    (fun f => ⟨f.1, f.2.1, f.2.2.1, f.2.2.2.1, f.2.2.2.2⟩)
    (fun r => (r.partialUserSignatureAttestation, r.dwalletAttestation, r.message,
      r.messageMetadata, r.futureSignatureVoucher)) fun _ => rfl

/-! ## The request and the signed data -/

inductive DWalletRequest
  | dkg (request : DkgRequest)
  | sign (request : SignRequest)
  | importedKeySign (request : SignRequest)
  | presign (request : PresignRequest)
  | presignForDWallet (request : PresignForDWalletRequest)
  | importedKeyVerification (request : ImportedKeyVerificationRequest)
  | reEncryptShare (request : ReEncryptShareRequest)
  | makeSharePublic (request : MakeSharePublicRequest)
  | futureSign (request : FutureSignRequest)
  | signWithPartialUserSig (request : SignWithPartialUserSigRequest)
  | importedKeySignWithPartialUserSig (request : SignWithPartialUserSigRequest)
  | releaseGas (unsupported : Bytes)
  | retiredAcceptShare
  | retiredStorePresign
  | attachEncryptedShare (request : AttachEncryptedShareRequest)
deriving DecidableEq, Repr

def DWalletRequest.index : DWalletRequest → ℕ
  | dkg _ => 0
  | sign _ => 1
  | importedKeySign _ => 2
  | presign _ => 3
  | presignForDWallet _ => 4
  | importedKeyVerification _ => 5
  | reEncryptShare _ => 6
  | makeSharePublic _ => 7
  | futureSign _ => 8
  | signWithPartialUserSig _ => 9
  | importedKeySignWithPartialUserSig _ => 10
  | releaseGas _ => 11
  | retiredAcceptShare => 12
  | retiredStorePresign => 13
  | attachEncryptedShare _ => 14

def dwalletRequestBcs : Codec DWalletRequest :=
  .enumOf DWalletRequest.index fun
    | 0 => dkgRequestBcs.variant .dkg (fun | .dkg r => some r | _ => none)
        fun r f h => by cases r <;> cases h; rfl
    | 1 => signRequestBcs.variant .sign (fun | .sign r => some r | _ => none)
        fun r f h => by cases r <;> cases h; rfl
    | 2 => signRequestBcs.variant .importedKeySign (fun | .importedKeySign r => some r | _ => none)
        fun r f h => by cases r <;> cases h; rfl
    | 3 => presignRequestBcs.variant .presign (fun | .presign r => some r | _ => none)
        fun r f h => by cases r <;> cases h; rfl
    | 4 => presignForDWalletRequestBcs.variant .presignForDWallet
        (fun | .presignForDWallet r => some r | _ => none)
        fun r f h => by cases r <;> cases h; rfl
    | 5 => importedKeyVerificationRequestBcs.variant .importedKeyVerification
        (fun | .importedKeyVerification r => some r | _ => none)
        fun r f h => by cases r <;> cases h; rfl
    | 6 => reEncryptShareRequestBcs.variant .reEncryptShare
        (fun | .reEncryptShare r => some r | _ => none)
        fun r f h => by cases r <;> cases h; rfl
    | 7 => makeSharePublicRequestBcs.variant .makeSharePublic
        (fun | .makeSharePublic r => some r | _ => none)
        fun r f h => by cases r <;> cases h; rfl
    | 8 => futureSignRequestBcs.variant .futureSign (fun | .futureSign r => some r | _ => none)
        fun r f h => by cases r <;> cases h; rfl
    | 9 => signWithPartialUserSigRequestBcs.variant .signWithPartialUserSig
        (fun | .signWithPartialUserSig r => some r | _ => none)
        fun r f h => by cases r <;> cases h; rfl
    | 10 => signWithPartialUserSigRequestBcs.variant .importedKeySignWithPartialUserSig
        (fun | .importedKeySignWithPartialUserSig r => some r | _ => none)
        fun r f h => by cases r <;> cases h; rfl
    | 11 => Codec.byteVector.variant .releaseGas (fun | .releaseGas r => some r | _ => none)
        fun r f h => by cases r <;> cases h; rfl
    | 12 => Codec.unit.variant (fun _ => .retiredAcceptShare)
        (fun | .retiredAcceptShare => some () | _ => none) fun r f h => by cases r <;> cases h; rfl
    | 13 => Codec.unit.variant (fun _ => .retiredStorePresign)
        (fun | .retiredStorePresign => some () | _ => none) fun r f h => by cases r <;> cases h; rfl
    | 14 => attachEncryptedShareRequestBcs.variant .attachEncryptedShare
        (fun | .attachEncryptedShare r => some r | _ => none)
        fun r f h => by cases r <;> cases h; rfl
    | _ => .never

structure SignedRequestData where
  sessionIdentifierPreimage : Bytes
  epoch : ℕ
  chainId : ChainId
  network : ℕ
  intendedChainSender : Bytes
  request : DWalletRequest
deriving DecidableEq, Repr

def signedRequestDataBcs : Codec SignedRequestData :=
  ((Codec.fixedBytes 32).pair ((Codec.uint 8).pair (chainIdBcs.pair ((Codec.uint 1).pair
    (Codec.byteVector.pair dwalletRequestBcs))))).iso
    (fun f => ⟨f.1, f.2.1, f.2.2.1, f.2.2.2.1, f.2.2.2.2.1, f.2.2.2.2.2⟩)
    (fun d => (d.sessionIdentifierPreimage, d.epoch, d.chainId, d.network,
      d.intendedChainSender, d.request)) fun _ => rfl

/-- The signature of a user's key over a request, with the key. -/
inductive UserSignature
  | ed25519 (signature publicKey : Bytes)
  | secp256k1 (signature publicKey : Bytes)
  | secp256r1 (signature publicKey : Bytes)
deriving DecidableEq, Repr

def userSignatureBcs : Codec UserSignature :=
  .enumOf (fun | .ed25519 .. => 0 | .secp256k1 .. => 1 | .secp256r1 .. => 2) fun
    | 0 => (Codec.byteVector.pair .byteVector).variant (fun f => .ed25519 f.1 f.2)
        (fun | .ed25519 a b => some (a, b) | _ => none) fun s f h => by cases s <;> cases h; rfl
    | 1 => (Codec.byteVector.pair .byteVector).variant (fun f => .secp256k1 f.1 f.2)
        (fun | .secp256k1 a b => some (a, b) | _ => none)
        fun s f h => by cases s <;> cases h; rfl
    | 2 => (Codec.byteVector.pair .byteVector).variant (fun f => .secp256r1 f.1 f.2)
        (fun | .secp256r1 a b => some (a, b) | _ => none)
        fun s f h => by cases s <;> cases h; rfl
    | _ => .never

end Ika
