import IkaSdk.Core.Primitives

/-! The errors that the checks of the SDK throw, with the fields a caller can
read from them. -/

namespace Ika

open Wire

inductive Chain
  | sui
  | solana
deriving DecidableEq, Repr

def Chain.name : Chain → String
  | sui => "sui"
  | solana => "solana"

/-- Which part of the check of an attestation record failed. -/
inductive AttestationRecordCheck
  | version
  | signer
  | signature
  | decode
  | length
  | binding
  | record
deriving DecidableEq, Repr

inductive DWalletShareNotYoursReason
  | missing
  | anotherHolder
deriving DecidableEq, Repr

inductive SdkError
  | attestationRecord (check : AttestationRecordCheck) (message : String) (field : Option String)
  | dwalletShareNotYours (reason : DWalletShareNotYoursReason)
      (dwalletPublicKey userSignerPublicKey : Bytes) (detail : String)
  | dwalletUsabilityNotChecked (message : String)
  | dwalletCheckedOnAnotherChain (checkedChain requestChain : Chain)
  | error (message : String)
  | typeError (message : String)
deriving DecidableEq, Repr

/-- The text of an error, as `error.message` reads it. -/
def SdkError.message : SdkError → String
  | attestationRecord _ message _ => message
  | dwalletShareNotYours _ dwallet user detail =>
    s!"The share of the dWallet with public key {toHex dwallet} is not held by your " ++
      s!"key {toHex user}. {detail} Someone else created this dWallet for your " ++
      "address, and the SDK will not sign for it. If you want this dWallet, ask its share " ++
      "holder to re-encrypt the share to your key, and accept that share."
  | dwalletUsabilityNotChecked message => message
  | dwalletCheckedOnAnotherChain checked request =>
    s!"the ownership check is for the dWallet on {checked.name}, and this request is for " ++
      s!"{request.name}; check the dWallet on {request.name}"
  | error message => message
  | typeError message => message

/-- An error of another package, thrown on as it is. -/
def fromPackage {α : Type} : Except String α → Except SdkError α
  | .ok a => .ok a
  | .error message => .error (.error message)

theorem fromPackage_ok {α : Type} {x : Except String α} {a : α}
    (h : fromPackage x = .ok a) : x = .ok a := by
  cases x with
  | ok b => exact congrArg _ (Except.ok.inj h)
  | error e => cases h

end Ika
