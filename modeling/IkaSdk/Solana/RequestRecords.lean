import IkaSdk.Core.Common.RequestRecords
import IkaSdk.Solana.Usability

/-! The reads that find a request's session on Solana. -/

namespace Ika.Solana

open Wire Interaction

/-- Whether there is an account at all: neither its owner nor its data is read. -/
def readPresence (endpoint : CrossCheckEndpoint) (address : Bytes) : SolanaEff (Option Bool) := do
  match ← getAccount endpoint address with
  | none => return none
  | some _ => return some true

/-- What a voucher's account reads as, if there is one. -/
def decodeVoucher {T : Type} (decode : Bytes → Except SdkError (Option T)) :
    Option ReadAccount → Except SdkError (Option T)
  | none => .ok none
  | some account => decode account.data

/-- The read of a voucher's account, whose owner is not read. -/
def readVoucher {T U : Type} (decode : Bytes → Except SdkError (Option T)) (found : T → Option U)
    (endpoint : CrossCheckEndpoint) (voucher : Bytes) : SolanaEff (Option U) := do
  let account ← getAccount endpoint voucher
  match ← decodeVoucher decode account with
  | none => return none
  | some read => return found read

/-- The signature a voucher holds, unless it is empty. -/
def storedSignature (signature : Bytes) : Option Bytes :=
  if signature = [] then none else some signature

/-- The stored attestation fields open with the step's session identifier. -/
def futureVoucherOf (read : FutureSignatureVoucherAccount) : FutureVoucher where
  stepOneSession := if read.hasPartialSignature then some (read.attestation.take 32) else none
  signature := storedSignature read.signature
  closed := read.status == futureSignatureVoucherSettledWithoutDelivery

section Reads

variable (P : Primitives) (programId : Bytes) (crossCheck : SolanaReadCrossCheck) (fuel : ℕ)

def hasGasCharge (chargeId : Bytes) : SolanaEff Bool := do
  let derived ← fromPackage (gasChargePda P programId chargeId)
  let found ← crossCheckedAccountRead crossCheck fuel "a gas charge record"
    (readPresence · derived.address) (· == ·)
  return found == some true

def voucherSignature (voucher : Bytes) : SolanaEff (Option Bytes) :=
  crossCheckedAccountRead crossCheck fuel "a voucher's signature"
    (readVoucher readSignatureVoucherUnverified (storedSignature ·.signature) · voucher) (· == ·)

def futureVoucher (voucher : Bytes) : SolanaEff (Option FutureVoucher) :=
  crossCheckedAccountRead crossCheck fuel "a future signature voucher"
    (readVoucher readFutureSignatureVoucherUnverified (some <| futureVoucherOf ·) · voucher)
    (fun first second => first.stepOneSession == second.stepOneSession &&
      first.signature == second.signature && first.closed == second.closed)

/-- The reads of `solanaRequestRecordReader`, with the share reads of
`dwalletShareReader`. -/
def requestRecordReads (keys : TrustedNetworkKeys) :
    ∀ op : RecordOp SolanaDWalletHandle, Prog solanaInterface (Except SdkError op.Read)
  | .hasGasCharge _ chargeId => (hasGasCharge P programId crossCheck fuel chargeId).run
  | .voucherSignature voucher => (voucherSignature crossCheck fuel voucher).run
  | .futureVoucher voucher => (futureVoucher crossCheck fuel voucher).run
  | .readDWallet lookup => (checkedReadDWallet P programId keys lookup).run
  | .readEncryptedShare record holder =>
    (checkedReadEncryptedShare P programId keys record holder none).run
  | .readPublicShare record => (checkedReadPublicShare P programId crossCheck fuel record).run

end Reads

end Ika.Solana
