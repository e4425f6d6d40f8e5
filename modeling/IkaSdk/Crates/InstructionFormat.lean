import IkaSdk.Lib.Codec

/-! The format of the instructions that a program sends to the ika program about
its vouchers and its dWallets: what each instruction says, and its bytes. -/

namespace Ika.Crates

open Wire

structure IssueVoucher where
  messageDigest : Bytes
  messageMetadataDigest : Bytes
  signatureScheme : ℕ
  owner : Option Bytes
  signingKey : Option Bytes
deriving DecidableEq, Repr

inductive IkaInstruction
  | transferOwnership (newOwner : Bytes)
  | issueSignatureVoucher (voucher : IssueVoucher)
  | setVoucherSigningKey (signingKey : Bytes)
  | revokeSignatureVoucher
  | transferSignatureVoucher (newOwner : Bytes)
  | issueFutureSignatureVoucher (voucher : IssueVoucher)
deriving DecidableEq, Repr

/-! ## Optional keys behind one flags byte -/

def keyFlags (owner signingKey : Option Bytes) : UInt8 :=
  (if owner.isSome then 1 else 0) ||| (if signingKey.isSome then 2 else 0)

/-- One key of 32 bytes, when its flag says there is one. -/
def takeKey (flag : Bool) (bytes : Bytes) : Option (Option Bytes × Bytes) :=
  if flag then ((Codec.fixedBytes 32).decode bytes).map fun read => (some read.1, read.2)
  else some (none, bytes)

def takeKeys : Bytes → Option ((Option Bytes × Option Bytes) × Bytes)
  | [] => none
  | flags :: bytes => do
    let (owner, bytes) ← takeKey (flags &&& 1 != 0) bytes
    let (signingKey, bytes) ← takeKey (flags &&& 2 != 0) bytes
    some ((owner, signingKey), bytes)

theorem takeKey_append {key : Option Bytes} (h : key.all (·.length == 32)) (rest : Bytes) :
    takeKey key.isSome (key.getD [] ++ rest) = some (key, rest) := by
  cases key with
  | none => rfl
  | some key =>
    have hread := (Codec.fixedBytes 32).decode_encode key h rest
    change ((Codec.fixedBytes 32).decode (key ++ rest)).map _ = _
    rw [show key ++ rest = (Codec.fixedBytes 32).encode key ++ rest from rfl, hread]
    rfl

theorem keyFlags_owner (owner signingKey : Option Bytes) :
    (keyFlags owner signingKey &&& 1 != 0) = owner.isSome := by
  have hflags : ∀ a b : Bool,
      (((if a then 1 else 0) ||| (if b then 2 else 0) : UInt8) &&& 1 != 0) = a := by decide
  exact hflags owner.isSome signingKey.isSome

theorem keyFlags_signingKey (owner signingKey : Option Bytes) :
    (keyFlags owner signingKey &&& 2 != 0) = signingKey.isSome := by
  have hflags : ∀ a b : Bool,
      (((if a then 1 else 0) ||| (if b then 2 else 0) : UInt8) &&& 2 != 0) = b := by decide
  exact hflags owner.isSome signingKey.isSome

def optionalKeys : Codec (Option Bytes × Option Bytes) where
  valid keys := keys.1.all (·.length == 32) && keys.2.all (·.length == 32)
  encode keys := keyFlags keys.1 keys.2 :: (keys.1.getD [] ++ keys.2.getD [])
  decode := takeKeys
  decode_encode := by
    rintro ⟨owner, signingKey⟩ h rest
    obtain ⟨howner, hkey⟩ := Bool.and_eq_true_iff.mp h
    simp only [List.cons_append, takeKeys, keyFlags_owner, keyFlags_signingKey, List.append_assoc,
      takeKey_append howner, takeKey_append hkey, Option.bind_eq_bind, Option.bind_some]

/-! ## Instructions -/

def issueVoucher : Codec IssueVoucher :=
  ((Codec.fixedBytes 32).pair ((Codec.fixedBytes 32).pair ((Codec.uint 2).pair optionalKeys))).iso
    (fun f => ⟨f.1, f.2.1, f.2.2.1, f.2.2.2.1, f.2.2.2.2⟩)
    (fun v => (v.messageDigest, v.messageMetadataDigest, v.signatureScheme, v.owner,
      v.signingKey)) fun _ => rfl

def IkaInstruction.discriminator : IkaInstruction → UInt8
  | transferOwnership _ => 129
  | issueSignatureVoucher _ => 156
  | setVoucherSigningKey _ => 157
  | revokeSignatureVoucher => 158
  | transferSignatureVoucher _ => 159
  | issueFutureSignatureVoucher _ => 161

/-- What stands after an instruction's first byte. -/
def instructionBody : ℕ → Codec IkaInstruction
  | 129 => (Codec.fixedBytes 32).variant .transferOwnership
      (fun | .transferOwnership newOwner => some newOwner | _ => none)
      fun b a h => by cases b <;> simp_all
  | 156 => issueVoucher.variant .issueSignatureVoucher
      (fun | .issueSignatureVoucher voucher => some voucher | _ => none)
      fun b a h => by cases b <;> simp_all
  | 157 => (Codec.fixedBytes 32).variant .setVoucherSigningKey
      (fun | .setVoucherSigningKey signingKey => some signingKey | _ => none)
      fun b a h => by cases b <;> simp_all
  | 158 => Codec.unit.variant (fun _ => .revokeSignatureVoucher)
      (fun | .revokeSignatureVoucher => some () | _ => none)
      fun b a h => by cases b <;> simp_all
  | 159 => (Codec.fixedBytes 32).variant .transferSignatureVoucher
      (fun | .transferSignatureVoucher newOwner => some newOwner | _ => none)
      fun b a h => by cases b <;> simp_all
  | 161 => issueVoucher.variant .issueFutureSignatureVoucher
      (fun | .issueFutureSignatureVoucher voucher => some voucher | _ => none)
      fun b a h => by cases b <;> simp_all
  | _ => .never

def ikaInstruction : Codec IkaInstruction where
  valid i := (instructionBody i.discriminator.toNat).valid i
  encode i := i.discriminator :: (instructionBody i.discriminator.toNat).encode i
  decode
    | [] => none
    | b :: bytes => (instructionBody b.toNat).decode bytes
  decode_encode i h rest := (instructionBody i.discriminator.toNat).decode_encode i h rest

end Ika.Crates
