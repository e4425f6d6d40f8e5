import IkaSdk.Core.Primitives
import IkaSdk.Lib.Except

/-! The messages that the Solana client signs or checks: the gas release, the
registration of an encryption key and the proof of a gas deposit. -/

namespace Ika.Solana

open Wire

/-- A Solana public key, which the library keeps as exactly 32 bytes. -/
structure PublicKey where
  toBytes : Bytes
  length_eq : toBytes.length = 32
deriving DecidableEq

/-- A public key from bytes that stand for a number, the first byte the highest. -/
def publicKeyOf (value : Bytes) : Except String PublicKey :=
  let digits := value.dropWhile (· == 0)
  if h : digits.length ≤ 32 then
    .ok ⟨List.replicate (32 - digits.length) 0 ++ digits, by simp; omega⟩
  else .error "Invalid public key input"

def depositProofDomain : String := "ika_protocol::gas::proof_of_possession"

def depositProofMessageVersion : ℕ := 1

def depositProofMessage (chainNumber network : ℕ) (sender : Bytes) : Bytes :=
  leBytes 2 depositProofMessageVersion ++ textBytes depositProofDomain ++
    leBytes 4 chainNumber ++ leBytes 1 network ++ leBytes 1 sender.length ++ sender

def gasReleasePrefix : Bytes := 0xff :: textBytes "solana-gas-release"

/-- The fields are written into one zeroed buffer, each at the offset of its
place whatever the length of the request key is. -/
def gasReleaseMessage (programId deposit : PublicKey) (requestPublicKey : Bytes)
    (withdrawalSequence ikaAmount solAmount : ℕ) : Except String Bytes := do
  let message := List.replicate (gasReleasePrefix.length + 32 * 3 + 8 * 3) 0
  let message ← setAt message 0 gasReleasePrefix
  let offset := gasReleasePrefix.length
  let message ← setAt message offset programId.toBytes
  let offset := offset + 32
  let message ← setAt message offset deposit.toBytes
  let offset := offset + 32
  let message ← setAt message offset requestPublicKey
  let offset := offset + 32
  let message ← setAt message offset (leBytes 8 withdrawalSequence)
  let message ← setAt message (offset + 8) (leBytes 8 ikaAmount)
  setAt message (offset + 16) (leBytes 8 solAmount)

def encryptionKeyRegistrationDomain : String := "ika_encryption_key"

def encryptionKeyRegistrationMessageVersion : ℕ := 1

def encryptionKeyRegistrationMessage (chainNumber network curve : ℕ) (encryptionKey : Bytes) :
    Bytes :=
  let domain := textBytes encryptionKeyRegistrationDomain
  leBytes 2 encryptionKeyRegistrationMessageVersion ++ uleb128 domain.length ++ domain ++
    leBytes 4 chainNumber ++ leBytes 1 network ++ leBytes 2 curve ++
    uleb128 encryptionKey.length ++ encryptionKey

/-- What stands in the key's place: the first `n` bytes, padded with zeros. -/
def fitKey (n : ℕ) (key : Bytes) : Bytes := (key ++ List.replicate n 0).take n

@[simp] theorem fitKey_length (n : ℕ) (key : Bytes) : (fitKey n key).length = n := by
  simp [fitKey]

/-! ## The bytes of a gas release -/

theorem take_padded {n m : ℕ} {key : Bytes} (hm : n ≤ m + key.length) :
    (key ++ List.replicate m 0).take n = fitKey n key := by
  rw [fitKey, List.take_append, List.take_append, List.take_replicate, List.take_replicate]
  congr 2
  omega

/-- The last three writes, over whatever the request key has left there. -/
theorem setAt_amounts {front old : Bytes} (hold : old.length = 56) (offset : ℕ)
    (hfront : front.length = offset) {a b c : Bytes} (ha : a.length = 8) (hb : b.length = 8)
    (hc : c.length = 8) :
    (do
      let message ← setAt (front ++ old) (offset + 32) a
      let message ← setAt message (offset + 32 + 8) b
      setAt message (offset + 32 + 16) c) = .ok (front ++ old.take 32 ++ a ++ b ++ c) := by
  obtain ⟨key, x, y, z, rfl, hkey, hx, hy, hz⟩ : ∃ key x y z : Bytes,
      old = key ++ (x ++ (y ++ z)) ∧ key.length = 32 ∧ x.length = 8 ∧ y.length = 8 ∧
        z.length = 8 := by
    refine ⟨old.take 32, (old.drop 32).take 8, (old.drop 40).take 8, old.drop 48, ?_, ?_⟩
    · rw [show old.drop 48 = (old.drop 40).drop 8 by simp, List.take_append_drop,
        show old.drop 40 = (old.drop 32).drop 8 by simp, List.take_append_drop,
        List.take_append_drop]
    · simp [hold]
  have hfa : setAt (front ++ (key ++ (x ++ (y ++ z)))) (offset + 32) a =
      .ok (front ++ key ++ (a ++ (y ++ z))) := by
    rw [← List.append_assoc]
    exact setAt_field x (by simp [hfront, hkey]) (by rw [hx, ha])
  have hfb : setAt (front ++ key ++ (a ++ (y ++ z))) (offset + 32 + 8) b =
      .ok (front ++ key ++ a ++ (b ++ z)) := by
    rw [← List.append_assoc]
    exact setAt_field y (by simp [hfront, hkey, ha]) (by rw [hy, hb])
  have hfc : setAt (front ++ key ++ a ++ (b ++ z)) (offset + 32 + 16) c =
      .ok (front ++ key ++ a ++ b ++ c) := by
    have hlength : (front ++ key ++ a ++ b).length = offset + 32 + 16 := by
      simp [hfront, hkey, ha, hb]
    simpa using @setAt_field _ [] c _ z hlength (hz.trans hc.symm)
  rw [hfa, ok_bind, hfb, ok_bind, hfc, ← hkey, List.take_left]

theorem gasReleaseMessage_eq (programId deposit : PublicKey) (key : Bytes) (seq ika sol : ℕ) :
    gasReleaseMessage programId deposit key seq ika sol =
      if 56 < key.length then .error "offset is out of bounds"
      else .ok (gasReleasePrefix ++ programId.toBytes ++ deposit.toBytes ++ fitKey 32 key ++
        leBytes 8 seq ++ leBytes 8 ika ++ leBytes 8 sol) := by
  have hgas : gasReleasePrefix.length = 19 := by decide +kernel
  have h1 : setAt (List.replicate 139 0) 0 gasReleasePrefix =
      .ok (gasReleasePrefix ++ List.replicate 120 0) :=
    setAt_zero (List.replicate 19 0) (by simp [hgas])
  have h2 : setAt (gasReleasePrefix ++ List.replicate 120 0) 19 programId.toBytes =
      .ok (gasReleasePrefix ++ (programId.toBytes ++ List.replicate 88 0)) :=
    setAt_field (List.replicate 32 0) hgas (by simp [programId.length_eq])
  have h3 : setAt (gasReleasePrefix ++ programId.toBytes ++ List.replicate 88 0) 51
      deposit.toBytes =
      .ok (gasReleasePrefix ++ programId.toBytes ++ (deposit.toBytes ++ List.replicate 56 0)) :=
    setAt_field (List.replicate 32 0) (by simp [hgas, programId.length_eq])
      (by simp [deposit.length_eq])
  have hfront : (gasReleasePrefix ++ programId.toBytes ++ deposit.toBytes).length = 83 := by
    simp [hgas, programId.length_eq, deposit.length_eq]
  have h4 : setAt (gasReleasePrefix ++ programId.toBytes ++ deposit.toBytes ++
      List.replicate 56 0) 83 key =
      if 56 < key.length then .error "offset is out of bounds"
      else .ok (gasReleasePrefix ++ programId.toBytes ++ deposit.toBytes ++
        (key ++ List.replicate (56 - key.length) 0)) := by
    rw [← hfront]
    refine (setAt_append _ _ _ 0).trans ?_
    simp only [setAt, List.length_replicate, Nat.zero_add]
    split_ifs
    · rfl
    · simp only [List.take_zero, List.nil_append, List.drop_replicate, Except.map]
  simp only [gasReleaseMessage, hgas, Nat.reduceAdd, Nat.reduceMul, h1, ok_bind, h2]
  rw [← List.append_assoc, h3, ok_bind, ← List.append_assoc, h4]
  split_ifs with hlong
  · rfl
  · rw [ok_bind, setAt_amounts (by simp; omega) 83 hfront (by simp) (by simp) (by simp),
      take_padded (by omega)]

end Ika.Solana
