import IkaSdk.Core.Primitives

/-! The account numbers and seed layouts of the program's wire table, and the
lookups by name that throw for a name the table does not have. -/

namespace Ika.Solana

open Wire

structure AccountEntry where
  discriminator : ℕ
  version : ℕ
  dataLen : Option ℕ := none
  headerLen : Option ℕ := none
  isVariable : Bool := false
deriving DecidableEq, Repr

structure SeedComponent where
  name : String
  literal : Option String := none
  width : Option ℕ := none
  chunksOf : Option ℕ := none
  minLen : Option ℕ := none
  maxLen : Option ℕ := none
  omittedWhen : Option String := none
deriving DecidableEq, Repr

structure SeedSchema where
  owner : String
  components : List SeedComponent
deriving DecidableEq, Repr

structure AccountHeader where
  discriminatorOffset : ℕ
  versionOffset : ℕ
  len : ℕ
deriving DecidableEq, Repr

/-! ## The table -/

def accountHeader : AccountHeader :=
  { discriminatorOffset := 0, versionOffset := 1, len := 2 }

def accounts : List (String × AccountEntry) :=
  [("SystemState", { discriminator := 1, version := 1, dataLen := some 566 }),
   ("DWalletCoordinator", { discriminator := 96, version := 1, dataLen := some 631 }),
   ("DWallet", { discriminator := 97, version := 1, dataLen := some 185 }),
   ("NetworkEncryptionKey", { discriminator := 98, version := 1, dataLen := some 199 }),
   ("GasDeposit", { discriminator := 99, version := 1, dataLen := some 179 }),
   ("EncryptedUserSecretKeyShare",
      { discriminator := 101, version := 1, headerLen := some 214, isVariable := true }),
   ("NetworkReconfigurationOutput", { discriminator := 102, version := 1, dataLen := some 182 }),
   ("DWalletAttestation",
      { discriminator := 104, version := 1, headerLen := some 101, isVariable := true }),
   ("GasCharge", { discriminator := 106, version := 1, dataLen := some 91 }),
   ("EncryptionKey",
      { discriminator := 107, version := 1, headerLen := some 120, isVariable := true }),
   ("SignatureVoucher", { discriminator := 108, version := 1, dataLen := some 304 }),
   ("FutureSignatureVoucher", { discriminator := 109, version := 1, dataLen := some 1941 })]

def tag (name literal : String) : SeedComponent := { name, literal := some literal }

def bytesOf (name : String) (width : ℕ) : SeedComponent := { name, width := some width }

/-- The curve and public key of a dWallet, cut into seeds of 32 bytes. -/
def dwalletRoot : SeedComponent :=
  { name := "dwallet_root", chunksOf := some 32, minLen := some 34, maxLen := some 67 }

def dwalletFamily (recordTag : String) (suffix : List SeedComponent) : SeedSchema :=
  { owner := "dwallet"
    components := [tag "prefix" "dwallet", tag "tag" recordTag, dwalletRoot] ++ suffix }

def seedSchemas : List (String × SeedSchema) :=
  [("SystemState", { owner := "system", components := [tag "prefix" "ika_system_state"] }),
   ("DWalletCoordinator",
      { owner := "dwallet", components := [tag "prefix" "dwallet_coordinator"] }),
   ("DWallet", dwalletFamily "record" []),
   ("DWalletAttestation", dwalletFamily "attestation" []),
   ("ImportedDWallet", dwalletFamily "imported_record" [bytesOf "session_identifier" 32]),
   ("ImportedDWalletAttestation",
      dwalletFamily "imported_attestation" [bytesOf "session_identifier" 32]),
   ("PublicUserShareAttestation", dwalletFamily "public_user_share" []),
   ("EncryptedShareAttestation",
      dwalletFamily "encrypted_share_attestation" [bytesOf "encryption_key_owner" 32]),
   ("EncryptedUserSecretKeyShare",
      dwalletFamily "encrypted_user_share" [bytesOf "encryption_key_owner" 32]),
   ("ImportedPublicUserShareAttestation",
      dwalletFamily "imported_public_user_share" [bytesOf "session_identifier" 32]),
   ("ImportedEncryptedShareAttestation",
      dwalletFamily "imported_enc_share_attestation"
        [bytesOf "session_identifier" 32, bytesOf "encryption_key_owner" 32]),
   ("ImportedEncryptedUserSecretKeyShare",
      dwalletFamily "imported_encrypted_user_share"
        [bytesOf "session_identifier" 32, bytesOf "encryption_key_owner" 32]),
   ("GasDeposit",
      { owner := "dwallet"
        components := [tag "prefix" "gas_deposit", bytesOf "user_pubkey" 32] }),
   ("GasCharge",
      { owner := "dwallet"
        components := [tag "prefix" "gas_charge", bytesOf "charge_id" 32] }),
   ("NetworkEncryptionKey",
      { owner := "dwallet"
        components := [tag "prefix" "network_encryption_key", bytesOf "noa_public_key" 32] }),
   ("NetworkReconfigurationOutput",
      { owner := "dwallet"
        components := [tag "prefix" "network_reconfig", bytesOf "noa_public_key" 32,
          bytesOf "epoch_le" 8] }),
   ("EncryptionKey",
      { owner := "dwallet"
        components := [tag "prefix" "encryption_key", bytesOf "signer_public_key" 32,
          bytesOf "curve_le" 2] })]

/-! ## Lookups by name -/

def look {α : Type} (kind : String) (map : List (String × α)) (name : String) :
    Except String α :=
  match map.lookup name with
  | some entry => .ok entry
  | none =>
    let known := ", ".intercalate ((map.map Prod.fst).mergeSort (· ≤ ·))
    .error s!"no {kind} named {name} in wire-tables.json. Known {kind}s: {known}"

def accountEntry (name : String) : Except String AccountEntry :=
  look "account" accounts name

def accountDiscriminator (name : String) : Except String ℕ :=
  (accountEntry name).map (·.discriminator)

def accountDataLen (name : String) : Except String ℕ := do
  let entry ← accountEntry name
  match entry.dataLen with
  | none => .error s!"{name} is variable-length; it has no single data_len"
  | some len => .ok len

def seedSchema (name : String) : Except String SeedSchema :=
  look "seed schema" seedSchemas name

theorem look_ok {α : Type} {kind name : String} {map : List (String × α)} {entry : α}
    (h : look kind map name = .ok entry) : (name, entry) ∈ map := by
  unfold look at h
  split at h
  · next found hfound =>
    cases h
    obtain ⟨l₁, l₂, rfl, -⟩ := List.lookup_eq_some_iff.mp hfound
    simp
  · cases h

theorem seedSchema_mem {name : String} {schema : SeedSchema}
    (h : seedSchema name = .ok schema) : (name, schema) ∈ seedSchemas :=
  look_ok h

end Ika.Solana
