import IkaSdk.Solana.CrossCheckedAccounts

/-! The two readers of a registry entry. The checked one is the unverified one, followed by
checks of what it read. -/

namespace Ika.Solana

open Wire

/-- The entry of what the unverified reader read. -/
def EncryptionKeyEntry.ofRead (address : Bytes) (read : EncryptionKeyAccount) :
    EncryptionKeyEntry where
  address := address
  signerPublicKey := read.signerPublicKey
  curve := read.curve
  signature := read.signature
  signatureScheme := read.signatureScheme
  encryptionKey := read.encryptionKey

section Readers

variable (P : Primitives) (toBase58 : Bytes → String) (params : EncryptionKeyParams)
  (address : Bytes)

/-- The holder's key signed the registration of the encryption key on the chain, the network and
the curve. -/
def SignedRegistration (signature encryptionKey : Bytes) : Prop :=
  P.ed25519Verify signature (encryptionKeyRegistrationMessage params.chainNumber params.network
    params.curve encryptionKey) params.holderPublicKey = .ok true

/-- The checks of an entry that has been read. -/
def checkedEntry (read : EncryptionKeyAccount) : Except SdkError EncryptionKeyEntry := do
  let entryName := toBase58 address
  let signer ← fromPackage (publicKeyOf read.signerPublicKey)
  let holder ← fromPackage (publicKeyOf params.holderPublicKey)
  ensure (signer = holder) (SdkError.error s!"registry entry {entryName} names another holder")
  ensure (read.curve = params.curve) (SdkError.error
    s!"registry entry {entryName} is for curve {read.curve}, not {params.curve}")
  ensure (read.signatureScheme = encryptionKeyEd25519SignatureScheme)
    (SdkError.error s!"registry entry {entryName} is not signed by the holder")
  let verified ← fromPackage (P.ed25519Verify read.signature
    (encryptionKeyRegistrationMessage params.chainNumber params.network params.curve
      read.encryptionKey) params.holderPublicKey)
  ensure verified (SdkError.error s!"registry entry {entryName} is not signed by the holder")
  return .ofRead address read

/-- The unverified reader, and then the checks of what it read. -/
def readThenChecked (account : ReadAccount) : Except SdkError EncryptionKeyEntry := do
  let entryName := toBase58 address
  let owner ← fromPackage (publicKeyOf account.owner)
  ensure (owner = params.programId)
    (SdkError.error s!"account {entryName} is not owned by the ika-dwallet program")
  match ← readEncryptionKeyUnverified account.data with
  | none => throw (.error s!"account {entryName} does not read as an EncryptionKey entry")
  | some read => checkedEntry P toBase58 params address read

end Readers

variable {P : Primitives} {toBase58 : Bytes → String} {params : EncryptionKeyParams}
  {address : Bytes}

theorem publicKeyOf_of_toBytes (key : PublicKey) : publicKeyOf key.toBytes = .ok key := by
  have hshort : (key.toBytes.dropWhile (· == 0)).length ≤ 32 :=
    key.length_eq ▸ (List.dropWhile_sublist _).length_le
  have hok : ∃ key', publicKeyOf key.toBytes = .ok key' := ⟨_, dif_pos hshort⟩
  obtain ⟨key', hkey⟩ := hok
  have hbytes := publicKeyOf_toBytes key.length_eq hkey
  rw [hkey]
  cases key
  cases key'
  cases hbytes
  rfl

/-- What the layout of an entry holds. -/
def entryFields (data : Bytes) : EncryptionKeyAccount where
  signerPublicKey := slice data 2 34
  signatureScheme := byteAt data 34
  curve := readU16 data 35
  signature := slice data 39 103
  createdEpoch := readU64 data 103
  bump := byteAt data 111
  encryptionKey := data.drop 120

/-- The unverified reader decides on the layout, and throws nothing. -/
theorem readEncryptionKeyUnverified_eq (data : Bytes) :
    readEncryptionKeyUnverified data = .ok (if isVariableAccount data
      { discriminator := 107, version := 1, headerLen := some 120, isVariable := true } 37
      then some (entryFields data) else none) := by
  unfold readEncryptionKeyUnverified
  rw [encryptionKeyTable, fromPackage, ok_bind]
  cases isVariableAccount data
    { discriminator := 107, version := 1, headerLen := some 120, isVariable := true } 37 <;> rfl

theorem checkedEncryptionKeyEntry_eq (account : ReadAccount) :
    checkedEncryptionKeyEntry P toBase58 params address account =
      readThenChecked P toBase58 params address account := by
  unfold checkedEncryptionKeyEntry readThenChecked
  rw [encryptionKeyTable]
  refine congrArg _ (funext fun owner => congrArg _ (funext fun _ => ?_))
  rw [readEncryptionKeyUnverified_eq, fromPackage, ok_bind, ok_bind]
  by_cases hlayout : isVariableAccount account.data
      { discriminator := 107, version := 1, headerLen := some 120, isVariable := true } 37
  · rw [ensure_of hlayout, ok_bind, if_pos hlayout]
    unfold checkedEntry
    -- both go on alike, up to the curve that the entry names
    refine congrArg _ (funext fun signer => congrArg _ (funext fun holder => congrArg _
      (funext fun _ => ?_)))
    dsimp only
    by_cases hcurve : readU16 account.data 35 = params.curve
    · have hread : (entryFields account.data).curve = params.curve := hcurve
      rw [ensure_of hcurve, ensure_of hread, ok_bind, ok_bind, EncryptionKeyEntry.ofRead, hread]
      rfl
    · have hstored : ∀ e : SdkError, ensure (readU16 account.data 35 = params.curve) e = .error e :=
        fun _ => if_neg hcurve
      have hread : ∀ e : SdkError, ensure ((entryFields account.data).curve = params.curve) e =
          .error e := fun _ => if_neg hcurve
      rw [hstored, hread]
      rfl
  · rw [ensure, if_neg hlayout, if_neg hlayout]
    rfl

theorem entryFields_signer_length {data : Bytes} (h : isVariableAccount data
    { discriminator := 107, version := 1, headerLen := some 120, isVariable := true } 37) :
    (entryFields data).signerPublicKey.length = 32 := by
  simp only [isVariableAccount, startsAs, Option.getD_some, Bool.and_eq_true,
    decide_eq_true_eq] at h
  have hlong : 120 ≤ data.length := h.1.2.1
  simp [entryFields, slice]
  omega

theorem fromPackage_ok_iff {α : Type} {x : Except String α} {a : α} :
    fromPackage x = .ok a ↔ x = .ok a := by
  refine ⟨fromPackage_ok, ?_⟩
  rintro rfl
  rfl

theorem checkedEntry_iff {read : EncryptionKeyAccount} {entry : EncryptionKeyEntry} :
    checkedEntry P toBase58 params address read = .ok entry ↔
      (∃ holder, publicKeyOf params.holderPublicKey = .ok holder ∧
        publicKeyOf read.signerPublicKey = .ok holder) ∧
      read.curve = params.curve ∧ read.signatureScheme = encryptionKeyEd25519SignatureScheme ∧
      SignedRegistration P params entry.signature entry.encryptionKey ∧
      entry = .ofRead address read := by
  unfold checkedEntry
  simp only [bind_ok_iff, ensure_iff, fromPackage_ok_iff]
  constructor
  · rintro ⟨signer, hsigner, holder, hholder, _, hsame, _, hcurve, _, hscheme, verified, hverify,
      _, hverified, h⟩
    cases h
    rw [hverified] at hverify
    exact ⟨⟨holder, hholder, hsame ▸ hsigner⟩, hcurve, hscheme, hverify, rfl⟩
  · rintro ⟨⟨holder, hholder, hsigner⟩, hcurve, hscheme, hverify, rfl⟩
    exact ⟨holder, hsigner, holder, hholder, (), rfl, (), hcurve, (), hscheme, true, hverify, (),
      rfl, rfl⟩

/-- The two readers take the same layout and decode the same fields: the checked one is the
unverified one and checks of what it read, and gives an entry exactly when the holder signed the
registration of the key that the unverified reader read. -/
theorem entry_readers_agree (account : ReadAccount) :
    (∃ found, readEncryptionKeyUnverified account.data = .ok found) ∧
      checkedEncryptionKeyEntry P toBase58 params address account =
        readThenChecked P toBase58 params address account ∧
      ∀ entry, checkedEncryptionKeyEntry P toBase58 params address account = .ok entry ↔
        publicKeyOf account.owner = .ok params.programId ∧
        ∃ read, readEncryptionKeyUnverified account.data = .ok (some read) ∧
          (∃ holder, publicKeyOf params.holderPublicKey = .ok holder ∧
            read.signerPublicKey = holder.toBytes) ∧
          read.curve = params.curve ∧
          read.signatureScheme = encryptionKeyEd25519SignatureScheme ∧
          SignedRegistration P params entry.signature entry.encryptionKey ∧
          entry = .ofRead address read := by
  refine ⟨⟨_, readEncryptionKeyUnverified_eq account.data⟩, checkedEncryptionKeyEntry_eq account,
    ?_⟩
  intro entry
  rw [checkedEncryptionKeyEntry_eq, readThenChecked]
  simp only [bind_ok_iff, ensure_iff, fromPackage_ok_iff, readEncryptionKeyUnverified_eq]
  by_cases hlayout : isVariableAccount account.data
      { discriminator := 107, version := 1, headerLen := some 120, isVariable := true } 37
  · rw [if_pos hlayout]
    have hlength := entryFields_signer_length hlayout
    constructor
    · rintro ⟨owner, howner, _, hsame, found, hfound, h⟩
      cases hfound
      obtain ⟨⟨holder, hholder, hsigner⟩, hcurve, hscheme, hsigned, rfl⟩ := checkedEntry_iff.mp h
      refine ⟨hsame ▸ howner, _, rfl, ⟨holder, hholder, ?_⟩, hcurve, hscheme, hsigned, rfl⟩
      exact (publicKeyOf_toBytes hlength hsigner).symm
    · rintro ⟨howner, read, hread, ⟨holder, hholder, hsigner⟩, hcurve, hscheme, hsigned, hentry⟩
      cases hread
      refine ⟨_, howner, (), rfl, _, rfl, ?_⟩
      exact checkedEntry_iff.mpr ⟨⟨holder, hholder, by rw [hsigner, publicKeyOf_of_toBytes]⟩,
        hcurve, hscheme, hsigned, hentry⟩
  · rw [if_neg hlayout]
    constructor
    · rintro ⟨owner, howner, _, hsame, found, hfound, h⟩
      cases hfound
      cases h
    · rintro ⟨howner, read, hread, -⟩
      cases hread

end Ika.Solana
