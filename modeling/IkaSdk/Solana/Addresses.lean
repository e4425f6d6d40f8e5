import IkaSdk.Lib.Except
import IkaSdk.Lib.Layout
import IkaSdk.Solana.WireTables

/-! The addresses the program stores its accounts at: the seeds of every
account kind walked from the table, and the hash of their concatenation. -/

namespace Ika.Solana

open Wire

def maxSeeds : ℕ := 16

def maxSeedLen : ℕ := 32

inductive SeedValue
  | number (value : ℤ)
  | bytes (value : Bytes)
deriving DecidableEq, Repr

/-- The values a caller supplies, by the component's name. -/
abbrev SeedValues := String → Option SeedValue

def littleEndian (value : ℤ) (width : ℕ) : Except String Bytes :=
  if value < 0 then .error s!"a seed number cannot be negative, got {value}"
  else if value.toNat / 256 ^ width ≠ 0 then .error s!"{value} does not fit in {width} bytes"
  else .ok (leBytes width value.toNat)

def asBytes (component : SeedComponent) : SeedValue → Except String Bytes
  | .number value =>
    match component.width with
    | none => .error s!"{component.name} is variable-length; pass its bytes, not a number"
    | some width => littleEndian value width
  | .bytes value => .ok value

def omittedWhenZero : String := "message_metadata_digest is zero"

def isAllZero (bytes : Bytes) : Bool := bytes.all (· == 0)

def subarraysFuel : ℕ → ℕ → Bytes → List Bytes
  | 0, _, _ => []
  | fuel + 1, chunk, bytes =>
    if bytes = [] then [] else bytes.take chunk :: subarraysFuel fuel chunk (bytes.drop chunk)

/-- A byte string cut into seeds of `chunk` bytes, the last one shorter. -/
def subarrays (chunk : ℕ) (bytes : Bytes) : List Bytes :=
  subarraysFuel bytes.length chunk bytes

def suppliedSeeds (accountName : String) (component : SeedComponent) (supplied : SeedValue) :
    Except String (List Bytes) := do
  let bytes ← asBytes component supplied
  match component.width with
  | some width =>
    if bytes.length ≠ width then
      .error s!"{accountName}.{component.name} is {width} bytes, got {bytes.length}"
    else .ok [bytes]
  | none =>
    match component.chunksOf with
    | none => .error s!"{accountName}.{component.name} has no width and no chunk size"
    | some chunk =>
      if component.minLen.any (bytes.length < ·) then
        let minLen := component.minLen.getD 0
        .error s!"{accountName}.{component.name} is at least {minLen} bytes, got {bytes.length}"
      else if component.maxLen.any (· < bytes.length) then
        let maxLen := component.maxLen.getD 0
        .error s!"{accountName}.{component.name} is at most {maxLen} bytes, got {bytes.length}"
      else .ok (subarrays chunk bytes)

/-- One turn of the loop of `deriveSeeds`: the seeds that one component adds. -/
def componentSeeds (accountName : String) (values : SeedValues) (component : SeedComponent) :
    Except String (List Bytes) :=
  match component.literal with
  | some literal => .ok [textBytes literal]
  | none =>
    match component.omittedWhen with
    | some condition =>
      if condition ≠ omittedWhenZero then
        .error (s!"{accountName}.{component.name} is omitted when \"{condition}\", " ++
          "a condition this code does not implement")
      else match values component.name with
        | none => .ok []
        | some supplied => do
          let bytes ← asBytes component supplied
          if isAllZero bytes then .ok [] else .ok [bytes]
    | none =>
      match values component.name with
      | none => .error s!"{accountName} needs a value for its {component.name} seed"
      | some supplied => suppliedSeeds accountName component supplied

def componentsSeeds (accountName : String) (values : SeedValues) :
    List SeedComponent → Except String (List Bytes)
  | [] => .ok []
  | component :: rest => do
    let seeds ← componentSeeds accountName values component
    let more ← componentsSeeds accountName values rest
    return seeds ++ more

def deriveSeeds (accountName : String) (values : SeedValues) : Except String (List Bytes) := do
  let schema ← seedSchema accountName
  componentsSeeds accountName values schema.components

/-! ## Addresses -/

structure DerivedAddress where
  address : Bytes
  bump : ℕ
deriving DecidableEq, Repr

def pdaMarker : Bytes := textBytes "ProgramDerivedAddress"

/-- The bytes hashed for one bump. -/
def pdaPreimage (seeds : List Bytes) (programId : Bytes) (bump : ℕ) : Bytes :=
  seeds.flatten ++ [UInt8.ofNat bump] ++ programId ++ pdaMarker

section Derivation

variable (P : Primitives)

/-- The loop over the bumps below `bound`, from the highest one downward. -/
def findBump (seeds : List Bytes) (programId : Bytes) : ℕ → Except String DerivedAddress
  | 0 => .error "no bump produced an off-curve address, which cannot happen"
  | bump + 1 =>
    let candidate := P.sha256 (pdaPreimage seeds programId bump)
    if P.isOnCurve candidate then findBump seeds programId bump
    else .ok { address := candidate, bump }

def findProgramAddress (seeds : List Bytes) (programId : Bytes) :
    Except String DerivedAddress :=
  if maxSeeds < seeds.length + 1 then
    .error s!"{seeds.length} seeds plus the bump exceeds Solana's limit of {maxSeeds}"
  else match seeds.find? (maxSeedLen < ·.length) with
    | some seed =>
      .error s!"a seed of {seed.length} bytes exceeds Solana's limit of {maxSeedLen}"
    | none =>
      if programId.length ≠ 32 then .error s!"a program id is 32 bytes, got {programId.length}"
      else findBump P seeds programId 256

def deriveAddress (accountName : String) (programId : Bytes) (values : SeedValues) :
    Except String DerivedAddress := do
  findProgramAddress P (← deriveSeeds accountName values) programId

/-- The values of an account's seeds, from the names and values listed. -/
def seedValues (entries : List (String × SeedValue)) : SeedValues :=
  fun name => entries.lookup name

def dwalletSeedRoot (curve : ℕ) (dwalletPublicKey : Bytes) : Except String Bytes := do
  return (← littleEndian curve 2) ++ dwalletPublicKey

/-- An address of the dWallet family: the imported kind also holds the session
identifier of the import, given with `importedSessionIdentifier`. -/
def dwalletFamilyPda (kind importedKind : String) (programId : Bytes) (curve : ℕ)
    (dwalletPublicKey : Bytes) (suffix : List (String × SeedValue))
    (importedSessionIdentifier : Option Bytes) : Except String DerivedAddress := do
  let root ← dwalletSeedRoot curve dwalletPublicKey
  let values := ("dwallet_root", SeedValue.bytes root) :: suffix
  match importedSessionIdentifier with
  | none => deriveAddress P kind programId (seedValues values)
  | some session =>
    deriveAddress P importedKind programId
      (seedValues (values ++ [("session_identifier", .bytes session)]))

def dwalletPda (programId : Bytes) (curve : ℕ) (dwalletPublicKey : Bytes)
    (importedSessionIdentifier : Option Bytes) : Except String DerivedAddress :=
  dwalletFamilyPda P "DWallet" "ImportedDWallet" programId curve dwalletPublicKey []
    importedSessionIdentifier

def dwalletAttestationPda (programId : Bytes) (curve : ℕ) (dwalletPublicKey : Bytes)
    (importedSessionIdentifier : Option Bytes) : Except String DerivedAddress :=
  dwalletFamilyPda P "DWalletAttestation" "ImportedDWalletAttestation" programId curve
    dwalletPublicKey [] importedSessionIdentifier

def encryptedUserSecretKeySharePda (programId : Bytes) (curve : ℕ)
    (dwalletPublicKey holder : Bytes) (importedSessionIdentifier : Option Bytes) :
    Except String DerivedAddress :=
  dwalletFamilyPda P "EncryptedUserSecretKeyShare" "ImportedEncryptedUserSecretKeyShare"
    programId curve dwalletPublicKey [("encryption_key_owner", .bytes holder)]
    importedSessionIdentifier

def encryptedShareAttestationPda (programId : Bytes) (curve : ℕ)
    (dwalletPublicKey holder : Bytes) (importedSessionIdentifier : Option Bytes) :
    Except String DerivedAddress :=
  dwalletFamilyPda P "EncryptedShareAttestation" "ImportedEncryptedShareAttestation"
    programId curve dwalletPublicKey [("encryption_key_owner", .bytes holder)]
    importedSessionIdentifier

def publicUserShareAttestationPda (programId : Bytes) (curve : ℕ) (dwalletPublicKey : Bytes)
    (importedSessionIdentifier : Option Bytes) : Except String DerivedAddress :=
  dwalletFamilyPda P "PublicUserShareAttestation" "ImportedPublicUserShareAttestation"
    programId curve dwalletPublicKey [] importedSessionIdentifier

def dwalletCoordinatorPda (programId : Bytes) : Except String DerivedAddress :=
  deriveAddress P "DWalletCoordinator" programId (seedValues [])

def networkEncryptionKeyPda (programId noaPublicKey : Bytes) : Except String DerivedAddress :=
  deriveAddress P "NetworkEncryptionKey" programId
    (seedValues [("noa_public_key", .bytes noaPublicKey)])

def gasChargePda (programId chargeId : Bytes) : Except String DerivedAddress :=
  deriveAddress P "GasCharge" programId (seedValues [("charge_id", .bytes chargeId)])

def encryptionKeyPda (programId signerPublicKey : Bytes) (curve : ℕ) :
    Except String DerivedAddress :=
  deriveAddress P "EncryptionKey" programId
    (seedValues [("signer_public_key", .bytes signerPublicKey), ("curve_le", .number curve)])

end Derivation

/-! ## Cutting a value into seeds -/

theorem subarraysFuel_flatten {fuel chunk : ℕ} (hchunk : 0 < chunk) {bytes : Bytes}
    (hfuel : bytes.length ≤ fuel) : (subarraysFuel fuel chunk bytes).flatten = bytes := by
  induction fuel generalizing bytes with
  | zero => simpa [subarraysFuel] using hfuel
  | succ fuel ih =>
    by_cases hnil : bytes = []
    · simp [subarraysFuel, hnil]
    · have hrest : (bytes.drop chunk).length ≤ fuel := by
        rw [List.length_drop]
        omega
      rw [subarraysFuel, if_neg hnil, List.flatten_cons, ih hrest, List.take_append_drop]

theorem subarraysFuel_length_le {fuel chunk : ℕ} {bytes seed : Bytes}
    (h : seed ∈ subarraysFuel fuel chunk bytes) : seed.length ≤ chunk := by
  induction fuel generalizing bytes with
  | zero => cases h
  | succ fuel ih =>
    rw [subarraysFuel] at h
    split_ifs at h with hnil
    · cases h
    · rcases List.mem_cons.mp h with rfl | h
      · exact List.length_take_le ..
      · exact ih h

theorem subarraysFuel_count_le {fuel chunk : ℕ} (hchunk : 0 < chunk) (bytes : Bytes) :
    (subarraysFuel fuel chunk bytes).length ≤ (bytes.length + chunk - 1) / chunk := by
  induction fuel generalizing bytes with
  | zero => exact Nat.zero_le _
  | succ fuel ih =>
    rw [subarraysFuel]
    split_ifs with hnil
    · exact Nat.zero_le _
    · have hpos : 0 < bytes.length := List.length_pos_iff.mpr hnil
      have htail := ih (bytes.drop chunk)
      rw [List.length_drop] at htail
      rw [List.length_cons]
      by_cases hlong : chunk ≤ bytes.length
      · have hsplit : bytes.length + chunk - 1 = bytes.length - chunk + chunk - 1 + chunk := by
          omega
        rw [hsplit, Nat.add_div_right _ hchunk]
        omega
      · have hzero : (bytes.length - chunk + chunk - 1) / chunk = 0 :=
          Nat.div_eq_of_lt (by omega)
        have hone : 1 ≤ (bytes.length + chunk - 1) / chunk :=
          (Nat.le_div_iff_mul_le hchunk).mpr (by omega)
        omega

theorem subarrays_flatten {chunk : ℕ} (hchunk : 0 < chunk) (bytes : Bytes) :
    (subarrays chunk bytes).flatten = bytes :=
  subarraysFuel_flatten hchunk le_rfl

/-! ## What one component adds -/

/-- A component as the table describes it: one of a literal, a width and a
chunk size, within the limits of a seed, and never omitted. -/
def SeedComponent.plain (c : SeedComponent) : Bool :=
  c.omittedWhen.isNone &&
    match c.literal, c.width, c.chunksOf with
    | some l, none, none => decide ((textBytes l).length ≤ maxSeedLen)
    | none, some w, none => decide (w ≤ maxSeedLen)
    | none, none, some n => decide (0 < n ∧ n ≤ maxSeedLen) && c.maxLen.isSome
    | _, _, _ => false

def SeedComponent.layout (c : SeedComponent) : Width :=
  match c.literal, c.width with
  | some l, _ => .fixed (textBytes l).length
  | none, some w => .fixed w
  | none, none => .variable

/-- How many seeds a component adds at most. -/
def SeedComponent.seedCount (c : SeedComponent) : ℕ :=
  match c.chunksOf with
  | some n => (c.maxLen.getD 0 + n - 1) / n
  | none => 1

/-- The bytes a value encodes to as the seed of a component. -/
def encodedSeed (values : SeedValues) (c : SeedComponent) : Option Bytes :=
  (values c.name).bind fun supplied => (asBytes c supplied).toOption

def SeedComponent.part (values : SeedValues) (c : SeedComponent) : Bytes :=
  match c.literal with
  | some l => textBytes l
  | none => (encodedSeed values c).getD []

/-- What the seeds of one component have to be. -/
structure SeedsOf (values : SeedValues) (c : SeedComponent) (seeds : List Bytes) : Prop where
  flatten : seeds.flatten = c.part values
  fits : c.layout.Fits (c.part values)
  length_le : ∀ seed ∈ seeds, seed.length ≤ maxSeedLen
  count_le : seeds.length ≤ c.seedCount
  encoded : c.literal = none → encodedSeed values c = some (c.part values)

theorem suppliedSeeds_spec {accountName : String} {values : SeedValues} {c : SeedComponent}
    {supplied : SeedValue} {seeds : List Bytes} (hc : c.plain) (hlit : c.literal = none)
    (hsup : values c.name = some supplied)
    (h : suppliedSeeds accountName c supplied = .ok seeds) : SeedsOf values c seeds := by
  obtain ⟨bytes, hbytes, h⟩ := bind_ok h
  have henc : encodedSeed values c = some bytes := by
    rw [encodedSeed, hsup, Option.bind_some, hbytes, Except.toOption]
  have hpart : c.part values = bytes := by
    simp only [SeedComponent.part, hlit, henc, Option.getD_some]
  have hencoded : c.literal = none → encodedSeed values c = some (c.part values) := by
    rw [hpart]
    exact fun _ => henc
  cases hwidth : c.width with
  | some width =>
    rw [hwidth] at h
    obtain ⟨hlen, h⟩ := ite_error_ok h
    cases h
    have hlen : bytes.length = width := not_not.mp hlen
    have hplain : c.omittedWhen = none ∧ c.chunksOf = none ∧ width ≤ maxSeedLen := by
      cases hchunk : c.chunksOf <;> simp_all [SeedComponent.plain]
    refine ⟨by simp [hpart], ?_, ?_, ?_, hencoded⟩
    · simp only [SeedComponent.layout, hlit, hwidth, hpart]
      exact hlen
    · simpa [hlen] using hplain.2.2
    · simp [SeedComponent.seedCount, hplain.2.1]
  | none =>
    rw [hwidth] at h
    cases hchunk : c.chunksOf with
    | none =>
      rw [hchunk] at h
      cases h
    | some chunk =>
      rw [hchunk] at h
      obtain ⟨-, h⟩ := ite_error_ok h
      obtain ⟨hmax, h⟩ := ite_error_ok h
      cases h
      have hplain : (0 < chunk ∧ chunk ≤ maxSeedLen) ∧ c.maxLen.isSome := by
        simp_all [SeedComponent.plain]
      obtain ⟨maxLen, hmaxLen⟩ := Option.isSome_iff_exists.mp hplain.2
      have hbound : bytes.length ≤ maxLen := by simpa [hmaxLen] using hmax
      refine ⟨?_, ?_, ?_, ?_, hencoded⟩
      · rw [hpart, subarrays_flatten hplain.1.1]
      · simp only [SeedComponent.layout, hlit, hwidth]
        trivial
      · intro seed hseed
        exact (subarraysFuel_length_le hseed).trans hplain.1.2
      · have hcount := @subarraysFuel_count_le bytes.length chunk hplain.1.1 bytes
        simp only [SeedComponent.seedCount, hchunk, hmaxLen, Option.getD_some]
        exact hcount.trans (Nat.div_le_div_right (by omega))

theorem componentSeeds_spec {accountName : String} {values : SeedValues} {c : SeedComponent}
    {seeds : List Bytes} (hc : c.plain)
    (h : componentSeeds accountName values c = .ok seeds) : SeedsOf values c seeds := by
  have homit : c.omittedWhen = none := by
    simp only [SeedComponent.plain, Bool.and_eq_true, Option.isNone_iff_eq_none] at hc
    exact hc.1
  cases hlit : c.literal with
  | some l =>
    rw [componentSeeds, hlit] at h
    cases h
    have hplain : (textBytes l).length ≤ maxSeedLen ∧ c.chunksOf = none := by
      cases hw : c.width <;> cases hchunk : c.chunksOf <;> simp_all [SeedComponent.plain]
    have hpart : c.part values = textBytes l := by simp only [SeedComponent.part, hlit]
    refine ⟨by simp [hpart], ?_, by simpa using hplain.1, ?_, by simp [hlit]⟩
    · simp only [SeedComponent.layout, hlit, hpart]
      rfl
    · simp [SeedComponent.seedCount, hplain.2]
  | none =>
    rw [componentSeeds, hlit, homit] at h
    cases hsup : values c.name with
    | none =>
      rw [hsup] at h
      cases h
    | some supplied =>
      rw [hsup] at h
      exact suppliedSeeds_spec hc hlit hsup h

/-! ## What a layout adds -/

theorem componentsSeeds_spec {accountName : String} {values : SeedValues}
    {components : List SeedComponent} {seeds : List Bytes} (hplain : ∀ c ∈ components, c.plain)
    (h : componentsSeeds accountName values components = .ok seeds) :
    seeds.flatten = (components.map (·.part values)).flatten ∧
      FitAll (components.map (·.layout)) (components.map (·.part values)) ∧
      (∀ seed ∈ seeds, seed.length ≤ maxSeedLen) ∧
      seeds.length ≤ (components.map (·.seedCount)).sum ∧
      ∀ c ∈ components, c.literal = none → encodedSeed values c = some (c.part values) := by
  induction components generalizing seeds with
  | nil =>
    cases h
    exact ⟨rfl, .nil, by simp, by simp, by simp⟩
  | cons c rest ih =>
    obtain ⟨first, hfirst, h⟩ := bind_ok h
    obtain ⟨more, hmore, h⟩ := bind_ok h
    cases h
    obtain ⟨hc, hrest⟩ := List.forall_mem_cons.mp hplain
    have hone := componentSeeds_spec hc hfirst
    obtain ⟨hflat, hfits, hlen, hcount, henc⟩ := ih hrest hmore
    refine ⟨?_, ?_, ?_, ?_, ?_⟩
    · simp [hone.flatten, hflat]
    · exact .cons hone.fits hfits
    · exact List.forall_mem_append.mpr ⟨hone.length_le, hlen⟩
    · simpa using Nat.add_le_add hone.count_le hcount
    · exact List.forall_mem_cons.mpr ⟨hone.encoded, henc⟩

/-- The bytes every seed list of a layout starts with: its leading literals. -/
def leadingLiterals : List SeedComponent → Bytes
  | [] => []
  | c :: rest =>
    match c.literal with
    | some l => textBytes l ++ leadingLiterals rest
    | none => []

theorem leadingLiterals_prefix (values : SeedValues) (components : List SeedComponent) :
    leadingLiterals components <+: (components.map (·.part values)).flatten := by
  induction components with
  | nil => exact List.nil_prefix
  | cons c rest ih =>
    cases hlit : c.literal with
    | none => simp [leadingLiterals, hlit]
    | some l =>
      simp only [leadingLiterals, hlit, List.map_cons, List.flatten_cons, SeedComponent.part]
      exact (List.prefix_append_right_inj _).mpr ih

/-! ## What the shipped table has to satisfy -/

theorem seedSchemas_plain :
    ∀ entry ∈ seedSchemas, ∀ c ∈ entry.2.components, c.plain := by
  decide +kernel

theorem seedSchemas_prefixFree :
    PrefixFree {entry | entry ∈ seedSchemas} fun entry => leadingLiterals entry.2.components := by
  have hall : ∀ e ∈ seedSchemas, ∀ e' ∈ seedSchemas,
      leadingLiterals e.2.components <+: leadingLiterals e'.2.components → e = e' := by
    decide +kernel
  exact hall

theorem seedSchemas_one_variable :
    ∀ entry ∈ seedSchemas, (entry.2.components.map (·.layout)).count .variable ≤ 1 := by
  decide +kernel

theorem seedSchemas_seedCount :
    ∀ entry ∈ seedSchemas, (entry.2.components.map (·.seedCount)).sum + 1 ≤ maxSeeds := by
  decide +kernel

theorem deriveSeeds_limits {kind : String} {values : SeedValues} {seeds : List Bytes}
    (h : deriveSeeds kind values = .ok seeds) :
    (∀ seed ∈ seeds, seed.length ≤ maxSeedLen) ∧ seeds.length + 1 ≤ maxSeeds := by
  obtain ⟨schema, hschema, h⟩ := bind_ok h
  have hmem := seedSchema_mem hschema
  obtain ⟨-, -, hlen, hcount, -⟩ := componentsSeeds_spec (seedSchemas_plain _ hmem) h
  exact ⟨hlen, (Nat.add_le_add_right hcount 1).trans (seedSchemas_seedCount _ hmem)⟩

/-- Two accepted seed lists with one concatenation are the seeds of one account
kind for one set of values, and no list exceeds the limits on seeds. -/
theorem deriveSeeds_injective {kind kind' : String} {values values' : SeedValues}
    {seeds seeds' : List Bytes} (h : deriveSeeds kind values = .ok seeds)
    (h' : deriveSeeds kind' values' = .ok seeds') :
    (seeds.flatten = seeds'.flatten →
      kind = kind' ∧ ∀ schema, seedSchema kind = .ok schema →
        ∀ c ∈ schema.components, c.literal = none →
          ∃ bytes, encodedSeed values c = some bytes ∧ encodedSeed values' c = some bytes) ∧
      (∀ seed ∈ seeds, seed.length ≤ maxSeedLen) ∧ seeds.length + 1 ≤ maxSeeds := by
  refine ⟨fun heq => ?_, deriveSeeds_limits h⟩
  obtain ⟨schema, hschema, h⟩ := bind_ok h
  obtain ⟨schema', hschema', h'⟩ := bind_ok h'
  have hmem := seedSchema_mem hschema
  have hmem' := seedSchema_mem hschema'
  obtain ⟨hflat, hfits, -, -, henc⟩ := componentsSeeds_spec (seedSchemas_plain _ hmem) h
  obtain ⟨hflat', hfits', -, -, henc'⟩ := componentsSeeds_spec (seedSchemas_plain _ hmem') h'
  have hentry : (kind, schema) = (kind', schema') := by
    obtain ⟨tail, htail⟩ := leadingLiterals_prefix values schema.components
    obtain ⟨tail', htail'⟩ := leadingLiterals_prefix values' schema'.components
    have hjoin : leadingLiterals schema.components ++ tail =
        leadingLiterals schema'.components ++ tail' := by
      rw [htail, htail', ← hflat, ← hflat', heq]
    exact (seedSchemas_prefixFree.append_inj hmem hmem' hjoin).1
  obtain ⟨rfl, rfl⟩ := Prod.mk.inj hentry
  have hparts := hfits.flatten_inj (seedSchemas_one_variable _ hmem) hfits'
    (hflat.symm.trans (heq.trans hflat'))
  refine ⟨rfl, fun other hother c hc hlit => ?_⟩
  obtain rfl : schema = other := Except.ok.inj (hschema.symm.trans hother)
  have hpart : c.part values = c.part values' := List.map_inj_left.mp hparts c hc
  exact ⟨c.part values, henc c hc hlit, hpart ▸ henc' c hc hlit⟩

/-- A number and the two bytes it is written as give one registry entry. -/
theorem deriveSeeds_injective_curve :
    ∃ bytes, encodedSeed (seedValues [("signer_public_key", .bytes (List.replicate 32 7)),
        ("curve_le", .number 258)]) (bytesOf "curve_le" 2) = some bytes ∧
      encodedSeed (seedValues [("curve_le", .bytes [2, 1]),
        ("signer_public_key", .bytes (List.replicate 32 7))]) (bytesOf "curve_le" 2) =
        some bytes :=
  ((@deriveSeeds_injective "EncryptionKey" "EncryptionKey" _ _
    [textBytes "encryption_key", List.replicate 32 7, [2, 1]]
    [textBytes "encryption_key", List.replicate 32 7, [2, 1]] rfl rfl).1 rfl).2
    _ rfl (bytesOf "curve_le" 2) (by decide) rfl

end Ika.Solana
