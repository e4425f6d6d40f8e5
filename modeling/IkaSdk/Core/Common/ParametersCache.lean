import IkaSdk.Core.Grpc.AnswerChecks
import IkaSdk.Core.Grpc.NetworkKeyOutput
import IkaSdk.Lib.Entries
import Mathlib.Data.List.Induction

/-! The cache of the protocol parameters derived from a network key's outputs. An entry is a
derivation that may still run, and that may have been dropped when it fails. -/

namespace Ika

open Wire

/-! ## The cache -/

structure ParametersRequest where
  mock : Bool
  curve : Curve
  networkDkgOutput : Bytes
  reconfigurationOutput : Option Bytes
deriving DecidableEq, Repr

/-- What the cryptography is asked to derive. -/
inductive DerivationCall
  | networkDkg (curve : Curve) (networkDkgOutput : Bytes)
  | reconfiguration (curve : Curve) (reconfiguration networkDkgOutput : Bytes)
deriving DecidableEq, Repr

def Curve.name : Curve → String
  | secp256k1 => "SECP256K1"
  | secp256r1 => "SECP256R1"
  | ed25519 => "ED25519"
  | ristretto => "RISTRETTO"

namespace ParametersRequest

def mode (r : ParametersRequest) : String := if r.mock then "mock" else "real"

/-- The reconfiguration output, unless it is empty. -/
def reconfiguration (r : ParametersRequest) : Option Bytes :=
  r.reconfigurationOutput.filter (0 < ·.length)

def derivation (r : ParametersRequest) : DerivationCall :=
  match r.reconfiguration with
  | none => .networkDkg r.curve r.networkDkgOutput
  | some reconfiguration => .reconfiguration r.curve reconfiguration r.networkDkgOutput

variable (blake2b256 : Bytes → Bytes)

/-- The digest of the reconfiguration output, nothing without one. -/
def reconfigurationDigest (r : ParametersRequest) : Bytes :=
  r.reconfiguration.elim [] (networkOutputDigest blake2b256)

def cacheKey (r : ParametersRequest) : String :=
  r.mode ++ (":" ++ (r.curve.name ++ (":" ++
    (toHex (networkOutputDigest blake2b256 r.networkDkgOutput) ++ (":" ++
      toHex (r.reconfigurationDigest blake2b256))))))

/-- The same cryptography, curve and outputs, by their digests. -/
def SameOutputs (r r' : ParametersRequest) : Prop :=
  r.mock = r'.mock ∧ r.curve = r'.curve ∧
    networkOutputDigest blake2b256 r.networkDkgOutput =
      networkOutputDigest blake2b256 r'.networkDkgOutput ∧
    r.reconfigurationDigest blake2b256 = r'.reconfigurationDigest blake2b256

end ParametersRequest

/-- A derivation, and what it came to once it settled. -/
structure Derivation where
  request : ParametersRequest
  call : DerivationCall
  outcome : Option (Except String Bytes) := none
deriving DecidableEq

/-- The entries from the least to the most recently used one, each with its derivation. -/
structure ParametersCache where
  entries : List (String × ℕ) := []
  derivations : List Derivation := []

def protocolPublicParametersCacheSize : ℕ := 16

inductive CacheEvent
  | asked (request : ParametersRequest)
  | settled (derivation : ℕ) (outcome : Except String Bytes)

namespace ParametersCache

variable (blake2b256 : Bytes → Bytes)

/-- The derivation that a caller waits for, and the cache afterwards. -/
def protocolPublicParametersOf (c : ParametersCache) (r : ParametersRequest) :
    ℕ × ParametersCache :=
  let key := r.cacheKey blake2b256
  match c.entries.lookup key with
  | some cached => (cached, { c with entries := c.entries.filter (·.1 ≠ key) ++ [(key, cached)] })
  | none =>
    let derived := c.derivations.length
    let entries := c.entries ++ [(key, derived)]
    (derived, {
      entries := if protocolPublicParametersCacheSize < entries.length then entries.tail
        else entries
      derivations := c.derivations ++ [{ request := r, call := r.derivation }] })

/-- A derivation settles once. A failed one is not kept. -/
def settle (c : ParametersCache) (d : ℕ) (outcome : Except String Bytes) : ParametersCache :=
  match c.derivations[d]? with
  | some ⟨request, call, none⟩ => {
      entries := match outcome with
        | .ok _ => c.entries
        | .error _ => c.entries.filter (·.1 ≠ request.cacheKey blake2b256)
      derivations := c.derivations.set d ⟨request, call, some outcome⟩ }
  | _ => c

def step (c : ParametersCache) : CacheEvent → ParametersCache
  | .asked request => (c.protocolPublicParametersOf blake2b256 request).2
  | .settled derivation outcome => c.settle blake2b256 derivation outcome

def after (events : List CacheEvent) : ParametersCache :=
  events.foldl (fun c event => c.step blake2b256 event) {}

end ParametersCache

/-! ## What a key names -/

theorem toHex_inj {a b : Bytes} (h : toHex a = toHex b) : a = b := by
  have hdigits : ∀ m < 16, ∀ n < 16, hexDigit m = hexDigit n → m = n := by decide
  have hchars := congrArg String.toList h
  rw [toHex, toHex, String.toList_ofList, String.toList_ofList] at hchars
  clear h
  induction a generalizing b with
  | nil =>
    cases b with
    | nil => rfl
    | cons y b => simp at hchars
  | cons x a ih =>
    cases b with
    | nil => simp at hchars
    | cons y b =>
      have hx : x.toNat < 256 := x.toNat_lt
      have hy : y.toNat < 256 := y.toNat_lt
      simp only [List.flatMap_cons, List.cons_append, List.nil_append, List.cons.injEq] at hchars
      obtain ⟨hhigh, hlow, hrest⟩ := hchars
      have hdiv := hdigits _ (by omega) _ (by omega) hhigh
      have hmod := hdigits _ (by omega) _ (by omega) hlow
      have hsame : x.toNat = y.toNat := by omega
      rw [UInt8.toNat_inj.mp hsame, ih hrest]

/-- Texts before the first sign are the same when the whole texts are. -/
theorem before_sign_inj {α : Type} {xs ys xs' ys' : List α} {sign : α} (hx : sign ∉ xs)
    (hy : sign ∉ ys) (h : xs ++ sign :: xs' = ys ++ sign :: ys') : xs = ys ∧ xs' = ys' := by
  induction xs generalizing ys with
  | nil =>
    cases ys with
    | nil => exact ⟨rfl, (List.cons.inj h).2⟩
    | cons y ys => exact absurd ((List.cons.inj h).1 ▸ List.mem_cons_self) hy
  | cons x xs ih =>
    cases ys with
    | nil => exact absurd ((List.cons.inj h).1 ▸ List.mem_cons_self) hx
    | cons y ys =>
      obtain ⟨rfl, hrest⟩ := List.cons.inj h
      obtain ⟨rfl, hafter⟩ := ih (fun hm => hx (List.mem_cons_of_mem _ hm))
        (fun hm => hy (List.mem_cons_of_mem _ hm)) hrest
      exact ⟨rfl, hafter⟩

theorem text_before_colon_inj {a b a' b' : String} (ha : ':' ∉ a.toList) (hb : ':' ∉ b.toList)
    (h : a ++ (":" ++ a') = b ++ (":" ++ b')) : a = b ∧ a' = b' := by
  have hchars : a.toList ++ ':' :: a'.toList = b.toList ++ ':' :: b'.toList := by
    simpa using congrArg String.toList h
  obtain ⟨hbefore, hafter⟩ := before_sign_inj ha hb hchars
  exact ⟨String.toList_injective hbefore, String.toList_injective hafter⟩

theorem colon_not_hex (bytes : Bytes) : ':' ∉ (toHex bytes).toList := by
  have hdigits : ∀ n < 16, hexDigit n ≠ ':' := by decide
  intro hcolon
  rw [toHex, String.toList_ofList, List.mem_flatMap] at hcolon
  obtain ⟨b, -, hb⟩ := hcolon
  have hsize : b.toNat < 256 := b.toNat_lt
  rcases List.mem_pair.mp hb with heq | heq
  · exact hdigits _ (by omega) heq.symm
  · exact hdigits _ (by omega) heq.symm

/-- A key is of one cryptography, one curve and one pair of digests. -/
theorem cacheKey_inj {blake2b256 : Bytes → Bytes} {r r' : ParametersRequest}
    (h : r.cacheKey blake2b256 = r'.cacheKey blake2b256) : r.SameOutputs blake2b256 r' := by
  have hmode : ∀ r : ParametersRequest, ':' ∉ r.mode.toList := by
    intro r
    unfold ParametersRequest.mode
    split_ifs <;> decide
  have hcurve : ∀ curve : Curve, ':' ∉ curve.name.toList := by
    intro curve
    cases curve <;> decide
  obtain ⟨hmock, h⟩ := text_before_colon_inj (hmode r) (hmode r') h
  obtain ⟨hname, h⟩ := text_before_colon_inj (hcurve r.curve) (hcurve r'.curve) h
  obtain ⟨houtput, hreconfiguration⟩ :=
    text_before_colon_inj (colon_not_hex _) (colon_not_hex _) h
  refine ⟨?_, ?_, toHex_inj houtput, toHex_inj hreconfiguration⟩
  · unfold ParametersRequest.mode at hmock
    cases hr : r.mock <;> cases hr' : r'.mock <;> simp_all
  · cases hr : r.curve <;> cases hr' : r'.curve <;> simp_all [Curve.name]

/-! ## What every run keeps -/

namespace ParametersCache

variable {blake2b256 : Bytes → Bytes} {c : ParametersCache}

/-- The derivation is of the request. -/
def Derives (c : ParametersCache) (d : ℕ) (r : ParametersRequest) : Prop :=
  ∃ outcome, c.derivations[d]? = some ⟨r, r.derivation, outcome⟩

/-- At most sixteen entries, each under its own key, and each the latest derivation of what its
key names, which did not fail. -/
structure Sound (blake2b256 : Bytes → Bytes) (c : ParametersCache) : Prop where
  few : c.entries.length ≤ protocolPublicParametersCacheSize
  distinct : (c.entries.map Prod.fst).Nodup
  filed : ∀ entry ∈ c.entries, ∃ r, c.Derives entry.2 r ∧ r.cacheKey blake2b256 = entry.1
  kept : ∀ entry ∈ c.entries, ∀ r call e,
    c.derivations[entry.2]? ≠ some ⟨r, call, some (.error e)⟩
  derived : ∀ (d : ℕ) derivation, c.derivations[d]? = some derivation →
    derivation.call = derivation.request.derivation
  latest : ∀ entry ∈ c.entries, ∀ (d : ℕ) r call, c.derivations[d]? = some ⟨r, call, none⟩ →
    r.cacheKey blake2b256 = entry.1 → d ≤ entry.2

theorem sound_start : Sound blake2b256 {} where
  few := Nat.zero_le _
  distinct := List.nodup_nil
  filed := fun _ h => (by cases h)
  kept := fun _ h => (by cases h)
  derived := fun _ _ h => (by simp at h)
  latest := fun _ h => (by cases h)

theorem Sound.used (h : Sound blake2b256 c) {key : String} {cached : ℕ}
    (hcached : (key, cached) ∈ c.entries) :
    Sound blake2b256 { c with entries := c.entries.filter (·.1 ≠ key) ++ [(key, cached)] } := by
  have hsub : ∀ entry ∈ c.entries.filter (·.1 ≠ key) ++ [(key, cached)], entry ∈ c.entries := by
    intro entry hentry
    rcases List.mem_append.mp hentry with hentry | hentry
    · exact List.mem_of_mem_filter hentry
    · exact List.mem_singleton.mp hentry ▸ hcached
  constructor
  · have hless : (c.entries.filter (·.1 ≠ key)).length < c.entries.length :=
      List.length_filter_lt_length_iff_exists.mpr ⟨_, hcached, by simp⟩
    have hfew := h.few
    simp only [List.length_append, List.length_singleton]
    omega
  · apply nodup_concat
    · exact h.distinct.sublist (List.filter_sublist.map _)
    · apply List.lookup_eq_none_iff.mpr
      intro entry hentry
      have hne : entry.1 ≠ key := by simpa using (List.mem_filter.mp hentry).2
      exact bne_iff_ne.mpr (Ne.symm hne)
  · exact fun entry hentry => h.filed entry (hsub entry hentry)
  · exact fun entry hentry => h.kept entry (hsub entry hentry)
  · exact h.derived
  · exact fun entry hentry => h.latest entry (hsub entry hentry)

/-- A new derivation goes last, and the first entry goes when there are too many. -/
theorem Sound.added (h : Sound blake2b256 c) {r : ParametersRequest}
    (hnew : c.entries.lookup (r.cacheKey blake2b256) = none) {entries : List (String × ℕ)}
    (hentries : entries = c.entries ++ [(r.cacheKey blake2b256, c.derivations.length)]) :
    Sound blake2b256 {
      entries := if protocolPublicParametersCacheSize < entries.length then entries.tail
        else entries
      derivations := c.derivations ++ [{ request := r, call := r.derivation }] } := by
  have hkept : (if protocolPublicParametersCacheSize < entries.length then entries.tail
      else entries).Sublist entries := by
    split_ifs
    · exact List.tail_sublist _
    · exact List.Sublist.refl _
  have hsub : ∀ entry ∈ (if protocolPublicParametersCacheSize < entries.length then entries.tail
      else entries), entry ∈ c.entries ∨ entry = (r.cacheKey blake2b256, c.derivations.length) := by
    intro entry hentry
    rcases List.mem_append.mp (hentries ▸ hkept.subset hentry) with hold | hlast
    · exact .inl hold
    · exact .inr (List.mem_singleton.mp hlast)
  constructor
  · have hfew := h.few
    have hlength : entries.length = c.entries.length + 1 := by simp [hentries]
    dsimp only
    split_ifs
    · rw [List.length_tail]
      omega
    · omega
  · have hdistinct : (entries.map Prod.fst).Nodup := hentries ▸ nodup_concat h.distinct hnew
    exact hdistinct.sublist (hkept.map _)
  · intro entry hentry
    rcases hsub entry hentry with hold | rfl
    · obtain ⟨r', ⟨outcome, hd⟩, hkey⟩ := h.filed entry hold
      have hbound := (List.getElem?_eq_some_iff.mp hd).1
      exact ⟨r', ⟨outcome, (List.getElem?_append_left hbound).trans hd⟩, hkey⟩
    · exact ⟨r, ⟨none, List.getElem?_concat_length⟩, rfl⟩
  · intro entry hentry r' call e hd
    rcases of_getElem?_concat hd with hold | ⟨-, hlast⟩
    · rcases hsub entry hentry with hfiled | rfl
      · exact h.kept entry hfiled r' call e hold
      · have hbound := (List.getElem?_eq_some_iff.mp hold).1
        exact absurd hbound (Nat.lt_irrefl _)
    · cases congrArg Derivation.outcome hlast
  · intro d derivation hd
    rcases of_getElem?_concat hd with hold | ⟨-, rfl⟩
    · exact h.derived d derivation hold
    · rfl
  · intro entry hentry d r' call hd hkey
    rcases of_getElem?_concat hd with hold | ⟨rfl, hlast⟩
    · rcases hsub entry hentry with hfiled | rfl
      · exact h.latest entry hfiled d r' call hold hkey
      · exact (List.getElem?_eq_some_iff.mp hold).1.le
    · have hrequest : r' = r := congrArg Derivation.request hlast
      rcases hsub entry hentry with hfiled | rfl
      · -- no entry was filed under the key of the new derivation
        have hmem : (r.cacheKey blake2b256, entry.2) ∈ c.entries := by
          rw [← hrequest, hkey]
          exact hfiled
        exact absurd hmem (not_mem_of_lookup hnew)
      · exact le_rfl

/-- The derivation that settles is the one of its request. -/
theorem Derives.request_eq {d : ℕ} {r request : ParametersRequest} {call : DerivationCall}
    {outcome : Option (Except String Bytes)} (h : c.Derives d r)
    (hd : c.derivations[d]? = some ⟨request, call, outcome⟩) :
    r = request ∧ call = r.derivation := by
  obtain ⟨_, hr⟩ := h
  cases hr.symm.trans hd
  exact ⟨rfl, rfl⟩

theorem Sound.settle (h : Sound blake2b256 c) (d : ℕ) (outcome : Except String Bytes) :
    Sound blake2b256 (c.settle blake2b256 d outcome) := by
  unfold ParametersCache.settle
  split
  · next request call hd =>
    have hbound := (List.getElem?_eq_some_iff.mp hd).1
    have hsub : (match outcome with
        | .ok _ => c.entries
        | .error _ => c.entries.filter (·.1 ≠ request.cacheKey blake2b256)).Sublist c.entries := by
      cases outcome with
      | ok value => exact List.Sublist.refl _
      | error e => exact List.filter_sublist
    constructor
    · exact hsub.length_le.trans h.few
    · exact h.distinct.sublist (hsub.map _)
    · intro entry hentry
      obtain ⟨r, hr, hkey⟩ := h.filed entry (hsub.subset hentry)
      refine ⟨r, ?_, hkey⟩
      by_cases hj : entry.2 = d
      · obtain ⟨rfl, rfl⟩ := hr.request_eq (hj ▸ hd)
        exact ⟨some outcome, by rw [hj]; exact List.getElem?_set_self hbound⟩
      · obtain ⟨before, hbefore⟩ := hr
        exact ⟨before, (List.getElem?_set_ne (Ne.symm hj)).trans hbefore⟩
    · intro entry hentry r' call' e hfailed
      by_cases hj : entry.2 = d
      · -- the entry of a failed derivation is under its key
        rw [hj, List.getElem?_set_self hbound] at hfailed
        cases hfailed
        obtain ⟨r, hr, hkey⟩ := h.filed entry (List.mem_of_mem_filter hentry)
        obtain ⟨rfl, -⟩ := hr.request_eq (hj ▸ hd)
        have hne := (List.mem_filter.mp hentry).2
        simp [hkey] at hne
      · rw [List.getElem?_set_ne (Ne.symm hj)] at hfailed
        exact h.kept entry (hsub.subset hentry) r' call' e hfailed
    · intro j derivation hj
      rw [List.getElem?_set] at hj
      split_ifs at hj
      · cases hj
        exact h.derived d ⟨request, call, none⟩ hd
      · exact h.derived j derivation hj
    · intro entry hentry j r' call' hj hkey
      rw [List.getElem?_set] at hj
      split_ifs at hj
      · cases congrArg (Option.map Derivation.outcome) hj
      · exact h.latest entry (hsub.subset hentry) j r' call' hj hkey
  · exact h

theorem Sound.step (h : Sound blake2b256 c) (event : CacheEvent) :
    Sound blake2b256 (c.step blake2b256 event) := by
  cases event with
  | asked r =>
    unfold ParametersCache.step protocolPublicParametersOf
    dsimp only
    split
    · next cached hcached => exact h.used (lookup_mem hcached)
    · next hnew => exact h.added hnew rfl
  | settled d outcome => exact h.settle d outcome

theorem after_concat (events : List CacheEvent) (event : CacheEvent) :
    after blake2b256 (events ++ [event]) = (after blake2b256 events).step blake2b256 event := by
  simp [after]

theorem sound_after (events : List CacheEvent) : Sound blake2b256 (after blake2b256 events) := by
  induction events using List.reverseRecOn with
  | nil => exact sound_start
  | append_singleton events event ih =>
    rw [after_concat]
    exact ih.step event

/-! ## What a failed derivation removes -/

/-- A derivation that runs, and a later one of its key that is filed. -/
def Superseded (blake2b256 : Bytes → Bytes) (c : ParametersCache) (d : ℕ) : Prop :=
  ∃ request call d', c.derivations[d]? = some ⟨request, call, none⟩ ∧ d < d' ∧
    (request.cacheKey blake2b256, d') ∈ c.entries

/-- A failure removes the entry of its derivation and no other. -/
def RemovesOwn (blake2b256 : Bytes → Bytes) (c : ParametersCache) (event : CacheEvent) : Prop :=
  ∀ d e, event = .settled d (.error e) → ∀ entry ∈ c.entries, entry.2 ≠ d →
    entry ∈ (c.step blake2b256 event).entries

theorem removesOwn_iff (h : Sound blake2b256 c) {d : ℕ} {e : String} :
    RemovesOwn blake2b256 c (.settled d (.error e)) ↔ ¬Superseded blake2b256 c d := by
  constructor
  · rintro hown ⟨request, call, d', hd, hlater, hfiled⟩
    have hstays := hown d e rfl _ hfiled (Nat.ne_of_gt hlater)
    rw [step, settle, hd] at hstays
    have hother := (List.mem_filter.mp hstays).2
    simp at hother
  · intro hnone d' e' heq entry hentry hne
    cases heq
    unfold step settle
    dsimp only
    split
    · next request call hd =>
      refine List.mem_filter.mpr ⟨hentry, ?_⟩
      have hother : entry.1 ≠ request.cacheKey blake2b256 := by
        intro hkey
        have hlater := h.latest entry hentry d request call hd hkey.symm
        refine hnone ⟨request, call, entry.2, hd, lt_of_le_of_ne hlater (Ne.symm hne), ?_⟩
        rw [← hkey]
        exact hentry
      simpa using hother
    · exact hentry

/-- The derivation that a caller is given is of the same cryptography, curve and outputs. -/
theorem given_same (h : Sound blake2b256 c) (r : ParametersRequest) :
    ∃ r', (c.protocolPublicParametersOf blake2b256 r).2.Derives
      (c.protocolPublicParametersOf blake2b256 r).1 r' ∧ r.SameOutputs blake2b256 r' := by
  unfold protocolPublicParametersOf
  dsimp only
  split
  · next cached hcached =>
    obtain ⟨r', hr', hkey⟩ := h.filed _ (lookup_mem hcached)
    exact ⟨r', hr', cacheKey_inj hkey.symm⟩
  · exact ⟨r, ⟨none, List.getElem?_concat_length⟩, rfl, rfl, rfl, rfl⟩

/-! ## Whole runs -/

/-- After every event of the run the cache is sound and a caller got a derivation of what it
asked for, and no failure removes another derivation's entry. -/
def Kept (blake2b256 : Bytes → Bytes) (events : List CacheEvent) : Prop :=
  ∀ before event rest, events = before ++ event :: rest →
    Sound blake2b256 ((after blake2b256 before).step blake2b256 event) ∧
    RemovesOwn blake2b256 (after blake2b256 before) event ∧
    ∀ r, event = .asked r → ∃ r', ((after blake2b256 before).step blake2b256 event).Derives
      ((after blake2b256 before).protocolPublicParametersOf blake2b256 r).1 r' ∧
        r.SameOutputs blake2b256 r'

/-- No derivation fails while a later one of its key is filed. -/
def NoneSuperseded (blake2b256 : Bytes → Bytes) (events : List CacheEvent) : Prop :=
  ∀ before d e rest, events = before ++ .settled d (.error e) :: rest →
    ¬Superseded blake2b256 (after blake2b256 before) d

/-- Over every run the cache holds few entries, each the derivation of what it is filed under, and
a failure removes its own entry only, exactly when no derivation fails while a later one of its
key is filed. -/
theorem cache_kept_iff (blake2b256 : Bytes → Bytes) (events : List CacheEvent) :
    Kept blake2b256 events ↔ NoneSuperseded blake2b256 events := by
  constructor
  · intro h before d e rest hsplit
    exact (removesOwn_iff (sound_after before)).mp (h before _ rest hsplit).2.1
  · intro h before event rest hsplit
    refine ⟨(sound_after before).step event, ?_, ?_⟩
    · intro d e heq
      subst heq
      exact (removesOwn_iff (sound_after before)).mpr (h before d e rest hsplit) d e rfl
    · rintro r rfl
      exact given_same (sound_after before) r

/-! ### A key asked for again after it was dropped -/

def sampleRequest (n : ℕ) : ParametersRequest where
  mock := false
  curve := .secp256k1
  networkDkgOutput := [UInt8.ofNat n]
  reconfigurationOutput := none

def sampleDigest (bytes : Bytes) : Bytes := (bytes ++ List.replicate 32 0).take 32

/-- Seventeen keys, the last of which drops the first, and then the first one again. -/
def sampleAsked : List CacheEvent :=
  ((List.range 17).map fun n => .asked (sampleRequest n)) ++ [.asked (sampleRequest 0)]

theorem sampleAsked_superseded : Superseded sampleDigest (after sampleDigest sampleAsked) 0 :=
  ⟨sampleRequest 0, (sampleRequest 0).derivation, 17, by decide +kernel, by decide,
    by decide +kernel⟩

/-- The first derivation's failure then removes the entry of the new one. -/
theorem failed_derivation_removes_newer :
    ¬Kept sampleDigest (sampleAsked ++ [.settled 0 (.error "the derivation failed")]) := by
  intro h
  have hown := (h sampleAsked _ [] rfl).2.1
  exact (removesOwn_iff (sound_after sampleAsked)).mp hown sampleAsked_superseded

end ParametersCache

end Ika
