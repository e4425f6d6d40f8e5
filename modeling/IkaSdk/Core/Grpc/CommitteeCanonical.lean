import IkaSdk.Core.Grpc.CommitteeSafety
import IkaSdk.Lib.Sorting

/-! One committee has one byte string: the members are written sorted by consensus
key, and no other bytes are read as them. -/

namespace Ika

open Wire

/-! ## The order of the members -/

theorem byte_trichotomy (l r : UInt8) : l < r ∨ l = r ∨ r < l := by
  rw [UInt8.lt_iff_toNat_lt, UInt8.lt_iff_toNat_lt, ← UInt8.toNat_inj]
  omega

theorem compareBytes_cons_eq (b : UInt8) (left right : Bytes) :
    compareBytes (b :: left) (b :: right) = compareBytes left right := by
  rw [compareBytes, if_neg (not_not.mpr rfl)]

theorem compareBytes_cons_lt {l r : UInt8} (h : l < r) (left right : Bytes) :
    compareBytes (l :: left) (r :: right) = -1 := by
  have hne : l ≠ r := UInt8.ne_of_lt h
  rw [compareBytes, if_pos hne, if_pos h]

theorem compareBytes_cons_gt {l r : UInt8} (h : r < l) (left right : Bytes) :
    compareBytes (l :: left) (r :: right) = 1 := by
  have hne : l ≠ r := (UInt8.ne_of_lt h).symm
  have hge : ¬l < r := fun hlt => UInt8.lt_irrefl l (UInt8.lt_trans hlt h)
  rw [compareBytes, if_pos hne, if_neg hge]

theorem compareBytes_eq_zero (left right : Bytes) :
    compareBytes left right = 0 ↔ left = right := by
  induction left generalizing right with
  | nil =>
    cases right with
    | nil => simp [compareBytes]
    | cons r right =>
      have hneg : compareBytes [] (r :: right) ≠ 0 := by
        rw [compareBytes, List.length_cons]
        omega
      simp [hneg]
  | cons l left ih =>
    cases right with
    | nil => simp [compareBytes]
    | cons r right =>
      rcases byte_trichotomy l r with hlt | rfl | hgt
      · rw [compareBytes_cons_lt hlt]
        simp [UInt8.ne_of_lt hlt]
      · rw [compareBytes_cons_eq, ih]
        simp
      · rw [compareBytes_cons_gt hgt]
        simp [(UInt8.ne_of_lt hgt).symm]

theorem compareBytes_flip (left right : Bytes) :
    compareBytes left right < 0 ↔ 0 < compareBytes right left := by
  induction left generalizing right with
  | nil =>
    cases right with
    | nil => simp [compareBytes]
    | cons r right =>
      rw [compareBytes, compareBytes, List.length_cons]
      omega
  | cons l left ih =>
    cases right with
    | nil =>
      rw [compareBytes, compareBytes, List.length_cons]
      omega
    | cons r right =>
      rcases byte_trichotomy l r with hlt | rfl | hgt
      · rw [compareBytes_cons_lt hlt, compareBytes_cons_gt hlt]
        decide
      · rw [compareBytes_cons_eq, compareBytes_cons_eq, ih]
      · rw [compareBytes_cons_gt hgt, compareBytes_cons_lt hgt]
        decide

/-- How the first bytes of a smaller byte string compare. -/
theorem compareBytes_cons_neg {l r : UInt8} {left right : Bytes} :
    compareBytes (l :: left) (r :: right) < 0 ↔
      l < r ∨ l = r ∧ compareBytes left right < 0 := by
  rcases byte_trichotomy l r with hlt | rfl | hgt
  · rw [compareBytes_cons_lt hlt]
    simp [hlt]
  · rw [compareBytes_cons_eq]
    simp [UInt8.lt_irrefl]
  · have hge : ¬l < r := fun hlt => UInt8.lt_irrefl l (UInt8.lt_trans hlt hgt)
    rw [compareBytes_cons_gt hgt]
    simp [hge, (UInt8.ne_of_lt hgt).symm]

theorem compareBytes_trans (left middle right : Bytes) (h : compareBytes left middle < 0)
    (h' : compareBytes middle right < 0) : compareBytes left right < 0 := by
  induction left generalizing middle right with
  | nil =>
    cases right with
    | nil =>
      cases middle with
      | nil => exact h
      | cons m middle => exact absurd h' (by simp [compareBytes])
    | cons r right =>
      rw [compareBytes, List.length_cons]
      omega
  | cons l left ih =>
    cases middle with
    | nil => exact absurd h (by simp [compareBytes])
    | cons m middle =>
      cases right with
      | nil => exact absurd h' (by simp [compareBytes])
      | cons r right =>
        rw [compareBytes_cons_neg] at h h' ⊢
        rcases h with hlt | ⟨rfl, h⟩
        · rcases h' with hlt' | ⟨rfl, -⟩
          · exact .inl (UInt8.lt_trans hlt hlt')
          · exact .inl hlt
        · rcases h' with hlt' | ⟨rfl, h'⟩
          · exact .inl hlt'
          · exact .inr ⟨rfl, ih middle right h h'⟩

/-- The order of consensus keys. -/
def byteComparison : KeyComparison Bytes where
  compare := compareBytes
  eq_zero := compareBytes_eq_zero
  flip := compareBytes_flip
  trans := compareBytes_trans

/-! ## A committee before it is signed -/

structure UnsignedCommittee where
  members : Bytes
  attestation : Bytes
deriving DecidableEq, Repr

/-- The members in the order of their consensus keys. -/
def sortMembers (members : List CommitteeMember) : List CommitteeMember :=
  members.insertionSort fun left right =>
    compareBytes left.consensusPubkey right.consensusPubkey ≤ 0

/-- The first member of a sorted list that repeats the key before it. -/
def repeatedMember (sorted : List CommitteeMember) : Option CommitteeMember :=
  ((sorted.zip sorted.tail).find? fun pair =>
    pair.1.consensusPubkey == pair.2.consensusPubkey).map (·.2)

def unsignedCommittee (blake2b256 : Bytes → Bytes) (epoch : ℕ)
    (members : List CommitteeMember) : Except String UnsignedCommittee := do
  let sorted := sortMembers members
  match repeatedMember sorted with
  | some member => throw s!"the committee lists {toHex member.consensusPubkey} twice"
  | none => pure ()
  ensure (sorted.length ≠ 0) "the committee has no members"
  let memberBytes ← committeeMembersBcs.serialize sorted
  let attestation ← encodeCommitteeAttestation
    { epoch, membersDigest := committeeMembersDigest blake2b256 memberBytes }
  return { members := memberBytes, attestation }

/-- No consensus key stands twice. -/
def DistinctKeys (members : List CommitteeMember) : Prop :=
  (members.map (·.consensusPubkey)).Nodup

theorem strictlyAscending_iff {list : List CommitteeMember} :
    strictlyAscending list = true ↔ list.Pairwise fun left right =>
      compareBytes left.consensusPubkey right.consensusPubkey < 0 := by
  have htrans : ∀ a b d : CommitteeMember,
      compareBytes a.consensusPubkey b.consensusPubkey < 0 →
      compareBytes b.consensusPubkey d.consensusPubkey < 0 →
      compareBytes a.consensusPubkey d.consensusPubkey < 0 :=
    fun a b d => compareBytes_trans _ _ _
  rw [KeyComparison.pairwise_iff_neighbours htrans]
  unfold strictlyAscending KeyComparison.neighbours
  simp

theorem sortMembers_eq (members : List CommitteeMember) :
    sortMembers members = byteComparison.sortBy CommitteeMember.consensusPubkey members := rfl

theorem sortMembers_ascending {members : List CommitteeMember} (h : DistinctKeys members) :
    strictlyAscending (sortMembers members) = true :=
  strictlyAscending_iff.mpr (byteComparison.sortBy_strict CommitteeMember.consensusPubkey h)

theorem sortMembers_of_ascending {members : List CommitteeMember}
    (h : strictlyAscending members = true) : sortMembers members = members :=
  byteComparison.sortBy_of_strict CommitteeMember.consensusPubkey (strictlyAscending_iff.mp h)

theorem distinctKeys_of_ascending {members : List CommitteeMember}
    (h : strictlyAscending members = true) : DistinctKeys members :=
  byteComparison.nodup_of_strict CommitteeMember.consensusPubkey (strictlyAscending_iff.mp h)

theorem repeatedMember_none_iff {members : List CommitteeMember} :
    repeatedMember (sortMembers members) = none ↔ DistinctKeys members := by
  have hsorted := byteComparison.sortBy_pairwise CommitteeMember.consensusPubkey members
  have hperm := (byteComparison.sortBy_perm CommitteeMember.consensusPubkey members).map
    (·.consensusPubkey)
  unfold DistinctKeys
  rw [← hperm.nodup_iff, byteComparison.nodup_iff_neighbours _ hsorted]
  unfold repeatedMember
  rw [Option.map_eq_none_iff, List.find?_eq_none]
  simp [sortMembers_eq, KeyComparison.neighbours]

/-- The order of the keys is the lexicographic order of their bytes. -/
theorem compareBytes_neg_iff (left right : Bytes) : compareBytes left right < 0 ↔ left < right := by
  induction left generalizing right with
  | nil =>
    cases right with
    | nil => simp [compareBytes]
    | cons r right =>
      rw [compareBytes, List.length_cons]
      have hlt : ([] : Bytes) < r :: right := List.nil_lt_cons r right
      simp only [hlt, iff_true]
      omega
  | cons l left ih =>
    cases right with
    | nil =>
      have hge : ¬l :: left < [] := List.not_lt_nil _
      simp [compareBytes, hge]
    | cons r right => rw [compareBytes_cons_neg, List.cons_lt_cons_iff, ih]

/-! ## The attestation -/

theorem decodeCommitteeAttestation_encode {attestation : CommitteeAttestation} {bytes : Bytes}
    (h : encodeCommitteeAttestation attestation = .ok bytes) :
    decodeCommitteeAttestation bytes = .ok attestation := by
  obtain ⟨_, hdigest, h₁⟩ := bind_ok h
  obtain ⟨_, hepoch, h₂⟩ := bind_ok h₁
  cases h₂
  have hsmall : attestation.epoch < 256 ^ 8 := by
    have hle := ensure_ok hepoch
    norm_num at hle ⊢
    omega
  have hfields : (leBytes 8 attestation.epoch ++ attestation.membersDigest).length = 40 := by
    rw [List.length_append, leBytes_length, ensure_ok hdigest]
  have htake : (leBytes 8 attestation.epoch ++ attestation.membersDigest).take 8 =
      leBytes 8 attestation.epoch := List.take_left' (leBytes_length 8 _)
  have hdrop : (leBytes 8 attestation.epoch ++ attestation.membersDigest).drop 8 =
      attestation.membersDigest := List.drop_left' (leBytes_length 8 _)
  have hall : ((0 : UInt8) :: (leBytes 8 attestation.epoch ++ attestation.membersDigest)).length =
      committeeAttestationLength := by
    rw [List.length_cons, hfields]
    rfl
  unfold decodeCommitteeAttestation
  dsimp only
  rw [ensure_of rfl, ok_bind, ensure_of hall, ok_bind, htake, hdrop, leValue_leBytes,
    Nat.mod_eq_of_lt hsmall]
  rfl

theorem encodeCommitteeAttestation_of {attestation : CommitteeAttestation}
    (hdigest : attestation.membersDigest.length = 32)
    (hepoch : attestation.epoch ≤ 0xffffffffffffffff) :
    ∃ bytes, encodeCommitteeAttestation attestation = .ok bytes := by
  unfold encodeCommitteeAttestation
  rw [ensure_of hdigest, ok_bind, ensure_of hepoch]
  exact ⟨_, rfl⟩

/-- The attestations of the one version there is, by their length. -/
theorem decodeCommitteeAttestation_of {bytes : Bytes}
    (hlength : bytes.length = committeeAttestationLength) (hversion : bytes.head? = some 0) :
    ∃ attestation, decodeCommitteeAttestation bytes = .ok attestation := by
  cases bytes with
  | nil => cases hversion
  | cons variant fields =>
    obtain rfl : variant = 0 := Option.some.inj hversion
    unfold decodeCommitteeAttestation
    dsimp only
    rw [ensure_of rfl, ok_bind, ensure_of hlength]
    exact ⟨_, rfl⟩

/-! ## The members -/

section Members

variable {P : Primitives} {blake2b256 : Bytes → Bytes}

/-- Both keys of a member are 32 bytes. -/
def KeysFit (member : CommitteeMember) : Prop :=
  member.consensusPubkey.length = 32 ∧ member.networkPubkey.length = 32

theorem serialize_of_keysFit {members : List CommitteeMember} (h : ∀ m ∈ members, KeysFit m) :
    ∃ bytes, committeeMembersBcs.serialize members = .ok bytes := by
  have hvalid : committeeMembersBcs.valid members = true := by
    refine List.all_eq_true.mpr ?_
    intro m hm
    obtain ⟨hconsensus, hnetwork⟩ := h m hm
    simp [committeeMemberBcs, Codec.iso, Codec.pair, Codec.fixedBytes, hconsensus, hnetwork]
  exact ⟨_, if_pos hvalid⟩

/-- What a committee before its signature is: the members in order, without a
repeated key, and the attestation of their bytes. -/
theorem unsignedCommittee_iff {epoch : ℕ} {members : List CommitteeMember}
    {committee : UnsignedCommittee} :
    unsignedCommittee blake2b256 epoch members = .ok committee ↔
      DistinctKeys members ∧ members ≠ [] ∧
        committeeMembersBcs.serialize (sortMembers members) = .ok committee.members ∧
        encodeCommitteeAttestation
          ⟨epoch, committeeMembersDigest blake2b256 committee.members⟩ =
            .ok committee.attestation := by
  have hlength : (sortMembers members).length = members.length :=
    (byteComparison.sortBy_perm CommitteeMember.consensusPubkey members).length_eq
  unfold unsignedCommittee
  dsimp only
  cases hrepeated : repeatedMember (sortMembers members) with
  | some member =>
    have hnot : ¬DistinctKeys members := by
      rw [← repeatedMember_none_iff, hrepeated]
      simp
    constructor
    · intro h
      cases h
    · rintro ⟨hdistinct, -⟩
      exact absurd hdistinct hnot
  | none =>
    have hdistinct := repeatedMember_none_iff.mp hrepeated
    constructor
    · intro h
      obtain ⟨_, hnonempty, h₁⟩ := bind_ok h
      obtain ⟨memberBytes, hserialize, h₂⟩ := bind_ok h₁
      obtain ⟨attestation, hattestation, h₃⟩ := bind_ok h₂
      cases h₃
      refine ⟨hdistinct, ?_, hserialize, hattestation⟩
      rintro rfl
      exact ensure_ok hnonempty rfl
    · rintro ⟨-, hnonempty, hserialize, hattestation⟩
      have hcount : (sortMembers members).length ≠ 0 := by
        rw [hlength]
        exact fun hzero => hnonempty (List.eq_nil_of_length_eq_zero hzero)
      rw [ensure_of hcount, hserialize]
      change (encodeCommitteeAttestation _ >>= _) = _
      rw [hattestation]
      rfl

/-- The bytes that are read as a committee are the encodings of sorted members. -/
theorem decodeCommitteeMembers_iff {bytes : Bytes} {list : List CommitteeMember} :
    decodeCommitteeMembers P blake2b256 bytes (committeeMembersDigest blake2b256 bytes) =
        .ok list ↔
      committeeMembersBcs.serialize list = .ok bytes ∧ strictlyAscending list = true ∧
        list ≠ [] := by
  constructor
  · intro h
    exact (decodeCommitteeMembers_ok h).2
  · rintro ⟨hserialize, hascending, hnonempty⟩
    have hcount : list.length ≠ 0 := fun hzero => hnonempty (List.eq_nil_of_length_eq_zero hzero)
    unfold decodeCommitteeMembers
    rw [ensure_of rfl, ok_bind, P.parse_serialize hserialize]
    change (ensure _ _ >>= _) = _
    rw [ensure_of hserialize, ok_bind, ensure_of hcount, ok_bind, ensure_of hascending]
    rfl

theorem unsignedCommittee_perm (epoch : ℕ) {members members' : List CommitteeMember}
    (hdistinct : DistinctKeys members) (h : members.Perm members') :
    unsignedCommittee blake2b256 epoch members = unsignedCommittee blake2b256 epoch members' := by
  have hsorted : sortMembers members = sortMembers members' :=
    byteComparison.sortBy_eq_of_perm CommitteeMember.consensusPubkey hdistinct h
  unfold unsignedCommittee
  rw [hsorted]

theorem unsignedCommittee_gives {epoch : ℕ} {members : List CommitteeMember}
    (hdigest : ∀ bytes, (blake2b256 bytes).length = 32) (hepoch : epoch ≤ 0xffffffffffffffff)
    (hnonempty : members ≠ []) (hdistinct : DistinctKeys members)
    (hfit : ∀ m ∈ members, KeysFit m) :
    ∃ committee, unsignedCommittee blake2b256 epoch members = .ok committee := by
  have hsorted : ∀ m ∈ sortMembers members, KeysFit m := by
    intro m hm
    exact hfit m ((byteComparison.sortBy_perm _ members).mem_iff.mp hm)
  obtain ⟨memberBytes, hserialize⟩ := serialize_of_keysFit hsorted
  obtain ⟨attestation, hattestation⟩ : ∃ bytes, encodeCommitteeAttestation
      ⟨epoch, committeeMembersDigest blake2b256 memberBytes⟩ = .ok bytes :=
    encodeCommitteeAttestation_of (hdigest memberBytes) hepoch
  exact ⟨⟨memberBytes, attestation⟩,
    unsignedCommittee_iff.mpr ⟨hdistinct, hnonempty, hserialize, hattestation⟩⟩

/-- The committee format is canonical: one byte string for the members, in whatever
order they are given, and no other bytes that are read as them. -/
structure CommitteeCanonical (P : Primitives) (blake2b256 : Bytes → Bytes) : Prop where
  gives : ∀ epoch members, epoch ≤ 0xffffffffffffffff → members ≠ [] → DistinctKeys members →
    (∀ m ∈ members, KeysFit m) →
    ∃ committee, unsignedCommittee blake2b256 epoch members = .ok committee
  order : ∀ epoch members members', DistinctKeys members → members.Perm members' →
    unsignedCommittee blake2b256 epoch members = unsignedCommittee blake2b256 epoch members'
  decodes : ∀ epoch members committee,
    unsignedCommittee blake2b256 epoch members = .ok committee →
    ∃ sorted, sorted.Perm members ∧
      (sorted.Pairwise fun left right => left.consensusPubkey < right.consensusPubkey) ∧
      decodeCommitteeMembers P blake2b256 committee.members
        (committeeMembersDigest blake2b256 committee.members) = .ok sorted ∧
      decodeCommitteeAttestation committee.attestation =
        .ok ⟨epoch, committeeMembersDigest blake2b256 committee.members⟩
  accepted : ∀ bytes list, decodeCommitteeMembers P blake2b256 bytes
      (committeeMembersDigest blake2b256 bytes) = .ok list →
    ∀ epoch ≤ 0xffffffffffffffff, ∃ attestation,
      unsignedCommittee blake2b256 epoch list = .ok ⟨bytes, attestation⟩
  refused : ∀ list encoding padding, committeeMembersBcs.serialize list = .ok encoding →
    list = [] ∨ (¬list.Pairwise fun left right => left.consensusPubkey < right.consensusPubkey) ∨
      padding ≠ [] →
    ∃ error, decodeCommitteeMembers P blake2b256 (encoding ++ padding)
      (committeeMembersDigest blake2b256 (encoding ++ padding)) = .error error
  attestations : ∀ attestation, attestation.epoch ≤ 0xffffffffffffffff →
    attestation.membersDigest.length = 32 → ∃ bytes,
      encodeCommitteeAttestation attestation = .ok bytes ∧
      decodeCommitteeAttestation bytes = .ok attestation
  attestationBytes : ∀ bytes, bytes.length = committeeAttestationLength → bytes.head? = some 0 →
    ∃ attestation, decodeCommitteeAttestation bytes = .ok attestation ∧
      encodeCommitteeAttestation attestation = .ok bytes

theorem ascending_iff_lt {list : List CommitteeMember} :
    strictlyAscending list = true ↔
      list.Pairwise fun left right => left.consensusPubkey < right.consensusPubkey := by
  rw [strictlyAscending_iff]
  simp only [compareBytes_neg_iff]

/-- Only the encoding of sorted members is read, and it is read as them. -/
theorem decodeCommitteeMembers_refuses {list : List CommitteeMember} {encoding padding : Bytes}
    (hserialize : committeeMembersBcs.serialize list = .ok encoding)
    (h : list = [] ∨ strictlyAscending list ≠ true ∨ padding ≠ []) :
    ∃ error, decodeCommitteeMembers P blake2b256 (encoding ++ padding)
      (committeeMembersDigest blake2b256 (encoding ++ padding)) = .error error := by
  cases hread : decodeCommitteeMembers P blake2b256 (encoding ++ padding)
      (committeeMembersDigest blake2b256 (encoding ++ padding)) with
  | error error => exact ⟨error, rfl⟩
  | ok list' =>
    obtain ⟨hserialize', hascending, hnonempty⟩ := decodeCommitteeMembers_iff.mp hread
    obtain ⟨hvalid, rfl⟩ := Codec.serialize_ok hserialize
    obtain ⟨hvalid', hbytes⟩ := Codec.serialize_ok hserialize'
    obtain ⟨rfl, hpadding⟩ := committeeMembersBcs.encode_append_inj hvalid hvalid'
      (hbytes.trans (List.append_nil _).symm)
    rcases h with hempty | hunsorted | hpadded
    · exact absurd hempty hnonempty
    · exact absurd hascending hunsorted
    · exact absurd hpadding hpadded

theorem committees_canonical (hdigest : ∀ bytes, (blake2b256 bytes).length = 32) :
    CommitteeCanonical P blake2b256 where
  gives epoch members hepoch hnonempty hdistinct hfit :=
    unsignedCommittee_gives hdigest hepoch hnonempty hdistinct hfit
  order epoch members members' hdistinct hperm := unsignedCommittee_perm epoch hdistinct hperm
  decodes epoch members committee h := by
    obtain ⟨hdistinct, hnonempty, hserialize, hattestation⟩ := unsignedCommittee_iff.mp h
    have hperm := byteComparison.sortBy_perm CommitteeMember.consensusPubkey members
    have hascending := sortMembers_ascending hdistinct
    have hsorted : sortMembers members ≠ [] := by
      intro hempty
      rw [sortMembers_eq] at hempty
      rw [hempty] at hperm
      exact hnonempty hperm.nil_eq.symm
    refine ⟨sortMembers members, hperm, ascending_iff_lt.mp hascending, ?_, ?_⟩
    · exact decodeCommitteeMembers_iff.mpr ⟨hserialize, hascending, hsorted⟩
    · exact decodeCommitteeAttestation_encode hattestation
  accepted bytes list h epoch hepoch := by
    obtain ⟨hserialize, hascending, hnonempty⟩ := decodeCommitteeMembers_iff.mp h
    obtain ⟨attestation, hattestation⟩ : ∃ attestation, encodeCommitteeAttestation
        ⟨epoch, committeeMembersDigest blake2b256 bytes⟩ = .ok attestation :=
      encodeCommitteeAttestation_of (hdigest bytes) hepoch
    have hsame := sortMembers_of_ascending hascending
    exact ⟨attestation, unsignedCommittee_iff.mpr
      ⟨distinctKeys_of_ascending hascending, hnonempty, hsame.symm ▸ hserialize, hattestation⟩⟩
  refused list encoding padding hserialize h := by
    apply decodeCommitteeMembers_refuses hserialize
    rw [← ascending_iff_lt] at h
    exact h
  attestations attestation hepoch hlength := by
    obtain ⟨bytes, hencode⟩ := encodeCommitteeAttestation_of hlength hepoch
    exact ⟨bytes, hencode, decodeCommitteeAttestation_encode hencode⟩
  attestationBytes bytes hlength hversion := by
    obtain ⟨attestation, hdecode⟩ := decodeCommitteeAttestation_of hlength hversion
    exact ⟨attestation, hdecode, decodeCommitteeAttestation_ok hdecode⟩

end Members

/-- Two members given in either order, under a digest that keeps the front. -/
theorem committees_canonical_sample :
    unsignedCommittee samplePrimitives.sha256 7
        [⟨List.replicate 32 2, List.replicate 32 9⟩, ⟨List.replicate 32 1, List.replicate 32 8⟩] =
      unsignedCommittee samplePrimitives.sha256 7
        [⟨List.replicate 32 1, List.replicate 32 8⟩, ⟨List.replicate 32 2, List.replicate 32 9⟩] ∧
    ∃ committee, unsignedCommittee samplePrimitives.sha256 7
      [⟨List.replicate 32 2, List.replicate 32 9⟩, ⟨List.replicate 32 1, List.replicate 32 8⟩] =
        .ok committee := by
  have hcanonical : CommitteeCanonical samplePrimitives samplePrimitives.sha256 :=
    committees_canonical fun bytes => by simp [samplePrimitives]
  refine ⟨hcanonical.order 7 _ _ ?_ (.swap _ _ _), hcanonical.gives 7 _ ?_ ?_ ?_ ?_⟩
  · unfold DistinctKeys
    decide +kernel
  · decide
  · decide
  · unfold DistinctKeys
    decide +kernel
  · unfold KeysFit
    decide +kernel

end Ika
