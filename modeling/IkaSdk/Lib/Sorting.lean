import Mathlib.Data.List.Sort

/-! Lists sorted by a comparison of keys. Where no key stands twice, the order is
strict and one list stands for all the orders its members can be given in. -/

namespace Wire

/-- A comparison of keys, negative when the first sorts before the second. -/
structure KeyComparison (κ : Type) where
  compare : κ → κ → ℤ
  eq_zero : ∀ a b, compare a b = 0 ↔ a = b
  flip : ∀ a b, compare a b < 0 ↔ 0 < compare b a
  trans : ∀ a b c, compare a b < 0 → compare b c < 0 → compare a c < 0

namespace KeyComparison

variable {α κ : Type} (c : KeyComparison κ) (key : α → κ)

theorem le_iff (a b : κ) : c.compare a b ≤ 0 ↔ a = b ∨ c.compare a b < 0 := by
  rw [← c.eq_zero]
  omega

theorem le_total (a b : κ) : c.compare a b ≤ 0 ∨ c.compare b a ≤ 0 := by
  have hflip := c.flip b a
  omega

theorem le_trans (a b d : κ) (hab : c.compare a b ≤ 0) (hbd : c.compare b d ≤ 0) :
    c.compare a d ≤ 0 := by
  rcases (c.le_iff a b).mp hab with rfl | hab
  · exact hbd
  · rcases (c.le_iff b d).mp hbd with rfl | hbd
    · exact hab.le
    · exact (c.trans a b d hab hbd).le

theorem le_antisymm (a b : κ) (hab : c.compare a b ≤ 0) (hba : c.compare b a ≤ 0) : a = b := by
  have hflip := c.flip a b
  rw [← c.eq_zero]
  omega

/-- A stable sort of a list by its keys. -/
def sortBy (list : List α) : List α :=
  list.insertionSort fun a b => c.compare (key a) (key b) ≤ 0

theorem sortBy_perm (list : List α) : (c.sortBy key list).Perm list :=
  list.perm_insertionSort _

theorem sortBy_pairwise (list : List α) :
    (c.sortBy key list).Pairwise fun a b => c.compare (key a) (key b) ≤ 0 := by
  have htotal : Std.Total fun a b : α => c.compare (key a) (key b) ≤ 0 :=
    ⟨fun a b => c.le_total (key a) (key b)⟩
  have htrans : IsTrans α fun a b => c.compare (key a) (key b) ≤ 0 :=
    ⟨fun a b d => c.le_trans (key a) (key b) (key d)⟩
  exact List.pairwise_insertionSort _ list

/-- Without a repeated key, the order that a list is given in does not matter. -/
theorem sortBy_eq_of_perm {list list' : List α} (hnodup : (list.map key).Nodup)
    (h : list.Perm list') : c.sortBy key list = c.sortBy key list' := by
  have hperm : (c.sortBy key list).Perm (c.sortBy key list') :=
    ((c.sortBy_perm key list).trans h).trans (c.sortBy_perm key list').symm
  refine hperm.eq_of_pairwise ?_ (c.sortBy_pairwise key list) (c.sortBy_pairwise key list')
  intro a b ha hb hab hba
  have hkeys := c.le_antisymm (key a) (key b) hab hba
  have ha' : a ∈ list := (c.sortBy_perm key list).mem_iff.mp ha
  have hb' : b ∈ list := h.mem_iff.mpr ((c.sortBy_perm key list').mem_iff.mp hb)
  exact List.inj_on_of_nodup_map hnodup ha' hb' hkeys

theorem sortBy_strict {list : List α} (hnodup : (list.map key).Nodup) :
    (c.sortBy key list).Pairwise fun a b => c.compare (key a) (key b) < 0 := by
  have hkeys : ((c.sortBy key list).map key).Nodup :=
    ((c.sortBy_perm key list).map key).nodup_iff.mpr hnodup
  have hdistinct : (c.sortBy key list).Pairwise fun a b => key a ≠ key b :=
    List.pairwise_map.mp hkeys
  refine (hdistinct.and (c.sortBy_pairwise key list)).imp ?_
  rintro a b ⟨hne, hle⟩
  exact ((c.le_iff (key a) (key b)).mp hle).resolve_left hne

/-- A strictly sorted list is what sorting gives of it. -/
theorem sortBy_of_strict {list : List α}
    (h : list.Pairwise fun a b => c.compare (key a) (key b) < 0) : c.sortBy key list = list :=
  (h.imp fun hlt => hlt.le).insertionSort_eq

theorem nodup_of_strict {list : List α}
    (h : list.Pairwise fun a b => c.compare (key a) (key b) < 0) : (list.map key).Nodup := by
  refine List.pairwise_map.mpr (h.imp ?_)
  intro a b hlt heq
  have hzero := (c.eq_zero (key a) (key b)).mpr heq
  omega

/-! ## Neighbours -/

/-- Every value of a list, with the one after it. -/
def neighbours (list : List α) : List (α × α) := list.zip list.tail

theorem neighbours_cons (a b : α) (list : List α) :
    neighbours (a :: b :: list) = (a, b) :: neighbours (b :: list) := rfl

/-- A transitive relation holds of all pairs when it holds of neighbours. -/
theorem pairwise_iff_neighbours {r : α → α → Prop} (htrans : ∀ a b d, r a b → r b d → r a d)
    {list : List α} : list.Pairwise r ↔ ∀ pair ∈ neighbours list, r pair.1 pair.2 := by
  induction list with
  | nil => simp [neighbours]
  | cons a list ih =>
    cases list with
    | nil => simp [neighbours]
    | cons b list =>
      rw [neighbours_cons, List.forall_mem_cons, ← ih]
      constructor
      · intro h
        exact ⟨(List.pairwise_cons.mp h).1 b (List.mem_cons_self ..), h.tail⟩
      · rintro ⟨hab, hrest⟩
        refine List.pairwise_cons.mpr ⟨?_, hrest⟩
        intro d hd
        rcases List.mem_cons.mp hd with rfl | hd
        · exact hab
        · exact htrans a b d hab ((List.pairwise_cons.mp hrest).1 d hd)

/-- A sorted list repeats no key exactly when no neighbours have the same key. -/
theorem nodup_iff_neighbours {list : List α}
    (h : list.Pairwise fun a b => c.compare (key a) (key b) ≤ 0) :
    (list.map key).Nodup ↔ ∀ pair ∈ neighbours list, key pair.1 ≠ key pair.2 := by
  have htrans : ∀ a b d, c.compare (key a) (key b) < 0 → c.compare (key b) (key d) < 0 →
      c.compare (key a) (key d) < 0 := fun a b d => c.trans (key a) (key b) (key d)
  have htransLe : ∀ a b d, c.compare (key a) (key b) ≤ 0 → c.compare (key b) (key d) ≤ 0 →
      c.compare (key a) (key d) ≤ 0 := fun a b d => c.le_trans (key a) (key b) (key d)
  constructor
  · intro hnodup
    have hsorted := c.sortBy_strict key hnodup
    have hsame : c.sortBy key list = list := h.insertionSort_eq
    rw [hsame] at hsorted
    intro pair hpair heq
    have hlt := (pairwise_iff_neighbours htrans).mp hsorted pair hpair
    have hzero := (c.eq_zero _ _).mpr heq
    omega
  · intro hdistinct
    refine c.nodup_of_strict key ((pairwise_iff_neighbours htrans).mpr ?_)
    intro pair hpair
    have hle := (pairwise_iff_neighbours htransLe).mp h pair hpair
    exact ((c.le_iff _ _).mp hle).resolve_left (hdistinct pair hpair)

end KeyComparison

end Wire
