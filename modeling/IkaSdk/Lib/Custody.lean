import Mathlib.Data.List.Nodup
import Mathlib.Logic.Function.Basic
import Mathlib.Logic.Relation

/-! Who holds each thing made so far. A holder holds one thing at most. A thing is made
by a holder, may pass to another one, and is let go in the end. -/

namespace Custody

/-- The things made so far are numbered in the order in which they were made. -/
@[ext]
structure Books (κ : Type) where
  made : ℕ
  holds : κ → Option ℕ
  released : List ℕ

section Moves

variable {κ : Type} [DecidableEq κ]

namespace Books

def make (b : Books κ) (k : κ) : Books κ :=
  { b with made := b.made + 1, holds := Function.update b.holds k (some b.made) }

def pass (b : Books κ) (k k' : κ) : Books κ :=
  { b with holds := Function.update (Function.update b.holds k none) k' (b.holds k) }

def release (b : Books κ) (k : κ) : Books κ where
  made := b.made
  holds := Function.update b.holds k none
  released := b.released ++ (b.holds k).toList

end Books

/-- One thing made, passed on or let go. -/
inductive Move (b : Books κ) : Books κ → Prop
  | make {k : κ} : b.holds k = none → Move b (b.make k)
  | pass {k k' : κ} : b.holds k' = none → Move b (b.pass k k')
  | release {k : κ} : Move b (b.release k)

/-- Each thing is with one holder, or it was let go once. -/
structure Balanced (b : Books κ) : Prop where
  held_made : ∀ {k r}, b.holds k = some r → r < b.made
  released_made : ∀ {r}, r ∈ b.released → r < b.made
  one_holder : ∀ {k k' r}, b.holds k = some r → b.holds k' = some r → k = k'
  released_once : b.released.Nodup
  held_not_released : ∀ {k r}, b.holds k = some r → r ∉ b.released
  kept : ∀ {r}, r < b.made → r ∈ b.released ∨ ∃ k, b.holds k = some r

variable {b b' : Books κ}

theorem Move.released_prefix (h : Move b b') : b.released <+: b'.released := by
  cases h with
  | make _ => exact List.prefix_rfl
  | pass _ => exact List.prefix_rfl
  | release => exact List.prefix_append ..

theorem Books.holds_make {k j : κ} {r : ℕ} (h : (b.make k).holds j = some r) :
    (j = k ∧ r = b.made) ∨ b.holds j = some r := by
  by_cases hjk : j = k
  · subst hjk
    left
    have hr : some b.made = some r := by simpa [make] using h
    exact ⟨rfl, (Option.some.inj hr).symm⟩
  · right
    simpa [make, Function.update_of_ne hjk] using h

/-- What a holder has after a pass it had before, or it has it from the one that passed. -/
theorem Books.holds_pass {k k' j : κ} {r : ℕ} (hfree : b.holds k' = none)
    (h : (b.pass k k').holds j = some r) :
    (j = k' ∧ b.holds k = some r) ∨ (j ≠ k' ∧ j ≠ k ∧ b.holds j = some r) := by
  by_cases hjk' : j = k'
  · subst hjk'
    left
    have hr : b.holds k = some r := by simpa [pass] using h
    exact ⟨rfl, hr⟩
  · right
    by_cases hjk : j = k
    · subst hjk
      simp [pass, Function.update_of_ne hjk'] at h
    · refine ⟨hjk', hjk, ?_⟩
      simpa [pass, Function.update_of_ne hjk', Function.update_of_ne hjk] using h

theorem Books.holds_release {k j : κ} {r : ℕ} (h : (b.release k).holds j = some r) :
    j ≠ k ∧ b.holds j = some r := by
  by_cases hjk : j = k
  · subst hjk
    simp [release] at h
  · exact ⟨hjk, by simpa [release, Function.update_of_ne hjk] using h⟩

section Others

variable {j k k' : κ}

theorem Books.make_holds_of_ne (h : j ≠ k) : (b.make k).holds j = b.holds j :=
  Function.update_of_ne h ..

theorem Books.pass_holds_of_ne (h : j ≠ k) (h' : j ≠ k') :
    (b.pass k k').holds j = b.holds j :=
  (Function.update_of_ne h' ..).trans (Function.update_of_ne h ..)

theorem Books.release_holds_of_ne (h : j ≠ k) : (b.release k).holds j = b.holds j :=
  Function.update_of_ne h ..

/-- What was held is let go. -/
theorem Books.mem_release {r : ℕ} (h : b.holds k = some r) : r ∈ (b.release k).released :=
  List.mem_append_right _ (Option.mem_toList.mpr h)

end Others

theorem Balanced.make (h : Balanced b) {k : κ} (hfree : b.holds k = none) :
    Balanced (b.make k) where
  held_made hheld := by
    show _ < b.made + 1
    rcases Books.holds_make hheld with ⟨-, rfl⟩ | hheld
    · exact Nat.lt_succ_self _
    · exact Nat.lt_succ_of_lt (h.held_made hheld)
  released_made hmem := Nat.lt_succ_of_lt (h.released_made hmem)
  one_holder hheld hheld' := by
    rcases Books.holds_make hheld with ⟨rfl, rfl⟩ | hbefore <;>
      rcases Books.holds_make hheld' with ⟨rfl, hr⟩ | hbefore'
    · rfl
    · exact absurd (h.held_made hbefore') (Nat.lt_irrefl _)
    · exact absurd (hr ▸ h.held_made hbefore) (Nat.lt_irrefl _)
    · exact h.one_holder hbefore hbefore'
  released_once := h.released_once
  held_not_released hheld := by
    rcases Books.holds_make hheld with ⟨-, rfl⟩ | hheld
    · exact fun hmem => absurd (h.released_made hmem) (Nat.lt_irrefl _)
    · exact h.held_not_released hheld
  kept {r} hmade := by
    rcases Nat.lt_succ_iff_lt_or_eq.mp hmade with hbefore | rfl
    · rcases h.kept hbefore with hreleased | ⟨j, hheld⟩
      · exact .inl hreleased
      · have hjk : j ≠ k := by
          rintro rfl
          rw [hfree] at hheld
          cases hheld
        exact .inr ⟨j, by simpa [Books.make, Function.update_of_ne hjk] using hheld⟩
    · exact .inr ⟨k, by simp [Books.make]⟩

theorem Balanced.pass (h : Balanced b) {k k' : κ} (hfree : b.holds k' = none) :
    Balanced (b.pass k k') where
  held_made hheld := by
    rcases Books.holds_pass hfree hheld with ⟨-, hheld⟩ | ⟨-, -, hheld⟩ <;>
      exact h.held_made hheld
  released_made := h.released_made
  one_holder hheld hheld' := by
    rcases Books.holds_pass hfree hheld with ⟨rfl, hgiven⟩ | ⟨-, hother, hbefore⟩ <;>
      rcases Books.holds_pass hfree hheld' with ⟨rfl, hgiven'⟩ | ⟨-, hother', hbefore'⟩
    · rfl
    · exact absurd (h.one_holder hbefore' hgiven) hother'
    · exact absurd (h.one_holder hbefore hgiven') hother
    · exact h.one_holder hbefore hbefore'
  released_once := h.released_once
  held_not_released hheld := by
    rcases Books.holds_pass hfree hheld with ⟨-, hheld⟩ | ⟨-, -, hheld⟩ <;>
      exact h.held_not_released hheld
  kept {r} hmade := by
    rcases h.kept hmade with hreleased | ⟨j, hheld⟩
    · exact .inl hreleased
    · right
      by_cases hjk : j = k
      · subst hjk
        exact ⟨k', by simpa [Books.pass] using hheld⟩
      · have hjk' : j ≠ k' := by
          rintro rfl
          rw [hfree] at hheld
          cases hheld
        exact ⟨j, by
          simpa [Books.pass, Function.update_of_ne hjk, Function.update_of_ne hjk'] using hheld⟩

theorem Balanced.release (h : Balanced b) (k : κ) : Balanced (b.release k) where
  held_made hheld := h.held_made (Books.holds_release hheld).2
  released_made {r} hmem := by
    rcases List.mem_append.mp hmem with hbefore | hnow
    · exact h.released_made hbefore
    · exact h.held_made (Option.mem_toList.mp hnow)
  one_holder hheld hheld' :=
    h.one_holder (Books.holds_release hheld).2 (Books.holds_release hheld').2
  released_once := by
    refine List.nodup_append'.mpr ⟨h.released_once, ?_, ?_⟩
    · cases b.holds k <;> simp
    · intro r hbefore hnow
      exact h.held_not_released (Option.mem_toList.mp hnow) hbefore
  held_not_released {j r} hheld hmem := by
    obtain ⟨hjk, hheld⟩ := Books.holds_release hheld
    rcases List.mem_append.mp hmem with hbefore | hnow
    · exact h.held_not_released hheld hbefore
    · exact hjk (h.one_holder hheld (Option.mem_toList.mp hnow))
  kept {r} hmade := by
    rcases h.kept hmade with hreleased | ⟨j, hheld⟩
    · exact .inl (List.mem_append_left _ hreleased)
    · by_cases hjk : j = k
      · subst hjk
        exact .inl (List.mem_append_right _ (Option.mem_toList.mpr hheld))
      · exact .inr ⟨j, by simpa [Books.release, Function.update_of_ne hjk] using hheld⟩

theorem Balanced.move (h : Balanced b) (hmove : Move b b') : Balanced b' := by
  cases hmove with
  | make hfree => exact h.make hfree
  | pass hfree => exact h.pass hfree
  | release => exact h.release _

/-- What any number of moves leaves. -/
abbrev Moves : Books κ → Books κ → Prop := Relation.ReflTransGen Move

theorem Balanced.moves (h : Balanced b) (hmoves : Moves b b') : Balanced b' := by
  induction hmoves with
  | refl => exact h
  | tail _ hmove ih => exact ih.move hmove

/-- A thing that was let go stays so. -/
theorem Moves.released_prefix (h : Moves b b') : b.released <+: b'.released := by
  induction h with
  | refl => exact List.prefix_rfl
  | tail _ hmove ih => exact ih.trans hmove.released_prefix

omit [DecidableEq κ] in
theorem balanced_empty : Balanced (⟨0, fun _ => none, []⟩ : Books κ) where
  held_made hheld := by cases hheld
  released_made hmem := by cases hmem
  one_holder hheld := by cases hheld
  released_once := List.nodup_nil
  held_not_released hheld := by cases hheld
  kept hmade := absurd hmade (Nat.not_lt_zero _)

end Moves

end Custody
