import Mathlib.Data.List.Basic
import Mathlib.Data.List.Forall2
import Mathlib.Data.Set.Basic

/-! When a concatenation of parts can be cut back into its parts: leading tags
that form a prefix-free set, then parts of known width of which at most one is
of variable length. -/

namespace Wire

variable {α ι : Type*}

/-! ## Prefix-free tags -/

/-- No tag of the set starts another tag of the set. -/
def PrefixFree (s : Set ι) (tag : ι → List α) : Prop :=
  ∀ i ∈ s, ∀ j ∈ s, tag i <+: tag j → i = j

theorem PrefixFree.append_inj {s : Set ι} {tag : ι → List α} (h : PrefixFree s tag)
    {i j : ι} (hi : i ∈ s) (hj : j ∈ s) {xs ys : List α}
    (heq : tag i ++ xs = tag j ++ ys) : i = j ∧ xs = ys := by
  have hij : i = j := by
    have hpi : tag i <+: tag j ++ ys := heq ▸ List.prefix_append _ _
    rcases List.prefix_or_prefix_of_prefix hpi (List.prefix_append _ _) with hp | hp
    · exact h i hi j hj hp
    · exact (h j hj i hi hp).symm
  subst hij
  exact ⟨rfl, List.append_cancel_left heq⟩

/-! ## Parts of known width -/

inductive Width
  | fixed (n : ℕ)
  | variable
deriving DecidableEq, Repr

def Width.Fits : Width → List α → Prop
  | .fixed n, part => part.length = n
  | .variable, _ => True

abbrev FitAll (ws : List Width) (parts : List (List α)) : Prop :=
  List.Forall₂ Width.Fits ws parts

/-- Parts whose widths are all fixed have one total length. -/
theorem FitAll.flatten_length {ws : List Width} (hfixed : .variable ∉ ws)
    {ps qs : List (List α)} (hp : FitAll ws ps) (hq : FitAll ws qs) :
    ps.flatten.length = qs.flatten.length := by
  induction hp generalizing qs with
  | nil => cases hq; rfl
  | @cons w p ws ps hw _ ih =>
    cases hq with
    | cons hw' hq =>
      simp only [List.mem_cons, not_or] at hfixed
      cases w with
      | fixed n =>
        have hn := (show _ = n from hw).trans (show _ = n from hw').symm
        simp only [List.flatten_cons, List.length_append, hn, ih hfixed.2 hq]
      | «variable» => exact absurd rfl hfixed.1

/-- With one variable part at most, the concatenation gives the parts back. -/
theorem FitAll.flatten_inj {ws : List Width} (hone : ws.count .variable ≤ 1)
    {ps qs : List (List α)} (hp : FitAll ws ps) (hq : FitAll ws qs)
    (heq : ps.flatten = qs.flatten) : ps = qs := by
  induction hp generalizing qs with
  | nil => cases hq; rfl
  | @cons w p ws ps hw hp ih =>
    cases hq with
    | @cons _ q _ qs hw' hq =>
      have hlen : p.length = q.length := by
        cases w with
        | fixed n => exact (show _ = n from hw).trans (show _ = n from hw').symm
        | «variable» =>
          have hfixed : .variable ∉ ws := by
            rw [List.count_cons_self] at hone
            exact List.count_eq_zero.mp (by omega)
          have htail := FitAll.flatten_length hfixed hp hq
          have htotal := congrArg List.length heq
          simp only [List.flatten_cons, List.length_append] at htotal
          omega
      obtain ⟨rfl, htail⟩ := List.append_inj heq hlen
      rw [ih ((List.count_le_count_cons ..).trans hone) hq htail]

end Wire
