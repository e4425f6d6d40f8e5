import Mathlib.Computability.DFA
import Mathlib.Data.List.Infix

/-! What a text made of others may quote. A machine that looks for a passage tells it across
the seams, and a sign that the passage does not have splits the search. The first of a text's
places to match is found from the front. -/

namespace Texts

variable {α σ : Type}

/-! ## Seams -/

/-- A passage without the sign stands on one side of it. -/
theorem infix_of_split {part before after : List α} {sign : α} (hsign : sign ∉ part)
    (h : part <:+: before ++ sign :: after) : part <:+: before ∨ part <:+: after := by
  obtain ⟨front, back, heq⟩ := h
  rw [List.append_assoc, List.append_eq_append_iff] at heq
  rcases heq with ⟨rest, rfl, hrest⟩ | ⟨rest, rfl, hrest⟩
  · rcases List.append_eq_append_iff.mp hrest with ⟨more, rfl, -⟩ | ⟨more, rfl, hmore⟩
    · exact .inl ⟨front, more, by simp⟩
    · cases more with
      | nil => exact .inl ⟨front, [], by simp⟩
      | cons first more =>
        -- The sign would be of the passage.
        obtain rfl := (List.cons.inj hmore).1
        exact absurd (by simp) hsign
  · cases rest with
    | nil =>
      refine .inr ?_
      cases part with
      | nil => exact List.nil_infix
      | cons first part =>
        obtain rfl := (List.cons.inj hrest).1
        exact absurd (by simp) hsign
    | cons first rest =>
      refine .inr ⟨rest, back, ?_⟩
      rw [List.append_assoc]
      exact (List.cons.inj hrest).2.symm

/-- A passage that begins otherwise stands after the sign. -/
theorem infix_of_cons {part after : List α} {first sign : α} (hfirst : sign ≠ first)
    (h : first :: part <:+: sign :: after) : first :: part <:+: after := by
  rcases List.infix_cons_iff.mp h with hprefix | hafter
  · exact absurd (List.cons_prefix_cons.mp hprefix).1.symm hfirst
  · exact hafter

/-! ## Machines -/

section Machines

variable (M : DFA α σ)

/-- The machine is at its start again behind the text. -/
def Passes (text : List α) : Prop := M.evalFrom M.start text = M.start

variable {M}

theorem Passes.append {text text' : List α} (h : Passes M text) (h' : Passes M text') :
    Passes M (text ++ text') := by
  unfold Passes at *
  rw [M.evalFrom_of_append, h, h']

theorem passes_of_steps {text : List α} (h : ∀ a ∈ text, M.step M.start a = M.start) :
    Passes M text := by
  induction text with
  | nil => rfl
  | cons a text ih =>
    have hrest := ih fun b hb => h b (List.mem_cons_of_mem a hb)
    unfold Passes at *
    rw [M.evalFrom_cons, h a List.mem_cons_self, hrest]

/-- A text that the machine passes does not hold what the machine finds. -/
theorem Passes.not_infix {part text : List α} (h : Passes M text) (hstart : M.start ∉ M.accept)
    (hfinds : ∀ s, M.evalFrom s part ∈ M.accept)
    (hstays : ∀ s ∈ M.accept, ∀ a, M.step s a ∈ M.accept) : ¬part <:+: text := by
  rintro ⟨front, back, rfl⟩
  have hkeeps : ∀ (rest : List α) s, s ∈ M.accept → M.evalFrom s rest ∈ M.accept := by
    intro rest
    induction rest with
    | nil => exact fun s hs => hs
    | cons a rest ih => exact fun s hs => ih _ (hstays s hs a)
  apply hstart
  rw [← (h : M.evalFrom M.start _ = M.start), M.evalFrom_of_append, M.evalFrom_of_append]
  exact hkeeps back _ (hfinds _)

end Machines

/-! ## First matches -/

section First

variable {β : Type} {M : List α → β → Prop}

/-- The first place of the text where something matches, and what matches there. -/
def Leftmost (M : List α → β → Prop) (text : List α) (b : β) : Prop :=
  ∃ before rest, text = before ++ rest ∧ M rest b ∧
    ∀ front back, text = front ++ back → front.length < before.length → ∀ b', ¬M back b'

theorem leftmost_nil_iff {b : β} : Leftmost M [] b ↔ M [] b := by
  constructor
  · rintro ⟨before, rest, hsplit, hmatch, -⟩
    obtain ⟨rfl, rfl⟩ := List.append_eq_nil_iff.mp hsplit.symm
    exact hmatch
  · exact fun hmatch => ⟨[], [], rfl, hmatch, fun _ _ _ hlt => (Nat.not_lt_zero _ hlt).elim⟩

theorem leftmost_cons_iff {a : α} {text : List α} {b : β} :
    Leftmost M (a :: text) b ↔
      M (a :: text) b ∨ (∀ b', ¬M (a :: text) b') ∧ Leftmost M text b := by
  constructor
  · rintro ⟨before, rest, hsplit, hmatch, hnone⟩
    cases before with
    | nil => exact .inl (hsplit ▸ hmatch)
    | cons first before =>
      obtain ⟨rfl, rfl⟩ := List.cons.inj hsplit
      refine .inr ⟨hnone [] _ rfl (by simp), before, rest, rfl, hmatch, ?_⟩
      intro front back hback hlt
      exact hnone (a :: front) back (congrArg (a :: ·) hback) (by simpa using hlt)
  · rintro (hmatch | ⟨hnone, before, rest, rfl, hmatch, hrest⟩)
    · exact ⟨[], _, rfl, hmatch, fun _ _ _ hlt => (Nat.not_lt_zero _ hlt).elim⟩
    · refine ⟨a :: before, rest, rfl, hmatch, ?_⟩
      intro front back hback hlt
      cases front with
      | nil =>
        obtain rfl : a :: (before ++ rest) = back := hback
        exact hnone
      | cons first front =>
        exact hrest front back (List.cons.inj hback).2 (by simpa using hlt)

end First

end Texts
