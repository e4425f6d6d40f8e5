import IkaSdk.Lib.Beginnings

/-! A loop that runs an attempt again for as long as its error allows. The attempts of a run
are kept apart, so that what holds of one that another followed is said of it alone. -/

namespace Interaction.Eff

variable {I : Interface} {ε α : Type}

/-- Run the attempt until it returns, or until its error is not one to go on after. -/
def retry (again : ℕ → ε → Eff I ε Bool) (attempt : Eff I ε α) : ℕ → Eff I ε α
  | 0 => cut
  | left + 1 => tryCatch attempt fun e => do
    if ← again left e then retry again attempt left else throw e

/-- In the run, an attempt with these events threw this error, and another attempt followed. -/
inductive Followed (again : ℕ → ε → Eff I ε Bool) (attempt : Eff I ε α) :
    ℕ → List (Event I) → List (Event I) → ε → Prop
  | here {left : ℕ} {tr wait rest : List (Event I)} {e : ε} :
      Throws attempt tr e → Gives (again left e) wait true →
      Begins (retry again attempt left) rest →
      Followed again attempt (left + 1) (tr ++ wait ++ rest) tr e
  | later {left : ℕ} {tr wait rest tr' : List (Event I)} {e e' : ε} :
      Throws attempt tr e → Gives (again left e) wait true →
      Followed again attempt left rest tr' e' →
      Followed again attempt (left + 1) (tr ++ wait ++ rest) tr' e'

variable {again : ℕ → ε → Eff I ε Bool} {attempt : Eff I ε α} {left : ℕ} {tr tr' : List (Event I)}
  {e : ε}

theorem always_retry {Φ : List (Event I) → Prop} (hΦ : Appendable Φ) (hattempt : Always Φ attempt)
    (hagain : ∀ left e, Always Φ (again left e)) (left : ℕ) :
    Always Φ (retry again attempt left) := by
  induction left with
  | zero => exact always_cut hΦ
  | succ left ih =>
    refine always_tryCatch hΦ hattempt fun e => ?_
    refine always_bind hΦ (hagain left e) fun goesOn => ?_
    split_ifs
    · exact ih
    · exact always_throw hΦ e

/-- The loop throws what an attempt throws. -/
theorem throwsOnly_retry {S : ε → Prop} (hattempt : ThrowsOnly S attempt)
    (hagain : ∀ left e, ThrowsOnly S (again left e)) (left : ℕ) :
    ThrowsOnly S (retry again attempt left) := by
  induction left with
  | zero => exact throwsOnly_cut
  | succ left ih =>
    refine throwsOnly_tryCatch hattempt fun e he => ?_
    refine throwsOnly_bind (hagain left e) fun goesOn => ?_
    split_ifs
    · exact ih
    · exact throwsOnly_throw he

/-- An attempt that another followed threw an error to go on after. -/
theorem Followed.throws (h : Followed again attempt left tr tr' e) :
    Throws attempt tr' e ∧ ∃ before wait, Gives (again before e) wait true := by
  induction h with
  | here hthrows hask _ => exact ⟨hthrows, _, _, hask⟩
  | later _ _ _ ih => exact ih

end Interaction.Eff
