import IkaSdk.Lib.Throwing

/-! One program under two choices of its operations' answers: where the two come
to the same outcome unless one of them throws an error of a given kind. -/

namespace Interaction.Eff

variable {I : Interface} {ε α β : Type} {N : ε → Prop}

/-- The same outcome, or on one side an error of the kind `N`. -/
def SameUnless (N : ε → Prop) (first second : Option (Except ε α)) : Prop :=
  first = second ∨ ∃ e, N e ∧ (first = some (.error e) ∨ second = some (.error e))

theorem SameUnless.refl (outcome : Option (Except ε α)) : SameUnless N outcome outcome := .inl rfl

theorem SameUnless.symm {first second : Option (Except ε α)} (h : SameUnless N first second) :
    SameUnless N second first := by
  rcases h with rfl | ⟨e, he, hfirst | hsecond⟩
  · exact .refl _
  · exact .inr ⟨e, he, .inr hfirst⟩
  · exact .inr ⟨e, he, .inl hsecond⟩

/-- Two values that may differ only by an error are the same. -/
theorem SameUnless.ok {first second : Option (Except ε α)} {a b : α}
    (h : SameUnless N first second) (ha : first = some (.ok a)) (hb : second = some (.ok b)) :
    a = b := by
  rcases h with heq | ⟨e, -, herr | herr⟩
  · rw [ha, hb] at heq
    cases heq
    rfl
  · rw [ha] at herr
    cases herr
  · rw [hb] at herr
    cases herr

variable {answer answer' : ∀ op, I.Ans op}

theorem sameUnless_bind {p : Eff I ε α} {f : α → Eff I ε β}
    (hp : SameUnless N (eval answer p) (eval answer' p))
    (hf : ∀ a, SameUnless N (eval answer (f a)) (eval answer' (f a))) :
    SameUnless N (eval answer (p >>= f)) (eval answer' (p >>= f)) := by
  rw [eval_bind, eval_bind]
  rcases hp with heq | ⟨e, he, herr | herr⟩
  · rw [heq]
    rcases eval answer' p with _ | e | a
    · exact .refl _
    · exact .refl _
    · exact hf a
  · rw [herr]
    exact .inr ⟨e, he, .inl rfl⟩
  · rw [herr]
    exact .inr ⟨e, he, .inr rfl⟩

theorem sameUnless_lift_bind_ok {x : Except ε α} {f : α → Eff I ε β}
    (hf : ∀ a, x = .ok a → SameUnless N (eval answer (f a)) (eval answer' (f a))) :
    SameUnless N (eval answer ((liftM x : Eff I ε α) >>= f))
      (eval answer' ((liftM x : Eff I ε α) >>= f)) := by
  cases x with
  | error e => exact .refl _
  | ok a => exact hf a rfl

theorem sameUnless_lift_bind {x : Except ε α} {f : α → Eff I ε β}
    (hf : ∀ a, SameUnless N (eval answer (f a)) (eval answer' (f a))) :
    SameUnless N (eval answer ((liftM x : Eff I ε α) >>= f))
      (eval answer' ((liftM x : Eff I ε α) >>= f)) :=
  sameUnless_lift_bind_ok fun a _ => hf a

theorem eval_tryCatch (answer : ∀ op, I.Ans op) (p : Eff I ε α) (h : ε → Eff I ε α) :
    eval answer (tryCatch p h) = (eval answer p).bind fun
      | .ok a => some (.ok a)
      | .error e => eval answer (h e) := by
  rw [eval, show (tryCatch p h).run = p.run >>= fun
    | .ok a => Prog.pure (.ok a)
    | .error e => (h e).run from rfl, Prog.eval_bind]
  congr 1
  funext r
  cases r <;> rfl

/-- A `try` whose handler throws the errors of the kind on. -/
theorem sameUnless_tryCatch {p : Eff I ε α} {h : ε → Eff I ε α}
    (hp : SameUnless N (eval answer p) (eval answer' p))
    (hthrow : ∀ e, N e → h e = throw e)
    (hh : ∀ e, SameUnless N (eval answer (h e)) (eval answer' (h e))) :
    SameUnless N (eval answer (tryCatch p h)) (eval answer' (tryCatch p h)) := by
  rw [eval_tryCatch, eval_tryCatch]
  rcases hp with heq | ⟨e, he, herr | herr⟩
  · rw [heq]
    rcases eval answer' p with _ | e | a
    · exact .refl _
    · exact hh e
    · exact .refl _
  · refine .inr ⟨e, he, .inl ?_⟩
    rw [herr, Option.bind_some]
    exact (congrArg (eval answer) (hthrow e he)).trans (eval_throw answer e)
  · refine .inr ⟨e, he, .inr ?_⟩
    rw [herr, Option.bind_some]
    exact (congrArg (eval answer') (hthrow e he)).trans (eval_throw answer' e)

end Interaction.Eff
