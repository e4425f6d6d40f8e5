import IkaSdk.Lib.Throwing

/-! Beginnings of runs: what holds of the events of a program however far it
has come, whether or not it ever returns. -/

namespace Interaction

variable {I J : Interface} {ε α β : Type}

/-- A property of lists of events that two lists one after the other inherit. -/
structure Appendable (Φ : List (Event I) → Prop) : Prop where
  nil : Φ []
  append : ∀ {tr tr'}, Φ tr → Φ tr' → Φ (tr ++ tr')

namespace Prog

/-- Whatever the answers are, the events so far have the property. -/
def Always (Φ : List (Event I) → Prop) (p : Prog I β) : Prop := ∀ tr q, Run p tr q → Φ tr

theorem always_pure {Φ : List (Event I) → Prop} (hΦ : Appendable Φ) (b : β) :
    Always Φ (pure b : Prog I β) := by
  intro tr q h
  obtain ⟨rfl, -⟩ := run_pure_iff.mp h
  exact hΦ.nil

theorem always_perform {Φ : List (Event I) → Prop} (hΦ : Appendable Φ) {op : I.Op}
    (h : ∀ a, Φ [⟨op, a⟩]) : Always Φ (perform op : Prog I (I.Ans op)) := by
  intro tr q hrun
  cases hrun with
  | refl => exact hΦ.nil
  | @call _ _ a _ _ hrest =>
    obtain ⟨rfl, -⟩ := run_pure_iff.mp hrest
    exact h a

theorem always_bind {Φ : List (Event I) → Prop} (hΦ : Appendable Φ) {γ : Type} {p : Prog I β}
    {f : β → Prog I γ} (hp : Always Φ p) (hf : ∀ b, Always Φ (f b)) : Always Φ (p >>= f) := by
  intro tr q hrun
  rcases run_bind_iff.mp hrun with ⟨p', hfirst, -⟩ | ⟨tr₁, tr₂, b, rfl, hfirst, hrest⟩
  · exact hp tr p' hfirst
  · exact hΦ.append (hp tr₁ _ hfirst) (hf b tr₂ q hrest)

theorem always_interp {Φ : List (Event J) → Prop} (hΦ : Appendable Φ)
    {h : ∀ op, Prog J (I.Ans op)} (hh : ∀ op, Always Φ (h op)) (p : Prog I β) :
    Always Φ (p.interp h) := by
  induction p with
  | pure b => exact always_pure hΦ b
  | cut =>
    intro tr q hrun
    obtain ⟨rfl, -⟩ := run_cut_iff.mp hrun
    exact hΦ.nil
  | call op k ih => exact always_bind hΦ (hh op) fun a => ih a

end Prog

namespace Eff

/-- The events are the beginning of a run of the program. -/
def Begins (p : Eff I ε α) (tr : List (Event I)) : Prop := ∃ q, Prog.Run p.run tr q

theorem Gives.begins {p : Eff I ε α} {tr : List (Event I)} {a : α} (h : Gives p tr a) :
    Begins p tr := ⟨_, h⟩

theorem Throws.begins {p : Eff I ε α} {tr : List (Event I)} {e : ε} (h : Throws p tr e) :
    Begins p tr := ⟨_, h⟩

theorem Ends.begins {p : Eff I ε α} {tr : List (Event I)} {r : Except ε α} (h : Ends p tr r) :
    Begins p tr := ⟨_, h⟩

/-- The front of a beginning is one. -/
theorem begins_of_append {p : Eff I ε α} {tr tr' : List (Event I)} (h : Begins p (tr ++ tr')) :
    Begins p tr := by
  obtain ⟨r, hrun⟩ := h
  obtain ⟨q, hfront, -⟩ := Prog.run_of_append hrun
  exact ⟨q, hfront⟩

@[simp] theorem begins_pure_iff {a : α} {tr : List (Event I)} :
    Begins (pure a : Eff I ε α) tr ↔ tr = [] := by
  simp [Begins, Prog.run_pure_iff]

@[simp] theorem begins_throw_iff {e : ε} {tr : List (Event I)} :
    Begins (throw e : Eff I ε α) tr ↔ tr = [] := by
  simp [Begins, Prog.run_pure_iff]

@[simp] theorem begins_lift_iff {x : Except ε α} {tr : List (Event I)} :
    Begins (liftM x : Eff I ε α) tr ↔ tr = [] := by
  simp [Begins, Prog.run_pure_iff]

@[simp] theorem begins_cut_iff {tr : List (Event I)} :
    Begins (cut : Eff I ε α) tr ↔ tr = [] := by
  simp [Begins, cut, Prog.run_cut_iff, ExceptT.run_mk]

@[simp] theorem begins_liftOp_iff {op : I.Op} {tr : List (Event I)} :
    Begins (liftOp op : Eff I ε _) tr ↔ tr = [] ∨ ∃ a, tr = [⟨op, a⟩] := by
  constructor
  · rintro ⟨q, hrun⟩
    cases hrun with
    | refl => exact .inl rfl
    | call hrest =>
      obtain ⟨rfl, -⟩ := Prog.run_pure_iff.mp hrest
      exact .inr ⟨_, rfl⟩
  · rintro (rfl | ⟨a, rfl⟩)
    · exact ⟨_, .refl _⟩
    · exact ⟨_, .call (.refl _)⟩

theorem begins_bind {p : Eff I ε α} {f : α → Eff I ε β} {tr : List (Event I)}
    (h : Begins (p >>= f) tr) : Begins p tr ∨
      ∃ tr₁ tr₂ a, tr = tr₁ ++ tr₂ ∧ Gives p tr₁ a ∧ Begins (f a) tr₂ := by
  obtain ⟨q, hrun⟩ := h
  rw [run_bind] at hrun
  rcases Prog.run_bind_iff.mp hrun with ⟨p', hp, -⟩ | ⟨tr₁, tr₂, r, rfl, hp, hf⟩
  · exact .inl ⟨p', hp⟩
  · cases r with
    | ok a => exact .inr ⟨tr₁, tr₂, a, rfl, hp, q, hf⟩
    | error e =>
      obtain ⟨rfl, -⟩ := Prog.run_pure_iff.mp hf
      rw [List.append_nil]
      exact .inl ⟨_, hp⟩

theorem ends_liftOp_bind {op : I.Op} {f : I.Ans op → Eff I ε β} {tr : List (Event I)}
    {r : Except ε β} (h : Ends (liftOp op >>= f) tr r) :
    ∃ a rest, tr = ⟨op, a⟩ :: rest ∧ Ends (f a) rest r := by
  rcases h.bind_cases with ⟨e, -, hthrows⟩ | ⟨tr₁, rest, a, rfl, hgives, hrest⟩
  · exact (throws_liftOp_iff.mp hthrows).elim
  · obtain rfl := gives_liftOp_iff.mp hgives
    exact ⟨a, rest, rfl, hrest⟩

theorem ends_lift_bind {x : Except ε α} {f : α → Eff I ε β} {tr : List (Event I)}
    {r : Except ε β} (h : Ends ((liftM x : Eff I ε α) >>= f) tr r) :
    (∃ e, x = .error e ∧ tr = [] ∧ r = .error e) ∨ ∃ a, x = .ok a ∧ Ends (f a) tr r := by
  rcases h.bind_cases with ⟨e, rfl, hthrows⟩ | ⟨tr₁, tr₂, a, rfl, hgives, hrest⟩
  · obtain ⟨rfl, rfl⟩ := throws_lift_iff.mp hthrows
    exact .inl ⟨e, rfl, rfl, rfl⟩
  · obtain ⟨rfl, rfl⟩ := gives_lift_iff.mp hgives
    exact .inr ⟨a, rfl, hrest⟩

theorem begins_tryCatch {p : Eff I ε α} {h : ε → Eff I ε α} {tr : List (Event I)}
    (hb : Begins (tryCatch p h) tr) : Begins p tr ∨
      ∃ tr₁ tr₂ e, tr = tr₁ ++ tr₂ ∧ Throws p tr₁ e ∧ Begins (h e) tr₂ := by
  obtain ⟨q, hrun⟩ := hb
  rcases Prog.run_bind_iff.mp hrun with ⟨p', hp, -⟩ | ⟨tr₁, tr₂, r, rfl, hp, hf⟩
  · exact .inl ⟨p', hp⟩
  · cases r with
    | ok a =>
      obtain ⟨rfl, -⟩ := Prog.run_pure_iff.mp hf
      rw [List.append_nil]
      exact .inl ⟨_, hp⟩
    | error e => exact .inr ⟨tr₁, tr₂, e, rfl, hp, q, hf⟩

/-! ## Properties of every beginning -/

def Always (Φ : List (Event I) → Prop) (p : Eff I ε α) : Prop := ∀ tr, Begins p tr → Φ tr

section Rules

variable {Φ : List (Event I) → Prop} (hΦ : Appendable Φ)

include hΦ

theorem always_pure (a : α) : Always Φ (pure a : Eff I ε α) := by
  intro tr h
  rw [begins_pure_iff.mp h]
  exact hΦ.nil

theorem always_throw (e : ε) : Always Φ (throw e : Eff I ε α) := by
  intro tr h
  rw [begins_throw_iff.mp h]
  exact hΦ.nil

theorem always_lift (x : Except ε α) : Always Φ (liftM x : Eff I ε α) := by
  intro tr h
  rw [begins_lift_iff.mp h]
  exact hΦ.nil

theorem always_cut : Always Φ (cut : Eff I ε α) := by
  intro tr h
  rw [begins_cut_iff.mp h]
  exact hΦ.nil

theorem always_liftOp {op : I.Op} (h : ∀ a, Φ [⟨op, a⟩]) :
    Always Φ (liftOp op : Eff I ε _) := by
  intro tr hb
  rcases begins_liftOp_iff.mp hb with rfl | ⟨a, rfl⟩
  · exact hΦ.nil
  · exact h a

theorem always_bind {p : Eff I ε α} {f : α → Eff I ε β} (hp : Always Φ p)
    (hf : ∀ a, Always Φ (f a)) : Always Φ (p >>= f) := by
  intro tr h
  rcases begins_bind h with hfirst | ⟨tr₁, tr₂, a, rfl, hfirst, hrest⟩
  · exact hp tr hfirst
  · exact hΦ.append (hp tr₁ hfirst.begins) (hf a tr₂ hrest)

theorem always_tryCatch {p : Eff I ε α} {h : ε → Eff I ε α} (hp : Always Φ p)
    (hh : ∀ e, Always Φ (h e)) : Always Φ (tryCatch p h) := by
  intro tr hb
  rcases begins_tryCatch hb with hfirst | ⟨tr₁, tr₂, e, rfl, hfirst, hrest⟩
  · exact hp tr hfirst
  · exact hΦ.append (hp tr₁ hfirst.begins) (hh e tr₂ hrest)

end Rules

theorem always_attempt {Φ : List (Event I) → Prop} {p : Eff I ε α} (hp : Always Φ p) :
    Always Φ (attempt p) := by
  rintro tr ⟨q, hrun⟩
  rcases Prog.run_bind_iff.mp hrun with ⟨p', hfirst, -⟩ | ⟨tr₁, tr₂, r, rfl, hfirst, hrest⟩
  · exact hp tr ⟨p', hfirst⟩
  · obtain ⟨rfl, -⟩ := Prog.run_pure_iff.mp hrest
    rw [List.append_nil]
    exact hp tr₁ ⟨_, hfirst⟩

/-! ## Which errors a program throws -/

def ThrowsOnly (S : ε → Prop) (p : Eff I ε α) : Prop := ∀ tr e, Throws p tr e → S e

section Errors

variable {S : ε → Prop}

theorem throwsOnly_pure (a : α) : ThrowsOnly S (pure a : Eff I ε α) :=
  fun _ _ h => (throws_pure_iff.mp h).elim

theorem throwsOnly_throw {e : ε} (h : S e) : ThrowsOnly S (throw e : Eff I ε α) := by
  intro tr e' ht
  obtain ⟨-, rfl⟩ := throws_throw_iff.mp ht
  exact h

theorem throwsOnly_lift {x : Except ε α} (h : ∀ e, x = .error e → S e) :
    ThrowsOnly S (liftM x : Eff I ε α) := fun _ e ht => h e (throws_lift_iff.mp ht).2

theorem throwsOnly_liftOp (op : I.Op) : ThrowsOnly S (liftOp op : Eff I ε _) :=
  fun _ _ h => (throws_liftOp_iff.mp h).elim

theorem throwsOnly_cut : ThrowsOnly S (cut : Eff I ε α) := by
  intro tr e h
  obtain ⟨-, heq⟩ := Prog.run_cut_iff.mp h
  cases heq

theorem throwsOnly_attempt (p : Eff I ε α) : ThrowsOnly S (attempt p) := by
  intro tr e h
  obtain ⟨tr₁, tr₂, r, rfl, -, hlast⟩ := Prog.returns_bind_iff.mp h
  cases (Prog.returns_pure_iff.mp hlast).2

theorem throwsOnly_bind {p : Eff I ε α} {f : α → Eff I ε β} (hp : ThrowsOnly S p)
    (hf : ∀ a, ThrowsOnly S (f a)) : ThrowsOnly S (p >>= f) := by
  intro tr e h
  rcases throws_bind_iff.mp h with hfirst | ⟨tr₁, tr₂, a, rfl, -, hrest⟩
  · exact hp tr e hfirst
  · exact hf a tr₂ e hrest

theorem throwsOnly_tryCatch {S' : ε → Prop} {p : Eff I ε α} {h : ε → Eff I ε α}
    (hp : ThrowsOnly S' p) (hh : ∀ e, S' e → ThrowsOnly S (h e)) :
    ThrowsOnly S (tryCatch p h) := by
  intro tr e ht
  obtain ⟨tr₁, tr₂, e', rfl, hfirst, hrest⟩ := throws_tryCatch_iff.mp ht
  exact hh e' (hp tr₁ e' hfirst) tr₂ e hrest

theorem ThrowsOnly.mono {S' : ε → Prop} {p : Eff I ε α} (hp : ThrowsOnly S p)
    (h : ∀ e, S e → S' e) : ThrowsOnly S' p := fun tr e ht => h e (hp tr e ht)

end Errors

end Eff

end Interaction
