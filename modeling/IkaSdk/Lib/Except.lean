import Mathlib.Tactic.SplitIfs

/-! Inversion of a computation that may throw: what has to have returned for a
sequence, a guard or a fold to return. -/

namespace Wire

variable {ε α β : Type}

theorem bind_ok {x : Except ε α} {f : α → Except ε β} {b : β} (h : x >>= f = .ok b) :
    ∃ a, x = .ok a ∧ f a = .ok b := by
  cases x with
  | error e => cases h
  | ok a => exact ⟨a, rfl, h⟩

theorem bind_error {x : Except ε α} {f : α → Except ε β} {e : ε} (h : x >>= f = .error e) :
    x = .error e ∨ ∃ a, x = .ok a ∧ f a = .error e := by
  cases x with
  | error e' =>
    cases h
    exact .inl rfl
  | ok a => exact .inr ⟨a, rfl, h⟩

@[simp] theorem error_bind (e : ε) (f : α → Except ε β) :
    (.error e : Except ε α) >>= f = .error e :=
  rfl

@[simp] theorem ok_bind (a : α) (f : α → Except ε β) : (.ok a : Except ε α) >>= f = f a := rfl

theorem map_ok {x : Except ε α} {f : α → β} {b : β} (h : x.map f = .ok b) :
    ∃ a, x = .ok a ∧ f a = b := by
  cases x with
  | error e => cases h
  | ok a => exact ⟨a, rfl, by simpa [Except.map] using h⟩

theorem mapError_ok {ε' : Type} {x : Except ε α} {f : ε → ε'} {a : α} (h : x.mapError f = .ok a) :
    x = .ok a := by
  cases x with
  | error e => cases h
  | ok b => exact congrArg _ (Except.ok.inj h)

theorem ok_of_toOption {x : Except ε Unit} (h : x.toOption.isSome) : x = .ok () := by
  cases x with
  | error e => cases h
  | ok u => rfl

theorem ite_error_ok {c : Prop} [Decidable c] {e : ε} {x : Except ε α} {a : α}
    (h : (if c then .error e else x) = .ok a) : ¬c ∧ x = .ok a := by
  split_ifs at h with hc
  exact ⟨hc, h⟩

/-- Throw `e` unless the condition holds. -/
def ensure (p : Prop) [Decidable p] (e : ε) : Except ε Unit := if p then .ok () else .error e

theorem ensure_ok {p : Prop} [Decidable p] {e : ε} {u : Unit} (h : ensure p e = .ok u) : p := by
  unfold ensure at h
  split_ifs at h with hp
  exact hp

theorem bind_ok_iff {x : Except ε α} {f : α → Except ε β} {b : β} :
    x >>= f = .ok b ↔ ∃ a, x = .ok a ∧ f a = .ok b := by
  refine ⟨bind_ok, ?_⟩
  rintro ⟨a, rfl, h⟩
  exact h

theorem ensure_iff {p : Prop} [Decidable p] {e : ε} {u : Unit} : ensure p e = .ok u ↔ p :=
  ⟨ensure_ok, fun h => if_pos h⟩

theorem ensure_bind_iff {p : Prop} [Decidable p] {e : ε} {f : Unit → Except ε α} {a : α} :
    ensure p e >>= f = .ok a ↔ p ∧ f () = .ok a := by
  rw [bind_ok_iff]
  constructor
  · rintro ⟨u, hp, h⟩
    exact ⟨ensure_ok hp, h⟩
  · rintro ⟨hp, h⟩
    exact ⟨(), ensure_iff.mpr hp, h⟩

theorem ensure_of {p : Prop} [Decidable p] {e : ε} (h : p) : ensure p e = .ok () := if_pos h

/-! ## Errors -/

/-- Every error that may be thrown is in `S`. -/
def Refuses (S : ε → Prop) (x : Except ε α) : Prop := ∀ e, x = .error e → S e

theorem refuses_ok {S : ε → Prop} (a : α) : Refuses S (.ok a : Except ε α) := by
  intro e h
  cases h

theorem refuses_error {S : ε → Prop} {e : ε} (h : S e) : Refuses S (.error e : Except ε α) := by
  intro e' he
  cases he
  exact h

theorem refuses_bind {S : ε → Prop} {x : Except ε α} {f : α → Except ε β} (hx : Refuses S x)
    (hf : ∀ a, x = .ok a → Refuses S (f a)) : Refuses S (x >>= f) := by
  intro e h
  rcases bind_error h with hfirst | ⟨a, ha, hrest⟩
  · exact hx e hfirst
  · exact hf a ha e hrest

theorem refuses_ensure {S : ε → Prop} {p : Prop} [Decidable p] {e : ε} (h : S e) :
    Refuses S (ensure p e) := by
  intro e' he
  unfold ensure at he
  split_ifs at he
  cases he
  exact h

theorem refuses_map {S : ε → Prop} {x : Except ε α} {f : α → β} (hx : Refuses S x) :
    Refuses S (x.map f) := by
  intro e h
  cases x with
  | ok a => cases h
  | error e' =>
    cases h
    exact hx e rfl

end Wire
