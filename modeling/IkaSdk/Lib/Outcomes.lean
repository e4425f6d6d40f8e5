import IkaSdk.Lib.Throwing

/-! The outcomes that some run of a program has, whatever its operations answer. Those of a
sequence and of a `try` are the ones that their parts have. -/

namespace Interaction

namespace Eff

variable {I : Interface} {ε α β : Type} {p : Eff I ε α} {f : α → Eff I ε β} {a : α} {b : β} {e : ε}

def CanGive (p : Eff I ε α) (a : α) : Prop := ∃ tr, Gives p tr a

def CanThrow (p : Eff I ε α) (e : ε) : Prop := ∃ tr, Throws p tr e

theorem Gives.canGive {tr : List (Event I)} (h : Gives p tr a) : CanGive p a := ⟨tr, h⟩

theorem Throws.canThrow {tr : List (Event I)} (h : Throws p tr e) : CanThrow p e := ⟨tr, h⟩

@[simp] theorem canGive_pure_iff {a' : α} : CanGive (pure a : Eff I ε α) a' ↔ a = a' := by
  simp [CanGive]

@[simp] theorem canThrow_pure_iff : CanThrow (pure a : Eff I ε α) e ↔ False := by
  simp [CanThrow]

@[simp] theorem canGive_throw_iff : CanGive (throw e : Eff I ε α) a ↔ False := by
  simp [CanGive]

@[simp] theorem canThrow_throw_iff {e' : ε} : CanThrow (throw e : Eff I ε α) e' ↔ e = e' := by
  simp [CanThrow]

@[simp] theorem canGive_lift_iff {x : Except ε α} :
    CanGive (liftM x : Eff I ε α) a ↔ x = .ok a := by
  simp [CanGive]

@[simp] theorem canThrow_lift_iff {x : Except ε α} :
    CanThrow (liftM x : Eff I ε α) e ↔ x = .error e := by
  simp [CanThrow]

/-- An operation may answer anything. -/
@[simp] theorem canGive_liftOp {op : I.Op} (answer : I.Ans op) :
    CanGive (liftOp op : Eff I ε _) answer := ⟨_, gives_liftOp_iff.mpr rfl⟩

@[simp] theorem canThrow_liftOp_iff {op : I.Op} :
    CanThrow (liftOp op : Eff I ε _) e ↔ False := by
  simp [CanThrow]

theorem canGive_bind_iff : CanGive (p >>= f) b ↔ ∃ a, CanGive p a ∧ CanGive (f a) b := by
  constructor
  · rintro ⟨tr, h⟩
    obtain ⟨tr₁, tr₂, a, -, hp, hf⟩ := gives_bind_iff.mp h
    exact ⟨a, hp.canGive, hf.canGive⟩
  · rintro ⟨a, ⟨tr₁, hp⟩, ⟨tr₂, hf⟩⟩
    exact ⟨tr₁ ++ tr₂, gives_bind_iff.mpr ⟨tr₁, tr₂, a, rfl, hp, hf⟩⟩

theorem canThrow_bind_iff :
    CanThrow (p >>= f) e ↔ CanThrow p e ∨ ∃ a, CanGive p a ∧ CanThrow (f a) e := by
  constructor
  · rintro ⟨tr, h⟩
    rcases throws_bind_iff.mp h with hp | ⟨tr₁, tr₂, a, -, hp, hf⟩
    · exact .inl hp.canThrow
    · exact .inr ⟨a, hp.canGive, hf.canThrow⟩
  · rintro (⟨tr, hp⟩ | ⟨a, ⟨tr₁, hp⟩, ⟨tr₂, hf⟩⟩)
    · exact ⟨tr, throws_bind_iff.mpr (.inl hp)⟩
    · exact ⟨tr₁ ++ tr₂, throws_bind_iff.mpr (.inr ⟨tr₁, tr₂, a, rfl, hp, hf⟩)⟩

theorem canGive_bind (hp : CanGive p a) (hf : CanGive (f a) b) : CanGive (p >>= f) b :=
  canGive_bind_iff.mpr ⟨a, hp, hf⟩

theorem canGive_tryCatch_iff {h : ε → Eff I ε α} :
    CanGive (tryCatch p h) a ↔ CanGive p a ∨ ∃ e, CanThrow p e ∧ CanGive (h e) a := by
  constructor
  · rintro ⟨tr, htry⟩
    rcases gives_tryCatch_iff.mp htry with hp | ⟨tr₁, tr₂, e, -, hp, hh⟩
    · exact .inl hp.canGive
    · exact .inr ⟨e, hp.canThrow, hh.canGive⟩
  · rintro (⟨tr, hp⟩ | ⟨e, ⟨tr₁, hp⟩, ⟨tr₂, hh⟩⟩)
    · exact ⟨tr, gives_tryCatch_iff.mpr (.inl hp)⟩
    · exact ⟨tr₁ ++ tr₂, gives_tryCatch_iff.mpr (.inr ⟨tr₁, tr₂, e, rfl, hp, hh⟩)⟩

end Eff

end Interaction
