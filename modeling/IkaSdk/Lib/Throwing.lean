import IkaSdk.Lib.Prog

/-! Programs that may throw: what a run of a sequence, of a lifted check and of
a `try` that returned, or that threw, is made of. -/

namespace Interaction

abbrev Eff (I : Interface) (ε α : Type) := ExceptT ε (Prog I) α

namespace Eff

variable {I : Interface} {ε α β : Type}

def Gives (p : Eff I ε α) (tr : List (Event I)) (a : α) : Prop := Prog.Returns p.run tr (.ok a)

def Throws (p : Eff I ε α) (tr : List (Event I)) (e : ε) : Prop :=
  Prog.Returns p.run tr (.error e)

/-- An operation whose answer is a value or an error. -/
def ofProg (p : Prog I (Except ε α)) : Eff I ε α := ExceptT.mk p

/-- Where a loop is followed no further. -/
def cut : Eff I ε α := ExceptT.mk .cut

/-- The outcome of a program, an error included, as a value. -/
def attempt (p : Eff I ε α) : Eff I ε (Except ε α) :=
  ExceptT.mk (p.run >>= fun r => .pure (.ok r))

/-- An operation that never throws. -/
def liftOp (op : I.Op) : Eff I ε (I.Ans op) := ofProg (.call op fun a => .pure (.ok a))

@[simp] theorem run_pure (a : α) : (pure a : Eff I ε α).run = Prog.pure (.ok a) := rfl

@[simp] theorem run_throw (e : ε) : (throw e : Eff I ε α).run = Prog.pure (.error e) := rfl

@[simp] theorem run_liftExcept (x : Except ε α) : (liftM x : Eff I ε α).run = Prog.pure x := rfl

@[simp] theorem run_ofProg (p : Prog I (Except ε α)) : (ofProg p : Eff I ε α).run = p := rfl

theorem run_bind (p : Eff I ε α) (f : α → Eff I ε β) :
    (p >>= f).run = p.run >>= ExceptT.bindCont f := rfl

/-! ## Results -/

@[simp] theorem gives_pure_iff {a b : α} {tr : List (Event I)} :
    Gives (pure a : Eff I ε α) tr b ↔ tr = [] ∧ a = b := by
  simp [Gives]

@[simp] theorem throws_pure_iff {a : α} {e : ε} {tr : List (Event I)} :
    Throws (pure a : Eff I ε α) tr e ↔ False := by
  simp [Throws]

@[simp] theorem gives_throw_iff {e : ε} {a : α} {tr : List (Event I)} :
    Gives (throw e : Eff I ε α) tr a ↔ False := by
  simp [Gives]

@[simp] theorem throws_throw_iff {e e' : ε} {tr : List (Event I)} :
    Throws (throw e : Eff I ε α) tr e' ↔ tr = [] ∧ e = e' := by
  simp [Throws]

@[simp] theorem gives_lift_iff {x : Except ε α} {a : α} {tr : List (Event I)} :
    Gives (liftM x : Eff I ε α) tr a ↔ tr = [] ∧ x = .ok a := by
  simp [Gives]

@[simp] theorem throws_lift_iff {x : Except ε α} {e : ε} {tr : List (Event I)} :
    Throws (liftM x : Eff I ε α) tr e ↔ tr = [] ∧ x = .error e := by
  simp [Throws]

@[simp] theorem gives_liftOp_iff {op : I.Op} {a : I.Ans op} {tr : List (Event I)} :
    Gives (liftOp op : Eff I ε _) tr a ↔ tr = [⟨op, a⟩] := by
  simp [Gives, liftOp, Prog.returns_call_iff]

@[simp] theorem throws_liftOp_iff {op : I.Op} {e : ε} {tr : List (Event I)} :
    Throws (liftOp op : Eff I ε _) tr e ↔ False := by
  simp [Throws, liftOp, Prog.returns_call_iff]

@[simp] theorem gives_cut_iff {a : α} {tr : List (Event I)} :
    Gives (cut : Eff I ε α) tr a ↔ False := by
  rw [Gives, show (cut : Eff I ε α).run = Prog.cut from rfl, Prog.Returns, Prog.run_cut_iff]
  simp

@[simp] theorem throws_cut_iff {e : ε} {tr : List (Event I)} :
    Throws (cut : Eff I ε α) tr e ↔ False := by
  rw [Throws, show (cut : Eff I ε α).run = Prog.cut from rfl, Prog.Returns, Prog.run_cut_iff]
  simp

theorem gives_attempt_iff {p : Eff I ε α} {r : Except ε α} {tr : List (Event I)} :
    Gives (attempt p) tr r ↔ Prog.Returns p.run tr r := by
  rw [Gives, show (attempt p).run = p.run >>= fun r => Prog.pure (.ok r) from rfl,
    Prog.returns_bind_iff]
  constructor
  · rintro ⟨tr₁, tr₂, r', rfl, hp, hr⟩
    obtain ⟨rfl, heq⟩ := Prog.returns_pure_iff.mp hr
    cases heq
    rwa [List.append_nil]
  · intro h
    exact ⟨tr, [], r, (List.append_nil tr).symm, h, .refl _⟩

theorem gives_bind_iff {p : Eff I ε α} {f : α → Eff I ε β} {tr : List (Event I)} {b : β} :
    Gives (p >>= f) tr b ↔
      ∃ tr₁ tr₂ a, tr = tr₁ ++ tr₂ ∧ Gives p tr₁ a ∧ Gives (f a) tr₂ b := by
  rw [Gives, run_bind, Prog.returns_bind_iff]
  constructor
  · rintro ⟨tr₁, tr₂, r, rfl, hp, hf⟩
    cases r with
    | ok a => exact ⟨tr₁, tr₂, a, rfl, hp, hf⟩
    | error e => simp [ExceptT.bindCont] at hf
  · rintro ⟨tr₁, tr₂, a, rfl, hp, hf⟩
    exact ⟨tr₁, tr₂, .ok a, rfl, hp, hf⟩

theorem throws_bind_iff {p : Eff I ε α} {f : α → Eff I ε β} {tr : List (Event I)} {e : ε} :
    Throws (p >>= f) tr e ↔ Throws p tr e ∨
      ∃ tr₁ tr₂ a, tr = tr₁ ++ tr₂ ∧ Gives p tr₁ a ∧ Throws (f a) tr₂ e := by
  rw [Throws, run_bind, Prog.returns_bind_iff]
  constructor
  · rintro ⟨tr₁, tr₂, r, rfl, hp, hf⟩
    cases r with
    | ok a => exact .inr ⟨tr₁, tr₂, a, rfl, hp, hf⟩
    | error e' =>
      obtain ⟨rfl, heq⟩ := Prog.returns_pure_iff.mp hf
      cases heq
      exact .inl (by rwa [List.append_nil])
  · rintro (hp | ⟨tr₁, tr₂, a, rfl, hp, hf⟩)
    · exact ⟨tr, [], .error e, (List.append_nil tr).symm, hp, .refl _⟩
    · exact ⟨tr₁, tr₂, .ok a, rfl, hp, hf⟩

/-- A check before the rest leaves no trace when it passes. -/
theorem gives_lift_bind_iff {x : Except ε α} {f : α → Eff I ε β} {tr : List (Event I)} {b : β} :
    Gives ((liftM x : Eff I ε α) >>= f) tr b ↔ ∃ a, x = .ok a ∧ Gives (f a) tr b := by
  rw [gives_bind_iff]
  constructor
  · rintro ⟨tr₁, tr₂, a, rfl, hx, hf⟩
    obtain ⟨rfl, hok⟩ := gives_lift_iff.mp hx
    exact ⟨a, hok, hf⟩
  · rintro ⟨a, hx, hf⟩
    exact ⟨[], tr, a, rfl, gives_lift_iff.mpr ⟨rfl, hx⟩, hf⟩

theorem gives_tryCatch_iff {p : Eff I ε α} {h : ε → Eff I ε α} {tr : List (Event I)} {a : α} :
    Gives (tryCatch p h) tr a ↔ Gives p tr a ∨
      ∃ tr₁ tr₂ e, tr = tr₁ ++ tr₂ ∧ Throws p tr₁ e ∧ Gives (h e) tr₂ a := by
  rw [Gives, show (tryCatch p h).run = p.run >>= fun
    | .ok a => Prog.pure (.ok a)
    | .error e => (h e).run from rfl, Prog.returns_bind_iff]
  constructor
  · rintro ⟨tr₁, tr₂, r, rfl, hp, hf⟩
    cases r with
    | ok b =>
      obtain ⟨rfl, heq⟩ := Prog.returns_pure_iff.mp hf
      cases heq
      exact .inl (by rwa [List.append_nil])
    | error e => exact .inr ⟨tr₁, tr₂, e, rfl, hp, hf⟩
  · rintro (hp | ⟨tr₁, tr₂, e, rfl, hp, hf⟩)
    · exact ⟨tr, [], .ok a, (List.append_nil tr).symm, hp, .refl _⟩
    · exact ⟨tr₁, tr₂, .error e, rfl, hp, hf⟩

theorem throws_tryCatch_iff {p : Eff I ε α} {h : ε → Eff I ε α} {tr : List (Event I)} {e : ε} :
    Throws (tryCatch p h) tr e ↔
      ∃ tr₁ tr₂ e', tr = tr₁ ++ tr₂ ∧ Throws p tr₁ e' ∧ Throws (h e') tr₂ e := by
  rw [Throws, show (tryCatch p h).run = p.run >>= fun
    | .ok a => Prog.pure (.ok a)
    | .error e => (h e).run from rfl, Prog.returns_bind_iff]
  constructor
  · rintro ⟨tr₁, tr₂, r, rfl, hp, hf⟩
    cases r with
    | ok b => cases (Prog.returns_pure_iff.mp hf).2
    | error e' => exact ⟨tr₁, tr₂, e', rfl, hp, hf⟩
  · rintro ⟨tr₁, tr₂, e', rfl, hp, hf⟩
    exact ⟨tr₁, tr₂, .error e', rfl, hp, hf⟩

/-! ## Whole runs -/

/-- The program ends in a value or in an error. -/
def Ends (p : Eff I ε α) (tr : List (Event I)) (r : Except ε α) : Prop :=
  Prog.Returns p.run tr r

theorem Gives.ends {p : Eff I ε α} {tr : List (Event I)} {a : α} (h : Gives p tr a) :
    Ends p tr (.ok a) := h

theorem Throws.ends {p : Eff I ε α} {tr : List (Event I)} {e : ε} (h : Throws p tr e) :
    Ends p tr (.error e) := h

theorem Ends.bind_cases {p : Eff I ε α} {f : α → Eff I ε β} {tr : List (Event I)}
    {r : Except ε β} (h : Ends (p >>= f) tr r) :
    (∃ e, r = .error e ∧ Throws p tr e) ∨
      ∃ tr₁ tr₂ a, tr = tr₁ ++ tr₂ ∧ Gives p tr₁ a ∧ Ends (f a) tr₂ r := by
  cases r with
  | ok b =>
    obtain ⟨tr₁, tr₂, a, rfl, hp, hf⟩ := gives_bind_iff.mp h
    exact .inr ⟨tr₁, tr₂, a, rfl, hp, hf⟩
  | error e =>
    rcases throws_bind_iff.mp h with hp | ⟨tr₁, tr₂, a, rfl, hp, hf⟩
    · exact .inl ⟨e, rfl, hp⟩
    · exact .inr ⟨tr₁, tr₂, a, rfl, hp, hf⟩

theorem Gives.bind_ends {p : Eff I ε α} {f : α → Eff I ε β} {tr tr' : List (Event I)} {a : α}
    {r : Except ε β} (hp : Gives p tr a) (hf : Ends (f a) tr' r) :
    Ends (p >>= f) (tr ++ tr') r := by
  cases r with
  | ok b => exact gives_bind_iff.mpr ⟨tr, tr', a, rfl, hp, hf⟩
  | error e => exact throws_bind_iff.mpr (.inr ⟨tr, tr', a, rfl, hp, hf⟩)

theorem Ends.tryCatch_cases {p : Eff I ε α} {h : ε → Eff I ε α} {tr : List (Event I)}
    {r : Except ε α} (hrun : Ends (tryCatch p h) tr r) :
    (∃ a, r = .ok a ∧ Gives p tr a) ∨
      ∃ tr₁ tr₂ e, tr = tr₁ ++ tr₂ ∧ Throws p tr₁ e ∧ Ends (h e) tr₂ r := by
  cases r with
  | ok a =>
    rcases gives_tryCatch_iff.mp hrun with hp | ⟨tr₁, tr₂, e, rfl, hp, hh⟩
    · exact .inl ⟨a, rfl, hp⟩
    · exact .inr ⟨tr₁, tr₂, e, rfl, hp, hh⟩
  | error e =>
    obtain ⟨tr₁, tr₂, e', rfl, hp, hh⟩ := throws_tryCatch_iff.mp hrun
    exact .inr ⟨tr₁, tr₂, e', rfl, hp, hh⟩

theorem Throws.tryCatch_ends {p : Eff I ε α} {h : ε → Eff I ε α} {tr tr' : List (Event I)} {e : ε}
    {r : Except ε α} (hp : Throws p tr e) (hh : Ends (h e) tr' r) :
    Ends (tryCatch p h) (tr ++ tr') r := by
  cases r with
  | ok a => exact gives_tryCatch_iff.mpr (.inr ⟨tr, tr', e, rfl, hp, hh⟩)
  | error e' => exact throws_tryCatch_iff.mpr ⟨tr, tr', e, rfl, hp, hh⟩

/-- A run of a sequence goes on, after a run of its first part, with its second. -/
theorem Ends.after_gives {p : Eff I ε α} {f : α → Eff I ε β} {tr tr' : List (Event I)} {a : α}
    {r : Except ε β} (h : Ends (p >>= f) (tr ++ tr') r) (hp : Gives p tr a) :
    Ends (f a) tr' r := by
  have hfirst : Prog.Run (p >>= f).run tr (f a).run := by
    rw [run_bind]
    exact Prog.Run.bind hp (ExceptT.bindCont f)
  exact hfirst.rest h

/-! ## Programs without a cut -/

theorem total_bind {p : Eff I ε α} {f : α → Eff I ε β} (hp : Prog.Total p.run)
    (hf : ∀ a, Prog.Total (f a).run) : Prog.Total (p >>= f).run := by
  rw [run_bind]
  refine hp.bind fun r => ?_
  cases r with
  | ok a => exact hf a
  | error e => trivial

theorem total_lift_bind {x : Except ε α} {f : α → Eff I ε β} (hf : ∀ a, Prog.Total (f a).run) :
    Prog.Total ((liftM x : Eff I ε α) >>= f).run := total_bind trivial hf

theorem total_tryCatch {p : Eff I ε α} {h : ε → Eff I ε α} (hp : Prog.Total p.run)
    (hh : ∀ e, Prog.Total (h e).run) : Prog.Total (tryCatch p h).run := by
  refine Prog.Total.bind hp fun r => ?_
  cases r with
  | ok a => trivial
  | error e => exact hh e

/-! ## Evaluation -/

/-- The outcome where every operation has one fixed answer. -/
def eval (answer : ∀ op, I.Ans op) (p : Eff I ε α) : Option (Except ε α) := p.run.eval answer

@[simp] theorem eval_pure (answer : ∀ op, I.Ans op) (a : α) :
    eval answer (pure a : Eff I ε α) = some (.ok a) := rfl

@[simp] theorem eval_throw (answer : ∀ op, I.Ans op) (e : ε) :
    eval answer (throw e : Eff I ε α) = some (.error e) := rfl

@[simp] theorem eval_lift (answer : ∀ op, I.Ans op) (x : Except ε α) :
    eval answer (liftM x : Eff I ε α) = some x := rfl

theorem eval_bind (answer : ∀ op, I.Ans op) (p : Eff I ε α) (f : α → Eff I ε β) :
    eval answer (p >>= f) = (eval answer p).bind fun
      | .ok a => eval answer (f a)
      | .error e => some (.error e) := by
  rw [eval, run_bind, Prog.eval_bind]
  congr 1
  funext r
  cases r <;> rfl

theorem eval_bind_ok {answer : ∀ op, I.Ans op} {p : Eff I ε α} {f : α → Eff I ε β} {b : β}
    (h : eval answer (p >>= f) = some (.ok b)) :
    ∃ a, eval answer p = some (.ok a) ∧ eval answer (f a) = some (.ok b) := by
  rw [eval_bind] at h
  rcases hp : eval answer p with _ | e | a
  · rw [hp] at h
    cases h
  · rw [hp] at h
    cases h
  · rw [hp] at h
    exact ⟨a, rfl, h⟩

theorem eval_bind_of_ok {answer : ∀ op, I.Ans op} {p : Eff I ε α} {a : α}
    (h : eval answer p = some (.ok a)) (f : α → Eff I ε β) :
    eval answer (p >>= f) = eval answer (f a) := by
  rw [eval_bind, h]
  rfl

theorem eval_bind_of_error {answer : ∀ op, I.Ans op} {p : Eff I ε α} {e : ε}
    (h : eval answer p = some (.error e)) (f : α → Eff I ε β) :
    eval answer (p >>= f) = some (.error e) := by
  rw [eval_bind, h]
  rfl

theorem eval_attempt (answer : ∀ op, I.Ans op) (p : Eff I ε α) :
    eval answer (attempt p) = (eval answer p).map .ok := by
  unfold eval
  rw [show (attempt p).run = p.run >>= fun r => .pure (.ok r) from rfl, Prog.eval_bind]
  cases p.run.eval answer <;> rfl

/-- Where every operation has one fixed answer, every error thrown is in `S`. -/
def RefusesAt (answer : ∀ op, I.Ans op) (S : ε → Prop) (p : Eff I ε α) : Prop :=
  ∀ e, eval answer p = some (.error e) → S e

theorem refusesAt_bind {answer : ∀ op, I.Ans op} {S : ε → Prop} {p : Eff I ε α}
    {f : α → Eff I ε β} (hp : RefusesAt answer S p) (hf : ∀ a, RefusesAt answer S (f a)) :
    RefusesAt answer S (p >>= f) := by
  intro e h
  rw [eval_bind] at h
  obtain ⟨r, hr, h⟩ := Option.bind_eq_some_iff.mp h
  cases r with
  | ok a => exact hf a e h
  | error e' =>
    cases h
    exact hp e hr

theorem refusesAt_lift {answer : ∀ op, I.Ans op} {S : ε → Prop} {x : Except ε α}
    (hx : ∀ e, x = .error e → S e) : RefusesAt answer S (liftM x : Eff I ε α) :=
  fun e h => hx e (Option.some.inj h)

theorem refusesAt_pure {answer : ∀ op, I.Ans op} {S : ε → Prop} (a : α) :
    RefusesAt answer S (pure a : Eff I ε α) := by
  intro e h
  cases h

theorem refusesAt_throw {answer : ∀ op, I.Ans op} {S : ε → Prop} {e : ε} (h : S e) :
    RefusesAt answer S (throw e : Eff I ε α) := by
  intro e' he
  cases he
  exact h

/-! ## Assumptions on the answers -/

/-- In every run whose events meet `S`, the program gives a value with the
property. -/
def Yields (S : Event I → Prop) (p : Eff I ε α) (post : α → Prop) : Prop :=
  ∀ tr r, Prog.Returns p.run tr r → (∀ e ∈ tr, S e) → ∃ a, r = .ok a ∧ post a

theorem yields_pure {S : Event I → Prop} {a : α} {post : α → Prop} (h : post a) :
    Yields S (pure a : Eff I ε α) post := by
  intro tr r hr _
  obtain ⟨-, rfl⟩ := Prog.returns_pure_iff.mp hr
  exact ⟨a, rfl, h⟩

theorem yields_bind {S : Event I → Prop} {p : Eff I ε α} {f : α → Eff I ε β}
    {post : α → Prop} {post' : β → Prop} (hp : Yields S p post)
    (hf : ∀ a, post a → Yields S (f a) post') : Yields S (p >>= f) post' := by
  intro tr r hr hall
  rw [run_bind, Prog.returns_bind_iff] at hr
  obtain ⟨tr₁, tr₂, r₁, rfl, hfirst, hrest⟩ := hr
  obtain ⟨a, rfl, ha⟩ := hp tr₁ r₁ hfirst fun e he => hall e (List.mem_append_left _ he)
  exact hf a ha tr₂ r hrest fun e he => hall e (List.mem_append_right _ he)

theorem yields_lift_bind {S : Event I → Prop} {x : Except ε α} {a : α} {f : α → Eff I ε β}
    {post : β → Prop} (hx : x = .ok a) (hf : Yields S (f a) post) :
    Yields S ((liftM x : Eff I ε α) >>= f) post := by
  rw [hx]
  exact yields_bind (yields_pure rfl) (by rintro _ rfl; exact hf)

/-- A run that came to its end gave a value or threw. -/
theorem gives_or_throws {p : Eff I ε α} {tr : List (Event I)} {r : Except ε α}
    (h : Prog.Returns p.run tr r) :
    (∃ a, r = .ok a ∧ Gives p tr a) ∨ ∃ e, r = .error e ∧ Throws p tr e := by
  cases r with
  | ok a => exact .inl ⟨a, rfl, h⟩
  | error e => exact .inr ⟨e, rfl, h⟩

end Eff

end Interaction
