import Mathlib.Logic.Basic
import Mathlib.Data.List.Basic

/-! Programs that call operations whose answers nothing constrains. A run of a
program is the list of the operations it called with the answers it got, and
what is left of the program after them; every rule below takes a run of a
composed program apart into runs of its parts. -/

namespace Interaction

structure Interface where
  Op : Type
  Ans : Op → Type

structure Event (I : Interface) where
  op : I.Op
  ans : I.Ans op

/-- `cut` is where a loop that may go on for ever is followed no further. -/
inductive Prog (I : Interface) (β : Type)
  | pure (b : β)
  | cut
  | call (op : I.Op) (k : I.Ans op → Prog I β)

variable {I J : Interface} {β γ : Type}

namespace Prog

def bind (p : Prog I β) (f : β → Prog I γ) : Prog I γ :=
  match p with
  | pure b => f b
  | cut => cut
  | call op k => call op fun a => (k a).bind f

instance : Monad (Prog I) where
  pure := pure
  bind := bind

@[simp] theorem pure_bind (b : β) (f : β → Prog I γ) : (pure b : Prog I β) >>= f = f b := rfl

@[simp] theorem cut_bind (f : β → Prog I γ) : (cut : Prog I β) >>= f = cut := rfl

@[simp] theorem call_bind (op : I.Op) (k : I.Ans op → Prog I β) (f : β → Prog I γ) :
    call op k >>= f = call op fun a => k a >>= f := rfl

@[simp] theorem monad_pure (b : β) : (Pure.pure b : Prog I β) = pure b := rfl

/-- Call one operation and return its answer. -/
def perform (op : I.Op) : Prog I (I.Ans op) := call op pure

/-! ## Runs -/

/-- After the events of the list, `q` is left of the program. -/
inductive Run : Prog I β → List (Event I) → Prog I β → Prop
  | refl (p : Prog I β) : Run p [] p
  | call {op : I.Op} {k : I.Ans op → Prog I β} {a : I.Ans op} {tr : List (Event I)}
      {q : Prog I β} : Run (k a) tr q → Run (.call op k) (⟨op, a⟩ :: tr) q

def Returns (p : Prog I β) (tr : List (Event I)) (b : β) : Prop := Run p tr (pure b)

theorem Run.trans {p q r : Prog I β} {tr tr' : List (Event I)} (h : Run p tr q)
    (h' : Run q tr' r) : Run p (tr ++ tr') r := by
  induction h with
  | refl => exact h'
  | call _ ih => exact .call (ih h')

theorem run_of_append {p r : Prog I β} {tr tr' : List (Event I)} (h : Run p (tr ++ tr') r) :
    ∃ q, Run p tr q ∧ Run q tr' r := by
  induction tr generalizing p with
  | nil => exact ⟨p, .refl p, h⟩
  | cons e tr ih =>
    cases h with
    | call hrest =>
      obtain ⟨q, hfront, hback⟩ := ih hrest
      exact ⟨q, .call hfront, hback⟩

theorem run_pure_iff {b : β} {tr : List (Event I)} {q : Prog I β} :
    Run (pure b) tr q ↔ tr = [] ∧ q = pure b := by
  constructor
  · intro h
    cases h
    exact ⟨rfl, rfl⟩
  · rintro ⟨rfl, rfl⟩
    exact .refl _

theorem run_cut_iff {tr : List (Event I)} {q : Prog I β} :
    Run cut tr q ↔ tr = [] ∧ q = cut := by
  constructor
  · intro h
    cases h
    exact ⟨rfl, rfl⟩
  · rintro ⟨rfl, rfl⟩
    exact .refl _

@[simp] theorem returns_pure_iff {b c : β} {tr : List (Event I)} :
    Returns (pure b) tr c ↔ tr = [] ∧ b = c := by
  rw [Returns, run_pure_iff]
  exact ⟨fun h => ⟨h.1, by injection h.2.symm⟩, fun h => ⟨h.1, by rw [h.2]⟩⟩

theorem returns_call_iff {op : I.Op} {k : I.Ans op → Prog I β} {tr : List (Event I)} {b : β} :
    Returns (.call op k) tr b ↔ ∃ a tr', tr = ⟨op, a⟩ :: tr' ∧ Returns (k a) tr' b := by
  constructor
  · intro h
    cases h with
    | call h => exact ⟨_, _, rfl, h⟩
  · rintro ⟨a, tr', rfl, h⟩
    exact .call h

theorem Run.bind {p q : Prog I β} {tr : List (Event I)} (h : Run p tr q) (f : β → Prog I γ) :
    Run (p >>= f) tr (q >>= f) := by
  induction h with
  | refl => exact .refl _
  | call _ ih => exact .call ih

/-- A run of a sequence is a run of its first part, or all of it and then a run
of the second. -/
theorem run_bind_iff {p : Prog I β} {f : β → Prog I γ} {tr : List (Event I)} {q : Prog I γ} :
    Run (p >>= f) tr q ↔ (∃ p', Run p tr p' ∧ q = p' >>= f) ∨
      ∃ tr₁ tr₂ b, tr = tr₁ ++ tr₂ ∧ Returns p tr₁ b ∧ Run (f b) tr₂ q := by
  constructor
  · intro h
    induction p generalizing tr with
    | pure b => exact .inr ⟨[], tr, b, rfl, .refl _, h⟩
    | cut =>
      obtain ⟨rfl, rfl⟩ := run_cut_iff.mp h
      exact .inl ⟨cut, .refl _, rfl⟩
    | call op k ih =>
      cases h with
      | refl => exact .inl ⟨call op k, .refl _, rfl⟩
      | call h =>
        rcases ih _ h with ⟨p', hp, rfl⟩ | ⟨tr₁, tr₂, b, rfl, hp, hf⟩
        · exact .inl ⟨p', .call hp, rfl⟩
        · exact .inr ⟨_ :: tr₁, tr₂, b, rfl, .call hp, hf⟩
  · rintro (⟨p', hp, rfl⟩ | ⟨tr₁, tr₂, b, rfl, hp, hf⟩)
    · exact hp.bind f
    · exact (Run.bind hp f).trans hf

theorem returns_bind_iff {p : Prog I β} {f : β → Prog I γ} {tr : List (Event I)} {c : γ} :
    Returns (p >>= f) tr c ↔
      ∃ tr₁ tr₂ b, tr = tr₁ ++ tr₂ ∧ Returns p tr₁ b ∧ Returns (f b) tr₂ c := by
  constructor
  · intro h
    rcases run_bind_iff.mp h with ⟨p', hp, heq⟩ | h
    · cases p' with
      | pure b =>
        rw [pure_bind] at heq
        exact ⟨tr, [], b, (List.append_nil tr).symm, hp, by rw [← heq]; exact .refl _⟩
      | cut => cases heq
      | call op k => cases heq
    · exact h
  · rintro ⟨tr₁, tr₂, b, rfl, hp, hf⟩
    exact run_bind_iff.mpr (.inr ⟨tr₁, tr₂, b, rfl, hp, hf⟩)

/-- An answer decides what comes after it, so two runs that got the same
answers are the same as far as both go. -/
theorem Run.unique {p : Prog I β} {tr : List (Event I)} {q q' : Prog I β} (h : Run p tr q)
    (h' : Run p tr q') : q = q' := by
  induction h with
  | refl => cases h'; rfl
  | call _ ih =>
    cases h' with
    | call h' => exact ih h'

theorem Returns.unique {p : Prog I β} {tr : List (Event I)} {b c : β} (h : Returns p tr b)
    (h' : Returns p tr c) : b = c := by
  have heq := Run.unique h h'
  injection heq

/-- What is left of a run after a first part of it. -/
theorem Run.rest {p q r : Prog I β} {tr tr' : List (Event I)} (h : Run p tr q)
    (h' : Run p (tr ++ tr') r) : Run q tr' r := by
  obtain ⟨q', hfirst, hrest⟩ := run_of_append h'
  rwa [Run.unique h hfirst]

/-! ## Which operations a program calls -/

/-- Every operation the program may call, whatever the answers, is in `S`. -/
def Calls (S : I.Op → Prop) : Prog I β → Prop
  | pure _ => True
  | cut => True
  | call op k => S op ∧ ∀ a, Calls S (k a)

theorem Calls.bind {S : I.Op → Prop} {p : Prog I β} {f : β → Prog I γ} (hp : Calls S p)
    (hf : ∀ b, Calls S (f b)) : Calls S (p >>= f) := by
  induction p with
  | pure b => exact hf b
  | cut => trivial
  | call op k ih => exact ⟨hp.1, fun a => ih a (hp.2 a)⟩

theorem Calls.mono {S T : I.Op → Prop} {p : Prog I β} (hp : Calls S p) (h : ∀ op, S op → T op) :
    Calls T p := by
  induction p with
  | pure b => trivial
  | cut => trivial
  | call op k ih => exact ⟨h op hp.1, fun a => ih a (hp.2 a)⟩

theorem Calls.run {S : I.Op → Prop} {p q : Prog I β} {tr : List (Event I)} (hp : Calls S p)
    (h : Run p tr q) : (∀ e ∈ tr, S e.op) ∧ Calls S q := by
  induction h with
  | refl => exact ⟨by simp, hp⟩
  | call _ ih =>
    obtain ⟨hall, hq⟩ := ih (hp.2 _)
    exact ⟨List.forall_mem_cons.mpr ⟨hp.1, hall⟩, hq⟩

/-! ## Handlers -/

/-- Replace every operation by the program that implements it. -/
def interp (h : ∀ op, Prog J (I.Ans op)) : Prog I β → Prog J β
  | pure b => .pure b
  | cut => .cut
  | call op k => h op >>= fun a => (k a).interp h

/-- `tr` is what the implementations of the events of `es` did, in order. -/
inductive Implements (h : ∀ op, Prog J (I.Ans op)) : List (Event I) → List (Event J) → Prop
  | nil : Implements h [] []
  | cons {e : Event I} {es : List (Event I)} {tr tr' : List (Event J)} :
      Returns (h e.op) tr e.ans → Implements h es tr' → Implements h (e :: es) (tr ++ tr')

theorem returns_interp {h : ∀ op, Prog J (I.Ans op)} {p : Prog I β} {tr : List (Event J)} {b : β}
    (hr : Returns (p.interp h) tr b) : ∃ es, Returns p es b ∧ Implements h es tr := by
  induction p generalizing tr with
  | pure c =>
    obtain ⟨rfl, rfl⟩ := returns_pure_iff.mp hr
    exact ⟨[], .refl _, .nil⟩
  | cut => cases hr
  | call op k ih =>
    obtain ⟨tr₁, tr₂, a, rfl, hop, hk⟩ := returns_bind_iff.mp hr
    obtain ⟨es, hp, hi⟩ := ih a hk
    exact ⟨⟨op, a⟩ :: es, .call hp, .cons (e := ⟨op, a⟩) hop hi⟩

theorem Implements.mem {h : ∀ op, Prog J (I.Ans op)} {es : List (Event I)} {tr : List (Event J)}
    (hi : Implements h es tr) {e : Event I} (he : e ∈ es) :
    ∃ tr', Returns (h e.op) tr' e.ans ∧ ∀ d ∈ tr', d ∈ tr := by
  induction hi with
  | nil => cases he
  | @cons e' es tr₁ tr₂ hr _ ih =>
    rcases List.mem_cons.mp he with rfl | he
    · exact ⟨tr₁, hr, fun d hd => List.mem_append_left _ hd⟩
    · obtain ⟨tr', hr', hsub⟩ := ih he
      exact ⟨tr', hr', fun d hd => List.mem_append_right _ (hsub d hd)⟩

/-- The implementation of the last event comes last. -/
theorem Implements.last {h : ∀ op, Prog J (I.Ans op)} {es : List (Event I)} {e : Event I}
    {tr : List (Event J)} (hi : Implements h (es ++ [e]) tr) :
    ∃ front tr', tr = front ++ tr' ∧ Returns (h e.op) tr' e.ans := by
  induction es generalizing tr with
  | nil =>
    cases hi with
    | @cons _ _ tr₁ tr₂ hr hrest =>
      cases hrest
      exact ⟨[], tr₁, by simp, hr⟩
  | cons e' es ih =>
    cases hi with
    | @cons _ _ tr₁ tr₂ _ hrest =>
      obtain ⟨front, tr', rfl, hr⟩ := ih hrest
      exact ⟨tr₁ ++ front, tr', by simp, hr⟩

/-! ## Programs without a cut -/

/-- The program comes to a result whatever the answers are. -/
def Total : Prog I β → Prop
  | pure _ => True
  | cut => False
  | call _ k => ∀ a, Total (k a)

theorem Total.bind {p : Prog I β} {f : β → Prog I γ} (hp : Total p) (hf : ∀ b, Total (f b)) :
    Total (p >>= f) := by
  induction p with
  | pure b => exact hf b
  | cut => exact hp.elim
  | call op k ih => exact fun a => ih a (hp a)

/-! ## Evaluation -/

/-- The result where every operation has one fixed answer. -/
def eval (answer : ∀ op, I.Ans op) : Prog I β → Option β
  | pure b => some b
  | cut => none
  | call op k => (k (answer op)).eval answer

theorem eval_bind (answer : ∀ op, I.Ans op) (p : Prog I β) (f : β → Prog I γ) :
    (p >>= f).eval answer = (p.eval answer).bind fun b => (f b).eval answer := by
  induction p with
  | pure b => rfl
  | cut => rfl
  | call op k ih => exact ih _

theorem Total.eval {p : Prog I β} (h : Total p) (answer : ∀ op, I.Ans op) :
    ∃ b, p.eval answer = some b := by
  induction p with
  | pure b => exact ⟨b, rfl⟩
  | cut => exact h.elim
  | call op k ih => exact ih _ (h _)

theorem Returns.eval {p : Prog I β} {tr : List (Event I)} {b : β} (h : Returns p tr b)
    {answer : ∀ op, I.Ans op} (hanswer : ∀ e ∈ tr, e.ans = answer e.op) :
    p.eval answer = some b := by
  induction p generalizing tr with
  | pure c =>
    obtain ⟨-, rfl⟩ := returns_pure_iff.mp h
    rfl
  | cut => cases h
  | call op k ih =>
    obtain ⟨a, tr', rfl, hk⟩ := returns_call_iff.mp h
    have ha : a = answer op := hanswer ⟨op, a⟩ List.mem_cons_self
    subst ha
    exact ih _ hk fun e he => hanswer e (List.mem_cons_of_mem _ he)

theorem eval_interp {h : ∀ op, Prog J (I.Ans op)} {answer : ∀ op, J.Ans op}
    {inner : ∀ op, I.Ans op} (hinner : ∀ op, (h op).eval answer = some (inner op))
    (p : Prog I β) : (p.interp h).eval answer = p.eval inner := by
  induction p with
  | pure b => rfl
  | cut => rfl
  | call op k ih =>
    have hcall : ((call op k).interp h).eval answer =
        ((h op).eval answer).bind fun a => ((k a).interp h).eval answer := eval_bind _ _ _
    rw [hcall, hinner]
    exact ih _

/-- The run in which the `n`-th operation gets the `n`-th answers. -/
def transcript (answer : ℕ → ∀ op, I.Ans op) : ℕ → Prog I β → Option (List (Event I) × β)
  | _, pure b => some ([], b)
  | _, cut => none
  | n, call op k => ((k (answer n op)).transcript answer (n + 1)).map fun r =>
      (⟨op, answer n op⟩ :: r.1, r.2)

theorem returns_of_transcript {answer : ℕ → ∀ op, I.Ans op} {n : ℕ} {p : Prog I β}
    {tr : List (Event I)} {b : β} (h : p.transcript answer n = some (tr, b)) :
    Returns p tr b := by
  induction p generalizing n tr with
  | pure c =>
    cases h
    exact .refl _
  | cut => cases h
  | call op k ih =>
    obtain ⟨⟨tr', c⟩, hr, heq⟩ := Option.map_eq_some_iff.mp h
    cases heq
    exact .call (ih _ hr)

theorem mem_transcript {answer : ℕ → ∀ op, I.Ans op} {n : ℕ} {p : Prog I β}
    {tr : List (Event I)} {b : β} (h : p.transcript answer n = some (tr, b)) {e : Event I}
    (he : e ∈ tr) : ∃ m, e.ans = answer m e.op := by
  induction p generalizing n tr with
  | pure c =>
    cases h
    cases he
  | cut => cases h
  | call op k ih =>
    obtain ⟨⟨tr', c⟩, hr, heq⟩ := Option.map_eq_some_iff.mp h
    cases heq
    rcases List.mem_cons.mp he with rfl | he
    · exact ⟨n, rfl⟩
    · exact ih _ hr he

theorem Total.transcript {p : Prog I β} (h : Total p) (answer : ℕ → ∀ op, I.Ans op) (n : ℕ) :
    ∃ r, p.transcript answer n = some r := by
  induction p generalizing n with
  | pure b => exact ⟨_, rfl⟩
  | cut => exact h.elim
  | call op k ih =>
    obtain ⟨r, hr⟩ := ih _ (h _) (n + 1)
    exact ⟨_, congrArg (Option.map _) hr⟩

end Prog

end Interaction
