import IkaSdk.Lib.Interleaving

/-! Programs that call a certain operation right after some answers, whatever else
they do. In every order of steps such an answer is followed up, or its task is about
to do so. -/

namespace Interaction

variable {I J : Interface} {σ β γ ε α : Type} {next : Event I → Option I.Op}

namespace Prog

/-- After an event for which `next` names an operation, the program calls that
operation next. -/
def Follows (next : Event I → Option I.Op) : Prog I β → Prop
  | pure _ => True
  | cut => True
  | call op k => ∀ a, (∀ op' ∈ next ⟨op, a⟩, ∃ k', k a = call op' k') ∧ Follows next (k a)

theorem Follows.bind {p : Prog I β} {f : β → Prog I γ} (hp : Follows next p)
    (hf : ∀ b, Follows next (f b)) : Follows next (p >>= f) := by
  induction p with
  | pure b => exact hf b
  | cut => trivial
  | call op k ih =>
    intro a
    obtain ⟨hnext, hrest⟩ := hp a
    refine ⟨fun op' hop' => ?_, ih a hrest⟩
    obtain ⟨k', hk'⟩ := hnext op' hop'
    refine ⟨fun b => k' b >>= f, ?_⟩
    show k a >>= f = _
    rw [hk', call_bind]

theorem Follows.call {op : I.Op} {k : I.Ans op → Prog I β} (hnone : ∀ a, next ⟨op, a⟩ = none)
    (hk : ∀ a, Follows next (k a)) : Follows next (.call op k) := by
  intro a
  refine ⟨fun op' hop' => ?_, hk a⟩
  rw [hnone a] at hop'
  cases hop'

theorem Follows.interp {next : Event J → Option J.Op} {h : ∀ op, Prog J (I.Ans op)}
    (hh : ∀ op, Follows next (h op)) (p : Prog I β) : Follows next (p.interp h) := by
  induction p with
  | pure b => trivial
  | cut => trivial
  | call op k ih => exact (hh op).bind ih

theorem run_nil {p q : Prog I β} (h : Run p [] q) : q = p := by
  generalize htr : ([] : List (Event I)) = tr at h
  cases h with
  | refl => rfl
  | call _ => cases htr

theorem run_call_cases {op : I.Op} {k : I.Ans op → Prog I β} {tr : List (Event I)} {q : Prog I β}
    (h : Run (.call op k) tr q) : (tr = [] ∧ q = .call op k) ∨ ∃ a tr', tr = ⟨op, a⟩ :: tr' := by
  generalize hp : Prog.call op k = p at h
  cases h with
  | refl => exact .inl ⟨rfl, rfl⟩
  | call _ =>
    cases hp
    exact .inr ⟨_, _, rfl⟩

/-- What is left after some events calls what the last of them asks for. -/
theorem Follows.run {p q : Prog I β} {tr : List (Event I)} {e : Event I} (hp : Follows next p)
    (hrun : Run p (tr ++ [e]) q) : ∀ op ∈ next e, ∃ k, q = .call op k := by
  induction tr generalizing p with
  | nil =>
    cases hrun with
    | @call op k a _ _ hrest =>
      rw [run_nil hrest]
      exact (hp a).1
  | cons e' tr ih =>
    cases hrun with
    | call hrest => exact ih (hp _).2 hrest

end Prog

namespace Eff

theorem follows_bind {p : Eff I ε α} {f : α → Eff I ε β} (hp : Prog.Follows next p.run)
    (hf : ∀ a, Prog.Follows next (f a).run) : Prog.Follows next (p >>= f).run := by
  rw [run_bind]
  refine hp.bind fun r => ?_
  cases r with
  | ok a => exact hf a
  | error e => trivial

theorem follows_lift {x : Except ε α} :
    Prog.Follows next (liftM x : Eff I ε α).run := trivial

theorem follows_lift_bind {x : Except ε α} {f : α → Eff I ε β}
    (hf : ∀ a, Prog.Follows next (f a).run) :
    Prog.Follows next ((liftM x : Eff I ε α) >>= f).run := follows_bind trivial hf

theorem follows_liftOp_bind {op : I.Op} {f : I.Ans op → Eff I ε β}
    (hnone : ∀ a, next ⟨op, a⟩ = none) (hf : ∀ a, Prog.Follows next (f a).run) :
    Prog.Follows next (liftOp op >>= f).run :=
  follows_bind (Prog.Follows.call hnone fun _ => trivial) hf

theorem follows_tryCatch {p : Eff I ε α} {h : ε → Eff I ε α} (hp : Prog.Follows next p.run)
    (hh : ∀ e, Prog.Follows next (h e).run) : Prog.Follows next (tryCatch p h).run := by
  refine Prog.Follows.bind hp fun r => ?_
  cases r with
  | ok a => trivial
  | error e => exact hh e

end Eff

/-- In every order of steps an answer that asks for an operation was followed by it,
or its task calls it next. -/
theorem Reaches.followed {S : Sharing I σ} {programs : Prog I β → Prop} {first : σ}
    {w : World I σ β} (hprograms : ∀ p, programs p → Prog.Follows next p)
    (h : Reaches S programs first w) {entry : Entry I} (hentry : entry ∈ w.log) {op : I.Op}
    (hop : op ∈ next entry.event) :
    (∃ other ∈ w.log, other.event.op = op) ∨
      ∃ i t k, w.tasks i = some t ∧ t.left = .call op k := by
  set i := entry.task with hi
  cases htask : w.tasks i with
  | none =>
    have hmem : entry ∈ w.entriesOf i := List.mem_filter.mpr ⟨hentry, by simp [hi]⟩
    rw [h.entriesOf_none htask] at hmem
    cases hmem
  | some t =>
    obtain ⟨hp, hrun⟩ := h.run htask
    have hmem : entry.event ∈ w.eventsOf i :=
      List.mem_map.mpr ⟨entry, List.mem_filter.mpr ⟨hentry, by simp [hi]⟩, rfl⟩
    obtain ⟨front, back, hevents⟩ := List.append_of_mem hmem
    have hsplit : w.eventsOf i = (front ++ [entry.event]) ++ back := by simp [hevents]
    rw [hsplit] at hrun
    obtain ⟨q, hfront, hback⟩ := Prog.run_of_append hrun
    obtain ⟨k, rfl⟩ := (hprograms _ hp).run hfront op hop
    rcases Prog.run_call_cases hback with ⟨-, hleft⟩ | ⟨a, tr, rfl⟩
    · exact .inr ⟨i, t, k, htask, hleft⟩
    · have hother : (⟨op, a⟩ : Event I) ∈ w.eventsOf i := by simp [hsplit]
      obtain ⟨other, hother, hevent⟩ := List.mem_map.mp hother
      exact .inl ⟨other, (List.mem_filter.mp hother).1, by rw [hevent]⟩

end Interaction
