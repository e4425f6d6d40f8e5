import IkaSdk.Lib.Weakest
import Mathlib.Algebra.Order.Ring.Int
import Mathlib.Logic.Function.Basic

/-! Tasks on one thread that share a state. Each task is a program; between two
of its operations any other task may go on. An operation acts on the shared state
at once, or waits for an answer from outside, and time passes only while every
task waits. -/

namespace Interaction

/-- What an operation does to the shared state at a time; none for one that waits. -/
structure Sharing (I : Interface) (σ : Type) where
  act : (op : I.Op) → Option (ℤ → σ → I.Ans op × σ)

/-- A program that was begun, and what is left of it. -/
structure Task (I : Interface) (β : Type) where
  program : Prog I β
  left : Prog I β

structure Entry (I : Interface) where
  task : ℕ
  time : ℤ
  event : Event I

structure World (I : Interface) (σ β : Type) where
  shared : σ
  time : ℤ
  tasks : ℕ → Option (Task I β)
  log : List (Entry I)

variable {I : Interface} {σ β : Type}

namespace World

def entriesOf (w : World I σ β) (i : ℕ) : List (Entry I) := w.log.filter (·.task = i)

def eventsOf (w : World I σ β) (i : ℕ) : List (Event I) := (w.entriesOf i).map (·.event)

def begun (w : World I σ β) (i : ℕ) (p : Prog I β) : World I σ β :=
  { w with tasks := Function.update w.tasks i (some ⟨p, p⟩) }

/-- After one operation of a task. -/
def goneOn (w : World I σ β) (i : ℕ) (t : Task I β) (e : Event I) (left : Prog I β)
    (shared : σ) : World I σ β where
  shared := shared
  time := w.time
  tasks := Function.update w.tasks i (some { t with left })
  log := w.log ++ [⟨i, w.time, e⟩]

@[simp] theorem entriesOf_begun (w : World I σ β) (i j : ℕ) (p : Prog I β) :
    (w.begun i p).entriesOf j = w.entriesOf j := rfl

@[simp] theorem eventsOf_begun (w : World I σ β) (i j : ℕ) (p : Prog I β) :
    (w.begun i p).eventsOf j = w.eventsOf j := rfl

section Projections

variable (w : World I σ β) (i : ℕ) (t : Task I β) (e : Event I) (left : Prog I β) (shared : σ)

theorem entriesOf_goneOn_self :
    (w.goneOn i t e left shared).entriesOf i = w.entriesOf i ++ [⟨i, w.time, e⟩] := by
  simp [entriesOf, goneOn, List.filter_append]

theorem entriesOf_goneOn_other {j : ℕ} (h : j ≠ i) :
    (w.goneOn i t e left shared).entriesOf j = w.entriesOf j := by
  simp [entriesOf, goneOn, List.filter_append, Ne.symm h]

theorem eventsOf_goneOn_self :
    (w.goneOn i t e left shared).eventsOf i = w.eventsOf i ++ [e] := by
  simp [eventsOf, entriesOf_goneOn_self]

theorem eventsOf_goneOn_other {j : ℕ} (h : j ≠ i) :
    (w.goneOn i t e left shared).eventsOf j = w.eventsOf j := by
  simp [eventsOf, entriesOf_goneOn_other _ _ _ _ _ _ h]

end Projections

end World

/-- The answer that an operation may get, and the state that it leaves: any answer
when it comes from outside. -/
def Sharing.Answers (S : Sharing I σ) (time : ℤ) (s : σ) (e : Event I) (s' : σ) : Prop :=
  match S.act e.op with
  | some f => f time s = (e.ans, s')
  | none => s' = s

/-- The next thing that the program does is to act on the shared state. -/
def Acting (S : Sharing I σ) : Prog I β → Prop
  | .call op _ => (S.act op).isSome
  | _ => False

inductive Step (S : Sharing I σ) (programs : Prog I β → Prop) :
    World I σ β → World I σ β → Prop
  | begins {w : World I σ β} {i : ℕ} {p : Prog I β} : w.tasks i = none → programs p →
      Step S programs w (w.begun i p)
  | goesOn {w : World I σ β} {i : ℕ} {t : Task I β} {op : I.Op} {k : I.Ans op → Prog I β}
      {a : I.Ans op} {s' : σ} : w.tasks i = some t → t.left = .call op k →
      S.Answers w.time w.shared ⟨op, a⟩ s' → Step S programs w (w.goneOn i t ⟨op, a⟩ (k a) s')
  | passes {w : World I σ β} {time : ℤ} : w.time ≤ time →
      (∀ i t, w.tasks i = some t → ¬Acting S t.left) → Step S programs w { w with time }

/-- One operation of a task, what comes from outside as it is given. -/
def World.goOn (S : Sharing I σ) (answer : ∀ op, I.Ans op) (i : ℕ) (w : World I σ β) :
    World I σ β :=
  match w.tasks i with
  | some ⟨p, .call op k⟩ =>
    let answered := match S.act op with
      | some f => f w.time w.shared
      | none => (answer op, w.shared)
    w.goneOn i ⟨p, .call op k⟩ ⟨op, answered.1⟩ (k answered.1) answered.2
  | _ => w

/-- The worlds that any order of steps leads to from a state without tasks. -/
inductive Reaches (S : Sharing I σ) (programs : Prog I β → Prop) (first : σ) :
    World I σ β → Prop
  | start (time : ℤ) : Reaches S programs first ⟨first, time, fun _ => none, []⟩
  | step {w w' : World I σ β} : Reaches S programs first w → Step S programs w w' →
      Reaches S programs first w'

namespace Reaches

variable {S : Sharing I σ} {programs : Prog I β → Prop} {first : σ} {w : World I σ β} {i : ℕ}
  {t : Task I β}

theorem entriesOf_none (h : Reaches S programs first w) (hi : w.tasks i = none) :
    w.entriesOf i = [] := by
  induction h with
  | start time => rfl
  | step _ hstep ih =>
    cases hstep with
    | @begins j p hfree _ =>
      by_cases hij : i = j
      · subst hij
        exact ih hfree
      · exact ih (by simpa [World.begun, Function.update_of_ne hij] using hi)
    | @goesOn j u op k a s' hj _ _ =>
      by_cases hij : i = j
      · subst hij
        simp [World.goneOn] at hi
      · rw [World.entriesOf_goneOn_other _ _ _ _ _ _ hij]
        exact ih (by simpa [World.goneOn, Function.update_of_ne hij] using hi)
    | passes _ _ => exact ih hi

/-- A task may go on by itself for a while. -/
theorem goOn (h : Reaches S programs first w) (answer : ∀ op, I.Ans op) (i n : ℕ) :
    Reaches S programs first ((World.goOn S answer i)^[n] w) := by
  induction n with
  | zero => exact h
  | succ n ih =>
    rw [Function.iterate_succ_apply']
    generalize (World.goOn S answer i)^[n] w = w at ih ⊢
    unfold World.goOn
    split
    · next p op k hi =>
      refine ih.step (.goesOn hi rfl ?_)
      unfold Sharing.Answers
      dsimp only
      cases S.act op <;> rfl
    · exact ih

/-- A task's own events are a run of its program. -/
theorem run (h : Reaches S programs first w) (hi : w.tasks i = some t) :
    programs t.program ∧ Prog.Run t.program (w.eventsOf i) t.left := by
  induction h generalizing t with
  | start time => cases hi
  | step hreach hstep ih =>
    cases hstep with
    | @begins j p hfree hp =>
      by_cases hij : i = j
      · subst hij
        obtain rfl : (⟨p, p⟩ : Task I β) = t := by simpa [World.begun] using hi
        refine ⟨hp, ?_⟩
        rw [World.eventsOf_begun, World.eventsOf, hreach.entriesOf_none hfree]
        exact .refl p
      · exact ih (by simpa [World.begun, Function.update_of_ne hij] using hi)
    | @goesOn j u op k a s' hj hleft _ =>
      by_cases hij : i = j
      · subst hij
        obtain rfl : { u with left := k a } = t := by simpa [World.goneOn] using hi
        obtain ⟨hp, hrun⟩ := ih hj
        rw [World.eventsOf_goneOn_self]
        rw [hleft] at hrun
        exact ⟨hp, hrun.trans (.call (.refl (k a)))⟩
      · rw [World.eventsOf_goneOn_other _ _ _ _ _ _ hij]
        exact ih (by simpa [World.goneOn, Function.update_of_ne hij] using hi)
    | passes _ _ => exact ih hi

/-- A task that is about to act does so at the time of its last event. -/
theorem acting_time (h : Reaches S programs first w) (hi : w.tasks i = some t)
    (hacting : Acting S t.left) {front : List (Entry I)} {e : Entry I}
    (hlast : w.entriesOf i = front ++ [e]) : e.time = w.time := by
  induction h generalizing t front e with
  | start time => cases hi
  | step hreach hstep ih =>
    cases hstep with
    | @begins j p hfree hp =>
      by_cases hij : i = j
      · subst hij
        rw [World.entriesOf_begun, hreach.entriesOf_none hfree] at hlast
        simp at hlast
      · exact ih (by simpa [World.begun, Function.update_of_ne hij] using hi) hacting hlast
    | @goesOn j u op k a s' hj hleft _ =>
      by_cases hij : i = j
      · subst hij
        rw [World.entriesOf_goneOn_self] at hlast
        obtain ⟨-, hentry⟩ := List.append_inj' hlast rfl
        rw [← List.singleton_inj.mp hentry]
        rfl
      · rw [World.entriesOf_goneOn_other _ _ _ _ _ _ hij] at hlast
        exact ih (by simpa [World.goneOn, Function.update_of_ne hij] using hi) hacting hlast
    | passes _ hwaits => exact absurd hacting (hwaits i t hi)

theorem acting_mem (h : Reaches S programs first w) (hi : w.tasks i = some t)
    (hacting : Acting S t.left) {front : List (Event I)} {e : Event I}
    (hlast : w.eventsOf i = front ++ [e]) : ⟨i, w.time, e⟩ ∈ w.log := by
  obtain ⟨entries, last, hentries, -, hmap⟩ := List.map_eq_append_iff.mp hlast
  obtain ⟨entry, rfl, rfl⟩ := List.map_eq_singleton_iff.mp hmap
  have hmem : entry ∈ w.entriesOf i := by rw [hentries]; simp
  obtain ⟨hlog, htask⟩ := List.mem_filter.mp hmem
  have htime := h.acting_time hi hacting hentries
  have hentry : entry = ⟨i, w.time, entry.event⟩ := by
    rw [← htime, ← of_decide_eq_true htask]
  exact hentry ▸ hlog

/-- What every program that may be begun does, whatever it is answered, each task
has done so far. -/
theorem wp {atCall : List (Event I) → I.Op → Prop} {post : β → List (Event I) → Prop}
    (hprograms : ∀ p, programs p → Prog.wp (historySetting atCall) p post [])
    (h : Reaches S programs first w) (hi : w.tasks i = some t) :
    Prog.wp (historySetting atCall) t.left post (w.eventsOf i) := by
  obtain ⟨hp, hrun⟩ := h.run hi
  exact Prog.wp_run hrun (hprograms t.program hp) (path_history atCall [] (w.eventsOf i))

end Reaches

end Interaction
