import IkaSdk.Lib.Except
import IkaSdk.Lib.Weakest
import Mathlib.Data.Int.Notation

/-! A read made again and again, with a pause between two reads, until what it
answers settles the matter or the time for it is over. -/

namespace Interaction

open Wire

/-- What is read, what an answer settles, and the clock that the pauses are
counted on. -/
structure Polling (I : Interface) (ε α β : Type) where
  read : Eff I ε α
  settled : α → Option (Except ε β)
  now : Eff I ε ℤ
  sleep : ℤ → Eff I ε Unit
  pauseMs : ℤ
  outOfTime : α → ε

variable {I : Interface} {Ω : Type} {ε α β : Type}

namespace Polling

variable (p : Polling I ε α β)

/-- One pause, when it ends by the deadline. -/
def pause (deadline : ℤ) (a : α) : Eff I ε Unit := do
  let now ← p.now
  ensure (now + p.pauseMs ≤ deadline) (p.outOfTime a)
  p.sleep p.pauseMs

def poll (deadline : ℤ) : ℕ → Eff I ε β
  | 0 => Eff.cut
  | fuel + 1 => do
    let a ← p.read
    match p.settled a with
    | some outcome => liftM outcome
    | none => do
      p.pause deadline a
      poll deadline fuel

variable {p}

/-- What a poll gives is what its last read settles. -/
theorem gives_poll {deadline : ℤ} {fuel : ℕ} {tr : List (Event I)} {b : β}
    (h : Eff.Gives (p.poll deadline fuel) tr b) :
    ∃ front last a, tr = front ++ last ∧ Eff.Gives p.read last a ∧ p.settled a = some (.ok b) := by
  induction fuel generalizing tr with
  | zero => exact (Eff.gives_cut_iff.mp h).elim
  | succ fuel ih =>
    obtain ⟨tr₁, tr₂, a, rfl, hread, hrest⟩ := Eff.gives_bind_iff.mp h
    cases hsettled : p.settled a with
    | some outcome =>
      simp only [hsettled] at hrest
      obtain ⟨rfl, rfl⟩ := Eff.gives_lift_iff.mp hrest
      exact ⟨[], tr₁, a, by simp, hread, hsettled⟩
    | none =>
      simp only [hsettled] at hrest
      obtain ⟨tr₃, tr₄, _, rfl, -, hagain⟩ := Eff.gives_bind_iff.mp hrest
      obtain ⟨front, last, a', rfl, hlast, hsettled'⟩ := ih hagain
      exact ⟨tr₁ ++ (tr₃ ++ front), last, a', by simp, hlast, hsettled'⟩

/-- What has to hold after a read: the end of the poll when it settles the
matter, else the invariant after the pause. -/
def afterRead (S : Setting I Ω) (p : Polling I ε α β) (deadline : ℤ)
    (post : Except ε β → Ω → Prop) (Inv : Ω → Prop) (a : α) (w : Ω) : Prop :=
  match p.settled a with
  | some outcome => post outcome w
  | none => Eff.wp S (p.pause deadline a) (Eff.followed post fun _ => Inv) w

section Rules

variable {S : Setting I Ω} {deadline : ℤ} {post : Except ε β → Ω → Prop} {a : α} {w : Ω}

theorem afterRead_settled {Inv : Ω → Prop} {outcome : Except ε β}
    (hsettled : p.settled a = some outcome) (h : post outcome w) :
    p.afterRead S deadline post Inv a w := by
  unfold afterRead
  simp only [hsettled]
  exact h

theorem afterRead_pause {Inv : Ω → Prop} (hsettled : p.settled a = none)
    (h : Eff.wp S p.now (Eff.followed post fun now w' =>
      (now + p.pauseMs ≤ deadline → Eff.wp S (p.sleep p.pauseMs)
        (Eff.followed post fun _ => Inv) w') ∧
      (deadline < now + p.pauseMs → post (.error (p.outOfTime a)) w')) w) :
    p.afterRead S deadline post Inv a w := by
  unfold afterRead
  simp only [hsettled]
  refine Eff.wp_bind (Eff.wp_mono h ?_)
  intro r w' hr
  cases r with
  | error e => exact hr
  | ok now =>
    refine Eff.wp_lift_bind (fun _ hensure => hr.1 (ensure_ok hensure)) fun e herror => ?_
    unfold ensure at herror
    split_ifs at herror with hlate
    cases herror
    exact hr.2 (Int.not_le.mp hlate)

/-- The invariant is indexed by how many reads the poll may still make. -/
theorem wp_poll (Inv : ℕ → Ω → Prop) (hcut : ∀ w, Inv 0 w → S.atCut w)
    (hread : ∀ fuel w, Inv (fuel + 1) w →
      Eff.wp S p.read (Eff.followed post (p.afterRead S deadline post (Inv fuel))) w)
    {fuel : ℕ} (h : Inv fuel w) : Eff.wp S (p.poll deadline fuel) post w := by
  induction fuel generalizing w with
  | zero => exact Eff.wp_cut (hcut w h)
  | succ fuel ih =>
    refine Eff.wp_bind (Eff.wp_mono (hread fuel w h) ?_)
    intro r w' hr
    cases r with
    | error e => exact hr
    | ok a =>
      change p.afterRead S deadline post (Inv fuel) a w' at hr
      unfold afterRead at hr
      show Eff.wp S _ post w'
      cases hsettled : p.settled a with
      | some outcome =>
        simp only [hsettled] at hr
        exact Eff.wp_lift hr
      | none =>
        simp only [hsettled] at hr
        refine Eff.wp_bind (Eff.wp_mono hr ?_)
        intro r w'' hpaused
        cases r with
        | error e => exact hpaused
        | ok _ => exact ih hpaused

/-- A poll on a clock that goes forward in every pause: `Kept` holds as long as it
goes on, and with turns enough for the time left it is not cut. -/
theorem wp_poll_within (time : Ω → ℤ) (Kept : Ω → Prop) (enough : Prop)
    (hcut : ∀ w, Kept w → ¬enough → S.atCut w)
    (hread : ∀ w, Kept w → Eff.wp S p.read (Eff.followed post fun a w' =>
      Kept w' ∧ time w ≤ time w' ∧ ∀ outcome, p.settled a = some outcome → post outcome w') w)
    (hnow : ∀ w, Kept w → Eff.wp S p.now (Eff.followed post fun now w' =>
      Kept w' ∧ time w ≤ time w' ∧ now = time w' ∧ ∀ a, post (.error (p.outOfTime a)) w') w)
    (hsleep : ∀ w, Kept w → time w + p.pauseMs ≤ deadline → Eff.wp S (p.sleep p.pauseMs)
      (Eff.followed post fun _ w' => Kept w' ∧ (0 < p.pauseMs → time w < time w')) w)
    {fuel : ℕ} (hpause : enough → 0 < p.pauseMs) (hfuel : enough → deadline < time w + fuel)
    (hkept : Kept w) : Eff.wp S (p.poll deadline (fuel + 1)) post w := by
  -- With one read left the deadline is over, so that no pause follows it.
  refine wp_poll (fun left w => Kept w ∧ (enough → ∃ n : ℕ, left = n + 1 ∧ deadline < time w + n))
    ?_ ?_ ⟨hkept, fun henough => ⟨fuel, rfl, hfuel henough⟩⟩
  · rintro w ⟨hkept, hleft⟩
    refine hcut w hkept fun henough => ?_
    obtain ⟨n, hn, -⟩ := hleft henough
    omega
  rintro left w ⟨hkept, hleft⟩
  refine Eff.wp_mono (hread w hkept) fun r w₁ hw₁ => ?_
  cases r with
  | error e => exact hw₁
  | ok a =>
    obtain ⟨hkept₁, hle₁, hsettles⟩ := hw₁
    rw [Eff.followed]
    cases hsettled : p.settled a with
    | some outcome => exact afterRead_settled hsettled (hsettles outcome hsettled)
    | none =>
      refine afterRead_pause hsettled (Eff.wp_mono (hnow w₁ hkept₁) fun r w₂ hw₂ => ?_)
      cases r with
      | error e => exact hw₂
      | ok now =>
        obtain ⟨hkept₂, hle₂, rfl, hlate⟩ := hw₂
        refine ⟨fun hearly => ?_, fun _ => hlate a⟩
        refine Eff.wp_mono (hsleep w₂ hkept₂ hearly) fun r w₃ hw₃ => ?_
        cases r with
        | error e => exact hw₃
        | ok _ =>
          refine ⟨hw₃.1, fun henough => ?_⟩
          obtain ⟨n, hn, htime⟩ := hleft henough
          have hpositive := hpause henough
          have hforward := hw₃.2 hpositive
          exact ⟨left - 1, by omega, by omega⟩

end Rules

end Polling

end Interaction
