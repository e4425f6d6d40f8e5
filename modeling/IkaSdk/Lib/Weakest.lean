import IkaSdk.Lib.Beginnings

/-! Weakest preconditions of programs whose operations move a world: what has to
hold of the world now, so that something holds of it at every later moment of
the run, and something more when the program has returned or thrown. -/

namespace Interaction

/-- How events move the world, what holds of it when an operation is called, and
what holds of it where a loop is followed no further. -/
structure Setting (I : Interface) (Ω : Type) where
  moves : Ω → Event I → Ω → Prop
  atCall : Ω → I.Op → Prop
  atCut : Ω → Prop

variable {I : Interface} {Ω : Type} {ε α β : Type}

/-- The events, in this order, move the world from the first one to the last. -/
inductive Path (moves : Ω → Event I → Ω → Prop) : Ω → List (Event I) → Ω → Prop
  | nil (w : Ω) : Path moves w [] w
  | cons {w w' w'' : Ω} {e : Event I} {tr : List (Event I)} :
      moves w e w' → Path moves w' tr w'' → Path moves w (e :: tr) w''

section Path

variable {moves : Ω → Event I → Ω → Prop} {w w' w'' : Ω} {tr tr' : List (Event I)}

theorem Path.append (h : Path moves w tr w') (h' : Path moves w' tr' w'') :
    Path moves w (tr ++ tr') w'' := by
  induction h with
  | nil => exact h'
  | cons hmove _ ih => exact .cons hmove (ih h')

theorem Path.of_append (h : Path moves w (tr ++ tr') w'') :
    ∃ w', Path moves w tr w' ∧ Path moves w' tr' w'' := by
  induction tr generalizing w with
  | nil => exact ⟨w, .nil w, h⟩
  | cons e tr ih =>
    cases h with
    | cons hmove hrest =>
      obtain ⟨w', hfront, hback⟩ := ih hrest
      exact ⟨w', .cons hmove hfront, hback⟩

end Path

namespace Prog

variable (S : Setting I Ω)

def wp (p : Prog I β) (post : β → Ω → Prop) (w : Ω) : Prop :=
  match p with
  | pure b => post b w
  | cut => S.atCut w
  | call op k => S.atCall w op ∧ ∀ a w', S.moves w ⟨op, a⟩ w' → (k a).wp post w'

variable {S}

theorem wp_mono {p : Prog I β} {post post' : β → Ω → Prop} {w : Ω} (h : p.wp S post w)
    (himp : ∀ b w, post b w → post' b w) : p.wp S post' w := by
  induction p generalizing w with
  | pure b => exact himp b w h
  | cut => exact h
  | call op k ih => exact ⟨h.1, fun a w' hmove => ih a (h.2 a w' hmove)⟩

theorem wp_bind {γ : Type} {p : Prog I β} {f : β → Prog I γ} {post : γ → Ω → Prop} {w : Ω}
    (h : p.wp S (fun b => (f b).wp S post) w) : (p >>= f).wp S post w := by
  induction p generalizing w with
  | pure b => exact h
  | cut => exact h
  | call op k ih => exact ⟨h.1, fun a w' hmove => ih a (h.2 a w' hmove)⟩

/-- What is left of a program after some events has what it needs in the world
they lead to. -/
theorem wp_run {p q : Prog I β} {tr : List (Event I)} {post : β → Ω → Prop} {w w' : Ω}
    (hrun : Run p tr q) (h : p.wp S post w) (hpath : Path S.moves w tr w') : q.wp S post w' := by
  induction hrun generalizing w with
  | refl =>
    cases hpath
    exact h
  | call _ ih =>
    cases hpath with
    | cons hmove hrest => exact ih (h.2 _ _ hmove) hrest

end Prog

namespace Eff

variable (S : Setting I Ω)

def wp (p : Eff I ε α) (post : Except ε α → Ω → Prop) (w : Ω) : Prop := Prog.wp S p.run post w

variable {S} {w : Ω}

theorem wp_mono {p : Eff I ε α} {post post' : Except ε α → Ω → Prop} (h : wp S p post w)
    (himp : ∀ r w, post r w → post' r w) : wp S p post' w := Prog.wp_mono h himp

theorem wp_pure {a : α} {post : Except ε α → Ω → Prop} (h : post (.ok a) w) :
    wp S (pure a) post w := h

theorem wp_throw {e : ε} {post : Except ε α → Ω → Prop} (h : post (.error e) w) :
    wp S (throw e) post w := h

theorem wp_lift {x : Except ε α} {post : Except ε α → Ω → Prop} (h : post x w) :
    wp S (liftM x) post w := h

theorem wp_cut {post : Except ε α → Ω → Prop} (h : S.atCut w) : wp S cut post w := h

theorem wp_ofOp {op : I.Op} {f : I.Ans op → Except ε α} {post : Except ε α → Ω → Prop}
    (hcall : S.atCall w op) (h : ∀ a w', S.moves w ⟨op, a⟩ w' → post (f a) w') :
    wp S (ofProg (.call op fun a => .pure (f a))) post w := ⟨hcall, h⟩

theorem wp_liftOp {op : I.Op} {post : Except ε (I.Ans op) → Ω → Prop} (hcall : S.atCall w op)
    (h : ∀ a w', S.moves w ⟨op, a⟩ w' → post (.ok a) w') : wp S (liftOp op) post w :=
  ⟨hcall, h⟩

/-- After a first part that returned, the second part; one that threw ends the
sequence. -/
def followed (post : Except ε β → Ω → Prop) (f : α → Ω → Prop) : Except ε α → Ω → Prop
  | .ok a => f a
  | .error e => post (.error e)

theorem wp_bind {p : Eff I ε α} {f : α → Eff I ε β} {post : Except ε β → Ω → Prop}
    (h : wp S p (followed post fun a => wp S (f a) post) w) : wp S (p >>= f) post w := by
  rw [wp, run_bind]
  refine Prog.wp_bind (Prog.wp_mono h ?_)
  intro r w' hr
  cases r with
  | ok a => exact hr
  | error e => exact hr

theorem wp_lift_bind {x : Except ε α} {f : α → Eff I ε β} {post : Except ε β → Ω → Prop}
    (hok : ∀ a, x = .ok a → wp S (f a) post w) (herror : ∀ e, x = .error e → post (.error e) w) :
    wp S ((liftM x : Eff I ε α) >>= f) post w := by
  refine wp_bind (wp_lift ?_)
  cases x with
  | ok a => exact hok a rfl
  | error e => exact herror e rfl

theorem wp_ofOp_bind {op : I.Op} {g : I.Ans op → Except ε α} {f : α → Eff I ε β}
    {post : Except ε β → Ω → Prop} (hcall : S.atCall w op)
    (h : ∀ a w', S.moves w ⟨op, a⟩ w' →
      followed post (fun b => wp S (f b) post) (g a) w') :
    wp S (ofProg (.call op fun a => .pure (g a)) >>= f) post w :=
  wp_bind (wp_ofOp hcall h)

theorem wp_liftOp_bind {op : I.Op} {f : I.Ans op → Eff I ε β} {post : Except ε β → Ω → Prop}
    (hcall : S.atCall w op) (h : ∀ a w', S.moves w ⟨op, a⟩ w' → wp S (f a) post w') :
    wp S (liftOp op >>= f) post w := wp_bind (wp_liftOp hcall h)

theorem wp_attempt {p : Eff I ε α} {post : Except ε (Except ε α) → Ω → Prop}
    (h : wp S p (fun r => post (.ok r)) w) : wp S (attempt p) post w :=
  Prog.wp_bind h

theorem wp_attempt_bind {p : Eff I ε α} {f : Except ε α → Eff I ε β}
    {post : Except ε β → Ω → Prop} (h : wp S p (fun r => wp S (f r) post) w) :
    wp S (attempt p >>= f) post w := wp_bind (wp_attempt h)

theorem wp_tryCatch {p : Eff I ε α} {h : ε → Eff I ε α} {post : Except ε α → Ω → Prop}
    (hp : wp S p (fun r w' => match r with
      | .ok a => post (.ok a) w'
      | .error e => wp S (h e) post w') w) : wp S (tryCatch p h) post w := by
  refine Prog.wp_bind (Prog.wp_mono hp ?_)
  intro r w' hr
  cases r with
  | ok a => exact hr
  | error e => exact hr

/-! ## Runs -/

theorem wp_returns {p : Eff I ε α} {tr : List (Event I)} {r : Except ε α}
    {post : Except ε α → Ω → Prop} {w' : Ω} (h : wp S p post w)
    (hrun : Prog.Returns p.run tr r) (hpath : Path S.moves w tr w') : post r w' :=
  Prog.wp_run hrun h hpath

/-- A run that is cut has come where the setting says what holds. -/
theorem wp_cuts {p : Eff I ε α} {tr : List (Event I)} {post : Except ε α → Ω → Prop} {w' : Ω}
    (h : wp S p post w) (hrun : Prog.Run p.run tr .cut) (hpath : Path S.moves w tr w') :
    S.atCut w' := Prog.wp_run hrun h hpath

/-- Every operation is called in a world that is as the setting says. -/
theorem wp_calls {p : Eff I ε α} {tr tr' : List (Event I)} {e : Event I}
    {post : Except ε α → Ω → Prop} {w' : Ω} (h : wp S p post w)
    (hbegins : Begins p (tr ++ e :: tr')) (hpath : Path S.moves w tr w') : S.atCall w' e.op := by
  obtain ⟨q, hrun⟩ := hbegins
  obtain ⟨q', hfront, hback⟩ := Prog.run_of_append hrun
  have hq := Prog.wp_run hfront h hpath
  cases hback with
  | call _ => exact hq.1

/-- However far a run has come, the world has what every call, every end and
every cut say of it. -/
theorem wp_begins {p : Eff I ε α} {tr : List (Event I)} {post : Except ε α → Ω → Prop} {w' : Ω}
    {during : Ω → Prop} (h : wp S p post w) (hbegins : Begins p tr) (hpath : Path S.moves w tr w')
    (hpost : ∀ r w, post r w → during w) (hcall : ∀ w op, S.atCall w op → during w)
    (hcut : ∀ w, S.atCut w → during w) : during w' := by
  obtain ⟨q, hrun⟩ := hbegins
  have hq := Prog.wp_run hrun h hpath
  cases q with
  | pure r => exact hpost r w' hq
  | cut => exact hcut w' hq
  | call op k => exact hcall w' op hq.1

end Eff

/-! ## Histories -/

/-- The world that is the list of the events so far. -/
def historySetting (atCall : List (Event I) → I.Op → Prop) : Setting I (List (Event I)) where
  moves h e h' := h' = h ++ [e]
  atCall := atCall
  atCut _ := True

theorem path_history (atCall : List (Event I) → I.Op → Prop) (h tr : List (Event I)) :
    Path (historySetting atCall).moves h tr (h ++ tr) := by
  induction tr generalizing h with
  | nil =>
    rw [List.append_nil]
    exact .nil h
  | cons e tr ih =>
    have hrest := ih (h ++ [e])
    rw [List.append_assoc] at hrest
    exact .cons rfl hrest

/-- Where a program needs nothing more at its end, its end is that of a run. -/
theorem Prog.wp_history_returns {β : Type} {atCall : List (Event I) → I.Op → Prop} {p : Prog I β}
    {h : List (Event I)} (hp : p.wp (historySetting atCall) (fun _ _ => True) h) :
    p.wp (historySetting atCall) (fun b h' => ∃ tr, h' = h ++ tr ∧ Returns p tr b) h := by
  induction p generalizing h with
  | pure b => exact ⟨[], (List.append_nil h).symm, .refl _⟩
  | cut => trivial
  | call op k ih =>
    refine ⟨hp.1, ?_⟩
    rintro a _ rfl
    refine wp_mono (ih a (hp.2 a _ rfl)) ?_
    rintro b _ ⟨tr, rfl, hreturns⟩
    exact ⟨⟨op, a⟩ :: tr, by simp, .call hreturns⟩

/-- What comes before a program stays at the front of the history. -/
theorem Prog.wp_history_grows {β : Type} {atCall : List (Event I) → I.Op → Prop} {p : Prog I β}
    {post : β → List (Event I) → Prop} {h : List (Event I)}
    (hp : p.wp (historySetting atCall) post h) :
    p.wp (historySetting atCall) (fun b h' => (∃ tr, h' = h ++ tr) ∧ post b h') h := by
  induction p generalizing h with
  | pure b => exact ⟨⟨[], (List.append_nil h).symm⟩, hp⟩
  | cut => trivial
  | call op k ih =>
    refine ⟨hp.1, ?_⟩
    rintro a _ rfl
    refine wp_mono (ih a (hp.2 a _ rfl)) ?_
    rintro b _ ⟨⟨tr, rfl⟩, hpost⟩
    exact ⟨⟨⟨op, a⟩ :: tr, by simp⟩, hpost⟩

/-- Implementations that need nothing of the world may stand for the operations of
any program. -/
theorem Prog.wp_interp {J : Interface} {β : Type} {S : Setting J Ω}
    {handler : ∀ op, Prog J (I.Ans op)} (hcut : ∀ w, S.atCut w)
    (hhandler : ∀ op w, (handler op).wp S (fun _ _ => True) w) (p : Prog I β) (w : Ω) :
    (p.interp handler).wp S (fun _ _ => True) w := by
  induction p generalizing w with
  | pure b => trivial
  | cut => exact hcut w
  | call op k ih => exact wp_bind (wp_mono (hhandler op w) fun a w' _ => ih a w')

end Interaction
