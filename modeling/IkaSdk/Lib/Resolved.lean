import IkaSdk.Lib.Throwing

/-! Programs whose operations are answered by a handler: a sequence and a `try` are answered
part by part, so two programs that differ in one part come to the same where that part does. -/

namespace Interaction

namespace Prog

variable {I J : Interface} {β γ δ : Type}

theorem prog_bind_assoc (p : Prog I β) (f : β → Prog I γ) (g : γ → Prog I δ) :
    p >>= f >>= g = p >>= fun b => f b >>= g := by
  induction p with
  | pure b => rfl
  | cut => rfl
  | call op k ih =>
    simp only [call_bind]
    congr 1
    funext a
    exact ih a

theorem prog_bind_pure (p : Prog I β) : p >>= Prog.pure = p := by
  induction p with
  | pure b => rfl
  | cut => rfl
  | call op k ih =>
    simp only [call_bind]
    congr 1
    funext a
    exact ih a

instance : LawfulMonad (Prog I) :=
  .mk' (Prog I) (fun p => prog_bind_pure p) (fun _ _ => rfl) prog_bind_assoc

theorem interp_bind (h : ∀ op, Prog J (I.Ans op)) (p : Prog I β) (f : β → Prog I γ) :
    (p >>= f).interp h = p.interp h >>= fun b => (f b).interp h := by
  induction p with
  | pure b => rfl
  | cut => rfl
  | call op k ih =>
    show (h op >>= fun a => (k a >>= f).interp h) =
      (h op >>= fun a => (k a).interp h) >>= fun b => (f b).interp h
    rw [bind_assoc]
    congr 1
    funext a
    exact ih a

end Prog

namespace Eff

variable {I : Interface} {ε α β : Type} {h : ∀ op, Prog I (I.Ans op)}

/-- The program with its operations answered by the handler. -/
def resolve (h : ∀ op, Prog I (I.Ans op)) (p : Eff I ε α) : Eff I ε α :=
  ExceptT.mk (p.run.interp h)

@[simp] theorem resolve_pure (a : α) : resolve h (pure a : Eff I ε α) = pure a := rfl

@[simp] theorem resolve_throw (e : ε) : resolve h (throw e : Eff I ε α) = throw e := rfl

@[simp] theorem resolve_lift (x : Except ε α) :
    resolve h (liftM x : Eff I ε α) = (liftM x : Eff I ε α) := rfl

theorem resolve_bind (p : Eff I ε α) (f : α → Eff I ε β) :
    resolve h (p >>= f) = resolve h p >>= fun a => resolve h (f a) := by
  apply ExceptT.ext
  show (p.run >>= ExceptT.bindCont f).interp h =
    p.run.interp h >>= ExceptT.bindCont fun a => resolve h (f a)
  rw [Prog.interp_bind]
  congr 1
  funext r
  cases r with
  | ok a => rfl
  | error e => rfl

theorem resolve_tryCatch (p : Eff I ε α) (handle : ε → Eff I ε α) :
    resolve h (tryCatch p handle) = tryCatch (resolve h p) fun e => resolve h (handle e) := by
  apply ExceptT.ext
  show (p.run >>= fun r => (tryCatch (liftM r : Eff I ε α) handle).run).interp h =
    p.run.interp h >>= fun r =>
      (tryCatch (liftM r : Eff I ε α) fun e => resolve h (handle e)).run
  rw [Prog.interp_bind]
  congr 1
  funext r
  cases r with
  | ok a => rfl
  | error e => rfl

/-- An operation that is answered in advance. -/
theorem resolve_liftOp {op : I.Op} {a : I.Ans op} (hop : h op = Prog.pure a) :
    resolve h (liftOp op : Eff I ε _) = pure a := by
  apply ExceptT.ext
  show (h op >>= fun a => Prog.pure (Except.ok a)) = Prog.pure (Except.ok a)
  rw [hop]
  rfl

theorem resolve_bind_congr {p q : Eff I ε α} {f g : α → Eff I ε β}
    (hpq : resolve h p = resolve h q) (hfg : ∀ a, resolve h (f a) = resolve h (g a)) :
    resolve h (p >>= f) = resolve h (q >>= g) := by
  rw [resolve_bind, resolve_bind, hpq]
  congr 1
  funext a
  exact hfg a

theorem resolve_tryCatch_congr {p q : Eff I ε α} {f g : ε → Eff I ε α}
    (hpq : resolve h p = resolve h q) (hfg : ∀ e, resolve h (f e) = resolve h (g e)) :
    resolve h (tryCatch p f) = resolve h (tryCatch q g) := by
  rw [resolve_tryCatch, resolve_tryCatch, hpq]
  congr 1
  funext e
  exact hfg e

end Eff

end Interaction
