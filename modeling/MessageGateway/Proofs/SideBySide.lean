import MessageGateway.Proofs.Setting

/-!
# Programs side by side

Two programs, each of them alone against something of its own that answers its calls, are compared
by what they come to. A call that both of them make and that is answered alike keeps them in step;
a call that only one of them makes is known from that side alone.

## Main definitions

* `Together R p q s t`: `R` holds of the two results and of the two states at the end

## Main results

* `Together.bind`: sequences side by side
* `together_of_only`: one program on both sides, of calls that are answered alike
* `together_of_ensures`: what is known from each side alone
-/

namespace MessageGateway

open Program Setting

variable {σ τ α β γ δ ε : Type} {A : (c : Call) → σ → c.Answer × σ}
  {B : (c : Call) → τ → c.Answer × τ} {p : Program α} {q : Program β} {s : σ} {t : τ}

theorem Program.run_ask (c : Call) (next : c.Answer → Program α) (s : σ) :
    (ask c next).run A s = (next (A c s).1).run A (A c s).2 := rfl

theorem Program.run_bind (p : Program α) (f : α → Program β) (s : σ) :
    (p >>= f).run A s = (f (p.run A s).1).run A (p.run A s).2 := by
  induction p generalizing s with
  | done a => rfl
  | ask c next ih => exact ih _ _

theorem Program.liftM_bind_run (p : Program α) (f : α → ExceptT ε Program β) :
    ((liftM p : ExceptT ε Program α) >>= f).run = p >>= fun a => (f a).run := by
  show (Except.ok <$> p) >>= ExceptT.bindCont f = _
  rw [map_eq_pure_bind, bind_assoc]
  rfl

/-- `R` holds of what `p`, run from `s` against `A`, and `q`, run from `t` against `B`, come to. -/
def Together (A : (c : Call) → σ → c.Answer × σ) (B : (c : Call) → τ → c.Answer × τ)
    (R : α → β → σ → τ → Prop) (p : Program α) (q : Program β) (s : σ) (t : τ) : Prop :=
  R (p.run A s).1 (q.run B t).1 (p.run A s).2 (q.run B t).2

variable {Q R : α → β → σ → τ → Prop}

theorem Together.run (h : Together A B R p q s t) :
    R (p.run A s).1 (q.run B t).1 (p.run A s).2 (q.run B t).2 := h

theorem together_pure {a : α} {b : β} (h : R a b s t) : Together A B R (pure a) (pure b) s t := h

theorem Together.mono (h : Together A B Q p q s t) (hR : ∀ a b u v, Q a b u v → R a b u v) :
    Together A B R p q s t :=
  hR _ _ _ _ h

theorem Together.and (hQ : Together A B Q p q s t) (hR : Together A B R p q s t) :
    Together A B (fun a b u v => Q a b u v ∧ R a b u v) p q s t :=
  ⟨hQ, hR⟩

/-- Each program ensures what it ensures alone. -/
theorem together_of_ensures {Q : α → σ → Prop} {R : β → τ → Prop}
    (hp : (alone A).Ensures Q p s) (hq : (alone B).Ensures R q t) :
    Together A B (fun a b u v => Q a u ∧ R b v) p q s t :=
  ⟨run_of_ensures hp, run_of_ensures hq⟩

/-- **Sequences side by side**: the second parts start where the first ones end. -/
theorem Together.bind {f : α → Program γ} {g : β → Program δ} {R : γ → δ → σ → τ → Prop}
    (h : Together A B Q p q s t)
    (hR : ∀ a b u v, Q a b u v → Together A B R (f a) (g b) u v) :
    Together A B R (p >>= f) (q >>= g) s t := by
  unfold Together
  rw [run_bind, run_bind]
  exact hR _ _ _ _ h

/-- Parts that cannot fail. -/
theorem Together.bindLift {f : α → ExceptT ε Program γ} {g : β → ExceptT ε Program δ}
    {R : Except ε γ → Except ε δ → σ → τ → Prop} (h : Together A B Q p q s t)
    (hR : ∀ a b u v, Q a b u v → Together A B R (f a).run (g b).run u v) :
    Together A B R ((liftM p : ExceptT ε Program α) >>= f).run
      ((liftM q : ExceptT ε Program β) >>= g).run s t := by
  rw [liftM_bind_run, liftM_bind_run]
  exact h.bind hR

/-- The right side goes first. -/
theorem Together.ofRight {g : β → Program δ} {Q : β → τ → Prop} {R : α → δ → σ → τ → Prop}
    (h : (alone B).Ensures Q q t) (hR : ∀ b v, Q b v → Together A B R p (g b) s v) :
    Together A B R p (q >>= g) s t := by
  unfold Together
  rw [run_bind]
  exact hR _ _ (run_of_ensures h)

/-- The right side goes on alone. -/
theorem Together.bindRight {g : β → Program δ} {R : α → δ → σ → τ → Prop}
    (h : Together A B Q p q s t)
    (hR : ∀ a b u v, Q a b u v → (alone B).Ensures (fun d v => R a d u v) (g b) v) :
    Together A B R p (q >>= g) s t := by
  unfold Together
  rw [run_bind]
  exact run_of_ensures (hR _ _ _ _ h)

/-- Parts that fail alike and go on alike, of which the second ones start in states that satisfy
`I`. -/
theorem Together.bindExcept {I : σ → τ → Prop} {x y : ExceptT ε Program α}
    {f : α → ExceptT ε Program γ} {g : α → ExceptT ε Program δ}
    {R : Except ε γ → Except ε δ → σ → τ → Prop}
    (h : Together A B (fun a b u v => a = b ∧ I u v) x.run y.run s t)
    (ok : ∀ a u v, I u v → Together A B R (f a).run (g a).run u v)
    (error : ∀ e u v, I u v → R (.error e) (.error e) u v) :
    Together A B R (x >>= f).run (y >>= g).run s t := by
  refine Together.bind h ?_
  rintro a _ u v ⟨rfl, hI⟩
  cases a with
  | ok a => exact ok a u v hI
  | error e => exact error e u v hI

/-- **In step**: where the calls of a program are answered alike and keep `I`, it comes to the same
result on both sides. -/
theorem together_of_only {I : σ → τ → Prop} {P : Call → Prop} (only : p.Only P)
    (step : ∀ {c s t}, P c → I s t → (A c s).1 = (B c t).1 ∧ I (A c s).2 (B c t).2)
    (hI : I s t) : Together A B (fun a b u v => a = b ∧ I u v) p p s t := by
  induction p generalizing s t with
  | done a => exact ⟨rfl, hI⟩
  | ask c next ih =>
    obtain ⟨same, hI⟩ := step only.1 hI
    have rest := ih (A c s).1 (only.2 _) hI
    unfold Together at rest ⊢
    rw [run_ask, run_ask, ← same]
    exact rest

end MessageGateway
