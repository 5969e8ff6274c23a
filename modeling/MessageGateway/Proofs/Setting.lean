import MessageGateway.Program

/-!
# Programs in a setting

A program does nothing alone: something answers its calls, and others may act between two of them.
A setting says which answers may come, what the others may do in the meantime, and which calls are
allowed. What a program ensures in a setting holds whatever is answered and whenever the others
act.

## Main definitions

* `Setting σ`: what surrounds a program, on states in `σ`
* `Setting.Ensures Q p s`: from the state `s` on, every call of `p` is allowed, and its result and
  all states after its end satisfy `Q`
* `Program.Only P p`: every call that `p` may come to satisfies `P`
* `Program.Ends R p`: every result that `p` may come to satisfies `R`
* `Setting.alone`: nothing but something that answers every call
* `Setting.Silent c`: the call `c` is allowed and does no more than others may do

## Main results

* `Setting.Ensures.bind`, `Setting.Ensures.bindExcept`: what a sequence ensures
* `Setting.Ensures.frame`: what no call of a program touches
* `Setting.ensures_of_only`: a program of silent calls does no more than others may do
-/

namespace MessageGateway

open Program

variable {σ α β ε ε' : Type}

/-- What surrounds a program. -/
structure Setting (σ : Type) where
  /-- The answers that may come to a call, and the state after it. -/
  Serves : (c : Call) → σ → c.Answer → σ → Prop
  /-- The states in which the others may leave a state. -/
  Rely : σ → σ → Prop
  /-- The call may be made. -/
  Allowed : Call → σ → Prop
  /-- In a state in which they may leave another one, the others may do nothing. -/
  rely_self : ∀ {s t}, Rely s t → Rely t t
  /-- The others may act again and again. -/
  rely_trans : ∀ {s t u}, Rely s t → Rely t u → Rely s u

namespace Setting

/-- Every call of the program is allowed, and `Q` holds of its result from its end on. -/
def Ensures (E : Setting σ) (Q : α → σ → Prop) : Program α → σ → Prop
  | .done a, s => ∀ t, E.Rely s t → Q a t
  | .ask c next, s => ∀ t, E.Rely s t →
      E.Allowed c t ∧ ∀ a u, E.Serves c t a u → E.Ensures Q (next a) u

variable {E : Setting σ} {Q Q' : α → σ → Prop} {s t : σ}

/-- What the others do takes nothing away. -/
theorem Ensures.of_rely {p : Program α} (h : E.Ensures Q p s) (hst : E.Rely s t) :
    E.Ensures Q p t := by
  cases p with
  | done a => exact fun u htu => h u (E.rely_trans hst htu)
  | ask c next => exact fun u htu => h u (E.rely_trans hst htu)

/-- A program may be looked at after the others have acted. -/
theorem ensures_of_later {p : Program α} (h : ∀ t, E.Rely s t → E.Ensures Q p t) :
    E.Ensures Q p s := by
  cases p with
  | done a => exact fun t hst => h t hst t (E.rely_self hst)
  | ask c next => exact fun t hst => h t hst t (E.rely_self hst)

theorem Ensures.mono {p : Program α} (h : E.Ensures Q p s)
    (hQ : ∀ a t, E.Rely t t → Q a t → Q' a t) : E.Ensures Q' p s := by
  induction p generalizing s with
  | done a => exact fun t hst => hQ a t (E.rely_self hst) (h t hst)
  | ask c next ih =>
    intro t hst
    obtain ⟨allowed, rest⟩ := h t hst
    exact ⟨allowed, fun a u hu => ih a (rest a u hu)⟩

theorem ensures_pure {a : α} (h : ∀ t, E.Rely s t → Q a t) : E.Ensures Q (pure a) s := h

theorem ensures_request {c : Call} {Q : c.Answer → σ → Prop}
    (h : ∀ t, E.Rely s t → E.Allowed c t ∧ ∀ a u, E.Serves c t a u → ∀ v, E.Rely u v → Q a v) :
    E.Ensures Q (request c) s := h

/-- **A sequence**: what comes second starts somewhere after the end of the first, where the result
of the first is good for ever. -/
theorem Ensures.bind {p : Program α} {f : α → Program β} {R : β → σ → Prop}
    (h : E.Ensures Q p s)
    (hf : ∀ a t, E.Rely t t → (∀ u, E.Rely t u → Q a u) → E.Ensures R (f a) t) :
    E.Ensures R (p >>= f) s := by
  induction p generalizing s with
  | done a =>
    -- the second program starts from whatever the others leave
    refine ensures_of_later fun t hst => ?_
    exact hf a t (E.rely_self hst) fun u htu => h u (E.rely_trans hst htu)
  | ask c next ih =>
    intro t hst
    obtain ⟨allowed, rest⟩ := h t hst
    exact ⟨allowed, fun a u hu => ih a (rest a u hu)⟩

theorem Ensures.map {p : Program α} {f : α → β} {R : β → σ → Prop} (h : E.Ensures Q p s)
    (hf : ∀ a t, E.Rely t t → Q a t → R (f a) t) : E.Ensures R (f <$> p) s := by
  rw [map_eq_pure_bind]
  exact h.bind fun a t ht hQ => ensures_pure fun u htu => hf a u (E.rely_self htu) (hQ u htu)

/-! ## Programs that may fail -/

/-- A sequence of which the second part is left out when the first one fails. -/
theorem Ensures.bindExcept {x : ExceptT ε Program α} {f : α → ExceptT ε Program β}
    {Q : Except ε α → σ → Prop} {R : Except ε β → σ → Prop} (h : E.Ensures Q x.run s)
    (ok : ∀ a t, E.Rely t t → (∀ u, E.Rely t u → Q (.ok a) u) → E.Ensures R (f a).run t)
    (error : ∀ e t, E.Rely t t → Q (.error e) t → R (.error e) t) :
    E.Ensures R (x >>= f).run s := by
  refine h.bind fun r t ht hQ => ?_
  cases r with
  | ok a => exact ok a t ht hQ
  | error e => exact fun u htu => error e u (E.rely_self htu) (hQ u htu)

/-- A sequence of which the first part cannot fail. -/
theorem Ensures.bindLift {p : Program α} {f : α → ExceptT ε Program β} {Q : α → σ → Prop}
    {R : Except ε β → σ → Prop} (h : E.Ensures Q p s)
    (hf : ∀ a t, E.Rely t t → (∀ u, E.Rely t u → Q a u) → E.Ensures R (f a).run t) :
    E.Ensures R ((liftM p : ExceptT ε Program α) >>= f).run s := by
  have lifted : E.Ensures (fun r t => ∃ a, r = .ok a ∧ Q a t)
      (liftM p : ExceptT ε Program α).run s :=
    Ensures.map h fun a t _ hQ => ⟨a, rfl, hQ⟩
  refine lifted.bindExcept (fun a t ht hQ => hf a t ht fun u htu => ?_) fun e t _ hQ => ?_
  · obtain ⟨_, eq, hQ⟩ := hQ u htu
    cases eq
    exact hQ
  · obtain ⟨_, eq, -⟩ := hQ
    cases eq

theorem Ensures.orFail {p : Program (Except ε α)} {f : ε → ε'} {Q : Except ε α → σ → Prop}
    {R : Except ε' α → σ → Prop} (h : E.Ensures Q p s)
    (ok : ∀ a t, E.Rely t t → Q (.ok a) t → R (.ok a) t)
    (error : ∀ e t, E.Rely t t → Q (.error e) t → R (.error (f e)) t) :
    E.Ensures R (Program.orFail f p).run s := by
  refine Ensures.map h fun r t ht hQ => ?_
  cases r with
  | ok a => exact ok a t ht hQ
  | error e => exact error e t ht hQ

theorem Ensures.bindOrFail {p : Program (Except ε α)} {f : ε → ε'} {g : α → ExceptT ε' Program β}
    {Q : Except ε α → σ → Prop} {R : Except ε' β → σ → Prop} (h : E.Ensures Q p s)
    (ok : ∀ a t, E.Rely t t → (∀ u, E.Rely t u → Q (.ok a) u) → E.Ensures R (g a).run t)
    (error : ∀ e t, E.Rely t t → Q (.error e) t → R (.error (f e)) t) :
    E.Ensures R (Program.orFail f p >>= g).run s := by
  show E.Ensures R ((p >>= fun r => pure (r.mapError f)) >>= ExceptT.bindCont g) s
  rw [bind_assoc]
  refine h.bind fun r t ht hQ => ?_
  cases r with
  | ok a => exact ok a t ht hQ
  | error e => exact fun u htu => error e u (E.rely_self htu) (hQ u htu)

theorem Ensures.bindBestEffort {p : Program (Except ε α)} {g : Option α → Program β}
    {Q : Except ε α → σ → Prop} {R : β → σ → Prop} (h : E.Ensures Q p s)
    (hg : ∀ r t, E.Rely t t → (∀ u, E.Rely t u → Q r u) → E.Ensures R (g r.toOption) t) :
    E.Ensures R (Program.bestEffort p >>= g) s := by
  unfold Program.bestEffort
  rw [bind_assoc]
  exact h.bind hg

end Setting

/-! ## The calls of a program -/

namespace Program

/-- Every call that the program may come to satisfies `P`. -/
def Only (P : Call → Prop) : Program α → Prop
  | .done _ => True
  | .ask c next => P c ∧ ∀ a, (next a).Only P

variable {P : Call → Prop}

theorem only_pure (a : α) : (pure a : Program α).Only P := trivial

theorem only_request {c : Call} (h : P c) : (request c).Only P :=
  ⟨h, fun _ => trivial⟩

theorem only_of_forall (p : Program α) (h : ∀ c, P c) : p.Only P := by
  induction p with
  | done a => trivial
  | ask c next ih => exact ⟨h c, ih⟩

theorem Only.bind {p : Program α} {f : α → Program β} (hp : p.Only P)
    (hf : ∀ a, (f a).Only P) : (p >>= f).Only P := by
  induction p with
  | done a => exact hf a
  | ask c next ih => exact ⟨hp.1, fun a => ih a (hp.2 a)⟩

theorem Only.map {p : Program α} {f : α → β} (hp : p.Only P) : (f <$> p).Only P := by
  rw [map_eq_pure_bind]
  exact hp.bind fun a => only_pure (f a)

theorem Only.mono {P' : Call → Prop} {p : Program α} (hp : p.Only P) (h : ∀ c, P c → P' c) :
    p.Only P' := by
  induction p with
  | done a => trivial
  | ask c next ih => exact ⟨h c hp.1, fun a => ih a (hp.2 a)⟩

theorem Only.bindExcept {x : ExceptT ε Program α} {f : α → ExceptT ε Program β}
    (hx : x.run.Only P) (hf : ∀ a, (f a).run.Only P) : (x >>= f).run.Only P := by
  refine Only.bind hx fun r => ?_
  cases r with
  | ok a => exact hf a
  | error e => trivial

theorem Only.orFail {p : Program (Except ε α)} {f : ε → ε'} (hp : p.Only P) :
    (Program.orFail f p).run.Only P :=
  Only.map hp

theorem Only.bestEffort {p : Program (Except ε α)} (hp : p.Only P) :
    (Program.bestEffort p).Only P :=
  Only.map hp

/-! ## The results of a program -/

/-- Every result that the program may come to satisfies `R`. -/
def Ends (R : α → Prop) : Program α → Prop
  | .done a => R a
  | .ask _ next => ∀ a, (next a).Ends R

theorem ends_of_forall {R : α → Prop} (h : ∀ a, R a) (p : Program α) : p.Ends R := by
  induction p with
  | done a => exact h a
  | ask c next ih => exact ih

theorem Ends.bind {Q : α → Prop} {R : β → Prop} {p : Program α} {f : α → Program β}
    (hp : p.Ends Q) (hf : ∀ a, Q a → (f a).Ends R) : (p >>= f).Ends R := by
  induction p with
  | done a => exact hf a hp
  | ask c next ih => exact fun a => ih a (hp a)

end Program

namespace Setting

variable {E : Setting σ} {Q : α → σ → Prop} {s : σ}

/-- The call is always allowed, and to others it is nothing but one of their own acts. -/
def Silent (E : Setting σ) (c : Call) : Prop :=
  ∀ {s}, E.Rely s s → E.Allowed c s ∧ ∀ a t, E.Serves c s a t → E.Rely s t

/-- A program of silent calls does no more than the others may do. -/
theorem ensures_of_only {p : Program α} (hp : p.Only E.Silent)
    (h : ∀ a t, E.Rely s t → Q a t) : E.Ensures Q p s := by
  induction p generalizing s with
  | done a => exact fun t hst => h a t hst
  | ask c next ih =>
    intro t hst
    obtain ⟨allowed, silent⟩ := hp.1 (E.rely_self hst)
    refine ⟨allowed, fun a u hu => ih a (hp.2 a) fun b v huv => h b v ?_⟩
    exact E.rely_trans hst (E.rely_trans (silent a u hu) huv)

theorem Ensures.ends {R : α → Prop} {p : Program α} (h : E.Ensures Q p s) (hp : p.Ends R) :
    E.Ensures (fun a t => Q a t ∧ R a) p s := by
  induction p generalizing s with
  | done a => exact fun t hst => ⟨h t hst, hp⟩
  | ask c next ih =>
    intro t hst
    obtain ⟨allowed, rest⟩ := h t hst
    exact ⟨allowed, fun a u hu => ih a (rest a u hu) (hp a)⟩

/-- **A frame**: what the others keep, and every call of the program keeps, holds at its end. -/
theorem Ensures.frame {P : Call → Prop} {I : σ → Prop} {p : Program α} (h : E.Ensures Q p s)
    (only : p.Only P) (others : ∀ {s t}, E.Rely s t → I s → I t)
    (calls : ∀ {c s a t}, P c → E.Rely s s → E.Allowed c s → E.Serves c s a t → I s → I t)
    (hI : I s) :
    E.Ensures (fun a t => Q a t ∧ I t) p s := by
  induction p generalizing s with
  | done a => exact fun t hst => ⟨h t hst, others hst hI⟩
  | ask c next ih =>
    intro t hst
    obtain ⟨allowed, rest⟩ := h t hst
    refine ⟨allowed, fun a u hu => ih a (rest a u hu) (only.2 a) ?_⟩
    exact calls only.1 (E.rely_self hst) allowed hu (others hst hI)

/-- A program may be run if every call of it is allowed everywhere. -/
theorem ensures_of_allowed {p : Program α} (hp : p.Only fun c => ∀ s, E.Allowed c s) :
    E.Ensures (fun _ _ => True) p s := by
  induction p generalizing s with
  | done a => exact fun _ _ => trivial
  | ask c next ih => exact fun t _ => ⟨hp.1 t, fun a _ _ => ih a (hp.2 a)⟩

/-! ## A program alone -/

/-- What surrounds a program that runs alone against something that answers every call. -/
def alone (answer : (c : Call) → σ → c.Answer × σ) : Setting σ where
  Serves c s a t := answer c s = (a, t)
  Rely := Eq
  Allowed _ _ := True
  rely_self _ := rfl
  rely_trans := Eq.trans

theorem run_of_ensures {answer : (c : Call) → σ → c.Answer × σ} {p : Program α}
    (h : (alone answer).Ensures Q p s) : Q (p.run answer s).1 (p.run answer s).2 := by
  induction p generalizing s with
  | done a => exact h s rfl
  | ask c next ih => exact ih _ ((h s rfl).2 _ _ rfl)

end Setting

end MessageGateway
