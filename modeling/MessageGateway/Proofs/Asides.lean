import MessageGateway.Proofs.SideBySide
import MessageGateway.Proofs.Traces

/-!
# Two runs that differ in asides

Some calls of a program are asides: whatever is answered to them, the program should come to the
same. Two runs whose other calls are answered alike are in step if each of them may take asides of
its own, and all other calls are made by both.

What answers the calls of a run may know everything that was called before. So the two runs are
compared by what they have called and heard apart from asides.

## Main definitions

* `Oracle`, `Oracle.answer`: what answers the calls of a run
* `Trace.main aside t`: the calls of a trace that are no asides
* `Oracle.Alike`: two oracles answer the calls of a program alike, but for its asides
* `InStep aside Q p q t u`: `p` and `q` go on in step from `t` and `u`, and come to results of which
  `Q` holds

## Main results

* `InStep.bind`, `InStep.bindExcept`: sequences in step
* `inStep_only`, `inStep_asides`: programs without asides, and programs of asides
* `InStep.run`: programs in step come to results of which `Q` holds, whatever is answered
-/

namespace MessageGateway

open Program Setting

variable {α β γ δ ε : Type}

/-- What answers the calls of a run, knowing all calls before. -/
abbrev Oracle := Trace → (c : Call) → c.Answer

/-- A call is answered and comes on top of the trace. -/
def Oracle.answer (f : Oracle) (c : Call) (t : Trace) : c.Answer × Trace :=
  (f t c, ⟨c, f t c⟩ :: t)

/-- The calls of a trace that are no asides. -/
def Trace.main (aside : Call → Trace → Bool) : Trace → Trace
  | [] => []
  | e :: t => if aside e.call t then Trace.main aside t else e :: Trace.main aside t

/-- After the calls `t` the program makes the call `c`. -/
def Program.Asks (p : Program α) (t : Trace) (c : Call) : Prop :=
  ∃ next, p.Made t (.ask c next)

/-- The oracles answer the calls of `p` alike: when both have heard the same apart from asides, they
answer a call that is no aside with the same. -/
def Oracle.Alike (aside : Call → Trace → Bool) (p : Program α) (f g : Oracle) : Prop :=
  ∀ c t u, p.Asks t c → p.Asks u c → t.main aside = u.main aside →
    aside c t = false → aside c u = false → f t c = g u c

variable {aside : Call → Trace → Bool} {c : Call} {t u : Trace}

theorem Trace.main_cons_of_aside (h : aside c t = true) (a : c.Answer) :
    Trace.main aside (⟨c, a⟩ :: t) = t.main aside := by
  simp [Trace.main, h]

theorem Trace.main_cons (h : aside c t = false) (a : c.Answer) :
    Trace.main aside (⟨c, a⟩ :: t) = ⟨c, a⟩ :: t.main aside := by
  simp [Trace.main, h]

/-! ## Programs in step -/

/-- The programs go on in step: calls that are no asides are made by both, asides by either of them.
When both are done, `Q` holds of their results and of their calls. -/
inductive InStep (aside : Call → Trace → Bool) (Q : α → β → Trace → Trace → Prop) :
    Program α → Program β → Trace → Trace → Prop
  | done {a : α} {b : β} {t u : Trace} (h : Q a b t u) : InStep aside Q (.done a) (.done b) t u
  | both {c : Call} {next : c.Answer → Program α} {next' : c.Answer → Program β} {t u : Trace}
      (left : aside c t = false) (right : aside c u = false)
      (h : ∀ a, InStep aside Q (next a) (next' a) (⟨c, a⟩ :: t) (⟨c, a⟩ :: u)) :
      InStep aside Q (.ask c next) (.ask c next') t u
  | left {c : Call} {next : c.Answer → Program α} {q : Program β} {t u : Trace}
      (left : aside c t = true) (h : ∀ a, InStep aside Q (next a) q (⟨c, a⟩ :: t) u) :
      InStep aside Q (.ask c next) q t u
  | right {c : Call} {p : Program α} {next : c.Answer → Program β} {t u : Trace}
      (right : aside c u = true) (h : ∀ a, InStep aside Q p (next a) t (⟨c, a⟩ :: u)) :
      InStep aside Q p (.ask c next) t u

/-- Both sides come to the same result, and `K` holds of the calls of each. -/
def Agree (K : Trace → Prop) (a b : α) (t u : Trace) : Prop :=
  a = b ∧ K t ∧ K u

variable {Q : α → β → Trace → Trace → Prop} {K K' : Trace → Prop} {p : Program α}
  {q : Program β}

theorem inStep_pure {a : α} {b : β} (h : Q a b t u) : InStep aside Q (pure a) (pure b) t u :=
  .done h

/-- **Sequences in step**: the second parts start where the first ones end. -/
theorem InStep.bind {f : α → Program γ} {g : β → Program δ} {R : γ → δ → Trace → Trace → Prop}
    (h : InStep aside Q p q t u)
    (hR : ∀ a b t u, Q a b t u → InStep aside R (f a) (g b) t u) :
    InStep aside R (p >>= f) (q >>= g) t u := by
  induction h with
  | done h => exact hR _ _ _ _ h
  | both left right _ ih => exact .both left right ih
  | left left _ ih => exact .left left ih
  | right right _ ih => exact .right right ih

/-- Parts that come to the same, and go on from there. -/
theorem InStep.bindAgree {p : Program α} {f : α → Program γ} {R : γ → γ → Trace → Trace → Prop}
    (h : InStep aside (Agree K) p p t u)
    (hR : ∀ a t u, K t → K u → InStep aside R (f a) (f a) t u) :
    InStep aside R (p >>= f) (p >>= f) t u := by
  refine h.bind ?_
  rintro a _ t u ⟨rfl, ht, hu⟩
  exact hR a t u ht hu

/-- Parts that cannot fail. -/
theorem InStep.bindLift {p : Program α} {f : α → ExceptT ε Program γ}
    {R : Except ε γ → Except ε γ → Trace → Trace → Prop} (h : InStep aside (Agree K) p p t u)
    (hR : ∀ a t u, K t → K u → InStep aside R (f a).run (f a).run t u) :
    InStep aside R ((liftM p : ExceptT ε Program α) >>= f).run
      ((liftM p : ExceptT ε Program α) >>= f).run t u := by
  rw [liftM_bind_run]
  exact h.bindAgree hR

/-- Parts that fail alike. -/
theorem InStep.bindExcept {x : ExceptT ε Program α} {f : α → ExceptT ε Program γ}
    (h : InStep aside (Agree K) x.run x.run t u)
    (hR : ∀ a t u, K t → K u → InStep aside (Agree K') (f a).run (f a).run t u)
    (weaker : ∀ t, K t → K' t) :
    InStep aside (Agree K') (x >>= f).run (x >>= f).run t u := by
  refine InStep.bindAgree h fun r t u ht hu => ?_
  cases r with
  | ok a => exact hR a t u ht hu
  | error e => exact .done ⟨rfl, weaker t ht, weaker u hu⟩

/-- A call that both sides make. -/
theorem inStep_request {Q : c.Answer → c.Answer → Trace → Trace → Prop} (left : aside c t = false)
    (right : aside c u = false) (h : ∀ a, Q a a (⟨c, a⟩ :: t) (⟨c, a⟩ :: u)) :
    InStep aside Q (request c) (request c) t u :=
  .both left right fun a => .done (h a)

/-- **A program without asides** comes to the same. -/
theorem inStep_only {p : Program α} {P : Call → Prop} (only : p.Only P)
    (main : ∀ c t, P c → K t → aside c t = false)
    (kept : ∀ c a t, P c → K t → K (⟨c, a⟩ :: t)) (ht : K t) (hu : K u) :
    InStep aside (Agree K) p p t u := by
  induction p generalizing t u with
  | done a => exact .done ⟨rfl, ht, hu⟩
  | ask c next ih =>
    refine .both (main c t only.1 ht) (main c u only.1 hu) fun a => ?_
    exact ih a (only.2 a) (kept c a t only.1 ht) (kept c a u only.1 hu)

/-- What is known of a program whose calls are all asides. -/
abbrev Aside (aside : Call → Trace → Bool) (Q : α → Trace → Prop) (p : Program α) (t : Trace) :
    Prop :=
  (traced (fun _ => True) fun c t => aside c t = true).Ensures Q p t

/-- **Programs of asides** are in step, whatever becomes of each. -/
theorem inStep_asides {P : α → Trace → Prop} {P' : β → Trace → Prop} (hp : Aside aside P p t)
    (hq : Aside aside P' q u) : InStep aside (fun a b t u => P a t ∧ P' b u) p q t u := by
  induction p generalizing t with
  | done a =>
    have left := hp t rfl
    induction q generalizing u with
    | done b => exact .done ⟨left, hq u rfl⟩
    | ask c next ih =>
      obtain ⟨aside, rest⟩ := hq u rfl
      exact .right aside fun a => ih a (rest a _ ⟨rfl, trivial⟩)
  | ask c next ih =>
    obtain ⟨aside, rest⟩ := hp t rfl
    exact .left aside fun a => ih a (rest a _ ⟨rfl, trivial⟩)

/-! ## What programs in step come to -/

variable {f g : Oracle} {root : Program γ}

/-- **Programs in step** come to results of which `Q` holds, and their calls are the same but for
asides, if the oracles answer alike all that they call as the rest of one program. -/
theorem InStep.run {p q : Program γ} {Q : γ → γ → Trace → Trace → Prop}
    (h : InStep aside Q p q t u) (alike : Oracle.Alike aside root f g) (left : root.Made t p)
    (right : root.Made u q) (same : t.main aside = u.main aside) :
    Q (p.run f.answer t).1 (q.run g.answer u).1 (p.run f.answer t).2 (q.run g.answer u).2 ∧
      (p.run f.answer t).2.main aside = (q.run g.answer u).2.main aside := by
  induction h with
  | done h => exact ⟨h, same⟩
  | @both c next next' t u ht hu _ ih =>
    have answer : f t c = g u c := alike c t u ⟨_, left⟩ ⟨_, right⟩ same ht hu
    rw [run_ask, run_ask]
    simp only [Oracle.answer, ← answer]
    refine ih (f t c) (left.call _) (right.call _) ?_
    rw [Trace.main_cons ht, Trace.main_cons hu, same]
  | @left c next q t u ht _ ih =>
    exact ih (f t c) (left.call _) right ((Trace.main_cons_of_aside ht _).trans same)
  | @right c p next t u hu _ ih =>
    exact ih (g u c) left (right.call _) (same.trans (Trace.main_cons_of_aside hu _).symm)

end MessageGateway
