import MessageGateway.Proofs.Traces

/-!
# Programs that cannot be told apart

Two programs match if they make the same calls and come to the same results, whatever is answered
that satisfies `H`. They may differ where such answers do not lead. A party whose program is
replaced by one that matches it goes on as before among any others.

## Main definitions

* `Program.Matches H`: two programs do the same as long as the answers satisfy `H`
* `System.replace`: another program in the place of that of a party

## Main results

* `Program.Matches.bind`: programs in two parts match if their parts do
* `System.Run.exists_replaced`: a run with a party whose program is replaced by one that matches it
-/

namespace MessageGateway

open Program

variable {α β ε : Type} {H : Exchange → Prop}

namespace Program

/-- The programs make the same calls and come to the same results, as long as the answers
satisfy `H`. -/
inductive Matches (H : Exchange → Prop) : Program α → Program α → Prop
  | done (a : α) : Matches H (.done a) (.done a)
  | ask {c : Call} {next next' : c.Answer → Program α}
      (rest : ∀ a, H ⟨c, a⟩ → Matches H (next a) (next' a)) :
      Matches H (.ask c next) (.ask c next')

variable {p p' : Program α}

theorem Matches.refl (p : Program α) : p.Matches H p := by
  induction p with
  | done a => exact .done a
  | ask c next ih => exact .ask fun a _ => ih a

/-- One program goes on like another if it does so after each result that the first part may come
to by such answers. -/
theorem Matches.bind {f f' : α → Program β} (h : p.Matches H p')
    (hf : ∀ a t, p.Made t (.done a) → (∀ e ∈ t, H e) → (f a).Matches H (f' a)) :
    (p >>= f).Matches H (p' >>= f') := by
  induction h with
  | done a => exact hf a [] .start (List.forall_mem_nil _)
  | @ask c next next' rest ih =>
    refine .ask fun x hx => ih x hx fun a t made answers => ?_
    refine hf a (t ++ [⟨c, x⟩]) ((Made.start.call x).trans made) ?_
    exact List.forall_mem_append.2 ⟨answers, List.forall_mem_singleton.2 hx⟩

theorem Matches.map (h : p.Matches H p') (f : α → β) : (f <$> p).Matches H (f <$> p') := by
  rw [map_eq_pure_bind, map_eq_pure_bind]
  exact h.bind fun a _ _ _ => .done (f a)

theorem Matches.bindExcept {x x' : ExceptT ε Program α} {f f' : α → ExceptT ε Program β}
    (h : x.run.Matches H x'.run)
    (hf : ∀ a t, x.run.Made t (.done (.ok a)) → (∀ e ∈ t, H e) →
      (f a).run.Matches H (f' a).run) :
    (x >>= f).run.Matches H (x' >>= f').run := by
  refine h.bind fun res t made answers => ?_
  cases res with
  | ok a => exact hf a t made answers
  | error e => exact .done _

/-- Matching programs, alone against something that answers so, come to the same. -/
theorem Matches.run_eq {σ : Type} (h : p.Matches H p') (answer : (c : Call) → σ → c.Answer × σ)
    (answers : ∀ c s, H ⟨c, (answer c s).1⟩) (s : σ) : p.run answer s = p'.run answer s := by
  induction h generalizing s with
  | done a => rfl
  | @ask c next next' rest ih => exact ih _ (answers c s) (answer c s).2

end Program

namespace System

variable {ρ : Type} {S : Service} {p : Party} {parties : Party → Program ρ} {m : Memory}
  {s t : System ρ} {left left' other : Program ρ}

/-- The system with another program in the place of that of the party. -/
def replace (s : System ρ) (p : Party) (left : Program ρ) : System ρ :=
  { s with parties := Function.update s.parties p left }

variable {c : Call} {a : c.Answer} {q : Party}

theorem replace_parties_self : (s.replace p left).parties p = left :=
  Function.update_self ..

theorem replace_parties_of_ne (hq : q ≠ p) : (s.replace p left).parties q = s.parties q :=
  Function.update_of_ne hq ..

theorem next_replace_self : (s.replace p left).next p c a m left' =
    (s.next p c a m other).replace p left' := by
  simp only [System.next, replace, Function.update_idem]

theorem next_replace_of_ne (hq : q ≠ p) : (s.replace p left).next q c a m other =
    (s.next q c a m other).replace p left := by
  simp only [System.next, replace, Function.update_comm hq.symm]

/-- A step is one of the system with the matching program, which then still matches, unless the
party is answered in a way that does not satisfy `H`. -/
theorem Step.exists_replaced (step : Step S s t) (same : (s.parties p).Matches H left)
    (answers : ∀ x ∈ trace p t.log, H x) :
    ∃ left', Step S (s.replace p left) (t.replace p left') ∧ (t.parties p).Matches H left' := by
  cases step with
  | @call q c rest a m asked served =>
    by_cases hq : q = p
    · subst hq
      rw [asked] at same
      have answered : H ⟨c, a⟩ :=
        answers _ (trace_cons_self ⟨q, c, a⟩ s.log ▸ List.mem_cons_self)
      cases same with
      | @ask _ _ rest' same =>
        refine ⟨rest' a, ?_, ?_⟩
        · rw [← next_replace_self]
          exact .call replace_parties_self served
        · show Matches H (Function.update s.parties q (rest a) q) (rest' a)
          rw [Function.update_self]
          exact same a answered
    · refine ⟨left, ?_, ?_⟩
      · rw [← next_replace_of_ne hq]
        exact .call ((replace_parties_of_ne hq).trans asked) served
      · show Matches H (Function.update s.parties q (rest a) p) left
        rw [Function.update_of_ne (Ne.symm hq)]
        exact same

/-- **A matching program does the same among others.** -/
theorem Run.exists_replaced (run : Run S (start parties m) s)
    (same : (parties p).Matches H other) (answers : ∀ x ∈ trace p s.log, H x) :
    ∃ left, Run S ((start parties m).replace p other) (s.replace p left) ∧
      (s.parties p).Matches H left := by
  induction run with
  | refl => exact ⟨other, .refl, same⟩
  | @tail t u _ step ih =>
    have earlier : trace p t.log <:+ trace p u.log :=
      trace_suffix (Run.log_suffix (.single step))
    obtain ⟨left, run, same⟩ := ih fun x hx => answers x (earlier.mem hx)
    obtain ⟨left', step, same⟩ := step.exists_replaced same answers
    exact ⟨left', run.tail step, same⟩

end System

end MessageGateway
