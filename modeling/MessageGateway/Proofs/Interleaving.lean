import MessageGateway.Memory
import MessageGateway.Proofs.Setting
import Mathlib.Logic.Function.Basic
import Mathlib.Logic.Relation

/-!
# Interleavings

Several parties run programs over one memory. A step is one call of one party, so the calls of
different parties come in any order, and a party may stop for ever between two of its calls. A
service says what may come of a call; everything that came of one is in the log.

## Main definitions

* `Service`: what may come of a call in a memory
* `Entry`, `Scene`: a call of a party with its answer, and a memory with the log that led to it
* `System`, `System.Step`, `System.Run`: the parties and the steps they take
* `System.play`: the run along a schedule, with given answers

## Main results

* `System.Run.allEnsure`: what each party ensures in a setting of its own holds in every run, if the
  allowed calls of each are what the others rely on
* `System.run_play`: playing a schedule is a run
-/

namespace MessageGateway

/-- What may come of a call in a memory: an answer, and the memory after it. -/
abbrev Service := Memory → (c : Call) → c.Answer → Memory → Prop

/-- A party, by its number. -/
abbrev Party := Nat

/-- A call of a party, with its answer. -/
structure Entry where
  /-- The party that made the call. -/
  party : Party
  /-- The call. -/
  call : Call
  /-- The answer. -/
  answer : call.Answer

/-- A memory with the calls that led to it. -/
structure Scene where
  /-- The memory. -/
  memory : Memory
  /-- The calls so far, last one first. -/
  log : List Entry

/-- The scene after a call of the party `p` that left the memory `m`. -/
def Scene.next (s : Scene) (p : Party) (c : Call) (a : c.Answer) (m : Memory) : Scene :=
  ⟨m, ⟨p, c, a⟩ :: s.log⟩

/-- Parties with results in `ρ`, each with what is left of its program. -/
structure System (ρ : Type) extends Scene where
  /-- What is left of the programs. -/
  parties : Party → Program ρ

namespace System

variable {ρ : Type} {S : Service} {s t u : System ρ}

/-- The system before anything has happened. -/
def start (parties : Party → Program ρ) (m : Memory) : System ρ :=
  { memory := m, log := [], parties }

/-- The system after a call of the party `p` that was answered with `a`. -/
def next (s : System ρ) (p : Party) (c : Call) (a : c.Answer) (m : Memory) (rest : Program ρ) :
    System ρ :=
  { s.toScene.next p c a m with parties := Function.update s.parties p rest }

/-- One call of one party. -/
inductive Step (S : Service) : System ρ → System ρ → Prop
  | call {s : System ρ} {p : Party} {c : Call} {rest : c.Answer → Program ρ} {a : c.Answer}
      {m : Memory} (left : s.parties p = .ask c rest) (served : S s.memory c a m) :
      Step S s (s.next p c a m (rest a))

/-- Any number of calls. -/
abbrev Run (S : Service) : System ρ → System ρ → Prop :=
  Relation.ReflTransGen (Step S)

theorem Run.log_suffix (h : Run S s t) : s.log <:+ t.log := by
  induction h with
  | refl => exact List.suffix_rfl
  | tail _ step ih =>
    cases step with
    | call left served => exact ih.trans (List.suffix_cons _ _)

/-! ## Parties in settings of their own -/

/-- The settings of the parties fit together: an allowed call of one party is something on which
all the others rely, and leaves a scene in which it can rely on them. -/
structure Coherent (S : Service) (E : Party → Setting Scene) : Prop where
  /-- A setting knows of every answer of the service. -/
  serves : ∀ {p s c a m}, S s.memory c a m → (E p).Serves c s a (s.next p c a m)
  /-- An allowed call keeps its party in a scene in which it can go on. -/
  own : ∀ {p s c a m}, (E p).Rely s s → (E p).Allowed c s → S s.memory c a m →
    (E p).Rely (s.next p c a m) (s.next p c a m)
  /-- An allowed call is something on which the others rely. -/
  others : ∀ {p q s c a m}, (E p).Rely s s → (E p).Allowed c s → S s.memory c a m → q ≠ p →
    (E q).Rely s (s.next p c a m)

/-- Every party ensures its part from where it stands. -/
def AllEnsure (E : Party → Setting Scene) (Q : Party → ρ → Scene → Prop) (s : System ρ) : Prop :=
  ∀ p, (E p).Rely s.toScene s.toScene ∧ (E p).Ensures (Q p) (s.parties p) s.toScene

variable {E : Party → Setting Scene} {Q : Party → ρ → Scene → Prop}

theorem Step.allEnsure (coherent : Coherent S E) (h : AllEnsure E Q s) (step : Step S s t) :
    AllEnsure E Q t := by
  cases step with
  | @call p c rest a m left served =>
    obtain ⟨self, ensures⟩ := h p
    rw [left] at ensures
    obtain ⟨allowed, after⟩ := ensures _ self
    intro q
    by_cases hq : q = p
    · subst hq
      refine ⟨coherent.own self allowed served, ?_⟩
      simp only [next, Function.update_self]
      exact after a _ (coherent.serves served)
    · -- to any other party the call is one of the acts of the others
      have rely := coherent.others self allowed served hq
      refine ⟨(E q).rely_self rely, ?_⟩
      simp only [next, Function.update_of_ne hq]
      exact (h q).2.of_rely rely

/-- **What each party ensures holds in every run.** -/
theorem Run.allEnsure (coherent : Coherent S E) (h : AllEnsure E Q s) (run : Run S s t) :
    AllEnsure E Q t := by
  induction run with
  | refl => exact h
  | tail _ step ih => exact step.allEnsure coherent ih

theorem AllEnsure.result (h : AllEnsure E Q s) {p : Party} {r : ρ} (done : s.parties p = .done r) :
    Q p r s.toScene := by
  obtain ⟨self, ensures⟩ := h p
  rw [done] at ensures
  exact ensures _ self

/-- A party makes only calls that its setting allows. -/
theorem AllEnsure.allowed (h : AllEnsure E Q s) {p : Party} {c : Call}
    {rest : c.Answer → Program ρ} (left : s.parties p = .ask c rest) :
    (E p).Allowed c s.toScene := by
  obtain ⟨self, ensures⟩ := h p
  rw [left] at ensures
  exact (ensures _ self).1

/-! ## Runs along a schedule -/

/-- The system after the parties of a schedule have made one call each. A party that is done, or
whose call is not answered, makes none. -/
def play (answer? : (c : Call) → Memory → Option (c.Answer × Memory)) :
    List Party → System ρ → System ρ
  | [], s => s
  | p :: schedule, s =>
    match s.parties p with
    | .done _ => play answer? schedule s
    | .ask c rest =>
      match answer? c s.memory with
      | none => play answer? schedule s
      | some (a, m) => play answer? schedule (s.next p c a m (rest a))

theorem run_play {answer? : (c : Call) → Memory → Option (c.Answer × Memory)}
    (h : ∀ c m a m', answer? c m = some (a, m') → S m c a m') (schedule : List Party)
    (s : System ρ) : Run S s (play answer? schedule s) := by
  induction schedule generalizing s with
  | nil => exact .refl
  | cons p schedule ih =>
    unfold play
    split
    · exact ih s
    · next left =>
      split
      · exact ih s
      · next answered => exact .head (.call left (h _ _ _ _ answered)) (ih _)

end System

end MessageGateway
