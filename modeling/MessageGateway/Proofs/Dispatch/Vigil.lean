import MessageGateway.Dispatch.Readiness
import MessageGateway.Proofs.Calls
import MessageGateway.Proofs.SideBySide

/-!
# Waiting for a session

While a send waits for its session, time passes in its pauses and while the instance shows presence,
and nowhere else. What the session is found to be at each look, what comes of showing presence and
how long that takes are not up to the send.

The number of looks is bounded before the first one. That bound is never what ends a wait: every
look in vain brings the end of the wait nearer by a whole pause, so the wait is over by then, and
more looks would change nothing.

The wait keeps to its time but for the one call that it does not cut short. A presence that is shown
before the end and is not over by then holds the wait up until it is.

## Main definitions

* `SessionBehaviour`: how a session behaves towards a send that waits
* `Vigil`: a send that waits, and what it has done at which time
* `SessionBehaviour.answer b i`: what a send that waits for the session of `i` is answered
* `Waits b c start shown v ready w`: the wait goes on from `v` and ends with `w`, however many looks
  that takes

## Main results

* `run_lookUntilReady`: what comes of one look
* `exists_waits`, `Waits.run`: a wait ends, and its end is what the bounded program comes to
* `awaitReady_held_up`: the gate ends in time, or as soon as presence has been shown
-/

namespace MessageGateway

open Program

/-- How a session behaves towards a send that waits for it. -/
structure SessionBehaviour where
  /-- Whether it is ready at each look, the first one being number 0. -/
  ready : Nat → Bool
  /-- What comes of showing presence. -/
  presence : Except TransportError Unit
  /-- How long showing presence takes. -/
  delay : Nat

/-- A send that waits. -/
structure Vigil where
  /-- The time. -/
  time : Nat
  /-- The looks at the session, first one first: when, and whether it was ready. -/
  looks : List (Nat × Bool) := []
  /-- The times at which presence was shown. -/
  shows : List Nat := []

namespace Vigil

/-- A send that begins to wait. -/
def fresh (time : Nat) : Vigil where
  time := time

/-- A look at the session. -/
def look (v : Vigil) (ready : Bool) : Vigil :=
  { v with looks := v.looks ++ [(v.time, ready)] }

@[simp] theorem time_look (v : Vigil) (ready : Bool) : (v.look ready).time = v.time := rfl

/-- Presence is shown, which takes a while. -/
def present (v : Vigil) (delay : Nat) : Vigil :=
  { v with time := v.time + delay, shows := v.shows ++ [v.time] }

/-- A pause; it is over at once if its time has passed. -/
def sleepUntil (v : Vigil) (deadline : Nat) : Vigil :=
  { v with time := max v.time deadline }

end Vigil

/-- What a send that waits for the session of `i` is answered. -/
def SessionBehaviour.answer (b : SessionBehaviour) (i : InstanceId) :
    (k : Call) → Vigil → k.Answer × Vigil
  | .sessionReady j, v =>
    if j = i then (b.ready v.looks.length, v.look (b.ready v.looks.length)) else (false, v)
  | .showPresence j, v => if j = i then (b.presence, v.present b.delay) else (.error .timeout, v)
  | .elapsed, v => (v.time, v)
  | .pause (some deadline) _ _, v => (.elapsed, v.sleepUntil deadline)
  | k, v => (k.unanswered, v)

/-- It is time to show presence, and that has not been done. -/
def DispatchConfig.isDue (c : DispatchConfig) (start : Nat) (shown : Bool) (time : Nat) : Bool :=
  !shown && decide (start + c.presenceAfter ≤ time)

/-- From a look in vain to the next one. -/
def Vigil.goOn (v : Vigil) (b : SessionBehaviour) (c : DispatchConfig) (start : Nat)
    (shown : Bool) : Vigil :=
  ((if c.isDue start shown v.time then v.look false |>.present b.delay else v.look false)).sleepUntil
    (min (v.time + c.pollInterval) (start + c.readyTimeout))

variable {b : SessionBehaviour} {c : DispatchConfig} {i : InstanceId} {start looks : Nat}
  {shown ready : Bool} {v w : Vigil}

/-! ## What the calls of a wait come to -/

theorem run_sessionReady (v : Vigil) : (sessionReady i).run (b.answer i) v =
    (b.ready v.looks.length, v.look (b.ready v.looks.length)) := if_pos rfl

theorem run_elapsed_bind {α : Type} (f : Nat → Program α) (v : Vigil) :
    (elapsed >>= f).run (b.answer i) v = (f v.time).run (b.answer i) v := rfl

theorem run_showPresence (v : Vigil) : (bestEffort (showPresence i)).run (b.answer i) v =
    (b.presence.toOption, v.present b.delay) := by
  have shown : (showPresence i).run (b.answer i) v = (b.presence, v.present b.delay) := if_pos rfl
  unfold bestEffort
  rw [run_bind, shown]
  rfl

theorem run_sleepUntil (v : Vigil) (deadline : Nat) :
    (sleepUntil deadline).run (b.answer i) v = ((), v.sleepUntil deadline) := rfl

/-- **What comes of one look.** -/
theorem run_lookUntilReady (b : SessionBehaviour) (c : DispatchConfig) (i : InstanceId)
    (start looks : Nat) (shown : Bool) (v : Vigil) :
    (lookUntilReady c i start (looks + 1) shown).run (b.answer i) v =
      if b.ready v.looks.length = true then (true, v.look true)
      else if start + c.readyTimeout ≤ v.time then (false, v.look false)
      else (lookUntilReady c i start looks (shown || c.isDue start shown v.time)).run (b.answer i)
        (v.goOn b c start shown) := by
  rw [lookUntilReady, run_bind, run_sessionReady]
  cases b.ready v.looks.length with
  | true => rfl
  | false =>
    simp only [Bool.false_eq_true, if_false]
    rw [run_elapsed_bind, Vigil.time_look]
    by_cases late : start + c.readyTimeout ≤ v.time
    · rw [if_pos late, if_pos late]
      rfl
    · rw [if_neg late, if_neg late]
      unfold Vigil.goOn DispatchConfig.isDue
      cases (!shown && decide (start + c.presenceAfter ≤ v.time)) with
      | true => simp only [if_true, run_bind, run_showPresence, run_sleepUntil]
      | false => simp only [Bool.false_eq_true, if_false, run_bind, run_sleepUntil]

/-! ## A wait of any number of looks -/

/-- The wait goes on from `v`, before a look, and ends with `w`; `ready` tells whether the session
became ready. -/
inductive Waits (b : SessionBehaviour) (c : DispatchConfig) (start : Nat) :
    (shown : Bool) → (v : Vigil) → (ready : Bool) → (w : Vigil) → Prop
  /-- The session is ready. -/
  | ready {shown : Bool} {v : Vigil} (found : b.ready v.looks.length = true) :
      Waits b c start shown v true (v.look true)
  /-- It is not, and the time is up. -/
  | late {shown : Bool} {v : Vigil} (unready : b.ready v.looks.length = false)
      (late : start + c.readyTimeout ≤ v.time) : Waits b c start shown v false (v.look false)
  /-- It is not, and there is time left. -/
  | again {shown ready : Bool} {v w : Vigil} (unready : b.ready v.looks.length = false)
      (early : v.time < start + c.readyTimeout)
      (rest : Waits b c start (shown || c.isDue start shown v.time) (v.goOn b c start shown)
        ready w) : Waits b c start shown v ready w

/-- The next look comes after a whole pause, or when the time is up. -/
theorem le_time_goOn (v : Vigil) :
    min (v.time + c.pollInterval) (start + c.readyTimeout) ≤ (v.goOn b c start shown).time :=
  Nat.le_max_right _ _

/-- After a look in vain, one pause less is left. -/
theorem left_goOn {n : Nat}
    (enough : start + c.readyTimeout ≤ v.time + (n + 1) * c.pollInterval) :
    start + c.readyTimeout ≤ (v.goOn b c start shown).time + n * c.pollInterval := by
  have next : min (v.time + c.pollInterval) (start + c.readyTimeout) ≤
      (v.goOn b c start shown).time := le_time_goOn v
  rw [Nat.succ_mul] at enough
  omega

/-- **A wait ends**: the time that is left is that of so many pauses, and shrinks. -/
theorem exists_waits (n : Nat) (shown : Bool) (v : Vigil)
    (enough : start + c.readyTimeout ≤ v.time + n * c.pollInterval) :
    ∃ ready w, Waits b c start shown v ready w := by
  induction n generalizing shown v with
  | zero =>
    cases found : b.ready v.looks.length with
    | true => exact ⟨_, _, .ready found⟩
    | false => exact ⟨_, _, .late found (by omega)⟩
  | succ n ih =>
    cases found : b.ready v.looks.length with
    | true => exact ⟨_, _, .ready found⟩
    | false =>
      by_cases late : start + c.readyTimeout ≤ v.time
      · exact ⟨_, _, .late found late⟩
      · obtain ⟨ready, w, rest⟩ := ih _ _ (left_goOn enough)
        exact ⟨ready, w, .again found (by omega) rest⟩

/-- **Every bound that leaves room for the pauses leads to the end of the wait.** -/
theorem Waits.run (h : Waits b c start shown v ready w) (i : InstanceId) {n : Nat}
    (enough : start + c.readyTimeout ≤ v.time + n * c.pollInterval) :
    (lookUntilReady c i start (n + 1) shown).run (b.answer i) v = (ready, w) := by
  induction h generalizing n with
  | ready found => rw [run_lookUntilReady, if_pos found]
  | late unready late => rw [run_lookUntilReady, unready, if_neg Bool.false_ne_true, if_pos late]
  | again unready early _ ih =>
    rw [run_lookUntilReady, unready, if_neg Bool.false_ne_true, if_neg (by omega)]
    cases n with
    | zero => omega
    | succ n => exact ih (left_goOn enough)

/-- There is a pause between two looks. -/
theorem pollInterval_pos (valid : c.validate = .ok ()) : 0 < c.pollInterval := by
  unfold DispatchConfig.validate at valid
  split at valid
  · cases valid
  · omega

/-- The gate has room for more looks than there are pauses. -/
theorem exists_looks_eq (pause : 0 < c.pollInterval) (more : Nat) :
    ∃ n, c.looks + more = n + 1 ∧ c.readyTimeout ≤ n * c.pollInterval := by
  refine ⟨c.readyTimeout / c.pollInterval + 1 + more, ?_, ?_⟩
  · rw [DispatchConfig.looks, Nat.max_eq_left pause]
    omega
  · have room := Nat.lt_mul_div_succ c.readyTimeout pause
    rw [Nat.mul_comm] at room
    exact Nat.le_trans (Nat.le_of_lt room) (Nat.mul_le_mul_right _ (Nat.le_add_right _ _))

/-- **The gate ends**, with the end of a wait that is not bounded by a number of looks, and with room
for more looks it would end in the same way. -/
theorem awaitReady_waits (pause : 0 < c.pollInterval) (b : SessionBehaviour) (i : InstanceId)
    (start : Nat) :
    ∃ ready w, Waits b c start false (.fresh start) ready w ∧
      (awaitReady c i).run (b.answer i) (.fresh start) =
        (if ready then .ok () else .error (.sessionUnavailable i), w) ∧
      ∀ more, (lookUntilReady c i start (c.looks + more) false).run (b.answer i) (.fresh start) =
        (ready, w) := by
  have ended (more : Nat) : ∃ n, c.looks + more = n + 1 ∧
      start + c.readyTimeout ≤ (Vigil.fresh start).time + n * c.pollInterval := by
    obtain ⟨n, looks, room⟩ := exists_looks_eq pause more
    exact ⟨n, looks, Nat.add_le_add_left room start⟩
  obtain ⟨_, -, enough⟩ := ended 0
  obtain ⟨ready, w, waits⟩ := exists_waits (b := b) _ false _ enough
  have all (more : Nat) : (lookUntilReady c i start (c.looks + more) false).run (b.answer i)
      (.fresh start) = (ready, w) := by
    obtain ⟨n, looks, enough⟩ := ended more
    rw [looks, waits.run i enough]
  refine ⟨ready, w, waits, ?_, all⟩
  unfold awaitReady
  rw [run_elapsed_bind, run_bind]
  have bounded : (lookUntilReady c i (Vigil.fresh start).time c.looks false).run (b.answer i)
      (.fresh start) = (ready, w) := all 0
  rw [bounded]
  cases ready <;> rfl

/-! ## A wait that is held up -/

/-- Presence has been shown at most once, while the wait was on, and nothing but that has held it
up. -/
inductive Punctual (b : SessionBehaviour) (c : DispatchConfig) (start : Nat) :
    (shown : Bool) → Vigil → Prop
  /-- Presence has not been shown, and the end of the wait is not past. -/
  | unshown {v : Vigil} (shows : v.shows = []) (time : v.time ≤ start + c.readyTimeout) :
      Punctual b c start false v
  /-- Presence has been shown, and was over before the end of the wait or only now. -/
  | shown {v : Vigil} {s : Nat} (shows : v.shows = [s]) (due : start + c.presenceAfter ≤ s)
      (early : s < start + c.readyTimeout)
      (time : v.time ≤ start + c.readyTimeout ∧ s + b.delay ≤ start + c.readyTimeout ∨
        v.time = s + b.delay ∧ start + c.readyTimeout < s + b.delay) : Punctual b c start true v

theorem Punctual.look (h : Punctual b c start shown v) (ready : Bool) :
    Punctual b c start shown (v.look ready) := by
  cases h with
  | unshown shows time => exact .unshown shows time
  | shown shows due early time => exact .shown shows due early time

theorem Punctual.goOn (h : Punctual b c start shown v) (early : v.time < start + c.readyTimeout) :
    Punctual b c start (shown || c.isDue start shown v.time) (v.goOn b c start shown) := by
  unfold Vigil.goOn
  cases h with
  | unshown shows time =>
    by_cases due : start + c.presenceAfter ≤ v.time
    · have isDue : c.isDue start false v.time = true := by simp [DispatchConfig.isDue, due]
      rw [isDue, Bool.false_or, if_pos rfl]
      refine .shown (s := v.time) ?_ due early ?_
      · simp [Vigil.sleepUntil, Vigil.present, Vigil.look, shows]
      · simp only [Vigil.sleepUntil, Vigil.present, Vigil.time_look]
        omega
    · have isDue : c.isDue start false v.time = false := by simp [DispatchConfig.isDue, due]
      rw [isDue, Bool.false_or, if_neg Bool.false_ne_true]
      refine .unshown shows ?_
      simp only [Vigil.sleepUntil, Vigil.time_look]
      omega
  | shown shows due before time =>
    have isDue : c.isDue start true v.time = false := rfl
    rw [isDue, Bool.true_or, if_neg Bool.false_ne_true]
    refine .shown shows due before ?_
    simp only [Vigil.sleepUntil, Vigil.time_look]
    omega

theorem Waits.punctual (h : Waits b c start shown v ready w) (hv : Punctual b c start shown v) :
    ∃ shown, Punctual b c start shown w := by
  induction h with
  | ready => exact ⟨_, hv.look true⟩
  | late => exact ⟨_, hv.look false⟩
  | again _ early _ ih => exact ih (hv.goOn early)

/-- **The gate ends in time but for its presence**: it comes to its result by the end of the wait,
unless it has shown presence before that and presence is over only later, and then as soon as it is
over. -/
theorem awaitReady_held_up (valid : c.validate = .ok ()) (b : SessionBehaviour) (i : InstanceId)
    (start : Nat) :
    ∃ ready w, (awaitReady c i).run (b.answer i) (.fresh start) =
        (if ready then .ok () else .error (.sessionUnavailable i), w) ∧
      (∀ more, (lookUntilReady c i start (c.looks + more) false).run (b.answer i) (.fresh start) =
        (ready, w)) ∧
      (w.shows = [] ∧ w.time ≤ start + c.readyTimeout ∨
        ∃ s, w.shows = [s] ∧ start + c.presenceAfter ≤ s ∧ s < start + c.readyTimeout ∧
          (s + b.delay ≤ start + c.readyTimeout → w.time ≤ start + c.readyTimeout) ∧
          (start + c.readyTimeout < s + b.delay → w.time = s + b.delay)) := by
  obtain ⟨ready, w, waits, run, bound⟩ := awaitReady_waits (pollInterval_pos valid) b i start
  refine ⟨ready, w, run, bound, ?_⟩
  obtain ⟨shown, punctual⟩ := waits.punctual (.unshown rfl (Nat.le_add_right _ _))
  cases punctual with
  | unshown shows time => exact .inl ⟨shows, time⟩
  | shown shows due early time => exact .inr ⟨_, shows, due, early, by omega, by omega⟩

/-- A wait of a tenth of a second, in which presence is shown after half of it and takes half a
second. -/
theorem awaitReady_held_up_slow :
    (⟨100, 50, 50⟩ : DispatchConfig).validate = .ok () ∧
      ((awaitReady ⟨100, 50, 50⟩ ⟨"A"⟩).run
        (SessionBehaviour.answer ⟨fun _ => false, .ok (), 500⟩ ⟨"A"⟩) (.fresh 0)).2.time = 550 := by
  refine ⟨rfl, ?_⟩
  obtain ⟨ready, w, run, -, held⟩ := awaitReady_held_up (c := ⟨100, 50, 50⟩) rfl
    ⟨fun _ => false, .ok (), 500⟩ ⟨"A"⟩ 0
  have shows : w.shows = [50] := by
    rw [← show _ = w from congrArg Prod.snd run]
    decide +kernel
  rw [run]
  obtain ⟨none, -⟩ | ⟨s, once, -, -, -, late⟩ := held
  · rw [shows] at none
    cases none
  · rw [shows] at once
    cases once
    exact late (by decide)

/-- A presence that takes longer than the wait keeps the gate past its end. -/
theorem presence_not_cut_short :
    ¬∀ (c : DispatchConfig) (b : SessionBehaviour) (i : InstanceId) (start : Nat),
      c.validate = .ok () →
        ((awaitReady c i).run (b.answer i) (.fresh start)).2.time ≤ start + c.readyTimeout := by
  intro bounded
  have late := bounded ⟨100, 50, 50⟩ ⟨fun _ => false, .ok (), 500⟩ ⟨"A"⟩ 0 rfl
  revert late
  decide +kernel

end MessageGateway
