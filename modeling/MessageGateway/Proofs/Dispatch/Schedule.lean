import Mathlib.Algebra.Order.Floor.Div
import MessageGateway.Proofs.Dispatch.Vigil

/-!
# The times of the looks at a session

While showing presence takes no time, the looks of a wait have a fixed schedule: one at the start,
one after each whole pause, and a last one at the end of the wait, which cuts the last pause short.
What is found at the looks decides only which of them is the last, and at which of them presence is
shown.

## Main definitions

* `DispatchConfig.lookTime c start k`: when the look number `k` is due
* `DispatchConfig.showTimes c start looks`: when presence is to be shown, after these looks
* `SessionBehaviour.looksBefore b c start k`: the looks that come before the look number `k`
* `OnSchedule b c start k shown v`: the wait has come to the look number `k` on schedule

## Main results

* `OnSchedule.goOn`: from one look on schedule to the next
* `awaitReady_schedule`: when the gate looks, shows presence and ends
-/

namespace MessageGateway

namespace DispatchConfig

/-- When the look number `k` of a wait that began at `start` is due. -/
def lookTime (c : DispatchConfig) (start k : Nat) : Nat :=
  start + min (k * c.pollInterval) c.readyTimeout

/-- Presence is to be shown at this look, unless that has been done: the session was not ready, the
threshold was reached, and the wait was not over. -/
def isDueAt (c : DispatchConfig) (start : Nat) (look : Nat × Bool) : Bool :=
  !look.2 && decide (start + c.presenceAfter ≤ look.1 ∧ look.1 < start + c.readyTimeout)

/-- The times at which presence is to be shown: that of the first look at which it is due. -/
def showTimes (c : DispatchConfig) (start : Nat) (looks : List (Nat × Bool)) : List Nat :=
  ((looks.find? (c.isDueAt start)).map Prod.fst).toList

/-- One more look matters when presence has not been shown. -/
theorem showTimes_append (c : DispatchConfig) (start : Nat) (looks : List (Nat × Bool))
    (look : Nat × Bool) : c.showTimes start (looks ++ [look]) =
      if (c.showTimes start looks).isEmpty && c.isDueAt start look then [look.1]
      else c.showTimes start looks := by
  unfold showTimes
  rw [List.find?_append]
  cases looks.find? (c.isDueAt start) with
  | some first => rfl
  | none => cases due : c.isDueAt start look <;> simp [due]

end DispatchConfig

variable {b : SessionBehaviour} {c : DispatchConfig} {start k : Nat} {shown ready : Bool}
  {v w : Vigil}

/-- The looks of a wait before the look number `k`. -/
def SessionBehaviour.looksBefore (b : SessionBehaviour) (c : DispatchConfig) (start k : Nat) :
    List (Nat × Bool) :=
  (List.range k).map fun j => (c.lookTime start j, b.ready j)

@[simp] theorem SessionBehaviour.length_looksBefore : (b.looksBefore c start k).length = k := by
  simp [looksBefore]

theorem SessionBehaviour.looksBefore_succ : b.looksBefore c start (k + 1) =
    b.looksBefore c start k ++ [(c.lookTime start k, b.ready k)] := by
  simp [looksBefore, List.range_succ]

/-- The wait has come to the look number `k` on schedule; `shown` tells whether presence has been
shown. -/
structure OnSchedule (b : SessionBehaviour) (c : DispatchConfig) (start k : Nat) (shown : Bool)
    (v : Vigil) : Prop where
  /-- It is time for this look. -/
  time : v.time = c.lookTime start k
  /-- The earlier ones were made in time. -/
  looks : v.looks = b.looksBefore c start k
  /-- They were in vain. -/
  unready : ∀ j < k, b.ready j = false
  /-- There are no more looks than pauses have begun. -/
  bound : k ≤ c.readyTimeout ⌈/⌉ c.pollInterval
  /-- Presence has been shown when it was due. -/
  shows : v.shows = c.showTimes start v.looks
  /-- That is remembered. -/
  shown : shown = !v.shows.isEmpty

namespace OnSchedule

theorem fresh (b : SessionBehaviour) (c : DispatchConfig) (start : Nat) :
    OnSchedule b c start 0 false (.fresh start) where
  time := by simp [DispatchConfig.lookTime, Vigil.fresh]
  looks := rfl
  unready _ h := absurd h (Nat.not_lt_zero _)
  bound := Nat.zero_le _
  shows := rfl
  shown := rfl

/-- The next look of a wait on schedule is the one whose number comes next. -/
theorem ready_eq (h : OnSchedule b c start k shown v) : b.ready v.looks.length = b.ready k := by
  rw [h.looks, SessionBehaviour.length_looksBefore]

/-- There is time left just when a pause has not begun yet. -/
theorem early_iff (h : OnSchedule b c start k shown v) (pause : 0 < c.pollInterval) :
    v.time < start + c.readyTimeout ↔ k < c.readyTimeout ⌈/⌉ c.pollInterval := by
  rw [h.time, DispatchConfig.lookTime, ← not_le, ← not_le, ceilDiv_le_iff_le_mul pause,
    Nat.mul_comm k]
  omega

/-- **From one look on schedule to the next.** -/
theorem goOn (h : OnSchedule b c start k shown v) (pause : 0 < c.pollInterval)
    (quick : b.delay = 0) (unready : b.ready k = false)
    (early : v.time < start + c.readyTimeout) :
    OnSchedule b c start (k + 1) (shown || c.isDue start shown v.time)
      (v.goOn b c start shown) := by
  have looks : (v.goOn b c start shown).looks = v.looks ++ [(v.time, false)] := by
    unfold Vigil.goOn
    split <;> rfl
  have time : (v.goOn b c start shown).time =
      max v.time (min (v.time + c.pollInterval) (start + c.readyTimeout)) := by
    unfold Vigil.goOn
    split
    · simp [Vigil.sleepUntil, Vigil.present, quick]
    · rfl
  have shows : (v.goOn b c start shown).shows =
      if c.isDue start shown v.time then v.shows ++ [v.time] else v.shows := by
    unfold Vigil.goOn
    split <;> rfl
  have due : c.isDue start shown v.time = (v.shows.isEmpty && c.isDueAt start (v.time, false)) := by
    simp [DispatchConfig.isDue, DispatchConfig.isDueAt, h.shown, early]
  refine ⟨?_, ?_, ?_, (h.early_iff pause).1 early, ?_, ?_⟩
  · rw [time, h.time, DispatchConfig.lookTime, DispatchConfig.lookTime, Nat.succ_mul]
    omega
  · rw [looks, SessionBehaviour.looksBefore_succ, h.looks, h.time, unready]
  · intro j before
    obtain earlier | rfl := Nat.lt_succ_iff_lt_or_eq.1 before
    · exact h.unready j earlier
    · exact unready
  · rw [shows, looks, DispatchConfig.showTimes_append, ← h.shows, due]
    split
    · next isFirst =>
      have none : v.shows = [] := List.isEmpty_iff.1 (Bool.and_eq_true_iff.1 isFirst).1
      rw [none]
      rfl
    · rfl
  · rw [shows]
    cases isDue : c.isDue start shown v.time with
    | true => simp
    | false => simpa using h.shown

end OnSchedule

/-- **A wait that has come to a look on schedule ends with a look on schedule**, which finds the
session ready or is made when the time is up. -/
theorem Waits.onSchedule (h : Waits b c start shown v ready w) (pause : 0 < c.pollInterval)
    (quick : b.delay = 0) (hv : OnSchedule b c start k shown v) :
    ∃ n shown v, OnSchedule b c start n shown v ∧ b.ready n = ready ∧ w = v.look ready ∧
      (ready = false → start + c.readyTimeout ≤ v.time) := by
  induction h generalizing k with
  | ready found =>
    exact ⟨k, _, _, hv, hv.ready_eq.symm.trans found, rfl, Bool.noConfusion⟩
  | late unready late => exact ⟨k, _, _, hv, hv.ready_eq.symm.trans unready, rfl, fun _ => late⟩
  | again unready early _ ih => exact ih (hv.goOn pause quick (hv.ready_eq.symm.trans unready) early)

/-- **The schedule of the gate.** It looks at the session at the start, after each pause and at the
end of the wait, until it finds it ready; it ends with that look, or in vain with the one at the end
of the wait. Presence is shown once, at the first look in vain that is not before the threshold and
not at the end of the wait, if there is one. -/
theorem awaitReady_schedule (valid : c.validate = .ok ()) (quick : b.delay = 0) (i : InstanceId)
    (start : Nat) :
    ∃ n w, (awaitReady c i).run (b.answer i) (.fresh start) =
        (if b.ready n then .ok () else .error (.sessionUnavailable i), w) ∧
      (∀ more, (lookUntilReady c i start (c.looks + more) false).run (b.answer i) (.fresh start) =
        (b.ready n, w)) ∧
      w.looks = b.looksBefore c start (n + 1) ∧ w.time = c.lookTime start n ∧
      (∀ k < n, b.ready k = false) ∧ n ≤ c.readyTimeout ⌈/⌉ c.pollInterval ∧
      (b.ready n = false →
        n = c.readyTimeout ⌈/⌉ c.pollInterval ∧ w.time = start + c.readyTimeout) ∧
      w.shows = c.showTimes start w.looks := by
  have pause := pollInterval_pos valid
  obtain ⟨ready, w, waits, run, bounded⟩ := awaitReady_waits pause b i start
  obtain ⟨n, shown, v, onTime, rfl, rfl, late⟩ := waits.onSchedule pause quick (.fresh b c start)
  refine ⟨n, _, run, bounded, ?_, onTime.time, onTime.unready, onTime.bound, fun unready => ?_, ?_⟩
  · rw [SessionBehaviour.looksBefore_succ, Vigil.look, onTime.looks, onTime.time]
  · refine ⟨Nat.le_antisymm onTime.bound (Nat.le_of_not_lt fun early => ?_), ?_⟩
    · exact Nat.not_lt_of_le (late unready) ((onTime.early_iff pause).2 early)
    · have up := late unready
      rw [onTime.time, DispatchConfig.lookTime] at up
      rw [Vigil.time_look, onTime.time, DispatchConfig.lookTime]
      omega
  · have last : c.isDueAt start (v.time, b.ready n) = false := by
      cases unready : b.ready n with
      | true => rfl
      | false => simp [DispatchConfig.isDueAt, late unready]
    rw [Vigil.look, DispatchConfig.showTimes_append, last, Bool.and_false, if_neg Bool.false_ne_true]
    exact onTime.shows

/-- A wait in vain of a second, with looks that are three tenths of a second apart and a threshold of
half a second. -/
theorem awaitReady_schedule_uneven :
    (⟨1000, 300, 500⟩ : DispatchConfig).validate = .ok () ∧
      ∃ w, (awaitReady ⟨1000, 300, 500⟩ ⟨"A"⟩).run
          (SessionBehaviour.answer ⟨fun _ => false, .error .timeout, 0⟩ ⟨"A"⟩) (.fresh 0) =
        (.error (.sessionUnavailable ⟨"A"⟩), w) ∧
      w.looks = [(0, false), (300, false), (600, false), (900, false), (1000, false)] ∧
      w.shows = [600] ∧ w.time = 1000 := by
  refine ⟨rfl, ?_⟩
  obtain ⟨n, w, run, -, looks, -, -, -, vain, shows⟩ := awaitReady_schedule
    (b := ⟨fun _ => false, .error .timeout, 0⟩) (c := ⟨1000, 300, 500⟩) rfl rfl ⟨"A"⟩ 0
  obtain ⟨count, time⟩ := vain rfl
  have four : n = 4 := count
  rw [four] at looks
  refine ⟨w, run, looks, ?_, time⟩
  rw [shows, looks]
  rfl

end MessageGateway
