import MessageGateway.Time.Calendar

/-!
# Days and dates

Dates are found from day counts by arithmetic alone. Within an era the year is found by leaving out
the leap days; this count grows with the days, and reaches a multiple of 365 exactly on the first
day of a year.

## Main definitions

* `Date.ordinaryDays e`: the days of an era before the day `e`, without the leap days
* `Date.firstDay y`: the first day of the year `y` of an era

## Main results

* `Date.lt_firstDay_iff`: the year of a day
* `Date.toDays_ofDays`: the date of a day count has that day count
* `Date.isValid_ofDays`: the date of a day count exists
-/

namespace MessageGateway.Date

variable {e e' y n : Int}

/-! ## Years -/

/-- The days of an era before the day `e`, without the leap days. -/
def ordinaryDays (e : Int) : Int :=
  e - e / 1460 + e / 36524 - e / 146096

theorem ordinaryDays_le_succ (e : Int) : ordinaryDays e ≤ ordinaryDays (e + 1) := by
  unfold ordinaryDays
  omega

theorem ordinaryDays_mono (h : e ≤ e') : ordinaryDays e ≤ ordinaryDays e' := by
  obtain ⟨k, rfl⟩ := Int.le.dest h
  clear h
  induction k with
  | zero => simp
  | succ k ih =>
    have step := ordinaryDays_le_succ (e + k)
    rw [Int.natCast_succ, ← Int.add_assoc]
    exact Int.le_trans ih step

/-- The first day of the year `y` of an era, both counted from March. The year 400 begins the next
era. -/
def firstDay (y : Int) : Int :=
  365 * y + y / 4 - y / 100 + y / 400

theorem firstDay_eq (h0 : 0 ≤ y) (h : y < 400) : firstDay y = daysBeforeYear y := by
  unfold firstDay daysBeforeYear
  omega

/-- A year is as long as the civil year that its February is in. -/
theorem firstDay_succ (y : Int) :
    firstDay (y + 1) = firstDay y + 365 + if isLeapYear (y + 1) then 1 else 0 := by
  have leap : isLeapYear (y + 1) = true ↔
      (y + 1) % 4 = 0 ∧ ((y + 1) % 100 ≠ 0 ∨ (y + 1) % 400 = 0) := by
    simp [isLeapYear]
  -- a quotient grows where its divisor divides
  have four : (y + 1) / 4 = y / 4 + if (y + 1) % 4 = 0 then 1 else 0 := by split <;> omega
  have century : (y + 1) / 100 = y / 100 + if (y + 1) % 100 = 0 then 1 else 0 := by
    split <;> omega
  have era : (y + 1) / 400 = y / 400 + if (y + 1) % 400 = 0 then 1 else 0 := by split <;> omega
  simp only [firstDay, four, century, era, leap]
  by_cases h4 : (y + 1) % 4 = 0 <;> by_cases h100 : (y + 1) % 100 = 0 <;>
    by_cases h400 : (y + 1) % 400 = 0 <;> simp [h4, h100, h400] <;> omega

/-- Every year begins when all the ordinary days of the years before it are over. -/
theorem ordinaryDays_firstDay : ∀ y < 400,
    ordinaryDays (firstDay (y + 1 : Nat) - 1) < 365 * (y + 1 : Nat) ∧
      365 * (y + 1 : Nat) ≤ ordinaryDays (firstDay (y + 1 : Nat)) := by
  decide +kernel

/-- **The year of a day**: a day is before the year `y` if fewer ordinary days are over. -/
theorem lt_firstDay_iff (h0 : 0 < y) (h : y ≤ 400) : e < firstDay y ↔ ordinaryDays e < 365 * y := by
  obtain ⟨k, rfl⟩ : ∃ k : Nat, y = (k + 1 : Nat) := ⟨(y - 1).toNat, by omega⟩
  obtain ⟨before, after⟩ := ordinaryDays_firstDay k (by omega)
  constructor
  · intro early
    exact Int.lt_of_le_of_lt (ordinaryDays_mono (Int.le_sub_one_of_lt early)) before
  · intro few
    refine Int.lt_of_not_ge fun late => ?_
    have := ordinaryDays_mono late
    omega

/-- The year of a day in its era, and the place of the day in it. -/
theorem year_of_day (h0 : 0 ≤ e) (h : e < 146097) (hy : y = ordinaryDays e / 365) :
    0 ≤ y ∧ y < 400 ∧ firstDay y ≤ e ∧ e < firstDay (y + 1) := by
  have least : (0 : Int) ≤ ordinaryDays e := ordinaryDays_mono h0
  have most : ordinaryDays e < 365 * 400 := (lt_firstDay_iff (by decide) (by decide)).1 h
  have range : 0 ≤ y ∧ y < 400 := by omega
  refine ⟨range.1, range.2, ?_, ?_⟩
  · by_cases first : y = 0
    · rw [first]
      exact h0
    · refine Int.not_lt.1 fun early => ?_
      have := (lt_firstDay_iff (by omega) (by omega)).1 early
      omega
  · exact (lt_firstDay_iff (by omega) (by omega)).2 (by omega)

/-! ## Months -/

/-- The month of a day, counted from March, and the place of the day in it. Only the last month
depends on whether there is a leap day. -/
theorem month_of_day (leap : Int) (hl : leap ≤ 1) (h0 : 0 ≤ n) (h : n < 365 + leap) {m : Int}
    (hm : m = (5 * n + 2) / 153) :
    0 ≤ m ∧ m < 12 ∧ 0 ≤ n - daysBeforeMonth m ∧
      n - daysBeforeMonth m < 31 ∧
      (m = 1 ∨ m = 3 ∨ m = 6 ∨ m = 8 → n - daysBeforeMonth m < 30) ∧
      (m = 11 → n - daysBeforeMonth m < 28 + leap) := by
  unfold daysBeforeMonth
  omega

/-- The number of the month that is the `m`-th after March. -/
def civilMonth (m : Int) : Int :=
  if m < 10 then m + 3 else m - 9

/-! ## Dates -/

variable {era m d : Int}

/-- The date of a day in a month of a year of an era; years and months are counted from March, and
days from zero. -/
def ofParts (era y m d : Int) : Date :=
  ⟨era * 400 + y + if civilMonth m ≤ 2 then 1 else 0, (civilMonth m).toNat, (d + 1).toNat⟩

theorem toDays_ofParts (hy : 0 ≤ y ∧ y < 400) (hm : 0 ≤ m ∧ m < 12) (hd : 0 ≤ d) :
    (ofParts era y m d).toDays =
      era * 146097 + daysBeforeYear y + daysBeforeMonth m + d - 719468 := by
  have month : ((civilMonth m).toNat : Int) = civilMonth m := by
    unfold civilMonth
    omega
  have march : (if civilMonth m ≤ 2 then civilMonth m + 9 else civilMonth m - 3) = m := by
    unfold civilMonth
    omega
  have year : (if civilMonth m ≤ 2 then (era * 400 + y + if civilMonth m ≤ 2 then 1 else 0) - 1
      else era * 400 + y + if civilMonth m ≤ 2 then 1 else 0) = era * 400 + y := by
    split <;> omega
  have day : ((d + 1).toNat : Int) = d + 1 := by omega
  have quotient : (era * 400 + y) / 400 = era := by omega
  have remainder : (era * 400 + y) % 400 = y := by omega
  simp only [toDays, ofParts, month, march, year, day, quotient, remainder]
  omega

theorem isLeapYear_add (era y : Int) : isLeapYear (era * 400 + y) = isLeapYear y := by
  have four : (era * 400 + y) % 4 = y % 4 := by omega
  have century : (era * 400 + y) % 100 = y % 100 := by omega
  have whole : (era * 400 + y) % 400 = y % 400 := by omega
  simp only [isLeapYear, four, century, whole]

/-- How long the months are, counted from March. -/
theorem daysInMonth_eq (hm : 0 ≤ m ∧ m < 12) (year : Int) :
    (daysInMonth year (civilMonth m).toNat : Int) =
      if m = 11 then 28 + (if isLeapYear year then 1 else 0)
      else if m = 1 ∨ m = 3 ∨ m = 6 ∨ m = 8 then 30 else 31 := by
  have february : (civilMonth m).toNat = 2 ↔ m = 11 := by
    unfold civilMonth
    omega
  have short : (civilMonth m).toNat = 4 ∨ (civilMonth m).toNat = 6 ∨ (civilMonth m).toNat = 9 ∨
      (civilMonth m).toNat = 11 ↔ m = 1 ∨ m = 3 ∨ m = 6 ∨ m = 8 := by
    unfold civilMonth
    omega
  simp only [daysInMonth, february, short]
  repeat' split
  all_goals rfl

theorem isValid_ofParts (hm : 0 ≤ m ∧ m < 12) (hd : 0 ≤ d ∧ d < 31)
    (short : m = 1 ∨ m = 3 ∨ m = 6 ∨ m = 8 → d < 30)
    (february : m = 11 → d < 28 + if isLeapYear (y + 1) then 1 else 0) :
    (ofParts era y m d).isValid = true := by
  have month : 1 ≤ (civilMonth m).toNat ∧ (civilMonth m).toNat ≤ 12 := by
    unfold civilMonth
    omega
  have day : 1 ≤ (d + 1).toNat := by omega
  have length : (d + 1).toNat ≤ daysInMonth (ofParts era y m d).year (civilMonth m).toNat := by
    rw [← Int.ofNat_le, daysInMonth_eq hm]
    split
    · next last =>
      subst last
      have leap : isLeapYear (ofParts era y 11 d).year = isLeapYear (y + 1) := by
        rw [← isLeapYear_add era (y + 1), ← Int.add_assoc]
        rfl
      have := february rfl
      rw [leap]
      omega
    · omega
  simpa [isValid] using ⟨⟨month, day⟩, length⟩

/-- The date of a day count by its parts, which are in their ranges. -/
theorem ofDays_eq (days : Int) : ∃ era y m d, ofDays days = ofParts era y m d ∧
    days = era * 146097 + daysBeforeYear y + daysBeforeMonth m + d - 719468 ∧
    (0 ≤ y ∧ y < 400) ∧ (0 ≤ m ∧ m < 12) ∧ (0 ≤ d ∧ d < 31) ∧
    (m = 1 ∨ m = 3 ∨ m = 6 ∨ m = 8 → d < 30) ∧
    (m = 11 → d < 28 + if isLeapYear (y + 1) then 1 else 0) := by
  let e := (days + 719468) % 146097
  let y := ordinaryDays e / 365
  let n := e - daysBeforeYear y
  obtain ⟨hy0, hy, after, before⟩ := year_of_day (e := e) (y := y) (by omega) (by omega) rfl
  rw [firstDay_succ] at before
  rw [firstDay_eq hy0 hy] at after before
  have leap : (if isLeapYear (y + 1) then 1 else 0 : Int) ≤ 1 := by split <;> decide
  obtain ⟨hm0, hm, hd0, hd, short, february⟩ := month_of_day (n := n) _ leap (by omega)
    (by omega) rfl
  refine ⟨(days + 719468) / 146097, y, (5 * n + 2) / 153, n - daysBeforeMonth ((5 * n + 2) / 153),
    rfl, ?_, ⟨hy0, hy⟩, ⟨hm0, hm⟩, ⟨hd0, hd⟩, short, february⟩
  omega

/-- **The date of a day count has that day count.** -/
theorem toDays_ofDays (days : Int) : (ofDays days).toDays = days := by
  obtain ⟨era, y, m, d, eq, sum, hy, hm, hd, -⟩ := ofDays_eq days
  rw [eq, toDays_ofParts hy hm hd.1, sum]

/-- **The date of a day count exists.** -/
theorem isValid_ofDays (days : Int) : (ofDays days).isValid = true := by
  obtain ⟨era, y, m, d, eq, -, -, hm, hd, short, february⟩ := ofDays_eq days
  rw [eq]
  exact isValid_ofParts hm hd short february

end MessageGateway.Date
