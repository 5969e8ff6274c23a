import Mathlib.Algebra.Group.Nat.Defs
import MessageGateway.Time.Rfc3339
import MessageGateway.Proofs.Text.Digits
import MessageGateway.Proofs.Text.Parts
import MessageGateway.Proofs.Time.Calendar

/-!
# Written times are read back

Each part of a time is read off the front of the text, and the part that follows it does not begin
with a digit. The years need not have four digits; whether they do decides whether a sign stands in
front of them.

## Main definitions

* `Timestamp.year t`: the year of a time
* `Timestamp.InRange t`: times outside leap seconds, in the years that times can have

## Main results

* `Rfc3339.read?_write`: a time is read as it was written
-/

namespace MessageGateway

/-- The year of a time. -/
def Timestamp.year (t : Timestamp) : Int :=
  (Date.ofDays (t.seconds / 86400)).year

/-- The time lies in no leap second, and in the years that times can have. -/
structure Timestamp.InRange (t : Timestamp) : Prop where
  /-- The nanoseconds do not make a second. -/
  nanos : t.nanos < 1000000000
  /-- The first year. -/
  least : -262143 ≤ t.year
  /-- The last year. -/
  most : t.year ≤ 262142

/-- Times of whole milliseconds with a year of at most four digits. -/
theorem Timestamp.inRange_ofMillis {ms : Int} (least : 1 ≤ (ofMillis ms).year)
    (most : (ofMillis ms).year ≤ 9999) : (ofMillis ms).InRange where
  nanos := by
    show (ms % 1000).toNat * 1000000 < 1000000000
    omega
  least := by omega
  most := by omega

namespace Rfc3339

open Text

variable {c : Char} {cs ds rest : List Char} {w n : Nat}

/-! ## Digits -/

theorem numeral_eq (ds : List Char) : numeral ds = Nat.ofDigitChars 10 ds 0 := by
  unfold numeral Nat.ofDigitChars
  congr 1
  funext k c
  rw [Nat.mul_comm]

theorem isDigit_of_mem_padded (h : c ∈ padded w n) : isDigit c = true := by
  rcases List.mem_append.1 h with h | h
  · rw [List.eq_of_mem_replicate h]
    rfl
  · exact isDigit_of_mem_toDigits h

theorem padded_ne_nil (w n : Nat) : padded w n ≠ [] := by
  simp [padded]

theorem numeral_padded (w n : Nat) : numeral (padded w n) = n := by
  rw [numeral_eq, padded, Nat.ofDigitChars_append, Nat.ofDigitChars_replicate_zero, Nat.mul_zero,
    Nat.ofDigitChars_ten_toDigits]

theorem length_padded (h : n < 10 ^ w) (hw : 0 < w) : (padded w n).length = w := by
  have := (Nat.length_toDigits_le_iff (b := 10) (by decide) hw).2 h
  rw [padded, List.length_append, List.length_replicate]
  omega

theorem exists_padded (w n : Nat) : ∃ d ds, padded w n = d :: ds ∧ isDigit d = true := by
  obtain ⟨d, ds, eq⟩ := List.exists_cons_of_ne_nil (padded_ne_nil w n)
  exact ⟨d, ds, eq, isDigit_of_mem_padded (eq ▸ List.mem_cons_self)⟩

/-! ## Reading each part -/

theorem digits?_padded (w n : Nat) (next : NoDigitFirst rest) :
    digits? (padded w n ++ rest) = some (padded w n, rest) := by
  obtain ⟨d, ds, eq, -⟩ := exists_padded w n
  rw [digits?, span_isDigit (fun _ => isDigit_of_mem_padded) next, eq]

theorem trimStart_padded (w n : Nat) : trimStart (padded w n ++ rest) = padded w n ++ rest := by
  obtain ⟨d, ds, eq, digit⟩ := exists_padded w n
  refine trimStart_eq_self fun c hc => ?_
  rw [eq] at hc
  obtain rfl : d = c := Option.some.inj hc
  exact not_isBlank_of_isDigit digit

theorem number?_padded (h : n < 10 ^ w) (hw : 0 < w) (next : NoDigitFirst rest) :
    number? w (padded w n ++ rest) = some (n, rest) := by
  have length := length_padded h hw
  rw [number?, trimStart_padded, digits?_padded w n next, Option.map_some]
  show some (numeral ((padded w n).take w), (padded w n).drop w ++ rest) = some (n, rest)
  rw [List.take_of_length_le (Nat.le_of_eq length), numeral_padded,
    List.drop_eq_nil_of_le (Nat.le_of_eq length), List.nil_append]

theorem mark?_cons (h : isBlank c = false) : mark? c (c :: rest) = some rest := by
  rw [mark?, trimStart_eq_self (fun d hd => by obtain rfl := Option.some.inj hd; exact h)]
  simp [after?]

/-- A year is read as it was written, with a sign or without. -/
theorem year?_writeYear (year : Int) (next : NoDigitFirst rest) :
    year? (writeYear year ++ rest) = some (year, rest) := by
  unfold writeYear
  split
  · next short =>
    have number := number?_padded (w := 4) (n := year.toNat) (by omega) (by decide) next
    obtain ⟨d, ds, eq, digit⟩ := exists_padded 4 year.toNat
    have minus : d ≠ '-' := by rintro rfl; cases digit
    have plus : d ≠ '+' := by rintro rfl; cases digit
    have same : (year.toNat : Int) = year := by omega
    have read : year? (padded 4 year.toNat ++ rest) = some ((year.toNat : Int), rest) := by
      rw [year?, trimStart_padded]
      rw [eq, List.cons_append] at number ⊢
      simp [minus, plus, number]
    rw [read, same]
  · next long =>
    have digits := digits?_padded 4 year.natAbs next
    split
    · next neg =>
      have same : -(year.natAbs : Int) = year := by omega
      have read : year? ('-' :: padded 4 year.natAbs ++ rest) =
          some (-(numeral (padded 4 year.natAbs) : Int), rest) := by
        rw [List.cons_append, year?, trimStart_eq_self (by simp [isBlank])]
        simp [digits]
      rw [read, numeral_padded, same]
    · next pos =>
      have same : (year.natAbs : Int) = year := by omega
      have read : year? ('+' :: padded 4 year.natAbs ++ rest) =
          some ((numeral (padded 4 year.natAbs) : Int), rest) := by
        rw [List.cons_append, year?, trimStart_eq_self (by simp [isBlank])]
        simp [digits]
      rw [read, numeral_padded, same]

/-- Zeros behind the digits of a fraction make it one of nanoseconds. -/
theorem numeral_fraction {k : Nat} (hk : k ≤ 9) (length : ds.length = k) :
    numeral ((ds ++ List.replicate 9 '0').take 9) = 10 ^ (9 - k) * numeral ds := by
  have kept : (ds ++ List.replicate 9 '0').take 9 = ds ++ List.replicate (9 - k) '0' := by
    rw [List.take_append, List.take_of_length_le (by omega), List.take_replicate, length]
    congr 2
    omega
  rw [kept, numeral_eq, Nat.ofDigitChars_append, Nat.ofDigitChars_replicate_zero, ← numeral_eq]

theorem fraction?_padded {k : Nat} (hk : 0 < k ∧ k ≤ 9) (h : n < 10 ^ k)
    (next : NoDigitFirst rest) :
    fraction? ('.' :: padded k n ++ rest) = some (10 ^ (9 - k) * n, rest) := by
  rw [List.cons_append, fraction?, digits?_padded k n next, Option.map_some]
  show some (numeral ((padded k n ++ List.replicate 9 '0').take 9), rest) = _
  rw [numeral_fraction hk.2 (length_padded h hk.1), numeral_padded]

/-- A fraction is read as it was written, in whatever number of digits. -/
theorem fraction?_writeFraction {nanos : Nat} (h : nanos < 1000000000)
    (next : NoDigitFirst rest) (noPoint : rest.head? ≠ some '.') :
    fraction? (writeFraction nanos ++ rest) = some (nanos, rest) := by
  unfold writeFraction
  split
  · next none =>
    subst none
    cases rest with
    | nil => rfl
    | cons c rest =>
      have : c ≠ '.' := by simpa using noPoint
      simp [fraction?, this]
  split
  · next millis =>
    rw [fraction?_padded (by decide) (by omega) next]
    congr 2
    omega
  split
  · next micros =>
    rw [fraction?_padded (by decide) (by omega) next]
    congr 2
    omega
  · rw [fraction?_padded (by decide) (by omega) next]
    congr 2
    omega

/-! ## Times -/

theorem isValid_iff {d : Date} : d.isValid = true ↔
    ((1 ≤ d.month ∧ d.month ≤ 12) ∧ 1 ≤ d.day) ∧ d.day ≤ Date.daysInMonth d.year d.month := by
  simp [Date.isValid]

/-- The date of a text. -/
def writeDate (d : Date) : List Char :=
  writeYear d.year ++ '-' :: padded 2 d.month ++ '-' :: padded 2 d.day

/-- The time of day of a text, by the second of the day. -/
def writeTimeOfDay (ofDay nanos : Nat) : List Char :=
  padded 2 (ofDay / 3600) ++ ':' :: padded 2 (ofDay / 60 % 60) ++ ':' :: padded 2 (ofDay % 60) ++
    writeFraction nanos

theorem write_eq {t : Timestamp} (h : t.nanos < 1000000000) :
    (write t).toList = writeDate (Date.ofDays (t.seconds / 86400)) ++
      'T' :: (writeTimeOfDay (t.seconds % 86400).toNat t.nanos ++ ['Z']) := by
  simp [write, writeDate, writeTimeOfDay, Nat.div_eq_of_lt h, Nat.mod_eq_of_lt h]

theorem date?_write {d : Date} (valid : d.isValid = true) (least : -262143 ≤ d.year)
    (most : d.year ≤ 262142) (next : NoDigitFirst rest) :
    date? (writeDate d ++ rest) = some (d, rest) := by
  have ⟨⟨month, _⟩, day⟩ := isValid_iff.1 valid
  have length : Date.daysInMonth d.year d.month ≤ 31 := by
    unfold Date.daysInMonth
    repeat' split
    all_goals omega
  have mark (cs : List Char) : NoDigitFirst ('-' :: cs) := noDigitFirst_cons.2 rfl
  simp only [writeDate, List.append_assoc, List.cons_append]
  simp [date?, year?_writeYear _ (mark _), mark?_cons (c := '-') rfl,
    number?_padded (w := 2) (n := d.month) (by omega) (by decide) (mark _),
    number?_padded (w := 2) (n := d.day) (by omega) (by decide) next, valid, least, most]

theorem timeOfDay?_write {ofDay nanos : Nat} (hd : ofDay < 86400) (hn : nanos < 1000000000)
    (next : NoDigitFirst rest) (noPoint : rest.head? ≠ some '.') :
    timeOfDay? (writeTimeOfDay ofDay nanos ++ rest) = some ((ofDay, nanos), rest) := by
  have mark (cs : List Char) : NoDigitFirst (':' :: cs) := noDigitFirst_cons.2 rfl
  have point : NoDigitFirst (writeFraction nanos ++ rest) := by
    unfold writeFraction
    repeat' split
    · exact next
    all_goals exact noDigitFirst_cons.2 rfl
  have noLeap : ofDay % 60 ≠ 60 := by omega
  have whole : ofDay / 3600 * 3600 + ofDay / 60 % 60 * 60 + ofDay % 60 = ofDay := by omega
  simp only [writeTimeOfDay, List.append_assoc, List.cons_append]
  simp [timeOfDay?, mark?_cons (c := ':') rfl,
    number?_padded (w := 2) (n := ofDay / 3600) (by omega) (by decide) (mark _),
    number?_padded (w := 2) (n := ofDay / 60 % 60) (by omega) (by decide) (mark _),
    number?_padded (w := 2) (n := ofDay % 60) (by omega) (by decide) point,
    fraction?_writeFraction hn next noPoint, noLeap, whole]
  omega

/-- **A time is read as it was written.** -/
theorem read?_write {t : Timestamp} (h : t.InRange) : read? (write t) = some t := by
  have date : date? (write t).toList = some (Date.ofDays (t.seconds / 86400),
      'T' :: (writeTimeOfDay (t.seconds % 86400).toNat t.nanos ++ ['Z'])) := by
    rw [write_eq h.nanos]
    exact date?_write (Date.isValid_ofDays _) h.least h.most (noDigitFirst_cons.2 rfl)
  have time : timeOfDay? (writeTimeOfDay (t.seconds % 86400).toNat t.nanos ++ ['Z']) =
      some (((t.seconds % 86400).toNat, t.nanos), ['Z']) :=
    timeOfDay?_write (by omega) h.nanos (noDigitFirst_cons.2 rfl) (by decide)
  have zone : offset? ['Z'] = some (0, []) := rfl
  have seconds : (Date.ofDays (t.seconds / 86400)).toDays * 86400 + ((t.seconds % 86400).toNat : Int)
      - 0 = t.seconds := by
    rw [Date.toDays_ofDays]
    omega
  have least : -262143 ≤ (Date.ofDays (t.seconds / 86400)).year := h.least
  have most : (Date.ofDays (t.seconds / 86400)).year ≤ 262142 := h.most
  rw [read?, date]
  simp only [Option.bind_eq_bind, Option.bind_some, separator?, true_or, if_true, time, zone,
    seconds]
  simp [trimStart, least, most]

end Rfc3339

end MessageGateway
