import Mathlib.Data.List.TakeDrop
import MessageGateway.Text.Parts

/-!
# Digits of numbers

A number is written by decimal digits, and where no further digit follows, the digits at the start
of a text are those of the number.

## Main definitions

* `NoDigitFirst cs`: the text does not begin with a digit

## Main results

* `span_isDigit`: digits are told apart from what follows
* `head?_toDigits_ne_zero`: no zero stands in front of a number
-/

namespace MessageGateway.Text

variable {c : Char} {cs ds rest : List Char} {n d : Nat}

theorem isDigit_eq_isDigit (c : Char) : isDigit c = c.isDigit :=
  rfl

theorem isDigit_digitChar (h : d < 10) : isDigit (Nat.digitChar d) = true := by
  rw [isDigit_eq_isDigit]
  simpa using h

theorem isDigit_of_mem_toDigits (h : c ∈ Nat.toDigits 10 n) : isDigit c = true := by
  rw [isDigit_eq_isDigit]
  exact Nat.isDigit_of_mem_toDigits (by decide) (by decide) h

/-- No digit stands first, so a number in front of the text ends there. -/
def NoDigitFirst (cs : List Char) : Prop :=
  ∀ c, cs.head? = some c → isDigit c = false

@[simp] theorem noDigitFirst_nil : NoDigitFirst [] := by
  simp [NoDigitFirst]

@[simp] theorem noDigitFirst_cons : NoDigitFirst (c :: cs) ↔ isDigit c = false := by
  simp [NoDigitFirst]

/-- Digits end where no digit follows. -/
theorem span_isDigit (digits : ∀ d ∈ ds, isDigit d = true) (next : NoDigitFirst rest) :
    (ds ++ rest).span isDigit = (ds, rest) := by
  have first : rest.takeWhile isDigit = [] := by
    cases rest with
    | nil => rfl
    | cons c rest => simp [noDigitFirst_cons.1 next]
  have all : rest.dropWhile isDigit = rest := by
    cases rest with
    | nil => rfl
    | cons c rest => simp [noDigitFirst_cons.1 next]
  rw [List.span_eq_takeWhile_dropWhile, List.takeWhile_append_of_pos digits,
    List.dropWhile_append_of_pos digits, first, all, List.append_nil]

/-- The digits of a number other than zero do not begin with a zero. -/
theorem head?_toDigits_ne_zero (h : 0 < n) : (Nat.toDigits 10 n).head? ≠ some '0' := by
  induction n using Nat.base_induction 10 (by decide) with
  | single m small =>
    rw [Nat.toDigits_of_lt_base small]
    simpa using Nat.ne_of_gt h
  | digit m k small pos ih =>
    rw [← Nat.toDigits_append_toDigits (by decide) pos small, List.head?_append]
    cases first : (Nat.toDigits 10 m).head? with
    | none => exact absurd (List.head?_eq_none_iff.1 first) Nat.toDigits_ne_nil
    | some c => simpa [first] using ih pos

end MessageGateway.Text
