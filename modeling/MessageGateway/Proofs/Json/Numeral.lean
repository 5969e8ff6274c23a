import MessageGateway.Json.Numeral
import MessageGateway.Proofs.Text.Digits

/-!
# Written numbers are read back

Each part of a numeral is read off the front of the text, up to the part that follows it.

## Main definitions

* `Numeral.IsDecimal n`: what stands after the point are decimal digits
* `Numeral.writeFraction`, `Numeral.writeExponent`: the parts behind the digits of the whole

## Main results

* `Numeral.read?_write`: a numeral is read as it was written
* `Numeral.of_mem_write`: the characters that numerals are written with
-/

namespace MessageGateway.Numeral

open Text

variable {n : Numeral} {m : Nat} {ds : List Nat} {rest : List Char} {c : Char}

/-- What stands after the point are decimal digits. -/
def IsDecimal (n : Numeral) : Prop :=
  ∀ d ∈ n.fraction, d < 10

/-- Integers have nothing after the point. -/
theorem isDecimal_ofInt (z : Int) : (ofInt z).IsDecimal :=
  fun _ h => nomatch h

/-- The point and the digits after it. -/
def writeFraction (ds : List Nat) : List Char :=
  if ds.isEmpty then [] else '.' :: ds.map Nat.digitChar

/-- The mark of an exponent, and the exponent. -/
def writeExponent : Option Int → List Char
  | none => []
  | some e => 'e' :: (if e < 0 then ['-'] else []) ++ Nat.toDigits 10 e.natAbs

theorem write_eq (n : Numeral) :
    write n = (if n.negative then ['-'] else []) ++ (Nat.toDigits 10 n.whole ++
      (writeFraction n.fraction ++ writeExponent n.exponent)) := by
  rw [write, ← List.append_assoc, ← List.append_assoc]
  rfl

theorem noDigitFirst_writeExponent (e : Option Int) : NoDigitFirst (writeExponent e) := by
  cases e with
  | none => simp [writeExponent]
  | some e => simp [writeExponent, isDigit]

theorem noDigitFirst_writeFraction (ds : List Nat) (next : NoDigitFirst rest) :
    NoDigitFirst (writeFraction ds ++ rest) := by
  cases ds with
  | nil => exact next
  | cons d ds => simp [writeFraction, isDigit]

/-! ## Reading each part -/

theorem ofDigits_toDigits (m : Nat) : ofDigits (Nat.toDigits 10 m) = m := by
  have same : ofDigits (Nat.toDigits 10 m) = Nat.ofDigitChars 10 (Nat.toDigits 10 m) 0 := by
    unfold ofDigits Nat.ofDigitChars
    congr 1
    funext k c
    rw [Nat.mul_comm]
    rfl
  rw [same, Nat.ofDigitChars_ten_toDigits]

theorem whole?_toDigits (m : Nat) (next : NoDigitFirst rest) :
    whole? (Nat.toDigits 10 m ++ rest) = some (m, rest) := by
  rw [whole?, span_isDigit (fun _ => isDigit_of_mem_toDigits) next]
  rcases Nat.eq_zero_or_pos m with rfl | pos
  · rfl
  · have value := ofDigits_toDigits m
    have lead := head?_toDigits_ne_zero pos
    -- the digits are there and begin with no zero, which leaves the last of the four cases
    split
    · next none => exact absurd (Prod.mk.inj none).1 Nat.toDigits_ne_nil
    · next zero => simp [(Prod.mk.inj zero).1] at lead
    · next zero => simp [(Prod.mk.inj zero).1] at lead
    · next digits =>
      obtain ⟨rfl, rfl⟩ := Prod.mk.inj digits
      rw [value]

theorem fraction?_write (decimal : ∀ d ∈ ds, d < 10) (next : NoDigitFirst rest)
    (noPoint : rest.head? ≠ some '.') : fraction? (writeFraction ds ++ rest) = some (ds, rest) := by
  cases ds with
  | nil =>
    rw [writeFraction]
    cases rest with
    | nil => rfl
    | cons c rest =>
      have : c ≠ '.' := by simpa using noPoint
      simp [fraction?, this]
  | cons d ds =>
    have digits : ∀ c ∈ (d :: ds).map Nat.digitChar, isDigit c = true := by
      intro c hc
      obtain ⟨d, hd, rfl⟩ := List.mem_map.1 hc
      exact isDigit_digitChar (decimal d hd)
    have values : ((d :: ds).map Nat.digitChar).map digitValue = d :: ds := by
      rw [List.map_map]
      have each : ∀ d' ∈ d :: ds, digitValue (Nat.digitChar d') = d' := fun d' hd =>
        Nat.toNat_digitChar_sub_48_of_lt_ten (decimal d' hd)
      exact (List.map_congr_left each).trans (List.map_id' _)
    show fraction? ('.' :: ((d :: ds).map Nat.digitChar ++ rest)) = _
    rw [fraction?, span_isDigit digits next]
    exact congrArg (fun ds => some (ds, rest)) values

theorem magnitude?_toDigits (m : Nat) : magnitude? (Nat.toDigits 10 m) = some m := by
  have all : (Nat.toDigits 10 m).all isDigit = true :=
    List.all_eq_true.2 fun _ => isDigit_of_mem_toDigits
  have some : (Nat.toDigits 10 m).isEmpty = false := by simp
  rw [magnitude?, all, some, ofDigits_toDigits]
  rfl

theorem exponent?_write (e : Option Int) : exponent? (writeExponent e) = some e := by
  rcases e with _ | e
  · rfl
  · obtain ⟨d, ds, digits⟩ := List.exists_cons_of_ne_nil (Nat.toDigits_ne_nil (b := 10)
      (n := e.natAbs))
    have first : isDigit d = true := isDigit_of_mem_toDigits (digits ▸ List.mem_cons_self)
    have value := magnitude?_toDigits e.natAbs
    rw [digits] at value
    by_cases neg : e < 0
    · have same : -(e.natAbs : Int) = e := by omega
      have read : exponent? ('e' :: '-' :: d :: ds) = some (some (-(e.natAbs : Int))) := by
        simp [exponent?, value]
      rw [writeExponent, if_pos neg, digits]
      exact read.trans (by rw [same])
    · have same : (e.natAbs : Int) = e := by omega
      have plus : d ≠ '+' := by rintro rfl; cases first
      have minus : d ≠ '-' := by rintro rfl; cases first
      have read : exponent? ('e' :: d :: ds) = some (some (e.natAbs : Int)) := by
        simp [exponent?, plus, minus, value]
      rw [writeExponent, if_neg neg, digits]
      exact read.trans (by rw [same])

/-- The numeral that the characters spell behind the sign. -/
def unsigned? (negative : Bool) (cs : List Char) : Option Numeral := do
  let (whole, cs) ← whole? cs
  let (fraction, cs) ← fraction? cs
  let exponent ← exponent? cs
  return { negative, whole, fraction, exponent }

theorem read?_digit (digit : isDigit c = true) (cs : List Char) :
    read? (c :: cs) = unsigned? false (c :: cs) := by
  have minus : c ≠ '-' := by rintro rfl; cases digit
  simp [read?, unsigned?, minus]

/-- **A numeral is read as it was written.** -/
theorem read?_write (decimal : n.IsDecimal) : read? n.write = some n := by
  have tail := noDigitFirst_writeExponent n.exponent
  have noPoint : (writeExponent n.exponent).head? ≠ some '.' := by
    cases n.exponent <;> simp [writeExponent]
  have parts : unsigned? n.negative (Nat.toDigits 10 n.whole ++
      (writeFraction n.fraction ++ writeExponent n.exponent)) = some n := by
    simp [unsigned?, whole?_toDigits _ (noDigitFirst_writeFraction _ tail),
      fraction?_write decimal tail noPoint, exponent?_write]
  rw [write_eq]
  cases sign : n.negative with
  | true =>
    rw [sign] at parts
    exact parts
  | false =>
    obtain ⟨d, ds, digits⟩ := List.exists_cons_of_ne_nil (Nat.toDigits_ne_nil (b := 10)
      (n := n.whole))
    have first : isDigit d = true := isDigit_of_mem_toDigits (digits ▸ List.mem_cons_self)
    rw [sign, digits] at parts
    rw [digits]
    exact (read?_digit first _).trans parts

/-! ## What a numeral consists of -/

theorem head_write (n : Numeral) : ∃ c cs, n.write = c :: cs ∧ (isDigit c = true ∨ c = '-') := by
  rw [write_eq]
  cases n.negative with
  | true => exact ⟨'-', _, rfl, .inr rfl⟩
  | false =>
    obtain ⟨d, ds, digits⟩ := List.exists_cons_of_ne_nil (Nat.toDigits_ne_nil (b := 10)
      (n := n.whole))
    rw [digits]
    exact ⟨d, _, rfl, .inl (isDigit_of_mem_toDigits (digits ▸ List.mem_cons_self))⟩

/-- The characters that numerals are written with. -/
theorem of_mem_write (decimal : n.IsDecimal) (h : c ∈ n.write) :
    isDigit c = true ∨ c ∈ ['-', '.', 'e'] := by
  rw [write_eq, List.mem_append, List.mem_append, List.mem_append] at h
  rcases h with h | h | h | h
  · cases sign : n.negative <;> simp_all
  · exact .inl (isDigit_of_mem_toDigits h)
  · unfold writeFraction at h
    split at h
    · cases h
    · rcases List.mem_cons.1 h with rfl | h
      · exact .inr (by decide)
      · obtain ⟨d, hd, rfl⟩ := List.mem_map.1 h
        exact .inl (isDigit_digitChar (decimal d hd))
  · cases exponent : n.exponent with
    | none =>
      rw [exponent] at h
      cases h
    | some e =>
      rw [exponent, writeExponent, List.mem_append, List.mem_cons] at h
      rcases h with (rfl | h) | h
      · exact .inr (by decide)
      · split at h <;> simp_all
      · exact .inl (isDigit_of_mem_toDigits h)

end MessageGateway.Numeral
