import Mathlib.Algebra.Group.Int.Defs
import Mathlib.Data.List.GetD
import Mathlib.Data.String.Basic
import MessageGateway.Proofs.Identifier
import MessageGateway.Time.Timestamp

/-!
# Identifiers sort by time

The time is in the upper 48 bits of an identifier, so what is drawn at a later time has a greater
value, whatever the lower bits are. The digits of a value stand in the order of their places, all
values have the same number of digits, and the alphabet is sorted. So texts are in the order of
their values.

## Main results

* `Base32.encode_lt_encode`: texts are in the order of values
* `Id.display_lt_display`: so are texts with the tag of one kind
* `Id.toNat_ofParts`, `Id.millis_ofParts`: where the time is
* `Id.sorted_by_time`: identifiers of different times
-/

namespace MessageGateway

namespace Identifier.Base32

/-! ## The order of texts -/

theorem alphabet_pairwise : alphabet.Pairwise (· < ·) := by
  decide

theorem digit_lt_digit {d e : Nat} (h : d < e) (he : e < 32) : digit d < digit e := by
  have length : alphabet.length = 32 := by decide
  rw [digit, digit, List.getD_eq_getElem _ _ (by omega), List.getD_eq_getElem _ _ (by omega)]
  exact List.pairwise_iff_getElem.1 alphabet_pairwise _ _ _ _ h

/-- Of two texts of one length, the lesser one is less whatever follows. -/
theorem append_lt_append {as bs : List Char} (length : as.length = bs.length) (h : as < bs)
    (cs ds : List Char) : as ++ cs < bs ++ ds := by
  induction as generalizing bs with
  | nil =>
    rw [List.eq_nil_of_length_eq_zero length.symm] at h
    cases h
  | cons a as ih =>
    cases bs with
    | nil => cases length
    | cons b bs =>
      rw [List.cons_append, List.cons_append, List.cons_lt_cons_iff]
      obtain first | ⟨same, rest⟩ := List.cons_lt_cons_iff.1 h
      · exact .inl first
      · exact .inr ⟨same, ih (Nat.succ.inj length) rest⟩

/-- Numbers are in the order of their digits. -/
theorem digits_lt_digits {u v n : Nat} (h : u < v) (hv : v < 32 ^ n) : digits u n < digits v n := by
  induction n generalizing u v with
  | zero => omega
  | succ n ih =>
    rw [digits, digits]
    obtain above | same : u / 32 < v / 32 ∨ u / 32 = v / 32 := by omega
    · have bound : v / 32 < 32 ^ n := Nat.div_lt_of_lt_mul (by rwa [← Nat.pow_succ'])
      exact append_lt_append (by simp) (ih above bound) _ _
    · rw [same]
      have last : digit (u % 32) < digit (v % 32) :=
        digit_lt_digit (by omega) (Nat.mod_lt v (by decide))
      exact List.append_left_lt (List.cons_lt_cons_iff.2 (.inl last))

/-- **Texts are in the order of values.** -/
theorem encode_lt_encode {u v : BitVec 128} (h : u.toNat < v.toNat) : encode u < encode v :=
  digits_lt_digits h (Nat.lt_of_lt_of_le v.isLt (by decide))

end Identifier.Base32

namespace Id

variable {kind : IdKind} {a b : Id kind}

/-- **Texts with one tag are in the order of identifiers.** -/
theorem display_lt_display (h : a.precedes b = true) : a.display < b.display := by
  rw [String.lt_iff_toList_lt, toList_display, toList_display]
  exact List.append_left_lt (Identifier.Base32.encode_lt_encode (of_decide_eq_true h))

/-! ## The time in an identifier -/

theorem toNat_ofParts (millis : Int) (random : Nat) :
    (ofParts millis random : Id kind).value.toNat =
      (millis % 2 ^ 48).toNat * 2 ^ 80 + random % 2 ^ 80 := by
  rw [ofParts, BitVec.toNat_append, BitVec.toNat_ofInt, BitVec.toNat_ofNat,
    ← Nat.shiftLeft_add_eq_or_of_lt (Nat.mod_lt _ (by decide)), Nat.shiftLeft_eq]
  rfl

/-- The time stands in the upper bits, whatever the lower ones are. -/
theorem millis_ofParts (millis : Int) (random : Nat) :
    (ofParts millis random : Id kind).millis = (millis % 2 ^ 48).toNat := by
  rw [Id.millis, BitVec.toNat_ushiftRight, Nat.shiftRight_eq_div_pow, toNat_ofParts]
  omega

/-- What is drawn later is greater, until the upper bits are used up. -/
theorem precedes_ofParts {millis millis' : Int} (start : 0 ≤ millis) (earlier : millis < millis')
    (bound : millis' < 2 ^ 48) (random random' : Nat) :
    (ofParts millis random : Id kind).precedes (ofParts millis' random') = true := by
  have low := Nat.mod_lt random (y := 2 ^ 80) (by decide)
  refine decide_eq_true ?_
  rw [toNat_ofParts, toNat_ofParts, Int.emod_eq_of_lt start (by omega),
    Int.emod_eq_of_lt (by omega) bound]
  omega

/-- **Identifiers sort by time.** Of two identifiers of one kind that are drawn at different times,
from the start of 1970 on and in 48 bits of milliseconds, the earlier one is the lesser one, and so
is its text, whatever bits are drawn at random. The upper 48 bits of each are its time. -/
theorem sorted_by_time (kind : IdKind) {time time' : Timestamp} (start : 0 ≤ time.toMillis)
    (earlier : time.toMillis < time'.toMillis) (bound : time'.toMillis < 2 ^ 48)
    (random random' : Nat) :
    let a : Id kind := ofParts time.toMillis random
    let b : Id kind := ofParts time'.toMillis random'
    a.precedes b = true ∧ a.display < b.display ∧
      (a.millis : Int) = time.toMillis ∧ (b.millis : Int) = time'.toMillis := by
  intro a b
  have precedes : a.precedes b = true := precedes_ofParts start earlier bound random random'
  refine ⟨precedes, display_lt_display precedes, ?_, ?_⟩
  · rw [millis_ofParts]
    omega
  · rw [millis_ofParts]
    omega

/-- Two moments that are next to each other, with the greatest and the least random bits. -/
theorem sorted_by_time_neighbours :
    let a : MessageId := ofParts 1704110400000 (2 ^ 80 - 1)
    let b : MessageId := ofParts 1704110400001 0
    a.precedes b = true ∧ a.display < b.display ∧
      a.display = "msg-01HK2EA8G0ZZZZZZZZZZZZZZZZ" ∧
      b.display = "msg-01HK2EA8G10000000000000000" := by
  intro a b
  have time : (Timestamp.ofMillis 1704110400000).toMillis = 1704110400000 :=
    Timestamp.toMillis_ofMillis _
  have time' : (Timestamp.ofMillis 1704110400001).toMillis = 1704110400001 :=
    Timestamp.toMillis_ofMillis _
  have earlier : (Timestamp.ofMillis 1704110400000).toMillis <
      (Timestamp.ofMillis 1704110400001).toMillis := by
    rw [time, time']
    decide
  have sorted := sorted_by_time .message (by rw [time]; decide) earlier (by rw [time']; decide)
    (2 ^ 80 - 1) 0
  rw [time, time'] at sorted
  exact ⟨sorted.1, sorted.2.1, by decide +kernel, by decide +kernel⟩

end Id

end MessageGateway
