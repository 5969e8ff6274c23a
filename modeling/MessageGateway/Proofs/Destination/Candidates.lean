import MessageGateway.Destination

/-!
# The two forms of a number

A number of thirteen digits loses the digit at the mobile digit's place, and a number of twelve
digits gets the mobile digit there. Whoever inserts the mobile digit can remove it again. Whoever
removes a digit gets it back only if it was the mobile digit: the number is not looked at before
the digit is taken out, so a number of thirteen digits without the mobile digit has another number
for its other form.

## Main results

* `withoutMobileDigit_of_with`: inserting, then removing
* `withMobileDigit_of_without`: removing, then inserting
* `Destination.candidates_symmetric`: which numbers are the other form of their other form
-/

namespace MessageGateway

variable {digits v : String} {m : Char}

theorem withoutMobileDigit_eq_some_iff :
    withoutMobileDigit digits = some v ↔
      (digits.toList.length = 13 ∧ digits.toList.all Text.isDigit = true) ∧
        String.ofList (digits.toList.take mobileDigitPosition ++
          digits.toList.drop (mobileDigitPosition + 1)) = v := by
  simp only [withoutMobileDigit, Option.ite_none_right_eq_some, Option.some.injEq]

theorem withMobileDigit_eq_some_iff :
    withMobileDigit digits m = some v ↔
      (digits.toList.length = 12 ∧ digits.toList.all Text.isDigit = true) ∧
        String.ofList (digits.toList.take mobileDigitPosition ++
          m :: digits.toList.drop mobileDigitPosition) = v := by
  simp only [withMobileDigit, Option.ite_none_right_eq_some, Option.some.injEq]

/-- **Inserting, then removing** leaves the number as it was. -/
theorem withoutMobileDigit_of_with (hm : Text.isDigit m = true)
    (h : withMobileDigit digits m = some v) : withoutMobileDigit v = some digits := by
  obtain ⟨⟨length, all⟩, rfl⟩ := withMobileDigit_eq_some_iff.1 h
  have front : (digits.toList.take mobileDigitPosition).length = mobileDigitPosition := by
    rw [List.length_take, length]
    rfl
  rw [withoutMobileDigit_eq_some_iff, String.toList_ofList]
  refine ⟨⟨?_, ?_⟩, ?_⟩
  · rw [List.length_append, List.length_cons, front, List.length_drop, length]
    rfl
  · rw [← List.take_append_drop mobileDigitPosition digits.toList, List.all_append,
      Bool.and_eq_true] at all
    rw [List.all_append, List.all_cons, all.1, hm, all.2]
    rfl
  · rw [List.take_left' front, ← List.singleton_append, ← List.append_assoc,
      List.drop_left' (by rw [List.length_append, front]; rfl), List.take_append_drop,
      String.ofList_toList]

/-- **Removing, then inserting** puts the mobile digit where another digit may have been. -/
theorem withMobileDigit_of_without (h : withoutMobileDigit digits = some v) :
    withMobileDigit v m =
      some (String.ofList (digits.toList.set mobileDigitPosition m)) := by
  obtain ⟨⟨length, all⟩, rfl⟩ := withoutMobileDigit_eq_some_iff.1 h
  have front : (digits.toList.take mobileDigitPosition).length = mobileDigitPosition := by
    rw [List.length_take, length]
    rfl
  rw [withMobileDigit_eq_some_iff, String.toList_ofList]
  refine ⟨⟨?_, ?_⟩, ?_⟩
  · rw [List.length_append, front, List.length_drop, length]
    rfl
  · rw [List.all_eq_true] at all ⊢
    intro x hx
    rcases List.mem_append.1 hx with hx | hx
    · exact all x (List.mem_of_mem_take hx)
    · exact all x (List.mem_of_mem_drop hx)
  · rw [List.take_left' front, List.drop_left' front, List.set_eq_take_append_cons_drop,
      if_pos (by rw [length]; decide)]

namespace Destination

variable {c : ResolverConfig}

theorem candidates_of_without (h : withoutMobileDigit digits = some v) :
    candidates c digits = [digits, v] := by
  rw [candidates, h]
  rfl

theorem candidates_of_with (h : withMobileDigit digits c.mobileDigit = some v) :
    candidates c digits = [digits, v] := by
  have short : withoutMobileDigit digits = none := by
    rw [Option.eq_none_iff_forall_not_mem]
    intro w hw
    have long := (withoutMobileDigit_eq_some_iff.1 hw).1.1
    rw [(withMobileDigit_eq_some_iff.1 h).1.1] at long
    cases long
  rw [candidates, short, h]
  rfl

theorem candidates_of_none (h : withoutMobileDigit digits = none)
    (h' : withMobileDigit digits c.mobileDigit = none) : candidates c digits = [digits] := by
  rw [candidates, h, h']
  rfl

/-- **The candidates of a number**: the number comes first, at most one other follows, and the
number is a candidate of each of its candidates exactly if it does not lose another digit than the
mobile digit. -/
theorem candidates_symmetric (c : ResolverConfig) (digits : String)
    (hm : Text.isDigit c.mobileDigit = true) (hd : digits.toList.all Text.isDigit = true) :
    (candidates c digits).head? = some digits ∧ (candidates c digits).length ≤ 2 ∧
      ((∀ v ∈ candidates c digits, digits ∈ candidates c v) ↔
        (digits.toList.length = 13 →
          digits.toList[mobileDigitPosition]? = some c.mobileDigit)) := by
  cases removed : withoutMobileDigit digits with
  | some v =>
    obtain ⟨⟨length, -⟩, -⟩ := withoutMobileDigit_eq_some_iff.1 removed
    have inserted := withMobileDigit_of_without (m := c.mobileDigit) removed
    have other : digits ≠ v := by
      rintro rfl
      rw [(withMobileDigit_eq_some_iff.1 inserted).1.1] at length
      cases length
    rw [candidates_of_without removed]
    refine ⟨rfl, Nat.le_refl 2, ?_⟩
    simp only [List.mem_cons, List.not_mem_nil, or_false, forall_eq_or_imp, forall_eq, true_and,
      candidates_of_without removed, candidates_of_with inserted, other, false_or, length,
      forall_const]
    -- what comes back has the mobile digit at its place, and is the number if that changed nothing
    rw [← String.toList_inj, String.toList_ofList]
    constructor
    · intro same
      rw [same, List.getElem?_set_self (by rw [length]; decide)]
    · intro digit
      obtain ⟨h, eq⟩ := List.getElem?_eq_some_iff.1 digit
      rw [← eq, List.set_getElem_self h]
  | none =>
    have short : digits.toList.length ≠ 13 := by
      intro length
      have taken := withoutMobileDigit_eq_some_iff.2 ⟨⟨length, hd⟩, rfl⟩
      rw [removed] at taken
      cases taken
    cases inserted : withMobileDigit digits c.mobileDigit with
    | some v =>
      have back := candidates_of_without (c := c) (withoutMobileDigit_of_with hm inserted)
      rw [candidates_of_with inserted]
      refine ⟨rfl, Nat.le_refl 2, ?_⟩
      simp [candidates_of_with inserted, back, short]
    | none =>
      rw [candidates_of_none removed inserted]
      refine ⟨rfl, Nat.le_succ 1, ?_⟩
      simp [candidates_of_none removed inserted, short]

/-- A number of thirteen digits with the mobile digit is a candidate of its other form. -/
theorem candidates_symmetric_mobile :
    (candidates {} "5511988887777").head? = some "5511988887777" ∧
      "5511988887777" ∈ candidates {} "551188887777" := by
  obtain ⟨first, -, symmetric⟩ :=
    candidates_symmetric {} "5511988887777" (by decide) (by decide)
  exact ⟨first, symmetric.2 (fun _ => by decide) "551188887777" (by decide)⟩

/-- A number of thirteen digits without the mobile digit is no candidate of its other form, which
is the other form of somebody else's number. -/
theorem candidates_of_landline :
    ¬∀ (c : ResolverConfig) (digits : String), Text.isDigit c.mobileDigit = true → digits ≠ "" →
      digits.toList.all Text.isDigit = true →
      ∀ v ∈ candidates c digits, digits ∈ candidates c v := by
  intro symmetric
  have back := symmetric {} "5511888887777" (by decide) (by decide) (by decide) "551188887777"
    (by decide)
  exact absurd back (by decide)

end Destination

end MessageGateway
