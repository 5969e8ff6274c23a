import Mathlib.Data.List.TakeWhile
import MessageGateway.Text.Blank
import MessageGateway.Text.Parts

/-!
# Texts and their parts

What trimming leaves, what precedes a given end, and where one text stands in another.

## Main definitions

* `IsTrimmed cs`: no blank stands at either end

## Main results

* `isTrimmed_trimChars`, `trimChars_eq_self`: trimming trims, and does nothing to a trimmed text
* `trimChars_eq_nil_iff`, `exists_append_trimChars`: only blanks are trimmed
* `before?_eq_some_iff`, `occurs_iff`: an end of a text, a text inside another
* `cut?_eq_some_iff`, `cut?_eq_none_iff`: a text taken apart at its first mark
-/

namespace MessageGateway.Text

variable {c : Char} {cs tail rest needle : List Char}

/-! ## Blanks at the ends -/

/-- No blank stands at either end. -/
def IsTrimmed (cs : List Char) : Prop :=
  (∀ c, cs.head? = some c → isBlank c = false) ∧ ∀ c, cs.getLast? = some c → isBlank c = false

theorem trimStart_eq_self (h : ∀ c, cs.head? = some c → isBlank c = false) :
    trimStart cs = cs := by
  cases cs with
  | nil => rfl
  | cons c cs => exact List.dropWhile_cons_of_neg (by simp [h c rfl])

theorem not_isBlank_of_head?_trimStart (h : (trimStart cs).head? = some c) :
    isBlank c = false := by
  have first := List.head?_dropWhile_not isBlank cs
  rw [trimStart] at h
  simpa [h] using first

/-- A trimmed text stays as it is. -/
theorem trimChars_eq_self (h : IsTrimmed cs) : trimChars cs = cs := by
  rw [trimChars, trimStart_eq_self h.1, trimStart_eq_self, List.reverse_reverse]
  intro c hc
  exact h.2 c (by rwa [List.head?_reverse] at hc)

theorem isTrimmed_trimChars (cs : List Char) : IsTrimmed (trimChars cs) := by
  constructor
  · intro c hc
    have front : trimChars cs <+: trimStart cs := by
      rw [← List.reverse_suffix, trimChars, List.reverse_reverse]
      exact List.dropWhile_suffix _
    obtain ⟨rest, eq⟩ := front
    have first : (trimStart cs).head? = some c := by
      rw [← eq, List.head?_append, hc]
      rfl
    exact not_isBlank_of_head?_trimStart first
  · intro c hc
    rw [trimChars, List.getLast?_reverse] at hc
    exact not_isBlank_of_head?_trimStart hc

theorem trimChars_trimChars (cs : List Char) : trimChars (trimChars cs) = trimChars cs :=
  trimChars_eq_self (isTrimmed_trimChars cs)

/-- Trimming leaves nothing of a text of blanks, and something of every other. -/
theorem trimChars_eq_nil_iff : trimChars cs = [] ↔ ∀ x ∈ cs, isBlank x = true := by
  rw [trimChars, List.reverse_eq_nil_iff, trimStart, List.dropWhile_eq_nil_iff]
  simp only [List.mem_reverse]
  constructor
  · intro blank
    cases left : trimStart cs with
    | nil => exact List.dropWhile_eq_nil_iff.1 left
    | cons c rest =>
      have first : isBlank c = false := not_isBlank_of_head?_trimStart (by rw [left]; rfl)
      rw [blank c (by rw [left]; exact List.mem_cons_self)] at first
      cases first
  · intro blank x hx
    exact blank x ((List.dropWhile_sublist isBlank).mem hx)

theorem trimChars_sublist (cs : List Char) : (trimChars cs).Sublist cs := by
  have inner := (List.dropWhile_sublist isBlank (l := (trimStart cs).reverse)).reverse
  rw [List.reverse_reverse] at inner
  exact inner.trans (List.dropWhile_sublist _)

/-- Nothing but blanks is trimmed, at the beginning and at the end. -/
theorem exists_append_trimChars (cs : List Char) : ∃ front back,
    cs = front ++ trimChars cs ++ back ∧ (∀ x ∈ front, isBlank x = true) ∧
      ∀ x ∈ back, isBlank x = true := by
  refine ⟨cs.takeWhile isBlank, ((trimStart cs).reverse.takeWhile isBlank).reverse, ?_,
    fun x hx => List.mem_takeWhile_imp hx,
    fun x hx => List.mem_takeWhile_imp (List.mem_reverse.1 hx)⟩
  have rear : trimChars cs ++ ((trimStart cs).reverse.takeWhile isBlank).reverse =
      trimStart cs := by
    rw [trimChars, trimStart, ← List.reverse_append, List.takeWhile_append_dropWhile,
      List.reverse_reverse]
  rw [List.append_assoc, rear, trimStart, List.takeWhile_append_dropWhile]

theorem not_isBlank_of_isDigit (h : isDigit c = true) : isBlank c = false := by
  simp only [isDigit, Bool.and_eq_true, decide_eq_true_eq, Char.le_def, UInt32.le_iff_toNat_le] at h
  have low : (48 : Nat) ≤ c.toNat := h.1
  have high : c.toNat ≤ 57 := h.2
  simp only [isBlank, Bool.or_eq_false_iff, Bool.and_eq_false_iff, decide_eq_false_iff_not,
    beq_eq_false_iff_ne]
  omega

/-! ## Parts -/

theorem before?_eq_some_iff : before? tail cs = some rest ↔ cs = rest ++ tail := by
  simp only [before?, Option.map_eq_some_iff, after?_eq_some_iff]
  constructor
  · rintro ⟨front, eq, rfl⟩
    rw [← List.reverse_reverse cs, eq, List.reverse_append, List.reverse_reverse]
  · rintro rfl
    exact ⟨rest.reverse, List.reverse_append, List.reverse_reverse rest⟩

theorem occurs_iff : occurs needle cs = true ↔ needle <:+: cs := by
  induction cs with
  | nil => simp [occurs]
  | cons c cs ih => simp [occurs, ih, List.infix_cons_iff]

theorem cut?_eq_none_iff : cut? c cs = none ↔ c ∉ cs := by
  induction cs with
  | nil => simp [cut?]
  | cons d cs ih =>
    by_cases same : d = c
    · simp [cut?, same]
    · simp [cut?, same, Ne.symm same, ih]

/-- A text is taken apart at the first of its marks. -/
theorem cut?_eq_some_iff {front : List Char} :
    cut? c cs = some (front, rest) ↔ cs = front ++ c :: rest ∧ c ∉ front := by
  constructor
  · intro h
    refine ⟨eq_append_of_cut? h, ?_⟩
    induction cs generalizing front with
    | nil => cases h
    | cons d cs ih =>
      simp only [cut?] at h
      split at h
      · cases h
        exact List.not_mem_nil
      · next different =>
        obtain ⟨⟨front', rest'⟩, h', eq⟩ := Option.map_eq_some_iff.1 h
        cases eq
        exact List.not_mem_cons_of_ne_of_not_mem (Ne.symm different) (ih h')
  · rintro ⟨rfl, absent⟩
    induction front with
    | nil => simp [cut?]
    | cons d front ih =>
      obtain ⟨different, absent⟩ := not_or.1 (mt List.mem_cons.2 absent)
      simp [cut?, Ne.symm different, ih absent]

/-- What holds no blank begins a text, or begins it with blanks behind. -/
theorem prefix_append_blanks_iff {back : List Char} (unblank : ∀ x ∈ needle, isBlank x = false)
    (blank : ∀ x ∈ back, isBlank x = true) : needle <+: cs ++ back ↔ needle <+: cs := by
  refine ⟨fun h => ?_, fun h => h.trans (List.prefix_append _ _)⟩
  rcases List.prefix_or_prefix_of_prefix h (List.prefix_append cs back) with within | beyond
  · exact within
  · obtain ⟨rest, rfl⟩ := beyond
    have into : rest <+: back := (List.prefix_append_right_inj cs).1 h
    cases rest with
    | nil => exact (List.append_nil cs).symm ▸ List.prefix_rfl
    | cons d rest =>
      have blank := blank d (into.subset List.mem_cons_self)
      rw [unblank d (List.mem_append_right _ List.mem_cons_self)] at blank
      cases blank

/-- Of a mark that a text has only once, none stands before or after it. -/
theorem not_mem_of_count_le {front : List Char} (single : (front ++ c :: rest).count c ≤ 1) :
    c ∉ front ∧ c ∉ rest := by
  rw [List.count_append, List.count_cons_self] at single
  exact ⟨List.count_eq_zero.1 (by omega), List.count_eq_zero.1 (by omega)⟩

/-- A text that begins with a mark stands in a text with only one such mark exactly if it begins
there. -/
theorem infix_append_cons_iff {front : List Char} (hf : c ∉ front) (hr : c ∉ rest) :
    (c :: needle) <:+: front ++ c :: rest ↔ needle <+: rest := by
  have nowhere : ¬(c :: needle) <:+: rest := fun h => hr (h.subset List.mem_cons_self)
  induction front with
  | nil => simp [List.infix_cons_iff, nowhere]
  | cons d front ih =>
    have different : c ≠ d := fun h => hf (h ▸ List.mem_cons_self)
    have later := ih fun h => hf (List.mem_cons_of_mem d h)
    simp only [List.cons_append, List.infix_cons_iff, List.cons_prefix_cons, later, different,
      false_and, false_or]

end MessageGateway.Text
