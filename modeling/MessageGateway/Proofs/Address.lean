import MessageGateway.Address
import MessageGateway.Proofs.Text.Parts

/-!
# Texts that spell addresses

A text spells an address when one `@` stands in it, apart from blanks at its ends, with something
on both sides. Every other text is refused, and the refusal tells a blank text from one that is
malformed and quotes the latter.

## Main definitions

* `Address.Spelled cs a`: the trimmed text `cs` spells the address `a`

## Main results

* `Address.parse_eq_ok_iff`: a text is read as the address that it spells
* `Address.parse_cases`: the three kinds of answers
* `Address.display_of_parse`: the address that a text spells is spelled like it
* `Address.parse_of_marks`: two marks are one too many
* `Address.denotesGroup_of_isGroup`: what spells the address of a group mentions its server
* `Address.parse_exact`: which texts are read, as what, and how the others are refused
-/

namespace MessageGateway

open Text

namespace Address

variable {s : String} {cs : List Char} {a b : Address}

/-- The text, of which nothing is left to trim, spells the address. -/
structure Spelled (cs : List Char) (a : Address) : Prop where
  /-- It is the text of the address. -/
  text : cs = a.user.toList ++ '@' :: a.server.toList
  /-- Somebody is named. -/
  user_ne : a.user ≠ ""
  /-- Some server is named. -/
  server_ne : a.server ≠ ""
  /-- The name of the user has no mark. -/
  user_unmarked : '@' ∉ a.user.toList
  /-- The name of the server has no mark. -/
  server_unmarked : '@' ∉ a.server.toList

theorem Spelled.count_eq (h : Spelled cs a) : cs.count '@' = 1 := by
  rw [h.text, List.count_append, List.count_cons_self, List.count_eq_zero.2 h.user_unmarked,
    List.count_eq_zero.2 h.server_unmarked]

/-- A text spells one address at most. -/
theorem Spelled.unique (h : Spelled cs a) (h' : Spelled cs b) : a = b := by
  have cut := cut?_eq_some_iff.2 ⟨h.text, h.user_unmarked⟩
  rw [cut?_eq_some_iff.2 ⟨h'.text, h'.user_unmarked⟩] at cut
  injection cut with same
  injection same with user server
  cases a
  cases b
  cases String.toList_inj.1 user
  cases String.toList_inj.1 server
  rfl

/-- An address is spelled by its own text if one mark stands in that, with something on both
sides. -/
theorem spelled_iff : Spelled cs a ↔
    cs = a.display.toList ∧ cs.count '@' = 1 ∧ a.user ≠ "" ∧ a.server ≠ "" := by
  have text : a.display.toList = a.user.toList ++ '@' :: a.server.toList := by simp [display]
  rw [text]
  constructor
  · intro spelled
    exact ⟨spelled.text, spelled.count_eq, spelled.user_ne, spelled.server_ne⟩
  · rintro ⟨rfl, single, user_ne, server_ne⟩
    obtain ⟨before, behind⟩ := not_mem_of_count_le single.le
    exact ⟨rfl, user_ne, server_ne, before, behind⟩

/-- **The three kinds of answers.** -/
theorem parse_cases (s : String) :
    (trimChars s.toList = [] ∧ parse s = .error .empty) ∨
      (∃ a, Spelled (trimChars s.toList) a ∧ parse s = .ok a) ∨
        (trimChars s.toList ≠ [] ∧ (∀ a, ¬Spelled (trimChars s.toList) a) ∧
          parse s = .error (.malformed (Text.trim s))) := by
  unfold parse
  dsimp only
  split
  · next blank => exact .inl ⟨List.isEmpty_iff.1 blank, rfl⟩
  · next some =>
    have some : trimChars s.toList ≠ [] := fun none => some (List.isEmpty_iff.2 none)
    split
    · next uncut =>
      refine .inr (.inr ⟨some, fun a spelled => ?_, rfl⟩)
      rw [spelled.text] at uncut
      exact cut?_eq_none_iff.1 uncut (List.mem_append_right _ List.mem_cons_self)
    · next user server cut =>
      obtain ⟨text, unmarked⟩ := cut?_eq_some_iff.1 cut
      split
      · next bad =>
        refine .inr (.inr ⟨some, fun a spelled => ?_, rfl⟩)
        rw [cut?_eq_some_iff.2 ⟨spelled.text, spelled.user_unmarked⟩] at cut
        cases cut
        have user : a.user.toList ≠ [] := by simpa using spelled.user_ne
        have server : a.server.toList ≠ [] := by simpa using spelled.server_ne
        simp [user, server, spelled.server_unmarked] at bad
      · next good =>
        simp only [Bool.or_eq_true, List.isEmpty_iff, List.contains_iff_mem, not_or] at good
        refine .inr (.inl ⟨⟨String.ofList user, String.ofList server⟩, ⟨?_, ?_, ?_, ?_, ?_⟩, rfl⟩)
        · rw [String.toList_ofList, String.toList_ofList, text]
        · simpa [← String.toList_inj] using good.1.1
        · simpa [← String.toList_inj] using good.1.2
        · rwa [String.toList_ofList]
        · rw [String.toList_ofList]
          exact good.2

/-- **A text is read as the address that it spells.** -/
theorem parse_eq_ok_iff : parse s = .ok a ↔ Spelled (trimChars s.toList) a := by
  obtain ⟨blank, read⟩ | ⟨b, spelled, read⟩ | ⟨-, none, read⟩ := parse_cases s
  · rw [read, blank]
    refine ⟨nofun, fun spelled => ?_⟩
    cases spelled.count_eq
  · rw [read]
    constructor
    · rintro ⟨⟩
      exact spelled
    · intro other
      rw [other.unique spelled]
  · rw [read]
    exact ⟨nofun, fun spelled => absurd spelled (none a)⟩

/-- The address that a text spells is spelled like it, apart from blanks at the ends. -/
theorem display_of_parse (h : parse s = .ok a) : a.display = Text.trim s := by
  rw [← String.toList_inj, Text.trim, String.toList_ofList, (parse_eq_ok_iff.1 h).text]
  simp [display]

/-- What is neither blank nor the spelling of an address is quoted in the refusal. -/
theorem parse_eq_malformed (some : trimChars s.toList ≠ []) (none : ∀ a, parse s ≠ .ok a) :
    parse s = .error (.malformed (Text.trim s)) := by
  obtain ⟨blank, -⟩ | ⟨a, -, read⟩ | ⟨-, -, read⟩ := parse_cases s
  · exact absurd blank some
  · exact absurd read (none a)
  · exact read

/-- **Two marks are one too many.** -/
theorem parse_of_marks (marks : 2 ≤ (trimChars s.toList).count '@') :
    parse s = .error (.malformed (Text.trim s)) := by
  refine parse_eq_malformed (fun blank => ?_) fun a read => ?_
  · rw [blank] at marks
    cases marks
  · rw [(parse_eq_ok_iff.1 read).count_eq] at marks
    cases marks with
    | step h => cases h

/-- Blanks at the ends say nothing. -/
theorem parse_trim (s : String) : parse (Text.trim s) = parse s := by
  unfold parse Text.trim
  simp only [String.toList_ofList, trimChars_trimChars]

/-- What spells the address of a group or a broadcast list mentions its server. -/
theorem denotesGroup_of_isGroup (read : parse s = .ok a) (group : a.isGroup = true) :
    denotesGroup (Text.trim s) = true := by
  have text := (parse_eq_ok_iff.1 read).text
  rw [denotesGroup, Text.trim, String.toList_ofList, Bool.or_eq_true, occurs_iff, occurs_iff, text]
  rw [isGroup, Bool.or_eq_true, beq_iff_eq, beq_iff_eq] at group
  rcases group with server | server
  · rw [server]
    exact .inl (List.suffix_append _ _).isInfix
  · rw [server]
    exact .inr (List.suffix_append _ _).isInfix

/-- **Which texts are read, and as what.** The trimmed text is read as its two sides if one mark
stands in it, with something on both sides. Then the text of the address is the trimmed text, and is
read as the same address. A blank text is refused as one, and every other text is refused with what
is left of it when it is trimmed. -/
theorem parse_exact (s : String) :
    let text := Text.trim s
    (∀ a : Address, parse s = .ok a ↔
      text = a.user ++ "@" ++ a.server ∧ text.toList.count '@' = 1 ∧ a.user ≠ "" ∧ a.server ≠ "") ∧
    (∀ a, parse s = .ok a → a.display = text ∧ parse a.display = .ok a) ∧
    (parse s = .error .empty ↔ ∀ x ∈ s.toList, isBlank x = true) ∧
    (∀ t, parse s = .error (.malformed t) ↔
      t = text ∧ (∃ x ∈ s.toList, isBlank x = false) ∧ ∀ a, parse s ≠ .ok a) := by
  intro text
  have chars : text.toList = trimChars s.toList := String.toList_ofList
  have unblank : (∃ x ∈ s.toList, isBlank x = false) ↔ trimChars s.toList ≠ [] := by
    rw [ne_eq, trimChars_eq_nil_iff]
    simp
  refine ⟨fun a => ?_, fun a read => ?_, ?_, fun t => ?_⟩
  · rw [parse_eq_ok_iff, spelled_iff, ← chars, String.toList_inj]
    rfl
  · have display : a.display = text := display_of_parse read
    refine ⟨display, ?_⟩
    rw [display, parse_trim, read]
  · rw [← trimChars_eq_nil_iff]
    obtain ⟨blank, refused⟩ | ⟨a, spelled, read⟩ | ⟨some, -, refused⟩ := parse_cases s
    · exact iff_of_true refused blank
    · refine iff_of_false (by rw [read]; nofun) fun blank => ?_
      rw [blank] at spelled
      cases spelled.count_eq
    · exact iff_of_false (by rw [refused]; nofun) some
  · rw [unblank]
    constructor
    · intro read
      obtain ⟨-, refused⟩ | ⟨a, -, accepted⟩ | ⟨some, -, refused⟩ := parse_cases s
      · rw [refused] at read
        cases read
      · rw [accepted] at read
        cases read
      · rw [refused] at read ⊢
        cases read
        exact ⟨rfl, some, nofun⟩
    · rintro ⟨rfl, some, none⟩
      exact parse_eq_malformed some none

/-- Blanks beside the mark belong to the user and to the server. -/
example : parse "\t1 @ g.us\n" = .ok ⟨"1 ", " g.us"⟩ := by rfl

end Address

end MessageGateway
