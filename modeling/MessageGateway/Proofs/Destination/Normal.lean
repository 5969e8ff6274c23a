import MessageGateway.Destination
import MessageGateway.Proofs.Address

/-!
# Normal forms of destinations

What a destination says is said again by the text of the result: that of an address, or a domestic
number at the server of users. There are two kinds of results. A number is made of the digits in
front of the server of users, if any server is named; an address at another server is the trimmed
text itself.

## Main definitions

* `Destination.display`: the text of what a destination says
* `OrdinaryServer s`: a name that servers of users may have
* `Destination.ofNumber c ds`: what the number with the digits `ds` says
* `Destination.Reading c raw r`: how a destination comes to what it says

## Main results

* `Destination.reading_normalize`: the ways in which a destination is read
* `Destination.normalize_cases`: the two kinds of results
* `Destination.normalize_number`: a number at the server of users says itself
* `Destination.normalize_canonical`: results are in normal form, and stay as they are
-/

namespace MessageGateway

open Text

/-- The text is a name that servers of users may have. -/
structure OrdinaryServer (s : String) : Prop where
  /-- It is one server. -/
  single : '@' ∉ s.toList
  /-- No blank stands at either end. -/
  trimmed : Text.trim s = s
  /-- It cannot be taken for the server of groups. -/
  notGroup : ¬groupServer.toList <+: s.toList
  /-- It cannot be taken for the server of broadcast lists. -/
  notBroadcast : ¬broadcastServer.toList <+: s.toList

namespace Destination

variable {c : ResolverConfig} {raw : String} {ds : List Char} {r : Destination} {a : Address}

/-- The text of what a destination says; a domestic number stands at the server of users. -/
def display (c : ResolverConfig) : Destination → String
  | .direct a => a.display
  | .domestic digits => (userAddress c digits).display

/-- What the number with these digits says. -/
def ofNumber (c : ResolverConfig) (ds : List Char) : Destination :=
  if c.countryCode.toList.isPrefixOf ds then .domestic (String.ofList ds)
  else .direct (userAddress c (String.ofList ds))

theorem ofNumber_cases (c : ResolverConfig) (ds : List Char) :
    ofNumber c ds = .domestic (String.ofList ds) ∧ c.countryCode.toList <+: ds ∨
      ofNumber c ds = .direct (userAddress c (String.ofList ds)) ∧
        ¬c.countryCode.toList <+: ds := by
  unfold ofNumber
  split
  · next code => exact .inl ⟨rfl, List.isPrefixOf_iff_prefix.1 code⟩
  · next code => exact .inr ⟨rfl, fun h => code (List.isPrefixOf_iff_prefix.2 h)⟩

theorem display_ofNumber (c : ResolverConfig) (ds : List Char) :
    ((ofNumber c ds).display c).toList = ds ++ '@' :: c.userServer.toList := by
  unfold ofNumber
  split <;> simp [display, userAddress, Address.display]

/-- Blanks at the ends say nothing. -/
theorem normalize_trim (c : ResolverConfig) (raw : String) :
    normalize c (Text.trim raw) = normalize c raw := by
  unfold normalize
  simp only [Text.trim, String.toList_ofList, trimChars_trimChars]

theorem userPart_append (c : ResolverConfig) (cs : List Char) :
    userPart c (cs ++ '@' :: c.userServer.toList) = cs := by
  rw [userPart, before?_eq_some_iff.2 rfl]
  rfl

/-- What stands before the server of users, when there is only one `@`, is no address; and what is
none already is looked at as it is. -/
theorem userPart_cases {cs : List Char} (single : cs.count '@' ≤ 1) :
    '@' ∉ userPart c cs ∨ userPart c cs = cs := by
  unfold userPart
  cases found : before? ('@' :: c.userServer.toList) cs with
  | none => exact .inr rfl
  | some rest =>
    rw [before?_eq_some_iff.1 found] at single
    exact .inl (not_mem_of_count_le single).1

/-- An address that is spelled by a text with a mark before the server of users is not at that
server. -/
theorem server_ne_of_mark {cs : List Char} (spelled : Address.Spelled cs a)
    (mark : '@' ∈ userPart c cs) : a.server ≠ c.userServer := by
  intro same
  rw [spelled.text, same, userPart_append] at mark
  exact spelled.user_unmarked mark

theorem exists_of_map {x : Except AddressError Address} (h : x.map direct = .ok r) :
    ∃ a, x = .ok a ∧ r = .direct a := by
  cases x with
  | error e => cases h
  | ok a =>
    cases h
    exact ⟨a, rfl, rfl⟩

/-! ## Reading a destination -/

/-- How a destination comes to what it says. -/
inductive Reading (c : ResolverConfig) (raw : String) : Except AddressError Destination → Prop
  /-- It is blank. -/
  | blank (none : trimChars raw.toList = []) : Reading c raw (.error .empty)
  /-- It mentions the server of groups or of broadcast lists, and is read as it is. -/
  | group (mentioned : denotesGroup (Text.trim raw) = true) :
      Reading c raw ((Address.parse raw).map .direct)
  /-- What stands before the server of users has a mark, and is read as an address. -/
  | marked (ungrouped : denotesGroup (Text.trim raw) = false)
      (mark : '@' ∈ userPart c (trimChars raw.toList)) :
      Reading c raw
        ((Address.parse (String.ofList (userPart c (trimChars raw.toList)))).map .direct)
  /-- There is neither a mark nor a digit before the server of users. -/
  | digitless (ungrouped : denotesGroup (Text.trim raw) = false)
      (unmarked : '@' ∉ userPart c (trimChars raw.toList)) :
      Reading c raw (.error (.malformed (Text.trim raw)))
  /-- There is no mark before the server of users, and the digits are a number. -/
  | number (ungrouped : denotesGroup (Text.trim raw) = false)
      (unmarked : '@' ∉ userPart c (trimChars raw.toList)) {ds : List Char} (some : ds ≠ [])
      (digits : ∀ d ∈ ds, isDigit d = true) : Reading c raw (.ok (ofNumber c ds))

/-- **The ways in which a destination is read.** -/
theorem reading_normalize (c : ResolverConfig) (raw : String) :
    Reading c raw (normalize c raw) := by
  unfold normalize
  dsimp only
  split
  · next blank => exact .blank (List.isEmpty_iff.1 blank)
  · split
    · next mentioned =>
      rw [← Text.trim, Address.parse_trim]
      exact .group mentioned
    · next ungrouped =>
      have ungrouped : denotesGroup (Text.trim raw) = false := Bool.eq_false_iff.2 ungrouped
      split
      · next mark => exact .marked ungrouped (List.contains_iff_mem.1 mark)
      · next unmarked =>
        have unmarked : '@' ∉ userPart c (trimChars raw.toList) :=
          fun mark => unmarked (List.contains_iff_mem.2 mark)
        split
        · exact .digitless ungrouped unmarked
        · next some =>
          have number := Reading.number ungrouped unmarked
            (fun none => some (List.isEmpty_iff.2 none)) fun d hd => (List.mem_filter.1 hd).2
          unfold ofNumber at number
          split
          · next domestic => rwa [if_pos domestic] at number
          · next foreign => rwa [if_neg foreign] at number

/-! ## Normal forms -/

section

variable (server : OrdinaryServer c.userServer)

include server

/-- **A number at the server of users says itself.** -/
theorem normalize_number (some : ds ≠ []) (digits : ∀ d ∈ ds, isDigit d = true) :
    normalize c (String.ofList (ds ++ '@' :: c.userServer.toList)) = .ok (ofNumber c ds) := by
  have absent : '@' ∉ ds := fun h => by cases digits _ h
  have ends : IsTrimmed c.userServer.toList := by
    have ends := isTrimmed_trimChars c.userServer.toList
    rwa [← String.toList_ofList (l := trimChars _), ← Text.trim, server.trimmed] at ends
  have trimmed : IsTrimmed (ds ++ '@' :: c.userServer.toList) := by
    constructor
    · intro x hx
      obtain ⟨d, ds, rfl⟩ := List.exists_cons_of_ne_nil some
      rw [← Option.some.inj hx]
      exact not_isBlank_of_isDigit (digits d List.mem_cons_self)
    · intro x hx
      rw [List.getLast?_append, List.getLast?_cons] at hx
      cases last : c.userServer.toList.getLast? with
      | none =>
        rw [last] at hx
        cases hx
        rfl
      | some y =>
        rw [last] at hx
        rw [← Option.some.inj hx]
        exact ends.2 y last
  have group : denotesGroup (String.ofList (ds ++ '@' :: c.userServer.toList)) = false := by
    rw [denotesGroup, String.toList_ofList, Bool.or_eq_false_iff, ← Bool.not_eq_true,
      ← Bool.not_eq_true, occurs_iff, occurs_iff, infix_append_cons_iff absent server.single,
      infix_append_cons_iff absent server.single]
    exact ⟨server.notGroup, server.notBroadcast⟩
  have all : ds.filter isDigit = ds := List.filter_eq_self.2 digits
  unfold normalize
  simp only [String.toList_ofList, trimChars_eq_self trimmed, group, userPart_append, all]
  simp [absent, some, ofNumber]
  split <;> rfl

/-- **The two kinds of results**: what a number says, or the text itself as an address. -/
theorem normalize_cases (single : raw.toList.count '@' ≤ 1) (h : normalize c raw = .ok r) :
    (∃ ds, ds ≠ [] ∧ (∀ d ∈ ds, isDigit d = true) ∧ r = ofNumber c ds) ∨
      ∃ a, r = .direct a ∧ a.server ≠ c.userServer ∧ a.display = Text.trim raw := by
  have single : (trimChars raw.toList).count '@' ≤ 1 :=
    Nat.le_trans ((trimChars_sublist _).count_le _) single
  have reading := reading_normalize c raw
  rw [h] at reading
  generalize read : (.ok r : Except AddressError Destination) = answer at reading
  cases reading with
  | blank | digitless => cases read
  | group mentioned =>
    obtain ⟨a, parsed, rfl⟩ := exists_of_map read.symm
    refine .inr ⟨a, rfl, fun same => ?_, Address.display_of_parse parsed⟩
    have spelled := Address.parse_eq_ok_iff.1 parsed
    rw [denotesGroup, Text.trim, String.toList_ofList, Bool.or_eq_true, occurs_iff, occurs_iff,
      spelled.text, infix_append_cons_iff spelled.user_unmarked spelled.server_unmarked,
      infix_append_cons_iff spelled.user_unmarked spelled.server_unmarked, same] at mentioned
    exact mentioned.elim server.notGroup server.notBroadcast
  | marked _ mark =>
    have whole := (userPart_cases single).resolve_left fun absent => absent mark
    rw [whole, ← Text.trim, Address.parse_trim] at read
    obtain ⟨a, parsed, rfl⟩ := exists_of_map read.symm
    exact .inr ⟨a, rfl, server_ne_of_mark (Address.parse_eq_ok_iff.1 parsed) mark,
      Address.display_of_parse parsed⟩
  | number _ _ some digits =>
    cases read
    exact .inl ⟨_, some, digits, rfl⟩

end

/-- **Results are in normal form**: a number is made of digits and is domestic exactly if it begins
with the country code, any other address is the text as it was given, and the text of a result
says that result again. -/
theorem normalize_canonical (server : OrdinaryServer c.userServer)
    (single : raw.toList.count '@' ≤ 1) (h : normalize c raw = .ok r) :
    (∀ d, r = .domestic d → d ≠ "" ∧ (∀ x ∈ d.toList, isDigit x = true) ∧
        c.countryCode.toList <+: d.toList) ∧
      (∀ a, r = .direct a → a.server = c.userServer → a.user ≠ "" ∧
        (∀ x ∈ a.user.toList, isDigit x = true) ∧ ¬c.countryCode.toList <+: a.user.toList) ∧
      (∀ a, r = .direct a → a.server ≠ c.userServer → a.display = Text.trim raw) ∧
      normalize c (r.display c) = .ok r := by
  obtain ⟨ds, some, digits, rfl⟩ | ⟨a, rfl, other, text⟩ := normalize_cases server single h
  · have nonempty : String.ofList ds ≠ "" := by
      rw [ne_eq, ← String.toList_inj]
      simpa using some
    have again : normalize c ((ofNumber c ds).display c) = .ok (ofNumber c ds) := by
      rw [← String.ofList_toList (s := (ofNumber c ds).display c), display_ofNumber]
      exact normalize_number server some digits
    obtain ⟨eq, code⟩ | ⟨eq, code⟩ := ofNumber_cases c ds
    · rw [eq] at again ⊢
      refine ⟨?_, by simp, by simp, again⟩
      rintro _ ⟨⟩
      rw [String.toList_ofList]
      exact ⟨nonempty, digits, code⟩
    · rw [eq] at again ⊢
      refine ⟨by simp, ?_, ?_, again⟩
      · rintro _ ⟨⟩ -
        rw [userAddress, String.toList_ofList]
        exact ⟨nonempty, digits, code⟩
      · rintro _ ⟨⟩ other
        exact absurd rfl other
  · refine ⟨by simp, ?_, ?_, ?_⟩
    · rintro _ ⟨⟩ same
      exact absurd same other
    · rintro _ ⟨⟩ -
      exact text
    · rw [display, text, normalize_trim, h]

/-- The default server of users is an ordinary name. -/
theorem ordinaryServer_default : OrdinaryServer ({} : ResolverConfig).userServer where
  single := by decide
  trimmed := by decide
  notGroup := by decide
  notBroadcast := by decide

/-- A domestic number with punctuation, blanks around it and the server of users behind it. -/
theorem normalize_canonical_number :
    normalize {} " +55 (11) 98888-7777@s.whatsapp.net " = .ok (.domestic "5511988887777") ∧
      normalize {} "5511988887777@s.whatsapp.net" = .ok (.domestic "5511988887777") := by
  have h : normalize {} " +55 (11) 98888-7777@s.whatsapp.net " =
      .ok (.domestic "5511988887777") := by
    rfl
  obtain ⟨-, -, -, again⟩ := normalize_canonical ordinaryServer_default (by decide) h
  exact ⟨h, again⟩

end Destination

end MessageGateway
