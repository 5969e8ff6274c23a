import MessageGateway.Proofs.Destination.Normal

/-!
# Destinations with more than one mark

A text with two `@` spells no address and should be refused as a destination. It is, with one
exception. The server of users is taken off the end of a text before anything else is looked at, so
a text of which the rest spells an address passes for that address, and not even its digits are
looked for.

## Main definitions

* `Destination.Suffixed c raw front`: the server of users is taken off the text, and `front` is left

## Main results

* `Destination.normalize_marked`: which destinations with more than one mark are refused, and which
  addresses at the server of users are no numbers
-/

namespace MessageGateway

open Text

namespace Destination

variable {c : ResolverConfig} {raw front : String} {a : Address}

/-- The server of users is taken off the end of the text, and `front` is left. -/
structure Suffixed (c : ResolverConfig) (raw front : String) : Prop where
  /-- It is the text of `front` at the server of users. -/
  text : Text.trim raw = (userAddress c front).display
  /-- It mentions neither the server of groups nor that of broadcast lists. -/
  ungrouped : denotesGroup (Text.trim raw) = false

theorem Suffixed.eq_append (h : Suffixed c raw front) :
    trimChars raw.toList = front.toList ++ '@' :: c.userServer.toList := by
  have text := congrArg String.toList h.text
  rw [Text.trim, String.toList_ofList] at text
  rw [text]
  simp [userAddress, Address.display]

theorem Suffixed.userPart_eq (h : Suffixed c raw front) :
    userPart c (trimChars raw.toList) = front.toList := by
  rw [h.eq_append, userPart_append]

/-- What stands before the server of users is what is left when it is taken off, or the whole
text. -/
theorem suffixed_or_userPart_eq (ungrouped : denotesGroup (Text.trim raw) = false) :
    Suffixed c raw (String.ofList (userPart c (trimChars raw.toList))) ∨
      userPart c (trimChars raw.toList) = trimChars raw.toList := by
  unfold userPart
  cases found : before? ('@' :: c.userServer.toList) (trimChars raw.toList) with
  | none => exact .inr rfl
  | some rest =>
    refine .inl ⟨?_, ungrouped⟩
    rw [← String.toList_inj, Text.trim, String.toList_ofList, before?_eq_some_iff.1 found]
    simp [userAddress, Address.display]

section

variable (marks : 2 ≤ (trimChars raw.toList).count '@')

include marks

/-- What is left of a text with more than one mark, without the server of users, has a mark and is
read as an address. -/
theorem normalize_of_suffixed (server : '@' ∉ c.userServer.toList) (h : Suffixed c raw front) :
    '@' ∈ front.toList ∧ normalize c raw = (Address.parse front).map .direct := by
  have mark : '@' ∈ front.toList := by
    rw [h.eq_append, List.count_append, List.count_cons_self, List.count_eq_zero.2 server] at marks
    exact List.count_pos_iff.1 (by omega)
  refine ⟨mark, ?_⟩
  have reading := reading_normalize c raw
  generalize normalize c raw = r at reading ⊢
  cases reading with
  | blank none =>
    rw [none] at marks
    cases marks
  | group mentioned =>
    rw [h.ungrouped] at mentioned
    cases mentioned
  | marked => rw [h.userPart_eq, String.ofList_toList]
  | digitless _ unmarked | number _ unmarked =>
    rw [h.userPart_eq] at unmarked
    exact absurd mark unmarked

/-- A text with more than one mark is refused unless the server of users is taken off it. -/
theorem normalize_of_not_suffixed (h : ∀ front, ¬Suffixed c raw front) :
    normalize c raw = .error (.malformed (Text.trim raw)) := by
  have reading := reading_normalize c raw
  generalize normalize c raw = r at reading ⊢
  cases reading with
  | blank none =>
    rw [none] at marks
    cases marks
  | group =>
    rw [Address.parse_of_marks marks]
    rfl
  | marked ungrouped =>
    rw [(suffixed_or_userPart_eq ungrouped).resolve_left (h _), ← Text.trim, Address.parse_trim,
      Address.parse_of_marks marks]
    rfl
  | digitless => rfl
  | number ungrouped unmarked =>
    rw [(suffixed_or_userPart_eq ungrouped).resolve_left (h _)] at unmarked
    exact absurd (List.count_pos_iff.1 (by omega)) unmarked

end

/-- An address at the server of users that is no number is spelled by a text that mentions the
server of groups or of broadcast lists, or by what is left of a text without the server of users. -/
theorem number_or_spelled (h : normalize c raw = .ok (.direct a))
    (server : a.server = c.userServer) :
    (a.user ≠ "" ∧ ∀ x ∈ a.user.toList, isDigit x = true) ∨
      (denotesGroup (Text.trim raw) = true ∧ Address.parse raw = .ok a) ∨
        ∃ front, Suffixed c raw front ∧ Address.parse front = .ok a := by
  have reading := reading_normalize c raw
  rw [h] at reading
  generalize read : (.ok (.direct a) : Except AddressError Destination) = r at reading
  cases reading with
  | blank => cases read
  | digitless => cases read
  | group mentioned =>
    obtain ⟨_, spelled, ⟨⟩⟩ := exists_of_map read.symm
    exact .inr (.inl ⟨mentioned, spelled⟩)
  | marked ungrouped mark =>
    obtain ⟨_, spelled, ⟨⟩⟩ := exists_of_map read.symm
    rcases suffixed_or_userPart_eq ungrouped with suffixed | whole
    · exact .inr (.inr ⟨_, suffixed, spelled⟩)
    · rw [whole, ← Text.trim, Address.parse_trim, Address.parse_eq_ok_iff] at spelled
      exact absurd server (server_ne_of_mark spelled mark)
  | @number _ _ ds some digits =>
    obtain ⟨eq, -⟩ | ⟨eq, -⟩ := ofNumber_cases c ds
    · rw [eq] at read
      cases read
    · rw [eq] at read
      cases read
      refine .inl ⟨?_, ?_⟩
      · simpa [userAddress, ← String.toList_inj] using some
      · rwa [userAddress, String.toList_ofList]

/-- **Destinations with more than one mark** spell no address, and are refused like one that spells
none. Only when what is left of such a destination without the server of users spells an address, it
is taken for that address. An address at the server of users whose user is no number comes from such
a destination, or from one that mentions the server of groups or of broadcast lists. -/
theorem normalize_marked (server : '@' ∉ c.userServer.toList) (raw : String) :
    (2 ≤ (Text.trim raw).toList.count '@' →
      Address.parse raw = .error (.malformed (Text.trim raw)) ∧
      ((∃ text, normalize c raw = .error (.malformed text)) ↔
        ∀ front a, Suffixed c raw front → Address.parse front ≠ .ok a) ∧
      ((∀ front, ¬Suffixed c raw front) →
        normalize c raw = .error (.malformed (Text.trim raw))) ∧
      ∀ front, Suffixed c raw front → normalize c raw = (Address.parse front).map .direct) ∧
    ∀ a, normalize c raw = .ok (.direct a) → a.server = c.userServer →
      (a.user ≠ "" ∧ ∀ x ∈ a.user.toList, isDigit x = true) ∨
        (denotesGroup (Text.trim raw) = true ∧ Address.parse raw = .ok a) ∨
          ∃ front, Suffixed c raw front ∧ Address.parse front = .ok a := by
  refine ⟨fun marks => ?_, fun a => number_or_spelled⟩
  rw [Text.trim, String.toList_ofList] at marks
  refine ⟨Address.parse_of_marks marks, ⟨?_, fun unspelled => ?_⟩,
    normalize_of_not_suffixed marks, fun front h => (normalize_of_suffixed marks server h).2⟩
  · rintro ⟨text, refused⟩ front a suffixed spelled
    rw [(normalize_of_suffixed marks server suffixed).2, spelled] at refused
    cases refused
  · by_cases h : ∃ front, Suffixed c raw front
    · obtain ⟨front, suffixed⟩ := h
      obtain ⟨mark, read⟩ := normalize_of_suffixed marks server suffixed
      have some : trimChars front.toList ≠ [] := fun none =>
        Bool.noConfusion (trimChars_eq_nil_iff.1 none '@' mark)
      refine ⟨Text.trim front, ?_⟩
      rw [read, Address.parse_eq_malformed some fun a => unspelled front a suffixed]
      rfl
    · exact ⟨_, normalize_of_not_suffixed marks (not_exists.1 h)⟩

/-- A user of another server, with the server of users behind it. -/
theorem normalize_marked_foreign :
    (Text.trim "1@lid@s.whatsapp.net").toList.count '@' = 2 ∧
      normalize {} "1@lid@s.whatsapp.net" = .ok (.direct ⟨"1", "lid"⟩) := by
  obtain ⟨marked, -⟩ :=
    normalize_marked (c := {}) (by decide) "1@lid@s.whatsapp.net"
  have suffixed : Suffixed {} "1@lid@s.whatsapp.net" "1@lid" := ⟨by decide, by decide⟩
  have parsed : Address.parse "1@lid" = .ok ⟨"1", "lid"⟩ := by rfl
  obtain ⟨-, -, -, read⟩ := marked (by decide)
  rw [read _ suffixed, parsed]
  exact ⟨by decide, rfl⟩

/-- With the server of users named twice, a text with two marks is accepted, and a user without a
digit is reached at that server. -/
theorem marks_accepted :
    (¬∀ (c : ResolverConfig) (raw : String), c.validate = .ok () → '@' ∉ c.userServer.toList →
      2 ≤ (Text.trim raw).toList.count '@' →
        ∃ text, normalize c raw = .error (.malformed text)) ∧
    ¬∀ (c : ResolverConfig) (raw : String) (a : Address), c.validate = .ok () →
      '@' ∉ c.userServer.toList → normalize c raw = .ok (.direct a) →
        a.server = c.userServer → ∀ x ∈ a.user.toList, isDigit x = true := by
  have valid : ({} : ResolverConfig).validate = .ok () := by rfl
  have read : normalize {} "abc@s.whatsapp.net@s.whatsapp.net" =
      .ok (.direct ⟨"abc", "s.whatsapp.net"⟩) := by
    rfl
  constructor
  · intro refused
    obtain ⟨text, h⟩ :=
      refused {} "abc@s.whatsapp.net@s.whatsapp.net" valid (by decide) (by decide)
    rw [read] at h
    cases h
  · intro reduced
    have digit : isDigit 'a' = true :=
      reduced {} _ _ valid (by decide) read rfl 'a' List.mem_cons_self
    cases digit

end Destination

end MessageGateway
