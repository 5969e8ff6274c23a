import MessageGateway.Proofs.Destination.Normal

/-!
# Two tests for groups

Whether an address is that of a group or of a broadcast list is told by its server. A destination is
asked the same question before it is read, and then the names of the two servers are only looked for
behind a mark. What is found there may go on: a server whose name merely begins like theirs passes
for one of them, and a number at such a server keeps everything that is no digit.

## Main definitions

* `BeginsLikeGroup s`: the name of the server begins with that of one of the two
* `Destination.ReducedTo c s a r`: of the address only the digits of its user count

## Main results

* `Address.denotesGroup_iff`: which texts that spell addresses are taken for those of groups
* `Destination.normalize_of_grouped`, `Destination.normalize_of_other`: addresses that are taken as
  they are
* `Destination.reducedTo_normalize`: addresses of which only the digits count
* `Destination.group_tests_agree`: where the two tests agree, and what follows where they do not
-/

namespace MessageGateway

open Text

/-- The name begins with that of the server of groups, or with that of the server of broadcast
lists. -/
def BeginsLikeGroup (server : String) : Prop :=
  groupServer.toList <+: server.toList ∨ broadcastServer.toList <+: server.toList

namespace Address

variable {s : String} {a : Address}

theorem isGroup_iff : a.isGroup = true ↔ a.server = groupServer ∨ a.server = broadcastServer := by
  rw [isGroup, Bool.or_eq_true, beq_iff_eq, beq_iff_eq]

theorem beginsLikeGroup_of_isGroup (group : a.isGroup = true) : BeginsLikeGroup a.server := by
  rcases isGroup_iff.1 group with server | server
  · rw [server]
    exact .inl List.prefix_rfl
  · rw [server]
    exact .inr List.prefix_rfl

/-- Behind the mark of an address stands its server, and then there may be blanks. -/
theorem Spelled.infix_iff (spelled : Spelled (trimChars s.toList) a) {name : List Char}
    (unblank : name.any isBlank = false) :
    ('@' :: name) <:+: s.toList ↔ name <+: a.server.toList := by
  obtain ⟨front, back, text, blank, blank'⟩ := exists_append_trimChars s.toList
  have unmarked {cs : List Char} (blank : ∀ x ∈ cs, isBlank x = true) : '@' ∉ cs := fun mark =>
    absurd (blank _ mark) (by decide)
  -- the mark that is left when blanks are trimmed is the only one of the whole text
  have whole : s.toList = (front ++ a.user.toList) ++ '@' :: (a.server.toList ++ back) := by
    rw [text, spelled.text]
    simp
  have before : '@' ∉ front ++ a.user.toList := by
    rw [List.mem_append, not_or]
    exact ⟨unmarked blank, spelled.user_unmarked⟩
  have behind : '@' ∉ a.server.toList ++ back := by
    rw [List.mem_append, not_or]
    exact ⟨spelled.server_unmarked, unmarked blank'⟩
  have unblank (x : Char) (hx : x ∈ name) : isBlank x = false :=
    Bool.eq_false_iff.2 (List.any_eq_false.1 unblank x hx)
  rw [whole, infix_append_cons_iff before behind, prefix_append_blanks_iff unblank blank']

/-- **Which addresses are taken for those of groups**, as they are spelled. -/
theorem denotesGroup_iff (read : parse s = .ok a) :
    denotesGroup s = true ↔ BeginsLikeGroup a.server := by
  have spelled := parse_eq_ok_iff.1 read
  rw [denotesGroup, Bool.or_eq_true, occurs_iff, occurs_iff, spelled.infix_iff (by decide),
    spelled.infix_iff (by decide)]
  rfl

/-- Blanks at the ends are no part of what an address is taken for. -/
theorem denotesGroup_trim (read : parse s = .ok a) :
    denotesGroup (Text.trim s) = denotesGroup s := by
  have read' : parse (Text.trim s) = .ok a := by rw [parse_trim, read]
  rw [Bool.eq_iff_iff, denotesGroup_iff read', denotesGroup_iff read]

end Address

namespace Destination

variable {c : ResolverConfig} {s : String} {a : Address}

/-- The server of users is taken off an address exactly if it is the server of the address. -/
theorem userPart_of_spelled {cs : List Char} (spelled : Address.Spelled cs a) :
    userPart c cs = if a.server = c.userServer then a.user.toList else cs := by
  split
  · next same => rw [spelled.text, same, userPart_append]
  · next other =>
    unfold userPart
    cases found : before? ('@' :: c.userServer.toList) cs with
    | none => rfl
    | some rest =>
      have text := before?_eq_some_iff.1 found
      have unmarked : '@' ∉ rest := by
        have single := spelled.count_eq.le
        rw [text] at single
        exact (not_mem_of_count_le single).1
      have cut := cut?_eq_some_iff.2 ⟨spelled.text, spelled.user_unmarked⟩
      rw [cut?_eq_some_iff.2 ⟨text, unmarked⟩] at cut
      exact absurd (String.toList_inj.1 (Prod.mk.inj (Option.some.inj cut)).2).symm other

/-- Only the digits of the user count of the address: `r` says the number that they are, or that
there are none. -/
def ReducedTo (c : ResolverConfig) (s : String) (a : Address)
    (r : Except AddressError Destination) : Prop :=
  if a.user.toList.filter isDigit = [] then r = .error (.malformed (Text.trim s))
  else r = .ok (ofNumber c (a.user.toList.filter isDigit))

section

variable (read : Address.parse s = .ok a)

include read

theorem trimChars_ne_nil : trimChars s.toList ≠ [] := by
  intro none
  have single := (Address.parse_eq_ok_iff.1 read).count_eq
  rw [none] at single
  cases single

/-- What is taken for the address of a group is taken as it is. -/
theorem normalize_of_grouped (grouped : BeginsLikeGroup a.server) :
    normalize c s = .ok (.direct a) := by
  have mentioned : denotesGroup (String.ofList (trimChars s.toList)) = true :=
    (Address.denotesGroup_trim read).trans ((Address.denotesGroup_iff read).2 grouped)
  have whole : Address.parse (String.ofList (trimChars s.toList)) = .ok a :=
    (Address.parse_trim s).trans read
  unfold normalize
  simp only [List.isEmpty_iff, trimChars_ne_nil read, mentioned, whole, if_false, if_true]
  rfl

/-- Whatever else has another server than that of users is taken as it is, too. -/
theorem normalize_of_other (other : a.server ≠ c.userServer) :
    normalize c s = .ok (.direct a) := by
  have spelled := Address.parse_eq_ok_iff.1 read
  have whole : userPart c (trimChars s.toList) = trimChars s.toList := by
    rw [userPart_of_spelled spelled, if_neg other]
  have mark : '@' ∈ trimChars s.toList := by
    rw [spelled.text]
    exact List.mem_append_right _ List.mem_cons_self
  have reading := reading_normalize c s
  generalize normalize c s = r at reading ⊢
  cases reading with
  | blank none => exact absurd none (trimChars_ne_nil read)
  | group =>
    rw [read]
    rfl
  | marked =>
    rw [whole, ← Text.trim, Address.parse_trim, read]
    rfl
  | digitless _ unmarked | number _ unmarked =>
    rw [whole] at unmarked
    exact absurd mark unmarked

/-- Of a user at the server of users only the digits count. -/
theorem reducedTo_normalize (ungrouped : ¬BeginsLikeGroup a.server)
    (same : a.server = c.userServer) : ReducedTo c s a (normalize c s) := by
  have spelled := Address.parse_eq_ok_iff.1 read
  have unmentioned : denotesGroup (String.ofList (trimChars s.toList)) = false := by
    rw [← Text.trim, Address.denotesGroup_trim read, Bool.eq_false_iff]
    exact mt (Address.denotesGroup_iff read).1 ungrouped
  have user : userPart c (trimChars s.toList) = a.user.toList := by
    rw [userPart_of_spelled spelled, if_pos same]
  unfold normalize ReducedTo ofNumber
  simp only [List.isEmpty_iff, trimChars_ne_nil read, unmentioned, user, List.contains_iff_mem,
    spelled.user_unmarked, if_false, Bool.false_eq_true]
  split
  · rfl
  · split <;> rfl

end

/-- **Where the two tests agree.** A text that spells an address is taken for a group exactly if its
server begins like that of groups or that of broadcast lists. So every group is taken for one, and
the tests agree unless the server goes on after such a name. Then the address is taken as it is,
also at the server of users, where otherwise only the digits of the user count. -/
theorem group_tests_agree (read : Address.parse s = .ok a) :
    (denotesGroup s = true ↔ BeginsLikeGroup a.server) ∧
    (a.isGroup = true → denotesGroup s = true) ∧
    (denotesGroup s = a.isGroup ↔
      (BeginsLikeGroup a.server → a.server = groupServer ∨ a.server = broadcastServer)) ∧
    ∀ c : ResolverConfig,
      (denotesGroup s = true ∨ a.server ≠ c.userServer → normalize c s = .ok (.direct a)) ∧
      (denotesGroup s = false → a.server = c.userServer → ReducedTo c s a (normalize c s)) := by
  have taken := Address.denotesGroup_iff read
  refine ⟨taken, fun group => taken.2 (Address.beginsLikeGroup_of_isGroup group), ?_,
    fun c => ⟨?_, fun ungrouped => ?_⟩⟩
  · rw [Bool.eq_iff_iff, taken, Address.isGroup_iff]
    refine ⟨Iff.mp, fun exact => ⟨exact, fun group => ?_⟩⟩
    exact Address.beginsLikeGroup_of_isGroup (Address.isGroup_iff.2 group)
  · rintro (grouped | other)
    · exact normalize_of_grouped read (taken.1 grouped)
    · exact normalize_of_other read other
  · exact reducedTo_normalize read (mt taken.2 (Bool.eq_false_iff.1 ungrouped))

/-- A group with blanks around it, at a gateway whose users have a server of nearly that name. -/
theorem group_tests_agree_padded :
    denotesGroup " 1203-63@g.us " = true ∧
      normalize { userServer := "g.us.example" } " 1203-63@g.us " =
        .ok (.direct ⟨"1203-63", "g.us"⟩) ∧
      normalize { userServer := "example" } "+1 (415)@example" =
        .ok (.direct ⟨"1415", "example"⟩) := by
  have group : Address.parse " 1203-63@g.us " = .ok ⟨"1203-63", "g.us"⟩ := by rfl
  have user : Address.parse "+1 (415)@example" = .ok ⟨"+1 (415)", "example"⟩ := by rfl
  obtain ⟨-, taken, -, read⟩ := group_tests_agree group
  have mentioned := taken (by decide)
  obtain ⟨-, -, -, reduced⟩ := group_tests_agree user
  have number := (reduced { userServer := "example" }).2 (by decide) rfl
  exact ⟨mentioned, (read _).1 (.inl mentioned), number⟩

/-- A server whose name begins like that of groups and goes on is taken for it. So a number there
keeps its punctuation, though the users have that server. -/
theorem group_tests_differ :
    (¬∀ s a, Address.parse s = .ok a → (denotesGroup s = true ↔ a.isGroup = true)) ∧
    ¬∀ (c : ResolverConfig) s a, Address.parse s = .ok a → a.isGroup = false →
      a.server = c.userServer → ReducedTo c s a (normalize c s) := by
  constructor
  · intro agree
    have group := (agree "1@g.usx" ⟨"1", "g.usx"⟩ rfl).1 (by decide)
    cases group
  · intro reduced
    have number := reduced { userServer := "g.us.example" } "+1@g.us.example"
      ⟨"+1", "g.us.example"⟩ rfl rfl rfl
    have kept : normalize { userServer := "g.us.example" } "+1@g.us.example" =
        .ok (.direct ⟨"+1", "g.us.example"⟩) := by
      rfl
    rw [kept] at number
    refine absurd number ?_
    unfold ReducedTo
    decide

end Destination

end MessageGateway
