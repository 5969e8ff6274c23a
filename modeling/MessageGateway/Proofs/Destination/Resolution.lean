import MessageGateway.Proofs.Destination.Marks
import MessageGateway.Proofs.Destination.Preference
import MessageGateway.Proofs.Traces

/-!
# When resolving a destination fails

What the network says never makes a destination invalid. Only a domestic number is asked about, and
it is asked about once; an answer names somebody, and if none does the number is used as it was
given. So a destination is refused for what it says, or not at all.

## Main definitions

* `Destination.user`: whom a destination names without asking the network

## Main results

* `Destination.normalize_of_group`: groups and broadcast lists are taken as they are
* `Destination.user_ne_of_normalize`, `Destination.user_ne_of_choose`: somebody is named
* `Destination.resolve_refusals`: a destination is refused for what it says, or not at all
-/

namespace MessageGateway

open Text

namespace Destination

variable {c : ResolverConfig} {i : InstanceId} {raw digits : String} {d : Destination}
  {a : Address} {results : List ExistenceResult}

/-- Groups and broadcast lists are taken as they are. -/
theorem normalize_of_group (mentioned : denotesGroup (Text.trim raw) = true) :
    normalize c raw = (Address.parse raw).map .direct := by
  have reading := reading_normalize c raw
  generalize normalize c raw = r at reading ⊢
  cases reading with
  | group => rfl
  | blank none =>
    rw [Text.trim, none] at mentioned
    cases mentioned
  | marked ungrouped | digitless ungrouped | number ungrouped =>
    rw [ungrouped] at mentioned
    cases mentioned

/-- The address of a group or a broadcast list stands for itself. -/
theorem normalize_of_isGroup (read : Address.parse raw = .ok a) (group : a.isGroup = true) :
    normalize c raw = .ok (.direct a) := by
  rw [normalize_of_group (Address.denotesGroup_of_isGroup read group), read]
  rfl

/-- What mentions the server of groups or of broadcast lists is taken for the address whose text it
is. -/
theorem exists_of_group (mentioned : denotesGroup (Text.trim raw) = true)
    (h : normalize c raw = .ok d) : ∃ a, d = .direct a ∧ a.display = Text.trim raw := by
  rw [normalize_of_group mentioned] at h
  obtain ⟨a, parsed, rfl⟩ := exists_of_map h
  exact ⟨a, rfl, Address.display_of_parse parsed⟩

/-! ## Somebody is named -/

/-- Whom a destination names without asking the network. -/
def user : Destination → String
  | .direct a => a.user
  | .domestic digits => digits

theorem user_ofNumber (c : ResolverConfig) (ds : List Char) :
    (ofNumber c ds).user = String.ofList ds := by
  unfold ofNumber
  split <;> rfl

theorem user_ne_of_normalize (h : normalize c raw = .ok d) : d.user ≠ "" := by
  have spelled {s : String} (read : (Address.parse s).map direct = .ok d) : d.user ≠ "" := by
    obtain ⟨a, parsed, rfl⟩ := exists_of_map read
    exact (Address.parse_eq_ok_iff.1 parsed).user_ne
  have reading := reading_normalize c raw
  rw [h] at reading
  generalize read : (.ok d : Except AddressError Destination) = r at reading
  cases reading with
  | blank | digitless => cases read
  | group | marked => exact spelled read.symm
  | number _ _ nonempty =>
    cases read
    rw [user_ofNumber]
    simpa [← String.toList_inj] using nonempty

/-- Whatever the network says of a number, somebody is chosen. -/
theorem user_ne_of_choose (given : digits ≠ "") : (choose c digits results).user ≠ "" := by
  rw [choose_eq]
  cases first : results.find? ExistenceResult.isUsable with
  | none => exact given
  | some r =>
    have usable := List.find?_some first
    simp only [ExistenceResult.isUsable, Bool.and_eq_true, Bool.not_eq_true',
      String.isEmpty_eq_false_iff] at usable
    exact usable.2

/-! ## Resolving -/

section

variable (answer : (k : Call) → k.Answer)

theorem follow_of_error {e : AddressError} (h : normalize c raw = .error e) :
    (resolve c i raw).follow (fun k => some (answer k)) = ([], .done (.error e)) := by
  simp only [resolve, h]
  rfl

theorem follow_of_direct (h : normalize c raw = .ok (.direct a)) :
    (resolve c i raw).follow (fun k => some (answer k)) = ([], .done (.ok a)) := by
  simp only [resolve, h]
  rfl

/-- A domestic number is asked about once, and somebody is named whatever is answered. -/
theorem follow_of_domestic (h : normalize c raw = .ok (.domestic digits)) :
    ∃ a, a.user ≠ "" ∧ (resolve c i raw).follow (fun k => some (answer k)) =
      ([⟨.probe i (candidates c digits), answer (.probe i (candidates c digits))⟩],
        .done (.ok a)) := by
  have given : digits ≠ "" := user_ne_of_normalize h
  rw [resolve_of_domestic h]
  unfold Program.follow
  cases answered : answer (.probe i (candidates c digits)) with
  | ok results => exact ⟨choose c digits results, user_ne_of_choose given, rfl⟩
  | error e => exact ⟨userAddress c digits, given, rfl⟩

end

/-- **A destination is refused for what it says**, or not at all, whatever the network answers. It
is asked about exactly if it is domestic, and then once. A destination that mentions the server of
groups or of broadcast lists stands for the address whose text it is, or is refused; one that spells
the address of a group or a broadcast list stands for that. Every address names somebody. -/
theorem resolve_refusals (c : ResolverConfig) (i : InstanceId) (raw : String)
    (answer : (k : Call) → k.Answer) :
    ∃ t r, (resolve c i raw).follow (fun k => some (answer k)) = (t, .done r) ∧
      (∀ e, r = .error e ↔ normalize c raw = .error e) ∧
      (∀ digits, normalize c raw = .ok (.domestic digits) →
        t = [⟨.probe i (candidates c digits), answer (.probe i (candidates c digits))⟩]) ∧
      ((∀ digits, normalize c raw ≠ .ok (.domestic digits)) → t = []) ∧
      (denotesGroup (Text.trim raw) = true → ∀ d, normalize c raw = .ok d →
        ∃ a, r = .ok a ∧ a.display = Text.trim raw ∧ t = []) ∧
      (∀ a, Address.parse raw = .ok a → a.isGroup = true → r = .ok a ∧ t = []) ∧
      ∀ a, r = .ok a → a.user ≠ "" := by
  have spelled {a : Address} (read : Address.parse raw = .ok a) (group : a.isGroup = true) :=
    normalize_of_isGroup (c := c) read group
  have mentions {d : Destination} (mentioned : denotesGroup (Text.trim raw) = true)
      (h : normalize c raw = .ok d) := exists_of_group mentioned h
  cases h : normalize c raw with
  | error e =>
    refine ⟨_, _, follow_of_error answer h, by simp, nofun, fun _ => rfl, fun _ _ => nofun,
      ?_, nofun⟩
    intro a read group
    cases h.symm.trans (spelled read group)
  | ok d =>
    cases d with
    | direct a =>
      refine ⟨_, _, follow_of_direct answer h, by simp, by simp, fun _ => rfl, ?_, ?_, ?_⟩
      · intro mentioned d _
        obtain ⟨b, ⟨⟩, text⟩ := mentions mentioned h
        exact ⟨a, rfl, text, rfl⟩
      · intro b read group
        cases h.symm.trans (spelled read group)
        exact ⟨rfl, rfl⟩
      · rintro _ ⟨⟩
        exact user_ne_of_normalize h
    | domestic digits =>
      obtain ⟨a, some, follow⟩ := follow_of_domestic (i := i) answer h
      refine ⟨_, _, follow, by simp, ?_, fun foreign => absurd rfl (foreign digits), ?_, ?_, ?_⟩
      · rintro _ ⟨⟩
        rfl
      · intro mentioned d _
        obtain ⟨b, ⟨⟩, -⟩ := mentions mentioned h
      · intro b read group
        cases h.symm.trans (spelled read group)
      · rintro _ ⟨⟩
        exact some

end Destination

end MessageGateway
