import Mathlib.Algebra.Group.Nat.Defs
import MessageGateway.Identifier

/-!
# Written identifiers are read back

Digits say the lowest part of a number, and 26 of them are enough for 128 bits. A tag ends in a
dash, which is no digit. So a text without a tag is not taken for one with a tag, and with the tag
of another kind a text has too many characters.

## Main results

* `Base32.readFrom_digits`: what digits say
* `Base32.decode?_encode`, `Id.ofBare?_bare`: an identifier is read as it was written
* `Id.parse?_bare`, `Id.parse?_display`: with or without the tag of its kind
* `Id.parse?_display_of_ne`: with the tag of another kind it is refused
* `Id.display_faithful`: identifiers and their texts
-/

namespace MessageGateway

namespace Identifier.Base32

theorem value?_digit {d : Nat} (h : d < 32) : value? (digit d) = some d := by
  revert d
  decide

theorem readFrom_append (acc : Nat) (cs ds : List Char) :
    readFrom acc (cs ++ ds) = (readFrom acc cs).bind fun n => readFrom n ds := by
  induction cs generalizing acc with
  | nil => rfl
  | cons c cs ih =>
    rw [List.cons_append, readFrom, readFrom]
    cases value? c with
    | none => rfl
    | some d => exact ih _

/-- Digits say the lowest part of a number. -/
theorem readFrom_digits (acc v n : Nat) :
    readFrom acc (digits v n) = some (acc * 32 ^ n + v % 32 ^ n) := by
  induction n generalizing v with
  | zero => simp [digits, readFrom, Nat.mod_one]
  | succ n ih =>
    have value : (acc * 32 ^ n + v / 32 % 32 ^ n) * 32 + v % 32 =
        acc * 32 ^ (n + 1) + v % 32 ^ (n + 1) := by
      rw [Nat.pow_succ', Nat.mod_mul, Nat.add_mul, Nat.mul_left_comm acc 32, Nat.mul_comm 32]
      omega
    rw [digits, readFrom_append, ih, Option.bind_some, readFrom,
      value?_digit (Nat.mod_lt v (by decide)), Option.bind_some, readFrom, value]

/-- Twenty-six digits say the whole value, most significant digit first. -/
theorem readFrom_encode (v : BitVec 128) : readFrom 0 (encode v) = some v.toNat := by
  have fits : v.toNat % 32 ^ width = v.toNat := Nat.mod_eq_of_lt <|
    Nat.lt_of_lt_of_le v.isLt (by decide)
  rw [encode, readFrom_digits, fits, Nat.zero_mul, Nat.zero_add]

/-- **A value is read as it was written.** -/
theorem decode?_encode (v : BitVec 128) : decode? (encode v) = some v := by
  have length : (encode v).length = width := length_encode v
  rw [decode?, if_pos length, readFrom_encode]
  simp

theorem digit_mem_alphabet (d : Nat) : digit d ∈ alphabet := by
  rw [digit, List.getD_eq_getElem?_getD]
  cases found : alphabet[d]? with
  | none => decide
  | some c => exact List.mem_of_getElem? found

/-- Only characters of the alphabet are written. -/
theorem mem_alphabet_of_mem_digits {c : Char} {v n : Nat} (h : c ∈ digits v n) : c ∈ alphabet := by
  induction n generalizing v with
  | zero => cases h
  | succ n ih =>
    rw [digits, List.mem_append, List.mem_singleton] at h
    rcases h with h | rfl
    · exact ih h
    · exact digit_mem_alphabet _

end Identifier.Base32

theorem IdKind.dash_mem_tag (kind : IdKind) : '-' ∈ kind.tag.toList := by
  cases kind <;> decide

/-- Tags of two kinds differ before either of them is over. -/
theorem IdKind.after?_tag_of_ne {kind other : IdKind} (h : other ≠ kind) (cs : List Char) :
    Text.after? other.tag.toList (kind.tag.toList ++ cs) = none := by
  cases kind <;> cases other <;> first | rfl | exact absurd rfl h

namespace Id

variable {kind other : IdKind}

theorem toList_bare (id : Id kind) : id.bare.toList = Identifier.Base32.encode id.value :=
  String.toList_ofList

theorem toList_display (id : Id kind) :
    id.display.toList = kind.tag.toList ++ Identifier.Base32.encode id.value := by
  rw [display, String.toList_append, toList_bare]

/-- **An identifier is read as it was written.** -/
theorem ofBare?_bare (id : Id kind) : ofBare? id.bare.toList = some id := by
  rw [ofBare?, toList_bare, Identifier.Base32.decode?_encode]
  rfl

/-- No tag is taken off a text that has none. -/
theorem after?_bare (id : Id kind) (other : IdKind) :
    Text.after? other.tag.toList id.bare.toList = none := by
  rw [Option.eq_none_iff_forall_ne_some]
  intro rest found
  -- the tag would have a dash in it, and no digit is a dash
  have dash : '-' ∈ id.bare.toList := by
    rw [Text.after?_eq_some_iff.1 found]
    exact List.mem_append_left _ other.dash_mem_tag
  rw [toList_bare] at dash
  have digit := Identifier.Base32.mem_alphabet_of_mem_digits dash
  exact absurd digit (by decide)

theorem parse?_bare (id : Id kind) : parse? id.bare = some id := by
  rw [parse?, after?_bare, Option.getD_none, ofBare?_bare]

theorem parse?_display (id : Id kind) : parse? id.display = some id := by
  have tagged : Text.after? kind.tag.toList id.display.toList = some id.bare.toList := by
    rw [Text.after?_eq_some_iff, display, String.toList_append]
  rw [parse?, tagged, Option.getD_some, ofBare?_bare]

theorem display_injective : Function.Injective (display : Id kind → String) := by
  intro id id' same
  have read : (parse? id.display : Option (Id kind)) = some id' := by
    rw [same, parse?_display]
  rw [parse?_display] at read
  exact Option.some.inj read

/-- **A text with the tag of another kind is refused**: the tag stays on, and with it the text has
too many characters. -/
theorem parse?_display_of_ne (h : other ≠ kind) (id : Id kind) :
    (parse? id.display : Option (Id other)) = none := by
  have untaken : Text.after? other.tag.toList id.display.toList = none := by
    rw [toList_display, IdKind.after?_tag_of_ne h]
  have long : id.display.toList.length ≠ Identifier.Base32.width := by
    rw [toList_display, List.length_append, Identifier.Base32.length_encode]
    cases kind <;> decide
  rw [parse?, untaken, Option.getD_none, ofBare?, Identifier.Base32.decode?, if_neg long]
  rfl

/-- **An identifier and its texts.** Without its tag, an identifier is written with 26 characters
that say its value, most significant digit first. With its tag or without, the text is read as this
identifier again. Two identifiers of one kind have different texts, and no text of one kind is read
as an identifier of another. -/
theorem display_faithful (kind : IdKind) (v : BitVec 128) :
    let id : Id kind := ⟨v⟩
    id.display = kind.tag ++ id.bare ∧ id.bare.length = 26 ∧
      Identifier.Base32.readFrom 0 id.bare.toList = some v.toNat ∧
      parse? id.display = some id ∧ parse? id.bare = some id ∧
      (∀ id' : Id kind, id.display = id'.display → id = id') ∧
      ∀ other, other ≠ kind → (parse? id.display : Option (Id other)) = none := by
  intro id
  refine ⟨rfl, ?_, ?_, parse?_display id, parse?_bare id, fun _ same => display_injective same,
    fun _ other => parse?_display_of_ne other id⟩
  · rw [← String.length_toList, toList_bare, Identifier.Base32.length_encode]
  · rw [toList_bare, Identifier.Base32.readFrom_encode]

/-- The greatest value, of which the highest digit has only three bits, as the name of a message. -/
theorem display_faithful_greatest :
    let id : MessageId := ⟨BitVec.allOnes 128⟩
    id.display = "msg-7ZZZZZZZZZZZZZZZZZZZZZZZZZ" ∧
      parse? "msg-7ZZZZZZZZZZZZZZZZZZZZZZZZZ" = some id ∧
      (parse? "msg-7ZZZZZZZZZZZZZZZZZZZZZZZZZ" : Option CycleId) = none ∧
      (parse? "msg-7ZZZZZZZZZZZZZZZZZZZZZZZZZ" : Option PayloadId) = none := by
  intro id
  have written : id.display = "msg-7ZZZZZZZZZZZZZZZZZZZZZZZZZ" := by decide
  obtain ⟨-, -, -, read, -, -, refused⟩ := display_faithful .message (BitVec.allOnes 128)
  have cycle := refused .cycle (by decide)
  have payload := refused .payload (by decide)
  rw [← written]
  exact ⟨rfl, read, cycle, payload⟩

end Id

end MessageGateway
