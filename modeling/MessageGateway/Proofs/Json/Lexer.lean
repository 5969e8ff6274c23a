import MessageGateway.Json.Lexer
import MessageGateway.Json.Printer
import MessageGateway.Proofs.Json.Numeral

/-!
# Written tokens are read back

For each mode of the automaton one lemma says what it does with what is written in that mode: with
one character of a string, then with all of them, and with the characters of a word. A word goes on
until something else follows, so tokens are told apart when no word stands next to another.

## Main definitions

* `isDelimiter c`: the character ends a word
* `Token.isWord`, `Spaced ts`: words, and lists in which none stands next to another

## Main results

* `writeChar_cases`: the three ways of writing a character
* `lexFrom?_writeString`, `lexFrom?_write_word`: strings and words are read as they were written
* `lexFrom?_write`: spaced tokens are read as they were written
-/

namespace MessageGateway.Json

open Text

variable {mode m : Mode} {c : Char} {cs ws : List Char} {ps : List Piece} {t u : Token}
  {ts us : List Token} {rest : Source}

/-! ## One step -/

theorem lexFrom?_cons (mode : Mode) (x : Option Char) (rest : Source) :
    lexFrom? mode (x :: rest) =
      (step? mode x).bind fun next => (lexFrom? next.1 rest).map (next.2 ++ ·) := by
  rw [lexFrom?]
  cases step? mode x with
  | none => rfl
  | some next => cases found : lexFrom? next.1 rest <;> simp [found]

theorem lexFrom?_of_silent {x : Option Char} (h : step? mode x = some (m, [])) :
    lexFrom? mode (x :: rest) = lexFrom? m rest := by
  simp [lexFrom?_cons, h]

theorem lexFrom?_of_token {x : Option Char} (h : step? mode x = some (m, [t])) :
    lexFrom? mode (x :: rest) = (lexFrom? m rest).map (t :: ·) := by
  simp [lexFrom?_cons, h]

/-! ## Strings -/

theorem assemble_map_char (cs : List Char) : assemble (cs.map .char) = some cs := by
  induction cs with
  | nil => rfl
  | cons c cs ih => simp [assemble, ih]

theorem hex4_of_lt {n : Nat} (h : n < 32) :
    hex4 n = ['0', '0', Nat.digitChar (n / 16), Nat.digitChar (n % 16)] := by
  revert n
  decide

theorem hexValue?_digitChar {d : Nat} (h : d < 16) : hexValue? (Nat.digitChar d) = some d := by
  revert d
  decide

theorem ofUnit_toNat (h : c.toNat < 32) : Piece.ofUnit c.toNat = .char c := by
  rw [Piece.ofUnit, if_neg (by omega), Char.ofNat_toNat]

/-- A control character without a short form is written as its code unit. -/
theorem lexFrom?_unit (h : c.toNat < 32) :
    lexFrom? (.unit ps 0 4) ((hex4 c.toNat).map some ++ rest) =
      lexFrom? (.string (.char c :: ps)) rest := by
  have value : (c.toNat / 16) * 16 + c.toNat % 16 = c.toNat := by omega
  rw [hex4_of_lt h, List.map_cons, List.map_cons, List.map_cons, List.map_cons, List.map_nil]
  simp only [List.cons_append, List.nil_append]
  rw [lexFrom?_of_silent (m := .unit ps 0 3) rfl,
    lexFrom?_of_silent (m := .unit ps 0 2) rfl,
    lexFrom?_of_silent (m := .unit ps (c.toNat / 16) 1),
    lexFrom?_of_silent (m := .string (.char c :: ps))]
  · rw [step?, hexValue?_digitChar (by omega), Option.map_some, value, ofUnit_toNat h]
    rfl
  · rw [step?, hexValue?_digitChar (by omega)]
    simp

/-- The three ways of writing a character: by a backslash and a letter, as a code unit, and as it
is. -/
theorem writeChar_cases (c : Char) :
    (∃ d, writeChar c = ['\\', d] ∧ escaped? d = some c ∧ d ≠ 'u') ∨
      (writeChar c = '\\' :: 'u' :: hex4 c.toNat ∧ c.toNat < 32) ∨
      (writeChar c = [c] ∧ c ≠ '"' ∧ c ≠ '\\' ∧ ¬c.toNat < 32) := by
  unfold writeChar
  iterate 7
    split
    · next eq => exact .inl ⟨_, rfl, by rw [eq]; rfl, by decide⟩
  split
  · next control => exact .inr (.inl ⟨rfl, control⟩)
  · next quote backslash _ _ _ _ _ plain => exact .inr (.inr ⟨rfl, quote, backslash, plain⟩)

/-- A character of a string is read as it was written. -/
theorem lexFrom?_writeChar (c : Char) :
    lexFrom? (.string ps) ((writeChar c).map some ++ rest) =
      lexFrom? (.string (.char c :: ps)) rest := by
  rcases writeChar_cases c with ⟨d, eq, escape, letter⟩ | ⟨eq, control⟩ |
    ⟨eq, quote, backslash, plain⟩
  · have short : step? (.escape ps) (some d) = some (.string (.char c :: ps), []) := by
      simp [step?, letter, escape]
    rw [eq]
    exact (lexFrom?_of_silent (m := .escape ps) rfl).trans (lexFrom?_of_silent short)
  · rw [eq]
    refine (lexFrom?_of_silent (m := .escape ps) rfl).trans ?_
    exact (lexFrom?_of_silent (m := .unit ps 0 4) rfl).trans (lexFrom?_unit control)
  · have itself : step? (.string ps) (some c) = some (.string (.char c :: ps), []) := by
      simp [step?, quote, backslash, plain]
    rw [eq]
    exact lexFrom?_of_silent itself

theorem lexFrom?_writeChars (cs : List Char) :
    lexFrom? (.string ps) ((cs.flatMap writeChar).map some ++ rest) =
      lexFrom? (.string ((cs.map .char).reverse ++ ps)) rest := by
  induction cs generalizing ps with
  | nil => rfl
  | cons c cs ih =>
    rw [List.flatMap_cons, List.map_append, List.append_assoc, lexFrom?_writeChar, ih]
    simp

theorem lexFrom?_writeString (s : Option String) :
    lexFrom? .between ((writeString s).map some ++ rest) =
      (lexFrom? .between rest).map (.string s :: ·) := by
  cases s with
  | none =>
    show lexFrom? .between (some '"' :: some '\\' :: some 'u' :: some 'd' :: some '8' ::
      some '0' :: some '0' :: some '"' :: rest) = _
    rw [lexFrom?_of_silent (m := .string []) rfl, lexFrom?_of_silent (m := .escape []) rfl,
      lexFrom?_of_silent (m := .unit [] 0 4) rfl, lexFrom?_of_silent (m := .unit [] 0xD 3) rfl,
      lexFrom?_of_silent (m := .unit [] 0xD8 2) rfl,
      lexFrom?_of_silent (m := .unit [] 0xD80 1) rfl,
      lexFrom?_of_silent (m := .string [.unit 0xD800]) rfl, lexFrom?_of_token rfl]
    rfl
  | some s =>
    have content : stringToken ((s.toList.map Piece.char).reverse ++ []) = .string (some s) := by
      rw [stringToken, List.append_nil, List.reverse_reverse, assemble_map_char, Option.map_some,
        String.ofList_toList]
    rw [writeString, List.cons_append, List.map_cons, List.cons_append,
      lexFrom?_of_silent (m := .string []) rfl, List.map_append, List.append_assoc,
      lexFrom?_writeChars]
    refine lexFrom?_of_token ?_
    rw [← content]
    rfl

/-! ## Words -/

/-- The character ends a word. -/
def isDelimiter (c : Char) : Bool :=
  isSpace c || c == '"' || (punctuation? c).isSome

theorem step?_word (c : Char) : step? (.word ws) (some c) =
    if isDelimiter c then (word? ws.reverse).bind fun t =>
      (start? c).map fun next => (next.1, t :: next.2)
    else some (.word (c :: ws), []) := by
  cases spelled : word? ws.reverse with
  | none => simp [step?, isDelimiter, spelled]
  | some t => cases found : start? c <;> simp [step?, isDelimiter, spelled, found]

/-- A word goes on as long as nothing ends it. -/
theorem lexFrom?_word (h : ∀ c ∈ cs, isDelimiter c = false) :
    lexFrom? (.word ws) (cs.map some ++ rest) = lexFrom? (.word (cs.reverse ++ ws)) rest := by
  induction cs generalizing ws with
  | nil => rfl
  | cons c cs ih =>
    rw [List.forall_mem_cons] at h
    have goes : step? (.word ws) (some c) = some (.word (c :: ws), []) := by
      simp [step?_word, h.1]
    rw [List.map_cons, List.cons_append, lexFrom?_of_silent goes, ih h.2]
    simp

/-- Nothing follows, or something that ends a word. -/
def EndsWord (rest : Source) : Prop :=
  ∀ x, rest.head? = some x → ∃ c, x = some c ∧ isDelimiter c = true

theorem lexFrom?_word_end (h : word? ws.reverse = some t) (next : EndsWord rest) :
    lexFrom? (.word ws) rest = (lexFrom? .between rest).map (t :: ·) := by
  cases rest with
  | nil => simp [lexFrom?, finish?, h]
  | cons x rest =>
    obtain ⟨c, rfl, ends⟩ := next x rfl
    rw [lexFrom?_cons, lexFrom?_cons, step?_word, if_pos ends, h]
    cases found : start? c <;> simp [step?, found, Function.comp_def]

/-- The token is a number or one of the three words. -/
def Token.isWord : Token → Bool
  | .null | .bool _ | .number _ => true
  | _ => false

theorem not_isDelimiter_of_isDigit (h : isDigit c = true) : isDelimiter c = false := by
  have ne (d : Char) (hd : isDigit d = false) : c ≠ d := by
    rintro rfl
    rw [h] at hd
    cases hd
  have other : punctuation? c = none := by
    unfold punctuation?
    split <;> first | rfl | exact absurd rfl (ne _ rfl)
  simp [isDelimiter, isSpace, other]
  exact ⟨⟨⟨⟨ne _ rfl, ne _ rfl⟩, ne _ rfl⟩, ne _ rfl⟩, ne _ rfl⟩

/-- The numbers of the token can be written. -/
def Token.IsWritable (t : Token) : Prop :=
  ∀ n, t = .number n → n.IsDecimal

theorem not_isDelimiter_of_all (plain : cs.all (fun c => !isDelimiter c) = true) (h : c ∈ cs) :
    isDelimiter c = false := by
  simpa using List.all_eq_true.1 plain c h

/-- A word consists of characters that do not end it. -/
theorem not_isDelimiter_of_mem_write (word : t.isWord = true) (writable : t.IsWritable)
    (h : c ∈ t.write) : isDelimiter c = false := by
  cases t with
  | null => exact not_isDelimiter_of_all rfl h
  | bool b => cases b <;> exact not_isDelimiter_of_all rfl h
  | number n =>
    rcases Numeral.of_mem_write (writable n rfl) h with digit | mark
    · exact not_isDelimiter_of_isDigit digit
    · exact not_isDelimiter_of_all rfl mark
  | _ => cases word

/-- A word is the token that it was written for. -/
theorem word?_write (word : t.isWord = true) (writable : t.IsWritable) :
    word? t.write = some t := by
  cases t with
  | null => rfl
  | bool b => cases b <;> rfl
  | number n =>
    obtain ⟨c, cs, eq, first⟩ := Numeral.head_write n
    have other (d : Char) (ds : List Char) (hd : (isDigit d || d == '-') = false) :
        n.write ≠ d :: ds := by
      rw [eq]
      rintro ⟨⟩
      rcases first with first | rfl
      · simp [first] at hd
      · cases hd
    rw [Token.write, word?, if_neg (other _ _ rfl), if_neg (other _ _ rfl),
      if_neg (other _ _ rfl), Numeral.read?_write (writable n rfl)]
    rfl
  | _ => cases word

theorem exists_cons_of_isWord (word : t.isWord = true) : ∃ c cs, t.write = c :: cs := by
  cases t with
  | null => exact ⟨_, _, rfl⟩
  | bool b => cases b <;> exact ⟨_, _, rfl⟩
  | number n =>
    obtain ⟨c, cs, eq, -⟩ := Numeral.head_write n
    exact ⟨c, cs, eq⟩
  | _ => cases word

/-- A character that ends no word begins one. -/
theorem step?_of_not_isDelimiter (h : isDelimiter c = false) :
    step? .between (some c) = some (.word [c], []) := by
  simp only [isDelimiter, Bool.or_eq_false_iff, beq_eq_false_iff_ne, Option.isSome_eq_false_iff,
    Option.isNone_iff_eq_none] at h
  simp [step?, start?, h]

/-- A word is read as it was written, if something follows that ends it. -/
theorem lexFrom?_write_word (word : t.isWord = true) (writable : t.IsWritable)
    (next : EndsWord rest) :
    lexFrom? .between (t.write.map some ++ rest) = (lexFrom? .between rest).map (t :: ·) := by
  obtain ⟨c, cs, eq⟩ := exists_cons_of_isWord word
  have plain : ∀ d ∈ t.write, isDelimiter d = false := fun d hd =>
    not_isDelimiter_of_mem_write word writable hd
  have spelled := word?_write word writable
  rw [eq] at plain spelled ⊢
  rw [List.forall_mem_cons] at plain
  rw [List.map_cons, List.cons_append, lexFrom?_of_silent (step?_of_not_isDelimiter plain.1),
    lexFrom?_word plain.2]
  exact lexFrom?_word_end (by simpa using spelled) next

/-! ## Lists of tokens -/

/-- A token that is no word is read as it was written, whatever follows. -/
theorem lexFrom?_write_mark (mark : t.isWord = false) :
    lexFrom? .between (t.write.map some ++ rest) = (lexFrom? .between rest).map (t :: ·) := by
  cases t with
  | string s => exact lexFrom?_writeString s
  | null => cases mark
  | bool b => cases mark
  | number n => cases mark
  | _ => exact lexFrom?_of_token rfl

theorem endsWord_write (mark : u.isWord = false) : EndsWord (u.write.map some ++ rest) := by
  rintro x hx
  cases u with
  | string s =>
    cases s <;> (cases hx; exact ⟨_, rfl, rfl⟩)
  | null => cases mark
  | bool b => cases mark
  | number n => cases mark
  | _ => cases hx; exact ⟨_, rfl, rfl⟩

/-- No word stands next to another. -/
def Spaced : List Token → Prop
  | t :: u :: ts => (t.isWord = true → u.isWord = false) ∧ Spaced (u :: ts)
  | _ => True

/-- **Spaced tokens are read as they were written.** -/
theorem lexFrom?_write (spaced : Spaced ts) (writable : ∀ t ∈ ts, t.IsWritable) :
    lexFrom? .between ((ts.flatMap Token.write).map some) = some ts := by
  induction ts with
  | nil => rfl
  | cons t ts ih =>
    rw [List.forall_mem_cons] at writable
    have tail : Spaced ts := by
      cases ts with
      | nil => trivial
      | cons u ts => exact spaced.2
    rw [List.flatMap_cons, List.map_append]
    cases word : t.isWord with
    | false =>
      rw [lexFrom?_write_mark word, ih tail writable.2]
      rfl
    | true =>
      have next : EndsWord ((ts.flatMap Token.write).map some) := by
        cases ts with
        | nil => exact fun x hx => nomatch hx
        | cons u ts =>
          rw [List.flatMap_cons, List.map_append]
          exact endsWord_write (spaced.1 word)
      rw [lexFrom?_write_word word writable.1 next, ih tail writable.2]
      rfl

end MessageGateway.Json
