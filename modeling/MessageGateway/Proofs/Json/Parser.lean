import MessageGateway.Json.Parser
import MessageGateway.Proofs.Json.Lexer

/-!
# Written documents are read back

The automaton takes the tokens of a document as one value, whatever is open around it and whatever
follows. No token of a word stands next to another, so the text of a document falls apart into its
tokens.

## Main definitions

* `IsWritable v`: the numbers of the document can be written

## Main results

* `run?_tokens`: the tokens of a document are one value
* `spaced_tokens`: brackets, commas and colons stand between words
* `read?_write`: a document is read as it was written
-/

namespace MessageGateway.Json

variable {t u : Token} {ts us : List Token} {s : Stack} {fs : List Frame} {v : Json}

/-! ## The automaton on tokens -/

theorem run?_cons_of_step {s' : Stack} (h : s.step? t = some s') :
    s.run? (t :: ts) = s'.run? ts := by
  rw [Stack.run?, h]
  rfl

theorem tokens_eq_cons (v : Json) : ∃ t ts, v.tokens = t :: ts ∧ t ≠ .closeList := by
  cases v <;> exact ⟨_, _, rfl, by simp⟩

theorem itemTokens_eq_cons (v : Json) (vs : List Json) :
    ∃ t ts, itemTokens (v :: vs) = t :: ts ∧ t ≠ .closeList := by
  obtain ⟨t, ts, eq, ne⟩ := tokens_eq_cons v
  cases vs <;> exact ⟨t, _, by rw [itemTokens, eq]; rfl, ne⟩

/-- The first item of a list begins like any value. -/
theorem run?_firstItem (ne : t ≠ .closeList) :
    Stack.run? ⟨.firstItem, fs⟩ (t :: ts) = Stack.run? ⟨.value, .list [] :: fs⟩ (t :: ts) := by
  simp [Stack.run?, Stack.step?, ne]

mutual

/-- **The tokens of a document are one value.** -/
theorem run?_tokens (fs : List Frame) (ts : List Token) : ∀ v : Json,
    Stack.run? ⟨.value, fs⟩ (v.tokens ++ ts) = Stack.run? ⟨.rest v, fs⟩ ts
  | .null => rfl
  | .bool _ => rfl
  | .number _ => rfl
  | .text _ => rfl
  | .garbled => rfl
  | .list [] => rfl
  | .list (v :: vs) => by
    obtain ⟨t, us, eq, ne⟩ := itemTokens_eq_cons v vs
    have items := run?_itemTokens fs ts [] (v :: vs) (by simp)
    rw [tokens, List.cons_append, run?_cons_of_step rfl]
    rw [eq] at items ⊢
    exact (run?_firstItem ne).trans items
  | .object [] => rfl
  | .object ((k, v) :: ms) => by
    have members := run?_memberTokens fs ts [] ((k, v) :: ms) (by simp)
    rw [tokens, List.cons_append, run?_cons_of_step rfl]
    cases ms <;> exact members

/-- The items of a list are put behind those before them. -/
theorem run?_itemTokens (fs : List Frame) (ts : List Token) (items : List Json) :
    ∀ vs : List Json, vs ≠ [] →
      Stack.run? ⟨.value, .list items :: fs⟩ (itemTokens vs ++ ts) =
        Stack.run? ⟨.rest (.list (items.reverse ++ vs)), fs⟩ ts
  | [], empty => absurd rfl empty
  | [v], _ => by
    rw [itemTokens, List.append_assoc, run?_tokens]
    refine (run?_cons_of_step rfl).trans ?_
    rw [List.reverse_cons]
    rfl
  | v :: w :: vs, _ => by
    rw [itemTokens, List.append_assoc, run?_tokens]
    refine (run?_cons_of_step rfl).trans ?_
    refine (run?_itemTokens fs ts (v :: items) (w :: vs) (by simp)).trans ?_
    rw [List.reverse_cons, List.append_assoc]
    rfl

/-- The members of an object are put behind those before them. -/
theorem run?_memberTokens (fs : List Frame) (ts : List Token)
    (members : List (Option String × Json)) :
    ∀ ms : List (Option String × Json), ms ≠ [] →
      Stack.run? ⟨.key members, fs⟩ (memberTokens ms ++ ts) =
        Stack.run? ⟨.rest (.object (members.reverse ++ ms)), fs⟩ ts
  | [], empty => absurd rfl empty
  | [(k, v)], _ => by
    rw [memberTokens, List.append_assoc, List.cons_append, List.cons_append,
      run?_cons_of_step rfl, run?_cons_of_step rfl, run?_tokens]
    refine (run?_cons_of_step rfl).trans ?_
    rw [List.reverse_cons]
    rfl
  | (k, v) :: m :: ms, _ => by
    rw [memberTokens, List.append_assoc, List.cons_append, List.cons_append,
      run?_cons_of_step rfl, run?_cons_of_step rfl, run?_tokens]
    refine (run?_cons_of_step rfl).trans ?_
    refine (run?_memberTokens fs ts ((k, v) :: members) (m :: ms) (by simp)).trans ?_
    rw [List.reverse_cons, List.append_assoc]
    rfl

end

theorem ofTokens?_tokens (v : Json) : ofTokens? v.tokens = some v := by
  have run := run?_tokens [] [] v
  rw [List.append_nil] at run
  rw [ofTokens?, run]
  rfl

/-! ## Words do not stand next to each other -/

theorem spaced_cons (mark : t.isWord = false) (h : Spaced ts) : Spaced (t :: ts) := by
  cases ts with
  | nil => trivial
  | cons u ts => exact ⟨fun word => absurd word (by simp [mark]), h⟩

theorem spaced_append (mark : u.isWord = false) (h : Spaced ts) (h' : Spaced (u :: us)) :
    Spaced (ts ++ u :: us) := by
  induction ts with
  | nil => exact h'
  | cons t ts ih =>
    cases ts with
    | nil => exact ⟨fun _ => mark, h'⟩
    | cons w ts => exact ⟨h.1, ih h.2⟩

mutual

/-- Brackets, commas and colons stand between words. -/
theorem spaced_tokens : ∀ v : Json, Spaced v.tokens
  | .null => trivial
  | .bool _ => trivial
  | .number _ => trivial
  | .text _ => trivial
  | .garbled => trivial
  | .list items => spaced_cons rfl (spaced_itemTokens items)
  | .object members => spaced_cons rfl (spaced_memberTokens members)

theorem spaced_itemTokens : ∀ vs : List Json, Spaced (itemTokens vs)
  | [] => trivial
  | [v] => spaced_append rfl (spaced_tokens v) trivial
  | v :: w :: vs =>
    spaced_append rfl (spaced_tokens v) (spaced_cons rfl (spaced_itemTokens (w :: vs)))

theorem spaced_memberTokens : ∀ ms : List (Option String × Json), Spaced (memberTokens ms)
  | [] => trivial
  | [(_, v)] =>
    spaced_cons rfl (spaced_cons rfl (spaced_append rfl (spaced_tokens v) trivial))
  | (_, v) :: m :: ms =>
    spaced_cons rfl (spaced_cons rfl (spaced_append rfl (spaced_tokens v)
      (spaced_cons rfl (spaced_memberTokens (m :: ms)))))

end

/-! ## Documents -/

/-- The numbers of the document can be written. -/
def IsWritable (v : Json) : Prop :=
  ∀ t ∈ v.tokens, t.IsWritable

/-- **A document is read as it was written.** -/
theorem read?_write (h : v.IsWritable) : read? v.write = some v := by
  have chars : Source.ofString v.write = (v.tokens.flatMap Token.write).map some := by
    rw [Source.ofString, write, String.toList_ofList, writeChars]
  rw [read?, readSource?, chars, lex?, lexFrom?_write (spaced_tokens v) h, Option.bind_some,
    ofTokens?_tokens]

/-! ## Which documents can be written -/

@[simp] theorem isWritable_null : IsWritable .null := by
  simp [IsWritable, tokens, Token.IsWritable]

@[simp] theorem isWritable_bool (b : Bool) : IsWritable (.bool b) := by
  simp [IsWritable, tokens, Token.IsWritable]

@[simp] theorem isWritable_text (s : String) : IsWritable (.text s) := by
  simp [IsWritable, tokens, Token.IsWritable]

@[simp] theorem isWritable_int (n : Int) : IsWritable (.int n) := by
  simp [IsWritable, tokens, int, Token.IsWritable, Numeral.isDecimal_ofInt]

@[simp] theorem isWritable_nat (n : Nat) : IsWritable (.nat n) :=
  isWritable_int n

theorem Token.isWritable_of_mark (mark : t.isWord = false) : t.IsWritable := by
  rintro n rfl
  cases mark

theorem forall_itemTokens : ∀ vs : List Json,
    (∀ t ∈ itemTokens vs, t.IsWritable) ↔ ∀ v ∈ vs, v.IsWritable
  | [] => by simpa [itemTokens] using Token.isWritable_of_mark rfl
  | [v] => by
    rw [itemTokens, List.forall_mem_append, List.forall_mem_singleton, List.forall_mem_singleton]
    exact and_iff_left (Token.isWritable_of_mark rfl)
  | v :: w :: vs => by
    rw [itemTokens, List.forall_mem_append, List.forall_mem_cons, forall_itemTokens (w :: vs),
      List.forall_mem_cons (a := v)]
    exact and_congr Iff.rfl (and_iff_right (Token.isWritable_of_mark rfl))

theorem forall_memberTokens : ∀ ms : List (Option String × Json),
    (∀ t ∈ memberTokens ms, t.IsWritable) ↔ ∀ m ∈ ms, m.2.IsWritable
  | [] => by simpa [memberTokens] using Token.isWritable_of_mark rfl
  | [(k, v)] => by
    rw [memberTokens, List.cons_append, List.cons_append, List.forall_mem_cons,
      List.forall_mem_cons, List.forall_mem_append, List.forall_mem_singleton,
      List.forall_mem_singleton, and_iff_right (Token.isWritable_of_mark rfl),
      and_iff_right (Token.isWritable_of_mark rfl)]
    exact and_iff_left (Token.isWritable_of_mark rfl)
  | (k, v) :: m :: ms => by
    rw [memberTokens, List.cons_append, List.cons_append, List.forall_mem_cons,
      List.forall_mem_cons, List.forall_mem_append, List.forall_mem_cons,
      forall_memberTokens (m :: ms), List.forall_mem_cons (a := (k, v)),
      and_iff_right (Token.isWritable_of_mark rfl), and_iff_right (Token.isWritable_of_mark rfl)]
    exact and_congr Iff.rfl (and_iff_right (Token.isWritable_of_mark rfl))

@[simp] theorem isWritable_list (vs : List Json) :
    IsWritable (.list vs) ↔ ∀ v ∈ vs, v.IsWritable := by
  rw [← forall_itemTokens, IsWritable, tokens]
  simp [Token.IsWritable]

@[simp] theorem isWritable_object (ms : List (Option String × Json)) :
    IsWritable (.object ms) ↔ ∀ m ∈ ms, m.2.IsWritable := by
  rw [← forall_memberTokens, IsWritable, tokens]
  simp [Token.IsWritable]

@[simp] theorem isWritable_obj (ms : List (String × Json)) :
    IsWritable (.obj ms) ↔ ∀ m ∈ ms, m.2.IsWritable := by
  rw [obj, isWritable_object, List.forall_mem_map]

@[simp] theorem isWritable_array {α : Type} (f : α → Json) (as : List α) :
    IsWritable (.array f as) ↔ ∀ a ∈ as, (f a).IsWritable := by
  simp [array]

@[simp] theorem isWritable_opt {α : Type} (f : α → Json) (a : Option α) :
    IsWritable (.opt f a) ↔ ∀ b, a = some b → (f b).IsWritable := by
  cases a <;> simp [opt]

end MessageGateway.Json
