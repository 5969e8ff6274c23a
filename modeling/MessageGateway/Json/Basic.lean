/-!
# JSON documents

A document as it is written: numbers keep their digits and objects their members in order,
repeated ones included. A string whose characters are not Unicode text, because of a lone
surrogate or a stray byte, is a document that may be passed over but not read.

## Main definitions

* `Numeral`: a number as it is written
* `Json`: a document
* `Token`: brackets, punctuation and atoms, of which a text of JSON consists
-/

namespace MessageGateway

/-- A number as it is written. -/
structure Numeral where
  /-- A minus sign stands in front. -/
  negative : Bool
  /-- The number before the point. -/
  whole : Nat
  /-- The digits after the point; none when there is no point. -/
  fraction : List Nat
  /-- The power of ten by which the number is multiplied, when one is written. -/
  exponent : Option Int
  deriving DecidableEq, Repr

/-- The numeral of an integer. -/
def Numeral.ofInt (n : Int) : Numeral :=
  ⟨n < 0, n.natAbs, [], none⟩

/-- A JSON document. -/
inductive Json where
  /-- The word `null`. -/
  | null
  /-- One of the words `true` and `false`. -/
  | bool (b : Bool)
  /-- A number. -/
  | number (n : Numeral)
  /-- A string that is Unicode text. -/
  | text (s : String)
  /-- A string that is not Unicode text. -/
  | garbled
  /-- A list of documents. -/
  | list (items : List Json)
  /-- The members of an object as they are written; a key that is not Unicode text is `none`. -/
  | object (members : List (Option String × Json))
  deriving Repr

namespace Json

/-- The document of an integer. -/
def int (n : Int) : Json :=
  .number (.ofInt n)

/-- The document of a natural number. -/
def nat (n : Nat) : Json :=
  .int n

/-- An object with the given members. -/
def obj (members : List (String × Json)) : Json :=
  .object (members.map fun (k, v) => (some k, v))

/-- The value's document, or `null` when there is no value. -/
def opt {α : Type} (f : α → Json) : Option α → Json
  | none => .null
  | some a => f a

/-- The list of the values' documents. -/
def array {α : Type} (f : α → Json) (as : List α) : Json :=
  .list (as.map f)

end Json

/-- A piece of a text of JSON. -/
inductive Json.Token where
  /-- An opening bracket. -/
  | openList
  /-- A closing bracket. -/
  | closeList
  /-- An opening brace. -/
  | openObject
  /-- A closing brace. -/
  | closeObject
  /-- The colon between key and value. -/
  | colon
  /-- The comma between items or members. -/
  | comma
  /-- The word `null`. -/
  | null
  /-- One of the words `true` and `false`. -/
  | bool (b : Bool)
  /-- A number. -/
  | number (n : Numeral)
  /-- A string, or `none` when it is not Unicode text. -/
  | string (s : Option String)
  deriving DecidableEq, Repr

end MessageGateway
