import MessageGateway.Json.Lexer

/-!
# Reading JSON

A document is assembled from its tokens by an automaton with a stack: the lists and objects that
are still open, innermost first, and what may come next in the innermost one.

## Main definitions

* `Frame`, `Stack`: the documents that are still open
* `ofTokens? ts`: the document that the tokens form
* `read? s`, `readBytes? bs`: the document that a text or bytes spell
-/

namespace MessageGateway.Json

/-- A list or an object that is still open. Items and members are kept last one first. -/
inductive Frame where
  /-- A list and its items so far. -/
  | list (items : List Json)
  /-- An object, its members so far, and the key whose value comes next. -/
  | object (members : List (Option String × Json)) (key : Option String)

/-- What may come next in the innermost open document. -/
inductive Expect where
  /-- A value. -/
  | value
  /-- The first item of a list, or its end. -/
  | firstItem
  /-- The first key of an object, or its end. -/
  | firstKey (members : List (Option String × Json))
  /-- A key. -/
  | key (members : List (Option String × Json))
  /-- The colon after a key. -/
  | colon (members : List (Option String × Json)) (key : Option String)
  /-- A comma or the end, after the value `v`. -/
  | rest (v : Json)

/-- The open documents, innermost first, and what may come next. -/
structure Stack where
  /-- What may come next. -/
  expect : Expect
  /-- The documents around it. -/
  frames : List Frame

/-- The document of a token that is a whole document. -/
def Token.atom? : Token → Option Json
  | .null => some .null
  | .bool b => some (.bool b)
  | .number n => some (.number n)
  | .string (some s) => some (.text s)
  | .string none => some .garbled
  | _ => none

/-- The stack after a token where a value begins. -/
def Stack.begin? (frames : List Frame) : Token → Option Stack
  | .openList => some ⟨.firstItem, frames⟩
  | .openObject => some ⟨.firstKey [], frames⟩
  | t => t.atom?.map fun v => ⟨.rest v, frames⟩

/-- The stack after a token. -/
def Stack.step? : Stack → Token → Option Stack
  | ⟨.value, fs⟩, t => begin? fs t
  | ⟨.firstItem, fs⟩, t =>
    if t = .closeList then some ⟨.rest (.list []), fs⟩ else begin? (.list [] :: fs) t
  | ⟨.firstKey ms, fs⟩, t =>
    match t with
    | .closeObject => some ⟨.rest (.object ms), fs⟩
    | .string k => some ⟨.colon ms k, fs⟩
    | _ => none
  | ⟨.key ms, fs⟩, t =>
    match t with
    | .string k => some ⟨.colon ms k, fs⟩
    | _ => none
  | ⟨.colon ms k, fs⟩, t => if t = .colon then some ⟨.value, .object ms k :: fs⟩ else none
  | ⟨.rest v, .list items :: fs⟩, t =>
    match t with
    | .comma => some ⟨.value, .list (v :: items) :: fs⟩
    | .closeList => some ⟨.rest (.list (v :: items).reverse), fs⟩
    | _ => none
  | ⟨.rest v, .object ms k :: fs⟩, t =>
    match t with
    | .comma => some ⟨.key ((k, v) :: ms), fs⟩
    | .closeObject => some ⟨.rest (.object ((k, v) :: ms).reverse), fs⟩
    | _ => none
  | ⟨.rest _, []⟩, _ => none

/-- The stack after a list of tokens. -/
def Stack.run? (s : Stack) : List Token → Option Stack
  | [] => some s
  | t :: ts => (s.step? t).bind fun s => s.run? ts

/-- The document that is complete, when nothing is open around it. -/
def Stack.result? : Stack → Option Json
  | ⟨.rest v, []⟩ => some v
  | _ => none

/-- The document that the tokens form. -/
def ofTokens? (ts : List Token) : Option Json :=
  (Stack.run? ⟨.value, []⟩ ts).bind Stack.result?

/-- The document that a source spells, with nothing but white space around it. -/
def readSource? (s : Source) : Option Json :=
  (lex? s).bind ofTokens?

/-- The document that a text spells. -/
def read? (s : String) : Option Json :=
  readSource? (.ofString s)

/-- The document that bytes spell. -/
def readBytes? (bs : List UInt8) : Option Json :=
  readSource? (.ofBytes bs)

end MessageGateway.Json
