import MessageGateway.Json.Numeral

/-!
# Writing JSON

Documents are written without white space. Strings escape the quote, the backslash and the control
characters, which have short forms where JSON knows one, and leave every other character as it is.

## Main definitions

* `tokens v`: the tokens of a document
* `write v`: the text of a document
* `writeAscii v`: its text with every character beyond ASCII escaped
-/

namespace MessageGateway.Json

mutual

/-- The tokens of a document. -/
def tokens : Json → List Token
  | .null => [.null]
  | .bool b => [.bool b]
  | .number n => [.number n]
  | .text s => [.string (some s)]
  | .garbled => [.string none]
  | .list items => .openList :: itemTokens items
  | .object members => .openObject :: memberTokens members

/-- The tokens of a list after its opening bracket. -/
def itemTokens : List Json → List Token
  | [] => [.closeList]
  | [v] => tokens v ++ [.closeList]
  | v :: w :: vs => tokens v ++ .comma :: itemTokens (w :: vs)

/-- The tokens of an object after its opening brace. -/
def memberTokens : List (Option String × Json) → List Token
  | [] => [.closeObject]
  | [(k, v)] => .string k :: .colon :: tokens v ++ [.closeObject]
  | (k, v) :: m :: ms => .string k :: .colon :: tokens v ++ .comma :: memberTokens (m :: ms)

end

/-- The lower-case hexadecimal digits of `n`, with zeros in front to make four. -/
def hex4 (n : Nat) : List Char :=
  let ds := Nat.toDigits 16 n
  List.replicate (4 - ds.length) '0' ++ ds

/-- A character as it stands in a string. -/
def writeChar (c : Char) : List Char :=
  if c = '"' then ['\\', '"']
  else if c = '\\' then ['\\', '\\']
  else if c = '\n' then ['\\', 'n']
  else if c = '\r' then ['\\', 'r']
  else if c = '\t' then ['\\', 't']
  else if c = '\x08' then ['\\', 'b']
  else if c = '\x0c' then ['\\', 'f']
  else if c.toNat < 0x20 then '\\' :: 'u' :: hex4 c.toNat
  else [c]

/-- A string; one that is not text is written as a lone surrogate. -/
def writeString : Option String → List Char
  | some s => '"' :: s.toList.flatMap writeChar ++ ['"']
  | none => ['"', '\\', 'u', 'd', '8', '0', '0', '"']

/-- The characters of a token. -/
def Token.write : Token → List Char
  | .openList => ['[']
  | .closeList => [']']
  | .openObject => ['\x7b']
  | .closeObject => ['\x7d']
  | .colon => [':']
  | .comma => [',']
  | .null => ['n', 'u', 'l', 'l']
  | .bool true => ['t', 'r', 'u', 'e']
  | .bool false => ['f', 'a', 'l', 's', 'e']
  | .number n => n.write
  | .string s => writeString s

/-- The characters of a document. -/
def writeChars (v : Json) : List Char :=
  v.tokens.flatMap Token.write

/-- The text of a document. -/
def write (v : Json) : String :=
  String.ofList v.writeChars

/-- A character as it stands in ASCII: a code unit, or two when one does not suffice. -/
def escapeWide (c : Char) : List Char :=
  let n := c.toNat
  if n < 0x80 then [c]
  else if n < 0x10000 then '\\' :: 'u' :: hex4 n
  else
    '\\' :: 'u' :: hex4 (0xD800 + (n - 0x10000) / 0x400) ++
    '\\' :: 'u' :: hex4 (0xDC00 + (n - 0x10000) % 0x400)

/-- The text of a document in ASCII: characters beyond it stand only in strings. -/
def writeAscii (v : Json) : String :=
  String.ofList (v.writeChars.flatMap escapeWide)

end MessageGateway.Json
