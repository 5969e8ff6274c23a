import MessageGateway.Json.Numeral

/-!
# Texts of JSON as tokens

A text is read one character at a time by an automaton whose mode says what the characters so far
have begun. The source may hold stray bytes, which only strings can contain. Strings take every
character but the control characters; their escapes name UTF-16 code units, and a string is text
when its surrogates pair up and no byte is stray.

## Main definitions

* `Source`: characters and stray bytes
* `lex? s`: the tokens of a source
* `Source.ofBytes bs`: the characters that bytes spell in UTF-8
-/

namespace MessageGateway.Json

/-- A text to be read, in which `none` stands for a byte that belongs to no character. -/
abbrev Source := List (Option Char)

/-- The characters of a text. -/
def Source.ofString (s : String) : Source :=
  s.toList.map some

/-- What a string consists of. -/
inductive Piece where
  /-- A character. -/
  | char (c : Char)
  /-- A code unit that is half of a surrogate pair. -/
  | unit (n : Nat)
  /-- A byte that belongs to no character. -/
  | stray
  deriving DecidableEq, Repr

/-- The character of a pair of surrogates. -/
def ofSurrogates (high low : Nat) : Char :=
  Char.ofNat (0x10000 + (high - 0xD800) * 0x400 + (low - 0xDC00))

/-- The text that the pieces spell: surrogates have to come in pairs. -/
def assemble : List Piece → Option (List Char)
  | [] => some []
  | .char c :: ps => (assemble ps).map (c :: ·)
  | .unit h :: .unit l :: ps =>
    if h < 0xDC00 ∧ 0xDC00 ≤ l then (assemble ps).map (ofSurrogates h l :: ·) else none
  | _ :: _ => none

/-- The piece that a code unit stands for. -/
def Piece.ofUnit (n : Nat) : Piece :=
  if 0xD800 ≤ n ∧ n < 0xE000 then .unit n else .char (Char.ofNat n)

/-- The character that a backslash and a letter stand for. -/
def escaped? : Char → Option Char
  | '"' => some '"'
  | '\\' => some '\\'
  | '/' => some '/'
  | 'b' => some '\x08'
  | 'f' => some '\x0c'
  | 'n' => some '\n'
  | 'r' => some '\r'
  | 't' => some '\t'
  | _ => none

/-- The value of a hexadecimal digit, in either letter case. -/
def hexValue? (c : Char) : Option Nat :=
  if Text.isDigit c then some (c.toNat - '0'.toNat)
  else if 'a' ≤ c ∧ c ≤ 'f' then some (c.toNat - 'a'.toNat + 10)
  else if 'A' ≤ c ∧ c ≤ 'F' then some (c.toNat - 'A'.toNat + 10)
  else none

/-- What the characters so far have begun. The pieces of a string and the characters of a word are
kept last one first. -/
inductive Mode where
  /-- Nothing: a token is complete. -/
  | between
  /-- A number or one of the three words. -/
  | word (cs : List Char)
  /-- A string. -/
  | string (ps : List Piece)
  /-- A backslash in a string. -/
  | escape (ps : List Piece)
  /-- A code unit in a string: its value so far and the digits still to come. -/
  | unit (ps : List Piece) (value left : Nat)
  deriving DecidableEq, Repr

/-- The white space of JSON. -/
def isSpace (c : Char) : Bool :=
  c == ' ' || c == '\t' || c == '\n' || c == '\r'

/-- The token of a character that is a token by itself. -/
def punctuation? : Char → Option Token
  | '[' => some .openList
  | ']' => some .closeList
  | '\x7b' => some .openObject
  | '\x7d' => some .closeObject
  | ':' => some .colon
  | ',' => some .comma
  | _ => none

/-- The token of a word. -/
def word? (cs : List Char) : Option Token :=
  if cs = ['n', 'u', 'l', 'l'] then some .null
  else if cs = ['t', 'r', 'u', 'e'] then some (.bool true)
  else if cs = ['f', 'a', 'l', 's', 'e'] then some (.bool false)
  else (Numeral.read? cs).map .number

/-- The token of a string with the given pieces, last one first. -/
def stringToken (ps : List Piece) : Token :=
  .string ((assemble ps.reverse).map String.ofList)

/-- A character outside strings, when no word is begun: the next mode, and a token if one is
complete. -/
def start? (c : Char) : Option (Mode × List Token) :=
  if isSpace c then some (.between, [])
  else if c = '"' then some (.string [], [])
  else match punctuation? c with
    | some t => some (.between, [t])
    | none => some (.word [c], [])

/-- One character: the next mode and the tokens that it completes. -/
def step? : Mode → Option Char → Option (Mode × List Token)
  | .between, some c => start? c
  | .word cs, some c =>
    if isSpace c || c == '"' || (punctuation? c).isSome then do
      let t ← word? cs.reverse
      let (mode, ts) ← start? c
      return (mode, t :: ts)
    else some (.word (c :: cs), [])
  | .string ps, some c =>
    if c = '"' then some (.between, [stringToken ps])
    else if c = '\\' then some (.escape ps, [])
    else if c.toNat < 0x20 then none
    else some (.string (.char c :: ps), [])
  | .escape ps, some c =>
    if c = 'u' then some (.unit ps 0 4, [])
    else (escaped? c).map fun d => (.string (.char d :: ps), [])
  | .unit ps value left, some c =>
    (hexValue? c).map fun d =>
      if left ≤ 1 then (.string (.ofUnit (value * 16 + d) :: ps), [])
      else (.unit ps (value * 16 + d) (left - 1), [])
  | .string ps, none => some (.string (.stray :: ps), [])
  | _, none => none

/-- The tokens completed by the end of the source. -/
def finish? : Mode → Option (List Token)
  | .between => some []
  | .word cs => (word? cs.reverse).map fun t => [t]
  | _ => none

/-- The tokens of a source that begins in the given mode. -/
def lexFrom? (mode : Mode) : Source → Option (List Token)
  | [] => finish? mode
  | c :: cs => do
    let (mode, ts) ← step? mode c
    return ts ++ (← lexFrom? mode cs)

/-- The tokens of a source. -/
def lex? (s : Source) : Option (List Token) :=
  lexFrom? .between s

/-! ## Bytes -/

/-- The lowest six bits of a byte that continues a character. -/
def tailBits? (b : UInt8) : Option Nat :=
  if 0x80 ≤ b ∧ b < 0xC0 then some (b.toNat % 0x40) else none

/-- The number whose highest bits are `n` and whose others stand in the next bytes. -/
def gather? (n : Nat) : Nat → List UInt8 → Option Nat
  | 0, _ => some n
  | _ + 1, [] => none
  | k + 1, b :: bs => (tailBits? b).bind fun low => gather? (n * 0x40 + low) k bs

/-- The character of the number `n`, unless it is a surrogate or below what its bytes are for. -/
def charOf? (least n : Nat) : Option Char :=
  if least ≤ n ∧ n < 0x110000 ∧ ¬(0xD800 ≤ n ∧ n < 0xE000) then some (Char.ofNat n) else none

/-- The character that begins with the byte `a`, and how many of the next bytes continue it. -/
def leading? (a : UInt8) (rest : List UInt8) : Option (Char × Nat) :=
  let sized (k least high : Nat) : Option (Char × Nat) :=
    ((gather? high k rest).bind (charOf? least)).map fun c => (c, k)
  if a < 0x80 then some (Char.ofNat a.toNat, 0)
  else if a < 0xC0 then none
  else if a < 0xE0 then sized 1 0x80 (a.toNat % 0x20)
  else if a < 0xF0 then sized 2 0x800 (a.toNat % 0x10)
  else if a < 0xF8 then sized 3 0x10000 (a.toNat % 0x08)
  else none

/-- The characters that the bytes spell in UTF-8. A byte that begins no character is stray, and
reading goes on with the byte after it. -/
def Source.ofBytes : List UInt8 → Source
  | [] => []
  | a :: rest =>
    match leading? a rest with
    | some (c, k) => some c :: ofBytes (rest.drop k)
    | none => none :: ofBytes rest
  termination_by bs => bs.length

end MessageGateway.Json
