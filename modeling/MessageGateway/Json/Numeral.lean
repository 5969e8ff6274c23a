import MessageGateway.Json.Basic
import MessageGateway.Text.Parts

/-!
# Written numbers

The grammar of JSON numbers: no sign but a minus, no leading zero, digits on both sides of a point
and after an exponent mark.

## Main definitions

* `Numeral.write n`: the characters of a numeral
* `Numeral.read? cs`: the numeral that the characters spell
-/

namespace MessageGateway.Numeral

open Text

/-- The value of a decimal digit. -/
def digitValue (c : Char) : Nat :=
  c.toNat - '0'.toNat

/-- The number written by decimal digits. -/
def ofDigits (ds : List Char) : Nat :=
  ds.foldl (fun n c => n * 10 + digitValue c) 0

/-- The digits before the point, and the rest: a leading zero stands alone. -/
def whole? (cs : List Char) : Option (Nat × List Char) :=
  match cs.span isDigit with
  | ([], _) => none
  | (['0'], rest) => some (0, rest)
  | ('0' :: _, _) => none
  | (ds, rest) => some (ofDigits ds, rest)

/-- The digits after a point, when there is one. -/
def fraction? : List Char → Option (List Nat × List Char)
  | '.' :: cs =>
    match cs.span isDigit with
    | ([], _) => none
    | (ds, rest) => some (ds.map digitValue, rest)
  | cs => some ([], cs)

/-- The digits of an exponent. -/
def magnitude? (cs : List Char) : Option Nat :=
  if cs.isEmpty || !cs.all isDigit then none else some (ofDigits cs)

/-- The exponent, when a mark begins one; nothing may follow it. -/
def exponent? : List Char → Option (Option Int)
  | [] => some none
  | c :: cs =>
    if c = 'e' ∨ c = 'E' then
      match cs with
      | '+' :: ds => (magnitude? ds).map fun n => some (n : Int)
      | '-' :: ds => (magnitude? ds).map fun n => some (-(n : Int))
      | ds => (magnitude? ds).map fun n => some (n : Int)
    else none

/-- The numeral that the characters spell, all of them. -/
def read? (cs : List Char) : Option Numeral := do
  let (negative, cs) := match cs with
    | '-' :: cs => (true, cs)
    | cs => (false, cs)
  let (whole, cs) ← whole? cs
  let (fraction, cs) ← fraction? cs
  let exponent ← exponent? cs
  return { negative, whole, fraction, exponent }

/-- The characters of a numeral. -/
def write (n : Numeral) : List Char :=
  (if n.negative then ['-'] else []) ++ Nat.toDigits 10 n.whole ++
  (if n.fraction.isEmpty then [] else '.' :: n.fraction.map Nat.digitChar) ++
  match n.exponent with
  | none => []
  | some e => 'e' :: (if e < 0 then ['-'] else []) ++ Nat.toDigits 10 e.natAbs

end MessageGateway.Numeral
