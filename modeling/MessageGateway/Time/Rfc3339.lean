import MessageGateway.Text.Blank
import MessageGateway.Text.Parts
import MessageGateway.Time.Calendar
import MessageGateway.Time.Timestamp

/-!
# RFC 3339 texts of times

Times are written in UTC with the fewest of 0, 3, 6 or 9 fraction digits that are exact. Reading
is more liberal: any offset, blanks around the numbers, numbers without leading zeros, a blank for
the `T`, and years with a sign.

## Main definitions

* `write t`: the text of a time
* `read? s`: the time that a text names
-/

namespace MessageGateway.Rfc3339

open Text

/-- The decimal digits of `n`, with zeros in front to make at least `width` of them. -/
def padded (width n : Nat) : List Char :=
  let ds := Nat.toDigits 10 n
  List.replicate (width - ds.length) '0' ++ ds

/-- Four digits for the years 0 to 9999, and a sign before the digits of all others. -/
def writeYear (year : Int) : List Char :=
  if 0 ≤ year ∧ year ≤ 9999 then padded 4 year.toNat
  else (if year < 0 then '-' else '+') :: padded 4 year.natAbs

/-- The fraction of a second, in the fewest of 0, 3, 6 and 9 digits that are exact. -/
def writeFraction (nanos : Nat) : List Char :=
  if nanos = 0 then []
  else if nanos % 1000000 = 0 then '.' :: padded 3 (nanos / 1000000)
  else if nanos % 1000 = 0 then '.' :: padded 6 (nanos / 1000)
  else '.' :: padded 9 nanos

/-- The time in UTC; a leap second has the number 60. -/
def write (t : Timestamp) : String :=
  let date := Date.ofDays (t.seconds / 86400)
  let ofDay := (t.seconds % 86400).toNat
  let leap := t.nanos / 1000000000
  String.ofList <|
    writeYear date.year ++ '-' :: padded 2 date.month ++ '-' :: padded 2 date.day ++
    'T' :: padded 2 (ofDay / 3600) ++ ':' :: padded 2 (ofDay / 60 % 60) ++
    ':' :: padded 2 (ofDay % 60 + leap) ++ writeFraction (t.nanos % 1000000000) ++ ['Z']

/-! ## Reading -/

/-- The number written by decimal digits. -/
def numeral (ds : List Char) : Nat :=
  ds.foldl (fun n d => n * 10 + (d.toNat - '0'.toNat)) 0

/-- The digits at the start of the text, at least one, and the rest. -/
def digits? (cs : List Char) : Option (List Char × List Char) :=
  match cs.span isDigit with
  | ([], _) => none
  | (ds, rest) => some (ds, rest)

/-- A number of at most `most` digits, after blanks. -/
def number? (most : Nat) (cs : List Char) : Option (Nat × List Char) :=
  (digits? (trimStart cs)).map fun (ds, rest) => (numeral (ds.take most), ds.drop most ++ rest)

/-- The character `c`, after blanks. -/
def mark? (c : Char) (cs : List Char) : Option (List Char) :=
  after? [c] (trimStart cs)

/-- A year after blanks: up to four digits, or any number of them after a sign. -/
def year? (cs : List Char) : Option (Int × List Char) :=
  match trimStart cs with
  | '-' :: cs => (digits? cs).map fun (ds, rest) => (-(numeral ds : Int), rest)
  | '+' :: cs => (digits? cs).map fun (ds, rest) => ((numeral ds : Int), rest)
  | cs => (number? 4 cs).map fun (n, rest) => ((n : Int), rest)

/-- A date that exists, in the years that times can have. -/
def date? (cs : List Char) : Option (Date × List Char) := do
  let (year, cs) ← year? cs
  let (month, cs) ← number? 2 (← mark? '-' cs)
  let (day, cs) ← number? 2 (← mark? '-' cs)
  let date : Date := ⟨year, month, day⟩
  if date.isValid && -262143 ≤ year && year ≤ 262142 then some (date, cs) else none

/-- The character between date and time of day. -/
def separator? : List Char → Option (List Char)
  | c :: cs => if c = 'T' ∨ c = 't' ∨ c = ' ' then some cs else none
  | [] => none

/-- The fraction of a second in nanoseconds, when a point begins one; digits beyond the ninth are
dropped. -/
def fraction? : List Char → Option (Nat × List Char)
  | '.' :: cs => (digits? cs).map fun (ds, rest) =>
      (numeral ((ds ++ List.replicate 9 '0').take 9), rest)
  | cs => some (0, cs)

/-- The time of day: its second, and nanoseconds within it. The second 60 is a leap second. -/
def timeOfDay? (cs : List Char) : Option ((Nat × Nat) × List Char) := do
  let (hour, cs) ← number? 2 cs
  let (minute, cs) ← number? 2 (← mark? ':' cs)
  let (second, cs) ← number? 2 (← mark? ':' cs)
  let (nanos, cs) ← fraction? cs
  if 23 < hour || 59 < minute || 60 < second then none
  else if second = 60 then some ((hour * 3600 + minute * 60 + 59, 1000000000 + nanos), cs)
  else some ((hour * 3600 + minute * 60 + second, nanos), cs)

/-- Two digits, of which the first is at most `most`. -/
def twoDigits? (most : Char) : List Char → Option (Nat × List Char)
  | a :: b :: cs =>
    if isDigit a && a ≤ most && isDigit b then some (numeral [a, b], cs) else none
  | _ => none

/-- An offset from UTC in seconds, after blanks: a letter `Z`, the word `UTC`, or hours and
minutes after a sign, with colons or blanks between them. -/
def offset? (cs : List Char) : Option (Int × List Char) :=
  match trimStart cs with
  | [] => none
  | cs@(c :: rest) =>
    if (cs.take 3).map Char.toUpper = ['U', 'T', 'C'] then some (0, cs.drop 3)
    else if c = 'Z' ∨ c = 'z' then some (0, rest)
    else do
      let sign : Int ←
        if c = '+' then some 1 else if c = '-' ∨ c = '−' then some (-1) else none
      let (hours, rest) ← twoDigits? '9' rest
      let (minutes, rest) ← twoDigits? '5' (rest.dropWhile fun c => c == ':' || isBlank c)
      if 24 ≤ hours then none
      else some (sign * (hours * 3600 + minutes * 60 : Nat), rest)

/-- The time that the text names, when nothing but blanks follows it. -/
def read? (s : String) : Option Timestamp := do
  let (date, cs) ← date? s.toList
  let ((second, nanos), cs) ← timeOfDay? (← separator? cs)
  let (offset, cs) ← offset? cs
  let seconds := date.toDays * 86400 + second - offset
  let utc := (Date.ofDays (seconds / 86400)).year
  if (trimStart cs).isEmpty && -262143 ≤ utc && utc ≤ 262142 then some ⟨seconds, nanos⟩ else none

end MessageGateway.Rfc3339
