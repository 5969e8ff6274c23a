/-!
# Base 32 text of 128-bit values

Identifiers are written as 26 base-32 digits, most significant first, in an alphabet without
`I`, `L`, `O` and `U`. Reading takes both letter cases. 26 digits hold 130 bits; the two highest
are dropped.

## Main definitions

* `digit d`: the character of a digit
* `value? c`: the digit of a character
* `encode v`: the 26 characters of a value
* `decode? cs`: the value of 26 characters
-/

namespace MessageGateway.Identifier.Base32

/-- The digits in order of their values. -/
def alphabet : List Char :=
  "0123456789ABCDEFGHJKMNPQRSTVWXYZ".toList

/-- The character of the digit `d`, which is below 32. -/
def digit (d : Nat) : Char :=
  alphabet.getD d '0'

/-- The digit a character stands for, in either letter case. -/
def value? (c : Char) : Option Nat :=
  alphabet.findIdx? (· == c.toUpper)

/-- How many digits a value is written with. -/
def width : Nat := 26

/-- The `n` lowest base-32 digits of `v`, most significant first. -/
def digits (v : Nat) : Nat → List Char
  | 0 => []
  | n + 1 => digits (v / 32) n ++ [digit (v % 32)]

/-- The text of a value: 26 digits, most significant first. -/
def encode (v : BitVec 128) : List Char :=
  digits v.toNat width

/-- The number written by the characters, continuing from `acc`. -/
def readFrom (acc : Nat) : List Char → Option Nat
  | [] => some acc
  | c :: cs => (value? c).bind fun d => readFrom (acc * 32 + d) cs

/-- The value of exactly 26 digits; what does not fit 128 bits is dropped from the top. -/
def decode? (cs : List Char) : Option (BitVec 128) :=
  if cs.length = width then (readFrom 0 cs).map (BitVec.ofNat 128) else none

@[simp] theorem length_digits (v n : Nat) : (digits v n).length = n := by
  induction n generalizing v with
  | zero => rfl
  | succ n ih => simp [digits, ih]

@[simp] theorem length_encode (v : BitVec 128) : (encode v).length = 26 :=
  length_digits _ _

end MessageGateway.Identifier.Base32
