import MessageGateway.Json.Basic

/-!
# Numbers that are not integers

What a written number stands for when it is no integer: a binary64 number. The digits are taken
into a 64-bit significand as long as they fit, which is then multiplied or divided by a power of
ten. Writing uses the fewest decimal digits that read back.

## Main definitions

* `Numeral.toFloat? n`: the binary64 number of a numeral, if it is finite
* `Numeral.ofFloat x`: a numeral of the fewest digits that stands for `x`
-/

namespace MessageGateway.Numeral

/-- The significand is kept below this. -/
def wordSize : Nat := 0x10000000000000000

/-- Takes digits into a significand as long as it stays below the word size; the rest is left. -/
def absorb (significand : Nat) : List Nat → Nat × List Nat
  | [] => (significand, [])
  | d :: ds =>
    if significand * 10 + d < wordSize then absorb (significand * 10 + d) ds
    else (significand, d :: ds)

/-- The digits of a natural number, most significant first. -/
def digitsOf (n : Nat) : List Nat :=
  (Nat.toDigits 10 n).map fun c => c.toNat - '0'.toNat

/-- The number `x` times the power of ten with exponent `e`, when it is finite. -/
def scale (x : Float) (e : Int) : Option Float :=
  if e.natAbs ≤ 308 then
    let power := Float.ofScientific 1 false e.natAbs
    let y := if 0 ≤ e then x * power else x / power
    if y.isInf then none else some y
  else if x == 0.0 then some x
  else if 0 ≤ e then none
  else scale (x / 1e308) (e + 308)
  termination_by e.natAbs
  decreasing_by omega

/-- The binary64 number that a numeral stands for. -/
def toFloat? (n : Numeral) : Option Float :=
  let (high, dropped) := absorb 0 (digitsOf n.whole)
  let (significand, left) := absorb high n.fraction
  let taken := n.fraction.length - left.length
  let e : Int := dropped.length - taken + n.exponent.getD 0
  (scale significand.toUInt64.toFloat e).map fun x => if n.negative then -x else x

/-! ## Writing -/

/-- The quotient rounded to the nearest integer, a half upwards. -/
def roundDiv (a b : Nat) : Nat :=
  (2 * a + b) / (2 * b)

/-- The decimal exponent of the first digit of `a / b`. -/
def leadingExponent (a b : Nat) : Int :=
  if b ≤ a then (Nat.toDigits 10 (a / b)).length - 1
  else -((Nat.toDigits 10 (b / a)).length : Int)

/-- The numeral of the fewest digits, at least `used`, that is nearest to `a / b` and reads back as
`x`; `left` bounds the digits still to be tried. -/
def shortestFrom (x : Float) (a b used : Nat) : Nat → Nat × Int
  | 0 => (0, 0)
  | left + 1 =>
    let e : Int := leadingExponent a b - used + 1
    let power := Nat.pow 10 e.natAbs
    let c := if 0 ≤ e then roundDiv a (b * power) else roundDiv (a * power) b
    if left = 0 ∨ Float.ofScientific c (e < 0) e.natAbs == x then (c, e)
    else shortestFrom x a b (used + 1) left

/-- The first bit of a significand, which is not stored. -/
def leadingBit : Nat := 0x10000000000000

/-- A numeral of the fewest digits that stands for the finite number `x`. -/
def ofFloat (x : Float) : Numeral :=
  let bits := x.toBits.toNat
  let fraction := bits % leadingBit
  let power := bits / leadingBit % 2048
  let m := if power = 0 then fraction else fraction + leadingBit
  let q := max power 1
  let (c, e) :=
    if m = 0 then (0, 0)
    else if 1075 ≤ q then shortestFrom x.abs (m <<< (q - 1075)) 1 1 17
    else shortestFrom x.abs m (1 <<< (1075 - q)) 1 17
  ⟨bits / leadingBit / 2048 = 1, c, [], some e⟩

end MessageGateway.Numeral
