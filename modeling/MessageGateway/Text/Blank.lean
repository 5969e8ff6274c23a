/-!
# White space

Blank characters are those with the Unicode property White_Space; every trimming and every test
for an empty text in the gateway uses this class and no other.

## Main definitions

* `isBlank c`: `c` is white space
* `trim s`: `s` without the blanks at its two ends
* `isBlankText s`: `s` holds nothing but blanks
-/

namespace MessageGateway.Text

/-- The characters with the Unicode property White_Space. -/
def isBlank (c : Char) : Bool :=
  let n := c.toNat
  (0x09 ≤ n && n ≤ 0x0D) || n == 0x20 || n == 0x85 || n == 0xA0 || n == 0x1680 ||
    (0x2000 ≤ n && n ≤ 0x200A) || n == 0x2028 || n == 0x2029 || n == 0x202F || n == 0x205F ||
    n == 0x3000

/-- The characters left when the blanks at the start are gone. -/
def trimStart (cs : List Char) : List Char :=
  cs.dropWhile isBlank

/-- The characters left when the blanks at both ends are gone. -/
def trimChars (cs : List Char) : List Char :=
  (trimStart (trimStart cs).reverse).reverse

/-- The text without the blanks at its two ends. -/
def trim (s : String) : String :=
  String.ofList (trimChars s.toList)

/-- The text holds nothing but blanks; the empty text is one of them. -/
def isBlankText (s : String) : Bool :=
  s.toList.all isBlank

end MessageGateway.Text
