/-!
# Parts of a text

Looking for one text inside another and taking a text apart at a character, on lists of
characters.

## Main definitions

* `occurs needle cs`: `needle` stands somewhere in `cs`
* `cut? c cs`: the characters before and after the first `c`
* `after? lead cs`, `before? tail cs`: what follows a given beginning, what precedes a given end
-/

namespace MessageGateway.Text

/-- The characters of `needle` stand next to each other, in order, somewhere in the text. -/
def occurs (needle : List Char) : List Char → Bool
  | [] => needle.isEmpty
  | c :: cs => needle.isPrefixOf (c :: cs) || occurs needle cs

/-- The characters before the first `c` and those after it, when `c` is there. -/
def cut? (c : Char) : List Char → Option (List Char × List Char)
  | [] => none
  | d :: cs => if d = c then some ([], cs) else (cut? c cs).map fun (l, r) => (d :: l, r)

/-- What follows the beginning `lead`, when the text begins so. -/
def after? : List Char → List Char → Option (List Char)
  | [], cs => some cs
  | _ :: _, [] => none
  | l :: ls, c :: cs => if l = c then after? ls cs else none

/-- What precedes the end `tail`, when the text ends so. -/
def before? (tail cs : List Char) : Option (List Char) :=
  (after? tail.reverse cs.reverse).map List.reverse

/-- The ten characters `0` to `9`. -/
def isDigit (c : Char) : Bool :=
  '0' ≤ c && c ≤ '9'

/-- A lower-case ASCII letter in place of each upper-case one. -/
def lowerAscii (s : String) : String :=
  String.ofList (s.toList.map Char.toLower)

/-- Taking a text apart loses the one character it was cut at and nothing else. -/
theorem eq_append_of_cut? {c : Char} {cs l r : List Char} (h : cut? c cs = some (l, r)) :
    cs = l ++ c :: r := by
  induction cs generalizing l with
  | nil => simp [cut?] at h
  | cons d cs ih =>
    simp only [cut?] at h
    split at h
    · cases h; simp_all
    · obtain ⟨⟨l', r'⟩, h', e⟩ := Option.map_eq_some_iff.1 h
      cases e
      simp [ih h']

theorem after?_eq_some_iff {lead cs rest : List Char} :
    after? lead cs = some rest ↔ cs = lead ++ rest := by
  induction lead generalizing cs with
  | nil => simp [after?, eq_comm]
  | cons l ls ih =>
    cases cs with
    | nil => simp [after?]
    | cons c cs => by_cases h : l = c <;> simp [after?, h, ih, eq_comm]

end MessageGateway.Text
