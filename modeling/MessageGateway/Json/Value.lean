import MessageGateway.Json.Real

/-!
# The meaning of JSON documents

What a document says, apart from how it is written: an object is a finite map, of which the last
of several members with one key counts, and its members are kept in order of their keys.

## Main definitions

* `Value`: the meaning of a document
* `Value.ofJson? v`: the meaning of `v`, if it has one
* `Value.toJson v`: a document of this meaning

## Main results

* `Value.find?_insert_self`, `Value.find?_insert_of_ne`: members after one was put in
-/

namespace MessageGateway

/-- The meaning of a JSON document. -/
inductive Value where
  /-- The word `null`. -/
  | null
  /-- One of the words `true` and `false`. -/
  | bool (b : Bool)
  /-- An integer of 64 bits, signed or unsigned. -/
  | int (n : Int)
  /-- Any other number: the bits of a binary64 number. -/
  | real (bits : UInt64)
  /-- A string. -/
  | text (s : String)
  /-- A list of values. -/
  | list (items : List Value)
  /-- A map, its keys in ascending order. -/
  | map (members : List (String × Value))
  deriving Repr

namespace Value

/-- The string that the value is, if it is one. -/
def asText? : Value → Option String
  | .text s => some s
  | _ => none

/-- The numeral is written as an integer of 64 bits, signed or unsigned. -/
def isWord (n : Numeral) : Bool :=
  n.fraction.isEmpty && n.exponent.isNone &&
    if n.negative then 0 < n.whole && 2 * n.whole ≤ Numeral.wordSize
    else n.whole < Numeral.wordSize

/-- The number that a numeral stands for: an integer if it is written as one and fits. -/
def ofNumeral? (n : Numeral) : Option Value :=
  if isWord n then some (.int (if n.negative then -n.whole else n.whole))
  else n.toFloat?.map fun x => .real x.toBits

/-- The map with `v` under the key `k`. -/
def insert (k : String) (v : Value) : List (String × Value) → List (String × Value)
  | [] => [(k, v)]
  | (l, w) :: ms =>
    if k = l then (k, v) :: ms
    else if k < l then (k, v) :: (l, w) :: ms
    else (l, w) :: insert k v ms

/-- The value under the key `k`. -/
def find? (k : String) (members : List (String × Value)) : Option Value :=
  (members.find? fun m => m.1 == k).map (·.2)

theorem find?_insert_self (k : String) (v : Value) (members : List (String × Value)) :
    find? k (insert k v members) = some v := by
  induction members with
  | nil => simp [insert, find?]
  | cons m members ih =>
    obtain ⟨l, w⟩ := m
    unfold insert
    split
    · simp [find?]
    · next different =>
      split
      · simp [find?]
      · rw [find?, List.find?_cons_of_neg (by simpa using Ne.symm different)]
        exact ih

theorem find?_insert_of_ne {k l : String} (different : k ≠ l) (v : Value)
    (members : List (String × Value)) : find? k (insert l v members) = find? k members := by
  have skip (w : Value) (members : List (String × Value)) :
      find? k ((l, w) :: members) = find? k members := by
    rw [find?, List.find?_cons_of_neg (by simpa using Ne.symm different)]
    rfl
  induction members with
  | nil => exact skip v []
  | cons m members ih =>
    obtain ⟨l', w⟩ := m
    unfold insert
    split
    · next same =>
      subst same
      rw [skip, skip]
    · split
      · exact skip v _
      · unfold find? at ih ⊢
        rw [List.find?_cons, List.find?_cons]
        split
        · rfl
        · exact ih

mutual

/-- The meaning of a document in which lists and objects are nested at most `depth` deep. -/
def ofJson? (depth : Nat) : Json → Option Value
  | .null => some .null
  | .bool b => some (.bool b)
  | .number n => ofNumeral? n
  | .text s => some (.text s)
  | .garbled => none
  | .list items => if depth = 0 then none else (ofItems? (depth - 1) items).map .list
  | .object members =>
    if depth = 0 then none else (ofMembers? (depth - 1) members []).map .map

/-- The meanings of the items of a list. -/
def ofItems? (depth : Nat) : List Json → Option (List Value)
  | [] => some []
  | v :: vs => do return (← ofJson? depth v) :: (← ofItems? depth vs)

/-- The map of the members of an object, added to `acc`. -/
def ofMembers? (depth : Nat) :
    List (Option String × Json) → List (String × Value) → Option (List (String × Value))
  | [], acc => some acc
  | (none, _) :: _, _ => none
  | (some k, v) :: ms, acc => do ofMembers? depth ms (insert k (← ofJson? depth v) acc)

end

mutual

/-- The document of a value. -/
def toJson : Value → Json
  | .null => .null
  | .bool b => .bool b
  | .int n => .int n
  | .real bits => .number (.ofFloat (Float.ofBits bits))
  | .text s => .text s
  | .list items => .list (itemsToJson items)
  | .map members => .object (membersToJson members)

/-- The documents of the items of a list. -/
def itemsToJson : List Value → List Json
  | [] => []
  | v :: vs => toJson v :: itemsToJson vs

/-- The members of the document of a map. -/
def membersToJson : List (String × Value) → List (Option String × Json)
  | [] => []
  | (k, v) :: ms => (some k, toJson v) :: membersToJson ms

end

end Value

end MessageGateway
