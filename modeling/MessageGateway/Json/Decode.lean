import MessageGateway.Json.Basic

/-!
# Reading values out of JSON documents

A document is read as a value of a known shape. Integers have to be written as integers, without
fraction, exponent or a minus before zero. A record is read from an object, in which unknown
members are passed over and known ones may not be repeated, or from the list of its fields in
order.

## Main definitions

* `asText?`, `asNat?`, `asInt?`, `asBytes?`, ...: values without parts
* `Slot`, `slots?`: the fields of a record
* `Slot.required?`, `Slot.optional?`, `Slot.orElse?`: what a field says
* `asTag?`, `asVariant?`: the alternative that a document names
-/

namespace MessageGateway.Json

/-- The text that a document is. -/
def asText? : Json → Option String
  | .text s => some s
  | _ => none

/-- The truth value that a document is. -/
def asBool? : Json → Option Bool
  | .bool b => some b
  | _ => none

/-- The integer that a document is; a zero has no minus sign. -/
def asInteger? : Json → Option Int
  | .number ⟨false, whole, [], none⟩ => some whole
  | .number ⟨true, whole, [], none⟩ => if whole = 0 then none else some (-whole)
  | _ => none

/-- The integer from `low` to below `high` that a document is. -/
def asInt? (low high : Int) (v : Json) : Option Int :=
  v.asInteger?.bind fun n => if low ≤ n ∧ n < high then some n else none

/-- The natural number below `bound` that a document is. -/
def asNat? (bound : Nat) (v : Json) : Option Nat :=
  (v.asInt? 0 bound).map Int.toNat

/-- The single character that a document is. -/
def asChar? : Json → Option Char
  | .text s =>
    match s.toList with
    | [c] => some c
    | _ => none
  | _ => none

/-- The values of the items of a list, all of which have to be readable. -/
def asList? {α : Type} (f : Json → Option α) : Json → Option (List α)
  | .list items => items.mapM f
  | _ => none

/-- The bytes that a document lists. -/
def asBytes? (v : Json) : Option (List UInt8) :=
  v.asList? fun b => (b.asNat? 256).map UInt8.ofNat

/-- The document of a list of bytes. -/
def bytes (bs : List UInt8) : Json :=
  .array (fun b => .nat b.toNat) bs

/-! ## Records -/

/-- What a document says about one field of a record. -/
inductive Slot where
  /-- An object without this member. -/
  | absent
  /-- A list that ends before this field. -/
  | short
  /-- The field's document. -/
  | given (v : Json)

/-- The member named `name`, which may not be repeated. -/
def slot? (members : List (Option String × Json)) (name : String) : Option Slot :=
  match members.filter fun m => m.1 == some name with
  | [] => some .absent
  | [m] => some (.given m.2)
  | _ => none

/-- The fields of a record, in order: the members of these names, or the items of a list that is
not longer than they are. -/
def slots? (names : List String) : Json → Option (List Slot)
  | .object members =>
    if members.any fun m => m.1.isNone then none else names.mapM (slot? members)
  | .list items =>
    if names.length < items.length then none
    else some (items.map .given ++ List.replicate (names.length - items.length) .short)
  | _ => none

/-- The value of a field that has to be there. -/
def Slot.required? {α : Type} (f : Json → Option α) : Slot → Option α
  | .given v => f v
  | _ => none

/-- A document that may be `null`, which means that there is no value. -/
def asOption? {α : Type} (f : Json → Option α) : Json → Option (Option α)
  | .null => some none
  | v => (f v).map some

/-- The value of a field that may be `null` or missing from an object, but not from a list. -/
def Slot.optional? {α : Type} (f : Json → Option α) : Slot → Option (Option α)
  | .given v => asOption? f v
  | .absent => some none
  | .short => none

/-- The value of a field that may be missing and then has the value `default`. -/
def Slot.orElse? {α : Type} (default : α) (f : Json → Option α) : Slot → Option α
  | .given v => f v
  | _ => some default

/-! ## Alternatives -/

/-- The name of an alternative without fields: a string, or an object with `null` under it. -/
def asTag? : Json → Option String
  | .text s => some s
  | .object [(some s, .null)] => some s
  | _ => none

/-- The name and the document of an alternative with fields: an object with one member. -/
def asVariant? : Json → Option (String × Json)
  | .object [(some s, v)] => some (s, v)
  | _ => none

/-- The alternative of this name in a table of names. -/
def ofTable? {α : Type} (table : List (String × α)) (v : Json) : Option α :=
  v.asTag?.bind fun s => (table.find? fun e => e.1 == s).map (·.2)

end MessageGateway.Json
