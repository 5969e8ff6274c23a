import MessageGateway.JsonForm.Basic
import MessageGateway.Proofs.Identifier
import MessageGateway.Proofs.Json.Parser
import MessageGateway.Proofs.Time.Rfc3339

/-!
# Fields of records are read back

A record is written as an object whose members have different names, so each of its fields is the
member of that name. What a field says is read back by the reader of its type.

## Main definitions

* `Json.restored? toJson ofJson? a`: what is read back from the text of the JSON form of `a`
* `Json.Survives toJson ofJson? a`: that is `a` again

## Main results

* `Json.slots?_obj`: the fields of a record
* `Json.asNat?_nat`, `Json.asInt?_int`, `Json.asBytes?_bytes`, `Json.asOption?_opt`,
  `Json.ofTable?_text`: what fields say
* `Id.ofJson?_toJson`, `Timestamp.ofJson?_toJson`: identifiers and times
-/

namespace MessageGateway

namespace Json

variable {α : Type} {a : α} {toJson : α → Json} {ofJson? : Json → Option α}

/-- What is read back from the text of the JSON form of `a`. -/
def restored? (toJson : α → Json) (ofJson? : Json → Option α) (a : α) : Option α :=
  (read? (toJson a).write).bind ofJson?

/-- The value is read back from the text of its JSON form. -/
def Survives (toJson : α → Json) (ofJson? : Json → Option α) (a : α) : Prop :=
  restored? toJson ofJson? a = some a

/-- A value survives if its JSON form can be written and is read back. -/
theorem Survives.intro (writable : (toJson a).IsWritable) (read : ofJson? (toJson a) = some a) :
    Survives toJson ofJson? a := by
  rw [Survives, restored?, read?_write writable, Option.bind_some, read]

/-! ## Fields -/

variable {members : List (String × Json)} {names : List String} {k : String} {v : Json}

/-- A name that is not repeated is found where it is. -/
theorem filter_names_eq (nodup : (members.map (·.1)).Nodup) (h : (k, v) ∈ members) :
    (members.map fun m => (some m.1, m.2)).filter (fun m => m.1 == some k) = [(some k, v)] := by
  induction members with
  | nil => cases h
  | cons m ms ih =>
    obtain ⟨l, w⟩ := m
    rw [List.map_cons, List.nodup_cons] at nodup
    rcases List.mem_cons.1 h with same | later
    · obtain ⟨rfl, rfl⟩ := Prod.mk.inj same
      have none : (ms.map fun m => (some m.1, m.2)).filter (fun m => m.1 == some k) = [] := by
        rw [List.filter_eq_nil_iff]
        intro x hx
        obtain ⟨m, hm, rfl⟩ := List.mem_map.1 hx
        have different : m.1 ≠ k := fun same => nodup.1 (List.mem_map.2 ⟨m, hm, same⟩)
        simpa using different
      rw [List.map_cons, List.filter_cons_of_pos (by simp), none]
    · have different : l ≠ k := by
        rintro rfl
        exact nodup.1 (List.mem_map.2 ⟨_, later, rfl⟩)
      rw [List.map_cons, List.filter_cons_of_neg (by simpa using different), ih nodup.2 later]

/-- **The fields of a record** are its members in order, if no name is repeated. -/
theorem slots?_obj (same : members.map (·.1) = names) (nodup : names.Nodup) :
    (obj members).slots? names = some (members.map fun m => .given m.2) := by
  subst same
  have named : ((members.map fun m => (some m.1, m.2)).any fun m => m.1.isNone) = false := by
    simp
  have found (ms : List (String × Json)) (sub : ms ⊆ members) :
      (ms.map (·.1)).mapM (slot? (members.map fun m => (some m.1, m.2))) =
        some (ms.map fun m => .given m.2) := by
    induction ms with
    | nil => rfl
    | cons m ms ih =>
      rw [List.cons_subset] at sub
      simp [slot?, filter_names_eq nodup sub.1, ih sub.2]
  rw [obj, slots?, named]
  exact found members (List.Subset.refl _)

namespace Slot

-- proved by rewriting, because checking these by evaluation would evaluate the readers too

@[simp] theorem required?_given (f : Json → Option α) (v : Json) :
    (Slot.given v).required? f = f v := by
  rw [required?]

@[simp] theorem optional?_given (f : Json → Option α) (v : Json) :
    (Slot.given v).optional? f = asOption? f v := by
  rw [optional?]

@[simp] theorem orElse?_given (default : α) (f : Json → Option α) (v : Json) :
    (Slot.given v).orElse? default f = f v := by
  rw [orElse?]

end Slot

/-! ## What fields say -/

@[simp] theorem asText?_text (s : String) : asText? (.text s) = some s :=
  rfl

@[simp] theorem asBool?_bool (b : Bool) : asBool? (.bool b) = some b :=
  rfl

theorem asInteger?_int (n : Int) : asInteger? (.int n) = some n := by
  by_cases neg : n < 0
  · have some : n.natAbs ≠ 0 := by omega
    have same : -(n.natAbs : Int) = n := by omega
    rw [int, Numeral.ofInt, decide_eq_true neg, asInteger?, if_neg some, same]
  · have same : (n.natAbs : Int) = n := by omega
    rw [int, Numeral.ofInt, decide_eq_false neg, asInteger?, same]

theorem asInt?_int {low high n : Int} (h : low ≤ n ∧ n < high) :
    asInt? low high (.int n) = some n := by
  rw [asInt?, asInteger?_int, Option.bind_some, if_pos h]

theorem asNat?_nat {bound n : Nat} (h : n < bound) : asNat? bound (.nat n) = some n := by
  rw [asNat?, nat, asInt?_int (by omega)]
  simp

@[simp] theorem asChar?_singleton (c : Char) : asChar? (.text (String.singleton c)) = some c := by
  simp [asChar?]

theorem asList?_array {β : Type} {f : β → Json} {g : Json → Option β} (h : ∀ b, g (f b) = some b)
    (bs : List β) : asList? g (.array f bs) = some bs := by
  rw [array, asList?]
  induction bs with
  | nil => rfl
  | cons b bs ih => simp [h, ih]

@[simp] theorem asBytes?_bytes (bs : List UInt8) : asBytes? (.bytes bs) = some bs := by
  refine asList?_array (fun b => ?_) bs
  rw [asNat?_nat b.toNat_lt]
  simp

@[simp] theorem isWritable_bytes (bs : List UInt8) : IsWritable (.bytes bs) := by
  simp [bytes]

/-- A value that may be missing is read back, if the reader of values does not take `null`. -/
theorem asOption?_opt (null : ofJson? .null = none) {x : Option α}
    (read : ∀ a, x = some a → ofJson? (toJson a) = some a) :
    asOption? ofJson? (.opt toJson x) = some x := by
  cases x with
  | none => rfl
  | some a =>
    have value := read a rfl
    show asOption? ofJson? (toJson a) = some (some a)
    unfold asOption?
    split
    · next absent =>
      rw [absent, null] at value
      cases value
    · rw [value]
      rfl

@[simp] theorem asOption?_text (s : Option String) :
    asOption? asText? (.opt .text s) = some s :=
  asOption?_opt rfl fun s _ => asText?_text s

@[simp] theorem asOption?_bytes (bs : Option (List UInt8)) :
    asOption? asBytes? (.opt .bytes bs) = some bs :=
  asOption?_opt rfl fun bs _ => asBytes?_bytes bs

/-- An alternative with fields is read back as its name and its document. -/
@[simp] theorem asVariant?_obj (k : String) (v : Json) :
    asVariant? (.obj [(k, v)]) = some (k, v) :=
  rfl

end Json

/-! ## Identifiers and times -/

namespace Id

variable {kind : IdKind}

@[simp] theorem isWritable_toJson (id : Id kind) : id.toJson.IsWritable := by
  simp [toJson]

@[simp] theorem ofJson?_toJson (id : Id kind) : ofJson? id.toJson = some id := by
  have fields : id.toJson.slots? ["ulid"] = some [.given (.text id.bare)] :=
    Json.slots?_obj rfl (by decide)
  simp [ofJson?, fields, ofBare?_bare]

@[simp] theorem asOption?_toJson (id : Option (Id kind)) :
    Json.asOption? ofJson? (.opt toJson id) = some id :=
  Json.asOption?_opt rfl fun id _ => ofJson?_toJson id

end Id

namespace InstanceId

@[simp] theorem isWritable_toJson (i : InstanceId) : i.toJson.IsWritable :=
  Json.isWritable_text _

@[simp] theorem ofJson?_toJson (i : InstanceId) : ofJson? i.toJson = some i :=
  rfl

end InstanceId

namespace Timestamp

variable {t : Timestamp}

@[simp] theorem isWritable_toJson (t : Timestamp) : t.toJson.IsWritable :=
  Json.isWritable_text _

theorem ofJson?_toJson (h : t.InRange) : ofJson? t.toJson = some t := by
  rw [ofJson?, toJson, Json.asText?_text, Option.bind_some, Rfc3339.read?_write h]

theorem asOption?_toJson {t : Option Timestamp} (h : ∀ u, t = some u → u.InRange) :
    Json.asOption? ofJson? (.opt toJson t) = some t :=
  Json.asOption?_opt rfl fun u hu => ofJson?_toJson (h u hu)

end Timestamp

end MessageGateway
