/-!
# Tables with a key

The rows of a table stand in the order in which their keys came, and no two rows have one key.

## Main definitions

* `Table key`: a table whose rows have the key `key`
* `Table.find?`: the row of a key
* `Table.insert`, `Table.replace`, `Table.put`, `Table.erase`: the writes

## Main results

* `find?_insert`, `find?_replace`, `find?_put`, `find?_erase`: what is found after a write
-/

namespace MessageGateway

/-- Rows of which no two have the same key. -/
structure Table {κ α : Type} (key : α → κ) where
  /-- The rows, in the order in which their keys came. -/
  rows : List α
  /-- No two rows have the same key. -/
  distinct : (rows.map key).Nodup

namespace Table

variable {κ α : Type} {key : α → κ}

@[ext] theorem ext {s t : Table key} (h : s.rows = t.rows) : s = t := by
  cases s; cases t; cases h; rfl

/-- The table without rows. -/
def empty : Table key :=
  ⟨[], .nil⟩

instance : Inhabited (Table key) := ⟨empty⟩

/-- The number of rows. -/
def size (t : Table key) : Nat :=
  t.rows.length

/-- The rows for which `p` holds. -/
def filter (p : α → Bool) (t : Table key) : Table key :=
  ⟨t.rows.filter p, (List.filter_sublist.map key).nodup t.distinct⟩

/-- Every row of which `f` keeps the key, changed by `f`. -/
def map (f : α → α) (hf : ∀ a, key (f a) = key a) (t : Table key) : Table key :=
  ⟨t.rows.map f, by
    have h : key ∘ f = key := funext hf
    rw [List.map_map, h]
    exact t.distinct⟩

variable [DecidableEq κ]

/-- The row with the key `k`. -/
def find? (t : Table key) (k : κ) : Option α :=
  t.rows.find? fun a => decide (key a = k)

/-- A row with the key `k` is there. -/
def contains (t : Table key) (k : κ) : Bool :=
  (t.find? k).isSome

/-- The rows with `a` in the place of the row of its key, if there is one. -/
def replace (t : Table key) (a : α) : Table key :=
  t.map (fun b => if key b = key a then a else b) fun b => by
    by_cases h : key b = key a <;> simp [h]

theorem nodup_append_of_not_contains {t : Table key} {a : α} (h : t.contains (key a) = false) :
    ((t.rows ++ [a]).map key).Nodup := by
  rw [List.map_append, List.nodup_append]
  refine ⟨t.distinct, by simp, fun x hx y hy hxy => ?_⟩
  obtain ⟨b, hb, rfl⟩ := List.mem_map.1 hx
  rw [List.map_singleton, List.mem_singleton] at hy
  rw [contains, find?, Option.isSome_eq_false_iff, Option.isNone_iff_eq_none,
    List.find?_eq_none] at h
  exact h b hb (by simp [hxy, hy])

/-- The rows with `a` after them, unless its key is there. -/
def insert (t : Table key) (a : α) : Table key :=
  if h : t.contains (key a) = false then ⟨t.rows ++ [a], nodup_append_of_not_contains h⟩ else t

/-- The rows with `a` in the place of the row of its key, or after them. -/
def put (t : Table key) (a : α) : Table key :=
  if t.contains (key a) then t.replace a else t.insert a

/-- The rows without the row of the key `k`. -/
def erase (t : Table key) (k : κ) : Table key :=
  t.filter fun a => decide (key a ≠ k)

/-! ## What is found after a write -/

@[simp] theorem find?_empty (k : κ) : (empty : Table key).find? k = none := rfl

theorem key_of_find? {t : Table key} {k : κ} {a : α} (h : t.find? k = some a) : key a = k := by
  simpa using List.find?_some h

/-- A row is found under its key. -/
theorem find?_of_mem {t : Table key} {a : α} (h : a ∈ t.rows) : t.find? (key a) = some a := by
  obtain ⟨rows, distinct⟩ := t
  show rows.find? (fun b => decide (key b = key a)) = some a
  induction rows with
  | nil => cases h
  | cons b bs ih =>
    rw [List.map_cons, List.nodup_cons] at distinct
    rw [List.find?_cons]
    rcases List.mem_cons.1 h with rfl | h
    · simp
    · have other : key b ≠ key a := fun e => distinct.1 (e ▸ List.mem_map_of_mem h)
      rw [decide_eq_false other]
      exact ih distinct.2 h

/-- A row may take its own place. -/
theorem replace_of_mem {t : Table key} {a : α} (h : a ∈ t.rows) : t.replace a = t := by
  refine ext ?_
  show t.rows.map _ = t.rows
  refine (List.map_congr_left fun b hb => ?_).trans (List.map_id _)
  split
  · next same =>
    have found := find?_of_mem hb
    rw [same, find?_of_mem h] at found
    exact Option.some.inj found
  · rfl

theorem mem_of_find? {t : Table key} {k : κ} {a : α} (h : t.find? k = some a) : a ∈ t.rows :=
  List.mem_of_find?_eq_some h

theorem contains_eq_false {t : Table key} {k : κ} (h : ∀ a ∈ t.rows, key a ≠ k) :
    t.contains k = false := by
  rw [contains, Option.isSome_eq_false_iff, Option.isNone_iff_eq_none, find?, List.find?_eq_none]
  intro a ha
  simpa using h a ha

theorem rows_insert {t : Table key} {a : α} (h : t.contains (key a) = false) :
    (t.insert a).rows = t.rows ++ [a] := by
  rw [insert, dif_pos h]

theorem find?_replace (t : Table key) (a : α) (k : κ) :
    (t.replace a).find? k =
      if k = key a then (t.find? k).map fun _ => a else t.find? k := by
  simp only [replace, map, find?]
  generalize t.rows = rows
  induction rows with
  | nil => simp
  | cons b bs ih =>
    rw [List.map_cons, List.find?_cons, List.find?_cons, ih]
    by_cases hb : key b = key a <;> by_cases hk : k = key a <;> by_cases hbk : key b = k <;>
      simp_all

theorem find?_insert (t : Table key) (a : α) (k : κ) :
    (t.insert a).find? k = (t.find? k).or (if key a = k then some a else none) := by
  unfold insert
  split
  · rw [find?, find?, List.find?_append]
    congr 1
    by_cases h : key a = k <;> simp [h]
  · next h =>
    by_cases hk : key a = k
    · subst hk
      rw [contains, Bool.not_eq_false] at h
      obtain ⟨b, hb⟩ := Option.isSome_iff_exists.1 h
      simp [hb]
    · simp [hk]

theorem find?_put (t : Table key) (a : α) (k : κ) :
    (t.put a).find? k = if k = key a then some a else t.find? k := by
  unfold put
  by_cases h : t.contains (key a)
  · rw [if_pos h, find?_replace]
    by_cases hk : k = key a
    · subst hk
      obtain ⟨b, hb⟩ := Option.isSome_iff_exists.1 h
      simp [hb]
    · simp [hk]
  · rw [if_neg h, find?_insert]
    by_cases hk : k = key a
    · subst hk
      have : t.find? (key a) = none := by simpa [contains] using h
      simp [this]
    · have hk' : ¬key a = k := fun e => hk e.symm
      simp [hk, hk']

theorem find?_erase (t : Table key) (k l : κ) :
    (t.erase k).find? l = if l = k then none else t.find? l := by
  rw [erase, filter, find?, find?, List.find?_filter]
  by_cases h : l = k
  · subst h
    rw [if_pos rfl, List.find?_eq_none]
    intro a _
    by_cases ha : key a = l <;> simp [ha]
  · rw [if_neg h]
    congr 1
    funext a
    by_cases ha : key a = l <;> simp_all

end Table

end MessageGateway
