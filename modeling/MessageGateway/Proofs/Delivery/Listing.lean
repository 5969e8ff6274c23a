import MessageGateway.Proofs.Delivery.Recovery
import Mathlib.Data.List.Perm.Subperm

/-!
# The list of unfinished records

The records whose delivery is not over are listed by the time they were made, then by identifier,
and a query takes the first ones of the list. Which names stand in the list, and in which order,
depends only on whose delivery is over: payloads and the other columns play no part.

## Main definitions

* `MessageStore.Waits`: the delivery of a message is not over
* `MessageStore.listing`: all records whose delivery is not over, in their order
* `MessageStore.place`: where a record stands in that list, counted from one

## Main results

* `MessageStore.mem_pending_iff`: a query finds the records whose place is within its limit
* `MessageStore.map_id_listing_eq`: as long as the same messages wait, they are listed alike
-/

namespace MessageGateway

namespace Message

variable {a b a' b' : Message}

/-- Of two records with different names only one is listed before the other. -/
theorem id_eq_of_listedBefore (h : a.listedBefore b = true) (h' : b.listedBefore a = true) :
    a.id = b.id := by
  rw [listedBefore_iff] at h h'
  have value : a.id.value.toNat = b.id.value.toNat := by omega
  exact congrArg Id.mk (BitVec.eq_of_toNat_eq value)

theorem listedBefore_self (a : Message) : a.listedBefore a = true := by
  have total := listedBefore_total a a
  rwa [Bool.or_self] at total

/-- The order of two records is that of their times and names. -/
theorem listedBefore_congr (ha : a'.created = a.created) (ha' : a'.id = a.id)
    (hb : b'.created = b.created) (hb' : b'.id = b.id) :
    a'.listedBefore b' = a.listedBefore b := by
  rw [listedBefore, listedBefore, ha, ha', hb, hb']

/-- Of records that are listed in their order, those are the first `n` before which, themselves
included, at most `n` are listed. -/
theorem mem_take_iff {l : List Message} {n : Nat}
    (sorted : l.Pairwise fun a b => a.listedBefore b = true) (distinct : (l.map id).Nodup)
    (ha : a ∈ l) : a ∈ l.take n ↔ (l.filter fun b => b.listedBefore a).length ≤ n := by
  obtain ⟨before, after, rfl⟩ := List.append_of_mem ha
  rw [List.pairwise_append] at sorted
  obtain ⟨-, behind, across⟩ := sorted
  rw [List.map_append, List.nodup_append, List.map_cons, List.nodup_cons] at distinct
  obtain ⟨-, ⟨later, -⟩, apart⟩ := distinct
  have absent : a ∉ before := fun h =>
    apart a.id (List.mem_map_of_mem h) a.id List.mem_cons_self rfl
  have front : before.filter (fun b => b.listedBefore a) = before :=
    List.filter_eq_self.2 fun b hb => across b hb a List.mem_cons_self
  have back : after.filter (fun b => b.listedBefore a) = [] := by
    refine List.filter_eq_nil_iff.2 fun b hb h => later ?_
    rw [← id_eq_of_listedBefore h (List.rel_of_pairwise_cons behind hb)]
    exact List.mem_map_of_mem hb
  rw [List.filter_append, front, List.filter_cons, if_pos (listedBefore_self a), back,
    List.length_append, List.length_singleton, List.take_append, List.mem_append]
  constructor
  · rintro (h | h)
    · exact absurd (List.mem_of_mem_take h) absent
    · by_contra more
      rw [show n - before.length = 0 by omega] at h
      cases h
  · intro enough
    refine .inr ?_
    obtain ⟨k, eq⟩ : ∃ k, n - before.length = k + 1 := ⟨n - before.length - 1, by omega⟩
    rw [eq, List.take_succ_cons]
    exact List.mem_cons_self

end Message

namespace MessageStore

variable {s t : MessageStore} {r : Message} {x : MessageId} {batch : Nat}

/-- The delivery of the message is not over. -/
def Waits (s : MessageStore) (x : MessageId) : Prop :=
  ∃ r, s.find? x = some r ∧ r.status.isTerminal = false

/-- The records whose delivery is not over, in their order. -/
def listing (s : MessageStore) : List Message :=
  s.unfinished.mergeSort Message.listedBefore

/-- The place of a record in the list, counted from one. -/
def place (s : MessageStore) (r : Message) : Nat :=
  (s.unfinished.filter fun a => a.listedBefore r).length

/-- A query takes the first ones of the list. -/
theorem pending_eq (s : MessageStore) (batch : Nat) : s.pending batch = s.listing.take batch := rfl

theorem length_pending (s : MessageStore) (batch : Nat) :
    (s.pending batch).length = min batch s.unfinished.length := by
  rw [pending_eq, List.length_take, listing, List.length_mergeSort]

theorem mem_listing :
    r ∈ s.listing ↔ s.find? r.id = some r ∧ r.status.isTerminal = false := by
  rw [listing, List.mem_mergeSort, mem_unfinished]

theorem mem_map_id_listing : x ∈ s.listing.map Message.id ↔ s.Waits x := by
  rw [List.mem_map]
  constructor
  · rintro ⟨r, hr, rfl⟩
    exact ⟨r, mem_listing.1 hr⟩
  · rintro ⟨r, found, waits⟩
    obtain rfl := Table.key_of_find? found
    exact ⟨r, mem_listing.2 ⟨found, waits⟩, rfl⟩

theorem pairwise_listing (s : MessageStore) :
    s.listing.Pairwise fun a b => a.listedBefore b = true :=
  List.pairwise_mergeSort Message.listedBefore_trans Message.listedBefore_total _

/-- Every name stands in the list once. -/
theorem nodup_map_id_listing (s : MessageStore) : (s.listing.map Message.id).Nodup :=
  ((List.mergeSort_perm _ _).map _).nodup_iff.2
    ((List.filter_sublist.map _).nodup s.distinct)

/-- **What a query finds**: the records whose place in the list is within the limit. -/
theorem mem_pending_iff : r ∈ s.pending batch ↔
    (s.find? r.id = some r ∧ r.status.isTerminal = false) ∧ s.place r ≤ batch := by
  have place : (s.listing.filter fun a => a.listedBefore r).length = s.place r :=
    ((List.mergeSort_perm _ _).filter _).length_eq
  rw [← mem_listing, ← place, pending_eq]
  constructor
  · intro taken
    have hr := List.mem_of_mem_take taken
    exact ⟨hr, (Message.mem_take_iff s.pairwise_listing s.nodup_map_id_listing hr).1 taken⟩
  · rintro ⟨hr, within⟩
    exact (Message.mem_take_iff s.pairwise_listing s.nodup_map_id_listing hr).2 within

theorem mem_map_id_pending : x ∈ (s.pending batch).map Message.id ↔
    ∃ r, s.find? x = some r ∧ r.status.isTerminal = false ∧ s.place r ≤ batch := by
  rw [List.mem_map]
  constructor
  · rintro ⟨r, hr, rfl⟩
    obtain ⟨⟨found, waits⟩, within⟩ := mem_pending_iff.1 hr
    exact ⟨r, found, waits, within⟩
  · rintro ⟨r, found, waits, within⟩
    obtain rfl := Table.key_of_find? found
    exact ⟨r, mem_pending_iff.2 ⟨⟨found, waits⟩, within⟩, rfl⟩

/-- A query finds all unfinished records if and only if they are within its limit. -/
theorem forall_mem_pending_iff : (∀ r ∈ s.unfinished, r.id ∈ (s.pending batch).map Message.id) ↔
    s.unfinished.length ≤ batch := by
  constructor
  · intro all
    have distinct : (s.unfinished.map Message.id).Nodup :=
      (List.filter_sublist.map _).nodup s.distinct
    have subset : s.unfinished.map Message.id ⊆ (s.pending batch).map Message.id := by
      intro x hx
      obtain ⟨r, hr, rfl⟩ := List.mem_map.1 hx
      exact all r hr
    have le := (List.subperm_of_subset distinct subset).length_le
    rw [List.length_map, List.length_map, length_pending] at le
    exact le.trans (Nat.min_le_left _ _)
  · intro enough r hr
    exact List.mem_map_of_mem ((pending_perm enough).mem_iff.2 hr)

/-- **As long as the same messages wait, they are listed alike.** -/
theorem map_id_listing_eq (waits : ∀ x, t.Waits x ↔ s.Waits x)
    (created : ∀ x a b, s.find? x = some a → t.find? x = some b → b.created = a.created) :
    t.listing.map Message.id = s.listing.map Message.id := by
  -- names are compared by the records that the first store has of them
  let before (x y : MessageId) : Prop :=
    ∃ a b, s.find? x = some a ∧ s.find? y = some b ∧ a.listedBefore b = true
  have sorted : (s.listing.map Message.id).Pairwise before := by
    rw [List.pairwise_map]
    refine s.pairwise_listing.imp_of_mem fun {a b} ha hb h => ?_
    exact ⟨a, b, (mem_listing.1 ha).1, (mem_listing.1 hb).1, h⟩
  have sorted' : (t.listing.map Message.id).Pairwise before := by
    rw [List.pairwise_map]
    refine t.pairwise_listing.imp_of_mem fun {a b} ha hb h => ?_
    obtain ⟨a₀, foundA, -⟩ := (waits a.id).1 ⟨a, mem_listing.1 ha⟩
    obtain ⟨b₀, foundB, -⟩ := (waits b.id).1 ⟨b, mem_listing.1 hb⟩
    refine ⟨a₀, b₀, foundA, foundB, ?_⟩
    rwa [← Message.listedBefore_congr (created _ _ _ foundA (mem_listing.1 ha).1)
      (Table.key_of_find? foundA).symm (created _ _ _ foundB (mem_listing.1 hb).1)
      (Table.key_of_find? foundB).symm]
  have same : (t.listing.map Message.id).Perm (s.listing.map Message.id) := by
    refine (List.perm_ext_iff_of_nodup t.nodup_map_id_listing s.nodup_map_id_listing).2 fun x => ?_
    rw [mem_map_id_listing, mem_map_id_listing, waits]
  refine same.eq_of_pairwise (fun x y _ _ hxy hyx => ?_) sorted' sorted
  obtain ⟨a, b, foundX, foundY, h⟩ := hxy
  obtain ⟨b', a', foundY', foundX', h'⟩ := hyx
  rw [foundX] at foundX'
  rw [foundY] at foundY'
  cases foundX'
  cases foundY'
  rw [← Table.key_of_find? foundX, ← Table.key_of_find? foundY]
  exact Message.id_eq_of_listedBefore h h'

end MessageStore

end MessageGateway
