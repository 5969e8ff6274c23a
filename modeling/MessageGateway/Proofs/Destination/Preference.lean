import MessageGateway.Dispatch.Resolve
import MessageGateway.Proofs.Calls

/-!
# Which of two registered numbers is used

Both forms of a domestic number may be registered, and the form that was given should be preferred.
The network is asked about the candidates in their order, but may answer in any order and about
anything; of what it answers the first usable result is taken. That is the result for the first
registered candidate exactly if the answer begins, as far as it is usable, with that candidate.

## Main definitions

* `ExistenceResult.isUsable`: the network gives an address that can be written to
* `Destination.preferred`: the address of the first candidate that is registered
* `Destination.LedBy numbers results`: the first usable result is about the first of the numbers
  that has one
* `Destination.Resolves`: what a destination stands for when the network answers so

## Main results

* `Destination.find?_isUsable_eq_iff`: when the first usable result is the preferred one
* `Destination.resolve_first_listed`: which address a domestic destination stands for
-/

namespace MessageGateway

/-- The network gives an address that can be written to. -/
def ExistenceResult.isUsable (r : ExistenceResult) : Bool :=
  r.found && !r.address.user.isEmpty

namespace Destination

variable {results results' : List ExistenceResult} {r : ExistenceResult} {numbers : List String}
  {q : String}

/-- The first usable result about the number `q`. -/
def usable? (results : List ExistenceResult) (q : String) : Option ExistenceResult :=
  results.find? fun r => r.isUsable && r.query == q

/-- The result for the first of the numbers that has a usable one. -/
def preferred? (numbers : List String) (results : List ExistenceResult) :
    Option ExistenceResult :=
  numbers.findSome? (usable? results)

/-- The address of the first candidate that is registered, else that of the number as it was
given. -/
def preferred (c : ResolverConfig) (digits : String) (results : List ExistenceResult) : Address :=
  ((preferred? (candidates c digits) results).map (·.address)).getD (userAddress c digits)

/-- The first usable result is about the first of the numbers that has one. -/
def LedBy (numbers : List String) (results : List ExistenceResult) : Prop :=
  ∀ r, results.find? ExistenceResult.isUsable = some r →
    numbers.find? (fun q => (usable? results q).isSome) = some r.query

theorem query_of_usable? (h : usable? results q = some r) : r.query = q := by
  have found := List.find?_some h
  simp only [Bool.and_eq_true, beq_iff_eq] at found
  exact found.2

/-- Nothing about its own number stands before the first usable result. -/
theorem usable?_of_first (h : results.find? ExistenceResult.isUsable = some r) :
    usable? results r.query = some r := by
  obtain ⟨usable, before, after, rfl, none⟩ := List.find?_eq_some_iff_append.1 h
  rw [usable?, List.find?_eq_some_iff_append]
  refine ⟨by simp [usable], before, after, rfl, fun b hb => ?_⟩
  simp [show b.isUsable = false by simpa using none b hb]

/-- Which results are about a number does not depend on those about other numbers. -/
theorem usable?_eq_filter (results : List ExistenceResult) (q : String) :
    usable? results q = (results.filter fun r => r.query == q).find? ExistenceResult.isUsable := by
  rw [usable?, List.find?_filter]
  congr 1
  funext r
  cases r.isUsable <;> simp [BEq.beq]

theorem preferred?_congr
    (h : ∀ q, (results'.filter fun r => r.query == q) = results.filter fun r => r.query == q) :
    preferred? numbers results' = preferred? numbers results := by
  have same : usable? results' = usable? results := by
    funext q
    rw [usable?_eq_filter, usable?_eq_filter, h]
  rw [preferred?, preferred?, same]

/-- **The first usable result is the preferred one** exactly if it is about the first of the numbers
that has one. -/
theorem find?_isUsable_eq_iff :
    results.find? ExistenceResult.isUsable = preferred? numbers results ↔
      LedBy numbers results := by
  cases first : results.find? ExistenceResult.isUsable with
  | none =>
    have nobody : preferred? numbers results = none := by
      refine List.findSome?_eq_none_iff.2 fun q _ => List.find?_eq_none.2 fun r hr => ?_
      simp [List.find?_eq_none.1 first r hr]
    simp [LedBy, first, nobody]
  | some r =>
    have led : LedBy numbers results ↔
        numbers.find? (fun q => (usable? results q).isSome) = some r.query := by
      simp [LedBy, first]
    rw [led, eq_comm, preferred?, List.findSome?_eq_some_iff, List.find?_eq_some_iff_append]
    constructor
    · rintro ⟨before, q, after, split, found, none⟩
      obtain rfl := query_of_usable? found
      exact ⟨by rw [found]; rfl, before, after, split, fun p hp => by rw [none p hp]; rfl⟩
    · rintro ⟨-, before, after, split, none⟩
      refine ⟨before, r.query, after, split, usable?_of_first first, fun p hp => ?_⟩
      simpa using none p hp

/-! ## What a destination stands for -/

variable {c : ResolverConfig} {i : InstanceId} {raw digits : String} {a : Address}

/-- When the network answers with `results` which of the candidates exist, the destination stands
for `a`. -/
def Resolves (c : ResolverConfig) (i : InstanceId) (raw digits : String)
    (results : List ExistenceResult) (a : Address) : Prop :=
  ∀ {σ : Type} (answer : (k : Call) → σ → k.Answer × σ) (s t : σ),
    answer (.probe i (candidates c digits)) s = (.ok results, t) →
      (resolve c i raw).run answer s = (.ok a, t)

/-- The network is asked about the candidates of a domestic number, and if it does not answer the
number is taken as it was given. -/
theorem resolve_of_domestic (h : normalize c raw = .ok (.domestic digits)) :
    resolve c i raw = .ask (.probe i (candidates c digits)) fun
      | .ok results => .done (.ok (choose c digits results))
      | .error _ => .done (.ok (userAddress c digits)) := by
  simp only [resolve, h]
  refine congrArg (Program.ask _) (funext fun x => ?_)
  cases x <;> rfl

/-- A domestic destination stands for what is chosen of the answer. -/
theorem resolves_choose (h : normalize c raw = .ok (.domestic digits)) :
    Resolves c i raw digits results (choose c digits results) := by
  intro σ answer s t asked
  rw [resolve_of_domestic h, Program.run, asked]
  rfl

theorem choose_eq (c : ResolverConfig) (digits : String) (results : List ExistenceResult) :
    choose c digits results =
      ((results.find? ExistenceResult.isUsable).map (·.address)).getD (userAddress c digits) := by
  have same : (fun r : ExistenceResult => r.found && !r.address.user.isEmpty) =
      ExistenceResult.isUsable := rfl
  rw [choose, same]
  cases results.find? ExistenceResult.isUsable <;> rfl

/-- **Which address a domestic destination stands for**: that of the first usable result, whatever
number it is about, or the number as it was given if there is none. If the first usable result is
about the first candidate that has one, then that is the preferred address, and it does not matter
how the results for different candidates are mixed. -/
theorem resolve_first_listed (i : InstanceId) (h : normalize c raw = .ok (.domestic digits))
    (results : List ExistenceResult) :
    ∃ a, Resolves c i raw digits results a ∧
      (∀ before r after, results = before ++ r :: after → r.isUsable = true →
        (∀ b ∈ before, b.isUsable = false) → a = r.address) ∧
      ((∀ r ∈ results, r.isUsable = false) → a = userAddress c digits) ∧
      (LedBy (candidates c digits) results → a = preferred c digits results ∧
        ∀ results', LedBy (candidates c digits) results' →
          (∀ q, (results'.filter fun r => r.query == q) = results.filter fun r => r.query == q) →
            Resolves c i raw digits results' a) := by
  refine ⟨_, resolves_choose h, ?_, ?_, ?_⟩
  · intro before r after split usable unusable
    have first : results.find? ExistenceResult.isUsable = some r :=
      List.find?_eq_some_iff_append.2 ⟨usable, before, after, split, by simpa using unusable⟩
    rw [choose_eq, first]
    rfl
  · intro unusable
    have first : results.find? ExistenceResult.isUsable = none :=
      List.find?_eq_none.2 fun r hr => by simp [unusable r hr]
    rw [choose_eq, first]
    rfl
  · intro led
    rw [choose_eq, find?_isUsable_eq_iff.2 led]
    refine ⟨rfl, fun results' led' same => ?_⟩
    rw [← preferred?_congr same, ← find?_isUsable_eq_iff.2 led', ← choose_eq]
    exact resolves_choose h

namespace Sample

/-- Somebody who says of every number in `results` whether it exists, and nothing else. -/
def network (results : List ExistenceResult) (k : Call) (s : Unit) : k.Answer × Unit :=
  match k with
  | .probe .. => (.ok results, s)
  | k => (k.unanswered, s)

/-- A number that exists. -/
def registered (digits : String) : ExistenceResult :=
  ⟨digits, ⟨digits, "s.whatsapp.net"⟩, true⟩

end Sample

/-- Both forms are registered, and the network tells of the given one first. -/
theorem resolve_first_listed_sample :
    preferred {} "551199998888"
        [Sample.registered "551199998888", Sample.registered "5511999998888"] =
      ⟨"551199998888", "s.whatsapp.net"⟩ ∧
    Resolves {} ⟨"A"⟩ "551199998888" "551199998888"
      [Sample.registered "551199998888", Sample.registered "5511999998888"]
      ⟨"551199998888", "s.whatsapp.net"⟩ := by
  have domestic : normalize {} "551199998888" = .ok (.domestic "551199998888") := by rfl
  obtain ⟨a, resolves, first, -, order⟩ := resolve_first_listed ⟨"A"⟩ domestic
    [Sample.registered "551199998888", Sample.registered "5511999998888"]
  obtain rfl := first [] _ _ rfl (by decide) (by simp)
  have led : LedBy (candidates {} "551199998888")
      [Sample.registered "551199998888", Sample.registered "5511999998888"] := by
    intro r hr
    obtain rfl : Sample.registered "551199998888" = r := Option.some.inj hr
    decide
  exact ⟨(order led).1.symm, resolves⟩

/-- The network tells of the other form first, and then that one is used. -/
theorem resolve_not_preferred :
    ¬∀ (c : ResolverConfig) (i : InstanceId) (raw digits : String)
      (results : List ExistenceResult), normalize c raw = .ok (.domestic digits) →
        Resolves c i raw digits results (preferred c digits results) := by
  intro prefers
  let results := [Sample.registered "5511999998888", Sample.registered "551199998888"]
  have domestic : normalize {} "551199998888" = .ok (.domestic "551199998888") := by rfl
  have run := prefers {} ⟨"A"⟩ "551199998888" "551199998888" results domestic
    (Sample.network results) () () rfl
  have other := resolves_choose (i := ⟨"A"⟩) domestic (Sample.network results) () () rfl
  rw [run] at other
  injection other with same
  injection same with same
  exact absurd same (by decide)

end Destination

end MessageGateway
