import MessageGateway.Proofs.Delivery.Guarantees
import MessageGateway.Proofs.Dispatch.Conduct

/-!
# Tenants on one message store

All tenants share one message store, and a send or an event may name the message that it is about.
That name alone says which record is continued: it is not compared with the tenant. So what an
operation does for one tenant leaves the records of all others alone, but for the one record that
it names.

## Main definitions

* `Delivery.Operation.tenant?`, `Delivery.Operation.key?`: for whom an operation works, and the
  name that it was given
* `Delivery.Apart i x`: what a call for the tenant `i`, given the name `x`, does to the records

## Main results

* `Delivery.ensures_about`: an operation for a tenant stores only what it is about
* `Delivery.tenants_apart`: what operations for one tenant do to the records of others
-/

namespace MessageGateway

open Program Setting Conduct

/-- The name under which a call looks a record up. -/
def Call.sought? : Call → Option MessageId
  | .findMessage x => some x
  | _ => none

/-- The call that has stored a record was to store it. -/
theorem Entry.record?_of_written? {p : Party} {c : Call} {a : c.Answer} {r : Message}
    (h : Entry.written? ⟨p, c, a⟩ = some r) : c.record? = some r := by
  unfold Entry.written? at h
  split at h
  · next eq => cases eq; exact h
  · next eq => cases eq; exact h
  · cases h

namespace Delivery

/-- The tenant for whom a message is sent. -/
def Operation.tenant? : Operation → Option InstanceId
  | .send input => some input.owner
  | .process e => some e.owner
  | _ => none

/-- The name that a send or an event gives to its message. -/
def Operation.key? : Operation → Option MessageId
  | .send input => input.id
  | .process e => some e.id
  | _ => none

variable {i : InstanceId} {x : Option MessageId} {t : Trace}

/-! ## What is looked up -/

/-- Records are looked up under the name `x` only. -/
def Seeks (x : Option MessageId) (c : Call) : Prop :=
  ∀ y, c.sought? = some y → x = some y

theorem seeks_of_sought?_eq_none {c : Call} (h : c.sought? = none) : Seeks x c := by
  intro y hy
  rw [h] at hy
  cases hy

theorem seeks_find {y : MessageId} (h : x = some y) : Seeks x (.findMessage y) := by
  rintro _ ⟨⟩
  exact h

theorem sought?_of_isPreparation {c : Call} (h : c.isPreparation = true) : c.sought? = none := by
  cases c <;> first | rfl | cases h

section

attribute [local irreducible] Program.Only

theorem send_seeks (c : GatewayConfig) (input : SendInput) :
    (send c input).Only (Seeks input.id) := by
  have other {c : Call} (h : c.sought? = none) : Seeks input.id c := seeks_of_sought?_eq_none h
  exact Dispatch.send_only c input (fun _ => seeks_find) (other rfl) (other rfl)
    (fun _ => other rfl) (fun _ h => other (sought?_of_isPreparation h)) (other rfl)
    (fun _ => other rfl) (fun _ => other rfl) fun _ _ => other rfl

theorem input_of_event {e : QueueEvent} {input : SendInput}
    (h : SendInput.ofEvent e = .ok input) : input.owner = e.owner ∧ input.id = some e.id := by
  unfold SendInput.ofEvent at h
  cases content : Content.ofEvent e with
  | ok content' =>
    rw [content] at h
    cases h
    exact ⟨rfl, rfl⟩
  | error d =>
    rw [content] at h
    cases h

theorem processEvent_seeks (c : GatewayConfig) (e : QueueEvent) :
    (processEvent c e).Only (Seeks (some e.id)) := by
  refine processEvent_only c e (fun input h => ?_) (failPending_only e.id (seeks_find rfl)
    (seeks_of_sought?_eq_none rfl) fun _ => seeks_of_sought?_eq_none rfl)
  have sent := send_seeks c input
  rw [(input_of_event h).2] at sent
  exact sent

/-- An operation for a tenant looks for no record but that of its name. -/
theorem program_seeks (c : GatewayConfig) {op : Operation} (tenant : op.tenant? = some i) :
    (op.program c).Only (Seeks op.key?) := by
  cases op with
  | send input => exact Only.map (send_seeks c input)
  | process e => exact Only.map (processEvent_seeks c e)
  | submit | giveUp | sweep => cases tenant

end

/-! ## What is stored -/

/-- What surrounds an operation for the tenant `i` with the name `x`: it stores only records of the
message that it is about. -/
def errand (i : InstanceId) (x : Option MessageId) : Setting Trace :=
  traced (fun e => e.isHonest = true) fun c t => ∀ r, c.record? = some r → About i x t r

theorem ensures_giveUp (y : MessageId) :
    (errand i (some y)).Ensures (fun _ _ => True) (failPending y) t := by
  have find : (errand i (some y)).Ensures
      (fun a u => ∀ m, a = .ok (some m) → Conduct.found? u = some m) (findMessage y) t := by
    refine ensures_call (fun r hr => by cases hr) fun a _ => ?_
    rintro m rfl
    rw [found?_cons]
    rfl
  refine find.bindOrFail (fun found u _ hQ => ?_) fun _ _ _ _ => trivial
  cases found with
  | none => exact ensures_pure fun _ _ => trivial
  | some m =>
    dsimp only
    split
    · exact ensures_pure fun _ _ => trivial
    · have known := hQ u rfl m rfl
      have moved : (errand i (some y)).Ensures
          (fun r v => ∀ m', r = .ok m' → About i (some y) v m')
          (do return m.transition .failed (← now)) u := by
        have clock : (errand i (some y)).Ensures (fun _ v => Conduct.found? v = some m) now u := by
          refine ensures_call (fun r hr => by cases hr) fun time _ => ?_
          rw [found?_cons]
          exact known
        refine clock.bind fun time v _ hQ => ensures_done fun m' eq => ?_
        unfold About
        rw [hQ v rfl]
        exact same_of_transition eq
      refine moved.bindOrFail (fun m' v _ hQ => ?_) fun _ _ _ _ => trivial
      have update : (errand i (some y)).Ensures (fun _ _ => True) (updateMessage m') v := by
        refine ensures_call ?_ fun _ _ => trivial
        rintro _ ⟨⟩
        exact hQ v rfl m' rfl
      exact update.bindOrFail (fun _ _ _ _ => ensures_pure fun _ _ => trivial)
        fun _ _ _ _ => trivial

theorem ensures_sent (c : GatewayConfig) (input : SendInput) :
    (errand input.owner input.id).Ensures
      (fun res t => ∀ r, handed? res = some r → About input.owner input.id t r)
      (send c input) [] := by
  have sent := (Conduct.ensures_send c input).mono fun res t _ left => left.2
  exact Ensures.allow sent fun _ _ may => may.2

section

attribute [local irreducible] Setting.Ensures

/-- **An operation for a tenant stores only what it is about**, and so is what it hands back. -/
theorem ensures_about (c : GatewayConfig) {op : Operation} (tenant : op.tenant? = some i) :
    (errand i op.key?).Ensures
      (fun o t => ∀ res r, o = .sent res → handed? res = some r → About i op.key? t r)
      (op.program c) [] := by
  cases op with
  | send input =>
    cases tenant
    refine (ensures_sent c input).map fun res t _ about => ?_
    rintro _ r ⟨⟩ handed
    exact about r handed
  | process e =>
    cases tenant
    suffices processed : (errand e.owner (some e.id)).Ensures (fun _ _ => True)
        (processEvent c e) [] from processed.map fun _ t _ _ => by rintro _ _ ⟨⟩
    have giveUp (t : Trace) : (errand e.owner (some e.id)).Ensures (fun _ _ => True)
        (do let _ ← bestEffort (failPending e.id)) t :=
      (ensures_giveUp e.id).bindBestEffort fun _ _ _ _ => ensures_pure fun _ _ => trivial
    unfold processEvent
    split
    · exact giveUp []
    · next input h =>
      have sent := ensures_sent c input
      rw [(input_of_event h).1, (input_of_event h).2] at sent
      refine sent.bind fun r t _ _ => ?_
      cases r with
      | ok m => exact ensures_pure fun _ _ => trivial
      | error failure =>
        dsimp only
        split
        · exact giveUp t
        · exact ensures_pure fun _ _ => trivial
  | submit | giveUp | sweep => cases tenant

end

/-! ## Runs -/

variable {c : GatewayConfig} {ops : Party → Operation} {m : Memory} {σ τ : System Outcome}
  {p : Party}

/-- The message store tells truly which record it has made. -/
theorem Run.isHonest (run : System.Run service (begin c ops m) σ) :
    ∀ e ∈ System.trace p σ.log, e.isHonest = true := by
  rintro ⟨call, a⟩ he
  obtain ⟨u, m', -, -, served⟩ := run.exists_answered he
  cases call with
  | createMessage r =>
    obtain ⟨-, rfl⟩ | ⟨e, rfl, -⟩ := service_createMessage served
    · exact decide_eq_true rfl
    · rfl
  | _ => rfl

/-- A record that a party has found is stored from then on, as a record of the same message. -/
theorem Run.stored_of_found (run : System.Run service (begin c ops m) σ)
    (seeks : ∀ e ∈ System.trace p σ.log, Seeks x e.call) {r : Message}
    (found : Conduct.found? (System.trace p σ.log) = some r) :
    x = some r.id ∧ ∃ r', (store σ.toScene).find? r.id = some r' ∧ r.Same r' := by
  obtain ⟨e, he, found⟩ := List.exists_of_findSome?_eq_some found
  have sought := seeks e he
  obtain ⟨u, m', run', after, served⟩ := run.exists_answered he
  unfold Exchange.found? at found
  split at found
  · next y known =>
    subst found
    obtain ⟨answered, -⟩ := service_findMessage served
    have stored := (Except.ok.inj answered).symm
    obtain rfl := Table.key_of_find? stored
    obtain ⟨r', stored', continues⟩ := Run.continues run' after stored
    exact ⟨sought _ rfl, r', stored', continues.toSame⟩
  · cases found

/-- What an operation is about is of its tenant, or it is the record of its name. -/
theorem Run.owner_of_about (run : System.Run service (begin c ops m) σ)
    (tenant : (ops p).tenant? = some i) {r : Message}
    (about : About i (ops p).key? (System.trace p σ.log) r) :
    r.owner = i ∨ (ops p).key? = some r.id ∧
      ∃ r', (store σ.toScene).find? r.id = some r' ∧ r'.owner = r.owner := by
  unfold About at about
  split at about
  · next r₀ found =>
    obtain ⟨key, r', stored, same⟩ :=
      Run.stored_of_found run ((run.made p).only (program_seeks c tenant)) found
    rw [about.id]
    exact .inr ⟨key, r', stored, same.owner.trans about.owner.symm⟩
  · exact .inl about.1

/-- What a call for the tenant `i`, given the name `x`, does to the records `s`, of which it makes
`t`. -/
structure Apart (i : InstanceId) (x : Option MessageId) (s t : MessageStore) : Prop where
  /-- The records of other tenants stay as they are, but for that of the name. -/
  kept : ∀ y r, s.find? y = some r → r.owner ≠ i → x ≠ some y → t.find? y = some r
  /-- No record is lost or changes hands. -/
  owner : ∀ y r, s.find? y = some r → ∃ r', t.find? y = some r' ∧ r'.owner = r.owner
  /-- New records are of the tenant. -/
  made : ∀ y r, s.find? y = none → t.find? y = some r → r.owner = i

/-- **Tenants on one store**: whatever runs at the same time, no call of an operation touches the
record of another tenant, and nothing of another tenant is handed back; unless the operation was
given the name of that record. -/
theorem tenants_apart (run : System.Run service (begin c ops m) σ)
    (tenant : (ops p).tenant? = some i) :
    (∀ call rest a m', σ.parties p = .ask call rest → service σ.memory call a m' →
      Apart i (ops p).key? (store σ.toScene) m'.messages) ∧
    ∀ res r, σ.parties p = .done (.sent res) → handed? res = some r →
      r.owner = i ∨ (ops p).key? = some r.id ∧
        ∃ r', (store σ.toScene).find? r.id = some r' ∧ r'.owner = r.owner := by
  have ensures := ((run.made p).ensures (ensures_about c tenant) (Run.isHonest run)).2
  constructor
  · intro call rest a m' left served
    rw [left] at ensures
    have may := (ensures _ rfl).1
    have step : System.Step service σ (σ.next p call a m' (rest a)) := .call left served
    have forward : ∀ y r, (store σ.toScene).find? y = some r →
        ∃ r', m'.messages.find? y = some r' ∧ r.Continues r' :=
      fun y r stored => Run.continues run (.single step) stored
    have owner : ∀ y r, (store σ.toScene).find? y = some r →
        ∃ r', m'.messages.find? y = some r' ∧ r'.owner = r.owner := by
      intro y r stored
      obtain ⟨r', stored', continues⟩ := forward y r stored
      exact ⟨r', stored', continues.owner⟩
    obtain ⟨-, same⟩ | ⟨w, wrote, found, -⟩ := service_cases served p
    · rw [same] at owner ⊢
      refine ⟨fun y r stored _ _ => stored, owner, fun y r absent stored => ?_⟩
      rw [absent] at stored
      cases stored
    · have about : About i (ops p).key? (System.trace p σ.log) w :=
        may w (Entry.record?_of_written? wrote)
      refine ⟨fun y r stored stranger unnamed => ?_, owner, fun y r absent stored => ?_⟩
      · rw [found y]
        split
        · next named =>
          -- what takes the place of a record is of the same owner, who is not the tenant
          obtain ⟨r', stored', same⟩ := owner y r stored
          rw [found y, if_pos named] at stored'
          cases stored'
          obtain own | ⟨key, -⟩ := Run.owner_of_about run tenant about
          · exact absurd (same.symm.trans own) stranger
          · exact absurd (named ▸ key) unnamed
        · exact stored
      · rw [found y] at stored
        split at stored
        · next named =>
          cases stored
          obtain own | ⟨-, r', stored', -⟩ := Run.owner_of_about run tenant about
          · exact own
          · rw [← named, absent] at stored'
            cases stored'
        · rw [absent] at stored
          cases stored
  · intro res r done handed
    rw [done] at ensures
    exact Run.owner_of_about run tenant (ensures _ rfl res r rfl handed)

namespace Sample

/-- All parties deal with an event of another tenant that bears the name of the text, and that asks
for nothing that could be sent. -/
def strangers : System Outcome :=
  begin {} (fun _ => .process (.make record.id ⟨"B"⟩ "fax" "" "" ⟨0, 0⟩)) memory

end Sample

/-- What the event of another tenant does to the text of the sample, whose name it bears. -/
theorem tenants_apart_strangers : Apart ⟨"B"⟩ (some Sample.record.id)
    (store (Sample.after [0, 0] Sample.strangers).toScene)
    (store (Sample.after [0, 0, 0] Sample.strangers).toScene) :=
  (tenants_apart (Sample.run_after [0, 0] Sample.strangers) (p := 0) rfl).1
    (.updateMessage { Sample.record with status := .failed }) _ (.ok ()) _ rfl
    (Sample.service_of_answer? _ _ _ _ rfl)

/-- An event of another tenant has the text of the sample given up. -/
theorem given_up_by_stranger : Sample.record.owner ≠ ⟨"B"⟩ ∧
    ¬∀ σ, System.Run service Sample.strangers σ →
      (store σ.toScene).find? Sample.record.id = some Sample.record := by
  refine ⟨by decide, fun kept => ?_⟩
  have failed := kept _ (Sample.run_after [0, 0, 0] Sample.strangers)
  revert failed
  decide

end Delivery

end MessageGateway
