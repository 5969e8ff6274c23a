import MessageGateway.Proofs.Dispatch.Course

/-!
# The conclusion of a send

Once a send has stored its record as being sent, nothing but the transmission comes next, and after
that, whatever is answered, a look at the clock and one try to store that the delivery is over. All
of this can be told from the calls of the send and from what is left of it, wherever it stops.

## Main definitions

* `Dispatch.Concluding`: how far a send has come since its record was stored, and what it does next
* `Dispatch.Storing`: how far the storing of the record has come
* `Dispatch.Advanced`: how far the whole send has come, told from its record

## Main results

* `Dispatch.deliver_of_sending`: the delivery of a record that is being sent, call by call
* `Dispatch.made_send`: a send has stored nothing, or it comes to its conclusion
-/

namespace MessageGateway

open Program Setting

namespace Dispatch

variable {c : GatewayConfig} {input : SendInput} {known : Option Message} {i : InstanceId}
  {address : Address} {o : Outbound} {r : Message} {t u : Trace}
  {left : Program (Except SendFailure Message)}

/-- How far a send has come since the record `r` was stored as being sent, and what it does next:
the message is transmitted, the clock is looked at, and then the end of the delivery is tried to be
stored, once and whatever comes of it. -/
inductive Concluding (i : InstanceId) (address : Address) (o : Outbound) (r : Message) :
    Trace → Program (Except SendFailure Message) → Prop
  | stored {next : Except TransportError Unit → Program (Except SendFailure Message)} :
    Concluding i address o r [] (.ask (.transmit i address o) next)
  | transmitted {a : Except TransportError Unit}
      {next : Timestamp → Program (Except SendFailure Message)} :
    Concluding i address o r [⟨.transmit i address o, a⟩] (.ask .now next)
  | timed {a : Except TransportError Unit} {time : Timestamp} {r' : Message}
      {next : Except StoreError Unit → Program (Except SendFailure Message)}
      (eq : r' = { r with status := outcome a, updated := time }) :
    Concluding i address o r [⟨.now, time⟩, ⟨.transmit i address o, a⟩]
      (.ask (.updateMessage r') next)
  | settled {a : Except TransportError Unit} {time : Timestamp} {r' : Message}
      {b : Except StoreError Unit} (eq : r' = { r with status := outcome a, updated := time }) :
    Concluding i address o r [⟨.updateMessage r', b⟩, ⟨.now, time⟩, ⟨.transmit i address o, a⟩]
      (.done (verdict r' a))

theorem settle_of_allows {status : MessageStatus} (allowed : r.status.allows status = true) :
    settle r status = .ask .now fun time =>
      .ask (.updateMessage { r with status, updated := time }) fun _ =>
        .done { r with status, updated := time } := by
  unfold settle
  simp only [Message.transition, allowed, if_true]
  rfl

/-- A record that is being sent is settled after the transmission, whatever comes of that. -/
theorem deliver_of_sending (sending : r.status = .sending) :
    (deliver r i address o).run = .ask (.transmit i address o) fun a => .ask .now fun time =>
      .ask (.updateMessage { r with status := outcome a, updated := time }) fun _ =>
        .done (verdict { r with status := outcome a, updated := time } a) := by
  have allowed {status : MessageStatus} (terminal : status.isTerminal = true) :
      r.status.allows status = true :=
    MessageStatus.allows_of_isTerminal (sending ▸ rfl) terminal
  unfold deliver
  rw [settle_of_allows (allowed rfl), settle_of_allows (allowed rfl)]
  refine congrArg (Program.ask _) (funext fun a => ?_)
  cases a <;> rfl

theorem made_deliver (made : (deliver r i address o).run.Made t left)
    (sending : r.status = .sending) : Concluding i address o r t left := by
  rw [deliver_of_sending sending] at made
  rcases made_ask_iff.1 made with ⟨rfl, rfl⟩ | ⟨a, u, rfl, later⟩
  · exact .stored
  rcases made_ask_iff.1 later with ⟨rfl, rfl⟩ | ⟨time, v, rfl, last⟩
  · exact .transmitted
  rcases made_ask_iff.1 last with ⟨rfl, rfl⟩ | ⟨b, w, rfl, rest⟩
  · exact .timed rfl
  obtain ⟨rfl, rfl⟩ := made_done_iff.1 rest
  exact .settled rfl

theorem store_some (notOver : r.status.isTerminal = false) :
    (store input (some r) o).run = .ask .now fun time =>
      .ask (.updateMessage { r with payload := o.summary, status := .sending, updated := time })
        fun a => .done ((a.mapError .ofStore).map fun _ =>
          { r with payload := o.summary, status := .sending, updated := time }) := by
  have allowed := MessageStatus.allows_sending notOver
  unfold store
  simp only [Message.transition, allowed, if_true]
  refine congrArg (Program.ask _) (funext fun time => congrArg (Program.ask _) (funext fun a => ?_))
  cases a <;> rfl

theorem store_none (input : SendInput) (o : Outbound) :
    (store input none o).run = .ask .now fun time => input.id.elim newMessageId pure >>= fun id =>
      .ask (.createMessage (.make id input.owner input.recipient input.content.kind o.summary
        .sending time)) fun a => .done (a.mapError .ofStore) := by
  unfold store
  cases input.id <;> rfl

/-- How far the storing of a record with the summary of `o` has come: nothing is written, or the
record is, as being sent, and it is the result. -/
inductive Storing (o : Outbound) : Trace → Program (Except SendFailure Message) → Prop
  | unwritten {t : Trace} {left : Program (Except SendFailure Message)}
      (none : ∀ x ∈ t, x.written? = none) (unfinished : ∀ r, left ≠ .done (.ok r)) :
    Storing o t left
  | stored {e : Exchange} {before : Trace} {r : Message} (written : e.written? = some r)
      (sending : r.status = .sending) (payload : r.payload = o.summary)
      (first : ∀ x ∈ before, x.call.record? = none) : Storing o (e :: before) (.done (.ok r))

theorem written?_of_record? {x : Exchange} (h : x.call.record? = none) : x.written? = none := by
  obtain ⟨c, a⟩ := x
  cases c <;> first | rfl | cases h

/-- As long as no record was tried to be stored, none is. -/
theorem Storing.of_untried (untried : ∀ x ∈ t, x.call.record? = none)
    (unfinished : ∀ r, left ≠ .done (.ok r)) : Storing o t left :=
  .unwritten (fun x hx => written?_of_record? (untried x hx)) unfinished

/-- The only try to store a record is the last call. -/
theorem storing_of_last {call : Call} {g : call.Answer → Except SendFailure Message}
    (made : (Program.ask call fun a => .done (g a)).Made t left)
    (untried : ∀ x ∈ u, x.call.record? = none) (honest : ∀ x ∈ t, x.isHonest = true)
    (last : ∀ a, Exchange.isHonest ⟨call, a⟩ = true →
      (∃ r, Exchange.written? ⟨call, a⟩ = some r ∧ g a = .ok r ∧ r.status = .sending ∧
        r.payload = o.summary) ∨
      Exchange.written? ⟨call, a⟩ = none ∧ ∃ e, g a = .error e) : Storing o (t ++ u) left := by
  rcases made_ask_iff.1 made with ⟨rfl, rfl⟩ | ⟨a, v, rfl, rest⟩
  · exact .of_untried untried fun r eq => by cases eq
  · obtain ⟨rfl, rfl⟩ := made_done_iff.1 rest
    rcases last a (honest _ List.mem_cons_self) with
      ⟨r, written, result, sending, payload⟩ | ⟨unwritten, e, result⟩
    · rw [result]
      exact .stored written sending payload untried
    · rw [result]
      refine .unwritten (List.forall_mem_cons.2 ⟨unwritten, ?_⟩) fun r eq => by cases eq
      exact fun x hx => written?_of_record? (untried x hx)

theorem made_store (made : (store input known o).run.Made t left)
    (notOver : ∀ m ∈ known, m.status.isTerminal = false)
    (honest : ∀ x ∈ t, x.isHonest = true) : Storing o t left := by
  cases known with
  | some r =>
    rw [store_some (notOver r rfl)] at made
    rcases made_ask_iff.1 made with ⟨rfl, rfl⟩ | ⟨time, u, rfl, last⟩
    · exact .of_untried (List.forall_mem_nil _) fun r eq => by cases eq
    refine storing_of_last last (List.forall_mem_singleton.2 rfl)
      (fun x hx => honest x (List.mem_append_left _ hx)) ?_
    rintro (e | _) -
    · exact .inr ⟨rfl, _, rfl⟩
    · exact .inl ⟨_, rfl, rfl, rfl, rfl⟩
  | none =>
    rw [store_none] at made
    rcases made_ask_iff.1 made with ⟨rfl, rfl⟩ | ⟨time, u, rfl, later⟩
    · exact .of_untried (List.forall_mem_nil _) fun r eq => by cases eq
    have name : (input.id.elim newMessageId pure).Only fun c => c.record? = none := by
      cases input.id with
      | none => exact only_request rfl
      | some x => exact only_pure x
    rcases later.bind_cases with ⟨c, next, part, rfl⟩ | ⟨x, v, w, part, last, rfl⟩
    · refine .of_untried ?_ fun r eq => by cases eq
      exact List.forall_mem_append.2 ⟨part.only name, List.forall_mem_singleton.2 rfl⟩
    · rw [List.append_assoc] at honest ⊢
      refine storing_of_last last ?_ (fun x hx => honest x (List.mem_append_left _ hx)) ?_
      · exact List.forall_mem_append.2 ⟨part.only name, List.forall_mem_singleton.2 rfl⟩
      rintro (e | r') told
      · exact .inr ⟨rfl, _, rfl⟩
      · obtain rfl := of_decide_eq_true told
        exact .inl ⟨_, rfl, rfl, rfl, rfl⟩

/-- What a send has come to: it has stored no record, or the first one that it tried to store is
stored as being sent, and it has come so far since. -/
inductive Advanced (i : InstanceId) : Trace → Program (Except SendFailure Message) → Prop
  | unwritten {t : Trace} {left : Program (Except SendFailure Message)}
      (none : ∀ x ∈ t, x.written? = none) : Advanced i t left
  | stored {after before : Trace} {e : Exchange} {r : Message} {address : Address} {o : Outbound}
      {left : Program (Except SendFailure Message)} (written : e.written? = some r)
      (sending : r.status = .sending) (payload : r.payload = o.summary)
      (first : ∀ x ∈ before, x.call.record? = none)
      (concluding : Concluding i address o r after left) : Advanced i (after ++ e :: before) left

theorem Advanced.append (h : Advanced i t left) (untried : ∀ x ∈ u, x.call.record? = none) :
    Advanced i (t ++ u) left := by
  cases h with
  | unwritten none =>
    refine .unwritten (List.forall_mem_append.2 ⟨none, fun x hx => ?_⟩)
    exact written?_of_record? (untried x hx)
  | stored written sending payload first concluding =>
    rw [List.append_assoc, List.cons_append]
    exact .stored written sending payload (List.forall_mem_append.2 ⟨first, untried⟩) concluding

/-- A part of a send that tries to store no record. -/
theorem Advanced.of_bind {α : Type} {part : ExceptT SendFailure Program α}
    {f : α → ExceptT SendFailure Program Message} (made : (part >>= f).run.Made t left)
    (only : part.run.Only fun c => c.record? = none)
    (hf : ∀ a u, (f a).run.Made u left → u ⊆ t → Advanced i u left) : Advanced i t left := by
  rcases made.bindExcept_cases with ⟨rest, begun, -⟩ | ⟨a, u, v, begun, later, rfl⟩
  · exact .unwritten fun x hx => written?_of_record? (begun.only only x hx)
  · exact (hf a v later fun x hx => List.mem_append_left _ hx).append (begun.only only)

theorem made_conclude (made : (conclude input known (address, o)).run.Made t left)
    (notOver : ∀ m ∈ known, m.status.isTerminal = false) (honest : ∀ x ∈ t, x.isHonest = true) :
    Advanced input.owner t left := by
  rcases made.bindExcept_cases with ⟨rest, part, unfinished⟩ | ⟨r, u, v, part, later, rfl⟩
  · cases made_store part notOver honest with
    | unwritten none => exact .unwritten none
    | stored => exact absurd rfl (unfinished _)
  · cases made_store part notOver fun x hx => honest x (List.mem_append_right _ hx) with
    | unwritten _ unfinished => exact absurd rfl (unfinished r)
    | stored written sending payload first =>
      exact .stored written sending payload first (made_deliver later sending)

/-- **After its record is stored a send transmits and settles**, whatever is answered. -/
theorem made_send (made : (send c input).Made t left) (honest : ∀ x ∈ t, x.isHonest = true) :
    Advanced input.owner t left := by
  unfold send at made
  split at made
  · obtain ⟨rfl, -⟩ := made_done_iff.1 made
    exact .unwritten (List.forall_mem_nil _)
  · refine .of_bind made (existing_only fun _ _ => rfl) fun known u later sub => ?_
    split at later
    · obtain ⟨rfl, -⟩ := made_done_iff.1 later
      exact .unwritten (List.forall_mem_nil _)
    · next notOver =>
      rw [proceed_eq] at later
      refine .of_bind later ?_ fun (address, o) v last sub' =>
        made_conclude last (notOver_of_filter notOver) ?_
      · exact approach_only rfl rfl (fun _ => rfl) fun c h =>
          Call.record?_of_isAside (Call.isAside_of_isPreparation h)
      · exact fun x hx => honest x (sub (sub' hx))

end Dispatch

end MessageGateway
