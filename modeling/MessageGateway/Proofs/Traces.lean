import MessageGateway.Proofs.Calls
import MessageGateway.Proofs.Interleaving

/-!
# Traces

The calls that a program has made, with their answers, are its trace. Whatever is answered, and
wherever the program stops, its trace has come about by the program's own steps; so what holds of
every trace of a program holds of what is left by a crash, and of the calls of a party among others.

## Main definitions

* `Program.Made`: a program has made the calls of a trace, and so much is left of it
* `Setting.traced`: what surrounds a program whose calls may be answered in any way
* `Lawful May t`: every call of the trace was made where `May` allows it
* `Program.Follows`: the notable calls of a program come in the order of a plan
* `System.trace`: the calls of one party in the log of all
* `System.last?`: the last exchange in the log of which something is told

## Main results

* `Program.Made.lawful`, `Program.Made.result`, `Program.Made.invariant`: what a program ensures,
  said of its traces
* `Program.Made.bind_cases`: the trace of a program in two parts
* `Program.Made.sublist`: the notable calls of a trace stand in the order of the plan
* `System.Run.made`: among others, too, a party makes a trace of its own program
-/

namespace MessageGateway

open Program

variable {α β ε : Type}

/-- Calls with their answers, last one first. -/
abbrev Trace := List Exchange

namespace Program

/-- The program has made the calls of a trace, and so much is left of it. -/
inductive Made (p : Program α) : Trace → Program α → Prop
  | start : Made p [] p
  | call {t : Trace} {c : Call} {next : c.Answer → Program α} (made : Made p t (.ask c next))
      (a : c.Answer) : Made p (⟨c, a⟩ :: t) (next a)

theorem Made.trans {p q r : Program α} {t u : Trace} (h : p.Made t q) (h' : q.Made u r) :
    p.Made (u ++ t) r := by
  induction h' with
  | start => exact h
  | call made a ih => exact ih.call a

/-- The calls of a program up to the first one without an answer, and what is left of it. -/
def follow (answer? : (c : Call) → Option c.Answer) : Program α → Trace × Program α
  | done a => ([], done a)
  | ask c next =>
    match answer? c with
    | none => ([], ask c next)
    | some a => ((follow answer? (next a)).1 ++ [⟨c, a⟩], (follow answer? (next a)).2)

theorem made_follow (answer? : (c : Call) → Option c.Answer) (p : Program α) :
    p.Made (p.follow answer?).1 (p.follow answer?).2 := by
  induction p with
  | done a => exact .start
  | ask c next ih =>
    unfold follow
    split
    · exact .start
    · next a _ => exact (Made.start.call a).trans (ih a)

end Program

/-! ## The traces of the parts of a program -/

namespace Program

variable {p q : Program α} {t : Trace}

theorem made_done_iff {a : α} : (done a).Made t q ↔ t = [] ∧ q = done a := by
  constructor
  · intro made
    induction made with
    | start => exact ⟨rfl, rfl⟩
    | call made x ih => cases ih.2
  · rintro ⟨rfl, rfl⟩
    exact .start

/-- A program that makes a call first has made nothing yet, or has gone on with an answer. -/
theorem made_ask_iff {c : Call} {next : c.Answer → Program α} :
    (ask c next).Made t q ↔ (t = [] ∧ q = ask c next) ∨
      ∃ a u, t = u ++ [⟨c, a⟩] ∧ (next a).Made u q := by
  constructor
  · intro made
    induction made with
    | start => exact .inl ⟨rfl, rfl⟩
    | @call t d rest made x ih =>
      rcases ih with ⟨rfl, eq⟩ | ⟨a, u, rfl, later⟩
      · cases eq
        exact .inr ⟨x, [], rfl, .start⟩
      · exact .inr ⟨a, ⟨d, x⟩ :: u, rfl, later.call x⟩
  · rintro (⟨rfl, rfl⟩ | ⟨a, u, rfl, made⟩)
    · exact .start
    · exact (Made.start.call a).trans made

/-- A program in two parts is in its first part, or has gone on with the result of it. -/
theorem Made.bind_cases {f : α → Program β} {q : Program β} (made : (p >>= f).Made t q) :
    (∃ c next, p.Made t (.ask c next) ∧ q = ask c next >>= f) ∨
      ∃ a u v, p.Made u (.done a) ∧ (f a).Made v q ∧ t = v ++ u := by
  induction p generalizing t with
  | done a => exact .inr ⟨a, [], t, .start, made, (List.append_nil t).symm⟩
  | ask c next ih =>
    rcases made_ask_iff.1 made with ⟨rfl, rfl⟩ | ⟨x, u, rfl, later⟩
    · exact .inl ⟨c, next, .start, rfl⟩
    · have first : (ask c next).Made [⟨c, x⟩] (next x) := Made.start.call x
      rcases ih x later with ⟨d, rest, part, rfl⟩ | ⟨a, v, w, part, rest, rfl⟩
      · exact .inl ⟨d, rest, first.trans part, rfl⟩
      · exact .inr ⟨a, v ++ [⟨c, x⟩], w, first.trans part, rest, List.append_assoc ..⟩

/-- A program whose second part is left out when the first one fails has no result of the first
part, or has gone on with it. -/
theorem Made.bindExcept_cases {x : ExceptT ε Program α} {f : α → ExceptT ε Program β}
    {q : Program (Except ε β)} (made : (x >>= f).run.Made t q) :
    (∃ left, x.run.Made t left ∧ ∀ a, left ≠ .done (.ok a)) ∨
      ∃ a u v, x.run.Made u (.done (.ok a)) ∧ (f a).run.Made v q ∧ t = v ++ u := by
  rcases Made.bind_cases made with ⟨c, next, part, -⟩ | ⟨res, u, v, part, rest, rfl⟩
  · exact .inl ⟨_, part, fun a eq => by cases eq⟩
  · cases res with
    | ok a => exact .inr ⟨a, u, v, part, rest, rfl⟩
    | error e =>
      obtain ⟨rfl, rfl⟩ := made_done_iff.1 rest
      exact .inl ⟨_, part, fun a eq => by cases eq⟩

/-- What is done with the result makes no calls. -/
theorem Made.of_map {f : α → β} {q : Program β} (made : (f <$> p).Made t q) :
    ∃ left, p.Made t left ∧ q = f <$> left := by
  rw [map_eq_pure_bind] at made
  rcases made.bind_cases with ⟨c, next, part, rfl⟩ | ⟨a, u, v, part, rest, rfl⟩
  · exact ⟨ask c next, part, (map_eq_pure_bind f _).symm⟩
  · obtain ⟨rfl, rfl⟩ := made_done_iff.1 rest
    exact ⟨_, part, rfl⟩

end Program

/-! ## What a program ensures of its traces -/

/-- Every call of the trace was made where `May` allows it. -/
def Lawful (May : Call → Trace → Prop) : Trace → Prop
  | [] => True
  | e :: t => May e.call t ∧ Lawful May t

theorem Lawful.of_suffix {May : Call → Trace → Prop} {t u : Trace} (h : Lawful May t)
    (hu : u <:+ t) : Lawful May u := by
  induction t with
  | nil =>
    rw [List.suffix_nil.1 hu]
    trivial
  | cons e t ih =>
    rcases List.suffix_cons_iff.1 hu with rfl | hu
    · exact h
    · exact ih h.2 hu

namespace Setting

variable {H : Exchange → Prop} {May May' : Call → Trace → Prop} {t : Trace}

/-- What surrounds a program whose calls are made where `May` allows it, and answered in any way
that satisfies `H`. -/
def traced (H : Exchange → Prop) (May : Call → Trace → Prop) : Setting Trace where
  Serves c t a u := u = ⟨c, a⟩ :: t ∧ H ⟨c, a⟩
  Rely := Eq
  Allowed := May
  rely_self _ := rfl
  rely_trans := Eq.trans

theorem ensures_done {a : α} {Q : α → Trace → Prop} (h : Q a t) :
    (traced H May).Ensures Q (pure a) t := by
  intro u hu
  cases hu
  exact h

theorem ensures_asked {c : Call} (may : May c t) :
    (traced H May).Ensures (fun a u => u = ⟨c, a⟩ :: t ∧ H ⟨c, a⟩) (request c) t := by
  intro u hu
  cases hu
  refine ⟨may, ?_⟩
  rintro a v ⟨rfl, ha⟩ w hw
  cases hw
  exact ⟨rfl, ha⟩

theorem ensures_call {c : Call} {Q : c.Answer → Trace → Prop} (may : May c t)
    (h : ∀ a, H ⟨c, a⟩ → Q a (⟨c, a⟩ :: t)) : (traced H May).Ensures Q (request c) t := by
  refine (ensures_asked may).mono fun a u _ hQ => ?_
  obtain ⟨rfl, ha⟩ := hQ
  exact h a ha

/-- Calls that need no more than `I`, and leave `I` as it is. -/
theorem ensures_kept {p : Program α} {P : Call → Prop} {I : Trace → Prop} (only : p.Only P)
    (may : ∀ c t, P c → I t → May c t) (kept : ∀ c a t, P c → I t → I (⟨c, a⟩ :: t)) (hI : I t) :
    (traced H May).Ensures (fun _ u => I u) p t := by
  induction p generalizing t with
  | done a => exact ensures_done hI
  | ask c next ih =>
    intro u hu
    cases hu
    refine ⟨may c t only.1 hI, ?_⟩
    rintro a v ⟨rfl, -⟩
    exact ih a (only.2 a) (kept c a t only.1 hI)

/-- A call that is made where `May` allows it, by a program whose calls satisfy `P`, is allowed
wherever these two together allow it. -/
theorem Ensures.allowOnly {p : Program α} {P : Call → Prop} {Q : α → Trace → Prop}
    (h : (traced H May).Ensures Q p t) (only : p.Only P)
    (weaker : ∀ c t, P c → May c t → May' c t) : (traced H May').Ensures Q p t := by
  induction p generalizing t with
  | done a => exact h
  | ask c next ih =>
    intro u hu
    obtain ⟨may, rest⟩ := h u hu
    exact ⟨weaker c u only.1 may, fun a v hv => ih a (rest a v hv) (only.2 a)⟩

theorem Ensures.allow {p : Program α} {Q : α → Trace → Prop}
    (h : (traced H May).Ensures Q p t) (weaker : ∀ c t, May c t → May' c t) :
    (traced H May').Ensures Q p t :=
  h.allowOnly (only_of_forall p fun _ => trivial) fun c t _ => weaker c t

end Setting

namespace Program

variable {H : Exchange → Prop} {May : Call → Trace → Prop} {p q : Program α}
  {Q : α → Trace → Prop} {t : Trace}

theorem Made.ensures (made : p.Made t q) (h : (Setting.traced H May).Ensures Q p [])
    (answers : ∀ e ∈ t, H e) : Lawful May t ∧ (Setting.traced H May).Ensures Q q t := by
  induction made with
  | start => exact ⟨trivial, h⟩
  | call made a ih =>
    obtain ⟨lawful, ensures⟩ := ih fun e he => answers e (List.mem_cons_of_mem _ he)
    obtain ⟨may, rest⟩ := ensures _ rfl
    exact ⟨⟨may, lawful⟩, rest a _ ⟨rfl, answers _ List.mem_cons_self⟩⟩

theorem Made.lawful (made : p.Made t q) (h : (Setting.traced H May).Ensures Q p [])
    (answers : ∀ e ∈ t, H e) : Lawful May t :=
  (made.ensures h answers).1

theorem Made.result {a : α} (made : p.Made t (.done a))
    (h : (Setting.traced H May).Ensures Q p []) (answers : ∀ e ∈ t, H e) : Q a t :=
  (made.ensures h answers).2 t rfl

/-- **An invariant of all traces**: what holds wherever a call is made and wherever the program is
done holds wherever the program stops. -/
theorem Made.invariant {I : Trace → Prop} (made : p.Made t q)
    (h : (Setting.traced H May).Ensures Q p []) (answers : ∀ e ∈ t, H e)
    (call : ∀ c t, May c t → I t) (done : ∀ a t, Q a t → I t) : I t := by
  have ensures := (made.ensures h answers).2
  cases q with
  | done a => exact done a t (ensures t rfl)
  | ask c next => exact call c t (ensures t rfl).1

theorem Made.rest_only {P : Call → Prop} (made : p.Made t q) (h : p.Only P) : q.Only P := by
  induction made with
  | start => exact h
  | call made a ih => exact ih.2 a

theorem Made.next_only {P : Call → Prop} {c : Call} {next : c.Answer → Program α}
    (made : p.Made t (.ask c next)) (h : p.Only P) : P c :=
  (made.rest_only h).1

theorem Made.only {P : Call → Prop} (made : p.Made t q) (h : p.Only P) : ∀ e ∈ t, P e.call := by
  induction made with
  | start => exact List.forall_mem_nil _
  | call made a ih => exact List.forall_mem_cons.2 ⟨made.next_only h, ih⟩

theorem Made.ends {R : α → Prop} {a : α} (made : p.Made t (.done a)) (h : p.Ends R) : R a := by
  have left {q : Program α} {t : Trace} (made : p.Made t q) : q.Ends R := by
    induction made with
    | start => exact h
    | call made a ih => exact ih a
  exact left made

end Program

/-! ## Calls in the order of a plan -/

namespace Program

variable {κ : Type} {kind : Call → Option κ} {ks ks' : List κ}

/-- Of the plan `ks`, the program makes some calls, in its order; other calls have no kind. -/
def Follows (kind : Call → Option κ) : Program α → List κ → Prop
  | .done _, _ => True
  | .ask c next, ks =>
    match kind c with
    | none => ∀ a, (next a).Follows kind ks
    | some k => ∃ rest, (k :: rest).Sublist ks ∧ ∀ a, (next a).Follows kind rest

theorem Follows.mono {p : Program α} (h : p.Follows kind ks) (sub : ks.Sublist ks') :
    p.Follows kind ks' := by
  induction p generalizing ks ks' with
  | done a => trivial
  | ask c next ih =>
    unfold Follows at h ⊢
    split
    · next none =>
      rw [none] at h
      exact fun a => ih a (h a) sub
    · next k some =>
      rw [some] at h
      obtain ⟨rest, hk, hrest⟩ := h
      exact ⟨rest, hk.trans sub, hrest⟩

theorem follows_of_only {p : Program α} (only : p.Only fun c => kind c = none) (ks : List κ) :
    p.Follows kind ks := by
  induction p with
  | done a => trivial
  | ask c next ih =>
    unfold Follows
    rw [only.1]
    exact fun a => ih a (only.2 a)

theorem follows_request {c : Call} {k : κ} (h : kind c = some k) :
    (request c).Follows kind [k] := by
  unfold request Follows
  rw [h]
  exact ⟨[], List.Sublist.refl _, fun _ => trivial⟩

theorem Follows.bind {p : Program α} {f : α → Program β} (hp : p.Follows kind ks)
    (hf : ∀ a, (f a).Follows kind ks') : (p >>= f).Follows kind (ks ++ ks') := by
  induction p generalizing ks with
  | done a => exact (hf a).mono (List.sublist_append_right ks ks')
  | ask c next ih =>
    rw [ask_bind]
    unfold Follows at hp ⊢
    split
    · next none =>
      rw [none] at hp
      exact fun a => ih a (hp a)
    · next k some =>
      rw [some] at hp
      obtain ⟨rest, hk, hrest⟩ := hp
      exact ⟨rest ++ ks', hk.append_right ks', fun a => ih a (hrest a)⟩

theorem Follows.map {p : Program α} {f : α → β} (h : p.Follows kind ks) :
    (f <$> p).Follows kind ks := by
  rw [map_eq_pure_bind, ← List.append_nil ks]
  exact h.bind fun _ => trivial

theorem Follows.bindExcept {x : ExceptT ε Program α} {f : α → ExceptT ε Program β}
    (hx : x.run.Follows kind ks) (hf : ∀ a, (f a).run.Follows kind ks') :
    (x >>= f).run.Follows kind (ks ++ ks') := by
  refine Follows.bind hx fun r => ?_
  cases r with
  | ok a => exact hf a
  | error e => trivial

/-- What makes no notable call leaves the plan as it is. -/
theorem Only.bindFollows {p : Program α} {f : α → Program β} (only : p.Only fun c => kind c = none)
    (hf : ∀ a, (f a).Follows kind ks) : (p >>= f).Follows kind ks :=
  (follows_of_only only []).bind hf

theorem Only.bindExceptFollows {x : ExceptT ε Program α} {f : α → ExceptT ε Program β}
    (only : x.run.Only fun c => kind c = none) (hf : ∀ a, (f a).run.Follows kind ks) :
    (x >>= f).run.Follows kind ks :=
  (follows_of_only only []).bindExcept hf

/-- The notable calls of a trace, in their order, are some of the plan. -/
theorem Made.sublist {p q : Program α} {t : Trace} (made : p.Made t q) (h : p.Follows kind ks) :
    (t.filterMap fun e => kind e.call).reverse.Sublist ks := by
  -- what the trace has left of the plan is enough for the rest of the program
  have left : ∃ rest, q.Follows kind rest ∧
      ((t.filterMap fun e => kind e.call).reverse ++ rest).Sublist ks := by
    induction made with
    | start => exact ⟨ks, h, List.Sublist.refl _⟩
    | @call t c next made a ih =>
      obtain ⟨rest, follows, sub⟩ := ih
      unfold Follows at follows
      rw [List.filterMap_cons]
      split at follows
      · next none => exact ⟨rest, follows a, by simpa only [none] using sub⟩
      · next k some =>
        obtain ⟨rest', hk, hrest⟩ := follows
        refine ⟨rest', hrest a, ?_⟩
        simp only [some, List.reverse_cons, List.append_assoc, List.singleton_append]
        exact (hk.append_left _).trans sub
  obtain ⟨rest, -, sub⟩ := left
  exact (List.sublist_append_left _ rest).trans sub

end Program

/-! ## The traces of parties -/

/-- The call of an entry with its answer. -/
def Entry.exchange (e : Entry) : Exchange :=
  ⟨e.call, e.answer⟩

namespace System

variable {ρ β : Type} {S : Service} {p : Party} {e : Entry} {log before : List Entry}
  {f : Exchange → Option β} {b : β}

/-- The calls of one party. -/
def trace (p : Party) (log : List Entry) : Trace :=
  (log.filter fun e => e.party = p).map Entry.exchange

theorem trace_cons_self (e : Entry) (log : List Entry) :
    trace e.party (e :: log) = e.exchange :: trace e.party log := by
  simp [trace]

theorem trace_cons_of_ne (h : e.party ≠ p) : trace p (e :: log) = trace p log := by
  simp [trace, h]

theorem trace_suffix (h : before <:+ log) : trace p before <:+ trace p log :=
  (h.filter _).map _

theorem mem_trace {x : Exchange} :
    x ∈ trace p log ↔ ∃ e ∈ log, e.party = p ∧ x = e.exchange := by
  simp only [trace, List.mem_map, List.mem_filter, decide_eq_true_eq, and_assoc, eq_comm (a := x)]

/-- What is told by an exchange of a party's trace is told by an entry in the log. -/
theorem exists_of_findSome? (found : (trace p log).findSome? f = some b) :
    ∃ e before, e :: before <:+ log ∧ e.party = p ∧ f e.exchange = some b := by
  obtain ⟨x, hx, fx⟩ := List.exists_of_findSome?_eq_some found
  obtain ⟨e, he, party, rfl⟩ := mem_trace.1 hx
  obtain ⟨later, before, eq⟩ := List.append_of_mem he
  exact ⟨e, before, ⟨later, eq.symm⟩, party, fx⟩

/-- What `f` tells of the last exchange of which it tells something, and whose exchange that was. -/
def last? (f : Exchange → Option β) (log : List Entry) : Option (Party × β) :=
  log.findSome? fun e => (f e.exchange).map (e.party, ·)

theorem last?_cons_of_none (h : f e.exchange = none) : last? f (e :: log) = last? f log := by
  simp [last?, h]

theorem last?_cons_of_some (h : f e.exchange = some b) :
    last? f (e :: log) = some (e.party, b) := by
  simp [last?, h]

/-- The last exchange of which `f` tells something: there is none like it after its moment. -/
theorem exists_of_last? (h : last? f log = some (p, b)) : ∃ e before, e :: before <:+ log ∧
    e.party = p ∧ f e.exchange = some b ∧ ∀ e' before', e' :: before' <:+ log →
      (f e'.exchange).isSome = true → e' :: before' <:+ e :: before := by
  induction log with
  | nil => cases h
  | cons e log ih =>
    cases he : f e.exchange with
    | some b' =>
      rw [last?_cons_of_some he] at h
      cases h
      exact ⟨e, log, List.suffix_rfl, rfl, he, fun _ _ hl _ => hl⟩
    | none =>
      rw [last?_cons_of_none he] at h
      obtain ⟨d, before, hl, hp, hd, last⟩ := ih h
      refine ⟨d, before, hl.trans (List.suffix_cons _ _), hp, hd, fun e' before' hl' he' => ?_⟩
      rcases List.suffix_cons_iff.1 hl' with eq | hl'
      · cases eq
        rw [he] at he'
        cases he'
      · exact last e' before' hl' he'

theorem isSome_last? (he : e ∈ log) (h : f e.exchange = some b) : (last? f log).isSome = true := by
  rw [last?, List.findSome?_isSome_iff]
  exact ⟨e, he, by rw [h]; rfl⟩

theorem Step.made {s t : System ρ} {program : Program ρ} (step : Step S s t)
    (made : program.Made (trace p s.log) (s.parties p)) :
    program.Made (trace p t.log) (t.parties p) := by
  cases step with
  | @call q c rest a m left served =>
    show program.Made (trace p (⟨q, c, a⟩ :: s.log)) (Function.update s.parties q (rest a) p)
    by_cases hp : p = q
    · subst hp
      rw [left] at made
      rw [Function.update_self]
      exact trace_cons_self ⟨p, c, a⟩ s.log ▸ made.call a
    · rw [Function.update_of_ne hp, trace_cons_of_ne (Ne.symm hp)]
      exact made

/-- **A party among others makes a trace of its own program.** -/
theorem Run.made {parties : Party → Program ρ} {m : Memory} {s : System ρ}
    (run : Run S (start parties m) s) (p : Party) :
    (parties p).Made (trace p s.log) (s.parties p) := by
  induction run with
  | refl => exact .start
  | tail _ step ih => exact step.made ih

/-- Every call in the log was answered by the service, at the moment at which it was made. -/
theorem Run.exists_served {s t : System ρ} (run : Run S s t) (he : e :: before <:+ t.log)
    (hs : s.log <:+ before) :
    ∃ u m, Run S s u ∧ Run S u t ∧ u.log = before ∧ S u.memory e.call e.answer m := by
  induction run with
  | refl =>
    have le := he.length_le
    have le' := hs.length_le
    simp only [List.length_cons] at le
    omega
  | @tail u v run step ih =>
    have last := step
    cases step with
    | @call p c rest a m left served =>
      rcases List.suffix_cons_iff.1 he with eq | he
      · cases eq
        exact ⟨u, m, run, .single last, rfl, served⟩
      · obtain ⟨w, m', before, after, eq, served⟩ := ih he
        exact ⟨w, m', before, after.tail last, eq, served⟩

/-- Every call of a party was answered by the service at some moment of the run. -/
theorem Run.exists_answered {parties : Party → Program ρ} {m : Memory} {t : System ρ}
    (run : Run S (start parties m) t) {x : Exchange} (hx : x ∈ trace p t.log) :
    ∃ u m', Run S (start parties m) u ∧ Run S u t ∧ S u.memory x.call x.answer m' := by
  obtain ⟨e, he, -, rfl⟩ := mem_trace.1 hx
  obtain ⟨later, before, eq⟩ := List.append_of_mem he
  obtain ⟨u, m', run, after, -, served⟩ := run.exists_served ⟨later, eq.symm⟩ List.nil_suffix
  exact ⟨u, m', run, after, served⟩

/-- A call of a party was made where its program may make it. -/
theorem may_of_lawful {May : Call → Trace → Prop} (h : Lawful May (trace e.party log))
    (he : e :: before <:+ log) : May e.call (trace e.party before) := by
  have lawful := h.of_suffix (trace_suffix (p := e.party) he)
  rw [trace_cons_self] at lawful
  exact lawful.1

end System

end MessageGateway
