import AlertRelay.Proofs.Agreement
import AlertRelay.Proofs.Sessions
import AlertRelay.Proofs.Steps

/-! A delivery does not depend on what went before it. Whatever became of the sessions, it goes
through an open one and ends as it would have ended on a new courier. So steps that only look
after sessions can be put into a run or taken out of it, and the other steps show no difference
but the numbers of the sessions. -/
namespace AlertRelay

def Request.SameButSession (r q : Request) : Prop := r.url = q.url ∧ r.body = q.body

/-- The same outcome but for the sessions of its requests, with replies that `R` connects. -/
structure Outcome.SameButSession {σ α : Type} (R : α → α → Prop) (o q : Outcome σ α) : Prop where
  result : Agree R o.result q.result
  logs : o.logs = q.logs
  requests : List.Forall₂ Request.SameButSession o.requests q.requests

/-- A turn of two runs side by side: a step that both take, or an extra one that only one takes. -/
inductive Turn {τ : Type} (Extra : τ → Prop)
  | both (t : τ)
  | first (t : τ) (extra : Extra t)
  | second (t : τ) (extra : Extra t)

namespace Turn

variable {τ : Type} {Extra : τ → Prop}

def first? : Turn Extra → Option τ
  | both t => some t
  | first t _ => some t
  | second _ _ => none

def second? : Turn Extra → Option τ
  | both t => some t
  | first _ _ => none
  | second t _ => some t

end Turn

/-- The outcomes of two runs side by side: where both take a step, `R` connects what it ends in. -/
inductive Unmoved {τ ω : Type} {Extra : τ → Prop} (R : τ → ω → ω → Prop) :
    List (Turn Extra) → List ω → List ω → Prop
  | nil : Unmoved R [] [] []
  | both (t : τ) (o q : ω) (r : List (Turn Extra)) (os qs : List ω) (same : R t o q)
      (rest : Unmoved R r os qs) : Unmoved R (.both t :: r) (o :: os) (q :: qs)
  | first (t : τ) (extra : Extra t) (o : ω) (r : List (Turn Extra)) (os qs : List ω)
      (rest : Unmoved R r os qs) : Unmoved R (.first t extra :: r) (o :: os) qs
  | second (t : τ) (extra : Extra t) (q : ω) (r : List (Turn Extra)) (os qs : List ω)
      (rest : Unmoved R r os qs) : Unmoved R (.second t extra :: r) os (q :: qs)

/-- Two runs stay side by side if every step keeps their states twins, and an extra step of one of
them does so as well. -/
theorem unmoved_run {σ τ α : Type} {Extra : τ → Prop} {R : τ → Outcome σ α → Outcome σ α → Prop}
    (step : σ → τ → Outcome σ α) (run : σ → List τ → List (Outcome σ α))
    (done : ∀ s, run s [] = [])
    (next : ∀ s x r, run s (x :: r) = step s x :: run (step s x).state r)
    (Twin : σ → σ → Prop) (symm : ∀ s t, Twin s t → Twin t s)
    (both : ∀ s t x, Twin s t → Twin (step s x).state (step t x).state ∧ R x (step s x) (step t x))
    (extra : ∀ s t x, Twin s t → Extra x → Twin (step s x).state t)
    (plan : List (Turn Extra)) (s t : σ) (twin : Twin s t) :
    Unmoved R plan (run s (plan.filterMap Turn.first?)) (run t (plan.filterMap Turn.second?)) := by
  induction plan generalizing s t with
  | nil =>
    rw [List.filterMap_nil, List.filterMap_nil, done, done]
    exact .nil
  | cons turn r ih =>
    cases turn with
    | both x =>
      obtain ⟨state, same⟩ := both s t x twin
      simp only [List.filterMap_cons, Turn.first?, Turn.second?, next]
      exact .both x _ _ r _ _ same (ih _ _ state)
    | first x hx =>
      simp only [List.filterMap_cons, Turn.first?, Turn.second?, next]
      exact .first x hx _ r _ _ (ih _ _ (extra s t x twin hx))
    | second x hx =>
      simp only [List.filterMap_cons, Turn.first?, Turn.second?, next]
      -- Seen from the other side this is an extra step of the first run.
      have moved : Twin (step t x).state s := extra t s x (symm s t twin) hx
      exact .second x hx _ r _ _ (ih _ _ (symm _ _ moved))

namespace Courier

theorem isOpen_acquire (c : Courier) : c.acquire.1.isOpen c.acquire.2 = true := by
  rcases c.idle_or_busy with idle | ⟨i, held, busy⟩
  · rw [c.acquire_idle idle]
    exact (c.isOpen_renewed c.closed.length).mpr (Or.inr rfl)
  · rw [c.acquire_busy i held busy]
    exact busy

theorem isOpen_release (c : Courier) (r : Response) (i : Nat) : (c.release r).isOpen i = c.isOpen i := by
  simp only [isOpen, (c.release_books r).1]

/-- A delivery ends the same on any two couriers. -/
theorem send_anywhere (c d : Courier) (e : Endpoint) (a : Alert) (r : Response) :
    Outcome.SameButSession (· = ·) (c.send e a r) (d.send e a r) := by
  cases on : e.enabled with
  | false =>
    rw [send_disabled c e a r on, send_disabled d e a r on]
    exact ⟨.error _, rfl, .nil⟩
  | true =>
    rw [send_enabled c e a r on, send_enabled d e a r on]
    exact ⟨.refl (fun _ => rfl) _, rfl, .cons ⟨rfl, rfl⟩ .nil⟩

theorem send_isOpen (c : Courier) (e : Endpoint) (a : Alert) (r : Response) (q : Request)
    (posted : q ∈ (c.send e a r).requests) : (c.send e a r).state.isOpen q.session = true := by
  cases on : e.enabled with
  | false =>
    rw [send_disabled c e a r on] at posted
    cases posted
  | true =>
    rw [send_enabled c e a r on] at posted ⊢
    rw [List.mem_singleton.mp posted, isOpen_release]
    exact c.isOpen_acquire

/-- No session was ever opened. -/
def Unused (c : Courier) : Prop := c.closed = []

theorem send_unused (c : Courier) (e : Endpoint) (a : Alert) (r : Response) :
    (c.send e a r).state.Unused ↔ e.enabled = false ∧ c.Unused := by
  cases on : e.enabled with
  | false =>
    rw [send_disabled c e a r on]
    exact (and_iff_right rfl).symm
  | true =>
    rw [send_enabled c e a r on]
    refine ⟨fun unused => ?_, fun h => by cases h.1⟩
    have isOpen := c.isOpen_acquire
    have none : c.acquire.1.closed = [] := (release_books _ r).1.symm.trans unused
    simp [Courier.isOpen, none] at isOpen

theorem close_unused (c : Courier) : c.close.Unused ↔ c.Unused := by
  rcases c.idle_or_busy with idle | ⟨i, held, busy⟩
  · rw [c.close_idle idle]
  · rw [c.close_busy i held busy]
    exact List.set_eq_nil_iff _ _

theorem drop?_eq_none_iff (c : Courier) : c.drop? = none ↔ c.Unused := by
  simp [drop?, Unused]

theorem drop?_used (c d : Courier) (dropped : c.drop? = some d) : ¬ d.Unused := by
  have used : ¬ c.Unused := by
    rw [← c.drop?_eq_none_iff, dropped]
    exact Option.some_ne_none d
  rw [c.drop?_eq_some d dropped]
  exact fun none => used ((List.set_eq_nil_iff _ _).mp none)

/-- The steps that deliver nothing. -/
def Step.IsUpkeep : Step → Prop
  | .send _ _ => False
  | _ => True

inductive Reply.SameButSession : Reply → Reply → Prop
  | done : SameButSession .done .done
  | session (i j : Nat) : SameButSession (.session i) (.session j)

end Courier

theorem Link.send_anywhere (l k : Link) (script : l.script = k.script) (e : Endpoint) (a : Alert) :
    (l.send e a).state.script = (k.send e a).state.script ∧
    Outcome.SameButSession (· = ·) (l.send e a) (k.send e a) := by
  have same := l.courier.send_anywhere k.courier e a (l.script.headD .ok)
  unfold Link.send
  rw [← script]
  exact ⟨congrArg (l.script.drop ·) same.requests.length_eq, same.result, same.logs, same.requests⟩

namespace Courier

/-- A step of two couriers that ends the same; but others who want to drop a session may find one
on the one courier and none on the other. -/
inductive SameEnd : Step → Outcome Link Reply → Outcome Link Reply → Prop
  | same (t : Step) (o q : Outcome Link Reply)
      (h : Outcome.SameButSession Reply.SameButSession o q) : SameEnd t o q
  | found (l k : Link) : SameEnd .drop ⟨l, .ok .done, [], []⟩ ⟨k, .error (.misuse .outOfRange), [], []⟩
  | missed (l k : Link) : SameEnd .drop ⟨l, .error (.misuse .outOfRange), [], []⟩ ⟨k, .ok .done, [], []⟩

theorem perform_anywhere (endpoints : List Endpoint) (l k : Link) (script : l.script = k.script)
    (t : Step) :
    (perform endpoints l t).state.script = (perform endpoints k t).state.script ∧
    SameEnd t (perform endpoints l t) (perform endpoints k t) := by
  cases t with
  | send i data =>
    simp only [perform]
    cases endpoints[i]? with
    | none => exact ⟨script, .same _ _ _ ⟨.error _, rfl, .nil⟩⟩
    | some e =>
      cases Alert.check data with
      | error is => exact ⟨script, .same _ _ _ ⟨.error _, rfl, .nil⟩⟩
      | ok a =>
        obtain ⟨left, same⟩ := l.send_anywhere k script e a
        exact ⟨left, .same _ _ _ ⟨same.result.map (fun _ _ _ => .done), same.logs, same.requests⟩⟩
  | close => exact ⟨script, .same _ _ _ ⟨.ok _ _ .done, rfl, .nil⟩⟩
  | acquire => exact ⟨script, .same _ _ _ ⟨.ok _ _ (.session _ _), rfl, .nil⟩⟩
  | drop =>
    simp only [perform, Link.drop?]
    cases l.courier.drop? with
    | none =>
      cases k.courier.drop? with
      | none => exact ⟨script, .same _ _ _ ⟨.error _, rfl, .nil⟩⟩
      | some d => exact ⟨script, .missed _ _⟩
    | some c =>
      cases k.courier.drop? with
      | none => exact ⟨script, .found _ _⟩
      | some d => exact ⟨script, .same _ _ _ ⟨.ok _ _ .done, rfl, .nil⟩⟩

theorem script_upkeep (endpoints : List Endpoint) (l : Link) (t : Step) (upkeep : t.IsUpkeep) :
    (perform endpoints l t).state.script = l.script := by
  cases t with
  | send => cases upkeep
  | close | acquire => rfl
  | drop =>
    simp only [perform, Link.drop?]
    cases l.courier.drop? <;> rfl

end Courier

namespace Relay

/-- Two relays that differ at most in their sessions, where both or neither have opened one. -/
structure Twin (s t : Relay) : Prop where
  rest : t = s.rewire s.live t.link
  script : s.link.script = t.link.script
  unused : s.link.courier.Unused ↔ t.link.courier.Unused

/-- The steps that look after sessions, or do nothing. -/
def Step.IsUpkeep : Step → Prop
  | .start | .close | .enter | .exit | .drop => True
  | _ => False

theorem Twin.symm {s t : Relay} (h : s.Twin t) : t.Twin s := by
  refine ⟨?_, h.script.symm, h.unused.symm⟩
  rw [h.rest]
  rfl

theorem Twin.endpoint {s t : Relay} (h : s.Twin t) : t.endpoint = s.endpoint := by
  rw [h.rest]
  rfl

theorem Twin.setLink {s t : Relay} (h : s.Twin t) (l k : Link) (script : l.script = k.script)
    (unused : l.courier.Unused ↔ k.courier.Unused) : (s.setLink l).Twin (t.setLink k) := by
  refine ⟨?_, script, unused⟩
  rw [h.rest]
  rfl

/-- Outcomes that differ at most in their sessions, and leave twins. -/
structure Paired {α : Type} (o q : Outcome Relay α) : Prop where
  state : o.state.Twin q.state
  same : Outcome.SameButSession (· = ·) o q

theorem alert_twin {s t : Relay} (h : s.Twin t) (o : Order) : Paired (s.alert o) (t.alert o) := by
  cases built : o.build with
  | error p =>
    rw [alert_unbuilt s o p built, alert_unbuilt t o p built]
    exact ⟨h, .error p, rfl, .nil⟩
  | ok a =>
    obtain ⟨script, sent⟩ := s.link.send_anywhere t.link h.script s.endpoint a
    have unused : (s.link.send s.endpoint a).state.courier.Unused ↔
        (t.link.send s.endpoint a).state.courier.Unused := by
      simp only [Link.send, Courier.send_unused, h.unused]
    have same : concluded o a (s.link.send s.endpoint a) = concluded o a (t.link.send s.endpoint a) := by
      simp only [concluded, sent.result.eq, sent.logs]
    rw [alert_built s o a built, alert_built t o a built, h.endpoint, same]
    exact ⟨h.setLink _ _ script unused, .refl (fun _ => rfl) _, rfl, sent.requests⟩

theorem perform_twin {s t : Relay} (h : s.Twin t) (a : Attempt) : Paired (a.perform s) (a.perform t) := by
  obtain ⟨state, result, logs, requests⟩ := alert_twin h a.order
  rw [perform_eq, perform_eq, result.eq, logs]
  exact ⟨state, .refl (fun _ => rfl) _, rfl, requests⟩

theorem attend_twin {s t : Relay} (h : s.Twin t) (x : Except Problem Attempt) :
    Paired (s.attend x) (t.attend x) := by
  cases x with
  | error p => exact ⟨h, .error p, rfl, .nil⟩
  | ok a =>
    obtain ⟨state, result, logs, requests⟩ := perform_twin h a
    exact ⟨state, result.map (fun _ _ _ => rfl), logs, requests⟩

theorem clerical_twin {s t : Relay} (h : s.Twin t) (x : Step) (clerical : x.isClerical = true) :
    Paired (s.step x) (t.step x) := by
  have moved := s.clerical_rewire s.live t.link x clerical ⟨rfl, rfl⟩
  obtain ⟨live, link⟩ := s.clerical_frame x clerical
  rw [← h.rest] at moved
  rw [moved]
  refine ⟨⟨?_, ?_, ?_⟩, .refl (fun _ => rfl) _, rfl, ?_⟩
  · simp only [rewired, live]
    rfl
  · rw [link]
    exact h.script
  · rw [link]
    exact h.unused
  · simp only [rewired, (s.clerical_silent x clerical).2]
    exact .nil

theorem update_twin {s t : Relay} (h : s.Twin t) (p : Proposal) : Paired (s.update p) (t.update p) := by
  have next : t.next = s.next := by rw [h.rest]; rfl
  have live : t.live = s.live := by rw [h.rest]; rfl
  unfold update
  rw [next, live]
  cases p.make s.next with
  | error x => exact ⟨h, .error x, rfl, .nil⟩
  | ok made =>
    simp only [bind, Except.bind]
    cases s.live.update made.1 with
    | error x => exact ⟨h, .error x, rfl, .nil⟩
    | ok put =>
      refine ⟨⟨?_, h.script, h.unused⟩, .refl (fun _ => rfl) _, rfl, .nil⟩
      rw [h.rest]
      rfl

theorem drop_twin {s t : Relay} (h : s.Twin t) : Paired (s.step .drop) (t.step .drop) := by
  have unused := h.unused
  rw [← Courier.drop?_eq_none_iff, ← Courier.drop?_eq_none_iff] at unused
  simp only [step, Link.drop?]
  cases hs : s.link.courier.drop? with
  | none =>
    rw [unused.mp hs]
    exact ⟨h, .error _, rfl, .nil⟩
  | some c =>
    cases ht : t.link.courier.drop? with
    | none =>
      rw [unused.mpr ht] at hs
      cases hs
    | some d =>
      have used := iff_of_false (Courier.drop?_used _ c hs) (Courier.drop?_used _ d ht)
      exact ⟨h.setLink _ _ h.script used, .refl (fun _ => rfl) _, rfl, .nil⟩

theorem step_twin {s t : Relay} (h : s.Twin t) (x : Step) : Paired (s.step x) (t.step x) := by
  cases asks : s.attempt x with
  | some a =>
    have asks₁ : t.attempt x = some a := by
      rw [h.rest, attempt_rewire, asks]
    rw [s.step_of_attempt x a asks, t.step_of_attempt x a asks₁]
    exact attend_twin h a
  | none =>
    cases x with
    | alert | handle | test => cases asks
    | config =>
      simp only [step, h.endpoint]
      exact ⟨h, .refl (fun _ => rfl) _, rfl, .nil⟩
    | update p =>
      obtain ⟨state, result, logs, requests⟩ := update_twin h p
      refine ⟨state, result.map (fun _ _ _ => ?_), logs, requests⟩
      exact congrArg Reply.endpoint state.endpoint.symm
    | close | exit =>
      refine ⟨h.setLink _ _ h.script ?_, .refl (fun _ => rfl) _, rfl, .nil⟩
      simp only [Link.close, Courier.close_unused, h.unused]
    | drop => exact drop_twin h
    | defaultRule | rule | testRule | testRuleOf | set | append | view | handler | start | enter =>
      exact clerical_twin h _ rfl

theorem Twin.trans {s t u : Relay} (h : s.Twin t) (k : t.Twin u) : s.Twin u := by
  refine ⟨?_, h.script.trans k.script, h.unused.trans k.unused⟩
  rw [k.rest, h.rest]
  rfl

theorem twin_setLink (s : Relay) (l : Link) (script : l.script = s.link.script)
    (unused : l.courier.Unused ↔ s.link.courier.Unused) : (s.setLink l).Twin s :=
  ⟨rfl, script, unused⟩

theorem upkeep_twin (s : Relay) (x : Step) (upkeep : x.IsUpkeep) : (s.step x).state.Twin s := by
  cases x with
  | start | enter => exact ⟨rfl, rfl, Iff.rfl⟩
  | close | exit => exact s.twin_setLink _ rfl s.link.courier.close_unused
  | drop =>
    simp only [step, Link.drop?]
    cases dropped : s.link.courier.drop? with
    | none => exact ⟨rfl, rfl, Iff.rfl⟩
    | some c =>
      have used : ¬ s.link.courier.Unused := by
        rw [← Courier.drop?_eq_none_iff, dropped]
        exact Option.some_ne_none c
      exact s.twin_setLink _ rfl (iff_of_false (Courier.drop?_used _ c dropped) used)
  | _ => cases upkeep

end Relay

/-- A delivery ends as on a new courier, but for its session, which is open. So a run of a courier
can be given more or fewer steps between the deliveries, and the other steps end the same;
and so do those of a relay. -/
theorem history_leaves_no_trace (endpoints : List Endpoint) (inForce : Endpoint)
    (script : List Response) :
    (∀ (c : Courier) (e : Endpoint) (a : Alert) (r : Response),
      Outcome.SameButSession (· = ·) (c.send e a r) (Courier.start.send e a r) ∧
      ∀ q ∈ (c.send e a r).requests, (c.send e a r).state.isOpen q.session = true) ∧
    (∀ plan : List (Turn Courier.Step.IsUpkeep),
      Unmoved Courier.SameEnd plan
        (Courier.run endpoints ⟨.start, script⟩ (plan.filterMap Turn.first?))
        (Courier.run endpoints ⟨.start, script⟩ (plan.filterMap Turn.second?))) ∧
    ∀ plan : List (Turn Relay.Step.IsUpkeep),
      Unmoved (fun _ o q => Outcome.SameButSession (· = ·) o q) plan
        ((Relay.start inForce script).run (plan.filterMap Turn.first?))
        ((Relay.start inForce script).run (plan.filterMap Turn.second?)) := by
  refine ⟨fun c e a r => ⟨c.send_anywhere .start e a r, c.send_isOpen e a r⟩, fun plan => ?_,
    fun plan => ?_⟩
  · apply unmoved_run (Courier.perform endpoints) (Courier.run endpoints) (fun _ => rfl)
      (fun _ _ _ => rfl) (fun l k => l.script = k.script)
    · exact fun l k same => same.symm
    · exact fun l k t same => Courier.perform_anywhere endpoints l k same t
    · exact fun l k t same extra => (Courier.script_upkeep endpoints l t extra).trans same
    · rfl
  · apply unmoved_run Relay.step Relay.run (fun _ => rfl) (fun _ _ _ => rfl) Relay.Twin
    · exact fun s t h => h.symm
    · intro s t x h
      obtain ⟨state, same⟩ := Relay.step_twin h x
      exact ⟨state, same⟩
    · exact fun s t x h extra => (s.upkeep_twin x extra).trans h
    · exact ⟨rfl, rfl, Iff.rfl⟩

/-- A courier that holds a session which others closed, and two runs of a relay, one of which is
closed and loses its session on the way to a refused delivery. -/
theorem stale_session_leaves_no_trace :
    let e : Endpoint := ⟨⟨true, "https://am.example/api", "ops", [], [], [], []⟩, by decide⟩
    let a : Alert := ⟨.firing, .empty, .empty⟩
    let script : List Response := [.ok, ⟨500, [255], none⟩]
    let c := (Courier.after [e] ⟨.start, script⟩ [.acquire, .drop, .close]).courier
    let alert : Relay.Step := .alert ⟨.text "ops", .texts [], .texts [], .texts [], .texts [],
      .level .critical⟩
    let plan : List (Turn Relay.Step.IsUpkeep) := [.first .start trivial, .both alert,
      .first .drop trivial, .first .close trivial, .both alert, .second .close trivial]
    c = ⟨[true], some 0, 0⟩ ∧
      (∃ q ∈ (c.send e a ⟨500, [], none⟩).requests, q.session = 1 ∧
        (c.send e a ⟨500, [], none⟩).state.isOpen q.session = true) ∧
      Unmoved (fun _ o q => Outcome.SameButSession (· = ·) o q) plan
        ((Relay.start e script).run (plan.filterMap Turn.first?))
        ((Relay.start e script).run (plan.filterMap Turn.second?)) := by
  intro e a script c alert plan
  obtain ⟨sends, _, relays⟩ := history_leaves_no_trace [e] e script
  have posted : (⟨1, e.url, a.body⟩ : Request) ∈ (c.send e a ⟨500, [], none⟩).requests :=
    List.mem_singleton.mpr rfl
  exact ⟨rfl, ⟨_, posted, rfl, (sends c e a _).2 _ posted⟩, relays plan⟩

end AlertRelay
