import AlertRelay.Proofs.Proposals
import AlertRelay.Proofs.Steps
import AlertRelay.Proofs.Exchange

/-! Requests are decided by the steps alone. What an exchange met leaves no trace but the count of
released answers, so two runs of the same steps make the same requests whatever they
meet, each delivery one at most and to the endpoint then in force. -/
namespace AlertRelay

namespace Courier

/-- A courier without the trace of its exchanges. -/
def bare (c : Courier) : Courier := ⟨c.closed, c.held, 0⟩

theorem release_bare (c : Courier) (r : Response) : (c.release r).bare = c.bare := by
  unfold release
  split <;> rfl

theorem acquire_bare (c : Courier) : c.bare.acquire = (c.acquire.1.bare, c.acquire.2) := by
  obtain ⟨closed, held, released⟩ := c
  cases held with
  | none => rfl
  | some i => cases hi : closed[i]? == some false <;> simp [bare, acquire, isOpen, hi]

theorem close_bare (c : Courier) : c.bare.close = c.close.bare := by
  obtain ⟨closed, held, released⟩ := c
  cases held with
  | none => rfl
  | some i => cases hi : closed[i]? == some false <;> simp [bare, close, isOpen, hi]

theorem drop?_bare (c : Courier) : c.bare.drop? = c.drop?.map bare := by
  cases h : c.closed.isEmpty <;> simp [drop?, bare, h]

theorem send_bare (c : Courier) (e : Endpoint) (a : Alert) (r r₁ : Response) :
    (c.send e a r).state.bare = (c.bare.send e a r₁).state.bare ∧
    (c.send e a r).requests = (c.bare.send e a r₁).requests := by
  cases on : e.enabled with
  | false =>
    rw [send_disabled c e a r on, send_disabled c.bare e a r₁ on]
    exact ⟨rfl, rfl⟩
  | true =>
    rw [send_enabled c e a r on, send_enabled c.bare e a r₁ on, acquire_bare]
    exact ⟨(release_bare _ r).trans (release_bare c.acquire.1.bare r₁).symm, rfl⟩

end Courier

namespace Relay

/-- A relay without the responses it will meet, and without the trace of those it met. -/
def bare (s : Relay) : Relay := s.rewire s.live ⟨s.link.courier.bare, []⟩

theorem alert_bare (s : Relay) (o : Order) :
    (s.alert o).state.bare = (s.bare.alert o).state.bare ∧
    (s.alert o).requests = (s.bare.alert o).requests := by
  cases h : o.build with
  | error p =>
    rw [alert_unbuilt s o p h, alert_unbuilt s.bare o p h]
    exact ⟨rfl, rfl⟩
  | ok a =>
    rw [alert_built s o a h, alert_built s.bare o a h]
    have same := s.link.courier.send_bare s.endpoint a (s.link.script.headD .ok) .ok
    refine ⟨?_, same.2⟩
    exact congrArg (fun c => s.rewire s.live ⟨c, []⟩) same.1

theorem attend_bare (s : Relay) (x : Except Problem Attempt) :
    (s.attend x).state.bare = (s.bare.attend x).state.bare := by
  cases x with
  | error p => rfl
  | ok a =>
    have same := (s.alert_bare a.order).1
    rw [← perform_state, ← perform_state] at same
    exact same

theorem clerical_bare (s : Relay) (t : Step) (h : t.isClerical = true) :
    (s.step t).state.bare = (s.bare.step t).state.bare := by
  have moved : s.bare.step t = rewired (s.step t) s.live ⟨s.link.courier.bare, []⟩ :=
    s.clerical_rewire s.live _ t h ⟨rfl, rfl⟩
  obtain ⟨live, link⟩ := s.clerical_frame t h
  rw [moved]
  simp only [bare, rewired, rewire, live, link]
  rfl

theorem update_bare (s : Relay) (p : Proposal) :
    (s.update p).state.bare = (s.bare.update p).state.bare := by
  unfold update
  have next : s.bare.next = s.next := rfl
  have live : s.bare.live = s.live := rfl
  rw [next, live]
  cases p.make s.next with
  | error x => rfl
  | ok made =>
    simp only [bind, Except.bind]
    cases s.live.update made.1 <;> rfl

/-- The trace of earlier exchanges does not show in what a step makes of the rest. -/
theorem step_bare (s : Relay) (t : Step) : (s.step t).state.bare = (s.bare.step t).state.bare := by
  cases t with
  | config => rfl
  | update p => exact s.update_bare p
  | alert | handle | test =>
    rw [s.step_of_attempt _ _ rfl, s.bare.step_of_attempt _ _ rfl]
    exact s.attend_bare _
  | close | exit =>
    have same : s.bare.link.courier.close = s.link.courier.close.bare := s.link.courier.close_bare
    exact congrArg (fun c => s.rewire s.live ⟨c.bare, []⟩) same.symm
  | drop =>
    have same : s.bare.link.courier.drop? = s.link.courier.drop?.map Courier.bare :=
      s.link.courier.drop?_bare
    simp only [step, Link.drop?, same]
    cases s.link.courier.drop? <;> rfl
  | defaultRule | rule | testRule | testRuleOf | set | append | view | handler | start | enter =>
    exact s.clerical_bare _ rfl

/-- The requests of a step while `e` is in force: one for an order whose alert can be built, if
the endpoint is enabled, and otherwise none. -/
def posts (s : Relay) (e : Endpoint) (t : Step) : List Request :=
  match s.attempt t with
  | some (.ok a) => match a.order.build with
    | .ok alert => if e.enabled then [⟨s.link.courier.acquire.2, e.url, alert.body⟩] else []
    | .error _ => []
  | _ => []

theorem alert_requests (s : Relay) (o : Order) : (s.alert o).requests = match o.build with
    | .ok a =>
      if s.endpoint.enabled then [⟨s.link.courier.acquire.2, s.endpoint.url, a.body⟩] else []
    | .error _ => [] := by
  cases h : o.build with
  | error p => rw [alert_unbuilt s o p h]
  | ok a =>
    rw [alert_built s o a h]
    cases on : s.endpoint.enabled with
    | false => simp [Link.send, Courier.send_disabled _ _ _ _ on]
    | true => simp [Link.send, Courier.send_enabled _ _ _ _ on]

theorem step_requests (s : Relay) (t : Step) : (s.step t).requests = s.posts s.endpoint t := by
  cases ht : s.attempt t with
  | some x =>
    rw [s.step_of_attempt t x ht]
    simp only [posts, ht]
    cases x with
    | error p => rfl
    | ok a => exact (perform_requests a s).trans (s.alert_requests a.order)
  | none =>
    have silent : (s.step t).requests = [] := by
      cases t with
      | alert | handle | test => cases ht
      | config | close | exit => rfl
      | update p =>
        simp only [step, update]
        split <;> rfl
      | drop =>
        simp only [step]
        cases s.link.drop? <;> rfl
      | defaultRule | rule | testRule | testRuleOf | set | append | view | handler | start | enter =>
        exact (s.clerical_silent _ rfl).2
    rw [silent]
    simp only [posts, ht]

theorem posts_bare (s : Relay) (e : Endpoint) (t : Step) : s.bare.posts e t = s.posts e t := by
  have session : s.bare.link.courier.acquire.2 = s.link.courier.acquire.2 := by
    change s.link.courier.bare.acquire.2 = _
    rw [Courier.acquire_bare]
  have asked : s.bare.attempt t = s.attempt t := s.attempt_rewire _ _ t
  simp only [posts, asked, session]

theorem run_bare (s : Relay) (steps : List Step) :
    (s.run steps).map Outcome.requests = (s.bare.run steps).map Outcome.requests := by
  induction steps generalizing s with
  | nil => rfl
  | cons t r ih =>
    have head : (s.step t).requests = (s.bare.step t).requests := by
      rw [step_requests, step_requests, posts_bare]
      rfl
    simp only [run, List.map_cons, head, ih (s.step t).state, ih (s.bare.step t).state, step_bare s t]

/-- The endpoint in force after some steps: the last one that a proposal put there, or `e`. -/
def inForce (e : Endpoint) (steps : List Step) : Endpoint :=
  steps.foldl (fun e t => match t with
    | .update p => p.endpoint?.getD e
    | _ => e) e

theorem update_accepted (s : Relay) (p : Proposal) (e : Endpoint) (h : p.endpoint? = some e) :
    s.update p = ⟨{ s with live := ⟨⟨s.next, e⟩⟩, next := s.next + 1 }, .ok (),
      [Live.updated e], []⟩ := by
  obtain ⟨cs, made, sole⟩ := p.accepted s.next e h
  simp only [update, Live.update, made, sole, bind, Except.bind]
  rfl

theorem update_refused (s : Relay) (p : Proposal) (h : p.endpoint? = none) :
    ∃ x, s.update p = ⟨s, .error x, [], []⟩ := by
  rcases p.refused s.next h with ⟨x, hx⟩ | ⟨b, n, x, made, sole⟩
  · exact ⟨x, by simp only [update, hx, bind, Except.bind]⟩
  · exact ⟨x, by simp only [update, Live.update, made, sole, bind, Except.bind]⟩

theorem attend_endpoint (s : Relay) (x : Except Problem Attempt) :
    (s.attend x).state.endpoint = s.endpoint := by
  obtain ⟨l, hl⟩ := s.attend_state x
  rw [hl]
  rfl

theorem endpoint_step (s : Relay) (t : Step) : (s.step t).state.endpoint = inForce s.endpoint [t] := by
  cases t with
  | update p =>
    cases h : p.endpoint? with
    | some e =>
      simp only [step, update_accepted s p e h, inForce, List.foldl_cons, List.foldl_nil, h]
      rfl
    | none =>
      obtain ⟨x, hx⟩ := s.update_refused p h
      simp only [step, hx, inForce, List.foldl_cons, List.foldl_nil, h]
      rfl
  | alert | handle | test =>
    rw [s.step_of_attempt _ _ rfl]
    exact s.attend_endpoint _
  | config | close | exit => rfl
  | drop =>
    simp only [step]
    cases s.link.drop? <;> rfl
  | defaultRule | rule | testRule | testRuleOf | set | append | view | handler | start | enter =>
    exact congrArg (fun l : Live => l.current.endpoint) (s.clerical_frame _ rfl).1

theorem endpoint_after (s : Relay) (steps : List Step) :
    (s.after steps).endpoint = inForce s.endpoint steps := by
  induction steps generalizing s with
  | nil => rfl
  | cons t r ih =>
    simp only [after, ih, endpoint_step]
    rfl

/-- Two runs of the same steps make the same requests whatever responses they meet. In each, a
step makes the requests that follow from its order and the endpoint in force, which is
the last one that was proposed with success. -/
theorem posts_decided_by_steps (e : Endpoint) (script script₁ : List Response) (steps : List Step) :
    ((start e script).run steps).map Outcome.requests =
      ((start e script₁).run steps).map Outcome.requests ∧
    ∀ before t,
      let s := (start e script).after before
      (s.step t).requests = s.posts (inForce e before) t ∧
      ∀ p, p.endpoint? = none ↔ ∃ x, (s.step (.update p)).result = .error x := by
  refine ⟨?_, fun before t => ⟨?_, fun p => ⟨fun h => ?_, fun ⟨x, hx⟩ => ?_⟩⟩⟩
  · rw [run_bare, run_bare (start e script₁)]
    rfl
  · rw [step_requests, endpoint_after]
    rfl
  · obtain ⟨x, hx⟩ := ((start e script).after before).update_refused p h
    exact ⟨x, by simp only [step, hx, Except.map]⟩
  · cases h : p.endpoint? with
    | none => rfl
    | some e₁ => simp [step, update_accepted _ p e₁ h, Except.map] at hx

end Relay
end AlertRelay
