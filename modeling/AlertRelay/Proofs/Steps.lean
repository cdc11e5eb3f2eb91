import AlertRelay.Relay.Session

/-! What a step does to a relay. A step delivers an order, or it works on rules and names, or it
changes the endpoint or the sessions. Work on rules and names looks at neither the
link nor the address of the endpoint, so it goes on the same when those are replaced. -/
namespace AlertRelay.Relay

/-- What a step delivers: an order, and for a handler the sink that its failures go to. -/
structure Attempt where
  order : Order
  sink? : Option Sink

/-- The delivery that a step asks for, or what keeps it from asking. -/
def attempt (s : Relay) : Step → Option (Except Problem Attempt)
  | .alert o => some (.ok ⟨o, none⟩)
  | .handle id event => some (do
      let h ← s.handlerOf id
      let e ← Problem.ofChecked (Event.check event)
      let d ← s.draftAt h.draft
      return ⟨orderOf d (.level e.level), some h.sink⟩)
  | .test subject => some (do
      let d ← s.subject subject
      if d.isTest then return ⟨orderOf d (.level .critical), none⟩
      else throw (.adapter (.optionsType d.typeName)))
  | _ => none

/-- Delivers an order. With a sink the relay's own errors are reported there instead. -/
def Attempt.perform (a : Attempt) (s : Relay) : Outcome Relay Unit :=
  let out := s.alert a.order
  match a.sink?, out.result with
  | some k, .error (.adapter err) =>
    ⟨out.state, .ok (), out.logs ++ [k.report failedToHandle (.adapter err)], out.requests⟩
  | _, _ => out

def attend (s : Relay) : Except Problem Attempt → Outcome Relay Reply
  | .ok a => delivery (a.perform s)
  | .error p => s.fails p

theorem handle_eq_perform (s : Relay) (k : Sink) (d : Draft) (e : Event) :
    s.handle k d e = Attempt.perform ⟨orderOf d (.level e.level), some k⟩ s := by
  simp only [handle, Attempt.perform]
  split
  · rename_i err h
    simp only [h]
  · rename_i other
    split
    · rename_i err _ h
      exact absurd h (other err)
    · rfl

theorem step_of_attempt (s : Relay) (t : Step) (x : Except Problem Attempt)
    (asks : s.attempt t = some x) : s.step t = s.attend x := by
  cases t with
  | alert o => exact Option.some.inj asks ▸ rfl
  | handle id event =>
    rw [← Option.some.inj asks]
    cases hh : s.handlerOf id with
    | error p => simp only [step, hh, bind, Except.bind, attend]
    | ok h =>
      cases he : Problem.ofChecked (Event.check event) with
      | error p => simp only [step, hh, he, bind, Except.bind, attend]
      | ok e =>
        cases hd : s.draftAt h.draft with
        | error p => simp only [step, hh, he, hd, bind, Except.bind, attend]
        | ok d =>
          simp only [step, hh, he, hd, bind, Except.bind, handle_eq_perform]
          rfl
  | test subject =>
    rw [← Option.some.inj asks]
    cases hd : s.subject subject with
    | error p => simp only [step, hd, bind, Except.bind, attend]
    | ok d =>
      cases ht : d.isTest
      · simp only [step, hd, test, ht, bind, Except.bind, Bool.false_eq_true, if_false]
        rfl
      · simp only [step, hd, test, ht, bind, Except.bind, if_true]
        rfl
  | _ => cases asks

/-- What is left of an order once its alert was sent: the delivery is logged if it succeeded. -/
def concluded (o : Order) (a : Alert) (out : Outcome Link Unit) :
    Except Problem Unit × List Log.Entry :=
  match out.result with
  | .error p => (.error p, out.logs)
  | .ok () => match delivered o a with
    | .ok entry => (.ok (), out.logs ++ [entry])
    | .error p => (.error p, out.logs)

theorem alert_unbuilt (s : Relay) (o : Order) (p : Problem) (h : o.build = .error p) :
    s.alert o = ⟨s, .error p, [], []⟩ := by
  simp only [alert, h]

theorem alert_built (s : Relay) (o : Order) (a : Alert) (h : o.build = .ok a) :
    s.alert o = ⟨s.setLink (s.link.send s.endpoint a).state,
      (concluded o a (s.link.send s.endpoint a)).1, (concluded o a (s.link.send s.endpoint a)).2,
      (s.link.send s.endpoint a).requests⟩ := by
  simp only [alert, h, concluded]
  cases (s.link.send s.endpoint a).result with
  | error p => rfl
  | ok _ => cases delivered o a <;> rfl

theorem alert_state (s : Relay) (o : Order) : ∃ l, (s.alert o).state = s.setLink l := by
  cases h : o.build with
  | error p => exact ⟨s.link, congrArg Outcome.state (alert_unbuilt s o p h)⟩
  | ok a => exact ⟨_, congrArg Outcome.state (alert_built s o a h)⟩

/-- What becomes of the result of a delivery, and the entries that are added for it. -/
def Attempt.settled (a : Attempt) (result : Except Problem Unit) : Except Problem Unit × List Log.Entry :=
  match a.sink?, result with
  | some k, .error (.adapter err) => (.ok (), [k.report failedToHandle (.adapter err)])
  | _, result => (result, [])

theorem perform_eq (a : Attempt) (s : Relay) :
    a.perform s = ⟨(s.alert a.order).state, (a.settled (s.alert a.order).result).1,
      (s.alert a.order).logs ++ (a.settled (s.alert a.order).result).2, (s.alert a.order).requests⟩ := by
  unfold Attempt.perform Attempt.settled
  dsimp only
  split
  · rfl
  · rw [List.append_nil]

theorem perform_state (a : Attempt) (s : Relay) : (a.perform s).state = (s.alert a.order).state := by
  rw [perform_eq]

theorem perform_requests (a : Attempt) (s : Relay) :
    (a.perform s).requests = (s.alert a.order).requests := by
  rw [perform_eq]

theorem attend_state (s : Relay) (x : Except Problem Attempt) :
    ∃ l, (s.attend x).state = s.setLink l := by
  cases x with
  | error p => exact ⟨s.link, rfl⟩
  | ok a =>
    obtain ⟨l, hl⟩ := s.alert_state a.order
    exact ⟨l, (perform_state a s).trans hl⟩

/-- Work on rules and names, and steps that do nothing. -/
def Step.isClerical : Step → Bool
  | .defaultRule _ | .rule _ _ | .testRule _ | .testRuleOf _ _ | .set _ _ _ | .append _ _ _
  | .view _ | .handler _ _ _ | .start | .enter => true
  | _ => false

/-- The same rules and names with another endpoint in force and another link. -/
def rewire (s : Relay) (l : Live) (k : Link) : Relay := { s with live := l, link := k }

def rewired (o : Outcome Relay Reply) (l : Live) (k : Link) : Outcome Relay Reply :=
  { o with state := o.state.rewire l k }

/-- Two endpoints that new rules are made from in the same way. -/
def SameTemplates (e f : Endpoint) : Prop := defaultRule e = defaultRule f ∧ testRule e = testRule f

theorem attempt_rewire (s : Relay) (l : Live) (k : Link) (t : Step) :
    (s.rewire l k).attempt t = s.attempt t := by
  cases t <;> rfl

theorem quiet_rewire (s : Relay) (l : Live) (k : Link) (r : Except Problem (Relay × Reply)) :
    (s.rewire l k).quiet (r.map (fun p => (p.1.rewire l k, p.2))) = rewired (s.quiet r) l k := by
  cases r <;> rfl

theorem made_rewire (s : Relay) (l : Live) (k : Link) (id : Text) (c : Checked Draft) :
    (s.rewire l k).made id c = rewired (s.made id c) l k := by
  cases c <;> rfl

theorem change_rewire (s : Relay) (l : Live) (k : Link) (id field : Text)
    (f : Draft → Except Misuse Draft) :
    (s.rewire l k).change id field f = rewired (s.change id field f) l k := by
  unfold change
  rw [← quiet_rewire]
  have hr : (s.rewire l k).ruleOf id field = s.ruleOf id field := rfl
  have hd : (s.rewire l k).draftAt = s.draftAt := rfl
  rw [hr, hd]
  cases s.ruleOf id field with
  | error p => rfl
  | ok serial =>
    cases hd : s.draftAt serial with
    | error p => simp only [hd, bind, Except.bind, Except.map]
    | ok d =>
      simp only [hd, bind, Except.bind]
      cases Problem.ofMisused (f d) <;> rfl

theorem clerical_rewire (s : Relay) (l : Live) (k : Link) (t : Step) (h : t.isClerical = true)
    (same : SameTemplates l.current.endpoint s.endpoint) :
    (s.rewire l k).step t = rewired (s.step t) l k := by
  cases t with
  | defaultRule id =>
    have he : Relay.defaultRule (s.rewire l k).endpoint = Relay.defaultRule s.endpoint := same.1
    simp only [step, he, made_rewire]
  | testRule id =>
    have he : Relay.testRule (s.rewire l k).endpoint = Relay.testRule s.endpoint := same.2
    simp only [step, he, made_rewire]
  | rule id data => exact made_rewire s l k id _
  | testRuleOf id data => exact made_rewire s l k id _
  | set id field v => exact change_rewire s l k id field _
  | append id field v => exact change_rewire s l k id field _
  | view id =>
    simp only [step]
    rw [← quiet_rewire]
    have hr : (s.rewire l k).ruleOf id (Part.name .room) = s.ruleOf id (Part.name .room) := rfl
    have hs : (s.rewire l k).shown = s.shown := rfl
    rw [hr, hs]
    cases s.ruleOf id (Part.name .room) with
    | error p => rfl
    | ok serial =>
      simp only [bind, Except.bind]
      cases s.shown serial <;> rfl
  | handler id draft context =>
    simp only [step]
    rw [← quiet_rewire]
    have hr : (s.rewire l k).ruleOf draft (Part.name .room) = s.ruleOf draft (Part.name .room) := rfl
    have hs : (s.rewire l k).shown = s.shown := rfl
    rw [hr, hs]
    cases s.ruleOf draft (Part.name .room) with
    | error p => rfl
    | ok serial =>
      simp only [bind, Except.bind]
      cases Problem.ofMisused (handlerSink context) with
      | error p => rfl
      | ok sink => cases s.shown serial <;> rfl
  | start => rfl
  | enter => rfl
  | _ => cases h

theorem quiet_silent (s : Relay) (r : Except Problem (Relay × Reply)) :
    (s.quiet r).logs = [] ∧ (s.quiet r).requests = [] := by
  cases r <;> exact ⟨rfl, rfl⟩

theorem clerical_silent (s : Relay) (t : Step) (h : t.isClerical = true) :
    (s.step t).logs = [] ∧ (s.step t).requests = [] := by
  cases t with
  | start => exact ⟨rfl, rfl⟩
  | enter => exact ⟨rfl, rfl⟩
  | defaultRule | rule | testRule | testRuleOf | set | append | view | handler =>
    exact quiet_silent s _
  | _ => cases h

theorem clerical_frame (s : Relay) (t : Step) (h : t.isClerical = true) :
    (s.step t).state.live = s.live ∧ (s.step t).state.link = s.link := by
  have same : (s.step t).state = (rewired (s.step t) s.live s.link).state :=
    congrArg Outcome.state (clerical_rewire s s.live s.link t h ⟨rfl, rfl⟩)
  rw [same]
  exact ⟨rfl, rfl⟩

end AlertRelay.Relay
