import AlertRelay.Proofs.Rooms

/-! Rooms and messages are not told on. Two runs whose rooms, messages and event details differ post
the same requests and fail in the same way, step by step. What is logged differs in rooms
alone, so that with the same rooms the logs are the same. -/
namespace AlertRelay.Relay

variable (rooms : Prop)

/-- Two relays side by side, whose endpoints and rules differ at most in room and message. -/
structure Coupled (s t : Relay) : Prop where
  endpoint : s.endpoint.SameButRoom rooms t.endpoint
  next : s.next = t.next
  link : s.link = t.link
  drafts : List.Forall₂ (Draft.Paired rooms) s.drafts t.drafts
  names : s.names = t.names

/-- The same steps, but for rooms, messages and what an event says beside its level. -/
inductive Step.Paired : Step → Step → Prop
  | same (t : Step) : Paired t t
  | update (p q : Proposal) (h : p.SameButRoom rooms q) : Paired (.update p) (.update q)
  | test (i j : Item) (h : i.SameButRoom rooms j) : Paired (.test (.item i)) (.test (.item j))
  | rule (id : Text) (data data₁ : Raw) (h : data.SameButRoom rooms data₁) :
      Paired (.rule id data) (.rule id data₁)
  | testRule (id : Text) (data data₁ : Raw) (h : data.SameButRoomAndMessage rooms data₁) :
      Paired (.testRuleOf id data) (.testRuleOf id data₁)
  | set (id : Text) (p : Part) (v w : Value) (h : p.Paired rooms v w) :
      Paired (.set id p.name v) (.set id p.name w)
  | handle (id : Text) (event event₁ : Raw) (h : event.SameLevel event₁) :
      Paired (.handle id event) (.handle id event₁)
  | alert (o o₁ : Order) (h : o.SameButRoom rooms o₁) : Paired (.alert o) (.alert o₁)

inductive Reply.Paired : Reply → Reply → Prop
  | same (r : Reply) : Paired r r
  | endpoint (e f : Endpoint) (h : e.SameButRoom rooms f) : Paired (.endpoint e) (.endpoint f)

/-- Two outcomes with the same requests and the same error, if any. -/
structure OutcomePaired {α : Type} (R : α → α → Prop) (o q : Outcome Relay α) : Prop where
  state : o.state.Coupled rooms q.state
  result : Agree R o.result q.result
  logs : rooms → o.logs = q.logs
  requests : o.requests = q.requests

structure Attempt.Paired (a a₁ : Attempt) : Prop where
  order : a.order.SameButRoom rooms a₁.order
  sink : a.sink? = a₁.sink?

variable {rooms} {s t : Relay}

theorem concluded_paired {o o₁ : Order} (h : o.SameButRoom rooms o₁) (a : Alert)
    (out : Outcome Link Unit) :
    (concluded o a out).1 = (concluded o₁ a out).1 ∧
      (rooms → (concluded o a out).2 = (concluded o₁ a out).2) := by
  unfold concluded
  cases out.result with
  | error p => exact ⟨rfl, fun _ => rfl⟩
  | ok _ =>
    have entries := h.delivered a
    simp only
    generalize delivered o a = x at entries ⊢
    generalize delivered o₁ a = y at entries ⊢
    cases entries with
    | error p => exact ⟨rfl, fun _ => rfl⟩
    | ok entry entry₁ same => exact ⟨rfl, fun seen => by rw [same seen]⟩

theorem Coupled.setLink (h : s.Coupled rooms t) (l : Link) : (s.setLink l).Coupled rooms (t.setLink l) :=
  ⟨h.endpoint, h.next, rfl, h.drafts, h.names⟩

theorem alert_coupled (h : s.Coupled rooms t) {o o₁ : Order} (same : o.SameButRoom rooms o₁) :
    OutcomePaired rooms (· = ·) (s.alert o) (t.alert o₁) := by
  cases built : o.build with
  | error p =>
    rw [alert_unbuilt s o p built, alert_unbuilt t o₁ p (same.parts.1 ▸ built)]
    exact ⟨h, .error p, fun _ => rfl, rfl⟩
  | ok a =>
    have sent : t.link.send t.endpoint a = s.link.send s.endpoint a := by
      rw [← h.link, h.endpoint.send]
    obtain ⟨result, logs⟩ := concluded_paired same a (s.link.send s.endpoint a)
    rw [alert_built s o a built, alert_built t o₁ a (same.parts.1 ▸ built), sent, result]
    exact ⟨h.setLink _, .refl (fun _ => rfl) _, logs, rfl⟩

theorem perform_coupled (h : s.Coupled rooms t) {a a₁ : Attempt} (same : a.Paired rooms a₁) :
    OutcomePaired rooms (· = ·) (a.perform s) (a₁.perform t) := by
  obtain ⟨state, result, logs, requests⟩ := alert_coupled h same.order
  have settled : a.settled = a₁.settled := by
    unfold Attempt.settled
    rw [same.sink]
  rw [perform_eq, perform_eq, result.eq, settled]
  exact ⟨state, .refl (fun _ => rfl) _, fun seen => by rw [logs seen], requests⟩

theorem attend_coupled (h : s.Coupled rooms t) {x y : Except Problem Attempt}
    (same : Agree (Attempt.Paired rooms) x y) :
    OutcomePaired rooms (Reply.Paired rooms) (s.attend x) (t.attend y) := by
  cases same with
  | error p => exact ⟨h, .error p, fun _ => rfl, rfl⟩
  | ok a a₁ paired =>
    obtain ⟨state, result, logs, requests⟩ := perform_coupled h paired
    exact ⟨state, result.map (fun _ _ _ => .same .done), logs, requests⟩

theorem draftAt_coupled (h : s.Coupled rooms t) (serial : Nat) :
    Agree (Draft.Paired rooms) (s.draftAt serial) (t.draftAt serial) := by
  have length := h.drafts.length_eq
  unfold draftAt
  by_cases bound : serial < s.drafts.length
  · have bound₁ : serial < t.drafts.length := length ▸ bound
    rw [List.getElem?_eq_getElem bound, List.getElem?_eq_getElem bound₁]
    exact .ok _ _ (h.drafts.get bound bound₁)
  · rw [List.getElem?_eq_none (Nat.not_lt.mp bound),
      List.getElem?_eq_none (Nat.not_lt.mp (length ▸ bound))]
    exact .error _

theorem ruleOf_coupled (h : s.Coupled rooms t) (id field : Text) : s.ruleOf id field = t.ruleOf id field := by
  simp only [ruleOf, named, h.names]

theorem handlerOf_coupled (h : s.Coupled rooms t) (id : Text) :
    Agree (· = ·) (s.handlerOf id) (t.handlerOf id) := by
  unfold handlerOf named
  rw [h.names]
  apply Agree.bind (.refl (fun _ => rfl) _)
  rintro (draft | k) _ rfl
  · apply (draftAt_coupled h draft).bind
    intro d d₁ paired
    rw [paired.typeName]
    exact .error _
  · exact .ok k k rfl

theorem subject_coupled (h : s.Coupled rooms t) (x : Subject) :
    Agree (Draft.Paired rooms) (s.subject x) (t.subject x) := by
  cases x with
  | named id =>
    simp only [subject, named, h.names]
    apply Agree.bind (.refl (fun _ => rfl) _)
    rintro (draft | k) _ rfl
    · exact draftAt_coupled h draft
    · exact .error _
  | item i =>
    cases i with
    | testRule => exact .ok _ _ (.refl _)
    | endpoint | narrowed | object | value =>
      simp only [subject, h.next]
      exact .refl Draft.Paired.refl _

theorem subject_item_coupled (h : s.Coupled rooms t) {i j : Item} (same : i.SameButRoom rooms j) :
    Agree (Draft.Paired rooms) (s.subject (.item i)) (t.subject (.item j)) := by
  cases same with
  | same => exact subject_coupled h _
  | endpoint data data₁ same =>
    simp only [subject, h.next]
    apply (Item.make_sameButRoom t.next _ _ (.endpoint data data₁ same)).bind
    intro _ _ _
    exact .error _

theorem testing_coupled {x y : Except Problem Draft} (same : Agree (Draft.Paired rooms) x y) :
    Agree (Attempt.Paired rooms)
      (x >>= fun d => if d.isTest then return ⟨orderOf d (.level .critical), none⟩
        else throw (.adapter (.optionsType d.typeName)))
      (y >>= fun d => if d.isTest then return ⟨orderOf d (.level .critical), none⟩
        else throw (.adapter (.optionsType d.typeName))) := by
  apply same.bind
  intro d d₁ paired
  rw [paired.isTest, paired.typeName]
  split
  · exact .ok _ _ ⟨orderOf_sameButRoom paired _, rfl⟩
  · exact .error _

theorem handling_coupled (h : s.Coupled rooms t) (id : Text) {x y : Checked Event}
    (same : Checked.Alike (fun e e₁ => e.level = e₁.level) x y) :
    Agree (Attempt.Paired rooms)
      (do
        let k ← s.handlerOf id
        let e ← Problem.ofChecked x
        let d ← s.draftAt k.draft
        return ⟨orderOf d (.level e.level), some k.sink⟩)
      (do
        let k ← t.handlerOf id
        let e ← Problem.ofChecked y
        let d ← t.draftAt k.draft
        return ⟨orderOf d (.level e.level), some k.sink⟩) := by
  apply (handlerOf_coupled h id).bind
  rintro k _ rfl
  apply same.agree.bind
  intro e e₁ level
  apply (draftAt_coupled h k.draft).bind
  intro d d₁ paired
  rw [level]
  exact .ok _ _ ⟨orderOf_sameButRoom paired _, rfl⟩

theorem attempt_coupled (h : s.Coupled rooms t) {x y : Step} (same : x.Paired rooms y) :
    Option.Rel (Agree (Attempt.Paired rooms)) (s.attempt x) (t.attempt y) := by
  cases same with
  | alert o o₁ same => exact .some (.ok _ _ ⟨same, rfl⟩)
  | handle id event event₁ same => exact .some (handling_coupled h id (Event.check_sameLevel same))
  | test i j same => exact .some (testing_coupled (subject_item_coupled h same))
  | update | rule | testRule | set => exact .none
  | same x =>
    cases x with
    | alert o => exact .some (.ok _ _ ⟨.refl o, rfl⟩)
    | handle id event =>
      have level (e : Event) : e.level = e.level := rfl
      exact .some (handling_coupled h id (Checked.Alike.refl level _))
    | test x => exact .some (testing_coupled (subject_coupled h x))
    | _ => exact .none

theorem quiet_coupled (h : s.Coupled rooms t) {x y : Except Problem (Relay × Reply)}
    (same : Agree (fun p q => p.1.Coupled rooms q.1 ∧ p.2 = q.2) x y) :
    OutcomePaired rooms (Reply.Paired rooms) (s.quiet x) (t.quiet y) := by
  cases same with
  | error p => exact ⟨h, .error p, fun _ => rfl, rfl⟩
  | ok p q same =>
    obtain ⟨state, reply⟩ := same
    refine ⟨state, .ok _ _ ?_, fun _ => rfl, rfl⟩
    rw [reply]
    exact .same q.2

theorem addDraft_coupled (h : s.Coupled rooms t) (id : Text) {d d₁ : Draft} (paired : d.Paired rooms d₁) :
    (s.addDraft id d).Coupled rooms (t.addDraft id d₁) := by
  refine ⟨h.endpoint, h.next, h.link, List.rel_append h.drafts (.cons paired .nil), ?_⟩
  simp only [addDraft, h.names, h.drafts.length_eq]

theorem made_coupled (h : s.Coupled rooms t) (id : Text) {c c₁ : Checked Draft}
    (same : Checked.Alike (Draft.Paired rooms) c c₁) :
    OutcomePaired rooms (Reply.Paired rooms) (s.made id c) (t.made id c₁) := by
  apply quiet_coupled h
  apply same.agree.bind
  intro d d₁ paired
  refine .ok _ _ ⟨addDraft_coupled h id paired, ?_⟩
  rw [h.drafts.length_eq, paired.versions]

theorem forall₂_set {α β : Type} {R : α → β → Prop} {as : List α} {bs : List β}
    (h : List.Forall₂ R as bs) (i : Nat) {a : α} {b : β} (hab : R a b) :
    List.Forall₂ R (as.set i a) (bs.set i b) := by
  induction h generalizing i with
  | nil => exact .nil
  | cons head tail ih =>
    cases i with
    | zero => exact .cons hab tail
    | succ i => exact .cons head (ih i)

theorem change_coupled (h : s.Coupled rooms t) (id field : Text) {f g : Draft → Except Misuse Draft}
    (same : ∀ d d₁, d.Paired rooms d₁ →
      Agree (Draft.Paired rooms) (Problem.ofMisused (f d)) (Problem.ofMisused (g d₁))) :
    OutcomePaired rooms (Reply.Paired rooms) (s.change id field f) (t.change id field g) := by
  apply quiet_coupled h
  rw [ruleOf_coupled h]
  apply Agree.bind (.refl (fun _ => rfl) _)
  rintro serial _ rfl
  apply (draftAt_coupled h serial).bind
  intro d d₁ paired
  apply (same d d₁ paired).bind
  intro c c₁ changed
  refine .ok _ _ ⟨⟨h.endpoint, h.next, h.link, forall₂_set h.drafts serial changed, h.names⟩, ?_⟩
  rw [changed.versions]

theorem shown_coupled (h : s.Coupled rooms t) (serial : Nat) : s.shown serial = t.shown serial := by
  apply Agree.eq
  apply (draftAt_coupled h serial).map
  intro d d₁ paired
  rw [paired.versions]

theorem view_coupled (h : s.Coupled rooms t) (id : Text) :
    OutcomePaired rooms (Reply.Paired rooms) (s.step (.view id)) (t.step (.view id)) := by
  apply quiet_coupled h
  rw [ruleOf_coupled h]
  apply Agree.bind (.refl (fun _ => rfl) _)
  rintro serial _ rfl
  rw [shown_coupled h]
  apply Agree.bind (.refl (fun _ => rfl) _)
  rintro reply _ rfl
  exact .ok _ _ ⟨h, rfl⟩

theorem handler_coupled (h : s.Coupled rooms t) (id draft : Text) (context : Fields Value) :
    OutcomePaired rooms (Reply.Paired rooms) (s.step (.handler id draft context))
      (t.step (.handler id draft context)) := by
  apply quiet_coupled h
  rw [ruleOf_coupled h]
  apply Agree.bind (.refl (fun _ => rfl) _)
  rintro serial _ rfl
  apply Agree.bind (.refl (fun _ => rfl) _)
  rintro sink _ rfl
  rw [shown_coupled h]
  apply Agree.bind (.refl (fun _ => rfl) _)
  rintro reply _ rfl
  refine .ok _ _ ⟨⟨h.endpoint, h.next, h.link, h.drafts, ?_⟩, rfl⟩
  rw [h.names]

theorem update_coupled (h : s.Coupled rooms t) {p q : Proposal} (same : p.SameButRoom rooms q) :
    OutcomePaired rooms (· = ·) (s.update p) (t.update q) := by
  have made := Proposal.make_sameButRoom t.next p q same
  unfold update
  rw [h.next]
  generalize p.make t.next = x at made ⊢
  generalize q.make t.next = y at made ⊢
  cases made with
  | error p => exact ⟨h, .error p, fun _ => rfl, rfl⟩
  | ok x y made =>
    obtain ⟨batch, next⟩ := made
    have stored := Live.update_sameButRoom s.live t.live batch
    simp only [bind, Except.bind, next]
    generalize s.live.update x.1 = l at stored ⊢
    generalize t.live.update y.1 = k at stored ⊢
    cases stored with
    | error p => exact ⟨h, .error p, fun _ => rfl, rfl⟩
    | ok l k stored =>
      exact ⟨⟨stored.1, rfl, h.link, h.drafts, h.names⟩, .ok () () trivial,
        fun seen => congrArg ([·]) (stored.2 seen), rfl⟩

theorem replace_coupled (h : s.Coupled rooms t) {p q : Proposal} (same : p.SameButRoom rooms q) :
    OutcomePaired rooms (Reply.Paired rooms) (s.step (.update p)) (t.step (.update q)) := by
  obtain ⟨state, result, logs, requests⟩ := update_coupled h same
  exact ⟨state, result.map (fun _ _ _ => .endpoint _ _ state.endpoint), logs, requests⟩

theorem set_coupled (h : s.Coupled rooms t) (id : Text) (p : Part) {v w : Value}
    (paired : p.Paired rooms v w) :
    OutcomePaired rooms (Reply.Paired rooms) (s.step (.set id p.name v)) (t.step (.set id p.name w)) := by
  apply change_coupled h
  intro d d₁ drafts
  apply Draft.set_paired drafts
  · intro q same
    have part : q = p := by
      cases p <;> cases q <;> first | rfl | exact absurd same (by decide)
    exact part ▸ paired
  · intro hidden
    cases p <;> exact absurd hidden (by decide)

theorem relinked_coupled (h : s.Coupled rooms t) (l : Link) (r : Reply) :
    OutcomePaired rooms (Reply.Paired rooms) ⟨s.setLink l, .ok r, [], []⟩ ⟨t.setLink l, .ok r, [], []⟩ :=
  ⟨h.setLink l, .refl .same _, fun _ => rfl, rfl⟩

/-- A step that both relays take, and which delivers nothing. -/
theorem common_coupled (h : s.Coupled rooms t) (x : Step) (asks : s.attempt x = none) :
    OutcomePaired rooms (Reply.Paired rooms) (s.step x) (t.step x) := by
  cases x with
  | alert | handle | test => cases asks
  | config => exact ⟨h, .ok _ _ (.endpoint _ _ h.endpoint), fun _ => rfl, rfl⟩
  | update p => exact replace_coupled h (.refl p)
  | defaultRule id => exact made_coupled h id (.ok _ _ (Draft.ofRule_paired h.endpoint.templates.1))
  | testRule id => exact made_coupled h id (.ok _ _ (Draft.ofTestRule_paired h.endpoint.templates.2))
  | rule id data => exact made_coupled h id (.refl Draft.Paired.refl _)
  | testRuleOf id data => exact made_coupled h id (.refl Draft.Paired.refl _)
  | set id field v =>
    exact change_coupled h id field (fun _ _ paired =>
      Draft.set_paired paired field v v (fun _ _ => .refl v) (fun _ => rfl))
  | append id field v =>
    exact change_coupled h id field (fun _ _ paired => Draft.append_paired paired field v)
  | view id => exact view_coupled h id
  | handler id draft context => exact handler_coupled h id draft context
  | start | enter => exact ⟨h, .refl .same _, fun _ => rfl, rfl⟩
  | close | exit =>
    simp only [step, h.link]
    exact relinked_coupled h t.link.close .done
  | drop =>
    simp only [step, h.link]
    cases t.link.drop? with
    | none => exact ⟨h, .error _, fun _ => rfl, rfl⟩
    | some l => exact relinked_coupled h l .done

theorem step_coupled (h : s.Coupled rooms t) {x y : Step} (same : x.Paired rooms y) :
    OutcomePaired rooms (Reply.Paired rooms) (s.step x) (t.step y) := by
  -- A delivery is asked for in both runs or in neither.
  have asked := attempt_coupled h same
  cases asks : s.attempt x with
  | some a =>
    cases asks₁ : t.attempt y with
    | some a₁ =>
      rw [asks, asks₁] at asked
      cases asked with
      | some attempts =>
        rw [s.step_of_attempt x a asks, t.step_of_attempt y a₁ asks₁]
        exact attend_coupled h attempts
    | none =>
      rw [asks, asks₁] at asked
      cases asked
  | none =>
    cases same with
    | alert | handle | test => cases asks
    | same x => exact common_coupled h x asks
    | update p q same => exact replace_coupled h same
    | rule id data data₁ same =>
      have made := (Rule.check_sameButRoom same.rest (by decide) same.room).map
        (fun _ _ rules => Draft.ofRule_paired rules)
      exact made_coupled h id made
    | testRule id data data₁ same =>
      have made := (TestRule.check_sameButRoom same).map (fun _ _ rules => Draft.ofTestRule_paired rules)
      exact made_coupled h id made
    | set id p v w paired => exact set_coupled h id p paired

theorem run_coupled (h : s.Coupled rooms t) {steps steps₁ : List Step}
    (same : List.Forall₂ (Step.Paired rooms) steps steps₁) :
    List.Forall₂ (OutcomePaired rooms (Reply.Paired rooms)) (s.run steps) (t.run steps₁) := by
  induction same generalizing s t with
  | nil => exact .nil
  | cons hxy _ ih =>
    have head := step_coupled h hxy
    exact .cons head (ih head.state)

/-- Two runs that differ in rooms, messages and event details post the same requests and fail in the
same way, step by step. With the same rooms they log the same entries. -/
theorem rooms_and_messages_untold (rooms : Prop) (e f : Endpoint) (endpoint : e.SameButRoom rooms f)
    (script : List Response) (steps steps₁ : List Step)
    (same : List.Forall₂ (Step.Paired rooms) steps steps₁) :
    List.Forall₂ (OutcomePaired rooms (Reply.Paired rooms)) ((start e script).run steps)
      ((start f script).run steps₁) := by
  have started : (start e script).Coupled rooms (start f script) := ⟨endpoint, rfl, rfl, .nil, rfl⟩
  exact run_coupled started same

/-- A handler, a self-test, a new endpoint and an alert, in other rooms and with other messages; and
then with other messages alone. -/
theorem other_rooms_unseen :
    let web : isWebUrl "https://am.example/api" = true := by decide
    let e (room : Text) : Endpoint :=
      ⟨⟨true, "https://am.example/api", room, [], [], [], []⟩, fun _ => web⟩
    let steps (room message : Text) : List Step :=
      [.rule "c" [(.text "room", .text room)], .handler "h" "c" [],
        .handle "h" [(.text "message", .text message), (.text "level", .int 3)],
        .testRuleOf "t" [(.text "message", .text message)], .set "t" (Part.name .room) (.text room),
        .test (.named "t"),
        .update (.items [.endpoint [(.text "room", .text room), (.text "url", .text "https://b.example")]]),
        .alert ⟨.text room, .texts [], .texts [], .texts [], .texts [], .level .critical⟩]
    let runs (room message : Text) := (start (e room) []).run (steps room message)
    (e "ops").SameButRoom False (e "dev") ∧
      List.Forall₂ (Step.Paired False) (steps "ops" "disk full") (steps "dev" "fan stopped") ∧
      List.Forall₂ (OutcomePaired False (Reply.Paired False)) (runs "ops" "disk full")
        (runs "dev" "fan stopped") ∧
      List.Forall₂ (OutcomePaired True (Reply.Paired True)) (runs "ops" "disk full")
        (runs "ops" "fan stopped") := by
  intro web e steps runs
  have paired (rooms : Prop) (room room₁ message message₁ : Text) (same : rooms → room = room₁) :
      List.Forall₂ (Step.Paired rooms) (steps room message) (steps room₁ message₁) := by
    have ruleData : Raw.SameButRoom rooms [(.text "room", .text room)] [(.text "room", .text room₁)] :=
      ⟨.cons_listed (.refl []) "room" (by decide) _ _, room, room₁, rfl, rfl, same⟩
    have testData : Raw.SameButRoomAndMessage rooms [(.text "message", .text message)]
        [(.text "message", .text message₁)] :=
      ⟨.cons_listed (.refl []) "message" (by decide) _ _, ⟨"", "", rfl, rfl, fun _ => rfl⟩,
        message, message₁, rfl, rfl, False.elim⟩
    have event : Raw.SameLevel [(.text "message", .text message), (.text "level", .int 3)]
        [(.text "message", .text message₁), (.text "level", .int 3)] :=
      ⟨.cons_listed (.refl _) "message" (by decide) _ _, ⟨"", "", rfl, rfl, False.elim⟩,
        ⟨message, message₁, rfl, rfl, False.elim⟩, ⟨"", "", rfl, rfl, False.elim⟩,
        none, none, rfl, rfl, False.elim⟩
    have endpointData : Raw.SameButRoom rooms
        [(.text "room", .text room), (.text "url", .text "https://b.example")]
        [(.text "room", .text room₁), (.text "url", .text "https://b.example")] :=
      ⟨.cons_listed (.refl _) "room" (by decide) _ _, room, room₁, rfl, rfl, same⟩
    have value : Part.room.Paired rooms (.text room) (.text room₁) :=
      ⟨rfl, fun seen => congrArg Value.text (same seen)⟩
    exact .cons (.rule "c" _ _ ruleData) (.cons (.same _) (.cons (.handle "h" _ _ event)
      (.cons (.testRule "t" _ _ testData) (.cons (.set "t" .room _ _ value) (.cons (.same _)
        (.cons (.update _ _ (.items _ _ (.cons (.endpoint _ _ endpointData) .nil)))
          (.cons (.alert _ _ ⟨rfl, fun seen => congrArg Value.text (same seen)⟩) .nil)))))))
  have endpoints (rooms : Prop) (room room₁ : Text) (same : rooms → room = room₁) :
      (e room).SameButRoom rooms (e room₁) := ⟨rfl, same⟩
  have apart := paired False "ops" "dev" "disk full" "fan stopped" False.elim
  have one := paired True "ops" "ops" "disk full" "fan stopped" (fun _ => rfl)
  exact ⟨endpoints False "ops" "dev" False.elim, apart,
    rooms_and_messages_untold False _ _ (endpoints False "ops" "dev" False.elim) [] _ _ apart,
    rooms_and_messages_untold True _ _ (.refl _) [] _ _ one⟩

end AlertRelay.Relay
