import AlertRelay.Proofs.Handling

/-! Three ways to one delivery: an alert that is ordered outright, the test of a rule, and an event
in the hands of a handler. They make the same requests and leave the same state; only
the handler keeps the relay's own errors to itself, with one more entry. -/
namespace AlertRelay.Relay

/-- What a handler makes of an alert: the same, but that an error of the relay itself is reported
in one last entry, and not raised. -/
structure Echoes (alerted handled : Outcome Relay Reply) : Prop where
  state : handled.state = alerted.state
  requests : handled.requests = alerted.requests
  reported : ∀ err, alerted.result = .error (.adapter err) → handled.result = .ok .done ∧
    ∃ entry, handled.logs = alerted.logs ++ [entry] ∧ entry.severity = .error ∧
      entry.event = failedToHandle ∧
      Fields.get? "error" entry.fields = some (.text err.message) ∧
      Fields.get? "error_type" entry.fields = some (.text err.name)
  passed : (∀ err, alerted.result ≠ .error (.adapter err)) →
    handled.result = alerted.result ∧ handled.logs = alerted.logs

theorem delivery_adapter (o : Outcome Relay Unit) (err : AdapterError)
    (h : (delivery o).result = .error (.adapter err)) : o.result = .error (.adapter err) := by
  cases hr : o.result with
  | ok _ =>
    simp only [delivery, hr] at h
    cases h
  | error p =>
    simp only [delivery, hr] at h
    exact congrArg Except.error (Except.error.inj h)

theorem perform_failed (s : Relay) (o : Order) (k : Sink) (err : AdapterError)
    (failed : (s.alert o).result = .error (.adapter err)) :
    Attempt.perform ⟨o, some k⟩ s = ⟨(s.alert o).state, .ok (),
      (s.alert o).logs ++ [k.report failedToHandle (.adapter err)], (s.alert o).requests⟩ := by
  simp only [Attempt.perform, failed]

theorem perform_passed (s : Relay) (o : Order) (k : Sink)
    (passed : ∀ err, (s.alert o).result ≠ .error (.adapter err)) :
    Attempt.perform ⟨o, some k⟩ s = s.alert o := by
  unfold Attempt.perform
  dsimp only
  split
  · rename_i err _ failed
    exact absurd failed (passed err)
  · rfl

theorem echoes_perform (s : Relay) (o : Order) (k : Sink) :
    Echoes (delivery (s.alert o)) (delivery (Attempt.perform ⟨o, some k⟩ s)) := by
  constructor
  · exact perform_state ⟨o, some k⟩ s
  · exact perform_requests ⟨o, some k⟩ s
  · intro err h
    have failed := delivery_adapter _ err h
    obtain ⟨text, name⟩ := report_fields k failedToHandle (.adapter err)
    rw [perform_failed s o k err failed]
    exact ⟨rfl, k.report failedToHandle (.adapter err), rfl, rfl, rfl, text, name⟩
  · intro h
    have passed : ∀ err, (s.alert o).result ≠ .error (.adapter err) := by
      intro err failed
      exact h err (by simp only [delivery, failed, Except.map])
    rw [perform_passed s o k passed]
    exact ⟨rfl, rfl⟩

theorem attempt_handle (s : Relay) (id : Text) (h : Handler) (d : Draft) (data : Raw) (e : Event)
    (bound : s.handlerOf id = .ok h) (now : s.draftAt h.draft = .ok d)
    (valid : Event.check data = .ok e) :
    s.attempt (.handle id data) = some (.ok ⟨orderOf d (.level e.level), some h.sink⟩) := by
  simp only [attempt, bound, valid, Problem.ofChecked_ok, now, bind, Except.bind]
  rfl

theorem attempt_test (s : Relay) (name : Text) (serial : Nat) (d : Draft)
    (named : s.named name = .ok (.rule serial)) (now : s.draftAt serial = .ok d)
    (isTest : d.isTest = true) :
    s.attempt (.test (.named name)) = some (.ok ⟨orderOf d (.level .critical), none⟩) := by
  simp only [attempt, subject, named, now, bind, Except.bind, isTest, if_true]
  rfl

/-- An event handled by the rule `d` goes as the alert with the room and the four lists that `d`
holds then, and the level of the event. If `d` is of a self-test, testing it is that
alert itself, at the critical level. -/
theorem three_ways_agree (s : Relay) (id : Text) (h : Handler) (d : Draft) (data : Raw) (e : Event)
    (bound : s.handlerOf id = .ok h) (now : s.draftAt h.draft = .ok d)
    (valid : Event.check data = .ok e) :
    let order (l : Level) : Order :=
      { room := d.now .room
        labelNames := d.now .labelNames
        labelValues := d.now .labelValues
        annotationNames := d.now .annotationNames
        annotationValues := d.now .annotationValues
        urgency := .level l }
    Echoes (s.step (.alert (order e.level))) (s.step (.handle id data)) ∧
    ∀ name, s.named name = .ok (.rule h.draft) → d.isTest = true →
      s.step (.test (.named name)) = s.step (.alert (order .critical)) := by
  intro order
  constructor
  · rw [s.step_of_attempt _ _ (s.attempt_handle id h d data e bound now valid)]
    exact s.echoes_perform (order e.level) h.sink
  · intro name named isTest
    rw [s.step_of_attempt _ _ (s.attempt_test name h.draft d named now isTest)]
    rfl

/-- A critical event for the rule of a self-test, whose alert is refused by the server. -/
theorem refused_three_ways :
    let e : Endpoint := ⟨⟨true, "https://am.example/api", "ops", [], [], [], []⟩, by decide⟩
    let s := (start e [⟨500, [98], none⟩]).after
      [.testRuleOf "o" [(.text "label_names", .texts ["severity"]), (.text "label_values", .texts ["page"])],
        .handler "h" "o" []]
    let order : Order := ⟨.text "", .texts ["severity"], .texts ["page"], .texts [], .texts [], .level .critical⟩
    let alerted := s.step (.alert order)
    let handled := s.step (.handle "h" [(.text "level", .int 3)])
    s.handlerOf "h" = .ok ⟨0, ⟨[]⟩⟩ ∧ s.named "o" = .ok (.rule 0) ∧
      alerted.result = .error (.adapter (.status (.int 500))) ∧
      handled.result = .ok .done ∧ handled.requests = alerted.requests ∧
      s.step (.test (.named "o")) = alerted := by
  intro e s order alerted handled
  have agree := three_ways_agree s "h" ⟨0, ⟨[]⟩⟩
    (.ofTestRule ⟨⟨"", ["severity"], ["page"], [], []⟩, ""⟩) [(.text "level", .int 3)]
    ⟨"", "", "", .critical, none⟩ rfl rfl rfl
  obtain ⟨echoes, test⟩ := agree
  have refused : alerted.result = .error (.adapter (.status (.int 500))) := rfl
  exact ⟨rfl, rfl, refused, (echoes.reported _ refused).1, echoes.requests, test "o" rfl rfl⟩

end AlertRelay.Relay
