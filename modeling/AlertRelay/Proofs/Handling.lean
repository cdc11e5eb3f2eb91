import AlertRelay.Proofs.Exchange
import AlertRelay.Proofs.Pairing
import AlertRelay.Proofs.Names
import Mathlib.Logic.Basic

/-! No alert is lost silently and none is reported twice. A handled event is delivered, with one
request and the two entries of a delivery, or else one error is reported, which is the
one that kept it from being delivered. -/
namespace AlertRelay

def Draft.HoldsTexts (d : Draft) : Prop :=
  ∀ p ∈ [Part.labelNames, .labelValues, .annotationNames, .annotationValues],
    ∃ ts : List Text, d.now p = .texts ts

namespace Relay

def nextResponse (s : Relay) : Response := s.link.script.headD .ok

def deliveryLogs (room : Value) (l : Level) : List Log.Entry :=
  [⟨.debug, "alertmanager_alert_sent", [("status", .text (Status.ofUrgency (.level l)).text)]⟩,
    ⟨.info, "alertmanager_alert_delivered", [("room", room), ("level", .text l.name),
      ("status", .text (Status.ofUrgency (.level l)).text)]⟩]

/-- One request was made, its answer was entered as a success and left in peace, and nothing but
the delivery is logged. -/
structure Delivered {α : Type} (r : Response) (room : Value) (l : Level) (o : Outcome Relay α) :
    Prop where
  posted : o.requests.length = 1
  entered : r.entered = true
  success : r.status = 200
  left : r.raisedAt .leave = none
  logs : o.logs = deliveryLogs room l

def TellsDelivery (entry : Log.Entry) : Prop :=
  entry.event = "alertmanager_alert_sent" ∨ entry.event = "alertmanager_alert_delivered"

/-- Exactly one entry is an error; it carries the name and the text of the error that the order
ran into, and no entry tells of a delivery. -/
def Reported (result : Except Problem Unit) (o : Outcome Relay Reply) : Prop :=
  ∃ err entry, result = .error (.adapter err) ∧
    o.logs.filter (fun l => l.severity = .error) = [entry] ∧ entry.event = failedToHandle ∧
    Fields.get? "error" entry.fields = some (.text err.message) ∧
    Fields.get? "error_type" entry.fields = some (.text err.name) ∧
    ∀ l ∈ o.logs, ¬ TellsDelivery l

/-- The outcome of an order that runs into one of the relay's own errors. -/
structure Failed (o : Outcome Relay Unit) (err : AdapterError) : Prop where
  result : o.result = .error (.adapter err)
  posted : o.requests.length ≤ 1
  calm : ∀ l ∈ o.logs, l.severity ≠ .error ∧ ¬ TellsDelivery l

theorem report_fields (k : Sink) (message : Text) (e : Raised) :
    Fields.get? "error" (k.report message e).fields = some (.text e.text) ∧
    Fields.get? "error_type" (k.report message e).fields = some (.text e.name) := by
  have apart : ((Text.ofString "error_type") == Text.ofString "error") = false := by decide
  constructor <;> simp [Sink.report, Ordered.update, Ordered.get?_put, apart]

theorem build_of_texts (d : Draft) (u : Urgency) (texts : d.HoldsTexts) :
    (∃ err, (orderOf d u).build = .error (.adapter err)) ∨
    ∃ a, (orderOf d u).build = .ok a ∧ a.status = .ofUrgency u := by
  obtain ⟨ln, hln⟩ := texts .labelNames (by simp)
  obtain ⟨lv, hlv⟩ := texts .labelValues (by simp)
  obtain ⟨an, han⟩ := texts .annotationNames (by simp)
  obtain ⟨av, hav⟩ := texts .annotationValues (by simp)
  have built : (orderOf d u).build = Alert.build u (.texts ln) (.texts lv) (.texts an) (.texts av) := by
    simp only [Order.build, orderOf, hln, hlv, han, hav]
  rw [built, build_texts]
  split
  · exact Or.inl ⟨_, rfl⟩
  · split
    · exact Or.inl ⟨_, rfl⟩
    · exact Or.inr ⟨_, rfl, rfl⟩

theorem noted_calm (a : Alert) (r : Response) (p : Problem) (h : Courier.verdict r = .error p) :
    ∀ l ∈ Courier.noted a r, l.severity ≠ .error ∧ ¬ TellsDelivery l := by
  intro l hl
  have hn : Courier.noted a r = r.meet.2 := by simp only [Courier.noted, h]
  rw [hn, r.meet_logs] at hl
  split at hl
  · rw [List.mem_singleton] at hl
    subst hl
    have other : ¬ ((Text.ofString "alertmanager_send_failed") = "alertmanager_alert_sent" ∨
        (Text.ofString "alertmanager_send_failed") = "alertmanager_alert_delivered") := by decide
    exact ⟨by simp [Response.refused], other⟩
  · cases hl

theorem alert_outcome (s : Relay) (d : Draft) (l : Level) (texts : d.HoldsTexts)
    (tame : (s.alert (orderOf d (.level l))).requests ≠ [] → s.nextResponse.Tame) :
    (∃ err, Failed (s.alert (orderOf d (.level l))) err) ∨
    ((s.alert (orderOf d (.level l))).result = .ok () ∧
      Delivered s.nextResponse (d.now .room) l (s.alert (orderOf d (.level l)))) := by
  rcases build_of_texts d (.level l) texts with ⟨err, h⟩ | ⟨a, h, status⟩
  · rw [alert_unbuilt s _ _ h]
    exact Or.inl ⟨err, rfl, Nat.zero_le 1, by simp⟩
  · rw [alert_built s _ a h] at tame ⊢
    cases on : s.endpoint.enabled with
    | false =>
      simp only [Link.send, Courier.send_disabled _ _ _ _ on, concluded]
      exact Or.inl ⟨.disabled, rfl, Nat.zero_le 1, by simp⟩
    | true =>
      have sent := Courier.send_enabled s.link.courier s.endpoint a s.nextResponse on
      simp only [nextResponse] at sent tame ⊢
      simp only [Link.send, sent, concluded] at tame ⊢
      rcases Courier.verdict_of_tame _ (tame (by simp)) with ⟨hv, success, entered, left⟩ | ⟨err, hv⟩
      · refine Or.inr ⟨by simp only [hv, delivered, orderOf], rfl, entered, success, left, ?_⟩
        simp only [hv, Courier.noted, delivered, orderOf, Courier.sent, status, deliveryLogs]
        rfl
      · have calm := noted_calm a _ _ hv
        simp only [hv]
        exact Or.inl ⟨err, rfl, Nat.le_refl 1, calm⟩

theorem reported_of_failed (s : Relay) (o : Order) (k : Sink) (err : AdapterError)
    (failed : Failed (s.alert o) err) :
    (Attempt.perform ⟨o, some k⟩ s).result = .ok () ∧
    Reported (s.alert o).result (delivery (Attempt.perform ⟨o, some k⟩ s)) := by
  have ran : Attempt.perform ⟨o, some k⟩ s = ⟨(s.alert o).state, .ok (),
      (s.alert o).logs ++ [k.report failedToHandle (.adapter err)], (s.alert o).requests⟩ := by
    simp only [Attempt.perform, failed.result]
  have fields := report_fields k failedToHandle (.adapter err)
  have none : (s.alert o).logs.filter (fun l => l.severity = .error) = [] := by
    simp only [List.filter_eq_nil_iff, decide_eq_true_eq]
    exact fun l hl => (failed.calm l hl).1
  rw [ran]
  refine ⟨rfl, err, k.report failedToHandle (.adapter err), failed.result, ?_, rfl, fields.1, fields.2, ?_⟩
  · simp only [delivery, List.filter_append, none, List.nil_append]
    rfl
  · intro l hl
    rcases List.mem_append.mp hl with hl | hl
    · exact (failed.calm l hl).2
    · rw [List.mem_singleton] at hl
      subst hl
      have other : ¬ (failedToHandle = "alertmanager_alert_sent" ∨
          failedToHandle = "alertmanager_alert_delivered") := by decide
      exact other

/-- In every state that a run reaches, a handler whose rule holds texts deals with an event
exactly once: by a delivery, or by a report of the error that prevented one. -/
theorem handled_exactly_once (s : Relay) (reached : s.Reached) (id : Text) (h : Handler)
    (found : s.handlerOf id = .ok h) (texts : ∀ d, s.draftAt h.draft = .ok d → d.HoldsTexts)
    (data : Raw) (e : Event) (valid : Event.check data = .ok e)
    (tame : (s.step (.handle id data)).requests ≠ [] → s.nextResponse.Tame) :
    ∃ d, s.draftAt h.draft = .ok d ∧
      (s.step (.handle id data)).result = .ok .done ∧
      (s.step (.handle id data)).requests.length ≤ 1 ∧
      Xor (Delivered s.nextResponse (d.now .room) e.level (s.step (.handle id data)))
        (Reported (s.alert (orderOf d (.level e.level))).result (s.step (.handle id data))) := by
  obtain ⟨d, hd⟩ := s.handler_has_rule (s.grounded_of_reached reached) id h found
  refine ⟨d, hd, ?_⟩
  have asks : s.attempt (.handle id data) = some (.ok ⟨orderOf d (.level e.level), some h.sink⟩) := by
    simp only [attempt, found, valid, Problem.ofChecked_ok, hd, bind, Except.bind]
    rfl
  have ran := s.step_of_attempt _ _ asks
  simp only [attend] at ran
  have posts : (s.step (.handle id data)).requests = (s.alert (orderOf d (.level e.level))).requests := by
    rw [ran]
    exact perform_requests _ s
  rw [posts] at tame ⊢
  rcases s.alert_outcome d e.level (texts d hd) tame with ⟨err, failed⟩ | ⟨ok, delivered⟩
  · obtain ⟨settled, reported⟩ := s.reported_of_failed _ h.sink err failed
    rw [ran]
    refine ⟨by simp only [delivery, settled, Except.map], failed.posted, Or.inr ⟨reported, ?_⟩⟩
    intro both
    obtain ⟨_, entry, _, one, _⟩ := reported
    rw [both.logs] at one
    cases one
  · have same : Attempt.perform ⟨orderOf d (.level e.level), some h.sink⟩ s =
        s.alert (orderOf d (.level e.level)) := by
      simp only [Attempt.perform, ok]
    rw [ran, same]
    refine ⟨by simp only [delivery, ok, Except.map], Nat.le_of_eq delivered.posted, Or.inl ⟨?_, ?_⟩⟩
    · exact ⟨delivered.posted, delivered.entered, delivered.success, delivered.left, delivered.logs⟩
    · rintro ⟨err, _, broken, _⟩
      rw [ok] at broken
      cases broken

/-- A refusal that the server breaks off: the status is lost, and the failure is reported. -/
theorem broken_refusal_handled_once :
    let e : Endpoint := ⟨⟨true, "https://am.example/api", "ops", [], [], [], []⟩, by decide⟩
    let r : Response := ⟨500, [255], some ⟨.leave, .ok ⟨.serverDisconnected, [.text "gone"]⟩⟩⟩
    let s := (start e [r]).after
      [.rule "c" [(.text "label_names", .texts ["severity"]), (.text "label_values", .texts ["page"])],
        .handler "h" "c" [("task", .text "cpu")]]
    let o := s.step (.handle "h" [(.text "level", .int 3)])
    s.Reached ∧ s.handlerOf "h" = .ok ⟨0, ⟨[("task", .text "cpu")]⟩⟩ ∧
      (∀ d, s.draftAt 0 = .ok d → d.HoldsTexts) ∧ s.nextResponse.Tame ∧
      ∃ d, s.draftAt 0 = .ok d ∧ o.result = .ok .done ∧ o.requests.length ≤ 1 ∧
        Xor (Delivered s.nextResponse (d.now .room) .critical o)
          (Reported (s.alert (orderOf d (.level .critical))).result o) := by
  intro e r s o
  have reached : s.Reached := ⟨e, [r], _, rfl⟩
  have found : s.handlerOf "h" = .ok ⟨0, ⟨[("task", .text "cpu")]⟩⟩ := rfl
  have texts : ∀ d, s.draftAt 0 = .ok d → d.HoldsTexts := by
    intro d hd p hp
    cases Except.ok.inj hd
    simp only [List.mem_cons, List.not_mem_nil, or_false] at hp
    rcases hp with rfl | rfl | rfl | rfl
    · exact ⟨["severity"], rfl⟩
    · exact ⟨["page"], rfl⟩
    · exact ⟨[], rfl⟩
    · exact ⟨[], rfl⟩
  have tame : s.nextResponse.Tame := fun p h => ⟨_, (Option.some.inj h).symm, rfl⟩
  exact ⟨reached, found, texts, tame,
    handled_exactly_once s reached "h" _ found texts _ ⟨"", "", "", .critical, none⟩ rfl (fun _ => tame)⟩

end Relay
end AlertRelay
