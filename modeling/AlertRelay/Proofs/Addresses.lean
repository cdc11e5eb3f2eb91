import AlertRelay.Proofs.Agreement
import AlertRelay.Proofs.Exchange
import AlertRelay.Proofs.Steps

/-! What the address of an endpoint decides. Endpoints that differ in their addresses, meeting
failures of the client that differ in what they say, send the same alerts with the same
results and the same entries; the address itself stands in the requests alone. -/
namespace AlertRelay

/-- Two endpoints that differ at most in their addresses. -/
def Endpoint.SameButUrl (e f : Endpoint) : Prop :=
  { e.toEndpointFields with url := f.url } = f.toEndpointFields

theorem Endpoint.SameButUrl.refl (e : Endpoint) : e.SameButUrl e := rfl

theorem Endpoint.SameButUrl.fields {e f : Endpoint} (h : e.SameButUrl f) :
    e.enabled = f.enabled ∧ Live.updated e = Live.updated f ∧ Relay.SameTemplates e f := by
  obtain ⟨⟨_, _, _, _, _, _, _⟩, _⟩ := e
  obtain ⟨⟨_, _, _, _, _, _, _⟩, _⟩ := f
  cases h
  exact ⟨rfl, rfl, rfl, rfl⟩

theorem Endpoint.check_ok (d : Raw) (e : Endpoint) (h : check d = .ok e) :
    d.field "enabled" Check.bool false = .ok e.enabled ∧
    d.field "room" Check.text "" = .ok e.room ∧
    d.field "test_label_names" (Check.texts .tupleType) [] = .ok e.testLabelNames ∧
    d.field "test_label_values" (Check.texts .tupleType) [] = .ok e.testLabelValues ∧
    d.field "test_annotation_names" (Check.texts .tupleType) [] = .ok e.testAnnotationNames ∧
    d.field "test_annotation_values" (Check.texts .tupleType) [] = .ok e.testAnnotationValues := by
  unfold check at h
  cases read : checkFields d with
  | error is =>
    rw [read] at h
    cases h
  | ok f =>
    rw [read] at h
    have made : f = e.toEndpointFields := by
      simp only [Except.bind, ofFields] at h
      split at h
      · exact congrArg toEndpointFields (Except.ok.inj h)
      · cases h
    have given := (checkFields_eq_ok d f).mp read
    rw [← made]
    exact ⟨given.enabled, given.room, given.testLabelNames, given.testLabelValues,
      given.testAnnotationNames, given.testAnnotationValues⟩

/-- Data that differ at most in the address make endpoints that differ at most in it. -/
theorem Endpoint.sameButUrl_of_data (d d₁ : Raw) (e e₁ : Endpoint)
    (made : check d = .ok e) (made₁ : check d₁ = .ok e₁)
    (same : ∀ name : Text, name ≠ "url" → d.get? name = d₁.get? name) : e.SameButUrl e₁ := by
  obtain ⟨enabled, room, labelNames, labelValues, annotationNames, annotationValues⟩ :=
    check_ok d e made
  obtain ⟨enabled₁, room₁, labelNames₁, labelValues₁, annotationNames₁, annotationValues₁⟩ :=
    check_ok d₁ e₁ made₁
  have fields {α : Type} {name : Text} (other : name ≠ "url") {check : Value → Checked α}
      {absent a b : α} (h : d.field name check absent = .ok a)
      (h₁ : d₁.field name check absent = .ok b) : a = b := by
    unfold Raw.field at h h₁
    rw [same name other] at h
    exact Except.ok.inj (h.symm.trans h₁)
  obtain ⟨⟨_, _, _, _, _, _, _⟩, _⟩ := e
  obtain ⟨⟨_, _, _, _, _, _, _⟩, _⟩ := e₁
  simp only [SameButUrl, EndpointFields.mk.injEq]
  exact ⟨fields (by decide) enabled enabled₁, trivial, fields (by decide) room room₁,
    fields (by decide) labelNames labelNames₁, fields (by decide) labelValues labelValues₁,
    fields (by decide) annotationNames annotationNames₁,
    fields (by decide) annotationValues annotationValues₁⟩

theorem Item.alike_of_data (d d₁ : Raw) (e e₁ : Endpoint) (made : Endpoint.check d = .ok e)
    (made₁ : Endpoint.check d₁ = .ok e₁)
    (same : ∀ name : Text, name ≠ "url" → d.get? name = d₁.get? name) :
    Item.Alike Endpoint.SameButUrl (.endpoint d) (.endpoint d₁) :=
  .endpoint d d₁ e e₁ made made₁ (Endpoint.sameButUrl_of_data d d₁ e e₁ made made₁ same)

/-- The same fault, or two failures of the client or timeouts of one kind with other arguments. -/
def Fault.Alike (f g : Fault) : Prop :=
  f.stage = g.stage ∧ (f.raised = g.raised ∨ ∃ (k : FailureKind) (as bs : List Value),
    k.isTransport = true ∧ f.raised = .ok ⟨k, as⟩ ∧ g.raised = .ok ⟨k, bs⟩)

/-- The same error, or two failed transports that say the same and are caused by failures of one kind. -/
inductive AdapterError.Alike : AdapterError → AdapterError → Prop
  | same (e : AdapterError) : Alike e e
  | transport (args : List Value) (k : FailureKind) (as bs : List Value) :
      Alike (.transport args (some ⟨k, as⟩)) (.transport args (some ⟨k, bs⟩))

/-- What the cause of an error says is not told on. -/
theorem AdapterError.Alike.told {e e₁ : AdapterError} (h : e.Alike e₁) :
    e.name = e₁.name ∧ e.message = e₁.message ∧ e.attribute? = e₁.attribute? := by
  cases h with
  | same => exact ⟨rfl, rfl, rfl⟩
  | transport => exact ⟨rfl, rfl, rfl⟩

inductive Problem.Alike : Problem → Problem → Prop
  | same (p : Problem) : Alike p p
  | adapter (e e₁ : AdapterError) (h : e.Alike e₁) : Alike (.adapter e) (.adapter e₁)

/-- Results that are values in relation, or problems that are alike. -/
inductive Likewise {α β : Type} (R : α → β → Prop) : Except Problem α → Except Problem β → Prop
  | ok (a : α) (b : β) (h : R a b) : Likewise R (.ok a) (.ok b)
  | error (p q : Problem) (h : p.Alike q) : Likewise R (.error p) (.error q)

theorem Agree.likewise {α β : Type} {R : α → β → Prop} {x : Except Problem α} {y : Except Problem β}
    (h : Agree R x y) : Likewise R x y := by
  cases h with
  | ok a b h => exact .ok a b h
  | error p => exact .error p p (.same p)

theorem Likewise.map {α β γ δ : Type} {R : α → β → Prop} {S : γ → δ → Prop} {x : Except Problem α}
    {y : Except Problem β} {f : α → γ} {g : β → δ} (h : Likewise R x y)
    (next : ∀ a b, R a b → S (f a) (g b)) : Likewise S (x.map f) (y.map g) := by
  cases h with
  | ok a b h => exact .ok _ _ (next a b h)
  | error p q h => exact .error p q h

theorem Fault.Alike.report {f g : Fault} (h : f.Alike g) :
    (Courier.report f.problem).Alike (Courier.report g.problem) := by
  rcases h.2 with same | ⟨k, as, bs, transport, hf, hg⟩
  · simp only [problem, same]
    exact .same _
  · simp only [problem, hf, hg, Courier.report, transport, if_true]
    exact .adapter _ _ (.transport _ k as bs)

namespace Response

structure Alike (r q : Response) : Prop where
  status : r.status = q.status
  body : r.body = q.body
  fault : Option.Rel Fault.Alike r.fault q.fault

variable {r q : Response}

/-- Problems that a delivery reports alike. -/
def ReportedAlike (p p₁ : Problem) : Prop := (Courier.report p).Alike (Courier.report p₁)

theorem Alike.raisedAt (h : r.Alike q) (stage : Stage) :
    Option.Rel ReportedAlike (r.raisedAt stage) (q.raisedAt stage) := by
  obtain ⟨status, body, fault⟩ := r
  obtain ⟨status₁, body₁, fault₁⟩ := q
  unfold Response.raisedAt
  cases h.fault with
  | none => exact .none
  | some hf =>
    rename_i f g
    by_cases hs : f.stage = stage
    · have ht : g.stage = stage := hf.1 ▸ hs
      simp only [if_pos hs, if_pos ht]
      exact .some hf.report
    · have ht : ¬ g.stage = stage := hf.1 ▸ hs
      simp only [if_neg hs, if_neg ht]
      exact .none

theorem Alike.raised? (h : r.Alike q) : Option.Rel ReportedAlike r.raised? q.raised? := by
  obtain ⟨status, body, fault⟩ := r
  obtain ⟨status₁, body₁, fault₁⟩ := q
  cases h.status
  unfold Response.raised?
  cases h.fault with
  | none => exact .none
  | some hf =>
    rename_i f g
    by_cases hs : f.stage = .body ∧ status = 200
    · have ht : g.stage = .body ∧ status = 200 := hf.1 ▸ hs
      simp only [if_pos hs, if_pos ht]
      exact .none
    · have ht : ¬ (g.stage = .body ∧ status = 200) := hf.1 ▸ hs
      simp only [if_neg hs, if_neg ht]
      exact .some hf.report

theorem Alike.unmet (h : r.Alike q) (stage : Stage) :
    r.raisedAt stage = none ↔ q.raisedAt stage = none := by
  have raised := h.raisedAt stage
  generalize r.raisedAt stage = x at raised ⊢
  generalize q.raisedAt stage = y at raised ⊢
  cases raised with
  | none => exact Iff.rfl
  | some => exact iff_of_false nofun nofun

theorem Alike.entered (h : r.Alike q) : r.entered = q.entered := by
  rw [Bool.eq_iff_iff]
  simp only [Response.entered, Bool.and_eq_true, Option.isNone_iff_eq_none, h.unmet]

theorem Alike.verdict (h : r.Alike q) :
    Likewise (· = ·) (Courier.verdict r) (Courier.verdict q) := by
  have raised := h.raised?
  unfold Courier.verdict
  rw [h.status]
  generalize r.raised? = x at raised ⊢
  generalize q.raised? = y at raised ⊢
  cases raised with
  | none => exact (Agree.refl (fun _ => rfl) _).likewise
  | some reported => exact .error _ _ reported

theorem Alike.noted (h : r.Alike q) (a : Alert) : Courier.noted a r = Courier.noted a q := by
  have refused : r.refused = q.refused := by
    simp only [Response.refused, excerpt, h.status, h.body]
  have met : r.meet.2 = q.meet.2 := by
    simp only [meet_logs, h.entered, h.status, h.unmet, refused]
  have verdict := h.verdict
  unfold Courier.noted
  generalize Courier.verdict r = x at verdict ⊢
  generalize Courier.verdict q = y at verdict ⊢
  cases verdict with
  | ok => rfl
  | error => exact met

end Response

def Request.SameButUrl (r q : Request) : Prop := r.session = q.session ∧ r.body = q.body

theorem Courier.send_alike (c : Courier) {e f : Endpoint} (he : e.SameButUrl f) (a : Alert)
    {r q : Response} (hr : r.Alike q) :
    (c.send e a r).state = (c.send f a q).state ∧
    Likewise (· = ·) (c.send e a r).result (c.send f a q).result ∧
    (c.send e a r).logs = (c.send f a q).logs ∧
    List.Forall₂ Request.SameButUrl (c.send e a r).requests (c.send f a q).requests := by
  cases on : f.enabled with
  | false =>
    rw [send_disabled c f a q on, send_disabled c e a r (he.fields.1.trans on)]
    exact ⟨rfl, .error _ _ (.same _), rfl, .nil⟩
  | true =>
    rw [send_enabled c f a q on, send_enabled c e a r (he.fields.1.trans on)]
    refine ⟨?_, hr.verdict, hr.noted a, .cons ⟨rfl, rfl⟩ .nil⟩
    simp only [release, hr.entered]

structure Link.Alike (l k : Link) : Prop where
  courier : l.courier = k.courier
  script : List.Forall₂ Response.Alike l.script k.script

theorem Link.Alike.next {l k : Link} (h : l.Alike k) :
    (l.script.headD .ok).Alike (k.script.headD .ok) := by
  obtain ⟨courier, script⟩ := l
  obtain ⟨courier₁, script₁⟩ := k
  cases h.script with
  | nil => exact ⟨rfl, rfl, .none⟩
  | cons hr _ => exact hr

theorem Link.send_alike {l k : Link} (h : l.Alike k) {e f : Endpoint} (he : e.SameButUrl f)
    (a : Alert) :
    (l.send e a).state.Alike (k.send f a).state ∧
    Likewise (· = ·) (l.send e a).result (k.send f a).result ∧
    (l.send e a).logs = (k.send f a).logs ∧
    List.Forall₂ Request.SameButUrl (l.send e a).requests (k.send f a).requests := by
  obtain ⟨state, result, logs, requests⟩ := k.courier.send_alike he a h.next
  rw [Link.send, Link.send, h.courier]
  refine ⟨⟨state, ?_⟩, result, logs, requests⟩
  rw [requests.length_eq]
  exact List.forall₂_drop _ h.script

theorem Link.Alike.close {l k : Link} (h : l.Alike k) : l.close.Alike k.close :=
  ⟨congrArg Courier.close h.courier, h.script⟩

theorem Link.Alike.drop? {l k : Link} (h : l.Alike k) : Option.Rel Link.Alike l.drop? k.drop? := by
  unfold Link.drop?
  rw [h.courier]
  cases k.courier.drop? with
  | none => exact .none
  | some c => exact .some ⟨rfl, h.script⟩

theorem Live.update_alike (l k : Live) {b c : Batch} (h : b.Alike Endpoint.SameButUrl c) :
    Agree (fun x y => x.1.current.endpoint.SameButUrl y.1.current.endpoint ∧ x.2 = y.2)
      (l.update b) (k.update c) := by
  apply Agree.bind (Batch.sole_alike Endpoint.SameButUrl.refl b c h)
  intro i j hij
  exact .ok _ _ ⟨hij, hij.fields.2.1⟩

end AlertRelay
