import AlertRelay.Courier

/-! What decides a delivery: the one problem that its exchange raises, if it raises any, and
the status of the answer otherwise. A failure of the client is reported as a failed transport
at whatever point it is raised, so the report does not tell that no answer came. -/
namespace AlertRelay

namespace Response

/-- What an exchange raises. The body of a success is not read, and a fault there is not met. -/
def raised? (r : Response) : Option Problem :=
  match r.fault with
  | some f => if f.stage = .body ∧ r.status = 200 then none else some f.problem
  | none => none

/-- Nothing is raised but failures of the client and timeouts. -/
def Tame (r : Response) : Prop :=
  ∀ p, r.raised? = some p → ∃ f : Failure, p = .failure f ∧ f.kind.isTransport = true

theorem meet_result (r : Response) : r.meet.1 = match r.raised? with
    | some p => .error p
    | none => if r.status = 200 then .ok () else .error (.adapter (.status (.int r.status))) := by
  obtain ⟨status, body, fault⟩ := r
  cases fault with
  | none => by_cases h : status = 200 <;> simp [meet, raisedAt, inside, raised?, h]
  | some f =>
    obtain ⟨stage, raised⟩ := f
    cases stage <;> by_cases h : status = 200 <;> simp [meet, raisedAt, inside, raised?, h]

theorem meet_logs (r : Response) : r.meet.2 =
    if r.entered = true ∧ r.status ≠ 200 ∧ r.raisedAt .body = none then [r.refused] else [] := by
  obtain ⟨status, body, fault⟩ := r
  cases fault with
  | none => by_cases h : status = 200 <;> simp [meet, entered, raisedAt, inside, h]
  | some f =>
    obtain ⟨stage, raised⟩ := f
    cases stage <;> by_cases h : status = 200 <;> simp [meet, entered, raisedAt, inside, h]

theorem raised?_foreign (r : Response) (p : Problem) (h : r.raised? = some p) :
    (∃ f, p = .failure f) ∨ ∃ m, p = .misuse m := by
  unfold raised? at h
  split at h
  · rename_i f _
    split at h
    · contradiction
    · cases Option.some.inj h
      unfold Fault.problem
      split
      · exact Or.inl ⟨_, rfl⟩
      · exact Or.inr ⟨_, rfl⟩
  · contradiction

/-- Inside an entered answer there are two points left where something can be raised. -/
theorem raised?_eq_some_iff (r : Response) (came : r.entered = true) (p : Problem) :
    r.raised? = some p ↔
      (r.status ≠ 200 ∧ r.raisedAt .body = some p) ∨ r.raisedAt .leave = some p := by
  obtain ⟨status, body, fault⟩ := r
  cases fault with
  | none => simp [raised?, raisedAt]
  | some f =>
    obtain ⟨stage, raised⟩ := f
    cases stage <;> by_cases h : status = 200 <;> simp_all [raised?, raisedAt, entered]

theorem entered_of_raised?_eq_none (r : Response) (calm : r.raised? = none) :
    r.entered = true ∧ r.raisedAt .leave = none := by
  obtain ⟨status, body, fault⟩ := r
  cases fault with
  | none => exact ⟨rfl, rfl⟩
  | some f =>
    obtain ⟨stage, raised⟩ := f
    cases stage <;> simp_all [raised?, raisedAt, entered]

end Response

namespace Courier

def verdict (r : Response) : Except Problem Unit :=
  match r.raised? with
  | some p => .error (report p)
  | none => if r.status = 200 then .ok () else .error (.adapter (.status (.int r.status)))

def noted (a : Alert) (r : Response) : List Log.Entry :=
  match verdict r with
  | .ok _ => [sent a]
  | .error _ => r.meet.2

theorem send_disabled (c : Courier) (e : Endpoint) (a : Alert) (r : Response)
    (off : e.enabled = false) : c.send e a r = ⟨c, .error (.adapter .disabled), [], []⟩ := by
  simp [send, off]

theorem send_enabled (c : Courier) (e : Endpoint) (a : Alert) (r : Response)
    (on : e.enabled = true) :
    c.send e a r =
      ⟨c.acquire.1.release r, verdict r, noted a r, [⟨c.acquire.2, e.url, a.body⟩]⟩ := by
  have hm := r.meet_result
  have hl := r.meet_logs
  rcases hr : r.meet with ⟨result, logs⟩
  rw [hr] at hm hl
  cases hp : r.raised? with
  | some p =>
    simp only [hp] at hm
    simp [send, on, hr, hm, hp, verdict, noted]
  | none =>
    by_cases h : r.status = 200
    · simp_all [send, verdict, noted]
    · simp_all [send, verdict, noted, report]

def SaysUnanswered (result : Except Problem Unit) : Prop :=
  ∃ args cause, result = .error (.adapter (.transport args cause))

/-- The result tells the status of an answer: success by returning, any other by its number. -/
def TellsStatus (status : Int) (result : Except Problem Unit) : Prop :=
  ¬ SaysUnanswered result ∧
  (status ≠ 200 → result = .error (.adapter (.status (.int status)))) ∧
  (status = 200 → result = .ok ())

theorem verdict_calm (r : Response) (calm : r.raised? = none) : TellsStatus r.status (verdict r) := by
  unfold verdict TellsStatus SaysUnanswered
  by_cases h : r.status = 200 <;> simp [calm, h]

/-- A delivery that meets nothing worse than a failed transport succeeds, or it ends in one of
the relay's own errors. -/
theorem verdict_of_tame (r : Response) (tame : r.Tame) :
    (verdict r = .ok () ∧ r.status = 200 ∧ r.entered = true ∧ r.raisedAt .leave = none) ∨
    ∃ err, verdict r = .error (.adapter err) := by
  cases hp : r.raised? with
  | some p =>
    obtain ⟨f, rfl, transport⟩ := tame p hp
    have hv : verdict r = .error (.adapter (.ofFailure f)) := by
      simp only [verdict, hp, report, transport, if_true]
    exact Or.inr ⟨_, hv⟩
  | none =>
    by_cases success : r.status = 200
    · obtain ⟨entered, left⟩ := r.entered_of_raised?_eq_none hp
      have hv : verdict r = .ok () := by simp only [verdict, hp, success, if_true]
      exact Or.inl ⟨hv, success, entered, left⟩
    · have hv : verdict r = .error (.adapter (.status (.int r.status))) := by
        simp only [verdict, hp, success, if_false]
      exact Or.inr ⟨_, hv⟩

theorem saysUnanswered_report (r : Response) (p : Problem) (h : r.raised? = some p) :
    SaysUnanswered (.error (report p)) ↔ ∃ f : Failure, p = .failure f ∧ f.kind.isTransport = true := by
  rcases r.raised?_foreign p h with ⟨f, rfl⟩ | ⟨m, rfl⟩
  · cases hk : f.kind.isTransport <;> simp [SaysUnanswered, report, hk, AdapterError.ofFailure]
  · simp [SaysUnanswered, report]

theorem not_tellsStatus_raised (r : Response) (p : Problem) (h : r.raised? = some p) :
    ¬ TellsStatus r.status (verdict r) := by
  intro tells
  have hv : verdict r = .error (report p) := by simp only [verdict, h]
  rw [hv] at tells
  by_cases hs : r.status = 200
  · exact absurd (tells.2.2 hs) (by simp)
  · have he : report p = .adapter (.status (.int r.status)) := Except.error.inj (tells.2.1 hs)
    rcases r.raised?_foreign p h with ⟨f, rfl⟩ | ⟨m, rfl⟩
    · cases hk : f.kind.isTransport <;> simp [report, hk, AdapterError.ofFailure] at he
    · simp [report] at he

/-- Once an answer was entered, its status is told exactly when nothing is raised after that.
A failure of the client while the body of a refusal is read, or while the answer is left,
hides the status: the delivery then says that no answer came. -/
theorem status_told_iff (c : Courier) (e : Endpoint) (a : Alert) (r : Response)
    (on : e.enabled = true) (came : r.entered = true) :
    (TellsStatus r.status (c.send e a r).result ↔
      (r.status ≠ 200 → r.raisedAt .body = none) ∧ r.raisedAt .leave = none) ∧
    (SaysUnanswered (c.send e a r).result ↔ ∃ f : Failure, f.kind.isTransport = true ∧
      ((r.status ≠ 200 ∧ r.raisedAt .body = some (.failure f)) ∨
        r.raisedAt .leave = some (.failure f))) := by
  rw [send_enabled c e a r on]
  have met := r.raised?_eq_some_iff came
  cases hp : r.raised? with
  | none =>
    have calm := verdict_calm r hp
    have unmet : ∀ p, ¬ ((r.status ≠ 200 ∧ r.raisedAt .body = some p) ∨ r.raisedAt .leave = some p) := by
      intro p h
      simpa [hp] using (met p).mpr h
    constructor
    · refine ⟨fun _ => ⟨fun hs => ?_, ?_⟩, fun _ => calm⟩
      · exact Option.eq_none_iff_forall_ne_some.mpr (fun p h => unmet p (Or.inl ⟨hs, h⟩))
      · exact Option.eq_none_iff_forall_ne_some.mpr (fun p h => unmet p (Or.inr h))
    · exact ⟨fun h => absurd h calm.1, fun ⟨f, _, h⟩ => absurd h (unmet _)⟩
  | some p =>
    have points := (met p).mp hp
    constructor
    · refine ⟨fun h => absurd h (not_tellsStatus_raised r p hp), fun ⟨hb, hl⟩ => ?_⟩
      rcases points with ⟨hs, h⟩ | h
      · simp [hb hs] at h
      · simp [hl] at h
    · have hv : verdict r = .error (report p) := by simp only [verdict, hp]
      simp only [hv, saysUnanswered_report r p hp]
      constructor
      · rintro ⟨f, rfl, hk⟩
        exact ⟨f, hk, points⟩
      · rintro ⟨f, hk, h⟩
        have hq : some p = some (.failure f) := hp.symm.trans ((met _).mpr h)
        exact ⟨f, Option.some.inj hq, hk⟩

/-- A refusal whose body runs into a timeout is entered, and yet reported as unanswered. -/
theorem refusal_hidden_by_timeout :
    let e : Endpoint := ⟨⟨true, "https://am.example/api", "ops", [], [], [], []⟩, by decide⟩
    let r : Response := ⟨500, [98], some ⟨.body, .ok ⟨.timeout, []⟩⟩⟩
    let o := start.send e ⟨.firing, .empty, .empty⟩ r
    r.entered = true ∧ r.Tame ∧ o.result = .error (.adapter (.ofFailure ⟨.timeout, []⟩)) ∧
      ¬ TellsStatus 500 o.result := by
  refine ⟨rfl, ?_, rfl, ?_⟩
  · intro p h
    exact ⟨⟨.timeout, []⟩, (Option.some.inj h).symm, rfl⟩
  · intro tells
    exact tells.1 ⟨_, _, rfl⟩

theorem success_hidden_on_leaving :
    let e : Endpoint := ⟨⟨true, "https://am.example/api", "ops", [], [], [], []⟩, by decide⟩
    let r : Response := ⟨200, [], some ⟨.leave, .ok ⟨.clientPayload, []⟩⟩⟩
    let o := start.send e ⟨.firing, .empty, .empty⟩ r
    e.enabled = true ∧ r.entered = true ∧ ¬ TellsStatus 200 o.result ∧ SaysUnanswered o.result := by
  have h := status_told_iff start ⟨⟨true, "https://am.example/api", "ops", [], [], [], []⟩, by decide⟩
    ⟨.firing, .empty, .empty⟩ ⟨200, [], some ⟨.leave, .ok ⟨.clientPayload, []⟩⟩⟩ rfl rfl
  refine ⟨rfl, rfl, fun tells => ?_, h.2.mpr ⟨⟨.clientPayload, []⟩, rfl, Or.inr rfl⟩⟩
  exact absurd (h.1.mp tells).2 (by simp [Response.raisedAt])

end Courier
end AlertRelay
