import AlertRelay.Proofs.Exchange
import AlertRelay.Proofs.Lines
import AlertRelay.Proofs.Pairing
import AlertRelay.Proofs.Retention
import AlertRelay.Proofs.Steps
import AlertRelay.SelfTest

/-! How the self-test ends. It ends well exactly when its one request was answered with success. An
error of the relay is told in the log and on a line of its own, and everything else that keeps
the test from its end is passed on. -/
namespace AlertRelay

namespace SelfTest

def tested (e : Endpoint) (script : List Response) (t : TestRule) : Outcome Relay Unit :=
  (Relay.start e script).test (.ofTestRule t)

/-- The names of the entries that a delivery leaves. -/
def deliveryEvents : List Text :=
  ["alertmanager_alert_sent", "alertmanager_send_failed", "alertmanager_alert_delivered"]

theorem tested_eq (e : Endpoint) (script : List Response) (t : TestRule) :
    tested e script t = (Relay.start e script).alert (Relay.orderOf (.ofTestRule t) (.level .critical)) := rfl

theorem tested_build (t : TestRule) :
    (Relay.orderOf (.ofTestRule t) (.level .critical)).build =
      Alert.build (.level .critical) (.texts t.labelNames) (.texts t.labelValues)
        (.texts t.annotationNames) (.texts t.annotationValues) := rfl

theorem noted_events (a : Alert) (r : Response) : ∀ l ∈ Courier.noted a r, l.event ∈ deliveryEvents := by
  intro l noted
  unfold Courier.noted at noted
  split at noted
  · cases List.mem_singleton.mp noted
    exact List.mem_cons_self
  · rw [r.meet_logs] at noted
    split at noted
    · cases List.mem_singleton.mp noted
      exact List.mem_cons_of_mem _ List.mem_cons_self
    · cases noted

theorem concluded_level (d : Draft) (l : Level) (a : Alert) (out : Outcome Link Unit) :
    (Relay.concluded (Relay.orderOf d (.level l)) a out).1 = out.result ∧
    ∀ x ∈ (Relay.concluded (Relay.orderOf d (.level l)) a out).2,
      x ∈ out.logs ∨ x.event = "alertmanager_alert_delivered" := by
  unfold Relay.concluded
  cases out.result with
  | error p => exact ⟨rfl, fun x told => Or.inl told⟩
  | ok _ =>
    refine ⟨rfl, fun x told => ?_⟩
    rcases List.mem_append.mp told with earlier | last
    · exact Or.inl earlier
    · cases List.mem_singleton.mp last
      exact Or.inr rfl

/-- An alert that was built is refused by a disabled endpoint, and otherwise its exchange decides. -/
theorem tested_built (e : Endpoint) (script : List Response) (t : TestRule) (a : Alert)
    (built : (Relay.orderOf (.ofTestRule t) (.level .critical)).build = .ok a) :
    (tested e script t).requests = (if e.enabled then [⟨0, e.url, a.body⟩] else []) ∧
    (tested e script t).result =
      (if e.enabled then Courier.verdict (script.headD .ok) else .error (.adapter .disabled)) ∧
    ∀ l ∈ (tested e script t).logs, l.event ∈ deliveryEvents := by
  obtain ⟨result, logs⟩ := concluded_level (.ofTestRule t) .critical a ((Relay.start e script).link.send e a)
  rw [tested_eq, Relay.alert_built _ _ a built]
  have told (noted : ∀ l ∈ ((Relay.start e script).link.send e a).logs, l.event ∈ deliveryEvents) :
      ∀ l ∈ (Relay.concluded (Relay.orderOf (.ofTestRule t) (.level .critical)) a
        ((Relay.start e script).link.send e a)).2, l.event ∈ deliveryEvents := by
    intro l told
    rcases logs l told with earlier | last
    · exact noted l earlier
    · rw [last]
      exact List.mem_cons_of_mem _ (List.mem_cons_of_mem _ List.mem_cons_self)
  cases on : e.enabled with
  | false =>
    have sent := Courier.send_disabled Courier.start e a (script.headD .ok) on
    refine ⟨congrArg Outcome.requests sent, result.trans (congrArg Outcome.result sent), told ?_⟩
    intro l noted
    rw [show ((Relay.start e script).link.send e a).logs = [] from congrArg Outcome.logs sent] at noted
    cases noted
  | true =>
    have sent := Courier.send_enabled Courier.start e a (script.headD .ok) on
    refine ⟨congrArg Outcome.requests sent, result.trans (congrArg Outcome.result sent), told ?_⟩
    rw [show ((Relay.start e script).link.send e a).logs = Courier.noted a (script.headD .ok) from
      congrArg Outcome.logs sent]
    exact noted_events a _

theorem tested_unbuilt (e : Endpoint) (script : List Response) (t : TestRule) (p : Problem)
    (unbuilt : (Relay.orderOf (.ofTestRule t) (.level .critical)).build = .error p) :
    (tested e script t).requests = [] ∧ (tested e script t).result = .error p ∧
    (tested e script t).logs = [] := by
  rw [tested_eq, Relay.alert_unbuilt _ _ p unbuilt]
  exact ⟨rfl, rfl, rfl⟩

/-- Neither what starts a colour code nor a dash. -/
def Quiet (t : Text) : Prop := 0x1b ∉ t.codes ∧ 0x2d ∉ t.codes

instance quietDecidable (t : Text) : Decidable (Quiet t) := inferInstanceAs (Decidable (_ ∧ _))

theorem Quiet.append {s t : Text} (hs : Quiet s) (ht : Quiet t) : Quiet (s ++ t) := by
  constructor
  · rw [Text.codes_append, List.mem_append]
    exact fun found => found.elim hs.1 ht.1
  · rw [Text.codes_append, List.mem_append]
    exact fun found => found.elim hs.2 ht.2

def Arguments.level (a : Arguments) : Value := (a.logLevel.map Value.text).getD .null

/-- What a run comes to the test with: settings, the log set up by them, and the rule to be tested. -/
structure Ready (a : Arguments) (w : Surroundings) (x : Settings) (setup : Log.Setup) (t : TestRule) :
    Prop where
  read : w.read a.config = .ok x
  logged : Log.Setup.initial.setUp x.log a.level .null = (setup, .ok ())
  chosen : override a (Relay.testRule x.endpoint) = .ok t

/-- What a test makes of the end of a run: its ending, the last entries, and a line. -/
def concluding (result : Except Problem Unit) : Ending × List Log.Entry × Text :=
  match result with
  | .ok () => (.status 0, [succeeded], "")
  | .error (.adapter err) => (.status 1, [failed err], failureLine err)
  | .error p => (.problem p, [], "")

section Run

variable {words : List Text} {a : Arguments} (parsed : Arguments.parse words = .ok a)
  (w : Surroundings) (script : List Response)

include parsed

theorem run_parsed : run words w script = runArguments a w script := by
  simp only [run, parsed]

theorem run_unread (p : Problem) (unread : w.read a.config = .error p) :
    run words w script = early (.problem p) "" "" := by
  rw [run_parsed parsed]
  unfold runArguments
  rw [Cache.load_eq, unread]
  rfl

theorem run_unlogged (x : Settings) (setup : Log.Setup) (p : Problem) (read : w.read a.config = .ok x)
    (unset : Log.Setup.initial.setUp x.log a.level .null = (setup, .error p)) :
    run words w script = early (.problem p) "" "" := by
  unfold Arguments.level at unset
  rw [run_parsed parsed]
  unfold runArguments
  rw [Cache.load_eq, read]
  dsimp only [Except.map]
  rw [unset]

theorem run_logged (x : Settings) (setup : Log.Setup) (read : w.read a.config = .ok x)
    (logged : Log.Setup.initial.setUp x.log a.level .null = (setup, .ok ())) :
    run words w script = runWith setup x.endpoint a script := by
  unfold Arguments.level at logged
  rw [run_parsed parsed]
  unfold runArguments
  rw [Cache.load_eq, read]
  dsimp only [Except.map]
  rw [logged]

theorem run_malformed (x : Settings) (setup : Log.Setup) (text : Text) (read : w.read a.config = .ok x)
    (logged : Log.Setup.initial.setUp x.log a.level .null = (setup, .ok ()))
    (malformed : override a (Relay.testRule x.endpoint) = .error text) :
    run words w script = early (.refused text) "" "" := by
  simp only [run_logged parsed w script x setup read logged, runWith, malformed, early]

theorem run_ready (x : Settings) (setup : Log.Setup) (t : TestRule) (ready : Ready a w x setup t) :
    let out := tested x.endpoint script t
    let entries := starting t :: out.logs ++ (concluding out.result).2.1
    run words w script = ⟨(concluding out.result).1, "",
      Log.shown (write setup entries ++ (concluding out.result).2.2), entries, out.requests,
      out.state.link.courier.close⟩ := by
  intro out entries
  simp only [run_logged parsed w script x setup ready.read ready.logged, runWith, ready.chosen]
  rfl

theorem run_unready (unready : ∀ x setup t, ¬ Ready a w x setup t) :
    ∃ ending, run words w script = early ending "" "" ∧
      ((∃ p, ending = .problem p) ∨ ∃ text, ending = .refused text) := by
  cases read : w.read a.config with
  | error p => exact ⟨_, run_unread parsed w script p read, Or.inl ⟨p, rfl⟩⟩
  | ok x =>
    rcases setUp : Log.Setup.initial.setUp x.log a.level .null with ⟨setup, result⟩
    cases result with
    | error p => exact ⟨_, run_unlogged parsed w script x setup p read setUp, Or.inl ⟨p, rfl⟩⟩
    | ok _ =>
      cases chosen : override a (Relay.testRule x.endpoint) with
      | error text =>
        exact ⟨_, run_malformed parsed w script x setup text read setUp chosen, Or.inr ⟨text, rfl⟩⟩
      | ok t => exact absurd ⟨read, setUp, chosen⟩ (unready x setup t)

end Run

section Run

variable {words : List Text} {a : Arguments} (parsed : Arguments.parse words = .ok a)
  (w : Surroundings) (script : List Response) (x : Settings) (setup : Log.Setup) (t : TestRule)
  (ready : Ready a w x setup t)

include parsed ready

end Run

end SelfTest
end AlertRelay
