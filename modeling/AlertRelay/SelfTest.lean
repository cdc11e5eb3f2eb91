import AlertRelay.Log.Setup
import AlertRelay.Relay
import AlertRelay.SelfTest.Arguments

/-! The self-test: loads settings, sets up the log, and sends one critical alert with the
configured labels or those of the command line. It tells on the way what it does, and
closes its session however it ends. -/
namespace AlertRelay.SelfTest

inductive Ending
  | status (code : Nat)
  | refused (text : Text)
  | problem (p : Problem)

/-- What a run leaves behind. The entries are all that were issued, written or not. -/
structure Report where
  ending : Ending
  shown : String
  written : Text
  entries : List Log.Entry
  requests : List Request
  courier : Courier

def entry (severity : Log.Severity) (event : Text) (fields : Fields Value) : Log.Entry :=
  ⟨severity, event, fields⟩

/-- The arguments of the command line in place of what is configured. An empty room is none. -/
def override (a : Arguments) (t : TestRule) : Except Text TestRule := do
  let room := match a.room with
    | some r => if r.isEmpty then t.room else r
    | none => t.room
  let (ln, lv) ← if a.labels.isEmpty then pure (t.labelNames, t.labelValues)
    else splitPairs a.labels "--label"
  let (an, av) ← if a.annotations.isEmpty then pure (t.annotationNames, t.annotationValues)
    else splitPairs a.annotations "--annotation"
  return ⟨⟨room, ln, lv, an, av⟩, t.message⟩

def starting (t : TestRule) : Log.Entry :=
  entry .info "selftest_starting"
    [("room", .text t.room), ("labels", .int t.labelNames.length),
      ("annotations", .int t.annotationNames.length)]

def failed (e : AdapterError) : Log.Entry :=
  entry .error "selftest_failed" [("error", .text e.message), ("error_type", .text e.name)]

def succeeded : Log.Entry := entry .info "selftest_ok" []

def failureLine (e : AdapterError) : Text := "Self-test failed: " ++ e.message ++ "\n"

def write (setup : Log.Setup) (es : List Log.Entry) : Text :=
  es.foldl (fun t e => t ++ setup.emit "selftest" e) .empty

def runWith (setup : Log.Setup) (e : Endpoint) (a : Arguments) (script : List Response) : Report :=
  match override a (Relay.testRule e) with
  | .error text => ⟨.refused text, "", "", [], [], .start⟩
  | .ok t =>
    let out := (Relay.start e script).test (.ofTestRule t)
    let courier := out.state.link.courier.close
    let (ending, more, tail) : Ending × List Log.Entry × Text := match out.result with
      | .ok () => (.status 0, [succeeded], "")
      | .error (.adapter err) => (.status 1, [failed err], failureLine err)
      | .error p => (.problem p, [], "")
    let entries := starting t :: out.logs ++ more
    ⟨ending, "", Log.shown (write setup entries ++ tail), entries, out.requests, courier⟩

def early (ending : Ending) (shown : String) (written : Text) : Report := ⟨ending, shown, written, [], [], .start⟩

def runArguments (a : Arguments) (w : Surroundings) (script : List Response) : Report :=
  match Cache.start.load w a.config with
  | .error p => early (.problem p) "" ""
  | .ok (_, l) =>
    match Log.Setup.initial.setUp l.settings.log ((a.logLevel.map Value.text).getD .null) .null with
    | (_, .error p) => early (.problem p) "" ""
    | (setup, .ok ()) => runWith setup l.settings.endpoint a script

def run (words : List Text) (w : Surroundings) (script : List Response) : Report :=
  match Arguments.parse words with
  | .error .help => early (.status 0) Arguments.helpText ""
  | .error (.error m) => early (.status 2) "" (Log.shown (Arguments.errorText m))
  | .ok a => runArguments a w script

end AlertRelay.SelfTest
