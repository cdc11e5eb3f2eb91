import AlertRelay.Alert
import AlertRelay.Courier
import AlertRelay.Rule
import AlertRelay.Level
import AlertRelay.Live
import AlertRelay.Sink

/-! The relay: the endpoint in force, a courier, and what the host made with them. An alert is
built from four lists, delivered to the endpoint in force, and its delivery is logged.
A handler keeps a rule and a sink; what a delivery reports goes to the sink and stops
there, and everything else goes on to the host. -/
namespace AlertRelay

structure Handler where
  draft : Nat
  sink : Sink

inductive Named
  | rule (draft : Nat)
  | handler (h : Handler)

/-- Rules are numbered in the order they were made; rules and handlers are known by names. -/
structure Relay where
  live : Live
  next : Nat
  link : Link
  drafts : List Draft
  names : Fields Named

namespace Relay

def start (e : Endpoint) (script : List Response) : Relay :=
  ⟨⟨⟨0, e⟩⟩, 1, ⟨.start, script⟩, [], []⟩

def endpoint (s : Relay) : Endpoint := s.live.current.endpoint

def setLink (s : Relay) (l : Link) : Relay := { s with link := l }

structure Order where
  room : Value
  labelNames : Value
  labelValues : Value
  annotationNames : Value
  annotationValues : Value
  urgency : Urgency

def Order.build (o : Order) : Except Problem Alert :=
  Alert.build o.urgency o.labelNames o.labelValues o.annotationNames o.annotationValues

def orderOf (d : Draft) (u : Urgency) : Order :=
  ⟨d.now .room, d.now .labelNames, d.now .labelValues, d.now .annotationNames,
    d.now .annotationValues, u⟩

def delivered (o : Order) (a : Alert) : Except Problem Log.Entry :=
  match o.urgency with
  | .level l =>
    .ok ⟨.info, "alertmanager_alert_delivered",
      [("room", o.room), ("level", .text l.name), ("status", .text a.status.text)]⟩
  | .other v => .error (.misuse (.noAttribute v.typeName "name"))

def alert (s : Relay) (o : Order) : Outcome Relay Unit :=
  match o.build with
  | .error p => ⟨s, .error p, [], []⟩
  | .ok a =>
    let out := s.link.send s.endpoint a
    let s := s.setLink out.state
    match out.result with
    | .error p => ⟨s, .error p, out.logs, out.requests⟩
    | .ok () => match delivered o a with
      | .ok entry => ⟨s, .ok (), out.logs ++ [entry], out.requests⟩
      | .error p => ⟨s, .error p, out.logs, out.requests⟩

def failedToHandle : Text := "failed to handle event"

/-- An alert for one event of a rule. The relay's own errors are reported and not passed on. -/
def handle (s : Relay) (sink : Sink) (d : Draft) (e : Event) : Outcome Relay Unit :=
  let out := s.alert (orderOf d (.level e.level))
  match out.result with
  | .error (.adapter err) =>
    ⟨out.state, .ok (), out.logs ++ [sink.report failedToHandle (.adapter err)], out.requests⟩
  | _ => out

def test (s : Relay) (d : Draft) : Outcome Relay Unit :=
  if d.isTest then s.alert (orderOf d (.level .critical))
  else ⟨s, .error (.adapter (.optionsType d.typeName)), [], []⟩

def testMessage : Text := "test alertmanager message"

def defaultRule (e : Endpoint) : Rule := ⟨e.room, [], [], [], []⟩

def testRule (e : Endpoint) : TestRule :=
  ⟨⟨e.room, e.testLabelNames, e.testLabelValues, e.testAnnotationNames, e.testAnnotationValues⟩,
    testMessage⟩

def update (s : Relay) (p : Proposal) : Outcome Relay Unit :=
  let made : Except Problem (Relay × Log.Entry) := do
    let (b, next) ← p.make s.next
    let (live, entry) ← s.live.update b
    return ({ s with live, next }, entry)
  match made with
  | .ok (s, entry) => ⟨s, .ok (), [entry], []⟩
  | .error p => ⟨s, .error p, [], []⟩

/-- A sink for a handler. The arguments of the handler's maker may not be named by the context. -/
def handlerSink (context : Fields Value) : Except Misuse Sink := do
  Sink.refuse "AlertmanagerService.handler" ["self", "config"] context
  Sink.root.bind context

end Relay
end AlertRelay
