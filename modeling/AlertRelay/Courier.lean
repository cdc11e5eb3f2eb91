import AlertRelay.Alert
import AlertRelay.Settings
import AlertRelay.Response

/-! Delivery of alerts. A courier holds at most one session and opens one when it needs it. An
alert is posted once; only success counts as delivered, and a failure of the client
or a timeout is reported as a failed transport. -/
namespace AlertRelay

structure Request where
  session : Nat
  url : Text
  body : String
deriving DecidableEq

structure Outcome (σ α : Type) where
  state : σ
  result : Except Problem α
  logs : List Log.Entry
  requests : List Request

/-- Whether each session ever opened is closed, the session in hand, and how many answers were
released. -/
structure Courier where
  closed : List Bool
  held : Option Nat
  released : Nat
deriving DecidableEq

namespace Courier

def start : Courier := ⟨[], none, 0⟩

def isOpen (c : Courier) (i : Nat) : Bool := c.closed[i]? == some false

def acquire (c : Courier) : Courier × Nat :=
  match c.held with
  | some i => if c.isOpen i then (c, i) else (⟨c.closed ++ [false], some c.closed.length, c.released⟩, c.closed.length)
  | none => (⟨c.closed ++ [false], some c.closed.length, c.released⟩, c.closed.length)

/-- Closes the session in hand. One that was closed by others stays in hand. -/
def close (c : Courier) : Courier :=
  match c.held with
  | some i => if c.isOpen i then ⟨c.closed.set i true, none, c.released⟩ else c
  | none => c

/-- The newest session is closed by others, if any was opened. -/
def drop? (c : Courier) : Option Courier :=
  if c.closed.isEmpty then none
  else some ⟨c.closed.set (c.closed.length - 1) true, c.held, c.released⟩

def release (c : Courier) (r : Response) : Courier :=
  if r.entered then ⟨c.closed, c.held, c.released + 1⟩ else c

def report : Problem → Problem
  | .failure f => if f.kind.isTransport then .adapter (.ofFailure f) else .failure f
  | p => p

def sent (a : Alert) : Log.Entry :=
  ⟨.debug, "alertmanager_alert_sent", [("status", .text a.status.text)]⟩

def send (c : Courier) (e : Endpoint) (a : Alert) (r : Response) : Outcome Courier Unit :=
  if e.enabled then
    let (c, i) := c.acquire
    let request : Request := ⟨i, e.url, a.body⟩
    match r.meet with
    | (.ok (), logs) => ⟨c.release r, .ok (), logs ++ [sent a], [request]⟩
    | (.error p, logs) => ⟨c.release r, .error (report p), logs, [request]⟩
  else ⟨c, .error (.adapter .disabled), [], []⟩

end Courier

structure Link where
  courier : Courier
  script : List Response

namespace Link

/-- Delivers an alert. Each post uses up one response; after the last one all succeed. -/
def send (l : Link) (e : Endpoint) (a : Alert) : Outcome Link Unit :=
  let o := l.courier.send e a (l.script.headD .ok)
  ⟨⟨o.state, l.script.drop o.requests.length⟩, o.result, o.logs, o.requests⟩

def close (l : Link) : Link := ⟨l.courier.close, l.script⟩

def drop? (l : Link) : Option Link := l.courier.drop?.map (fun c => ⟨c, l.script⟩)

end Link
end AlertRelay
