import AlertRelay.Courier

/-! A run of steps on a courier, with a few endpoints to deliver to. -/
namespace AlertRelay.Courier

inductive Step
  | send (endpoint : Nat) (data : Raw)
  | close
  | acquire
  | drop

inductive Reply
  | done
  | session (i : Nat)

/-- The effect of a step. The alert is checked before anything is sent. -/
def perform (endpoints : List Endpoint) (l : Link) : Step → Outcome Link Reply
  | .send i data => match endpoints[i]?, Alert.check data with
    | none, _ => ⟨l, .error (.misuse .outOfRange), [], []⟩
    | some _, .error is => ⟨l, .error (.invalid is), [], []⟩
    | some e, .ok a =>
      let o := l.send e a
      ⟨o.state, o.result.map (fun _ => .done), o.logs, o.requests⟩
  | .close => ⟨l.close, .ok .done, [], []⟩
  | .acquire =>
    let (c, i) := l.courier.acquire
    ⟨⟨c, l.script⟩, .ok (.session i), [], []⟩
  | .drop => match l.drop? with
    | some l => ⟨l, .ok .done, [], []⟩
    | none => ⟨l, .error (.misuse .outOfRange), [], []⟩

def run (endpoints : List Endpoint) (l : Link) : List Step → List (Outcome Link Reply)
  | [] => []
  | t :: r =>
    let o := perform endpoints l t
    o :: run endpoints o.state r

def after (endpoints : List Endpoint) (l : Link) : List Step → Link
  | [] => l
  | t :: r => after endpoints (perform endpoints l t).state r

end AlertRelay.Courier
