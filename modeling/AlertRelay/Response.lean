import AlertRelay.Log.Entry
import AlertRelay.Problem
import AlertRelay.Text.Utf8

/-! The answer that a posted alert meets. Something can be raised at four points: when the
request is made, when the answer is entered, when its body is read, and when it is
left. An answer that was entered is always left, and so released. -/
namespace AlertRelay

inductive Stage
  | post
  | enter
  | body
  | leave
deriving DecidableEq

structure Fault where
  stage : Stage
  raised : Except Misuse Failure

namespace Fault

/-- What is raised as a problem. Arguments that make no failure raise a misuse in its place. -/
def problem (f : Fault) : Problem :=
  match f.raised with
  | .ok failure => .failure failure
  | .error m => .misuse m

end Fault

structure Response where
  status : Int
  body : List UInt8
  fault : Option Fault

namespace Response

def ok : Response := ⟨200, [], none⟩

def raisedAt (r : Response) (s : Stage) : Option Problem :=
  match r.fault with
  | some f => if f.stage = s then some f.problem else none
  | none => none

def entered (r : Response) : Bool := (r.raisedAt .post).isNone && (r.raisedAt .enter).isNone

def excerpt (r : Response) : Text := (Utf8.decodeLossy r.body).take 200

def refused (r : Response) : Log.Entry :=
  ⟨.warning, "alertmanager_send_failed", [("status", .int r.status), ("body", .text r.excerpt)]⟩

def inside (r : Response) : Except Problem Unit × List Log.Entry :=
  if r.status = 200 then (.ok (), [])
  else match r.raisedAt .body with
    | some p => (.error p, [])
    | none => (.error (.adapter (.status (.int r.status))), [r.refused])

def meet (r : Response) : Except Problem Unit × List Log.Entry :=
  match r.raisedAt .post, r.raisedAt .enter with
  | some p, _ => (.error p, [])
  | none, some p => (.error p, [])
  -- What is raised on leaving takes the place of what was raised inside.
  | none, none => match r.raisedAt .leave with
    | some p => (.error p, r.inside.2)
    | none => r.inside

end Response
end AlertRelay
