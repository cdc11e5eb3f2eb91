import AlertRelay.Validation.Check

/-! Alert levels, and the events that carry them. The first level means that all is well and resolves
an alert. -/
namespace AlertRelay

inductive Level
  | ok
  | info
  | warning
  | critical
deriving DecidableEq

namespace Level

def name : Level → String
  | ok => "OK"
  | info => "INFO"
  | warning => "WARNING"
  | critical => "CRITICAL"

def number : Level → Nat
  | ok => 0
  | info => 1
  | warning => 2
  | critical => 3

def all : List Level := [ok, info, warning, critical]

def ofName? (name : Text) : Option Level := all.find? (fun l => Text.ofString l.name == name)

def ofNumber? (n : Int) : Option Level := all.find? (fun l => (l.number : Int) == n)

def ofInteger (n : Int) : Checked Level :=
  match ofNumber? n with
  | some l => .ok l
  | none => if Check.fits64 n then .fail .levelValue else .fail .integerSize

def check : Value → Checked Level
  | .scalar (.int n) => ofInteger n
  | .scalar (.bool b) => ofInteger b.toNat
  | .scalar (.float x) => match x.toInt?.bind ofNumber? with
    | some l => .ok l
    | none => .fail .levelValue
  | .scalar (.text t) => match Check.integer? t with
    | some n => ofInteger n
    | none => .fail .levelValue
  | _ => .fail .levelValue

end Level

inductive Urgency
  | level (l : Level)
  | other (v : Value)

/-- Whether an alert of this urgency is resolved: the level that means all is well, or any number
equal to it. -/
def Urgency.isClear : Urgency → Bool
  | .level l => l == .ok
  | .other (.scalar s) => s.sameKey (.int 0)
  | .other _ => false

/-- A change of an alert's state, as the host's rules report it. The time is absent when the moment of
arrival is to be taken. -/
structure Event where
  id : Text
  message : Text
  details : Text
  level : Level
  time : Option Binary64
deriving DecidableEq

namespace Event

def check (d : Raw) : Checked Event :=
  ((d.field "id" Check.text "").both
    ((d.field "message" Check.text "").both
      ((d.field "details" Check.text "").both
        ((d.field "level" Level.check .ok).both
          (d.field "time" (fun v => (Check.float v).map some) none))))).map
    (fun (i, m, s, l, t) => ⟨i, m, s, l, t⟩)

end Event

end AlertRelay
