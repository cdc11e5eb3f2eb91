import AlertRelay.Misuse
import AlertRelay.Validation.Check

/-! What one rule of the host attaches to its alerts: a room, and labels and annotations as
parallel lists. Each list may be given under its own name or a second one. A
self-test has the same fields and a message. -/
namespace AlertRelay

structure Rule where
  room : Text
  labelNames : List Text
  labelValues : List Text
  annotationNames : List Text
  annotationValues : List Text
deriving DecidableEq

namespace Rule

def check (d : Raw) : Checked Rule :=
  let names (other name : Text) := d.aliased other name (Check.texts .listType) []
  ((d.field "room" Check.text "").both
    ((names "alertManagerTagName" "label_names").both
      ((names "alertManagerTagValue" "label_values").both
        ((names "alertManagerAnnotationName" "annotation_names").both
          (names "alertManagerAnnotationValue" "annotation_values"))))).map
    (fun (r, ln, lv, an, av) => ⟨r, ln, lv, an, av⟩)

def default : Rule := ⟨"", [], [], [], []⟩

def toFields (r : Rule) : Fields Value :=
  [("room", .text r.room), ("label_names", .texts r.labelNames), ("label_values", .texts r.labelValues),
    ("annotation_names", .texts r.annotationNames), ("annotation_values", .texts r.annotationValues)]

end Rule

structure TestRule extends Rule where
  message : Text
deriving DecidableEq

namespace TestRule

def check (d : Raw) : Checked TestRule :=
  ((Rule.check d).both (d.field "message" Check.text "")).map (fun p => ⟨p.1, p.2⟩)

def default : TestRule := ⟨.default, ""⟩

def toFields (r : TestRule) : Fields Value := Fields.put "message" (.text r.message) r.toRule.toFields

end TestRule
/-! Rules in the hands of the host, which may overwrite their fields with anything. A field
remembers the values it had, because an answer given earlier shows the list it was
given, with what was appended to that list since. -/

structure Slot where
  past : List Value
  now : Value

namespace Slot

def ofValue (v : Value) : Slot := ⟨[], v⟩

def version (s : Slot) : Nat := s.past.length

def set (s : Slot) (v : Value) : Slot := ⟨s.past ++ [s.now], v⟩

def append (s : Slot) (v : Value) : Except Misuse Slot :=
  match s.now with
  | .list xs => .ok ⟨s.past, .list (xs ++ [v])⟩
  | other => .error (.noAttribute other.typeName "append")

def ofVersion (s : Slot) (version : Nat) : Value := (s.past ++ [s.now])[version]?.getD s.now

end Slot

inductive Part
  | room
  | labelNames
  | labelValues
  | annotationNames
  | annotationValues
  | message
deriving DecidableEq

namespace Part

def name : Part → Text
  | room => "room"
  | labelNames => "label_names"
  | labelValues => "label_values"
  | annotationNames => "annotation_names"
  | annotationValues => "annotation_values"
  | message => "message"

def ofRule : List Part := [room, labelNames, labelValues, annotationNames, annotationValues]

end Part

/-- A rule whose fields may hold anything; one of a self-test is marked. Names that start with an
underscore are no fields, and are kept apart. -/
structure Draft where
  isTest : Bool
  slot : Part → Slot
  hidden : Fields Slot

namespace Draft

def value (r : Rule) (message : Text) : Part → Value
  | .room => .text r.room
  | .labelNames => .texts r.labelNames
  | .labelValues => .texts r.labelValues
  | .annotationNames => .texts r.annotationNames
  | .annotationValues => .texts r.annotationValues
  | .message => .text message

def ofRule (r : Rule) : Draft := ⟨false, fun p => .ofValue (value r "" p), []⟩

def ofTestRule (r : TestRule) : Draft := ⟨true, fun p => .ofValue (value r.toRule r.message p), []⟩

def typeName (d : Draft) : String := if d.isTest then "TestOptions" else "HandlerConfig"

def parts (d : Draft) : List Part := Part.ofRule ++ if d.isTest then [.message] else []

def part? (d : Draft) (name : Text) : Option Part := d.parts.find? (fun p => p.name == name)

def now (d : Draft) (p : Part) : Value := (d.slot p).now

def put (d : Draft) (p : Part) (s : Slot) : Draft :=
  { d with slot := fun q => if q = p then s else d.slot q }

def isHiddenName (name : Text) : Bool := name.startsWith "_"

theorem isHiddenName_of_innate (name : Text) (i : Innate) (innate : Innate.ofName? name = some i) :
    isHiddenName name = true := by
  rw [← i.name_of_ofName? name innate]
  cases i <;> rfl

def set (d : Draft) (name : Text) (v : Value) : Except Misuse Draft :=
  match d.part? name with
  | some p => .ok (d.put p ((d.slot p).set v))
  | none => match Innate.ofName? name with
    | some i => .error (i.refuseSet "HandlerConfig" v)
    | none =>
      if isHiddenName name then .ok { d with hidden := Fields.put name (.ofValue v) d.hidden }
      else .error (.noField d.typeName name)

def append (d : Draft) (name : Text) (v : Value) : Except Misuse Draft :=
  match d.part? name with
  | some p => ((d.slot p).append v).map (d.put p)
  | none => match Innate.ofName? name, Fields.get? name d.hidden with
    | some i, _ => .error i.refuseAppend
    | none, some s => (s.append v).map (fun s => { d with hidden := Fields.put name s d.hidden })
    | none, none => .error (.noAttribute d.typeName name)

def versions (d : Draft) : Part → Nat := fun p => (d.slot p).version

def shown (d : Draft) (versions : Part → Nat) : Fields Value :=
  d.parts.map (fun p => (p.name, (d.slot p).ofVersion (versions p)))

end Draft

end AlertRelay
