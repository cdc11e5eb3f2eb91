import AlertRelay.Json.Printer
import AlertRelay.Level
import AlertRelay.Problem

/-! An alert, its wire form, and how it is built. Labels and annotations are names with values, each name
once and in order of first appearance. They are built from parallel lists or from pairs, the
status from the urgency; nothing is checked before the lists are paired. -/
namespace AlertRelay

inductive Status
  | firing
  | resolved
deriving DecidableEq

namespace Status

def text : Status → Text
  | firing => "firing"
  | resolved => "resolved"

def check : Value → Checked Status
  | .scalar (.text t) =>
    if !t.isUnicode then .fail .stringUnicode
    else if t = firing.text then .ok .firing
    else if t = resolved.text then .ok .resolved
    else .fail .statusValue
  | _ => .fail .statusValue

def ofUrgency (u : Urgency) : Status := if u.isClear then .resolved else .firing

end Status

structure Labels where
  entries : Fields Text
  distinct : (Ordered.keys entries).Nodup
deriving DecidableEq

namespace Labels

def empty : Labels := ⟨[], by simp [Ordered.keys]⟩

def ofPairs (ps : Fields Text) : Labels := ⟨Ordered.ofPairs ps, Ordered.nodup_keys_ofPairs ps⟩

def get? (l : Labels) (name : Text) : Option Text := Ordered.get? name l.entries

def names (l : Labels) : List Text := Ordered.keys l.entries

def toValue (l : Labels) : Value := Value.ofFields (l.entries.map (fun p => (p.1, Value.text p.2)))

/-- On the wire a name is written in its legible form; names that agree in it become one. -/
def wire (l : Labels) : Value :=
  Value.ofFields (Ordered.ofPairs (l.entries.map (fun p => (p.1.legible, Value.text p.2))))

def check (v : Value) : Checked Labels := (Check.textMap v).map ofPairs

end Labels

structure Alert where
  status : Status
  labels : Labels
  annotations : Labels
deriving DecidableEq

namespace Alert

def check (d : Raw) : Checked Alert :=
  ((d.required "status" Status.check).both
    ((d.field "labels" Labels.check .empty).both (d.field "annotations" Labels.check .empty))).map
    (fun p => ⟨p.1, p.2.1, p.2.2⟩)

def toFields (a : Alert) : Fields Value :=
  [("status", .text a.status.text), ("labels", a.labels.toValue),
    ("annotations", a.annotations.toValue)]

def wire (a : Alert) : Value :=
  Value.ofFields
    [("Status", .text a.status.text), ("Labels", a.labels.wire),
      ("Annotations", a.annotations.wire)]

def body (a : Alert) : String := Json.render (.list [a.wire])

end Alert

/-- Names and values paired by position. The length of the names is asked for first. -/
def pairUp (names values kind : Value) : Except Problem (List (Value × Value)) :=
  match names.members?, values.members? with
  | none, _ => .error (.misuse (.noSize names.typeName))
  | some _, none => .error (.misuse (.noSize values.typeName))
  | some ns, some vs =>
    if ns.length = vs.length then .ok (ns.zip vs)
    else .error (.adapter (.mismatch kind ns.length vs.length))

def pairEntries : Nat → List Value → Except Misuse (List (Scalar × Value))
  | _, [] => .ok []
  | i, x :: r =>
    match x.members? with
    | none => .error (.notASequence i)
    | some [.scalar k, v] => (pairEntries (i + 1) r).map ((k, v) :: ·)
    | some [k, _] => .error (.unhashable k.typeName)
    | some ms => .error (.notAPair i ms.length)

def mapOf : Value → Except Misuse Raw
  | .map es => .ok es
  | v => match v.members? with
    | none => .error (.notIterable v.typeName)
    | some ms => (pairEntries 0 ms).map Ordered.ofPairs

namespace Alert

def ofPairs (u : Urgency) (labels annotations : Value) : Except Problem Alert := do
  -- Both are read before either is checked.
  let ls ← Problem.ofMisused (mapOf labels)
  let as ← Problem.ofMisused (mapOf annotations)
  Problem.ofChecked (((Labels.check (.map ls)).within (.key "labels")).both
      ((Labels.check (.map as)).within (.key "annotations")) |>.map
    (fun p => ⟨.ofUrgency u, p.1, p.2⟩))

def pairs (ps : List (Value × Value)) : Value := .list (ps.map (fun p => .tuple [p.1, p.2]))

def build (u : Urgency) (labelNames labelValues annotationNames annotationValues : Value) :
    Except Problem Alert := do
  let ls ← pairUp labelNames labelValues (.text "labels")
  let as ← pairUp annotationNames annotationValues (.text "annotations")
  ofPairs u (pairs ls) (pairs as)

end Alert

end AlertRelay
