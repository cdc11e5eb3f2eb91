import AlertRelay.Validation.Check

/-! All settings: those of the relay, where alerts go and whether they go at all, and those of the log,
each a section. An endpoint that is enabled has a web address, by its type. -/
namespace AlertRelay

def isWebUrl (url : Text) : Bool := url.startsWith "http://" || url.startsWith "https://"

structure EndpointFields where
  enabled : Bool
  url : Text
  room : Text
  testLabelNames : List Text
  testLabelValues : List Text
  testAnnotationNames : List Text
  testAnnotationValues : List Text
deriving DecidableEq

structure Endpoint extends EndpointFields where
  reachable : enabled = true → isWebUrl url = true
deriving DecidableEq

namespace Endpoint

def ofFields (f : EndpointFields) : Checked Endpoint :=
  if h : f.enabled = true → isWebUrl f.url = true then .ok ⟨f, h⟩ else .fail .webUrl

def checkFields (d : Raw) : Checked EndpointFields :=
  let names (name : Text) := d.field name (Check.texts .tupleType) []
  ((d.field "enabled" Check.bool false).both
    ((d.field "url" Check.secret "").both
      ((d.field "room" Check.text "").both
        ((names "test_label_names").both
          ((names "test_label_values").both
            ((names "test_annotation_names").both (names "test_annotation_values"))))))).map
    (fun (e, u, r, ln, lv, an, av) => ⟨e, u, r, ln, lv, an, av⟩)

/-- Every field is valid, and these are their values. -/
structure Given (d : Raw) (f : EndpointFields) : Prop where
  enabled : d.field "enabled" Check.bool false = .ok f.enabled
  url : d.field "url" Check.secret "" = .ok f.url
  room : d.field "room" Check.text "" = .ok f.room
  testLabelNames : d.field "test_label_names" (Check.texts .tupleType) [] = .ok f.testLabelNames
  testLabelValues : d.field "test_label_values" (Check.texts .tupleType) [] = .ok f.testLabelValues
  testAnnotationNames :
    d.field "test_annotation_names" (Check.texts .tupleType) [] = .ok f.testAnnotationNames
  testAnnotationValues :
    d.field "test_annotation_values" (Check.texts .tupleType) [] = .ok f.testAnnotationValues

theorem checkFields_eq_ok (d : Raw) (f : EndpointFields) : checkFields d = .ok f ↔ Given d f := by
  constructor
  · intro read
    obtain ⟨p, hp, rfl⟩ := Checked.map_ok read
    obtain ⟨enabled, hp⟩ := Checked.both_ok hp
    obtain ⟨url, hp⟩ := Checked.both_ok hp
    obtain ⟨room, hp⟩ := Checked.both_ok hp
    obtain ⟨labelNames, hp⟩ := Checked.both_ok hp
    obtain ⟨labelValues, hp⟩ := Checked.both_ok hp
    obtain ⟨annotationNames, annotationValues⟩ := Checked.both_ok hp
    exact ⟨enabled, url, room, labelNames, labelValues, annotationNames, annotationValues⟩
  · intro given
    simp only [checkFields, given.enabled, given.url, given.room, given.testLabelNames,
      given.testLabelValues, given.testAnnotationNames, given.testAnnotationValues]
    rfl

/-- The address is looked at only when every field is valid. -/
def check (d : Raw) : Checked Endpoint := (checkFields d).bind ofFields

def default : Endpoint := ⟨⟨false, "", "", [], [], [], []⟩, by simp⟩

def toFields (e : Endpoint) : Fields Value :=
  [("enabled", .bool e.enabled), ("url", .text e.url), ("room", .text e.room),
    ("test_label_names", .texts e.testLabelNames), ("test_label_values", .texts e.testLabelValues),
    ("test_annotation_names", .texts e.testAnnotationNames),
    ("test_annotation_values", .texts e.testAnnotationValues)]

def masked (e : Endpoint) : String := if e.url.isEmpty then "" else "**********"

end Endpoint
structure LogSettings where
  level : Text
  format : Text
deriving DecidableEq

namespace LogSettings

def check (d : Raw) : Checked LogSettings :=
  ((d.field "level" Check.text "INFO").both (d.field "format" Check.text "json")).map
    (fun p => ⟨p.1, p.2⟩)

def default : LogSettings := ⟨"INFO", "json"⟩

def toFields (l : LogSettings) : Fields Value := [("level", .text l.level), ("format", .text l.format)]

end LogSettings

structure Settings where
  endpoint : Endpoint
  log : LogSettings
deriving DecidableEq

namespace Settings

def section? {α : Type} (name : String) (check : Raw → Checked α) : Value → Checked α
  | .map es => check es
  | _ => .fail (.modelType name)

def check (d : Raw) : Checked Settings :=
  ((d.field "alertmanager" (section? "AlertmanagerConfig" Endpoint.check) .default).both
    (d.field "logging" (section? "LoggingConfig" LogSettings.check) .default)).map
    (fun p => ⟨p.1, p.2⟩)

def default : Settings := ⟨.default, .default⟩

def toFields (s : Settings) : Fields Value :=
  [("alertmanager", .ofFields s.endpoint.toFields), ("logging", .ofFields s.log.toFields)]

end Settings

end AlertRelay
