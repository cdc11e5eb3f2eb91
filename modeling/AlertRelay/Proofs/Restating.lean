import AlertRelay.Rule
import AlertRelay.Proofs.Building
import AlertRelay.Proofs.Lookups
import AlertRelay.Proofs.Sections

/-! Checked data given again. What a check has made has fields of the plainest kind: texts, truth
values, lists of texts and maps from text to text. A check takes these as they are, so what is made
of them is the same again. -/
namespace AlertRelay

/-- What this check makes of data, it makes again of the fields of the result. -/
def Restates {α : Type} (check : Raw → Checked α) (toFields : α → Fields Value) : Prop :=
  ∀ d x, check d = .ok x → check (.ofFields (toFields x)) = .ok x

theorem Check.each_texts (n : Nat) (ts : List Text) :
    Checked.each Check.text n (ts.map Value.text) = .ok ts := by
  induction ts generalizing n with
  | nil => rfl
  | cons t r ih =>
    rw [List.map_cons, Checked.each, ih]
    rfl

theorem Check.texts_texts (flaw : Flaw) (ts : List Text) : Check.texts flaw (.texts ts) = .ok ts :=
  Check.each_texts 0 ts

namespace Raw

variable {α : Type} {check : Value → Checked α} {absent a : α} {d : Raw} {name : Text} {v : Value}

theorem field_valid (found : d.get? name = some v) (valid : check v = .ok a) :
    d.field name check absent = .ok a := by
  rw [field_of_some found, valid]
  rfl

theorem required_valid (found : d.get? name = some v) (valid : check v = .ok a) :
    d.required name check = .ok a := by
  simp only [required, found, valid]
  rfl

theorem aliased_valid {other : Text} (missing : d.get? other = none) (found : d.get? name = some v)
    (valid : check v = .ok a) : d.aliased other name check absent = .ok a := by
  rw [aliased_of_none missing, field_valid found valid]

end Raw

open Raw

namespace Endpoint

theorem ofFields_own (e : Endpoint) : ofFields e.toEndpointFields = .ok e := dif_pos e.reachable

theorem given_toFields (e : Endpoint) : Given (.ofFields e.toFields) e.toEndpointFields := by
  have names := Check.texts_texts .tupleType
  constructor
  · exact field_valid rfl rfl
  · exact field_valid rfl rfl
  · exact field_valid rfl rfl
  · exact field_valid rfl (names e.testLabelNames)
  · exact field_valid rfl (names e.testLabelValues)
  · exact field_valid rfl (names e.testAnnotationNames)
  · exact field_valid rfl (names e.testAnnotationValues)

/-- The address is as right as it was. -/
theorem check_toFields (e : Endpoint) : check (.ofFields e.toFields) = .ok e := by
  rw [check, (checkFields_eq_ok _ _).mpr e.given_toFields]
  exact e.ofFields_own

end Endpoint

theorem LogSettings.check_toFields (l : LogSettings) : check (.ofFields l.toFields) = .ok l := rfl

/-- Settings are told as both of their sections. -/
theorem Settings.check_toFields (s : Settings) : check (.ofFields s.toFields) = .ok s :=
  (check_ofSections_eq_ok _ _ s).mpr ⟨s.endpoint.check_toFields, s.log.check_toFields⟩

/-- The lists are found under their own names, since nothing stands under the second ones. -/
theorem Rule.check_toFields (r : Rule) : check (.ofFields r.toFields) = .ok r := by
  have room : (ofFields r.toFields).field "room" Check.text "" = .ok r.room := rfl
  have list (other name : Text) (ts : List Text) (missing : (ofFields r.toFields).get? other = none)
      (found : (ofFields r.toFields).get? name = some (.texts ts)) :
      (ofFields r.toFields).aliased other name (Check.texts .listType) [] = .ok ts :=
    aliased_valid missing found (Check.texts_texts .listType ts)
  simp only [check, room, list "alertManagerTagName" "label_names" r.labelNames rfl rfl,
    list "alertManagerTagValue" "label_values" r.labelValues rfl rfl,
    list "alertManagerAnnotationName" "annotation_names" r.annotationNames rfl rfl,
    list "alertManagerAnnotationValue" "annotation_values" r.annotationValues rfl rfl]
  rfl

/-- A message beside the fields of a rule is not looked at by the check of a rule. -/
theorem TestRule.check_rule (r : TestRule) :
    Rule.check (.ofFields r.toFields) = Rule.check (.ofFields r.toRule.toFields) := rfl

theorem TestRule.check_toFields (r : TestRule) : check (.ofFields r.toFields) = .ok r := by
  have message : (ofFields r.toFields).field "message" Check.text "" = .ok r.message := rfl
  rw [check, r.check_rule, r.toRule.check_toFields, message]
  rfl

theorem Status.check_text (s : Status) : Status.check (.text s.text) = .ok s := by
  cases s <;> rfl

theorem Labels.check_toValue (l : Labels) : Labels.check l.toValue = .ok l := by
  have entries : l.toValue = .map (textMap l.entries) := by
    simp only [toValue, Value.ofFields, textMap, List.map_map]
    rfl
  rw [entries, Labels.check, Check.textMap, textEntries_texts]
  exact congrArg Except.ok l.ofPairs_own

theorem Alert.check_toFields (a : Alert) : check (.ofFields a.toFields) = .ok a := by
  have status : (ofFields a.toFields).required "status" Status.check = .ok a.status :=
    required_valid rfl a.status.check_text
  have labels : (ofFields a.toFields).field "labels" Labels.check .empty = .ok a.labels :=
    field_valid rfl a.labels.check_toValue
  have annotations : (ofFields a.toFields).field "annotations" Labels.check .empty = .ok a.annotations :=
    field_valid rfl a.annotations.check_toValue
  rw [check, status, labels, annotations]
  rfl

/-- Whatever data an endpoint, settings, a rule or an alert were made of, their own fields make them again,
with all entries in their order. -/
theorem made_again_of_own_fields :
    Restates Endpoint.check Endpoint.toFields ∧ Restates LogSettings.check LogSettings.toFields ∧
    Restates Settings.check Settings.toFields ∧ Restates Rule.check Rule.toFields ∧
    Restates TestRule.check TestRule.toFields ∧ Restates Alert.check Alert.toFields :=
  ⟨fun _ e _ => e.check_toFields, fun _ l _ => l.check_toFields, fun _ s _ => s.check_toFields,
    fun _ r _ => r.check_toFields, fun _ r _ => r.check_toFields, fun _ a _ => a.check_toFields⟩

/-- A word for yes, a set in place of a sequence, and octets that are the same name as a text. -/
theorem odd_data_made_again :
    let d : Raw := [(.text "alertmanager", .map [(.text "enabled", .text "ON"),
      (.text "url", .text "https://am.example/api"),
      (.text "test_label_names", .set [.text "job", .text "team"])])]
    let s : Settings :=
      ⟨⟨⟨true, "https://am.example/api", "", ["job", "team"], [], [], []⟩, by decide⟩, .default⟩
    let labels : Value :=
      .map [(.text "b", .text "1"), (.text "a", .text "2"), (.bytes [0x62], .text "3")]
    let a : Alert := ⟨.firing, ⟨[("b", "3"), ("a", "2")], by decide⟩, .empty⟩
    Settings.check d = .ok s ∧ Settings.check (.ofFields s.toFields) = .ok s ∧
    Alert.check [(.text "status", .text "firing"), (.text "labels", labels)] = .ok a ∧
    Alert.check (.ofFields a.toFields) = .ok a := by
  intro d s labels a
  have settled : Settings.check d = .ok s := rfl
  have octet : Utf8.decode? [0x62] = some "b" := by cbv
  have merged : Labels.check labels = .ok a.labels := by
    simp only [labels, Labels.check, Check.textMap, Check.textEntries, Check.text, octet]
    rfl
  have alerted : Alert.check [(.text "status", .text "firing"), (.text "labels", labels)] = .ok a := by
    rw [Alert.check, field_valid rfl merged]
    rfl
  obtain ⟨_, _, settings, _, _, alert⟩ := made_again_of_own_fields
  exact ⟨settled, settings d s settled, alerted, alert _ a alerted⟩

end AlertRelay
