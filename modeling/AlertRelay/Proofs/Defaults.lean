import AlertRelay.Settings
import AlertRelay.Proofs.Lookups

/-! Settings that are given in part. Each name that is known has a default. Checks look at nothing but
what stands under the known names, and take one that is left out for its default, so data are
checked alike when they agree in these values, at the top and inside a section. -/
namespace AlertRelay

/-- The known names of an endpoint's data, with the defaults. -/
def Endpoint.declared : Fields Value :=
  [("enabled", .bool false), ("url", .text ""), ("room", .text ""), ("test_label_names", .tuple []),
    ("test_label_values", .tuple []), ("test_annotation_names", .tuple []),
    ("test_annotation_values", .tuple [])]

def LogSettings.declared : Fields Value := [("level", .text "INFO"), ("format", .text "json")]

/-- A section that is left out is one in which nothing is set. -/
def Settings.declared : Fields Value := [("alertmanager", .map []), ("logging", .map [])]

namespace Raw

def valueOr (d : Raw) (name : Text) (absent : Value) : Value := (d.get? name).getD absent

/-- Data that have the same values under the known names, defaults standing for what is left out. -/
def SameFields (declared : Fields Value) (d e : Raw) : Prop :=
  ∀ name v, Fields.get? name declared = some v → d.valueOr name v = e.valueOr name v

/-- A key that is none of the known names. -/
def Stray (declared : Fields Value) (k : Scalar) : Prop :=
  ∀ name, k = .text name → Fields.get? name declared = none

/-- An outcome for which a missing name means its default, and a key that is not known means nothing. -/
structure Reads {β : Type} (declared : Fields Value) (outcome : Raw → β) : Prop where
  missing : ∀ d name v, Fields.get? name declared = some v →
    outcome (Ordered.erase (.text name) d) = outcome (Ordered.put (.text name) v d)
  stray_put : ∀ d k v, Stray declared k → outcome (Ordered.put k v d) = outcome d
  stray_erase : ∀ d k, Stray declared k → outcome (Ordered.erase k d) = outcome d

section

variable {declared : Fields Value} {d e : Raw} {name : Text} {v : Value}

theorem Stray.ne {k : Scalar} (stray : Stray declared k) (known : Fields.get? name declared = some v) :
    k ≠ .text name := by
  intro here
  rw [stray name here] at known
  cases known

theorem valueOr_congr (same : d.get? name = e.get? name) (absent : Value) :
    d.valueOr name absent = e.valueOr name absent := by
  unfold valueOr
  rw [same]

theorem sameFields_missing (d : Raw) (known : Fields.get? name declared = some v) :
    SameFields declared (Ordered.erase (.text name) d) (Ordered.put (.text name) v d) := by
  intro name₁ w declared₁
  by_cases here : name = name₁
  · subst here
    rw [known] at declared₁
    cases declared₁
    simp only [valueOr, get?_erase_same, get?_put_same, Option.getD_none, Option.getD_some]
  · have other : Scalar.text name ≠ .text name₁ := fun same => here (Scalar.text.inj same)
    apply valueOr_congr
    rw [get?_erase_other other, get?_put_other other]

theorem Stray.sameFields_put {k : Scalar} (stray : Stray declared k) (v : Value) (d : Raw) :
    SameFields declared (Ordered.put k v d) d :=
  fun _ w known => valueOr_congr (get?_put_other (stray.ne known) v d) w

theorem Stray.sameFields_erase {k : Scalar} (stray : Stray declared k) (d : Raw) :
    SameFields declared (Ordered.erase k d) d :=
  fun _ w known => valueOr_congr (get?_erase_other (stray.ne known) d) w

theorem reads_of_sameFields {β : Type} {outcome : Raw → β}
    (alike : ∀ d e, SameFields declared d e → outcome d = outcome e) : Reads declared outcome := by
  constructor
  · intro d name v known
    exact alike _ _ (sameFields_missing d known)
  · intro d k v stray
    exact alike _ _ (stray.sameFields_put v d)
  · intro d k stray
    exact alike _ _ (stray.sameFields_erase d)

variable {α : Type} {check : Value → Checked α} {absent : α}

theorem field_eq_valueOr (d : Raw) (name : Text) (valid : check v = .ok absent) :
    d.field name check absent = (check (d.valueOr name v)).within (.key name) := by
  cases found : d.get? name with
  | none =>
    -- A valid default has no issues, so it does not show that the field was looked at.
    rw [field_of_none found, valueOr, found, Option.getD_none, valid]
    rfl
  | some w => rw [field_of_some found, valueOr, found, Option.getD_some]

theorem SameFields.field (same : SameFields declared d e) (known : Fields.get? name declared = some v)
    (valid : check v = .ok absent) : d.field name check absent = e.field name check absent := by
  rw [field_eq_valueOr d name valid, field_eq_valueOr e name valid, same name v known]

end
end Raw

open Raw

theorem Endpoint.check_sameFields {d e : Raw} (same : SameFields declared d e) : check d = check e := by
  have enabled : d.field "enabled" Check.bool false = e.field "enabled" Check.bool false :=
    same.field rfl rfl
  have url : d.field "url" Check.secret "" = e.field "url" Check.secret "" := same.field rfl rfl
  have room : d.field "room" Check.text "" = e.field "room" Check.text "" := same.field rfl rfl
  have names (name : Text) (known : Fields.get? name declared = some (.tuple [])) :
      d.field name (Check.texts .tupleType) [] = e.field name (Check.texts .tupleType) [] :=
    same.field known rfl
  unfold check checkFields
  rw [enabled, url, room]
  simp only [names "test_label_names" rfl, names "test_label_values" rfl,
    names "test_annotation_names" rfl, names "test_annotation_values" rfl]

theorem LogSettings.check_sameFields {d e : Raw} (same : SameFields declared d e) : check d = check e := by
  have level : d.field "level" Check.text "INFO" = e.field "level" Check.text "INFO" := same.field rfl rfl
  have format : d.field "format" Check.text "json" = e.field "format" Check.text "json" :=
    same.field rfl rfl
  unfold check
  rw [level, format]

namespace Settings

theorem check_sameFields {d e : Raw} (same : SameFields declared d e) : check d = check e := by
  have endpoint : d.field "alertmanager" (section? "AlertmanagerConfig" Endpoint.check) .default =
      e.field "alertmanager" (section? "AlertmanagerConfig" Endpoint.check) .default :=
    same.field rfl rfl
  have log : d.field "logging" (section? "LoggingConfig" LogSettings.check) .default =
      e.field "logging" (section? "LoggingConfig" LogSettings.check) .default :=
    same.field rfl rfl
  unfold check
  rw [endpoint, log]

theorem field_put_section {α : Type} (name : Text) (type : String) (check : Raw → Checked α) (absent : α)
    (es d : Raw) :
    Raw.field (Ordered.put (.text name) (.map es) d) name (section? type check) absent =
      (check es).within (.key name) :=
  field_of_some (get?_put_same name (.map es) d)

theorem check_put_endpoint (es d : Raw) :
    check (Ordered.put (.text "alertmanager") (.map es) d) =
      (((Endpoint.check es).within (.key "alertmanager")).both
        (d.field "logging" (section? "LoggingConfig" LogSettings.check) .default)).map
        (fun p => ⟨p.1, p.2⟩) := by
  have other : Scalar.text "alertmanager" ≠ .text "logging" := by decide
  rw [check, field_put_section, field_congr (get?_put_other other (.map es) d)]

theorem check_put_log (es d : Raw) :
    check (Ordered.put (.text "logging") (.map es) d) =
      ((d.field "alertmanager" (section? "AlertmanagerConfig" Endpoint.check) .default).both
        ((LogSettings.check es).within (.key "logging"))).map (fun p => ⟨p.1, p.2⟩) := by
  have other : Scalar.text "logging" ≠ .text "alertmanager" := by decide
  rw [check, field_put_section, field_congr (get?_put_other other (.map es) d)]

/-- A known name that is left out stands for its default, and other names stand for nothing, in an
endpoint's data, in those of the log, in whole settings, and in either section of
any settings: the same is made of them, or the same issues are found. -/
theorem known_names_decide :
    Reads Endpoint.declared Endpoint.check ∧ Reads LogSettings.declared LogSettings.check ∧
    Reads declared check ∧
    ∀ d : Raw,
      Reads Endpoint.declared (fun es => check (Ordered.put (.text "alertmanager") (.map es) d)) ∧
      Reads LogSettings.declared (fun es => check (Ordered.put (.text "logging") (.map es) d)) := by
  refine ⟨reads_of_sameFields fun _ _ => Endpoint.check_sameFields,
    reads_of_sameFields fun _ _ => LogSettings.check_sameFields,
    reads_of_sameFields fun _ _ => check_sameFields, fun d => ⟨?_, ?_⟩⟩
  · apply reads_of_sameFields
    intro es fs same
    rw [check_put_endpoint, check_put_endpoint, Endpoint.check_sameFields same]
  · apply reads_of_sameFields
    intro es fs same
    rw [check_put_log, check_put_log, LogSettings.check_sameFields same]

/-- A misspelt room in a section with another fault: the room is the usual one and the fault is the
only issue. -/
theorem misspelt_room_means_nothing :
    let given : Raw := [(.text "enabled", .text "on"), (.text "url", .int 7)]
    let whole (es : Raw) : Raw := Ordered.put (.text "alertmanager") (.map es) [(.text "note", .null)]
    Fields.get? "room" Endpoint.declared = some (.text "") ∧ Stray Endpoint.declared (.text "rooms") ∧
    check (whole (Ordered.erase (.text "room") given)) =
      check (whole (Ordered.put (.text "room") (.text "") given)) ∧
    check (whole (Ordered.put (.text "rooms") (.text "ops") given)) = check (whole given) ∧
    check (whole given) = .error [⟨[.key "alertmanager", .key "url"], .stringType⟩] := by
  intro given whole
  have known : Fields.get? "room" Endpoint.declared = some (.text "") := rfl
  have stray : Stray Endpoint.declared (.text "rooms") := by
    rintro name ⟨⟩
    rfl
  obtain ⟨_, _, _, sections⟩ := known_names_decide
  have reads := (sections [(.text "note", .null)]).1
  exact ⟨known, stray, reads.missing given "room" _ known, reads.stray_put given _ _ stray, rfl⟩

end Settings
end AlertRelay
