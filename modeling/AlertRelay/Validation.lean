import AlertRelay.Value

/-! Checked data. A check answers a result or all the issues it found, each with the
place where it stands. Checks of several fields are joined so that every field is
looked at and the issues keep the order of the fields. -/
namespace AlertRelay

inductive Place
  | key (name : Text)
  | index (n : Int)
deriving DecidableEq

inductive Flaw
  | stringType
  | stringUnicode
  | boolType
  | boolParsing
  | tupleType
  | listType
  | mapType
  | modelType (name : String)
  | levelValue
  | statusValue
  | integerSize
  | floatType
  | floatParsing
  | missing
  | webUrl
  | frozen
deriving DecidableEq

namespace Flaw

def code : Flaw → String
  | stringType => "string_type"
  | stringUnicode => "string_unicode"
  | boolType => "bool_type"
  | boolParsing => "bool_parsing"
  | tupleType => "tuple_type"
  | listType => "list_type"
  | mapType => "dict_type"
  | modelType _ => "model_type"
  | levelValue => "enum"
  | statusValue => "enum"
  | integerSize => "int_parsing_size"
  | floatType => "float_type"
  | floatParsing => "float_parsing"
  | missing => "missing"
  | webUrl => "value_error"
  | frozen => "frozen_instance"

def message : Flaw → String
  | stringType => "Input should be a valid string"
  | stringUnicode =>
    "Input should be a valid string, unable to parse raw data as a unicode string"
  | boolType => "Input should be a valid boolean"
  | boolParsing => "Input should be a valid boolean, unable to interpret input"
  | tupleType => "Input should be a valid tuple"
  | listType => "Input should be a valid list"
  | mapType => "Input should be a valid dictionary"
  | modelType name => "Input should be a valid dictionary or instance of " ++ name
  | levelValue => "Input should be 0, 1, 2 or 3"
  | statusValue => "Input should be 'firing' or 'resolved'"
  | integerSize => "Unable to parse input string as an integer, exceeded maximum size"
  | floatType => "Input should be a valid number"
  | floatParsing => "Input should be a valid number, unable to parse string as a number"
  | missing => "Field required"
  | webUrl => "Value error, alertmanager url must be an http(s) URL when enabled"
  | frozen => "Instance is frozen"

end Flaw

structure Issue where
  place : List Place
  flaw : Flaw
deriving DecidableEq

abbrev Checked (α : Type) := Except (List Issue) α

namespace Checked

def fail {α : Type} (flaw : Flaw) : Checked α := .error [⟨[], flaw⟩]

def within {α : Type} (p : Place) (c : Checked α) : Checked α :=
  c.mapError (fun is => is.map (fun i => ⟨p :: i.place, i.flaw⟩))

/-- Both checks, the issues of the first before those of the second. -/
def both {α β : Type} : Checked α → Checked β → Checked (α × β)
  | .ok a, .ok b => .ok (a, b)
  | .ok _, .error e => .error e
  | .error e, .ok _ => .error e
  | .error e, .error f => .error (e ++ f)

def each {α β : Type} (check : α → Checked β) : Nat → List α → Checked (List β)
  | _, [] => .ok []
  | i, a :: r => (both (within (.index i) (check a)) (each check (i + 1) r)).map (fun p => p.1 :: p.2)

theorem both_ok {α β : Type} {x : Checked α} {y : Checked β} {p : α × β}
    (h : x.both y = .ok p) : x = .ok p.1 ∧ y = .ok p.2 := by
  cases x with
  | error is => cases y <;> cases h
  | ok a =>
    cases y with
    | error is => cases h
    | ok b =>
      cases h
      exact ⟨rfl, rfl⟩

theorem map_ok {α β : Type} {f : α → β} {x : Checked α} {b : β} (h : x.map f = .ok b) :
    ∃ a, x = .ok a ∧ f a = b := by
  cases x with
  | error is => cases h
  | ok a => exact ⟨a, rfl, Except.ok.inj h⟩

end Checked

abbrev Raw := List (Scalar × Value)

namespace Raw

def ofFields (fs : Fields Value) : Raw := fs.map (fun p => (Scalar.text p.1, p.2))

def get? (d : Raw) (name : Text) : Option Value := Ordered.get? (Scalar.text name) d

def field {α : Type} (d : Raw) (name : Text) (check : Value → Checked α) (absent : α) : Checked α :=
  match d.get? name with
  | none => .ok absent
  | some v => (check v).within (.key name)

def required {α : Type} (d : Raw) (name : Text) (check : Value → Checked α) : Checked α :=
  match d.get? name with
  | none => (Checked.fail .missing).within (.key name)
  | some v => (check v).within (.key name)

/-- A field with a second name that goes first. Issues stand under the name that was used. -/
def aliased {α : Type} (d : Raw) (other name : Text) (check : Value → Checked α) (absent : α) :
    Checked α :=
  match d.get? other with
  | some v => (check v).within (.key other)
  | none => d.field name check absent

end Raw
end AlertRelay
