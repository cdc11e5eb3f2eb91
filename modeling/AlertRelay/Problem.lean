import AlertRelay.Failure
import AlertRelay.Files
import AlertRelay.Validation
import AlertRelay.Yaml.Error

/-! What can go wrong in a step: the relay's own errors with their texts, invalid data,
a failure of the exchange, a misuse, or settings that cannot be read. -/
namespace AlertRelay

inductive AdapterError
  | general (args : List Value)
  | cardinality (count : Value)
  | configType (expected : Text) (got : String)
  | optionsType (got : String)
  | labelMismatch (kind names values : Value)
  | disabled
  | transport (args : List Value) (cause : Option Failure)
  | status (code : Value)

namespace AdapterError

def name : AdapterError → String
  | general _ => "AlertmanagerError"
  | cardinality _ => "ConfigCardinalityError"
  | configType _ _ => "ConfigTypeError"
  | optionsType _ => "OptionsTypeError"
  | labelMismatch _ _ _ => "LabelMismatchError"
  | disabled => "AdapterDisabledError"
  | transport _ _ => "TransportError"
  | status _ => "UnexpectedStatusError"

def message : AdapterError → Text
  | general args => argsText args
  | cardinality n => "expected only one new config object, got " ++ n.written
  | configType expected got =>
    "expected config object to be of type " ++ expected ++ ", got " ++ got
  | optionsType got => "unexpected options type " ++ got
  | labelMismatch kind names values =>
    kind.written ++ ": got " ++ names.written ++ " names but " ++ values.written ++ " values"
  | disabled => "service is not enabled"
  | transport args _ => argsText args
  | status code => "unexpected response code " ++ code.written ++ " from Alertmanager service"

def broader : AdapterError → List String
  | general _ => ["Exception"]
  | _ => ["AlertmanagerError", "Exception"]

def attribute? : AdapterError → Option (Text × Value)
  | cardinality n => some ("count", n)
  | labelMismatch kind _ _ => some ("kind", kind)
  | status code => some ("code", code)
  | transport _ (some f) => some ("cause", .text f.name)
  | _ => none

def ofFailure (f : Failure) : AdapterError :=
  .transport [.text ("POST to Alertmanager failed: " ++ f.name)] (some f)

def mismatch (kind : Value) (names values : Nat) : AdapterError :=
  .labelMismatch kind (.int names) (.int values)

def parameters? (name : String) : Option (List String) :=
  [("ConfigCardinalityError", ["count"]), ("ConfigTypeError", ["expected", "got"]),
    ("OptionsTypeError", ["got"]), ("LabelMismatchError", ["kind", "names", "values"]),
    ("AdapterDisabledError", []), ("UnexpectedStatusError", ["code"])].lookup name

/-- The error of a name from its arguments; none where no error has that name. An error that is about
a type takes the type of its last argument. -/
def ofName? (name : String) (args : List Value) : Option (Except Misuse AdapterError) :=
  match name, args with
  | "AlertmanagerError", args => some (.ok (.general args))
  | "TransportError", args => some (.ok (.transport args none))
  | "ConfigCardinalityError", [n] => some (.ok (.cardinality n))
  | "ConfigTypeError", [expected, got] => some (.ok (.configType expected.written got.typeName))
  | "OptionsTypeError", [got] => some (.ok (.optionsType got.typeName))
  | "LabelMismatchError", [k, n, v] => some (.ok (.labelMismatch k n v))
  | "AdapterDisabledError", [] => some (.ok .disabled)
  | "UnexpectedStatusError", [code] => some (.ok (.status code))
  | _, _ => (parameters? name).map (fun ps =>
    if args.length < ps.length then
      .error (.missingArguments (name ++ ".__init__") (ps.drop args.length))
    else
      .error (.tooManyArguments (name ++ ".__init__") (ps.length + 1) (ps.length + 1)
        (args.length + 1)))

end AdapterError

inductive Problem
  | invalid (issues : List Issue)
  | adapter (e : AdapterError)
  | failure (f : Failure)
  | misuse (m : Misuse)
  | file (f : FileFault)
  | yaml (e : Yaml.Error)

namespace Problem

def ofChecked {α : Type} (c : Checked α) : Except Problem α := c.mapError .invalid

def message : Problem → Text
  | invalid is => "; ".intercalate (is.map (fun i => i.flaw.message))
  | adapter e => e.message
  | failure f => f.text
  | misuse m => m.message
  | file f => f.message
  | yaml (.misfit m) => m.message
  | yaml (.octets f) => Yaml.octetsMessage f
  | yaml .tooDeep => Yaml.depthMessage
  | yaml _ => "the settings text is malformed"

def ofMisused {α : Type} (c : Except Misuse α) : Except Problem α := c.mapError .misuse

@[simp] theorem ofChecked_ok {α : Type} (a : α) : ofChecked (.ok a) = .ok a := rfl

@[simp] theorem ofMisused_ok {α : Type} (a : α) : ofMisused (.ok a) = .ok a := rfl

end Problem

inductive Raised
  | adapter (e : AdapterError)
  | failure (f : Failure)

namespace Raised

def name : Raised → String
  | adapter e => e.name
  | failure f => f.name

def text : Raised → Text
  | adapter e => e.message
  | failure f => f.text

def ofName? (name : String) (args : List Value) : Option (Except Misuse Raised) :=
  match AdapterError.ofName? name args with
  | some e => some (e.map .adapter)
  | none => (FailureKind.ofName? name).map (fun k => (Failure.raise k args).map .failure)

end Raised
end AlertRelay
