import AlertRelay.Json.Printer

/-! Log entries: an event with a level and named values, in the order they were given; and the line that
an entry is written as, a JSON object or columns for a console. The time is written by a mark that
stands for it. -/
namespace AlertRelay.Log

inductive Severity
  | debug
  | info
  | warning
  | error
  | critical
deriving DecidableEq

namespace Severity

def name : Severity → String
  | debug => "debug"
  | info => "info"
  | warning => "warning"
  | error => "error"
  | critical => "critical"

def number : Severity → Int
  | debug => 10
  | info => 20
  | warning => 30
  | error => 40
  | critical => 50

end Severity

structure Entry where
  severity : Severity
  event : Text
  fields : Fields Value

/-- The named values of an entry with its event and level, which win over fields of these names. -/
def Entry.toFields (e : Entry) : Fields Value :=
  Fields.put "log_level" (.text e.severity.name) (Fields.put "event" (.text e.event) e.fields)

inductive Format
  | json
  | console
deriving DecidableEq

def Format.ofName (name : Text) : Format := if name = "console" then .console else .json

def timeMark : Text := "<ts>"

def serviceName : Text := "amnotify"

/-- Names that are never shown: two that the log keeps to itself, and two that ask for a trace, of
which there is none. -/
def hiddenNames : List Text := ["_record", "_from_structlog", "exc_info", "stack_info"]

def lineFields (isService : Bool) (e : Entry) : Fields Value :=
  let fs := Fields.put "event" (.text e.event) e.fields
  let fs := if isService && !Fields.has "service" fs then Fields.put "service" (.text serviceName) fs else fs
  let fs := Fields.put "timestamp" (.text timeMark) (Fields.put "level" (.text e.severity.name) fs)
  hiddenNames.foldr Fields.erase fs

def row (n : Nat) (c : Char) : Text := ⟨List.replicate n c.toNat⟩

def padded (width : Nat) (t : Text) : Text := t ++ row (width - t.length) ' '

/-- A value in a column. Text is quoted only where it could be misread. -/
def columnText : Value → Text
  | .scalar (.text t) =>
    if t.codes.any ([' ', '\t', '=', '\r', '\n', '\x22', '\x27'].map Char.toNat).contains then t.quote
    else t
  | v => v.quoted

def headColumns : Fields (Value → Text) :=
  [("timestamp", Value.written),
    ("level", fun v => "[" ++ padded 9 v.written ++ "]"),
    ("event", fun v => padded 30 v.written),
    ("logger", fun v => "[" ++ v.written ++ "]"),
    ("logger_name", fun v => "[" ++ v.written ++ "]")]

def traceNames : List Text := ["stack", "exception"]

def trace? (name : Text) (fs : Fields Value) : Option Text :=
  match Fields.get? name fs with
  | none | some (.scalar .null) => none
  | some v => some v.written

def traces (fs : Fields Value) : Text :=
  match trace? "stack" fs, trace? "exception" fs with
  | none, none => ""
  | some s, none => "\n" ++ s
  | none, some e => "\n" ++ e
  | some s, some e => "\n" ++ s ++ "\n\n" ++ row 79 '=' ++ "\n\n" ++ e

def columns (fs : Fields Value) : Text :=
  let heads := headColumns.filterMap (fun p => (Fields.get? p.1 fs).map p.2)
  let shown := fs.filter (fun p => !Fields.has p.1 headColumns && !traceNames.contains p.1)
  let sorted := shown.mergeSort (fun p q => p.1.isUpTo q.1)
  Text.join " " (heads ++ sorted.map (fun p => p.1 ++ "=" ++ columnText p.2)) ++ traces fs

def render (f : Format) (fs : Fields Value) : Text :=
  match f with
  | .json => Json.render (Value.ofFields fs) ++ "\n"
  | .console => columns fs ++ "\n"

def line (f : Format) (isService : Bool) (e : Entry) : Text := render f (lineFields isService e)

def foreignLine (f : Format) (message : Text) : Text := render f [("event", .text message)]

end AlertRelay.Log
