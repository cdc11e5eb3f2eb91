import AlertRelay.Log.Setup
import AlertRelay.Sink

/-! A run of steps on the log: setups, entries by either way, and operations that log. -/
namespace AlertRelay.Log

inductive Step
  | setUp (level format : Value)
  | entry (logger : Text) (e : Entry)
  | foreign (logger : Text) (v : Severity) (message : Text)
  | report (message : Text) (error : Except Misuse Raised) (context : Fields Value)
  | update (data : Raw)
  | load (path : Option Text)

structure Session where
  surroundings : Surroundings
  cache : Cache
  setup : Setup

structure Answer where
  written : Text
  result : Except Problem Unit
  setup : Setup

namespace Session

def start (w : Surroundings) : Session := ⟨w, .start, .initial⟩

def taker (s : Setup) (v : Severity) : String :=
  if s.handler.isSome then "BoundLogger." ++ v.name
  else "_make_filtering_bound_logger.<locals>.make_method.<locals>.meth"

def passer (s : Setup) : String :=
  if s.handler.isSome then "BoundLogger._proxy_to_logger" else "BoundLoggerBase._proxy_to_logger"

/-- Arguments of an entry may not have the names of the first ones, nor that of the level's name,
which an entry is passed on with. -/
def refuse (s : Setup) (e : Entry) : Except Misuse Unit := do
  Sink.refuse (taker s e.severity) ["self", "event"] e.fields
  Sink.refuse (passer s) ["method_name"] e.fields

def fails (s : Session) (p : Problem) : Session × Answer := (s, ⟨"", .error p, s.setup⟩)

def writes (s : Session) (text : Text) : Session × Answer := (s, ⟨shown text, .ok (), s.setup⟩)

def step (s : Session) : Step → Session × Answer
  | .setUp level format => match s.cache.get s.surroundings with
    | .error p => s.fails p
    | .ok (c, l) =>
      let (setup, result) := s.setup.setUp l.settings.log level format
      (⟨s.surroundings, c, setup⟩, ⟨"", result, setup⟩)
  | .entry logger e => match refuse s.setup e with
    | .ok () => s.writes (s.setup.emit logger e)
    | .error m => s.fails (.misuse m)
  | .foreign logger v message => s.writes (s.setup.emitForeign logger v message)
  | .report message error context =>
    match Sink.root.bind context, error with
    | .error m, _ => s.fails (.misuse m)
    | .ok _, .error m => s.fails (.misuse m)
    | .ok sink, .ok e => s.writes (s.setup.emit "amnotify.alertmanager" (sink.report message e))
  | .update data => match Endpoint.check data with
    | .error is => s.fails (.invalid is)
    | .ok e => s.writes (s.setup.emit "amnotify.alertmanager.config_cell" (Live.updated e))
  | .load path => match s.cache.load s.surroundings path with
    | .error p => s.fails p
    | .ok (c, _) => (⟨s.surroundings, c, s.setup⟩, ⟨"", .ok (), s.setup⟩)

def run (s : Session) : List Step → List Answer
  | [] => []
  | t :: r => (s.step t).2 :: (s.step t).1.run r

end Session
end AlertRelay.Log
