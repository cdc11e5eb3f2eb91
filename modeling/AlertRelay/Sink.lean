import AlertRelay.Log.Entry
import AlertRelay.Problem

/-! Where failures that are not passed on are reported. A sink carries a context, and one
bound from it carries more; a report is one entry with the context, the error's text
and its name. -/
namespace AlertRelay

structure Sink where
  context : Fields Value

namespace Sink

def root : Sink := ⟨[]⟩

/-- The arguments that an operation takes by name may not name the ones it has already. -/
def refuse (operation : String) (taken : List Text) (context : Fields Value) : Except Misuse Unit :=
  match context.find? (fun p => taken.contains p.1) with
  | some p => .error (.repeatedArgument operation p.1)
  | none => .ok ()

/-- A sink with more context; later values replace earlier ones of the same name. -/
def bind (s : Sink) (context : Fields Value) : Except Misuse Sink := do
  refuse "StructlogDiagnostic.with_context" ["self"] context
  return ⟨Ordered.update s.context context⟩

def report (s : Sink) (message : Text) (e : Raised) : Log.Entry :=
  ⟨.error, message,
    Ordered.update s.context [("error", .text e.text), ("error_type", .text e.name)]⟩

end Sink

inductive SinkStep
  | bind (sink : Nat) (context : Fields Value)
  | report (sink : Nat) (message : Text) (error : Except Misuse Raised)

structure SinkTree where
  sinks : List Sink
  entries : List Log.Entry

namespace SinkTree

def start (initial : Fields Value) : SinkTree := ⟨[⟨initial⟩], []⟩

def step (t : SinkTree) : SinkStep → Except Misuse SinkTree
  | .bind i context => match t.sinks[i]? with
    | none => .error .outOfRange
    | some s => (s.bind context).map (fun n => ⟨t.sinks ++ [n], t.entries⟩)
  | .report i message error => match t.sinks[i]? with
    | none => .error .outOfRange
    | some s => error.map (fun e => ⟨t.sinks, t.entries ++ [s.report message e]⟩)

def run (t : SinkTree) (steps : List SinkStep) : Except Misuse SinkTree := steps.foldlM step t

end SinkTree
end AlertRelay
