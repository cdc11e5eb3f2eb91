import AlertRelay.Live
import AlertRelay.Problem
import AlertRelay.Settings
import AlertRelay.Yaml.Document

/-! Loading settings, and keeping what was loaded. A path is given, or named by a variable of
the environment, or the usual one. What was loaded last is kept until it is forgotten;
a load that fails changes nothing. -/
namespace AlertRelay

structure Surroundings where
  files : Files
  configured : Option Text

def usualPath : Text := "config/settings.yaml"

/-- The path that settings are read from. Empty texts count as not given. -/
def settingsPath (explicit configured : Option Text) : Path :=
  let given (o : Option Text) := o.filter (fun s => !s.isEmpty)
  .ofText (((given explicit).orElse (fun _ => given configured)).getD usualPath)

namespace Settings

/-- The data of a settings file; anything but a map means nothing is set. -/
def dataOf (octets : List UInt8) : Except Problem Raw :=
  match Yaml.load (.ofOctets octets) with
  | .ok (some (.map es)) => .ok es
  | .ok _ => .ok []
  | .error e => .error (.yaml e)

def isText : Scalar → Bool
  | .text _ => true
  | _ => false

def ofData (d : Raw) : Except Problem Settings :=
  if d.all (fun e => isText e.1) then Problem.ofChecked (Settings.check d)
  else .error (.misuse .textKeys)

def read (files : Files) (p : Path) : Except Problem Settings := do
  match files.read p with
  | .error f => throw (.file f)
  | .ok none => ofData []
  | .ok (some octets) => ofData (← dataOf octets)

end Settings

structure Loaded where
  serial : Nat
  settings : Settings

structure Cache where
  loaded : Option Loaded
  next : Nat

namespace Cache

def start : Cache := ⟨none, 0⟩

def load (c : Cache) (w : Surroundings) (path : Option Text) : Except Problem (Cache × Loaded) := do
  let s ← Settings.read w.files (settingsPath path w.configured)
  let l : Loaded := ⟨c.next, s⟩
  return (⟨some l, c.next + 1⟩, l)

def get (c : Cache) (w : Surroundings) : Except Problem (Cache × Loaded) :=
  match c.loaded with
  | some l => .ok (c, l)
  | none => c.load w none

def reload (c : Cache) (w : Surroundings) (path : Option Text) : Except Problem (Cache × Batch) := do
  let (c, l) ← c.load w path
  return (c, .members [.endpoint ⟨l.serial, l.settings.endpoint⟩])

def forget (c : Cache) : Cache := ⟨none, c.next⟩

end Cache
end AlertRelay
