import AlertRelay.Cache

/-! A run of steps on the cache, while files and the environment change. -/
namespace AlertRelay.Cache

inductive Step
  | load (path : Option Text)
  | get
  | reload (path : Option Text)
  | path (explicit : Option Text)
  | forget
  | write (path : Text) (octets : List UInt8)
  | remove (path : Text)
  | setVariable (value : Option Text)

inductive Reply
  | settings (s : Settings) (isSame : Bool)
  | batch (es : List Endpoint)
  | path (text : Text)
  | done

structure Session where
  surroundings : Surroundings
  cache : Cache
  last : Option Nat

namespace Session

def start (w : Surroundings) : Session := ⟨w, .start, none⟩

def shown (s : Session) (r : Cache × Loaded) : Session × Reply :=
  (⟨s.surroundings, r.1, some r.2.serial⟩, .settings r.2.settings (s.last == some r.2.serial))

def endpoints : Batch → List Endpoint
  | .members cs => cs.filterMap (fun
    | .endpoint i => some i.endpoint
    | .other _ => none)
  | .raw _ => []

def setFiles (s : Session) (f : Files) : Session := ⟨⟨f, s.surroundings.configured⟩, s.cache, s.last⟩

def setConfigured (s : Session) (value : Option Text) : Session :=
  ⟨⟨s.surroundings.files, value⟩, s.cache, s.last⟩

def perform (s : Session) : Except Problem (Session × Reply) → Session × Except Problem Reply
  | .ok (s₁, reply) => (s₁, .ok reply)
  | .error p => (s, .error p)

/-- A new value of the variable, which takes the place of none: one that is refused leaves it unset. -/
def setVariable (s : Session) (value : Option Text) : Session × Except Problem Reply :=
  let unset := s.setConfigured none
  match value with
  | none => (unset, .ok .done)
  | some t => match Name.check t with
    | .ok () => (s.setConfigured (some t), .ok .done)
    | .error r => (unset, .error (.file ⟨.name r, t⟩))

def step (s : Session) : Step → Session × Except Problem Reply
  | .load path => s.perform ((s.cache.load s.surroundings path).map s.shown)
  | .get => s.perform ((s.cache.get s.surroundings).map s.shown)
  | .reload path =>
    s.perform ((s.cache.reload s.surroundings path).map (fun r =>
      (⟨s.surroundings, r.1, s.last⟩, .batch (endpoints r.2))))
  | .path explicit => (s, .ok (.path (settingsPath explicit s.surroundings.configured).text))
  | .forget => (⟨s.surroundings, s.cache.forget, s.last⟩, .ok .done)
  | .write path octets =>
    let (files, made) := s.surroundings.files.write path octets
    (s.setFiles files, (made.map (fun () => .done)).mapError .file)
  | .remove path => match s.surroundings.files.remove path with
    | .ok files => (s.setFiles files, .ok .done)
    | .error o => (s, .error (.file ⟨o, path⟩))
  | .setVariable value => s.setVariable value

def run (s : Session) : List Step → List (Except Problem Reply)
  | [] => []
  | t :: r => (s.step t).2 :: (s.step t).1.run r

end Session
end AlertRelay.Cache
