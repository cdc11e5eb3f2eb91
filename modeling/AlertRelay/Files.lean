import AlertRelay.Files.Path
import AlertRelay.Ordered

/-! The files that settings are read from: octets and directories by their names under one
directory. What lies outside of it is taken to be empty. A path is walked step by step,
so a step after a file leads nowhere, and a name that is too long is refused on the way. -/
namespace AlertRelay

inductive Obstacle
  | absent
  | exists
  | notADirectory
  | isADirectory
  | nameTooLong
  | tooDeep
  | name (r : Name.Refusal)
deriving DecidableEq

structure FileFault where
  obstacle : Obstacle
  path : Text
deriving DecidableEq

def FileFault.message (f : FileFault) : String :=
  match f.obstacle with
  | .absent => "[Errno 2] No such file or directory: " ++ f.path.quote
  | .exists => "[Errno 17] File exists: " ++ f.path.quote
  | .notADirectory => "[Errno 20] Not a directory: " ++ f.path.quote
  | .isADirectory => "[Errno 21] Is a directory: " ++ f.path.quote
  | .nameTooLong => "[Errno 36] File name too long: " ++ f.path.quote
  | .tooDeep => "maximum recursion depth exceeded"
  | .name r => r.message

inductive Found
  | directory
  | file (octets : List UInt8)
deriving DecidableEq

/-- Octets of files, and directories, by the names that lead to them. -/
structure Files where
  files : List (List Text × List UInt8)
  directories : List (List Text)

namespace Files

def empty : Files := ⟨[], []⟩

def at? (f : Files) (names : List Text) : Option Found :=
  match Ordered.get? names f.files with
  | some bs => some (.file bs)
  | none => if names.isEmpty || f.directories.contains names then some .directory else none

def above (names : List Text) : List (List Text) :=
  (List.range names.length).map (fun n => names.take n)

def withDirectory (f : Files) (names : List Text) : Files :=
  ⟨f.files, f.directories ++ (names :: above names).filter (fun d => !f.directories.contains d)⟩

def withFile (f : Files) (names : List Text) (octets : List UInt8) : Files :=
  let f := f.withDirectory names.dropLast
  ⟨Ordered.put names octets f.files, f.directories⟩

def without (f : Files) (names : List Text) : Files := ⟨Ordered.erase names f.files, f.directories⟩

def plainNames (p : Path) : List Text :=
  p.names.foldl (fun acc n => if n = Path.dots then acc.dropLast else acc ++ [n]) []

/-- A place on the way: inside under some names, or outside. -/
inductive Place
  | inside (names : List Text)
  | outside
deriving DecidableEq

def isTooLong (name : Text) : Bool := Name.size name > 255

def entry (f : Files) (p : Place) (name : Text) : Except Obstacle (Option Found) :=
  if isTooLong name then .error .nameTooLong
  else match p with
    | .outside => .ok none
    | .inside names => .ok (f.at? (names ++ [name]))

def isDirectory (f : Files) : Place → Bool
  | .inside names => f.at? names == some .directory
  | .outside => true

def walkOne (f : Files) (p : Place) (step : Text) : Except Obstacle Place :=
  if !f.isDirectory p then .error .notADirectory
  else if step = Path.dot then .ok p
  else if step = Path.dots then match p with
    | .outside => .ok .outside
    | .inside names => .ok (if names.isEmpty then .outside else .inside names.dropLast)
  else match p, f.entry p step with
    | _, .error o => .error o
    | .inside names, .ok (some _) => .ok (.inside (names ++ [step]))
    | _, .ok _ => .error .absent

def walk (f : Files) (path : Text) (steps : List Text) : Except Obstacle Place :=
  steps.foldlM f.walkOne (if Path.isRooted path then .outside else .inside [])

def checkPath (path : Text) : Except Obstacle Unit := do
  (Name.check path).mapError .name
  if Name.size path ≥ 4096 then throw .nameTooLong
  if path.isEmpty then throw .absent

/-- What a path leads to. One that ends in a slash must lead to a directory. -/
def find (f : Files) (path : Text) : Except Obstacle Found := do
  checkPath path
  let p ← f.walk path (Path.steps path)
  if Path.isOpenEnded path && !f.isDirectory p then throw .notADirectory
  match p with
  | .outside => return .directory
  | .inside names => match f.at? names with
    | some x => return x
    | none => throw .absent

def read (f : Files) (p : Path) : Except FileFault (Option (List UInt8)) :=
  match f.find p.text with
  | .ok (.file octets) => .ok (some octets)
  | .ok .directory => .error ⟨.isADirectory, p.text⟩
  | .error .nameTooLong => .error ⟨.nameTooLong, p.text⟩
  | .error _ => .ok none

/-- The directory that the last step of a path is taken in, and that step. There is none where the
path has no step or a dotted one at its end. -/
def lastStep (f : Files) (path : Text) : Except Obstacle (Place × Option Text) := do
  checkPath path
  let steps := Path.steps path
  let p ← f.walk path steps.dropLast
  if !f.isDirectory p then throw .notADirectory
  return (p, steps.getLast?.filter (fun s => s ≠ Path.dot && s ≠ Path.dots))

def Place.below : Place → Text → Option (List Text)
  | .inside names, name => some (names ++ [name])
  | .outside, _ => none

def remove (f : Files) (path : Text) : Except Obstacle Files := do
  let (p, last) ← f.lastStep path
  match last with
  | none => throw .isADirectory
  | some name => match ← f.entry p name with
    | none => throw .absent
    | some .directory => throw .isADirectory
    | some (.file _) =>
      if Path.isOpenEnded path then throw .notADirectory
      return ((p.below name).map f.without).getD f

def makeDirectory (f : Files) (path : Text) : Except Obstacle Files := do
  let (p, last) ← f.lastStep path
  match last with
  | none => throw .exists
  | some name => match ← f.entry p name with
    | some _ => throw .exists
    | none => return ((p.below name).map f.withDirectory).getD f

def leads (f : Files) (path : Text) : Bool := (f.find path).isOk

def leadsToDirectory (f : Files) (path : Text) : Bool :=
  match f.find path with
  | .ok .directory => true
  | _ => false

def cutLast (path : Text) : Text × Text :=
  let (head, tail) := Path.split path
  if tail.isEmpty then Path.split head else (head, tail)

/-- How many directories can be missing above one that is to be made. -/
def depthLimit : Nat := 985

/-- Makes the directories that lead to a path and the one it names, as far as they do not exist, when
they are not too many. What was made before something is refused stays. -/
def makeDirectories : Nat → Files → Text → Files × Except FileFault Unit
  | 0, f, path => (f, .error ⟨.tooDeep, path⟩)
  | fuel + 1, f, path =>
    let (head, tail) := cutLast path
    let isMissing := !head.isEmpty && !tail.isEmpty && !f.leads head
    let (f, above) := if isMissing then makeDirectories fuel f head else (f, .ok ())
    let refused : Option FileFault := match above with
      | .error e => if e.obstacle = .exists then none else some e
      | .ok () => none
    match refused with
    | some e => (f, .error e)
    | none =>
      if isMissing && tail = Path.dot then (f, .ok ())
      else match f.makeDirectory path with
        | .ok f => (f, .ok ())
        | .error (.name r) => (f, .error ⟨.name r, path⟩)
        | .error o => (f, if f.leadsToDirectory path then .ok () else .error ⟨o, path⟩)

def writeFile (f : Files) (path : Text) (octets : List UInt8) : Except Obstacle Files := do
  let (p, last) ← f.lastStep path
  match last with
  | none => throw .isADirectory
  | some name =>
    if Path.isOpenEnded path then throw .isADirectory
    match ← f.entry p name with
    | some .directory => throw .isADirectory
    | _ => return ((p.below name).map (fun names => f.withFile names octets)).getD f

def write (f : Files) (path : Text) (octets : List UInt8) : Files × Except FileFault Unit :=
  let directory := (Path.split path).1
  let (f, made) := if directory.isEmpty then (f, .ok ())
    else makeDirectories depthLimit f directory
  match made with
  | .error e => (f, .error e)
  | .ok () => match f.writeFile path octets with
    | .ok f => (f, .ok ())
    | .error o => (f, .error ⟨o, path⟩)

end Files
end AlertRelay
