import AlertRelay.Text.Quoted

/-! The command line of the self-test. Options are long words, which may be cut short where
that is clear, and take one argument, after a sign or as the next word. A word that
looks like an option is never an argument, except a negative number or one with a blank. -/
namespace AlertRelay.SelfTest

/-! Items of the form name=value. The name ends at the first sign and is not empty; the value is all
the rest and may be empty. -/

def sign : Nat := 0x3d

def pair? (item : Text) : Option (Text × Text) :=
  let name := item.codes.takeWhile (· ≠ sign)
  match item.codes.dropWhile (· ≠ sign) with
  | [] => none
  | _ :: value => if name.isEmpty then none else some (⟨name⟩, ⟨value⟩)

def refusal (flag item : Text) : Text := flag ++ " expects name=value, got " ++ item.quote

def splitPairs (items : List Text) (flag : Text) : Except Text (List Text × List Text) :=
  match items with
  | [] => .ok ([], [])
  | i :: r => match pair? i with
    | none => .error (refusal flag i)
    | some (n, v) => (splitPairs r flag).map (fun p => (n :: p.1, v :: p.2))

inductive Flag
  | help
  | config
  | logLevel
  | room
  | label
  | remark
deriving DecidableEq

structure Arguments where
  config : Option Text
  logLevel : Option Text
  room : Option Text
  labels : List Text
  annotations : List Text
deriving DecidableEq

inductive Refusal
  | help
  | error (message : Text)
deriving DecidableEq

namespace Arguments

def nothing : Arguments := ⟨none, none, none, [], []⟩

def spellings : List (Text × Flag) :=
  [("-h", .help), ("--help", .help), ("--config", .config), ("--log-level", .logLevel),
    ("--room", .room), ("--label", .label), ("--annotation", .remark)]

def spelled (s : Text) : Option Flag := spellings.lookup s

def shownName (o : Flag) : Text :=
  Text.join "/" ((spellings.filter (fun p => p.2 == o)).map Prod.fst)

/-- What a word is taken for: an argument, the end of options, an unknown option, or an option by a
spelling, perhaps with an argument in the same word. -/
inductive Word
  | argument
  | dashes
  | unknown
  | option (o : Flag) (spelling : Text) (explicit : Option Text)

def cut (w : Text) : Text × Option Text :=
  match w.codes.dropWhile (· ≠ sign) with
  | [] => (w, none)
  | _ :: r => (⟨w.codes.takeWhile (· ≠ sign)⟩, some ⟨r⟩)

/-- The options that a word may be short for. A single dash takes one letter and what is joined
to it. -/
def candidates (w : Text) : List (Flag × Text × Option Text) :=
  if w.startsWith "--" then
    let (head, explicit) := cut w
    (spellings.filter (fun p => p.1.startsWith head)).map (fun p => (p.2, p.1, explicit))
  else
    let head := w.take 2
    spellings.filterMap (fun p =>
      if p.1 == head then some (p.2, p.1, some ⟨w.codes.drop 2⟩)
      else if p.1.startsWith w then some (p.2, p.1, none)
      else none)

def isNegativeNumber (w : Text) : Bool :=
  let isDigit (c : Nat) : Bool := (Text.digitValue? c).isSome
  let cs := if w.codes.getLast? = some 10 then w.codes.dropLast else w.codes
  match cs with
  | 0x2d :: r =>
    let ds := r.takeWhile isDigit
    match r.dropWhile isDigit with
    | [] => !ds.isEmpty
    | 0x2e :: t => !t.isEmpty && t.all isDigit
    | _ => false
  | _ => false

def classify (w : Text) : Except Refusal Word :=
  if w = "--" then .ok .dashes
  else if !w.startsWith "-" || w = "-" then .ok .argument
  else match spelled w with
    | some o => .ok (.option o w none)
    | none =>
      let whole := match cut w with
        | (head, some e) => (spelled head).map (fun o => Word.option o head (some e))
        | (_, none) => none
      match whole with
      | some k => .ok k
      | none => match candidates w with
        | [(o, s, e)] => .ok (.option o s e)
        | c :: d :: r =>
          .error (.error ("ambiguous option: " ++ w ++ " could match "
            ++ Text.join ", " ((c :: d :: r).map (fun p => p.2.1))))
        | [] =>
          if isNegativeNumber w || w.codes.contains 0x20 then .ok .argument else .ok .unknown

def classifyAll : List Text → Except Refusal (List (Text × Word))
  | [] => .ok []
  | w :: r => do
    match ← classify w with
    | .dashes => return (w, .dashes) :: r.map (fun w => (w, .argument))
    | k => return (w, k) :: (← classifyAll r)

def give (a : Arguments) (o : Flag) (v : Text) : Arguments :=
  match o with
  | .help => a
  | .config => { a with config := some v }
  | .logLevel => { a with logLevel := some v }
  | .room => { a with room := some v }
  | .label => { a with labels := a.labels ++ [v] }
  | .remark => { a with annotations := a.annotations ++ [v] }

def about (o : Flag) (what : Text) : Refusal := .error ("argument " ++ shownName o ++ ": " ++ what)

def ignored (o : Flag) (e : Text) : Refusal := about o ("ignored explicit argument " ++ e.quote)

/-- Help takes no argument. Its single letter may only be joined with itself. -/
def helpWith (spelling : Text) (explicit : List Nat) : Refusal :=
  match explicit with
  | 0x68 :: r =>
    if spelling.startsWith "--" then ignored .help ⟨explicit⟩
    else if r.isEmpty then .help
    else helpWith spelling r
  | cs => ignored .help ⟨cs⟩

def collect (a : Arguments) (left : List Text) :
    List (Text × Word) → Except Refusal (Arguments × List Text)
  | [] => .ok (a, left)
  | (_, .option .help s (some e)) :: _ => .error (helpWith s e.codes)
  | (_, .option .help _ none) :: _ => .error .help
  | (_, .option o _ (some e)) :: r => collect (a.give o e) left r
  | (_, .option o _ none) :: (v, .argument) :: r => collect (a.give o v) left r
  | (_, .option o _ none) :: _ => .error (about o "expected one argument")
  | (w, _) :: r => collect a (left ++ [w]) r

def parse (words : List Text) : Except Refusal Arguments := do
  let (a, left) ← collect nothing [] (← classifyAll words)
  if left.isEmpty then return a
  else throw (.error ("unrecognized arguments: " ++ Text.join " " left))

/-! What is shown -/

def program : String := "selftest.py"

def usage : String :=
  "usage: selftest.py [-h] [--config CONFIG] [--log-level LOG_LEVEL]\n" ++
  "                   [--room ROOM] [--label NAME=VALUE]\n" ++
  "                   [--annotation NAME=VALUE]\n"

def helpText : String :=
  usage ++
  "\nAlertmanager adapter self-test\n\noptions:\n" ++
  "  -h, --help            show this help message and exit\n" ++
  "  --config CONFIG       Path to settings YAML\n" ++
  "  --log-level LOG_LEVEL\n" ++
  "                        Override log level\n" ++
  "  --room ROOM           Override the default room\n" ++
  "  --label NAME=VALUE    Label to attach (repeatable; replaces configured test\n" ++
  "                        labels)\n" ++
  "  --annotation NAME=VALUE\n" ++
  "                        Annotation to attach (repeatable; replaces configured\n" ++
  "                        test annotations)\n"

def errorText (message : Text) : Text := usage ++ program ++ ": error: " ++ message ++ "\n"

end Arguments
end AlertRelay.SelfTest
