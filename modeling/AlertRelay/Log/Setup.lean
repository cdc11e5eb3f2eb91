import AlertRelay.Cache
import AlertRelay.Log.Entry

/-! Where log entries go. Before the first setup the relay's entries are not shown and the
host's are, from warnings on. A setup puts one handler in place of all others and sets
the levels; loggers of the libraries below never show less than the usual level. -/
namespace AlertRelay.Log

/-! The level that a name stands for, in any case of letters. Names that stand for no level mean the
usual one; two stand for other things of the host's log, which cannot be set. -/

/-- Letters outside ASCII whose upper case is made of ASCII letters. -/
def asciiUpper : List (Char × String) :=
  [('ı', "I"), ('ſ', "S"), ('ß', "SS"), ('ﬀ', "FF"), ('ﬁ', "FI"), ('ﬂ', "FL"), ('ﬃ', "FFI"),
    ('ﬄ', "FFL"), ('ﬅ', "ST"), ('ﬆ', "ST")]

def upperPoint (c : Nat) : List Nat :=
  match asciiUpper.find? (fun p => p.1.toNat == c) with
  | some p => (Text.ofString p.2).codes
  | none => if 97 ≤ c && c ≤ 122 then [c - 32] else [c]

def upper (t : Text) : Text := ⟨t.codes.flatMap upperPoint⟩

def levels : Fields Int :=
  [("CRITICAL", 50), ("FATAL", 50), ("ERROR", 40), ("WARNING", 30), ("WARN", 30), ("INFO", 20),
    ("DEBUG", 10), ("NOTSET", 0)]

def usual : Int := 20

def basicFormat : String := "%(levelname)s:%(name)s:%(message)s"

def threshold (name : Text) : Except Misuse Int :=
  let name := upper name
  match Fields.get? name levels with
  | some n => .ok n
  | none =>
    if name = "BASIC_FORMAT" then .error (.unknownLevel basicFormat)
    else if name = "_STYLES" then .error .levelTable
    else .ok usual

structure Setup where
  handler : Option Format
  root : Int
  http : Int
  loop : Int
  isService : Bool
deriving DecidableEq

namespace Setup

def initial : Setup := ⟨none, 30, 0, 0, false⟩

def handlers (s : Setup) : Nat := if s.handler.isSome then 1 else 0

def given (v : Value) (default : Text) : Value := if v.isTruthy then v else .text default

/-- Sets the log up. The handler is in place before the level is set, so a name that cannot be set
leaves the new handler and the old levels. -/
def setUp (s : Setup) (c : LogSettings) (level format : Value) : Setup × Except Problem Unit :=
  match given level c.level with
  | .scalar (.text name) =>
    let f := match given format c.format with
      | .scalar (.text f) => Format.ofName f
      | _ => .json
    match threshold name with
    | .ok n => (⟨some f, n, max n usual, max n usual, true⟩, .ok ())
    | .error m => (⟨some f, s.root, s.http, s.loop, s.isService⟩, .error (.misuse m))
  | v => (s, .error (.misuse (.noAttribute v.typeName "upper")))

def isBelow (logger name : Text) : Bool := logger == name || logger.startsWith (name ++ ".")

/-- The level that counts for a logger: its own or that of the nearest one above that has one. -/
def effective (s : Setup) (logger : Text) : Int :=
  if isBelow logger "aiohttp" && s.http != 0 then s.http
  else if isBelow logger "asyncio" && s.loop != 0 then s.loop
  else s.root

def isEnabled (s : Setup) (logger : Text) (v : Severity) : Bool := s.effective logger ≤ v.number

def emit (s : Setup) (logger : Text) (e : Entry) : Text :=
  match s.handler with
  | none => ""
  | some f => if s.isEnabled logger e.severity then line f s.isService e else ""

def emitForeign (s : Setup) (logger : Text) (v : Severity) (message : Text) : Text :=
  if s.isEnabled logger v then match s.handler with
    | some f => foreignLine f message
    | none => if 30 ≤ v.number then message ++ "\n" else ""
  else ""

end Setup

/-! Written text as it is shown: without colours, and with the mark for a time in place of every time in
universal notation. Colours are left out first. -/

def afterColour? : List Nat → Option (List Nat)
  | 0x1b :: 0x5b :: r =>
    match r.dropWhile (fun c => (0x30 ≤ c && c ≤ 0x39) || c = 0x3b) with
    | 0x6d :: t => some t
    | _ => none
  | _ => none

def isDigit (c : Nat) : Bool := (Text.digitValue? c).isSome

def afterPattern? : List Nat → List Nat → Option (List Nat)
  | [], cs => some cs
  | p :: ps, c :: r => if (if p = 0x30 then isDigit c else p = c) then afterPattern? ps r else none
  | _ :: _, [] => none

def timePattern : List Nat := (Text.ofString "0000-00-00T00:00:00").codes

def afterTime? (cs : List Nat) : Option (List Nat) := do
  match ← afterPattern? timePattern cs with
  | 0x5a :: r => some r
  | 0x2e :: r =>
    match r.takeWhile isDigit, r.dropWhile isDigit with
    | _ :: _, 0x5a :: t => some t
    | _, _ => none
  | _ => none

/-- Puts a text in place of every part that `after?` finds, from the left on. The first argument
bounds the length. -/
def replaceAll (after? : List Nat → Option (List Nat)) (shown : List Nat) : Nat → List Nat → List Nat
  | 0, cs => cs
  | _, [] => []
  | n + 1, c :: r =>
    match after? (c :: r) with
    | some t => shown ++ replaceAll after? shown n t
    | none => c :: replaceAll after? shown n r

def shown (t : Text) : Text :=
  let plain := replaceAll afterColour? [] t.length t.codes
  ⟨replaceAll afterTime? timeMark.codes t.length plain⟩

end AlertRelay.Log
