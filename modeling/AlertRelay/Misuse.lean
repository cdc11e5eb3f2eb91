import AlertRelay.Value

/-! Values of the wrong kind in the hands of an operation that does not check them first. -/
namespace AlertRelay

inductive Misuse
  | noSize (type : String)
  | notIterable (type : String)
  | notAPair (index size : Nat)
  | notASequence (index : Nat)
  | unhashable (type : String)
  | noAttribute (type : String) (name : Text)
  | noField (model : String) (name : Text)
  | noKey (key : Scalar)
  | notSubscriptable (type : String)
  | notWhole (type : String)
  | indexSize
  | outOfRange
  | repeatedArgument (operation : String) (name : Text)
  | missingArguments (operation : String) (names : List String)
  | tooManyArguments (operation : String) (least most given : Nat)
  | textKeys
  | unknownLevel (text : String)
  | levelTable
  | notATable (type : String)
  | wholeTable
  | notAClass (type : String)
  | noClassAttribute (name : Text)
  | readOnly (model : String) (name : Text)

namespace Misuse

inductive Category
  | type
  | value
  | attribute
  | key
  | index
deriving DecidableEq

def category : Misuse → Category
  | notAPair _ _ => .value
  | noAttribute _ _ => .attribute
  | noClassAttribute _ => .attribute
  | readOnly _ _ => .attribute
  | noField _ _ => .value
  | indexSize => .value
  | noKey _ => .key
  | outOfRange => .index
  | unknownLevel _ => .value
  | _ => .type

def listed (names : List String) : String :=
  let qs := names.map (fun n => "'" ++ n ++ "'")
  match qs.reverse with
  | [] => ""
  | [a] => a
  | [b, a] => a ++ " and " ++ b
  | last :: r => ", ".intercalate r.reverse ++ ", and " ++ last

def levelTableText : String :=
  "\x7b'%': (<class 'logging.PercentStyle'>, '%(levelname)s:%(name)s:%(message)s'), " ++
  "'\x7b': (<class 'logging.StrFormatStyle'>, '\x7blevelname\x7d:\x7bname\x7d:\x7bmessage\x7d'), " ++
  "'$': (<class 'logging.StringTemplateStyle'>, " ++
  "'$\x7blevelname\x7d:$\x7bname\x7d:$\x7bmessage\x7d')\x7d"

def message : Misuse → Text
  | noSize t => "object of type '" ++ t ++ "' has no len()"
  | notIterable t => "'" ++ t ++ "' object is not iterable"
  | notAPair i n =>
    "dictionary update sequence element #" ++ toString i ++ " has length " ++ toString n
      ++ "; 2 is required"
  | notASequence i =>
    "cannot convert dictionary update sequence element #" ++ toString i ++ " to a sequence"
  | unhashable t => "unhashable type: '" ++ t ++ "'"
  | noAttribute t n => "'" ++ t ++ "' object has no attribute '" ++ n ++ "'"
  | noField m n => "\"" ++ m ++ "\" object has no field \"" ++ n ++ "\""
  | noKey k => k.quoted
  | notSubscriptable t => "'" ++ t ++ "' object is not subscriptable"
  | notWhole t => "'" ++ t ++ "' object cannot be interpreted as an integer"
  | indexSize => "cannot fit 'int' into an index-sized integer"
  | outOfRange => "list index out of range"
  | repeatedArgument op n => op ++ "() got multiple values for argument '" ++ n ++ "'"
  | missingArguments op ns =>
    op ++ "() missing " ++ toString ns.length ++ " required positional argument"
      ++ (if ns.length = 1 then "" else "s") ++ ": " ++ listed ns
  | tooManyArguments op least most given =>
    op ++ "() takes " ++ (if least = most then "" else "from " ++ toString least ++ " to ")
      ++ toString most ++ " positional argument" ++ (if most = 1 then "" else "s") ++ " but "
      ++ toString given ++ (if given = 1 then " was" else " were") ++ " given"
  | textKeys => "keywords must be strings"
  | unknownLevel t => "Unknown level: " ++ Text.quote t
  | levelTable => "Level not an integer or a valid string: " ++ levelTableText
  | notATable t => "__dict__ must be set to a dictionary, not a '" ++ t ++ "'"
  | wholeTable => "the attributes of an object are not replaced all at once"
  | notAClass t => "__class__ must be set to a class, not '" ++ t ++ "' object"
  | noClassAttribute n => n
  | readOnly m n => "attribute '" ++ n ++ "' of '" ++ m ++ "' objects is not writable"

end Misuse

/-- What every object has by itself: the table of its attributes, its class, and the references to it
that do not keep it. -/
inductive Innate
  | table
  | kind
  | references
deriving DecidableEq

namespace Innate

def name : Innate → Text
  | table => "__dict__"
  | kind => "__class__"
  | references => "__weakref__"

def all : List Innate := [table, kind, references]

def ofName? (name : Text) : Option Innate := all.find? (fun i => i.name == name)

/-- Why a value is not taken in this place. Only a map could be, which would put other attributes in
place of all at once, and that is refused here as well. -/
def refuseSet (model : String) (v : Value) : Innate → Misuse
  | table => match v with
    | .map _ => .wholeTable
    | v => .notATable v.typeName
  | kind => .notAClass v.typeName
  | references => .readOnly model references.name

def refuseAppend : Innate → Misuse
  | table => .noAttribute "dict" "append"
  | kind => .noClassAttribute "append"
  | references => .noAttribute "NoneType" "append"

theorem name_of_ofName? (i : Innate) (name : Text) (found : ofName? name = some i) : i.name = name := by
  have same := List.find?_some found
  exact eq_of_beq same

end Innate
end AlertRelay
