import AlertRelay.Text.Quoted
import AlertRelay.Text.Utf8

/-! Why a settings text cannot be read. Faults of form have no text; a scalar whose content
does not fit its tag tells what was wrong with it. Octets that are no text stop the
reading where they are met, and so does too deep a nesting. -/
namespace AlertRelay.Yaml

inductive Misfit
  | whole (base : Nat) (text : List Nat)
  | wholeSize (digits : Nat)
  | number (text : List Nat)
  | numberSize
  | truth (text : List Nat)
  | empty
  | year (n : Nat)
  | month
  | day
  | hour
  | minute
  | second
  | offset (days seconds : Int)
  | timestamp
  | timestampNode
  | codePoint
  | codePointSize
deriving DecidableEq

inductive Error
  | octets (fault : Utf8.Fault)
  | unreadable
  | token
  | form
  | reference
  | content
  | tooDeep
  | misfit (m : Misfit)
deriving DecidableEq

namespace Misfit

def duration (days seconds : Int) : String :=
  let parts := (if days = 0 then [] else ["days=" ++ toString days])
    ++ (if seconds = 0 then [] else ["seconds=" ++ toString seconds])
  "datetime.timedelta(" ++ (if parts.isEmpty then "0" else ", ".intercalate parts) ++ ")"

def message : Misfit → String
  | whole base text =>
    "invalid literal for int() with base " ++ toString base ++ ": "
      ++ String.ofList ((Text.quote ⟨text⟩).toList.take 200)
  | wholeSize n =>
    "Exceeds the limit (4300 digits) for integer string conversion: value has " ++ toString n
      ++ " digits; use sys.set_int_max_str_digits() to increase the limit"
  | number text => "could not convert string to float: " ++ Text.quote ⟨text⟩
  | numberSize => "int too large to convert to float"
  | truth text => Text.quote ⟨text⟩
  | empty => "string index out of range"
  | year n => "year " ++ toString n ++ " is out of range"
  | month => "month must be in 1..12"
  | day => "day is out of range for month"
  | hour => "hour must be in 0..23"
  | minute => "minute must be in 0..59"
  | second => "second must be in 0..59"
  | offset days seconds =>
    "offset must be a timedelta strictly between -timedelta(hours=24) and timedelta(hours=24), not "
      ++ duration days seconds ++ "."
  | timestamp => "'NoneType' object has no attribute 'groupdict'"
  | timestampNode => "expected string or bytes-like object, got 'list'"
  | codePoint => "chr() arg not in range(0x110000)"
  | codePointSize => "Python int too large to convert to C int"

end Misfit

def depthMessage : String := "maximum recursion depth exceeded"

def octetsMessage (f : Utf8.Fault) : String :=
  let octet := "0x" ++ String.ofList (Text.hexDigits 2 f.octet.toNat)
  let what := match f.cause with
    | .badStart => "invalid start byte"
    | .badContinuation => "invalid continuation byte"
    | .truncated => "unexpected end of data"
  if f.size = 1 then
    "'utf-8' codec can't decode byte " ++ octet ++ " in position " ++ toString f.start ++ ": " ++ what
  else
    "'utf-8' codec can't decode bytes in position " ++ toString f.start ++ "-"
      ++ toString (f.start + f.size - 1) ++ ": " ++ what

end AlertRelay.Yaml
