import AlertRelay.Misuse

/-! Failures of an exchange: those of the HTTP client, timeouts, and others that the
delivery of an alert does not expect. Each carries the arguments it was raised with,
and its text is read off them. -/
namespace AlertRelay

/-- The kinds a failure can be raised as, and those that an operating system error number picks. -/
inductive FailureKind
  | client
  | clientConnection
  | clientSystem
  | clientPayload
  | invalidUrl
  | serverConnection
  | serverDisconnected
  | serverTimeout
  | clientConnectionReset
  | nonHttpUrl
  | connectionTimeout
  | socketTimeout
  | timeout
  | system
  | connectionReset
  | connectionRefused
  | connectionAborted
  | brokenPipe
  | blocking
  | childProcess
  | fileExists
  | fileNotFound
  | interrupted
  | isADirectory
  | notADirectory
  | permission
  | processLookup
  | value
  | runtime
  | key
  | cancelled
deriving DecidableEq

namespace FailureKind

def name : FailureKind → String
  | client => "ClientError"
  | clientConnection => "ClientConnectionError"
  | clientSystem => "ClientOSError"
  | clientPayload => "ClientPayloadError"
  | invalidUrl => "InvalidURL"
  | serverConnection => "ServerConnectionError"
  | serverDisconnected => "ServerDisconnectedError"
  | serverTimeout => "ServerTimeoutError"
  | clientConnectionReset => "ClientConnectionResetError"
  | nonHttpUrl => "NonHttpUrlClientError"
  | connectionTimeout => "ConnectionTimeoutError"
  | socketTimeout => "SocketTimeoutError"
  | timeout => "TimeoutError"
  | system => "OSError"
  | connectionReset => "ConnectionResetError"
  | connectionRefused => "ConnectionRefusedError"
  | connectionAborted => "ConnectionAbortedError"
  | brokenPipe => "BrokenPipeError"
  | blocking => "BlockingIOError"
  | childProcess => "ChildProcessError"
  | fileExists => "FileExistsError"
  | fileNotFound => "FileNotFoundError"
  | interrupted => "InterruptedError"
  | isADirectory => "IsADirectoryError"
  | notADirectory => "NotADirectoryError"
  | permission => "PermissionError"
  | processLookup => "ProcessLookupError"
  | value => "ValueError"
  | runtime => "RuntimeError"
  | key => "KeyError"
  | cancelled => "CancelledError"

def raisable : List FailureKind :=
  [client, clientConnection, clientSystem, clientPayload, invalidUrl, serverConnection,
    serverDisconnected, serverTimeout, clientConnectionReset, nonHttpUrl, connectionTimeout,
    socketTimeout, timeout, system, connectionReset, connectionRefused, value, runtime, key,
    cancelled]

def ofName? (s : String) : Option FailureKind := raisable.find? (fun k => k.name == s)

def isTransport : FailureKind → Bool
  | client | clientConnection | clientSystem | clientPayload | invalidUrl | serverConnection
  | serverDisconnected | serverTimeout | clientConnectionReset | nonHttpUrl | connectionTimeout
  | socketTimeout | timeout => true
  | _ => false

def isNumbered : FailureKind → Bool
  | clientSystem | serverTimeout | clientConnectionReset | connectionTimeout | socketTimeout
  | timeout | system | connectionReset | connectionRefused | connectionAborted | brokenPipe
  | blocking | childProcess | fileExists | fileNotFound | interrupted | isADirectory
  | notADirectory | permission | processLookup => true
  | _ => false

def ofErrorNumber? (n : Int) : Option FailureKind :=
  if n = 1 || n = 13 then some permission
  else if n = 2 then some fileNotFound
  else if n = 3 then some processLookup
  else if n = 4 then some interrupted
  else if n = 10 then some childProcess
  else if n = 11 || n = 114 || n = 115 then some blocking
  else if n = 17 then some fileExists
  else if n = 20 then some notADirectory
  else if n = 21 then some isADirectory
  else if n = 32 || n = 108 then some brokenPipe
  else if n = 103 then some connectionAborted
  else if n = 104 then some connectionReset
  else if n = 110 then some timeout
  else if n = 111 then some connectionRefused
  else none

/-- A general system error with a whole number and a text becomes the kind of its number. -/
def refine : FailureKind → List Value → FailureKind
  | system, .scalar n :: _ :: r =>
    if r.length > 3 then system
    else
      let number : Option Int := match n with
        | .int n => some n
        | .bool b => some b.toNat
        | _ => none
      (number.bind ofErrorNumber?).getD system
  | k, _ => k

end FailureKind

structure Failure where
  kind : FailureKind
  args : List Value

def argsText : List Value → Text
  | [] => ""
  | [v] => v.written
  | vs => (Value.tuple vs).quoted

namespace Failure

def name (f : Failure) : String := f.kind.name

/-- The number of characters that were written before something blocked is a whole one that fits 64
bits. What is no number is taken for a file name. -/
def checkCount : Scalar → Except Misuse Unit
  | .float _ => .error (.notWhole "float")
  | .int n => if n.natAbs < Binary64.pow2 63 || n = -(Binary64.pow2 63) then .ok () else .error .indexSize
  | _ => .ok ()

def raise (kind : FailureKind) (args : List Value) : Except Misuse Failure :=
  match kind, args with
  | .invalidUrl, [] => .error (.missingArguments "InvalidURL.__init__" ["url"])
  | .invalidUrl, _ :: _ :: _ :: r =>
    .error (.tooManyArguments "InvalidURL.__init__" 2 3 (r.length + 4))
  | .serverDisconnected, [] | .serverDisconnected, [.scalar .null] =>
    .ok ⟨.serverDisconnected, [.text "Server disconnected"]⟩
  | .serverDisconnected, _ :: _ :: r =>
    .error (.tooManyArguments "ServerDisconnectedError.__init__" 1 2 (r.length + 3))
  | k, args => match k.refine args, args with
    | .blocking, _ :: _ :: [.scalar n] | .blocking, _ :: _ :: [.scalar n, _]
    | .blocking, _ :: _ :: [.scalar n, _, _] => do
      checkCount n
      return ⟨.blocking, args⟩
    | k, args => .ok ⟨k, args⟩

def isNull : Value → Bool
  | .scalar .null => true
  | _ => false

def isNumber : Value → Bool
  | .scalar (.int _) | .scalar (.bool _) | .scalar (.float _) => true
  | _ => false

def numberedText (kind : FailureKind) (number text : Value) (more : List Value) : Text :=
  let head : Text := "[Errno " ++ number.written ++ "] " ++ text.written
  match more with
  | file :: r =>
    if isNull file || (kind == .blocking && isNumber file) then head
    else match r with
      | [_, other] =>
        if isNull other then head ++ ": " ++ file.quoted
        else head ++ ": " ++ file.quoted ++ " -> " ++ other.quoted
      | _ => head ++ ": " ++ file.quoted
  | [] => head

def text (f : Failure) : Text :=
  match f.kind, f.args with
  | .key, [v] => v.quoted
  | .invalidUrl, [url, about] =>
    if about.isTruthy then url.written ++ " - " ++ about.written else url.written
  | k, number :: text :: more =>
    if k.isNumbered && more.length ≤ 3 then numberedText k number text more else argsText f.args
  | _, args => argsText args

end Failure
end AlertRelay
