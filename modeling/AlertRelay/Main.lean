import AlertRelay.SelfTest

/-! The self-test as a command. It reads the one settings file below the working directory that its
arguments and the environment name; the exchange itself is played by an endpoint that accepts
every alert. -/
namespace AlertRelay

/-- The files that a path leads to: itself, or nothing. -/
def filesAt (p : Path) : IO Files := do
  try
    let octets ← IO.FS.readBinFile p.text.toString
    return Files.empty.withFile (Files.plainNames p) octets.toList
  catch
    | .inappropriateType .. => return Files.empty.withDirectory (Files.plainNames p)
    | _ => return .empty

/-- The path that the command line asks for, if it is understood. -/
def askedPath (words : List Text) : Option Text :=
  match SelfTest.Arguments.parse words with
  | .ok a => a.config
  | .error _ => none

end AlertRelay

open AlertRelay in
def main (words : List String) : IO UInt32 := do
  let words := words.map Text.ofString
  let configured := (← IO.getEnv "AMNOTIFY_CONFIG").map Text.ofString
  let files ← filesAt (settingsPath (askedPath words) configured)
  let r := SelfTest.run words ⟨files, configured⟩ []
  IO.print r.shown
  IO.eprint r.written.toString
  match r.ending with
  | .status n => return n.toUInt32
  | .refused text => IO.eprintln text.toString; return 1
  | .problem p => IO.eprintln p.message.toString; return 1
