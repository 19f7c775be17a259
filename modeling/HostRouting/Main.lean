import HostRouting.CommandLine.Run

/-!
# The program

Reads the file, runs, and prints: the result on standard output, events and failures on standard
error.
-/

namespace HostRouting.Program

/-- The fault with a number of the system, which some calls report with a minus sign. -/
def faultOfNumber (number : UInt32) (description : String) : FileFault :=
  if number = 20 ∨ -number = 20 then .notADirectory
  else if number = 21 ∨ -number = 21 then .isADirectory
  else if number = 36 ∨ -number = 36 then .nameTooLong
  else .other description

def faultOf (error : IO.Error) : FileFault :=
  match error with
  | .noFileOrDirectory _ _ _ => .notFound
  | .permissionDenied _ _ _ => .permissionDenied
  | .inappropriateType _ number _ => faultOfNumber number (toString error)
  | .invalidArgument _ number _ => faultOfNumber number (toString error)
  | _ => .other (toString error)

def readText (path : String) : IO (Except FileFault String) := do
  if path.toList.contains '\x00' then return .error .nulInName
  try
    let content ← IO.FS.readBinFile path
    return (Utf8.text? content.toList).elim (.error .notText) .ok
  catch error =>
    return .error (faultOf error)

def fieldText : String × EventField → String
  | (name, .text content) => " " ++ name ++ "=" ++ content
  | (name, .number content) => " " ++ name ++ "=" ++ toString content

def levelText : Level → String
  | .error => "ERROR"
  | .warning => "WARN"
  | .info => "INFO"
  | .debug => "DEBUG"

def logLine (event : Event) : String :=
  levelText event.level ++ " " ++ event.message ++ String.join (event.fields.map fieldText)

end HostRouting.Program

open HostRouting in
def main (arguments : List String) : IO UInt32 := do
  match Invocation.ofArguments? arguments with
  | none =>
      IO.eprintln "Usage: host-routing [OPTIONS] --server NAME"
      return Report.usageExitCode
  | some invocation =>
      match LogFilter.ofLevel? invocation.logLevel with
      | none =>
          IO.eprintln "The log level is cut inside a character."
          return Report.noFilterExitCode
      | some filter =>
          let report := Report.ofRun invocation (← Program.readText invocation.config)
          for event in report.events do
            if filter.admits event then IO.eprintln (Program.logLine event)
          IO.print report.output
          if let some failure := report.failure then
            IO.eprintln ("Error: " ++ failure.message)
          return report.exitCode
