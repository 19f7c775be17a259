import HostRouting.CommandLine.LogFilter
import HostRouting.CommandLine.Options
import HostRouting.GlobalStore
import HostRouting.Record
import HostRouting.Server.Compile
import HostRouting.Server.Display

/-!
# Running the program

Reading a document, filling the global maps and compiling a server, up to the text that is printed.
Files are read outside; what a run needs is the content of one file or the fault in reading it.
-/

namespace HostRouting

namespace Invocation

def output (invocation : Invocation) (content : Except FileFault String) :
    Audited Unit String := do
  Audited.emit (.compiling invocation.config invocation.server)
  let root ← Record.ofFile invocation.config content
  let (_, globals) ← Audited.within (fun _ => {}) (fun _ state => state) (Globals.load root)
  let server ← Server.compile root invocation.server
  if invocation.json then return server.toJson.text ++ "\n"
  else return server.summary globals

end Invocation

structure Report where
  output : String
  failure : Option Failure
  events : List Event

namespace Report

def ofRun (invocation : Invocation) (content : Except FileFault String) : Report :=
  let outcome := (invocation.output content).run ()
  match outcome.result with
  | .ok output => { output, failure := none, events := outcome.events }
  | .error failure =>
      { output := "", failure := some failure,
        events := outcome.events ++ [.compilationFailed failure.message] }

def exitCode (report : Report) : UInt32 :=
  if report.failure.isSome then 1 else 0

def usageExitCode : UInt32 := 2

/-- The exit code for a log level that leaves no filter.  Nothing is run then. -/
def noFilterExitCode : UInt32 := 101

end Report

end HostRouting
