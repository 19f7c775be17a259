/-!
# Command-line options

Three options have a value: the file, the server and the log level.  A value follows its option as
the next argument or in the same argument, behind an equals sign or, for the options of one letter,
directly.  Every option may be given once.
-/

namespace HostRouting

inductive ValueOption where
  | config
  | server
  | logLevel
  deriving DecidableEq

structure Invocation where
  config : String
  server : String
  json : Bool
  logLevel : String
  deriving DecidableEq

structure GivenOptions where
  config : Option String := none
  server : Option String := none
  logLevel : Option String := none
  json : Bool := false

inductive Argument where
  | json
  | value (option : ValueOption) (content : String)
  | awaiting (option : ValueOption)
  | endOfOptions
  | unknown

namespace Argument

def longOption? (name : List Char) : Option ValueOption :=
  if name = "config".toList then some .config
  else if name = "server".toList then some .server
  else if name = "log-level".toList then some .logLevel
  else none

def shortOption? (name : Char) : Option ValueOption :=
  if name = 'c' then some .config else if name = 's' then some .server else none

/-- Reads an argument that starts with two hyphens. -/
def ofLong (text : List Char) : Argument :=
  let name := text.takeWhile (· != '=')
  match text.dropWhile (· != '=') with
  | [] =>
      if text = [] then .endOfOptions
      else if name = "json".toList then .json
      else ((longOption? name).map awaiting).getD unknown
  | _ :: content => ((longOption? name).map (value · (String.ofList content))).getD unknown

def ofText (text : String) : Argument :=
  match text.toList with
  | '-' :: '-' :: rest => ofLong rest
  | '-' :: name :: rest =>
      match shortOption? name, rest with
      | none, _ => unknown
      | some option, [] => awaiting option
      | some option, '=' :: content => value option (String.ofList content)
      | some option, content => value option (String.ofList content)
  | _ => unknown

/-- Whether an argument cannot be the value of the option before it. -/
def isOption (text : String) : Bool :=
  match text.toList with
  | '-' :: _ :: _ => true
  | _ => false

end Argument

namespace GivenOptions

/-- Notes the value of an option, unless it has one.  The name of a file is not empty. -/
def note (given : GivenOptions) (option : ValueOption) (content : String) :
    Option GivenOptions :=
  match option with
  | .config =>
      if given.config.isSome ∨ content = "" then none
      else some { given with config := some content }
  | .server =>
      if given.server.isSome then none else some { given with server := some content }
  | .logLevel =>
      if given.logLevel.isSome then none else some { given with logLevel := some content }

def read (given : GivenOptions) : List String → Option GivenOptions
  | [] => some given
  | argument :: rest =>
      match Argument.ofText argument with
      | .json => if given.json then none else read { given with json := true } rest
      | .value option content =>
          match given.note option content with
          | some given => read given rest
          | none => none
      | .awaiting option =>
          match rest with
          | [] => none
          | content :: rest =>
              if Argument.isOption content then none
              else
                match given.note option content with
                | some given => read given rest
                | none => none
      | .endOfOptions => if rest = [] then some given else none
      | .unknown => none

end GivenOptions

/-- Reads a command line.  Only the server has to be named. -/
def Invocation.ofArguments? (arguments : List String) : Option Invocation := do
  let given ← GivenOptions.read {} arguments
  let server ← given.server
  return {
    config := given.config.getD "config.toml"
    server
    json := given.json
    logLevel := given.logLevel.getD "info" }

end HostRouting
