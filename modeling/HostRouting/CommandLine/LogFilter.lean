import HostRouting.CommandLine.LogDirective
import HostRouting.Event

/-!
# Log filters

Which events of a run are written.  A filter is a list of directives.  Of those that fit an event
the most specific one decides, and an event that none fits is not written.  More specific is the
directive with the longer topic, then one with a field over one without; of two with the same topic
and the same field the later one decides.
-/

namespace HostRouting

abbrev LogFilter := List LogDirective

/-- Whether an event is one of those described.  Topics fit all topics that they are the beginning
of.  No event happens in a span. -/
def EventPattern.fits (pattern : EventPattern) (event : Event) : Bool :=
  pattern.span.isNone &&
    (pattern.topic.all fun topic => topic.toList.isPrefixOf event.topic.toList) &&
    pattern.field.all fun field =>
      field.value.isNone && event.fieldNames.contains field.name

/-- Whether another pattern that fits the same events is at least as specific.  The names of two
different fields are compared as words. -/
def EventPattern.yieldsTo (pattern other : EventPattern) : Bool :=
  let length := pattern.topic.elim 0 String.length
  let otherLength := other.topic.elim 0 String.length
  if length = otherLength then
    match pattern.field, other.field with
    | none, _ => true
    | some _, none => false
    | some field, some otherField => field.name ≤ otherField.name
  else length < otherLength

namespace LogFilter

def decisive? (event : Event) : LogFilter → Option LogDirective
  | [] => none
  | directive :: rest =>
      match decisive? event rest with
      | none => if directive.pattern.fits event then some directive else none
      | some later =>
          if directive.pattern.fits event && !directive.pattern.yieldsTo later.pattern then
            some directive
          else some later

def admits (filter : LogFilter) (event : Event) : Bool :=
  (decisive? event filter).any fun directive =>
    directive.threshold.any fun least => event.level.rank ≤ least.rank

def errorsOnly : LogFilter :=
  [{ threshold := some .error }]

/-- Reads directives with commas between them.  Malformed ones are passed over; if none is left,
only errors are written.  A cut inside a character leaves no filter at all. -/
def ofText? (text : String) : Option LogFilter := do
  let readings := (text.toList.splitOn ',').map LogDirective.ofText
  let directives ← readings.filterMapM fun
    | .ok directive => some (some directive)
    | .error .malformed => some none
    | .error .splitCharacter => none
  return if directives = [] then errorsOnly else directives

/-- The filter for the log level of a command line, which is the level of the program.  Behind
commas, further directives may follow it. -/
def ofLevel? (level : String) : Option LogFilter :=
  ofText? (Event.programTopic ++ "=" ++ level)

/-- How many of some events are written at a level. -/
def count (filter : LogFilter) (level : Level) (events : List Event) : Nat :=
  events.countP fun event => event.level = level && filter.admits event

end LogFilter

end HostRouting
