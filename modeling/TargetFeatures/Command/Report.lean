import TargetFeatures.Json.Writer
import TargetFeatures.Text.Terminal

/-!
# Reports

A command reports in lines for a reader or in one record for a program. The record says how the
command ended, what was wrong or doubtful, and the data the command found; lines are added as
the command goes on, and the record is written when it is finished.
-/

namespace TargetFeatures.Command

/-- Something that a command says is wrong or doubtful. -/
structure Notice where
  message : String
  location : Option String
  category : Option String
  suggestion : Option String
  deriving DecidableEq, Repr

namespace Notice

/-- A notice that is only a message. -/
def ofMessage (message : String) : Notice := ⟨message, none, none, none⟩

/-- A field of a record that may be absent; an empty text counts as absent. -/
def field? (name : String) (value : Option String) : List (String × Value) :=
  match value with
  | none | some "" => []
  | some value => [(name, .ofText value)]

/-- A notice in a record. -/
def toValue (notice : Notice) : Value :=
  .object ([("message", .ofText notice.message)] ++ field? "location" notice.location ++
    field? "category" notice.category ++ field? "suggestion" notice.suggestion)

end Notice

/-- The exit codes of commands. -/
inductive ExitCode where
  | success
  | invalid
  | usage
  | notFound
  | unbuildable
  deriving DecidableEq, Repr

/-- The number of an exit code. -/
def ExitCode.number : ExitCode → Nat
  | .success => 0
  | .invalid => 1
  | .usage => 2
  | .notFound => 3
  | .unbuildable => 4

/-- What a command has reported so far. -/
structure Report where
  /-- Whether a record is written in place of lines. -/
  isRecord : Bool
  printed : String
  /-- The fields of the record, which are kept up in part if lines are written. -/
  fields : List (Scalar × Value)
  exitCode : ExitCode

namespace Report

/-- A report before anything is said. -/
def start (isRecord : Bool) : Report :=
  ⟨isRecord, "", [(.text "status", .ofText "success"), (.text "warnings", .list []),
    (.text "errors", .list [])], .success⟩

/-- A text from elsewhere as it stands in a message of the report. -/
def quoted (report : Report) (text : String) : String :=
  if report.isRecord then Text.escapeTags text else text

/-- Prints without ending the line. The lines of a report are printed as they stand. -/
def print (report : Report) (text : String) : Report :=
  if report.isRecord then report
  else { report with printed := report.printed ++ Text.onTerminal text }

/-- Prints a line. -/
def line (report : Report) (text : String) : Report := report.print (text ++ "\n")

/-- Sets a field of the record. -/
def set (report : Report) (name : String) (value : Value) : Report :=
  { report with fields := Value.put report.fields (.text name) value }

/-- The items of a list among the fields. -/
def items (report : Report) (name : String) : List Value :=
  ((Value.lookup? report.fields name).bind Value.items?).getD []

/-- Adds a notice to a list among the fields, unless lines are written. -/
def add (report : Report) (name : String) (notice : Notice) : Report :=
  if report.isRecord then report.set name (.list (report.items name ++ [notice.toValue]))
  else report

/-- Says that something worked, with data for the record. -/
def success (report : Report) (message : String) (data : List (String × Value)) : Report :=
  if report.isRecord then data.foldl (fun report (name, value) => report.set name value) report
  else report.line ("✓ " ++ message)

/-- Prints what can be done about a notice. -/
def suggest (report : Report) (notice : Notice) : Report :=
  match notice.suggestion with
  | none | some "" => report
  | some suggestion => report.line ("  → " ++ suggestion)

/-- Says that something is doubtful. -/
def warn (report : Report) (notice : Notice) : Report :=
  ((report.add "warnings" notice).line ("⚠ " ++ notice.message)).suggest notice

/-- Notes that something is wrong, without printing it. -/
def addError (report : Report) (notice : Notice) (exitCode : ExitCode) : Report :=
  ({ report with exitCode }.set "status" (.ofText "error")).add "errors" notice

/-- Says that something is wrong. -/
def fail (report : Report) (notice : Notice) (exitCode : ExitCode) : Report :=
  ((report.addError notice exitCode).line ("✗ " ++ notice.message)).suggest notice

/-- What stands in a message in place of the details of an unreadable text. -/
def elision : String := "<...>"

/-- Says that something is wrong with a text whose details are left out, which ends the lines. -/
def failElided (report : Report) (message : String) (exitCode : ExitCode) : Report :=
  (report.addError (.ofMessage (message ++ elision)) exitCode).print ("✗ " ++ message ++ elision)

/-- The record of a finished report. -/
def toValue (report : Report) : Value :=
  .map (report.set "exit_code" (.ofInt report.exitCode.number)).fields

/-- The whole output of a finished report. -/
def output (report : Report) : String :=
  if report.isRecord then Json.pretty report.toValue ++ "\n" else report.printed

end Report

end TargetFeatures.Command
