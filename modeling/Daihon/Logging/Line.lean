import Daihon.Json.Printer
import Daihon.Logging.Setup

/-!
# Log lines

What an event writes to the log.  An event reaches the log if its level is at least the threshold.  On
the way it gets its time and level, in debug mode also the place in the program where it was logged, and
loses what it says about an exception.  Times, file names and line numbers are written as placeholders.

* `Setup.text` is what a row of events writes; an event whose fields cannot be written is an error.
-/

namespace Daihon.Logging

/-- An event given to the log: by the library, with fields, or by another one, without. -/
structure Entry where
  logger : String
  level : Level
  event : String
  fields : Table Value
  isForeign : Bool

/-- The name of the field with the time of an event. -/
def timeField : String := "timestamp"

/-- The name of the field with the level of an event. -/
def levelField : String := "level"

/-- What stands for the time of an event. -/
def timestamp : String := "<timestamp>"

/-- The fields that say where in the program an event was logged, and what stands for them. -/
def callSite : Table Value :=
  [("filename", .text "<filename>"), ("lineno", .text "<lineno>"),
    ("func_name", .text "<func_name>")]

/-- The logger that has no name of its own. -/
def rootLogger : String := "root"

def Entry.loggerName (e : Entry) : String :=
  if e.logger.isEmpty then rootLogger else e.logger

/-- The names that no field may have, since the event itself goes by them. -/
def takenNames : List String :=
  ["self", "method_name", "event"]

/-- The field that says with which exception an event comes; it is never written. -/
def exceptionInfo : String := "exc_info"

/-- The fields that are about the call itself and stand beside the others. -/
def callFields : List String :=
  ["stack_info", "stacklevel"]

/-- The fields of an event as they are written, with its time, its level, and in debug mode the place in
the program. -/
def Entry.stamped (debug : Bool) (e : Entry) : Table Value :=
  let fields := Table.put (Table.put e.fields timeField (.text timestamp)) levelField (.text e.level.name)
  let fields := Table.erase fields exceptionInfo
  if debug then Table.putAll fields callSite else fields

/-! ## Console lines -/

/-- The name of a level, padded to the width of the longest. -/
def paddedLevel (l : Level) : String :=
  l.name ++ .ofList (List.replicate (9 - l.name.length) ' ')

/-- Time and level in front of a console line. -/
def consoleHead (l : Level) : String :=
  timestamp ++ " [" ++ paddedLevel l ++ "] "

def paddedEvent (s : String) : String :=
  s ++ .ofList (List.replicate (30 - s.length) ' ')

def withoutEndSpaces (s : String) : String :=
  .ofList (Text.dropEndWhile (fun c => c == ' ') s.toList)

/-- Whether a character makes a text hard to tell from what stands around it. -/
def isConfusing (c : Char) : Bool :=
  [' ', '\t', '=', '\r', '\n', Text.doubleQuote, Text.singleQuote].contains c

/-- The value of a field in a console line: a text as it is if it cannot be confused with what stands
around it, and the literal of anything else. -/
def consoleValue : Value → String
  | .text s => if s.toList.any isConfusing then .ofList (Text.quoted s.toList) else s
  | v => .ofList v.literal

/-- The fields that stand in brackets in front of the others. -/
def bracketFields : List String :=
  ["logger", "logger_name"]

/-- The name of the field with a call stack. -/
def stackField : String := "stack"

/-- The name of the field with the text of an exception. -/
def exceptionField : String := "exception"

/-- The fields that do not stand among the named fields of a console line. -/
def placedFields : List String :=
  [timeField, levelField, stackField, exceptionField] ++ bracketFields

/-- The line that separates a call stack from an exception. -/
def separator : String :=
  .ofList (List.replicate 79 '=')

/-- The fields of an event on one line: what stands in brackets, and the others by name. -/
def consoleFields (fields : Table Value) : List String :=
  let bracketed := bracketFields.filterMap fun k =>
    (Table.get? fields k).map fun v => "[" ++ v.shown ++ "]"
  let named := (fields.filter fun (k, _) => !placedFields.contains k).mergeSort fun a b => a.1 ≤ b.1
  bracketed ++ named.map fun (k, v) => k ++ "=" ++ consoleValue v

/-- The text of a field that stands below the line, if there is one. -/
def lowerText? (fields : Table Value) (name : String) : Except Failure (Option String) :=
  match Table.get? fields name with
  | none | some .null => .ok none
  | some (.text s) => .ok (some s)
  | some v => .error (.notJoined v.typeName)

/-- What stands below a console line: a call stack and an exception. -/
def consoleTail (fields : Table Value) : Except Failure String := do
  let stack ← lowerText? fields stackField
  let exception ← lowerText? fields exceptionField
  return match stack, exception with
    | none, none => ""
    | some s, none => "\n" ++ s
    | none, some x => "\n" ++ x
    | some s, some x => "\n" ++ s ++ "\n\n" ++ separator ++ "\n\n" ++ x

/-- A console line before the name of the logger is added: the event, padded if fields follow, and the
fields. -/
def consoleText (e : Entry) (fields : Table Value) : Except Failure String :=
  let shown := (consoleFields fields).map fun s => " " ++ s
  let line := withoutEndSpaces (consoleHead e.level ++ paddedEvent e.event ++ String.join shown)
  (consoleTail fields).map fun tail => line ++ tail

def consoleLine (e : Entry) (s : String) : String :=
  consoleHead e.level ++ s ++ " [" ++ e.loggerName ++ "]"

/-! ## Lines in every format -/

/-- A table as one line of JSON, or as a row of names and literals. -/
def dataLine (format : LogFormat) (t : Table Value) : String :=
  match format with
  | .json => Json.printLine (.table t)
  | _ => " ".intercalate (t.map fun (k, v) => k ++ "=" ++ .ofList v.literal)

/-- What is written of an event of the library where lines hold data. -/
def Entry.data (e : Entry) (fields : Table Value) : Table Value :=
  let isAboutCall := fun (f : String × Value) => callFields.contains f.1
  ("msg", .text e.event) :: ("extra", .table (fields.filter fun f => !isAboutCall f)) ::
    callFields.filterMap fun k => (Table.get? fields k).map fun v => (k, v)

/-- The text of an event of the library. -/
def ownText (setup : Setup) (e : Entry) : Except Failure String :=
  let fields := e.stamped setup.debug
  match setup.format with
  | .console => (consoleText e fields).map (consoleLine e)
  | format => .ok (dataLine format (e.data fields))

/-- What is written of an event of another library where lines hold data. -/
def Entry.foreignData (e : Entry) : Table Value :=
  [(timeField, .text timestamp), (levelField, .text e.level.name), ("logger", .text e.loggerName),
    ("event", .text e.event)]

/-- The text of an event of another library. -/
def foreignText (setup : Setup) (e : Entry) : String :=
  match setup.format with
  | .console => consoleLine e (paddedEvent e.event)
  | format => dataLine format e.foreignData

/-- Whether an event reaches the log. -/
def Setup.lets (setup : Setup) (e : Entry) : Bool :=
  setup.threshold.number ≤ levelNumber e.level

/-- What an event writes; one that does not reach the log writes nothing. -/
def Setup.entryText (setup : Setup) (e : Entry) : Except Failure String :=
  let line (s : String) := s ++ "\n"
  if e.isForeign then .ok (if setup.lets e then line (foreignText setup e) else "")
  else
    match (Table.keys e.fields).find? takenNames.contains with
    | some name => .error (.takenName name)
    | none => if setup.lets e then (ownText setup e).map line else .ok ""

def Setup.text (setup : Setup) (es : List Entry) : Except Failure String :=
  (es.mapM setup.entryText).map String.join

end Daihon.Logging
