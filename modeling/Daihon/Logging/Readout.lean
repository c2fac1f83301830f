import Daihon.Json.Reader
import Daihon.Logging.Line
import Daihon.Text.Lines

/-!
# Reading a log

A log is read line by line.  Where lines are JSON, each must hold a value; other lines are texts.  What
differs from run to run is replaced by placeholders: times, and the place in the program where something
was logged.
-/

namespace Daihon.Logging

/-- What follows a row of digits of the given length. -/
def afterDigits? : Nat → List Char → Option (List Char)
  | 0, s => some s
  | n + 1, c :: s => if c.isDigit then afterDigits? n s else none
  | _ + 1, [] => none

/-- What follows the character `mark` and a row of digits of the given length. -/
def afterPart? (mark : Char) (digits : Nat) : List Char → Option (List Char)
  | c :: s => if c = mark then afterDigits? digits s else none
  | [] => none

/-- What follows the fraction of a second, if there is one. -/
def afterFraction (s : List Char) : List Char :=
  match s with
  | '.' :: r => if r.head?.any Char.isDigit then r.dropWhile Char.isDigit else s
  | _ => s

/-- What follows a date and a time of day that ends with `Z`. -/
def afterTime? (s : List Char) : Option (List Char) := do
  let s ← afterDigits? 4 s
  let s ← afterPart? '-' 2 s
  let s ← afterPart? '-' 2 s
  let s ← afterPart? 'T' 2 s
  let s ← afterPart? ':' 2 s
  let s ← afterPart? ':' 2 s
  afterPart? 'Z' 0 (afterFraction s)

/-- Replaces the times in a text by their placeholder, with at most `fuel` characters to go. -/
def hideTimes : Nat → List Char → List Char
  | 0, s => s
  | _, [] => []
  | fuel + 1, c :: s =>
    match afterTime? (c :: s) with
    | some rest => timestamp.toList ++ hideTimes fuel rest
    | none => c :: hideTimes fuel s

/-- The name of the field that holds the fields of an event. -/
def extraField : String := "extra"

/-- What stands for fields that differ from run to run. -/
def placeholders : Table Value :=
  (timeField, .text timestamp) :: callSite

/-- Replaces the values of fields that differ from run to run. -/
def hideFields (t : Table Value) : Table Value :=
  t.map fun (k, v) => (k, (Table.get? placeholders k).getD v)

/-- Replaces what differs from run to run in a line that holds a value. -/
def hidden : Value → Value
  | .table t =>
    match Table.get? t extraField with
    | some (.table extra) => .table (Table.put (hideFields t) extraField (.table (hideFields extra)))
    | _ => .table (hideFields t)
  | v => v

def readLine (format : LogFormat) (line : List Char) : Except Failure Value :=
  match format with
  | .json =>
    match Json.parse? line with
    | some v => .ok (hidden v)
    | none => .error (.malformed .json "")
  | _ => .ok (.text (.ofList (hideTimes line.length line)))

def readout (format : LogFormat) (text : List Char) : Except Failure (List Value) :=
  (Text.dropEmptyLast (Text.pieces text)).mapM (readLine format)

/-- What the lines of a log file show that held `old` before `new` was written to it; every carriage
return ends a line there. -/
def fileReadout (format : LogFormat) (old : List UInt8) (new : String) :
    Except Failure (List Value) :=
  match Encoding.Utf8.decode old with
  | .error fault => .error (.undecodable fault.text)
  | .ok old => readout format (Text.unifyNewlines (old ++ new.toList))

end Daihon.Logging
