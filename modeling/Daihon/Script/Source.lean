import Daihon.Files.Decoding
import Daihon.Script.Document

/-!
# Script files

A script is read from a file in an encoding that is asked for by name.  All newlines of the file become
line feeds, and a byte order mark at its start is dropped.  The rows of a range count from 1; a range
may be open, and negative bounds count from the end.
-/

namespace Daihon.Script

/-- The mark that may stand at the start of a text. -/
def byteOrderMark : Char := Char.ofNat 0xFEFF

/-- A text without the mark at its start. -/
def dropMark : List Char → List Char
  | [] => []
  | c :: s => if c = byteOrderMark then s else c :: s

/-- The text in the characters of a file: newlines unified and the mark dropped. -/
def textOfFile (chars : List Char) : List Char :=
  dropMark (Text.unifyNewlines chars)

/-- The diagnostic for a script file that is not there. -/
def fileNotFound (path : Path) : Diagnostic :=
  { kind := .scriptNotFound
    message := "Scenario file not found: " ++ path.text
    hint := some "Check the path, or run from the directory containing the script."
    details := some [("path", .text (path.absolute workDirectory).text)] }

/-- The diagnostic for a script file with bytes that mean nothing in its encoding. -/
def undecodable (path : Path) (encoding text : String) : Diagnostic :=
  { kind := .parse
    message := "Could not decode scenario file: " ++ path.text
    hint := some "Set script_encoding (e.g. VNSCRIPT_SCRIPT_ENCODING=shift_jis)."
    details := some
      [("path", .text path.text), ("encoding", .text encoding), ("error", .text text)] }

/-- The text that the bytes of a script file spell. -/
def decodeFile (platform : Platform) (path : Path) (encoding : String) (bytes : List UInt8) :
    Except Failure (List Char) :=
  match decodeNamed platform encoding bytes with
  | .ok chars => .ok (textOfFile chars)
  | .error (.unusable f) => .error f
  | .error (.undecodable text) => .error (.diagnosed (undecodable path encoding text))

/-- The text of a script file, and the notice that it is being read. -/
def readText (s : Surroundings) (path : Path) (encoding : String) :
    Except Failure String × List Notice :=
  match s.lookFor path with
  | .error fault => (.error (.disk fault), [])
  | .ok (some (.file bytes)) =>
    ((decodeFile s.platform path encoding bytes).map String.ofList, [.readingScript path.text encoding])
  | .ok _ => (.error (.diagnosed (fileNotFound path)), [])

/-- The lines of a script file from number `start` to number `stop`, or to the end. -/
def readLines (s : Surroundings) (path : Path) (start : Int) (stop : Option Int)
    (encoding : String) : Except Failure (List String) × List Notice :=
  let (text, notices) := readText s path encoding
  (text.map fun text => Text.slice (Text.splitLines text) (start - 1) stop, notices)

end Daihon.Script
