import Daihon.Settings.Problem
import Daihon.Value.Basic

/-!
# The platform

What the program leaves to the libraries under it, and what does not follow from the rules that it gives
them: the wording of their errors, the encodings beyond the common ones, how deep data may be nested, which
characters besides the ASCII digits are digits, and what is answered to a shell that asks how a command line
goes on.  Nothing is assumed of it; where a
platform says no more, the texts are bare.
-/

namespace Daihon

inductive DataFormat where
  | yaml
  | toml
  | json
  deriving DecidableEq, Repr

def DataFormat.name : DataFormat → String
  | .yaml => "YAML"
  | .toml => "TOML"
  | .json => "JSON"

/-- Why bytes in an encoding of the platform are no text. -/
inductive CodecFailure where
  /-- They spell none, as the text says. -/
  | undecodable (text : String)
  /-- The encoding cannot be used; an error of this name and text says why. -/
  | unusable (name text : String)
  deriving DecidableEq, Repr

structure Platform where
  /-- What is said of a text that does not follow the rules of its format. -/
  malformed : DataFormat → List Char → String := fun format _ => "invalid " ++ format.name
  /-- What is said of a text that is nested deeper than the stack allows. -/
  tooDeep? : DataFormat → List Char → Option String := fun _ _ => none
  /-- What is said of settings with problems, from the values given and the problems in the order of the
  fields. -/
  refused : Table Value → List Problem → String := fun _ problems =>
    "\n".intercalate
      ((toString problems.length ++ " validation error" ++ (if problems.length = 1 then "" else "s") ++
          " for VNScriptSettings") ::
        problems.map fun p => ".".intercalate p.place ++ ": " ++ p.refusal.code)
  /-- What is said of a value that an option of the sources of settings cannot have. -/
  badOption : String → Value → String := fun name _ => "unexpected value for " ++ name
  /-- The encodings beyond the common ones, by the names that are asked for. -/
  codec? : String → Option (List UInt8 → Except CodecFailure (List Char)) := fun _ => none
  /-- The digit that a character of another script stands for in a whole number. -/
  digit? : Char → Option Char := fun _ => none
  /-- The exit code and the output for an instruction of a shell and the arguments so far. -/
  complete : String → List String → Nat × String := fun _ _ => (1, "")

end Daihon
