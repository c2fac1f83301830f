/-!
# Looking for a marker in a text

`after? tag s` is what follows `tag` at the start of `s`; `cut? mark s` is the text before and
after the first place where `mark` stands in `s`.  Both give the text back: `s` is `tag` and the
rest, or the part before, `mark` and the part after.
-/

namespace Daihon.Text

/-- What follows `tag` in `s`, if `s` starts with it. -/
def after? : List Char → List Char → Option (List Char)
  | [], s => some s
  | _ :: _, [] => none
  | t :: tag, c :: s => if t = c then after? tag s else none

def startsWith (tag s : List Char) : Bool :=
  (after? tag s).isSome

/-- The texts before and after the first occurrence of `mark` in `s`. -/
def cut? (mark : List Char) : List Char → Option (List Char × List Char)
  | [] => if mark.isEmpty then some ([], []) else none
  | c :: s =>
    match after? mark (c :: s) with
    | some rest => some ([], rest)
    | none => (cut? mark s).map fun (before, rest) => (c :: before, rest)

def contains (mark s : List Char) : Bool :=
  (cut? mark s).isSome

def removeFirst (mark s : List Char) : List Char :=
  match cut? mark s with
  | some (before, rest) => before ++ rest
  | none => s

theorem after?_eq_some_iff {tag s rest : List Char} :
    after? tag s = some rest ↔ s = tag ++ rest := by
  induction tag generalizing s with
  | nil => simp [after?, eq_comm]
  | cons t tag ih =>
    cases s with
    | nil => simp [after?]
    | cons c s =>
      by_cases h : t = c
      · simp [after?, h, ih]
      · simp [after?, h, Ne.symm h]

end Daihon.Text
