/-!
# Blanks and trimming

The blank characters of the script format are the 29 Unicode characters that separate words or
lines, the four information separators included.  Zero-width characters are not blank.  Trimming
removes blanks at both ends of a text; a trimmed text is left alone by a second trimming.
-/

namespace Daihon.Text

/-- The characters that count as white space: `U+0009`–`U+000D`, `U+001C`–`U+0020`, `U+0085`,
`U+00A0`, `U+1680`, `U+2000`–`U+200A`, `U+2028`, `U+2029`, `U+202F`, `U+205F` and `U+3000`. -/
def isBlank (c : Char) : Bool :=
  let n := c.toNat
  (9 ≤ n && n ≤ 13) || (28 ≤ n && n ≤ 32) || n == 0x85 || n == 0xA0 || n == 0x1680 ||
    (0x2000 ≤ n && n ≤ 0x200A) || n == 0x2028 || n == 0x2029 || n == 0x202F || n == 0x205F ||
    n == 0x3000

/-- The blanks without the information separators `U+001C`–`U+001F`: what may stand around a
number. -/
def isSpace (c : Char) : Bool :=
  isBlank c && !(28 ≤ c.toNat && c.toNat ≤ 31)

/-- Drops the characters at the end of `s` that satisfy `p`. -/
def dropEndWhile (p : Char → Bool) (s : List Char) : List Char :=
  (s.reverse.dropWhile p).reverse

/-- Drops the characters at both ends of `s` that satisfy `p`. -/
def trimWhile (p : Char → Bool) (s : List Char) : List Char :=
  dropEndWhile p (s.dropWhile p)

/-- `s` without the blanks at its ends. -/
def trim (s : List Char) : List Char :=
  trimWhile isBlank s

def trimmed (s : String) : String :=
  .ofList (trim s.toList)

/-- The words of a text: its longest parts without blanks. -/
def words : List Char → List (List Char)
  | [] => []
  | c :: s =>
    if isBlank c then words s
    else if s.head?.all isBlank then [c] :: words s
    else
      match words s with
      | [] => [[c]]
      | w :: ws => (c :: w) :: ws

@[simp] theorem trim_nil : trim [] = [] := rfl

theorem toList_trimmed (s : String) : (trimmed s).toList = trim s.toList := by
  simp [trimmed]

end Daihon.Text
