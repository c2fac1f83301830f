import Daihon.Decimal.Digits
import Daihon.Report.PictureTable
import Daihon.Text.Blank
import Daihon.Text.Case
import Daihon.Text.Search

/-!
# Pictures

Text for the terminal may ask for a picture by a name between colons.  A name may end in a variant,
`-text` or `-emoji`, which puts a selector behind the picture.  Colons around anything else stay as they
are.
-/

namespace Daihon.Report

/-- The characters of the code of a picture, its hexadecimal numbers joined by plus signs. -/
def pictureOfCode (code : List Char) : List Char :=
  (Text.words (code.map fun c => if c = '+' then ' ' else c)).filterMap fun digits =>
    (Decimal.ofBase? 16 digits).map Char.ofNat

/-- The names of pictures among the words of a line of the table, with the picture that the latest code stands
for. -/
def namesIn (picture : List Char) : List (List Char) → List (List Char × List Char)
  | [] => []
  | word :: rest =>
    match word with
    | 'U' :: '+' :: code => namesIn (pictureOfCode code) rest
    | name => (name, picture) :: namesIn picture rest

def pictureNames : List (List Char × List Char) :=
  (pictureTable.splitOn "\n").flatMap fun line => namesIn [] (Text.words line.toList)

def pictureNamed? (name : List Char) : Option (List Char) :=
  let name := name.flatMap Text.lowerChar
  (pictureNames.find? fun entry => entry.1 == name).map Prod.snd

def pictureVariants : List (List Char × Char) :=
  [(['-', 't', 'e', 'x', 't'], '\ufe0e'), (['-', 'e', 'm', 'o', 'j', 'i'], '\ufe0f')]

/-- The picture that the text between two colons asks for. -/
def pictureFor? (request : List Char) : Option (List Char) :=
  match pictureVariants.find? fun (ending, _) => ending.isSuffixOf request with
  | some (ending, selector) =>
    (pictureNamed? (request.take (request.length - ending.length))).map (· ++ [selector])
  | none => pictureNamed? request

/-- Puts pictures in place of their names, with at most `fuel` characters to go. -/
def withPicturesFrom : Nat → List Char → List Char
  | 0, s => s
  | _, [] => []
  | fuel + 1, c :: s =>
    if c ≠ ':' then c :: withPicturesFrom fuel s
    else
      let request := s.takeWhile fun c => c != ':' && !Text.isBlank c
      match s.dropWhile fun c => c != ':' && !Text.isBlank c with
      | ':' :: rest =>
        (pictureFor? request).getD (':' :: request ++ [':']) ++ withPicturesFrom fuel rest
      | _ => c :: withPicturesFrom fuel s

/-- A text with pictures in place of their names. -/
def withPictures (s : List Char) : List Char :=
  withPicturesFrom s.length s

end Daihon.Report
