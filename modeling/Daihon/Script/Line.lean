import Daihon.Text.Blank
import Daihon.Text.Search

/-!
# Lines of a script

Every line of a script is of exactly one of three kinds.  A *directive* starts with a tag and asks for
a background, music, a sound effect or a portrait.  A *structural* line is blank, a separator, or a
title or chapter header.  Every other line is *speech*: a speaker header, a monologue header, a quoted
line, or plain prose.

* `directive? l`, `isStructural l` and `speech? l` decide the three kinds separately;
* `content? l` is what the line adds to the script, asked as a directive first.
-/

namespace Daihon.Script

inductive DirectiveKind where
  | background
  | bgm
  | se
  | character
  deriving DecidableEq, Repr

namespace DirectiveKind

/-- The kinds of directives, in the order in which their tags are tried. -/
def all : List DirectiveKind :=
  [background, bgm, se, character]

def tag : DirectiveKind → List Char
  | background => ['【', '背', '景', '】']
  | bgm => ['【', 'B', 'G', 'M', '】']
  | se => ['【', 'S', 'E', '】']
  | character => ['【', '立', 'ち', '絵', '】']

def name : DirectiveKind → String
  | background => "background"
  | bgm => "bgm"
  | se => "se"
  | character => "character"

end DirectiveKind

/-- A directive with its tag removed and its value trimmed. -/
structure Directive where
  kind : DirectiveKind
  value : String
  deriving DecidableEq, Repr

/-- A line of speech: a header names a character and has no text, and every other line has a text and
names no one. -/
structure Speech where
  character : String
  text : String
  isMonologue : Bool
  deriving DecidableEq, Repr

/-- Whether a line of speech only says who speaks next. -/
def Speech.isHeader (s : Speech) : Bool :=
  !s.character.isEmpty && s.text.isEmpty

/-- What a line adds to a script. -/
inductive Content where
  | directive (d : Directive)
  | speech (s : Speech)
  deriving DecidableEq, Repr

/-! ## Markers -/

def monologueMark : List Char := ['（', 'モ', 'ノ', 'ロ', 'ー', 'グ', '）']

def titleMark : List Char := ['タ', 'イ', 'ト', 'ル', '：']

def chapterMark : List Char := ['章', '：']

def separatorMark : List Char := ['-', '-', '-']

def openQuote : Char := '「'

def closeQuote : Char := '」'

/-- The longest name that is read as a speaker header. -/
def maxNameLength : Nat := 15

/-- The brackets and punctuation marks that no name in a speaker header holds. -/
def namePunctuation : List Char :=
  ['（', '）', '(', ')', '「', '」', '『', '』', '【', '】', '。', '、', '，', '．', '！', '？', '!', '?', '…',
    '‥', '：', ':']

/-- Whether `c` may stand in the name of a speaker header. -/
def isNameChar (c : Char) : Bool :=
  !Text.isBlank c && !namePunctuation.contains c

/-! ## The three kinds of lines -/

def isStructuralTrimmed (s : List Char) : Bool :=
  s.isEmpty || Text.startsWith separatorMark s || Text.startsWith titleMark s ||
    Text.startsWith chapterMark s

/-- Whether a line is blank, a separator, or a title or chapter header. -/
def isStructural (line : List Char) : Bool :=
  isStructuralTrimmed (Text.trim line)

/-- The first kind of directive whose tag starts `s`, with what follows the tag. -/
def tagged? (s : List Char) : Option (DirectiveKind × List Char) :=
  DirectiveKind.all.findSome? fun kind => (Text.after? kind.tag s).map fun rest => (kind, rest)

/-- The directive a line gives, if it starts with a tag. -/
def directive? (line : List Char) : Option Directive :=
  (tagged? (Text.trim line)).map fun (kind, rest) => ⟨kind, .ofList (Text.trim rest)⟩

/-- Whether a trimmed line is a speaker header: one name of at most `maxNameLength` characters, with
nothing but blanks after it. -/
def isSpeakerHeader (s : List Char) : Bool :=
  !Text.contains monologueMark s && s.length ≤ maxNameLength &&
    !(s.takeWhile isNameChar).isEmpty && (s.dropWhile isNameChar).all Text.isBlank

/-- The text between the quotes of a quoted line, if it is not empty. -/
def quoted? (s : List Char) : Option (List Char) :=
  if 2 < s.length && s.head? == some openQuote && s.getLast? == some closeQuote then
    some s.tail.dropLast
  else none

/-- The speech in a trimmed line that is neither structural nor a directive: a speaker header, a
monologue header, a quoted line, or prose. -/
def speechOf (s : List Char) : Speech :=
  if isSpeakerHeader s then ⟨.ofList s, "", false⟩
  else if Text.contains monologueMark s then
    ⟨.ofList (Text.trim (Text.removeFirst monologueMark s)), "", true⟩
  else
    match quoted? s with
    | some text => ⟨"", .ofList text, false⟩
    | none => ⟨"", .ofList s, true⟩

/-- The speech a line gives, if it is neither structural nor a directive. -/
def speech? (line : List Char) : Option Speech :=
  if isStructural line then none
  else
    let s := Text.trim line
    if (directive? s).isSome then none else some (speechOf s)

/-- What a line adds to the script: a directive if it is one, and else its speech. -/
def content? (line : List Char) : Option Content :=
  match directive? line with
  | some d => some (.directive d)
  | none => (speech? line).map .speech

end Daihon.Script
