import Daihon.Encoding.ShiftJis
import Daihon.Encoding.Utf16
import Daihon.Encoding.Utf8

/-!
# Encodings by name

The common text encodings that a script may be stored in.  Names are looked up without regard to case, and a run
of characters other than letters, digits and dots counts as one underscore.
-/

namespace Daihon.Encoding

inductive Codec where
  | utf8
  | utf8WithMark
  | ascii
  | latin1
  | utf16
  | utf16Little
  | utf16Big
  | shiftJis
  deriving DecidableEq, Repr

/-- The names of an encoding, in the form that `canonicalName` gives. -/
def Codec.names : Codec → List String
  | .utf8 => ["utf_8", "utf8", "u8", "utf", "utf8_ucs2", "utf8_ucs4", "cp65001"]
  | .utf8WithMark => ["utf_8_sig"]
  | .ascii =>
    ["ascii", "646", "ansi_x3.4_1968", "ansi_x3_4_1968", "ansi_x3.4_1986", "cp367", "csascii", "ibm367",
      "iso646_us", "iso_646.irv_1991", "iso_ir_6", "us", "us_ascii"]
  | .latin1 =>
    ["latin_1", "8859", "cp819", "csisolatin1", "ibm819", "iso8859", "iso8859_1", "iso_8859_1",
      "iso_8859_1_1987", "iso_ir_100", "l1", "latin", "latin1"]
  | .utf16 => ["utf_16", "u16", "utf16"]
  | .utf16Little => ["utf_16_le", "unicodelittleunmarked", "utf_16le"]
  | .utf16Big => ["utf_16_be", "unicodebigunmarked", "utf_16be"]
  | .shiftJis => ["shift_jis", "csshiftjis", "shiftjis", "sjis", "s_jis"]

def Codec.all : List Codec :=
  [.utf8, .utf8WithMark, .ascii, .latin1, .utf16, .utf16Little, .utf16Big, .shiftJis]

/-- Joins the words of a name by underscores; `gap` says whether a separator is pending. -/
def joinWords (gap : Bool) : List Char → List Char
  | [] => []
  | c :: s =>
    if c.isAlphanum || c == '.' then
      (if gap then ['_'] else []) ++ c.toLower :: joinWords false s
    else joinWords true s

/-- A name in lower case with its words joined by single underscores. -/
def canonicalName (name : String) : String :=
  .ofList (joinWords false (name.toList.dropWhile fun c => !(c.isAlphanum || c == '.')))

def hasNull (name : String) : Bool :=
  name.toList.contains '\x00'

/-- The encoding of the given name; a name with a null character is none. -/
def Codec.ofName? (name : String) : Option Codec :=
  if hasNull name then none
  else Codec.all.find? fun codec => codec.names.contains (canonicalName name)

inductive DecodeError where
  | faulty (fault : Fault)
  /-- Bytes that must begin with a byte order mark do not. -/
  | unmarked
  deriving DecidableEq, Repr

/-- ASCII bytes, from position `pos` on. -/
def decodeAscii (pos : Nat) : List UInt8 → Except Fault (List Char)
  | [] => .ok []
  | b :: bs =>
    if b.toNat < 0x80 then (decodeAscii (pos + 1) bs).map (Char.ofNat b.toNat :: ·)
    else .error ⟨"ascii", b, pos, pos, .outOfRange⟩

/-- UTF-8 without one byte order mark at the start.  A mark that is cut short is dropped too. -/
def decodeUtf8WithMark (bytes : List UInt8) : Except Fault (List Char) :=
  match bytes with
  | 0xEF :: 0xBB :: 0xBF :: rest => Utf8.decode rest
  | [0xEF] => .ok []
  | [0xEF, 0xBB] => .ok []
  | _ => Utf8.decode bytes

/-- UTF-16 with a byte order mark.  Bytes without one are read in little order first, and a fault found
there counts more than the missing mark. -/
def decodeUtf16 (bytes : List UInt8) : Except DecodeError (List Char) :=
  match bytes with
  | [] => .ok []
  | 0xFF :: 0xFE :: rest => (Utf16.decodeFrom .little 2 rest).mapError .faulty
  | 0xFE :: 0xFF :: rest => (Utf16.decodeFrom .big 2 rest).mapError .faulty
  | bytes =>
    match Utf16.decodeFrom .little 0 bytes with
    | .error fault => .error (.faulty fault)
    | .ok _ => .error .unmarked

/-- The text that the bytes spell in the given encoding. -/
def Codec.decode (codec : Codec) (bytes : List UInt8) : Except DecodeError (List Char) :=
  match codec with
  | .utf8 => (Utf8.decode bytes).mapError .faulty
  | .utf8WithMark => (decodeUtf8WithMark bytes).mapError .faulty
  | .ascii => (decodeAscii 0 bytes).mapError .faulty
  | .latin1 => .ok (bytes.map fun b => Char.ofNat b.toNat)
  | .utf16 => decodeUtf16 bytes
  | .utf16Little => (Utf16.decodeFrom .little 0 bytes).mapError .faulty
  | .utf16Big => (Utf16.decodeFrom .big 0 bytes).mapError .faulty
  | .shiftJis => (ShiftJis.decodeFrom 0 bytes).mapError .faulty

end Daihon.Encoding
