import Daihon.Label.Plan
import Daihon.Proofs.Encoding.Utf8
import Daihon.Proofs.Text.Ranges
import Daihon.Script.Source

/-!
# How a script file is written

The lines of a script may be written with any of three line ends, and with or without a mark in front.
None of this is seen by who reads the file (`written_file_reads_back`): the text that is read has the
lines with a line feed behind each of them (`textOfFile_chars`).

Newlines are unified before the text is cut, so what has to be shown is that unifying does not run over the
end of a line: a lone carriage return would swallow a line feed behind it, but there is none in a file of
lines that end in carriage returns (`lineFeed_notMem_endLines`).
-/

namespace Daihon

namespace Text

/-- The line ends of files. -/
inductive Newline where
  | lineFeed
  | returnLineFeed
  | loneReturn
  deriving DecidableEq, Repr

/-- The characters of a line end. -/
def Newline.chars : Newline → List Char
  | .lineFeed => ['\n']
  | .returnLineFeed => ['\r', '\n']
  | .loneReturn => ['\r']

/-- The lines, each with the line end behind it. -/
def Newline.endLines (newline : Newline) (ls : List (List Char)) : List Char :=
  ls.flatMap (· ++ newline.chars)

/-- Whether a text is a line of a file: it holds no line end. -/
def IsLine (line : List Char) : Prop :=
  '\r' ∉ line ∧ '\n' ∉ line

instance : DecidablePred IsLine := fun _ => inferInstanceAs (Decidable (_ ∧ _))

theorem Newline.endLines_cons (newline : Newline) (line : List Char) (ls : List (List Char)) :
    newline.endLines (line :: ls) = line ++ (newline.chars ++ newline.endLines ls) := by
  rw [endLines, List.flatMap_cons, List.append_assoc, ← endLines]

theorem unlines_cons (line : List Char) (ls : List (List Char)) :
    unlines (line :: ls) = line ++ '\n' :: unlines ls := by
  rw [unlines, List.flatMap_cons, List.append_assoc, ← unlines, List.singleton_append]

/-! ### Newlines unified -/

theorem unifyNewlines_cons {c : Char} (h : c ≠ '\r') (s : List Char) :
    unifyNewlines (c :: s) = c :: unifyNewlines s := by
  rw [unifyNewlines, if_neg h]
  intro _ hc _
  exact h hc

theorem unifyNewlines_append {l : List Char} (h : '\r' ∉ l) (s : List Char) :
    unifyNewlines (l ++ s) = l ++ unifyNewlines s := by
  induction l with
  | nil => rfl
  | cons c l ih =>
    rw [List.mem_cons, not_or] at h
    rw [List.cons_append, unifyNewlines_cons (Ne.symm h.1), ih h.2, List.cons_append]

/-- A carriage return that no line feed follows is a newline of its own. -/
theorem unifyNewlines_return {s : List Char} (h : '\n' ∉ s) :
    unifyNewlines ('\r' :: s) = '\n' :: unifyNewlines s := by
  rw [unifyNewlines, if_pos rfl]
  rintro s' - rfl
  exact h List.mem_cons_self

theorem lineFeed_notMem_endLines {ls : List (List Char)} (h : ∀ line ∈ ls, IsLine line) :
    '\n' ∉ Newline.loneReturn.endLines ls := by
  rw [Newline.endLines, List.mem_flatMap]
  rintro ⟨line, hline, hmem⟩
  rcases List.mem_append.mp hmem with hmem | hmem
  · exact (h line hline).2 hmem
  · exact absurd hmem (by decide)

/-- Whatever lines end in, what is read has a line feed behind each. -/
theorem unifyNewlines_endLines (newline : Newline) {ls : List (List Char)}
    (h : ∀ line ∈ ls, IsLine line) : unifyNewlines (newline.endLines ls) = unlines ls := by
  induction ls with
  | nil => rfl
  | cons line ls ih =>
    obtain ⟨hline, hls⟩ := List.forall_mem_cons.mp h
    rw [newline.endLines_cons, unifyNewlines_append hline.1, unlines_cons, ← ih hls]
    congr 1
    cases newline with
    | lineFeed => exact unifyNewlines_cons (by decide) _
    | returnLineFeed => rfl
    | loneReturn => exact unifyNewlines_return (lineFeed_notMem_endLines hls)

end Text

/-- What stands at a place is found there. -/
theorem Surroundings.lookFor_of_find? {s : Surroundings} {path : Path} {e : Entry}
    (h : s.find? path = some e) : s.lookFor path = .ok (some e) := by
  cases hplace : s.place path with
  | error fault =>
    rw [find?, hplace] at h
    cases h
  | ok parts => rw [lookFor, hplace, h]

namespace Script

/-! ### Files -/

/-- A way to write a script file: the line end of all lines, and whether a mark stands in front. -/
structure Writing where
  newline : Text.Newline
  isMarked : Bool
  deriving DecidableEq, Repr

/-- The characters of a file with the given lines. -/
def Writing.chars (w : Writing) (ls : List (List Char)) : List Char :=
  (if w.isMarked then [byteOrderMark] else []) ++ w.newline.endLines ls

/-- The bytes of a file with the given lines, in UTF-8. -/
def Writing.bytes (w : Writing) (ls : List String) : List UInt8 :=
  Encoding.Utf8.encode (w.chars (ls.map String.toList))

/-- Whether a way to write suits the lines: a first line that starts with a mark needs a mark in front. -/
def Writing.Suits (w : Writing) (ls : List String) : Prop :=
  ls.head?.bind (·.toList.head?) = some byteOrderMark → w.isMarked = true

instance (w : Writing) (ls : List String) : Decidable (w.Suits ls) :=
  inferInstanceAs (Decidable (_ → _))

theorem dropMark_of_head? {s : List Char} (h : s.head? ≠ some byteOrderMark) : dropMark s = s := by
  cases s with
  | nil => rfl
  | cons c s =>
    have hc : c ≠ byteOrderMark := fun hc => h (congrArg some hc)
    exact if_neg hc

theorem head?_unlines_ne {ls : List (List Char)}
    (h : ls.head?.bind List.head? ≠ some byteOrderMark) :
    (Text.unlines ls).head? ≠ some byteOrderMark := by
  cases ls with
  | nil => exact fun hnil => nomatch hnil
  | cons line ls =>
    rw [Text.unlines_cons]
    cases line with
    | nil =>
      have hne : '\n' ≠ byteOrderMark := by decide
      exact fun hc => hne (Option.some.inj hc)
    | cons c line => exact h

theorem textOfFile_chars {w : Writing} {ls : List String} (hls : ∀ line ∈ ls, Text.IsLine line.toList)
    (hw : w.Suits ls) :
    textOfFile (w.chars (ls.map String.toList)) = Text.unlines (ls.map String.toList) := by
  have hunify := Text.unifyNewlines_endLines w.newline (List.forall_mem_map.mpr hls)
  rw [textOfFile, Writing.chars]
  by_cases hmark : w.isMarked = true
  · rw [if_pos hmark, List.singleton_append, Text.unifyNewlines_cons (by decide), hunify]
    rw [dropMark, if_pos rfl]
  · rw [if_neg hmark, List.nil_append, hunify]
    apply dropMark_of_head?
    apply head?_unlines_ne
    have hhead := mt hw hmark
    rwa [List.head?_map, Option.bind_map]

theorem decodeFile_encode (platform : Platform) (path : Path) {encoding : String}
    (hencoding : Encoding.Codec.ofName? encoding = some .utf8) (chars : List Char) :
    decodeFile platform path encoding (Encoding.Utf8.encode chars) = .ok (textOfFile chars) := by
  simp only [decodeFile, decodeNamed, Encoding.Codec.read, hencoding, Encoding.Codec.decode_utf8_encode]

section Reading

variable {s : Surroundings} {path : Path} {encoding : String} {w : Writing} {ls : List String}
  (hls : ∀ line ∈ ls, Text.IsLine line.toList)
  (hencoding : Encoding.Codec.ofName? encoding = some .utf8) (hw : w.Suits ls)
  (hfile : s.find? path = some (.file (w.bytes ls)))
include hls hencoding hw hfile

theorem readText_written :
    readText s path encoding =
      (.ok (.ofList (Text.unlines (ls.map String.toList))), [.readingScript path.text encoding]) := by
  have hlook := Surroundings.lookFor_of_find? hfile
  have hdecode : decodeFile s.platform path encoding (w.bytes ls) =
      .ok (Text.unlines (ls.map String.toList)) := by
    rw [Writing.bytes, decodeFile_encode _ path hencoding, textOfFile_chars hls hw]
  simp only [readText, hlook, hdecode, Except.map]

theorem readLines_written :
    readLines s path 1 none encoding = (.ok ls, [.readingScript path.text encoding]) := by
  have hsplit : Text.splitLines (.ofList (Text.unlines (ls.map String.toList))) = ls := by
    rw [Text.splitLines, String.toList_ofList, Text.lines_unlines]
    · rw [List.map_map]
      exact List.map_id'' (fun _ => String.ofList_toList) ls
    · intro line hline
      obtain ⟨line, hmem, rfl⟩ := List.mem_map.mp hline
      refine ⟨(hls line hmem).2, fun hlast => (hls line hmem).1 ?_⟩
      exact List.mem_of_getLast? hlast
  have hrange : Text.IsRange 1 none := by decide
  have hall : Text.slice ls (1 - 1) none = ls := by
    rw [Text.slice_eq_between hrange, Text.between_eq_drop_upTo hrange]
    exact List.drop_zero
  rw [readLines, readText_written hls hencoding hw hfile]
  simp only [Except.map, hsplit, hall]

/-- **How a script file is written never shows.**  Lines written in UTF-8, with whichever line end and with
or without a mark in front, are read as these lines, and as a text as the lines with a line feed behind
each.  So they make the same document and the same plans as in any other file that has them. -/
theorem written_file_reads_back :
    readLines s path 1 none encoding = (.ok ls, [.readingScript path.text encoding]) ∧
      readText s path encoding =
        (.ok (.ofList (Text.unlines (ls.map String.toList))), [.readingScript path.text encoding]) ∧
      ∀ (s' : Surroundings) (path' : Path) (w' : Writing), w'.Suits ls →
        s'.find? path' = some (.file (w'.bytes ls)) →
          (readText s' path' encoding).1.map Document.ofText =
              (readText s path encoding).1.map Document.ofText ∧
            (readText s' path' encoding).1.map Label.plansOf =
              (readText s path encoding).1.map Label.plansOf := by
  have htext := readText_written hls hencoding hw hfile
  refine ⟨readLines_written hls hencoding hw hfile, htext, ?_⟩
  intro s' path' w' hw' hfile'
  have hsame : (readText s' path' encoding).1 = (readText s path encoding).1 := by
    rw [htext, readText_written hls hencoding hw' hfile']
  rw [hsame]
  exact ⟨rfl, rfl⟩

end Reading

/-- Lines of which the first starts with a mark and others are blank or hold separators. -/
def oddLines : List String :=
  ["\uFEFF太郎", "", "「やあ\u2028元気？」", "\x0b "]

/-- The same lines in two files that are written in different ways. -/
def twoWritings : Surroundings where
  disk :=
    ⟨[(workDirectory, .directory), (homeDirectory, .directory),
      (["work", "a.txt"], .file (Writing.bytes ⟨.loneReturn, true⟩ oddLines)),
      (["work", "b.txt"], .file (Writing.bytes ⟨.returnLineFeed, true⟩ oddLines))]⟩
  environment := []

/-- Both files are read as the lines that were written, and their plans are the same. -/
theorem written_file_reads_back_twoWritings :
    readLines twoWritings (.ofText "a.txt") 1 none "utf-8" =
        (.ok oddLines, [.readingScript "a.txt" "utf-8"]) ∧
      (readText twoWritings (.ofText "b.txt") "utf-8").1.map Label.plansOf =
        (readText twoWritings (.ofText "a.txt") "utf-8").1.map Label.plansOf := by
  have hls : ∀ line ∈ oddLines, Text.IsLine line.toList := by decide
  have hencoding : Encoding.Codec.ofName? "utf-8" = some .utf8 := by decide
  have ha : twoWritings.find? (.ofText "a.txt") =
      some (.file (Writing.bytes ⟨.loneReturn, true⟩ oddLines)) := rfl
  have hb : twoWritings.find? (.ofText "b.txt") =
      some (.file (Writing.bytes ⟨.returnLineFeed, true⟩ oddLines)) := rfl
  obtain ⟨hlines, -, hsame⟩ := written_file_reads_back hls hencoding (fun _ => rfl) ha
  exact ⟨hlines, (hsame twoWritings (.ofText "b.txt") _ (fun _ => rfl) hb).2⟩

end Script

end Daihon
