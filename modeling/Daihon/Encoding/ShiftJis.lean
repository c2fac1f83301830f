import Daihon.Encoding.Fault
import Daihon.Encoding.KanjiTable

/-!
# Shift JIS

ASCII bytes stand for themselves, `A1`–`DF` for the halfwidth katakana, and a lead byte with a second
byte for a character of the double-byte set.  The second bytes skip `7F`, and two rows of the set
share one lead byte.
-/

namespace Daihon.Encoding.ShiftJis

def codecName : String := "shift_jis"

/-- Whether a byte is the first of a pair. -/
def isLead (b : UInt8) : Bool :=
  (0x81 ≤ b.toNat && b.toNat ≤ 0x9F) || (0xE0 ≤ b.toNat && b.toNat ≤ 0xEA)

def pair? (lead second : UInt8) : Option Char :=
  let a := lead.toNat
  let b := second.toNat
  if b < 0x40 || b == 0x7F || 0xFC < b then none
  else
    let block := if a < 0xE0 then a - 0x81 else a - 0xC1
    let place := if b < 0x80 then b - 0x40 else b - 0x41
    if place < 94 then kanjiAt? (2 * block) place
    else kanjiAt? (2 * block + 1) (place - 94)

/-- Decodes the bytes from position `pos` on. -/
def decodeFrom (pos : Nat) : List UInt8 → Except Fault (List Char)
  | [] => .ok []
  | b :: bs =>
    if b.toNat < 0x80 then (decodeFrom (pos + 1) bs).map (Char.ofNat b.toNat :: ·)
    else if 0xA1 ≤ b.toNat && b.toNat ≤ 0xDF then
      (decodeFrom (pos + 1) bs).map (Char.ofNat (0xFEC0 + b.toNat) :: ·)
    else if isLead b then
      match bs with
      | [] => .error ⟨codecName, b, pos, pos, .incompleteSequence⟩
      | second :: rest =>
        match pair? b second with
        | some c => (decodeFrom (pos + 2) rest).map (c :: ·)
        | none => .error ⟨codecName, b, pos, pos, .illegalSequence⟩
    else .error ⟨codecName, b, pos, pos, .illegalSequence⟩

end Daihon.Encoding.ShiftJis
