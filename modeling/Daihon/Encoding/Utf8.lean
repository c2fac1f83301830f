import Daihon.Encoding.Fault

/-!
# UTF-8

The decoder runs over the bytes with at most one open sequence: the bytes still owed, the least and
greatest value the next byte may have, and the code read so far.  A faulty run is the longest start of
a sequence that could still have been completed.
-/

namespace Daihon.Encoding.Utf8

def encodeChar (c : Char) : List UInt8 :=
  let n := c.toNat
  let tail (unit : Nat) : UInt8 := .ofNat (0x80 + n / unit % 64)
  if n < 0x80 then [.ofNat n]
  else if n < 0x800 then [.ofNat (0xC0 + n / 64), tail 1]
  else if n < 0x10000 then [.ofNat (0xE0 + n / 0x1000), tail 64, tail 1]
  else [.ofNat (0xF0 + n / 0x40000), tail 0x1000, tail 64, tail 1]

def encode (s : List Char) : List UInt8 :=
  s.flatMap encodeChar

/-- A sequence that has begun: where, with which byte, what it spells so far, how many bytes it still
needs and between which values the next one must lie. -/
structure Sequence where
  start : Nat
  lead : UInt8
  code : Nat
  owed : Nat
  low : Nat
  high : Nat

/-- The sequence that a byte above `0x7F` begins, if it may begin one. -/
def begin? (start : Nat) (b : UInt8) : Option Sequence :=
  let n := b.toNat
  if 0xC2 ≤ n && n ≤ 0xDF then some ⟨start, b, n - 0xC0, 1, 0x80, 0xBF⟩
  else if n == 0xE0 then some ⟨start, b, 0, 2, 0xA0, 0xBF⟩
  else if n == 0xED then some ⟨start, b, 0xD, 2, 0x80, 0x9F⟩
  else if 0xE1 ≤ n && n ≤ 0xEF then some ⟨start, b, n - 0xE0, 2, 0x80, 0xBF⟩
  else if n == 0xF0 then some ⟨start, b, 0, 3, 0x90, 0xBF⟩
  else if 0xF1 ≤ n && n ≤ 0xF3 then some ⟨start, b, n - 0xF0, 3, 0x80, 0xBF⟩
  else if n == 0xF4 then some ⟨start, b, 4, 3, 0x80, 0x8F⟩
  else none

def codecName : String := "utf-8"

/-- The fault of a sequence that ends before position `stop`. -/
def Sequence.fault (q : Sequence) (stop : Nat) (reason : Reason) : Fault :=
  ⟨codecName, q.lead, q.start, stop - 1, reason⟩

/-- Decodes the bytes from position `pos` on, with the sequence open there. -/
def decodeFrom (pos : Nat) : Option Sequence → List UInt8 → Except Fault (List Char)
  | none, [] => .ok []
  | some q, [] => .error (q.fault pos .endOfData)
  | none, b :: bs =>
    if b.toNat < 0x80 then (decodeFrom (pos + 1) none bs).map (Char.ofNat b.toNat :: ·)
    else
      match begin? pos b with
      | none => .error ⟨codecName, b, pos, pos, .startByte⟩
      | some q => decodeFrom (pos + 1) (some q) bs
  | some q, b :: bs =>
    if q.low ≤ b.toNat && b.toNat ≤ q.high then
      let code := 64 * q.code + (b.toNat - 0x80)
      if q.owed ≤ 1 then (decodeFrom (pos + 1) none bs).map (Char.ofNat code :: ·)
      else
        decodeFrom (pos + 1)
          (some { q with code := code, owed := q.owed - 1, low := 0x80, high := 0xBF }) bs
    else .error (q.fault pos .continuationByte)

def decode (bytes : List UInt8) : Except Fault (List Char) :=
  decodeFrom 0 none bytes

end Daihon.Encoding.Utf8
