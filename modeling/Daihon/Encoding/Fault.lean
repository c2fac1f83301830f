import Daihon.Decimal.Digits

/-!
# Bytes that spell no text

Where and why a run of bytes cannot be decoded.
-/

namespace Daihon.Encoding

inductive Reason where
  | startByte
  | continuationByte
  | endOfData
  | outOfRange
  | illegalSequence
  | incompleteSequence
  | truncated
  | loneLowSurrogate
  | loneHighSurrogate
  deriving DecidableEq, Repr

def Reason.text : Reason → String
  | .startByte => "invalid start byte"
  | .continuationByte => "invalid continuation byte"
  | .endOfData => "unexpected end of data"
  | .outOfRange => "ordinal not in range(128)"
  | .illegalSequence => "illegal multibyte sequence"
  | .incompleteSequence => "incomplete multibyte sequence"
  | .truncated => "truncated data"
  | .loneLowSurrogate => "illegal encoding"
  | .loneHighSurrogate => "illegal UTF-16 surrogate"

/-- A run of bytes that cannot be decoded: its first byte, and the positions of its first and last
byte. -/
structure Fault where
  codec : String
  byte : UInt8
  first : Nat
  last : Nat
  reason : Reason
  deriving DecidableEq, Repr

/-- The message about a run that cannot be decoded. -/
def Fault.text (f : Fault) : String :=
  let place :=
    if f.last ≤ f.first then
      "byte 0x" ++ .ofList (Decimal.hexDigits 2 f.byte.toNat) ++ s!" in position {f.first}"
    else s!"bytes in position {f.first}-{f.last}"
  "'" ++ f.codec ++ "' codec can't decode " ++ place ++ ": " ++ f.reason.text

end Daihon.Encoding
