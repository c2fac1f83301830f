import Daihon.Encoding.Fault

/-!
# UTF-16

Two bytes make a code unit, in either order, and a high and a low surrogate unit together make one
character.
-/

namespace Daihon.Encoding.Utf16

/-- Which byte of a code unit comes first. -/
inductive Order where
  | little
  | big
  deriving DecidableEq, Repr

def Order.codecName : Order → String
  | .little => "utf-16-le"
  | .big => "utf-16-be"

def Order.unit : Order → UInt8 → UInt8 → Nat
  | .little, a, b => a.toNat + 256 * b.toNat
  | .big, a, b => 256 * a.toNat + b.toNat

def decodeFrom (order : Order) (pos : Nat) : List UInt8 → Except Fault (List Char)
  | [] => .ok []
  | [a] => .error ⟨order.codecName, a, pos, pos, .truncated⟩
  | a :: b :: bs =>
    let u := order.unit a b
    if 0xD800 ≤ u && u ≤ 0xDBFF then
      match bs with
      | c :: d :: rest =>
        let v := order.unit c d
        if 0xDC00 ≤ v && v ≤ 0xDFFF then
          (decodeFrom order (pos + 4) rest).map
            (Char.ofNat (0x10000 + (u - 0xD800) * 0x400 + (v - 0xDC00)) :: ·)
        else .error ⟨order.codecName, a, pos, pos + 1, .loneHighSurrogate⟩
      | rest => .error ⟨order.codecName, a, pos, pos + 1 + rest.length, .endOfData⟩
    else if 0xDC00 ≤ u && u ≤ 0xDFFF then
      .error ⟨order.codecName, a, pos, pos + 1, .loneLowSurrogate⟩
    else (decodeFrom order (pos + 2) bs).map (Char.ofNat u :: ·)

end Daihon.Encoding.Utf16
