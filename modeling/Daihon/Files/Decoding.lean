import Daihon.Failure

/-!
# Files in named encodings

The text of a file in an encoding that is asked for by name: one of the common encodings, or else one that
the platform knows.
-/

namespace Daihon

/-- Why the bytes of a file give no text. -/
inductive DecodingFault where
  /-- The encoding cannot be used for them. -/
  | unusable (f : Failure)
  /-- They spell no text, as the text says. -/
  | undecodable (text : String)

/-- The text that bytes spell in one of the common encodings. -/
def Encoding.Codec.read (codec : Encoding.Codec) (bytes : List UInt8) :
    Except DecodingFault (List Char) :=
  match codec.decode bytes with
  | .ok chars => .ok chars
  | .error .unmarked => .error (.unusable .unmarked)
  | .error (.faulty fault) => .error (.undecodable fault.text)

/-- The text that bytes spell in an encoding that only the platform may know. -/
def Platform.read (platform : Platform) (encoding : String) (bytes : List UInt8) :
    Except DecodingFault (List Char) :=
  match platform.codec? encoding with
  | none => .error (.unusable (.unknownEncoding encoding))
  | some decode =>
    match decode bytes with
    | .ok chars => .ok chars
    | .error (.undecodable text) => .error (.undecodable text)
    | .error (.unusable name text) => .error (.unusable (.raised name text .error))

/-- The text that bytes spell in the encoding of the given name. -/
def decodeNamed (platform : Platform) (encoding : String) (bytes : List UInt8) :
    Except DecodingFault (List Char) :=
  match Encoding.Codec.ofName? encoding with
  | some codec => codec.read bytes
  | none =>
    if Encoding.hasNull encoding then .error (.unusable .brokenEncodingName)
    else platform.read encoding bytes

end Daihon
