import Edwards25519.Point
import Edwards25519.Scalar

/-!
# Encoded points, documents and text

A point is encoded in 32 bytes: the least number for `y` in the 255 lowest bits, and
the sign of `x` in bit 255 (`Edwards25519.Affine.compress`). The equation of the curve
gives back `x` up to its sign, because it is a quadratic equation for `x`:

  `x² = (y² - 1)/(d y² + 1)`.

Decoding (`Edwards25519.Encoding.decompress`) is strict, so that no point has two
encodings: it refuses a `y` that is not the least number of its residue, and the sign
1 for `x = 0`, besides any `y` for which there is no `x` at all.

An encoding is stored in a JSON document as a string. Two things about that are decided
outside of this library and are parameters here: which text stands for an array of bytes
(`Edwards25519.HexCodec`), and how a document holds a string
(`Edwards25519.JsonStrings`). What is done with them is to write the text of the 32 bytes,
and to read the 32 bytes of a text.

Values are shown to people in two ways: plainly, by their digits, and for diagnosis,
by the name of the type and the contents between brackets. Field elements and scalars are
numbers, and are written like numbers, the most significant digit first and always 64 of
them. An encoding is a string of bytes, and is written in the order of its bytes. Braces in
these forms surround the fields of a point.
-/

namespace Edwards25519

/-- The 32 bytes that stand for a point of the curve, or fail to. -/
structure Encoding where
  /-- The bytes, least significant first. -/
  bytes : Bytes32
deriving DecidableEq

namespace Encoding

/-- The encoding in a byte string of any length, if that length is 32. -/
def ofList? (bs : List UInt8) : Option Encoding :=
  (Bytes32.ofList? bs).map Encoding.mk

instance : Inhabited Encoding := ⟨⟨Bytes32.zero⟩⟩

/-- The encoding of the base point. -/
def generator : Encoding :=
  ⟨Bytes32.setFirst (Vector.replicate 32 0x66) 0x58⟩

/-- The encoding of the neutral element. -/
def identity : Encoding :=
  ⟨Bytes32.zero.setFirst 1⟩

end Encoding

/-! ### Decoding -/

/-- A candidate for the square root of `u/v`, namely `u v³ (u v⁷)^((p - 5)/8)`. If
there is a root at all, `v` times the square of the candidate is `u` or `-u`. -/
def Encoding.rootCandidate (u v : FieldElement) : FieldElement :=
  let v3 := v.square * v
  let v7 := v3.square * v
  (u * v7).rootPower * v3 * u

/-- What decoding computes for a given `y` on its way to `x`. -/
structure RootSearch where
  /-- The numerator of `x²`. -/
  numerator : FieldElement
  /-- The denominator of `x²`. -/
  denominator : FieldElement
  /-- The candidate for `x`. -/
  candidate : FieldElement
  /-- The first test: `v` times the square of the candidate is `u`. -/
  isRoot : Bool
  /-- The second test: `v` times the square of the candidate is `-u`. -/
  isFlippedRoot : Bool
  /-- The candidate, multiplied by the root of -1 if the first test fails. -/
  x : FieldElement

/-- The search for a given `y`. -/
def RootSearch.run (y : FieldElement) : RootSearch :=
  let yy := y.square
  let u := yy - .one
  let v := yy * .edwardsD + .one
  let r := Encoding.rootCandidate u v
  -- `v r²` is `u`, or `-u` if `r` is off by a square root of -1
  let vrr := v * r.square
  let isRoot := (vrr - u).isZero
  let isFlippedRoot := (vrr + u).isZero
  let x := select r (r * .sqrtMinusOne) (!isRoot)
  ⟨u, v, r, isRoot, isFlippedRoot, x⟩

/-- The point that an encoding stands for. There is none if the low 255 bits are
`fieldPrime` or more, if the curve has no point with this `y`, or if its `x` is zero
and the sign bit is set. -/
def Encoding.decompress (e : Encoding) : Option Affine :=
  let sign := e.bytes.topBit
  let yBytes := e.bytes.setTopBit false
  let y := FieldElement.ofBytes yBytes
  let s := RootSearch.run y
  if y.toBytes == yBytes && (s.isRoot || s.isFlippedRoot) && !(s.x.isZero && sign) then
    some ⟨s.x.negateIf (s.x.isNegative ^^ sign), y⟩
  else
    none

/-! ### Encoding -/

/-- The encoding of a point: the sign is put into the last byte beside the bits of `y`,
which leave bit 255 free. -/
def Affine.compress (P : Affine) : Encoding :=
  let bytes := P.y.toBytes
  ⟨bytes.setLast (bytes.last ||| (bif P.x.isNegative then 0x80 else 0))⟩

/-- The encoding of a point, at the price of one inversion. -/
def Extended.compress (P : Extended) : Encoding :=
  P.toAffine.compress

/-! ### Points as byte strings -/

/-- The bytes of the encoding of a point. -/
def encodePoint (P : Extended) : Bytes32 :=
  P.compress.bytes

/-- The point that 32 bytes encode, if they do. -/
def decodePoint (b : Bytes32) : Option Extended :=
  (Encoding.mk b).decompress.map Affine.toExtended

/-! ### JSON documents -/

/-- A way to write arrays of bytes as text. -/
structure HexCodec where
  /-- The text for an array. -/
  write {n : Nat} (bytes : Vector UInt8 n) : String
  /-- The array of `n` bytes in a text, if there is one. -/
  read? (n : Nat) (text : String) : Option (Vector UInt8 n)

/-- The strings among the documents of a format. -/
structure JsonStrings where
  /-- The document that is written for a string. -/
  write (text : String) : String
  /-- The content of a document, if it is a string. -/
  read? (document : String) : Option String

namespace Encoding

variable (codec : HexCodec) (json : JsonStrings)

/-- The JSON document of the encoding. -/
def toJson (e : Encoding) : String :=
  json.write (codec.write e.bytes)

/-- The encoding in a JSON document, if there is one. -/
def ofJson? (document : String) : Option Encoding := do
  let text ← json.read? document
  let bytes ← codec.read? 32 text
  return ⟨bytes⟩

end Encoding

/-! ### Numbers and encodings as text -/

/-- The number that represents the element, in 64 hexadecimal digits, the most
significant one first. -/
def FieldElement.toHex (c : Hex.LetterCase) (a : FieldElement) : String :=
  Hex.text c a.toBytes.toList.reverse

/-- The element for diagnosis. -/
def FieldElement.debugText (a : FieldElement) : String :=
  "FieldElement(" ++ a.toHex .lower ++ ")"

/-- The scalar for diagnosis, in 64 hexadecimal digits, the most significant one
first. -/
def Scalar.debugText (s : Scalar) : String :=
  "Scalar(" ++ Hex.text .lower s.toBytes.toList.reverse ++ ")"

/-- The bytes of the encoding in their order, in hexadecimal digits. -/
def Encoding.toHex (c : Hex.LetterCase) (e : Encoding) : String :=
  Hex.text c e.bytes.toList

/-- The encoding for diagnosis: its bytes as decimal numbers. -/
def Encoding.debugText (e : Encoding) : String :=
  "CompressedEdwardsY([" ++ ", ".intercalate (e.bytes.toList.map fun b => toString b.toNat) ++ "])"

/-! ### Points as text -/

/-- Named fields between braces, separated by commas. -/
def braced (fields : List (String × String)) : String :=
  "\x7b " ++ ", ".intercalate (fields.map fun (name, text) => name ++ ": " ++ text) ++ " \x7d"

/-- A point for diagnosis: the name of its form, and each coordinate with its name. -/
def debugPoint (form : String) (coordinates : List (String × FieldElement)) : String :=
  form ++ " " ++ braced (coordinates.map fun (name, a) => (name, a.debugText))

/-- The coordinates of the point with their names. -/
def Extended.toText (P : Extended) : String :=
  braced <| [("X", P.X), ("Y", P.Y), ("Z", P.Z), ("T", P.T)].map fun (name, a) =>
    (name, a.toHex .lower)

/-- The point for diagnosis. -/
def Affine.debugText (P : Affine) : String :=
  debugPoint "AffinePoint" [("x", P.x), ("y", P.y)]

/-- The point for diagnosis. -/
def Extended.debugText (P : Extended) : String :=
  debugPoint "EdwardsPoint" [("X", P.X), ("Y", P.Y), ("Z", P.Z), ("T", P.T)]

/-- The point for diagnosis. -/
def Projective.debugText (P : Projective) : String :=
  debugPoint "ProjectivePoint" [("X", P.X), ("Y", P.Y), ("Z", P.Z)]

/-- The point for diagnosis. -/
def Completed.debugText (P : Completed) : String :=
  debugPoint "CompletedPoint" [("X", P.X), ("Y", P.Y), ("Z", P.Z), ("T", P.T)]

/-- The point for diagnosis. -/
def Cached.debugText (P : Cached) : String :=
  debugPoint "CachedPoint"
    [("Y_plus_X", P.YplusX), ("Y_minus_X", P.YminusX), ("Z", P.Z), ("T2d", P.T2d)]

/-- The point for diagnosis. -/
def Precomputed.debugText (P : Precomputed) : String :=
  debugPoint "PrecomputedPoint"
    [("y_plus_x", P.yPlusX), ("y_minus_x", P.yMinusX), ("xy2d", P.xy2d)]

end Edwards25519
