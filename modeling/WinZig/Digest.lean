/-!
# Digest of a text

A 64-bit digest of a sequence of bytes, with seed zero. Thirty-two bytes at a time feed four
accumulators; the accumulators are merged, the length is added, and what remains is folded in by
eights, by four and by ones. All arithmetic is modulo 2^64.

The digest names the content of a source; it is not a defence against forgery.
-/

namespace WinZig.Digest

def prime1 : UInt64 := 0x9E3779B185EBCA87
def prime2 : UInt64 := 0xC2B2AE3D27D4EB4F
def prime3 : UInt64 := 0x165667B19E3779F9
def prime4 : UInt64 := 0x85EBCA77C2B2AE63
def prime5 : UInt64 := 0x27D4EB2F165667C5

/-- Rotation to the left by fewer than 64 bits. -/
def rotate (word count : UInt64) : UInt64 := (word <<< count) ||| (word >>> (64 - count))

/-- One word folded into an accumulator. -/
def round (accumulator word : UInt64) : UInt64 :=
  rotate (accumulator + word * prime2) 31 * prime1

/-- One accumulator merged into the digest. -/
def merge (digest accumulator : UInt64) : UInt64 :=
  (digest ^^^ round 0 accumulator) * prime1 + prime4

/-- The number whose bytes are given, least significant first. -/
def littleEndian (bytes : List UInt8) : UInt64 :=
  bytes.foldr (fun byte word => (word <<< 8) ||| byte.toUInt64) 0

/-- The four accumulators. -/
structure Lanes where
  first : UInt64
  second : UInt64
  third : UInt64
  fourth : UInt64

/-- The accumulators before any byte. -/
def Lanes.start : Lanes := ⟨prime1 + prime2, prime2, 0, 0 - prime1⟩

/-- Thirty-two bytes folded into the accumulators, eight into each. -/
def Lanes.absorb (lanes : Lanes) (stripe : List UInt8) : Lanes where
  first := round lanes.first (littleEndian (stripe.take 8))
  second := round lanes.second (littleEndian ((stripe.drop 8).take 8))
  third := round lanes.third (littleEndian ((stripe.drop 16).take 8))
  fourth := round lanes.fourth (littleEndian ((stripe.drop 24).take 8))

/-- The accumulators merged into one word. -/
def Lanes.merged (lanes : Lanes) : UInt64 :=
  let sum := rotate lanes.first 1 + rotate lanes.second 7 + rotate lanes.third 12 +
    rotate lanes.fourth 18
  merge (merge (merge (merge sum lanes.first) lanes.second) lanes.third) lanes.fourth

/-- Every full stripe of thirty-two bytes, and the bytes left over. -/
def stripes (lanes : Lanes) (bytes : List UInt8) : Lanes × List UInt8 :=
  if 32 ≤ bytes.length then stripes (lanes.absorb (bytes.take 32)) (bytes.drop 32)
  else (lanes, bytes)
termination_by bytes.length
decreasing_by simp only [List.length_drop]; omega

/-- The bytes left over folded in by eights, then by four, then one by one. -/
def tail (digest : UInt64) : List UInt8 → UInt64
  | a :: b :: c :: d :: e :: f :: g :: h :: rest =>
    let word := littleEndian [a, b, c, d, e, f, g, h]
    tail (rotate (digest ^^^ round 0 word) 27 * prime1 + prime4) rest
  | a :: b :: c :: d :: rest =>
    let word := littleEndian [a, b, c, d]
    tail (rotate (digest ^^^ word * prime1) 23 * prime2 + prime3) rest
  | a :: rest => tail (rotate (digest ^^^ a.toUInt64 * prime5) 11 * prime1) rest
  | [] => digest

/-- The last mixing of the bits. -/
def avalanche (digest : UInt64) : UInt64 :=
  let digest := (digest ^^^ (digest >>> 33)) * prime2
  let digest := (digest ^^^ (digest >>> 29)) * prime3
  digest ^^^ (digest >>> 32)

/-- The digest of a sequence of bytes. -/
def ofBytes (bytes : List UInt8) : UInt64 :=
  let start := if 32 ≤ bytes.length then (stripes .start bytes).1.merged else prime5
  avalanche (tail (start + bytes.length.toUInt64) (stripes .start bytes).2)

/-- The digest of a text, taken over its UTF-8 bytes. -/
def ofText (text : String) : UInt64 := ofBytes text.toUTF8.toList

/-- A digest in hexadecimal, without leading zeros. -/
def hex (digest : UInt64) : String := String.ofList (Nat.toDigits 16 digest.toNat)

/-- A digest in hexadecimal, sixteen digits. -/
def hex16 (digest : UInt64) : String :=
  let digits := Nat.toDigits 16 digest.toNat
  String.ofList (List.replicate (16 - digits.length) '0' ++ digits)

end WinZig.Digest
