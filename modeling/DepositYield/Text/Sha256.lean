/-!
# SHA-256

The digest of a text is the digest of its UTF-8 bytes.
-/

namespace DepositYield.Text.Sha256

/-- The words that the digest starts from. -/
def initialState : Array UInt32 :=
  #[0x6a09e667, 0xbb67ae85, 0x3c6ef372, 0xa54ff53a, 0x510e527f, 0x9b05688c, 0x1f83d9ab, 0x5be0cd19]

/-- The constants of the sixty-four rounds. -/
def roundConstants : Array UInt32 :=
  #[0x428a2f98, 0x71374491, 0xb5c0fbcf, 0xe9b5dba5, 0x3956c25b, 0x59f111f1, 0x923f82a4, 0xab1c5ed5,
    0xd807aa98, 0x12835b01, 0x243185be, 0x550c7dc3, 0x72be5d74, 0x80deb1fe, 0x9bdc06a7, 0xc19bf174,
    0xe49b69c1, 0xefbe4786, 0x0fc19dc6, 0x240ca1cc, 0x2de92c6f, 0x4a7484aa, 0x5cb0a9dc, 0x76f988da,
    0x983e5152, 0xa831c66d, 0xb00327c8, 0xbf597fc7, 0xc6e00bf3, 0xd5a79147, 0x06ca6351, 0x14292967,
    0x27b70a85, 0x2e1b2138, 0x4d2c6dfc, 0x53380d13, 0x650a7354, 0x766a0abb, 0x81c2c92e, 0x92722c85,
    0xa2bfe8a1, 0xa81a664b, 0xc24b8b70, 0xc76c51a3, 0xd192e819, 0xd6990624, 0xf40e3585, 0x106aa070,
    0x19a4c116, 0x1e376c08, 0x2748774c, 0x34b0bcb5, 0x391c0cb3, 0x4ed8aa4a, 0x5b9cca4f, 0x682e6ff3,
    0x748f82ee, 0x78a5636f, 0x84c87814, 0x8cc70208, 0x90befffa, 0xa4506ceb, 0xbef9a3f7, 0xc67178f2]

/-- Rotate a word to the right. -/
def rotateRight (word : UInt32) (places : UInt32) : UInt32 :=
  (word >>> places) ||| (word <<< (32 - places))

/-- A word of an array, zero beyond its end. -/
def wordAt (words : Array UInt32) (position : Nat) : UInt32 :=
  words[position]?.getD 0

/-- The message with its closing bit, zeros, and its length in bits, so that it
fills whole blocks of sixty-four bytes. -/
def pad (message : List UInt8) : List UInt8 :=
  let length := message.length
  let zeros := (119 - length % 64) % 64
  let lengthBytes := (List.range 8).map fun position =>
    UInt8.ofNat (8 * length / Nat.pow 256 (7 - position))
  message ++ 0x80 :: List.replicate zeros 0 ++ lengthBytes

/-- The word of four bytes, the most significant one first. -/
def wordOfBytes (bytes : List UInt8) : UInt32 :=
  bytes.foldl (fun word byte => (word <<< 8) ||| byte.toUInt32) 0

/-- Split a list into pieces of the given positive size. -/
def pieces {α : Type} (size : Nat) (items : List α) : List (List α) :=
  (List.range (items.length / size)).map fun position =>
    (items.drop (size * position)).take size

/-- The next word of a message schedule. -/
def extendSchedule (words : Array UInt32) (position : Nat) : Array UInt32 :=
  let early := wordAt words (position + 1)
  let late := wordAt words (position + 14)
  let first := rotateRight early 7 ^^^ rotateRight early 18 ^^^ (early >>> 3)
  let second := rotateRight late 17 ^^^ rotateRight late 19 ^^^ (late >>> 10)
  words.push (wordAt words position + first + wordAt words (position + 9) + second)

/-- The message schedule of a block. -/
def schedule (block : List UInt8) : Array UInt32 :=
  (List.range 48).foldl extendSchedule ((pieces 4 block).map wordOfBytes).toArray

/-- One round. -/
def round (words : Array UInt32) (state : Array UInt32) (position : Nat) : Array UInt32 :=
  let a := wordAt state 0
  let b := wordAt state 1
  let c := wordAt state 2
  let d := wordAt state 3
  let e := wordAt state 4
  let f := wordAt state 5
  let g := wordAt state 6
  let h := wordAt state 7
  let choice := (e &&& f) ^^^ (~~~e &&& g)
  let majority := (a &&& b) ^^^ (a &&& c) ^^^ (b &&& c)
  let first := h + (rotateRight e 6 ^^^ rotateRight e 11 ^^^ rotateRight e 25) + choice +
    wordAt roundConstants position + wordAt words position
  let second := (rotateRight a 2 ^^^ rotateRight a 13 ^^^ rotateRight a 22) + majority
  #[first + second, a, b, c, d + first, e, f, g]

/-- Take a block into the state. -/
def compress (state : Array UInt32) (block : List UInt8) : Array UInt32 :=
  let words := schedule block
  let final := (List.range 64).foldl (round words) state
  Array.zipWith (· + ·) state final

/-- The digest of a message, as eight words. -/
def digest (message : List UInt8) : Array UInt32 :=
  (pieces 64 (pad message)).foldl compress initialState

/-- A word in eight hexadecimal digits. -/
def wordText (word : UInt32) : String :=
  let digits := Nat.toDigits 16 word.toNat
  String.ofList (List.replicate (8 - digits.length) '0' ++ digits)

/-- The digest of a text in hexadecimal digits. -/
def hexDigest (text : String) : String :=
  String.join ((digest text.toUTF8.toList).toList.map wordText)

end DepositYield.Text.Sha256
