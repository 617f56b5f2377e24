/-!
SHA-256: the message is padded to whole blocks of sixty-four bytes, each
block is spread over sixty-four words, and the words are folded into the
eight chaining words.
-/
namespace PluginHost.Digest.Sha256

/-- The round constants: fractional parts of the cube roots of the first sixty-four primes. -/
def roundConstants : Array UInt32 :=
  #[0x428a2f98, 0x71374491, 0xb5c0fbcf, 0xe9b5dba5, 0x3956c25b, 0x59f111f1, 0x923f82a4,
    0xab1c5ed5, 0xd807aa98, 0x12835b01, 0x243185be, 0x550c7dc3, 0x72be5d74, 0x80deb1fe,
    0x9bdc06a7, 0xc19bf174, 0xe49b69c1, 0xefbe4786, 0x0fc19dc6, 0x240ca1cc, 0x2de92c6f,
    0x4a7484aa, 0x5cb0a9dc, 0x76f988da, 0x983e5152, 0xa831c66d, 0xb00327c8, 0xbf597fc7,
    0xc6e00bf3, 0xd5a79147, 0x06ca6351, 0x14292967, 0x27b70a85, 0x2e1b2138, 0x4d2c6dfc,
    0x53380d13, 0x650a7354, 0x766a0abb, 0x81c2c92e, 0x92722c85, 0xa2bfe8a1, 0xa81a664b,
    0xc24b8b70, 0xc76c51a3, 0xd192e819, 0xd6990624, 0xf40e3585, 0x106aa070, 0x19a4c116,
    0x1e376c08, 0x2748774c, 0x34b0bcb5, 0x391c0cb3, 0x4ed8aa4a, 0x5b9cca4f, 0x682e6ff3,
    0x748f82ee, 0x78a5636f, 0x84c87814, 0x8cc70208, 0x90befffa, 0xa4506ceb, 0xbef9a3f7,
    0xc67178f2]

/-- The eight chaining words. -/
structure Chain where
  a : UInt32
  b : UInt32
  c : UInt32
  d : UInt32
  e : UInt32
  f : UInt32
  g : UInt32
  h : UInt32
  deriving DecidableEq, Repr

/-- The starting words: fractional parts of the square roots of the first eight primes. -/
def start : Chain :=
  ⟨0x6a09e667, 0xbb67ae85, 0x3c6ef372, 0xa54ff53a,
   0x510e527f, 0x9b05688c, 0x1f83d9ab, 0x5be0cd19⟩

/-- Rotation to the right. -/
def rotate (x : UInt32) (n : UInt32) : UInt32 :=
  (x >>> n) ||| (x <<< (32 - n))

/-- The byte at a position, zero past the end. -/
def byteAt (message : ByteArray) (i : Nat) : UInt32 :=
  if h : i < message.size then message[i].toUInt32 else 0

/-- Four bytes read with the highest first. -/
def wordAt (message : ByteArray) (i : Nat) : UInt32 :=
  (byteAt message i <<< 24) ||| (byteAt message (i + 1) <<< 16) |||
    (byteAt message (i + 2) <<< 8) ||| byteAt message (i + 3)

/-- How many zero bytes stand between the closing bit and the length. -/
def paddingZeros (size : Nat) : Nat :=
  (119 - size % 64) % 64

/-- The message, a closing one bit, zeros, and the length in bits over eight bytes. -/
def pad (message : ByteArray) : ByteArray :=
  let zeros := ByteArray.mk (Array.replicate (paddingZeros message.size) 0)
  let bits := message.size * 8
  let length := ByteArray.mk (Array.ofFn fun i : Fin 8 => UInt8.ofNat (bits >>> (56 - 8 * i.val)))
  message.push 0x80 ++ zeros ++ length

/-- The word `n` places before the end of a growing schedule. -/
def back (words : Array UInt32) (n : Nat) : UInt32 :=
  words.getD (words.size - n) 0

/-- The next word of the schedule from the ones before it. -/
def extend (words : Array UInt32) : Array UInt32 :=
  let x := back words 15
  let y := back words 2
  let small := rotate x 7 ^^^ rotate x 18 ^^^ (x >>> 3)
  let large := rotate y 17 ^^^ rotate y 19 ^^^ (y >>> 10)
  words.push (back words 16 + small + back words 7 + large)

/-- The sixty-four words a block is spread over. -/
def schedule (message : ByteArray) (offset : Nat) : Array UInt32 :=
  let first := Array.ofFn fun i : Fin 16 => wordAt message (offset + 4 * i.val)
  Nat.repeat extend 48 first

/-- One round: mix one scheduled word and its constant into the chaining words. -/
def round (s : Chain) (word constant : UInt32) : Chain :=
  let sum1 := rotate s.e 6 ^^^ rotate s.e 11 ^^^ rotate s.e 25
  let choice := (s.e &&& s.f) ^^^ ((s.e ^^^ 0xffffffff) &&& s.g)
  let temp1 := s.h + sum1 + choice + constant + word
  let sum0 := rotate s.a 2 ^^^ rotate s.a 13 ^^^ rotate s.a 22
  let majority := (s.a &&& s.b) ^^^ (s.a &&& s.c) ^^^ (s.b &&& s.c)
  ⟨temp1 + (sum0 + majority), s.a, s.b, s.c, s.d + temp1, s.e, s.f, s.g⟩

/-- Fold one block into the chaining words. -/
def compress (message : ByteArray) (s : Chain) (block : Nat) : Chain :=
  let words := schedule message (64 * block)
  let r := (words.zip roundConstants).foldl (fun r p => round r p.1 p.2) s
  ⟨s.a + r.a, s.b + r.b, s.c + r.c, s.d + r.d, s.e + r.e, s.f + r.f, s.g + r.g, s.h + r.h⟩

/-- The digest as its eight words. -/
def digest (message : ByteArray) : List UInt32 :=
  let padded := pad message
  let s := (List.range (padded.size / 64)).foldl (compress padded) start
  [s.a, s.b, s.c, s.d, s.e, s.f, s.g, s.h]

/-- One word as eight lower-case hexadecimal digits. -/
def hexWord (w : UInt32) : List Char :=
  (List.range 8).map fun i => Nat.digitChar ((w.toNat >>> (28 - 4 * i)) % 16)

/-- The digest as sixty-four lower-case hexadecimal digits. -/
def hex (message : ByteArray) : String :=
  String.ofList ((digest message).flatMap hexWord)

end PluginHost.Digest.Sha256
