/-
# Negotiation.Md5 -- the MD5 digest

The 128 bit digest of a sequence of bytes. The bytes are padded to blocks of 64; a
block is sixteen little-endian words, and mixes into a state of four words in 64
steps, sixteen steps with each of four mixing functions.
-/

import Negotiation.Text.Hex

namespace Negotiation.Md5

/-! ## Tables -/

/-- The added constant of each step: the integer part of `2 ^ 32 * |sin (i + 1)|`. -/
def constants : List UInt32 :=
  [0xd76aa478, 0xe8c7b756, 0x242070db, 0xc1bdceee, 0xf57c0faf, 0x4787c62a, 0xa8304613, 0xfd469501,
   0x698098d8, 0x8b44f7af, 0xffff5bb1, 0x895cd7be, 0x6b901122, 0xfd987193, 0xa679438e, 0x49b40821,
   0xf61e2562, 0xc040b340, 0x265e5a51, 0xe9b6c7aa, 0xd62f105d, 0x02441453, 0xd8a1e681, 0xe7d3fbc8,
   0x21e1cde6, 0xc33707d6, 0xf4d50d87, 0x455a14ed, 0xa9e3e905, 0xfcefa3f8, 0x676f02d9, 0x8d2a4c8a,
   0xfffa3942, 0x8771f681, 0x6d9d6122, 0xfde5380c, 0xa4beea44, 0x4bdecfa9, 0xf6bb4b60, 0xbebfbc70,
   0x289b7ec6, 0xeaa127fa, 0xd4ef3085, 0x04881d05, 0xd9d4d039, 0xe6db99e5, 0x1fa27cf8, 0xc4ac5665,
   0xf4292244, 0x432aff97, 0xab9423a7, 0xfc93a039, 0x655b59c3, 0x8f0ccc92, 0xffeff47d, 0x85845dd1,
   0x6fa87e4f, 0xfe2ce6e0, 0xa3014314, 0x4e0811a1, 0xf7537e82, 0xbd3af235, 0x2ad7d2bb, 0xeb86d391]

/-- How far the steps of a round rotate, repeated four times in the round. -/
def rotations : Nat → List UInt32
  | 0 => [7, 12, 17, 22]
  | 1 => [5, 9, 14, 20]
  | 2 => [4, 11, 16, 23]
  | _ => [6, 10, 15, 21]

/-- The mixing function of a round. -/
def mix (round : Nat) (b c d : UInt32) : UInt32 :=
  match round with
  | 0 => (b &&& c) ||| (~~~b &&& d)
  | 1 => (d &&& b) ||| (~~~d &&& c)
  | 2 => b ^^^ c ^^^ d
  | _ => c ^^^ (b ||| ~~~d)

/-- The word of the block that a step uses. -/
def wordIndex (i : Nat) : Nat :=
  match i / 16 with
  | 0 => i
  | 1 => (5 * i + 1) % 16
  | 2 => (3 * i + 5) % 16
  | _ => 7 * i % 16

/-! ## Blocks -/

/-- The bytes of a number, the lowest first. -/
def littleEndian (size n : Nat) : List UInt8 :=
  (List.range size).map fun i => UInt8.ofNat ((n >>> (8 * i)) % 256)

/-- The number that bytes stand for, the lowest first. -/
def ofLittleEndian (bytes : List UInt8) : UInt32 :=
  bytes.foldr (fun b n => n <<< 8 ||| b.toUInt32) 0

/-- Pads a message with a one bit, zeros, and its length in bits, to whole blocks. -/
def pad (message : List UInt8) : List UInt8 :=
  message ++ [0x80] ++ List.replicate ((119 - message.length % 64) % 64) 0
    ++ littleEndian 8 (8 * message.length)

/-- The sixteen words of the block at a place. -/
def block (padded : List UInt8) (place : Nat) : Array UInt32 :=
  let bytes := (padded.drop (64 * place)).take 64
  ((List.range 16).map fun i => ofLittleEndian ((bytes.drop (4 * i)).take 4)).toArray

/-! ## Mixing -/

/-- The four words that the digest is made of. -/
structure State where
  /-- The word that the digest starts with. -/
  a : UInt32
  /-- The second word. -/
  b : UInt32
  /-- The third word. -/
  c : UInt32
  /-- The last word. -/
  d : UInt32

/-- The state before the first block. -/
def State.start : State :=
  ⟨0x67452301, 0xefcdab89, 0x98badcfe, 0x10325476⟩

/-- Rotates a word to the left. -/
def rotate (n amount : UInt32) : UInt32 :=
  n <<< amount ||| n >>> (32 - amount)

/-- One step of mixing a block into the state. -/
def step (words : Array UInt32) (s : State) (i : Nat) : State :=
  let sum := mix (i / 16) s.b s.c s.d + s.a + constants.getD i 0 + words.getD (wordIndex i) 0
  ⟨s.d, s.b + rotate sum ((rotations (i / 16)).getD (i % 4) 0), s.b, s.c⟩

/-- Mixes a block into the state. -/
def absorb (s : State) (words : Array UInt32) : State :=
  let t := (List.range 64).foldl (step words) s
  ⟨s.a + t.a, s.b + t.b, s.c + t.c, s.d + t.d⟩

/-- The digest of a sequence of bytes. -/
def digest (message : List UInt8) : List UInt8 :=
  let padded := pad message
  let s := (List.range (padded.length / 64)).foldl (fun s i => absorb s (block padded i)) .start
  [s.a, s.b, s.c, s.d].flatMap fun n => littleEndian 4 n.toNat

/-- The digest of a text, as hexadecimal digits. -/
def hexDigest (text : String) : String :=
  Hex.encode (digest text.toUTF8.data.toList)

example : hexDigest "abc" = "900150983cd24fb0d6963f7d28e17f72" := by decide +kernel

end Negotiation.Md5
