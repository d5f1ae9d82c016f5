/-!
# Message digests

The MD5 digest of a byte string, written in base 16, as entity tags carry it. The string is padded to whole blocks of
64 bytes, and each block is mixed into a state of four words in 64 steps.
-/

namespace BucketClient.Digest

/-- The state of the digest: four words of 32 bits. -/
structure State where
  a : UInt32
  b : UInt32
  c : UInt32
  d : UInt32

/-- The state before the first block. -/
def start : State := ⟨0x67452301, 0xefcdab89, 0x98badcfe, 0x10325476⟩

/-- How far each step rotates: four amounts in turn for each quarter of the steps. -/
def rotations : Array UInt32 :=
  #[7, 12, 17, 22, 5, 9, 14, 20, 4, 11, 16, 23, 6, 10, 15, 21]

/-- The constant of each step: the whole part of 2 ^ 32 times the absolute sine of the step's number. -/
def sines : Array UInt32 :=
  #[
    0xd76aa478, 0xe8c7b756, 0x242070db, 0xc1bdceee, 0xf57c0faf, 0x4787c62a, 0xa8304613, 0xfd469501,
    0x698098d8, 0x8b44f7af, 0xffff5bb1, 0x895cd7be, 0x6b901122, 0xfd987193, 0xa679438e, 0x49b40821,
    0xf61e2562, 0xc040b340, 0x265e5a51, 0xe9b6c7aa, 0xd62f105d, 0x02441453, 0xd8a1e681, 0xe7d3fbc8,
    0x21e1cde6, 0xc33707d6, 0xf4d50d87, 0x455a14ed, 0xa9e3e905, 0xfcefa3f8, 0x676f02d9, 0x8d2a4c8a,
    0xfffa3942, 0x8771f681, 0x6d9d6122, 0xfde5380c, 0xa4beea44, 0x4bdecfa9, 0xf6bb4b60, 0xbebfbc70,
    0x289b7ec6, 0xeaa127fa, 0xd4ef3085, 0x04881d05, 0xd9d4d039, 0xe6db99e5, 0x1fa27cf8, 0xc4ac5665,
    0xf4292244, 0x432aff97, 0xab9423a7, 0xfc93a039, 0x655b59c3, 0x8f0ccc92, 0xffeff47d, 0x85845dd1,
    0x6fa87e4f, 0xfe2ce6e0, 0xa3014314, 0x4e0811a1, 0xf7537e82, 0xbd3af235, 0x2ad7d2bb, 0xeb86d391
  ]

/-- A number as four or more bytes, the lowest first. -/
def littleEndian (width n : Nat) : List UInt8 :=
  (List.range width).map fun i => UInt8.ofNat (n >>> (8 * i))

/-- What is appended to a string of `size` bytes: a one bit, zero bits up to a block's end, and the length in bits. -/
def padding (size : Nat) : ByteArray :=
  let zeros := (119 - size % 64) % 64
  ⟨(0x80 :: List.replicate zeros 0 ++ littleEndian 8 (8 * size % Nat.pow 2 64)).toArray⟩

/-- The word of 32 bits at a position, the lowest byte first. -/
def word (data : ByteArray) (position : Nat) : UInt32 :=
  (data.get! position).toUInt32 ||| ((data.get! (position + 1)).toUInt32 <<< 8) |||
    ((data.get! (position + 2)).toUInt32 <<< 16) ||| ((data.get! (position + 3)).toUInt32 <<< 24)

/-- One of the 64 steps on the block at a position. -/
def step (data : ByteArray) (block i : Nat) (s : State) : State :=
  let (mixed, index) :=
    if i < 16 then ((s.b &&& s.c) ||| (~~~s.b &&& s.d), i)
    else if i < 32 then ((s.d &&& s.b) ||| (~~~s.d &&& s.c), (5 * i + 1) % 16)
    else if i < 48 then (s.b ^^^ s.c ^^^ s.d, (3 * i + 5) % 16)
    else (s.c ^^^ (s.b ||| ~~~s.d), 7 * i % 16)
  let sum := s.a + mixed + sines[i]! + word data (block + 4 * index)
  let amount := rotations[i / 16 * 4 + i % 4]!
  ⟨s.d, s.b + ((sum <<< amount) ||| (sum >>> (32 - amount))), s.b, s.c⟩

/-- The state after the block at a position. -/
def mix (data : ByteArray) (block : Nat) (s : State) : State :=
  let t := Nat.fold 64 (fun i _ t => step data block i t) s
  ⟨s.a + t.a, s.b + t.b, s.c + t.c, s.d + t.d⟩

/-- A byte in base 16. -/
def hexByte (byte : UInt8) : List Char :=
  [Nat.digitChar (byte.toNat / 16), Nat.digitChar (byte.toNat % 16)]

/-- The digest of a byte string, in base 16. -/
def hex (data : ByteArray) : String :=
  let padded := data ++ padding data.size
  let s := Nat.fold (padded.size / 64) (fun i _ s => mix padded (64 * i) s) start
  let bytes := [s.a, s.b, s.c, s.d].flatMap fun w => littleEndian 4 w.toNat
  String.ofList (bytes.flatMap hexByte)

end BucketClient.Digest
