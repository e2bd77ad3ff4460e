import VirtualShell.Text.Hex

/-!
# SHA-1

The secure hash standard's digest of 160 bits, which names the objects of a version history.  The
message is padded to blocks of sixteen words, and each block is mixed into five words of state by
eighty rounds.

All arithmetic is on words of 32 bits and wraps, as the standard says.
-/

namespace VirtualShell.Digest.Sha1

/-- The five words of state. -/
structure State where
  a : UInt32
  b : UInt32
  c : UInt32
  d : UInt32
  e : UInt32
  deriving DecidableEq, Repr

/-- The state before the first block. -/
def State.initial : State := ⟨0x67452301, 0xEFCDAB89, 0x98BADCFE, 0x10325476, 0xC3D2E1F0⟩

/-- A word turned to the left. -/
def rotate (word : UInt32) (bits : UInt32) : UInt32 := word <<< bits ||| word >>> (32 - bits)

/-- The mixing function and the constant of a round. -/
def roundFunction (round : Nat) (s : State) : UInt32 × UInt32 :=
  if round < 20 then (s.b &&& s.c ||| ~~~s.b &&& s.d, 0x5A827999)
  else if round < 40 then (s.b ^^^ s.c ^^^ s.d, 0x6ED9EBA1)
  else if round < 60 then (s.b &&& s.c ||| s.b &&& s.d ||| s.c &&& s.d, 0x8F1BBCDC)
  else (s.b ^^^ s.c ^^^ s.d, 0xCA62C1D6)

/-- One round with its number and its word of the schedule. -/
def State.round (s : State) (step : UInt32 × Nat) : State :=
  let (mixed, constant) := roundFunction step.2 s
  ⟨rotate s.a 5 + mixed + s.e + constant + step.1, s.a, rotate s.b 30, s.c, s.d⟩

/-- The next `count` words of a schedule, given the sixteen latest words, the latest first. -/
def extendSchedule : Nat → List UInt32 → List UInt32
  | 0, _ => []
  | count + 1, recent =>
    let word := rotate
      (recent.getD 2 0 ^^^ recent.getD 7 0 ^^^ recent.getD 13 0 ^^^ recent.getD 15 0) 1
    word :: extendSchedule count (word :: recent.take 15)

/-- The eighty words that a block makes. -/
def schedule (block : List UInt32) : List UInt32 := block ++ extendSchedule 64 block.reverse

/-- Mixes a block into the state. -/
def State.absorb (s : State) (block : List UInt32) : State :=
  let mixed := (schedule block).zipIdx.foldl State.round s
  ⟨s.a + mixed.a, s.b + mixed.b, s.c + mixed.c, s.d + mixed.d, s.e + mixed.e⟩

/-- The bytes of a number, the highest first. -/
def bigEndian (count n : Nat) : List UInt8 :=
  (List.range count).reverse.map fun place => (n / Nat.pow 256 place % 256).toUInt8

/-- A message with its padding: a one bit, zeros, and the length in bits, up to whole blocks. -/
def pad (message : List UInt8) : List UInt8 :=
  let zeros := (119 - message.length % 64) % 64
  message ++ 0x80 :: List.replicate zeros 0 ++ bigEndian 8 (message.length * 8)

/-- The parts of a list of a given length, at most `count` of them; a shorter rest is dropped. -/
def chunks {α : Type} (size : Nat) : Nat → List α → List (List α)
  | 0, _ => []
  | count + 1, list =>
    if list.length < size then [] else list.take size :: chunks size count (list.drop size)

/-- The word that four bytes make, the highest first. -/
def wordOf (bytes : List UInt8) : UInt32 :=
  bytes.foldl (fun word byte => word <<< 8 ||| byte.toUInt32) 0

/-- The blocks of a padded message. -/
def blocks (padded : List UInt8) : List (List UInt32) :=
  chunks 16 (padded.length / 64) ((chunks 4 (padded.length / 4) padded).map wordOf)

/-- The twenty bytes of a message's digest. -/
def digest (message : List UInt8) : List UInt8 :=
  let s := (blocks (pad message)).foldl State.absorb State.initial
  [s.a, s.b, s.c, s.d, s.e].flatMap fun word => bigEndian 4 word.toNat

/-- The digest of a message in hexadecimal. -/
def hexDigest (message : List UInt8) : String :=
  String.join ((digest message).map Text.lowerHexByte)

end VirtualShell.Digest.Sha1
