/-!
The SHA-1 digest.
-/

namespace ChatRelay.Digest

/-- The state of a digest: five words. -/
structure Sha1 where
  a : UInt32
  b : UInt32
  c : UInt32
  d : UInt32
  e : UInt32
  deriving DecidableEq, Repr

namespace Sha1

def start : Sha1 := ⟨0x67452301, 0xEFCDAB89, 0x98BADCFE, 0x10325476, 0xC3D2E1F0⟩

def rotate (n : UInt32) (x : UInt32) : UInt32 :=
  (x <<< n) ||| (x >>> (32 - n))

def bigEndian : (count : Nat) → Nat → List UInt8
  | 0, _ => []
  | count + 1, n => bigEndian count (n / 256) ++ [(n % 256).toUInt8]

/-- A message filled up to whole blocks of 64 bytes: a mark, zeros, and the length in bits. -/
def pad (message : List UInt8) : List UInt8 :=
  message ++ [0x80] ++ List.replicate ((119 - message.length % 64) % 64) 0 ++
    bigEndian 8 (8 * message.length)

def words : List UInt8 → List UInt32
  | a :: b :: c :: d :: rest =>
    ((a.toUInt32 <<< 24) ||| (b.toUInt32 <<< 16) ||| (c.toUInt32 <<< 8) ||| d.toUInt32) ::
      words rest
  | _ => []

/-- The 80 words of a block: its own sixteen, each later one mixed from four before it. -/
def schedule (block : List UInt32) : List UInt32 :=
  ((List.range 64).foldl (fun ws i =>
    let word (k : Nat) := ws.getD (i + k) 0
    ws.push (rotate 1 (word 13 ^^^ word 8 ^^^ word 2 ^^^ word 0))) block.toArray).toList

def mix (round : Nat) (s : Sha1) : UInt32 × UInt32 :=
  if round < 20 then ((s.b &&& s.c) ||| (~~~s.b &&& s.d), 0x5A827999)
  else if round < 40 then (s.b ^^^ s.c ^^^ s.d, 0x6ED9EBA1)
  else if round < 60 then ((s.b &&& s.c) ||| (s.b &&& s.d) ||| (s.c &&& s.d), 0x8F1BBCDC)
  else (s.b ^^^ s.c ^^^ s.d, 0xCA62C1D6)

def round (s : Sha1) (step : UInt32 × Nat) : Sha1 :=
  let (f, k) := mix step.2 s
  ⟨rotate 5 s.a + f + s.e + k + step.1, s.a, rotate 30 s.b, s.c, s.d⟩

def absorb (s : Sha1) (block : List UInt32) : Sha1 :=
  let t := (schedule block).zipIdx.foldl round s
  ⟨s.a + t.a, s.b + t.b, s.c + t.c, s.d + t.d, s.e + t.e⟩

def absorbAll : (count : Nat) → Sha1 → List UInt32 → Sha1
  | 0, s, _ => s
  | count + 1, s, ws => absorbAll count (s.absorb (ws.take 16)) (ws.drop 16)

def bytes (s : Sha1) : List UInt8 :=
  [s.a, s.b, s.c, s.d, s.e].flatMap fun w => bigEndian 4 w.toNat

end Sha1

def sha1 (message : List UInt8) : List UInt8 :=
  let ws := Sha1.words (Sha1.pad message)
  (Sha1.absorbAll (ws.length / 16) .start ws).bytes

end ChatRelay.Digest
