import FleetPlan.Text.Quoted

/-!
The digest SHA-1 of a sequence of bytes.

The message is padded to blocks of sixty-four bytes, and each block of eighty rounds is added to
five words of thirty-two bits.
-/
namespace FleetPlan.Digest.Sha1

/-- The five words of a digest. -/
structure Words where
  a : UInt32
  b : UInt32
  c : UInt32
  d : UInt32
  e : UInt32
  deriving DecidableEq, Repr

def start : Words := ⟨0x67452301, 0xEFCDAB89, 0x98BADCFE, 0x10325476, 0xC3D2E1F0⟩

def rotate (w : UInt32) (n : UInt32) : UInt32 := (w <<< n) ||| (w >>> (32 - n))

def bigEndian (width n : Nat) : List UInt8 :=
  (List.range width).reverse.map fun i => UInt8.ofNat (n / Nat.pow 256 i % 256)

/-- The message, a one bit, zeros up to a whole number of blocks, and the message's length in
bits. -/
def pad (message : List UInt8) : List UInt8 :=
  let zeros := (119 - message.length % 64) % 64
  message ++ 0x80 :: List.replicate zeros 0 ++ bigEndian 8 (8 * message.length)

/-- Words of four bytes. -/
def wordsOf : List UInt8 → List UInt32
  | a :: b :: c :: d :: rest =>
    ((((a.toUInt32 <<< 8) ||| b.toUInt32) <<< 8 ||| c.toUInt32) <<< 8 ||| d.toUInt32) ::
      wordsOf rest
  | _ => []

/-- Extends a reversed schedule: each word comes from those 3, 8, 14 and 16 places back. -/
def extend : Nat → List UInt32 → List UInt32
  | 0, ws => ws
  | n + 1, ws =>
    let w := rotate (ws.getD 2 0 ^^^ ws.getD 7 0 ^^^ ws.getD 13 0 ^^^ ws.getD 15 0) 1
    extend n (w :: ws)

def schedule (block : List UInt32) : List UInt32 := (extend 64 block.reverse).reverse

def mix (round : Nat) (s : Words) : UInt32 :=
  if round < 20 then ((s.b &&& s.c) ||| (~~~s.b &&& s.d)) + 0x5A827999
  else if round < 40 then (s.b ^^^ s.c ^^^ s.d) + 0x6ED9EBA1
  else if round < 60 then ((s.b &&& s.c) ||| (s.b &&& s.d) ||| (s.c &&& s.d)) + 0x8F1BBCDC
  else (s.b ^^^ s.c ^^^ s.d) + 0xCA62C1D6

def rounds : Nat → Words → List UInt32 → Words
  | _, s, [] => s
  | round, s, w :: ws =>
    rounds (round + 1) ⟨rotate s.a 5 + mix round s + s.e + w, s.a, rotate s.b 30, s.c, s.d⟩ ws

def addBlock (s : Words) (block : List UInt32) : Words :=
  let t := rounds 0 s (schedule block)
  ⟨s.a + t.a, s.b + t.b, s.c + t.c, s.d + t.d, s.e + t.e⟩

/-- Adds blocks of sixteen words, at most `fuel` of them. -/
def addBlocks : Nat → Words → List UInt32 → Words
  | 0, s, _ => s
  | fuel + 1, s, ws => addBlocks fuel (addBlock s (ws.take 16)) (ws.drop 16)

def digest (message : List UInt8) : Words :=
  let ws := wordsOf (pad message)
  addBlocks (ws.length / 16) start ws

def Words.hex (s : Words) : List Char :=
  [s.a, s.b, s.c, s.d, s.e].flatMap fun w => Text.hex 8 w.toNat

/-- The digest of a text's UTF-8 bytes, in hexadecimal digits. -/
def hexOfText (s : String) : List Char := (digest s.toUTF8.data.toList).hex

end FleetPlan.Digest.Sha1
