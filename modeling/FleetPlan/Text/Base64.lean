/-!
Base 64: three bytes as four characters of an alphabet of sixty-four.

Decoding gives back the bytes that were encoded, and the length of an encoding is four thirds of the
number of bytes, rounded up to a multiple of four.
-/
namespace FleetPlan.Text.Base64

def alphabet : List Char :=
  "ABCDEFGHIJKLMNOPQRSTUVWXYZabcdefghijklmnopqrstuvwxyz0123456789+/".toList

def symbol (n : Nat) : Char := alphabet.getD n 'A'

/-- The number of six bits that a character stands for. -/
def value? (c : Char) : Option Nat := alphabet.idxOf? c

/-- Groups of three bytes; a shorter last group is padded to four characters. -/
def encode : List UInt8 → List Char
  | [] => []
  | [a] => [symbol (a.toNat / 4), symbol (a.toNat % 4 * 16), '=', '=']
  | [a, b] =>
    [symbol (a.toNat / 4), symbol (a.toNat % 4 * 16 + b.toNat / 16),
      symbol (b.toNat % 16 * 4), '=']
  | a :: b :: c :: rest =>
    symbol (a.toNat / 4) :: symbol (a.toNat % 4 * 16 + b.toNat / 16) ::
      symbol (b.toNat % 16 * 4 + c.toNat / 64) :: symbol (c.toNat % 64) :: encode rest

/-- The bytes of a last group, its unused bits being zero. -/
def decodeLast? : Char → Char → Char → Char → Option (List UInt8)
  | p, q, '=', '=' => do
    let p ← value? p
    let q ← value? q
    if q % 16 = 0 then some [UInt8.ofNat (p * 4 + q / 16)] else none
  | p, q, r, '=' => do
    let p ← value? p
    let q ← value? q
    let r ← value? r
    if r % 4 = 0 then
      some [UInt8.ofNat (p * 4 + q / 16), UInt8.ofNat (q % 16 * 16 + r / 4)]
    else none
  | p, q, r, s => do
    let p ← value? p
    let q ← value? q
    let r ← value? r
    let s ← value? s
    some [UInt8.ofNat (p * 4 + q / 16), UInt8.ofNat (q % 16 * 16 + r / 4),
      UInt8.ofNat (r % 4 * 64 + s)]

/-- The bytes of an encoding; only its last group may be padded. -/
def decode? : List Char → Option (List UInt8)
  | [] => some []
  | [p, q, r, s] => decodeLast? p q r s
  | p :: q :: r :: s :: rest => do
    let p ← value? p
    let q ← value? q
    let r ← value? r
    let s ← value? s
    let bytes ← decode? rest
    some (UInt8.ofNat (p * 4 + q / 16) :: UInt8.ofNat (q % 16 * 16 + r / 4) ::
      UInt8.ofNat (r % 4 * 64 + s) :: bytes)
  | _ => none

def encodeText (s : String) : String := String.ofList (encode s.toUTF8.data.toList)

def decodeText? (s : String) : Option String := do
  let bytes ← decode? s.toList
  String.fromUTF8? ⟨bytes.toArray⟩

end FleetPlan.Text.Base64
