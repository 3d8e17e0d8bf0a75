import Phrasebook.Text.Encoding.Treatment
/-!
The encodings of all characters in units of one, two and four bytes. Surrogates are no characters
and have no encoding of their own.
-/
namespace Phrasebook.Encoding

/-- Which byte of a unit comes first. -/
inductive ByteOrder where
  | little | big
  deriving DecidableEq

namespace Utf8

private def bytesOf (c : Code) : List Nat :=
  if c < 0x80 then [c]
  else if c < 0x800 then [0xc0 + c / 64, 0x80 + c % 64]
  else if c < 0x10000 then [0xe0 + c / 4096, 0x80 + c / 64 % 64, 0x80 + c % 64]
  else [0xf0 + c / 262144, 0x80 + c / 4096 % 64, 0x80 + c / 64 % 64, 0x80 + c % 64]

/-- The character at the front, or the number of bytes that are no beginning of one. -/
private def decodeFirst (b : Nat) (rest : List Nat) : Except Nat (Code × Nat) :=
  let tail (low high : Nat) : Option Nat → Option Nat
    | some x => if low ≤ x ∧ x ≤ high then some (x % 64) else none
    | none => none
  if b < 0x80 then .ok (b, 1)
  else if b < 0xc2 then .error 1
  else if b < 0xe0 then
    match tail 0x80 0xbf rest[0]? with
    | some x => .ok (b % 32 * 64 + x, 2)
    | none => .error 1
  else if b < 0xf0 then
    match tail (if b = 0xe0 then 0xa0 else 0x80) (if b = 0xed then 0x9f else 0xbf) rest[0]? with
    | none => .error 1
    | some x => match tail 0x80 0xbf rest[1]? with
      | none => .error 2
      | some y => .ok (b % 16 * 4096 + x * 64 + y, 3)
  else if b < 0xf5 then
    match tail (if b = 0xf0 then 0x90 else 0x80) (if b = 0xf4 then 0x8f else 0xbf) rest[0]? with
    | none => .error 1
    | some x => match tail 0x80 0xbf rest[1]? with
      | none => .error 2
      | some y => match tail 0x80 0xbf rest[2]? with
        | none => .error 3
        | some z => .ok (b % 8 * 262144 + x * 4096 + y * 64 + z, 4)
  else .error 1

private def decodeSurrogate : List Nat → Option (Code × Nat)
  | 0xed :: x :: y :: _ =>
    if 0xa0 ≤ x ∧ x ≤ 0xbf ∧ 0x80 ≤ y ∧ y ≤ 0xbf then
      some (0xd000 + x % 64 * 64 + y % 64, 3)
    else none
  | _ => none

/-- One to four bytes to the character. -/
def codec : Codec where
  encode c := if isSurrogate c then none else some (bytesOf c)
  decode
    | b :: rest => (decodeFirst b rest).map fun r => ([r.1], r.2)
    | [] => .ok ([], 0)
  encodeSurrogate c := if isSurrogate c then some (bytesOf c) else none
  decodeSurrogate := decodeSurrogate

end Utf8

/-- The number that two bytes write, and the bytes of a number. -/
private def pairOf (order : ByteOrder) (a b : Nat) : Nat :=
  match order with
  | .little => b * 256 + a
  | .big => a * 256 + b

private def pairBytes (order : ByteOrder) (n : Nat) : List Nat :=
  match order with
  | .little => [n % 256, n / 256]
  | .big => [n / 256, n % 256]

namespace Utf16

private def decodeFirst (order : ByteOrder) : List Nat → Except Nat (Text × Nat)
  | a :: b :: rest =>
    let high := pairOf order a b
    if !isSurrogate high then .ok ([high], 2)
    else if isLowSurrogate high then .error 2
    else match rest with
      | c :: d :: _ =>
        let low := pairOf order c d
        if isLowSurrogate low then .ok ([ofPair high low], 4) else .error 2
      | rest => .error (2 + rest.length)
  | bs => .error bs.length

private def decodeSurrogate (order : ByteOrder) : List Nat → Option (Code × Nat)
  | a :: b :: _ =>
    let c := pairOf order a b
    if isSurrogate c then some (c, 2) else none
  | _ => none

/-- One unit of two bytes to the character, or two for a pair of surrogates. -/
def codec (order : ByteOrder) : Codec where
  unit := 2
  encode c :=
    if isSurrogate c then none
    else if c < 0x10000 then some (pairBytes order c)
    else some (pairBytes order (highOf c) ++ pairBytes order (lowOf c))
  decode := decodeFirst order
  encodeSurrogate c := if isSurrogate c then some (pairBytes order c) else none
  decodeSurrogate := decodeSurrogate order

end Utf16

namespace Utf32

private def quadOf (order : ByteOrder) (a b c d : Nat) : Nat :=
  match order with
  | .little => pairOf order c d * 65536 + pairOf order a b
  | .big => pairOf order a b * 65536 + pairOf order c d

private def quadBytes (order : ByteOrder) (n : Nat) : List Nat :=
  match order with
  | .little => pairBytes order (n % 65536) ++ pairBytes order (n / 65536)
  | .big => pairBytes order (n / 65536) ++ pairBytes order (n % 65536)

private def decodeFirst (order : ByteOrder) : List Nat → Except Nat (Text × Nat)
  | a :: b :: c :: d :: _ =>
    let n := quadOf order a b c d
    if isSurrogate n ∨ 0x10ffff < n then .error 4 else .ok ([n], 4)
  | bs => .error bs.length

private def decodeSurrogate (order : ByteOrder) : List Nat → Option (Code × Nat)
  | a :: b :: c :: d :: _ =>
    let n := quadOf order a b c d
    if isSurrogate n then some (n, 4) else none
  | _ => none

/-- One unit of four bytes to the character. -/
def codec (order : ByteOrder) : Codec where
  unit := 4
  encode c := if isSurrogate c then none else some (quadBytes order c)
  decode := decodeFirst order
  encodeSurrogate c := if isSurrogate c then some (quadBytes order c) else none
  decodeSurrogate := decodeSurrogate order

end Utf32

end Phrasebook.Encoding
