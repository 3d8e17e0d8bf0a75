import Phrasebook.Text.Charset
import Phrasebook.Text.Encoding.Domain
import Phrasebook.Text.Encoding.Escaped
import Phrasebook.Text.Encoding.Seven
/-!
Encodings of texts as bytes, and of bytes as texts. Not every text has an encoding, and not every run
of bytes is one; a treatment says what becomes of what has none.
-/
namespace Phrasebook.Encoding

/-- A charset whose first characters are bytes. -/
private def narrow (size : Nat) : Codec where
  encode c := if c < size then some [c] else none
  decode
    | b :: _ => if b < size then .ok ([b], 1) else .error 1
    | [] => .ok ([], 0)

/-- Stands on a page for bytes without a character. -/
private def noCharacter : Code := 0xfffe

private def lastIndexOf? (c : Code) (chars : Text) : Option Nat :=
  (chars.reverse.idxOf? c).map fun i => chars.length - 1 - i

/-- Characters of a page. Of several bytes for one character the last is written. -/
private def paged (chars : Text) : Codec where
  encode c := if c = noCharacter then none else (lastIndexOf? c chars).map ([·])
  decode
    | b :: _ => match chars[b]? with
      | some c => if c = noCharacter then .error 1 else .ok ([c], 1)
      | none => .error 1
    | [] => .ok ([], 0)

private def mark8 : List Nat := [0xef, 0xbb, 0xbf]

private def mark16 (order : ByteOrder) : List Nat :=
  match order with
  | .little => [0xff, 0xfe]
  | .big => [0xfe, 0xff]

private def mark32 (order : ByteOrder) : List Nat :=
  match order with
  | .little => [0xff, 0xfe, 0, 0]
  | .big => [0, 0, 0xfe, 0xff]

/-- The byte order that a mark in front shows, and what follows the mark. Without one it is that of
small numbers first. -/
private def orderOf (mark : ByteOrder → List Nat) (bs : List Nat) : ByteOrder × List Nat :=
  if (mark .big).isPrefixOf bs then (.big, bs.drop (mark .big).length)
  else if (mark .little).isPrefixOf bs then (.little, bs.drop (mark .little).length)
  else (.little, bs)

private def escapedCodec (isRaw : Bool) : Codec := if isRaw then Escaped.rawCodec else Escaped.codec

private def encodeNumbers (charset : Charset) (treatment : Option Treatment) (t : Text) :
    Except Failure (List Nat) :=
  match charset with
  | .ascii => encodeWith (narrow 128) treatment t
  | .latin1 => encodeWith (narrow 256) treatment t
  | .page chars => encodeWith (paged chars) treatment t
  | .utf7 => .ok (Utf7.encode t)
  | .utf8 isMarked =>
    (encodeWith Utf8.codec treatment t).map ((if isMarked then mark8 else []) ++ ·)
  | .utf16 (some order) => encodeWith (Utf16.codec order) treatment t
  | .utf16 none => (encodeWith (Utf16.codec .little) treatment t).map (mark16 .little ++ ·)
  | .utf32 (some order) => encodeWith (Utf32.codec order) treatment t
  | .utf32 none => (encodeWith (Utf32.codec .little) treatment t).map (mark32 .little ++ ·)
  | .escaped isRaw => encodeWith (escapedCodec isRaw) treatment t
  | .punycode => .ok (Punycode.encode t)
  | .domainName => if treatment = some .strict then Domain.encode t else .error .unusable
  | .unusable => .error .unusable

/-- The ASCII characters before the last minus sign stand for themselves. -/
private def decodePunycode (treatment : Option Treatment) (bs : List Nat) :
    Except Failure Text := do
  if treatment ≠ some .strict ∧ treatment ≠ some .ignore ∧ treatment ≠ some .replace then
    throw .unusable
  let code := (bs.reverse.takeWhile (· != 45)).reverse
  let base ← decodeWith (narrow 128) treatment (bs.take (bs.length - code.length - 1))
  let code ← decodeWith (narrow 128) (some .strict) code
  match Punycode.decode (treatment ≠ some .strict) base code with
  | some t => pure t
  | none => throw .unusable

private def decodeNumbers (charset : Charset) (treatment : Option Treatment) (bs : List Nat) :
    Except Failure Text :=
  match charset with
  | .ascii => decodeWith (narrow 128) treatment bs
  | .latin1 => decodeWith (narrow 256) treatment bs
  | .page chars => decodeWith (paged chars) treatment bs
  | .utf7 => Utf7.decode treatment bs
  | .utf8 isMarked =>
    decodeWith Utf8.codec treatment (if isMarked && mark8.isPrefixOf bs then bs.drop 3 else bs)
  | .utf16 (some order) => decodeWith (Utf16.codec order) treatment bs
  | .utf16 none =>
    let (order, bs) := orderOf mark16 bs
    decodeWith (Utf16.codec order) treatment bs
  | .utf32 (some order) => decodeWith (Utf32.codec order) treatment bs
  | .utf32 none =>
    let (order, bs) := orderOf mark32 bs
    decodeWith (Utf32.codec order) treatment bs
  | .escaped isRaw => decodeWith (escapedCodec isRaw) treatment bs
  | .punycode => decodePunycode treatment bs
  | .domainName => if treatment = some .strict then Domain.decode bs else .error .unusable
  | .unusable => .error .unusable

def encode (charset : Charset) (treatment : Option Treatment) (t : Text) :
    Except Failure (List UInt8) :=
  (encodeNumbers charset treatment t).map (·.map Nat.toUInt8)

def decode (charset : Charset) (treatment : Option Treatment) (bs : List UInt8) :
    Except Failure Text :=
  decodeNumbers charset treatment (bs.map (·.toNat))

end Phrasebook.Encoding
