import Phrasebook.Text.Case
import Phrasebook.Text.Compose
import Phrasebook.Text.Encoding.Punycode
/-!
Domain names: labels between points, each in ASCII or, with a marking in front, as insertions into
ASCII. Labels are compared in lower case and composed.
-/
namespace Phrasebook.Encoding.Domain

private def marking : Text := "xn--"

/-- All characters that can stand for the point between labels. -/
private def isPoint (c : Code) : Bool := c == 46 || c == 0x3002 || c == 0xff0e || c == 0xff61

/-- Characters that labels are written without. -/
private def isDropped (c : Code) : Bool :=
  c == 0xad || c == 0x34f || c == 0x1806 || (0x180b ≤ c && c ≤ 0x180d)
    || (0x200b ≤ c && c ≤ 0x200d) || c == 0x2060 || (0xfe00 ≤ c && c ≤ 0xfe0f) || c == 0xfeff

private def lowered (c : Code) : Text :=
  if c = 0xdf then [115, 115] else if c = 0x3c2 then [0x3c3] else Text.lowerForm c

/-- The form in which labels are compared. -/
private def prepared (label : Text) : Text :=
  let folded := Text.nameForm ((label.filter fun c => !isDropped c).flatMap lowered)
  Text.nameForm (folded.flatMap lowered)

private def isAscii (t : Text) : Bool := t.all (· < 128)

/-- A label has one to sixty-three characters. -/
private def sized (label : Text) : Except Failure Text :=
  if 0 < label.length ∧ label.length < 64 then .ok label else .error .unusable

private def encodeLabel (label : Text) : Except Failure Text :=
  if isAscii label then sized label
  else
    let label := prepared label
    if isAscii label then sized label
    else if label.any isSurrogate || Text.isPrefix marking label then .error .unusable
    else sized (marking ++ Punycode.encode label)

private def joined (labels : List Text) (ending : Text) : Text :=
  Text.joinWith [46] labels ++ ending

/-- Takes the point at the end off some labels. -/
private def withoutLast (labels : List Text) : List Text × Text :=
  if labels.getLast? = some [] then (labels.dropLast, [46]) else (labels, [])

def encode (t : Text) : Except Failure (List Nat) :=
  if isAscii t then
    let labels := Text.splitAt 46 t
    let fits := labels.dropLast.all (fun l => 0 < l.length ∧ l.length < 64)
      && (labels.getLast?.getD []).length < 64
    if fits || t.isEmpty then .ok t else .error .unusable
  else do
    let (labels, ending) := withoutLast (t.splitOnP isPoint)
    pure (joined (← labels.mapM encodeLabel) ending)

private def decodeLabel (label : Text) : Except Failure Text := do
  let ascii ← if isAscii label then pure label else throw .unusable
  if !Text.isPrefix marking ascii then return ascii
  let code := ascii.drop marking.length
  let digits := (code.reverse.takeWhile (· != 45)).reverse
  match Punycode.decode false (code.take (code.length - digits.length - 1)) digits with
  | none => throw .unusable
  | some t => if (← encodeLabel t) = Text.lowerAscii ascii then pure t else throw .unusable

def decode (bs : List Nat) : Except Failure Text := do
  if isAscii bs && !Text.isInfix marking bs then return bs
  let (labels, ending) := withoutLast (Text.splitAt 46 bs)
  pure (joined (← labels.mapM decodeLabel) ending)

end Phrasebook.Encoding.Domain
