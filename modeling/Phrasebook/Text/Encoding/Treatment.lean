import Phrasebook.Text.Quoted
/-!
What is done about characters that a charset lacks, and about bytes that stand for nothing in it.
-/
namespace Phrasebook

/-- Treatments of what cannot be mapped: fail, leave it out, put a mark in its place, write its
number, or let surrogates stand for single bytes or for themselves. -/
inductive Treatment where
  | strict | ignore | replace | backslash | markup | escapeBytes | passSurrogates
  deriving DecidableEq

namespace Treatment

def ofName? (name : Text) : Option Treatment :=
  if name = "strict" then some .strict else if name = "ignore" then some .ignore
  else if name = "replace" then some .replace
  else if name = "backslashreplace" then some .backslash
  else if name = "xmlcharrefreplace" then some .markup
  else if name = "surrogateescape" then some .escapeBytes
  else if name = "surrogatepass" then some .passSurrogates
  else none

end Treatment

namespace Encoding

/-- Why a mapping fails: something has no counterpart, the treatment asked for is unknown or serves
the other direction only, or the charset maps nothing at all. -/
inductive Failure where
  | unmapped | unknownTreatment | unfitTreatment | unusable
  deriving DecidableEq

/-- How a charset maps single characters. `encode` gives the bytes of a character, of which there
are always a multiple of `unit`; `decode` reads what stands at the front of some bytes and says how
many it took, or how many of them stand for nothing. The other two map surrogates, which are no
characters. -/
structure Codec where
  unit : Nat := 1
  encode : Code → Option (List Nat)
  decode : List Nat → Except Nat (Text × Nat)
  encodeSurrogate : Code → Option (List Nat) := fun _ => none
  decodeSurrogate : List Nat → Option (Code × Nat) := fun _ => none

def isSurrogate (c : Code) : Bool := 0xd800 ≤ c && c ≤ 0xdfff

/-- The half of a pair that comes first, and the one that comes second. -/
def isHighSurrogate (c : Code) : Bool := 0xd800 ≤ c && c ≤ 0xdbff

def isLowSurrogate (c : Code) : Bool := 0xdc00 ≤ c && c ≤ 0xdfff

def ofPair (high low : Code) : Code := 0x10000 + (high - 0xd800) * 1024 + (low - 0xdc00)

def highOf (c : Code) : Code := 0xd800 + (c - 0x10000) / 1024

def lowOf (c : Code) : Code := 0xdc00 + (c - 0x10000) % 1024

/-- What stands for a character without bytes: other characters, or bytes. -/
private inductive Substitute where
  | chars (t : Text)
  | raw (bs : List Nat)

private def substitute? (codec : Codec) (treatment : Treatment) (c : Code) : Option Substitute :=
  match treatment with
  | .strict => none
  | .ignore => some (.chars [])
  | .replace => some (.chars [63])
  | .backslash => some (.chars (Text.Quoted.numberEscape c))
  | .markup => some (.chars ("&#" ++ Text.ofNat c ++ ";"))
  | .escapeBytes => if 0xdc80 ≤ c ∧ c ≤ 0xdcff then some (.raw [c - 0xdc00]) else none
  | .passSurrogates => (codec.encodeSurrogate c).map .raw

/-- The bytes of a character that has some of its own or gets some by the treatment. -/
private def bytesOf (codec : Codec) (treatment : Option Treatment) (c : Code) :
    Except Failure (List Nat) :=
  match codec.encode c, treatment with
  | some bs, _ => .ok bs
  | none, none => .error .unknownTreatment
  | none, some treatment => match substitute? codec treatment c with
    | some (.chars t) => match t.mapM codec.encode with
      | some bs => .ok bs.flatten
      | none => .error .unmapped
    | some (.raw bs) => if bs.length % codec.unit = 0 then .ok bs else .error .unmapped
    | none => .error .unmapped

def encodeWith (codec : Codec) (treatment : Option Treatment) (t : Text) :
    Except Failure (List Nat) := do
  pure (← t.mapM (bytesOf codec treatment)).flatten

/-- What stands for the first `n` of some bytes, and how many of them are dealt with by it. -/
def recover (pass : List Nat → Option (Code × Nat)) (treatment : Option Treatment)
    (bs : List Nat) (n : Nat) : Except Failure (Text × Nat) :=
  match treatment with
  | none => .error .unknownTreatment
  | some .strict => .error .unmapped
  | some .ignore => .ok ([], n)
  | some .replace => .ok ([0xfffd], n)
  | some .backslash => .ok ((bs.take n).flatMap Text.Quoted.numberEscape, n)
  | some .markup => .error .unfitTreatment
  | some .escapeBytes =>
    let high := ((bs.take n).take 4).takeWhile (128 ≤ ·)
    if high.isEmpty then .error .unmapped else .ok (high.map (0xdc00 + ·), high.length)
  | some .passSurrogates => match pass bs with
    | some (c, n) => .ok ([c], n)
    | none => .error .unmapped

private def decodeFrom (codec : Codec) (treatment : Option Treatment) (out : Text) :
    Nat → List Nat → Except Failure Text
  | 0, _ => .ok out.reverse
  | _ + 1, [] => .ok out.reverse
  | fuel + 1, bs => do
    let (t, n) ← match codec.decode bs with
      | .ok r => pure r
      | .error n => recover codec.decodeSurrogate treatment bs n
    decodeFrom codec treatment (t.reverse ++ out) fuel (bs.drop n)

def decodeWith (codec : Codec) (treatment : Option Treatment) (bs : List Nat) :
    Except Failure Text :=
  decodeFrom codec treatment [] bs.length bs

end Encoding
end Phrasebook
