/-!
Text as a list of code points. A code point is a number, so that lone surrogates, which no `Char`
can hold, are ordinary elements. Searching and cutting work on any text, also on the empty one; the
twenty-nine blank characters can be trimmed.
-/
namespace Phrasebook

abbrev Code := Nat

abbrev Text := List Code

namespace Text

def ofString (s : String) : Text := s.toList.map Char.toNat

end Text

instance : Coe String Text := ⟨Text.ofString⟩

instance : Coe Char Code := ⟨Char.toNat⟩

namespace Text

def ofNat (n : Nat) : Text := (Nat.toDigits 10 n).map Char.toNat

def ofInt : Int → Text
  | .ofNat n => ofNat n
  | .negSucc n => '-'.toNat :: ofNat (n + 1)

/-- The numeral of `n` in a base up to sixteen, with lower-case letters. -/
def ofNatBase (base n : Nat) : Text := (Nat.toDigits base n).map Char.toNat

def upperAscii (t : Text) : Text := t.map fun c => if 97 ≤ c ∧ c ≤ 122 then c - 32 else c

def lowerAscii (t : Text) : Text := t.map fun c => if 65 ≤ c ∧ c ≤ 90 then c + 32 else c

def joinWith (sep : Text) (parts : List Text) : Text := (parts.intersperse sep).flatten

/-- The pieces between the occurrences of one separator; always one more than there are
separators. -/
def splitAt (sep : Code) : Text → List Text
  | [] => [[]]
  | c :: rest =>
    if c = sep then [] :: splitAt sep rest
    else match splitAt sep rest with
      | [] => [[c]]
      | piece :: pieces => (c :: piece) :: pieces

def findFrom (needle : Text) (at_ : Nat) : Text → Option Nat
  | [] => if needle.isEmpty then some at_ else none
  | c :: rest =>
    if needle.isPrefixOf (c :: rest) then some at_ else findFrom needle (at_ + 1) rest

def position? (needle t : Text) : Option Nat := findFrom needle 0 t

def isInfix (needle t : Text) : Bool := (position? needle t).isSome

private def cutAtFrom (needle : Text) (before : Text) : Text → Option (Text × Text)
  | [] => if needle.isEmpty then some (before.reverse, []) else none
  | c :: rest =>
    if needle.isPrefixOf (c :: rest) then
      some (before.reverse, (c :: rest).drop needle.length)
    else cutAtFrom needle (c :: before) rest

/-- The text before and after the first occurrence of `needle`. -/
def cut? (needle t : Text) : Option (Text × Text) := cutAtFrom needle [] t

def replaceFrom (old new : Text) (out : Text) : Nat → Nat → Text → Text
  | 0, _, t => out.reverse ++ t
  | _ + 1, 0, t => out.reverse ++ t
  | _ + 1, _ + 1, [] => out.reverse
  | fuel + 1, left + 1, c :: rest =>
    if old.isPrefixOf (c :: rest) then
      replaceFrom old new (new.reverse ++ out) fuel left ((c :: rest).drop old.length)
    else replaceFrom old new (c :: out) fuel (left + 1) rest

/-- Replaces the first `limit` occurrences of the non-empty text `old`, from the left. -/
def replaceSome (old new : Text) (limit : Nat) (t : Text) : Text :=
  replaceFrom old new [] (t.length + 1) limit t

def isPrefix (start t : Text) : Bool := start.isPrefixOf t

def isSuffix (ending t : Text) : Bool := ending.isSuffixOf t

def trim (p : Code → Bool) (t : Text) : Text :=
  ((t.dropWhile p).reverse.dropWhile p).reverse

def trimLeft (p : Code → Bool) (t : Text) : Text := t.dropWhile p

def trimRight (p : Code → Bool) (t : Text) : Text := (t.reverse.dropWhile p).reverse

/-- Order by code point, a proper beginning first. -/
def less : Text → Text → Bool
  | [], [] => false
  | [], _ :: _ => true
  | _ :: _, [] => false
  | a :: s, b :: t => if a < b then true else if b < a then false else less s t

def blankRanges : List (Nat × Nat) :=
  [(9, 13), (28, 32), (133, 133), (160, 160), (5760, 5760), (8192, 8202), (8232, 8233),
   (8239, 8239), (8287, 8287), (12288, 12288)]

def isBlank (c : Code) : Bool := blankRanges.any fun r => r.1 ≤ c && c ≤ r.2

def strip (t : Text) : Text := trim isBlank t

def isLineEnd (c : Code) : Bool :=
  (10 ≤ c && c ≤ 13) || (28 ≤ c && c ≤ 30) || c == 133 || c == 8232 || c == 8233

end Text
end Phrasebook
