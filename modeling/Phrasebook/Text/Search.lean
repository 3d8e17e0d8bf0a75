import Phrasebook.Text.Basic
/-!
Searching between bounds, and cutting into pieces. Bounds count from the end when they are negative
and are then clipped to the text, the upper one at both ends and the lower one at zero only. A text is
cut at blanks, at a separator or at the ends of lines; a limit bounds the number of cuts.
-/
namespace Phrasebook.Text

/-- A stretch of a text: where it starts, and its characters. There is none when the start lies
beyond the end. -/
structure Stretch where
  start : Nat
  body : Text

private def fromEnd (length : Int) (i : Int) : Int :=
  if i < 0 then max 0 (i + length) else i

def stretch? (t : Text) (lower upper : Option Int) : Option Stretch :=
  let n : Int := t.length
  let last := min n (fromEnd n (upper.getD n))
  let first := fromEnd n (lower.getD 0)
  if first ≤ last then some ⟨first.toNat, (t.drop first.toNat).take (last - first).toNat⟩
  else none

/-- The first position of `needle` inside the bounds. -/
def find? (needle t : Text) (lower upper : Option Int) : Option Nat := do
  let s ← stretch? t lower upper
  (position? needle s.body).map (s.start + ·)

/-- The last position of `needle` inside the bounds. -/
def findLast? (needle t : Text) (lower upper : Option Int) : Option Nat := do
  let s ← stretch? t lower upper
  (position? needle.reverse s.body.reverse).map fun p =>
    s.start + s.body.length - p - needle.length

private def countFrom (needle : Text) (n : Nat) : Nat → Text → Nat
  | 0, _ => n
  | fuel + 1, t => match cut? needle t with
    | some (_, rest) => countFrom needle (n + 1) fuel rest
    | none => n

/-- The number of occurrences that do not overlap; the empty text occurs at every position. -/
def count (needle t : Text) (lower upper : Option Int) : Nat :=
  match stretch? t lower upper with
  | some s =>
    if needle.isEmpty then s.body.length + 1 else countFrom needle 0 (s.body.length + 1) s.body
  | none => 0

def startsWith (start t : Text) (lower upper : Option Int) : Bool :=
  match stretch? t lower upper with
  | some s => isPrefix start s.body
  | none => false

def endsWith (ending t : Text) (lower upper : Option Int) : Bool :=
  match stretch? t lower upper with
  | some s => isSuffix ending s.body
  | none => false

/-- Replaces up to `limit` occurrences, all without one. The empty text stands before every
character and at the end. -/
def replace (old new : Text) (limit : Option Nat) (t : Text) : Text :=
  let n := limit.getD (t.length + 1)
  if old.isEmpty then
    let fronts := t.zipIdx.map fun e => if e.2 < n then new ++ [e.1] else [e.1]
    fronts.flatten ++ if t.length < n then new else []
  else replaceSome old new n t

private def wordsFrom (isBlank : Code → Bool) (out : List Text) : Nat → Nat → Text → List Text
  | 0, _, _ => out.reverse
  | fuel + 1, limit, t =>
    match t.dropWhile isBlank with
    | [] => out.reverse
    | t =>
      match limit with
      | 0 => (t :: out).reverse
      | limit + 1 =>
        wordsFrom isBlank (t.takeWhile (!isBlank ·) :: out) fuel limit
          (t.dropWhile (!isBlank ·))

/-- The runs without blanks; past the limit the rest stays whole, its blanks in front aside. -/
def words (isBlank : Code → Bool) (limit : Option Nat) (t : Text) : List Text :=
  wordsFrom isBlank [] (t.length + 1) (limit.getD (t.length + 1)) t

/-- As `words`, cutting from the end. -/
def wordsFromEnd (isBlank : Code → Bool) (limit : Option Nat) (t : Text) : List Text :=
  ((words isBlank limit t.reverse).map List.reverse).reverse

private def cutsFrom (sep : Text) (out : List Text) : Nat → Text → List Text
  | 0, t => (t :: out).reverse
  | limit + 1, t => match cut? sep t with
    | some (before, after) => cutsFrom sep (before :: out) limit after
    | none => (t :: out).reverse

/-- The pieces between the occurrences of a separator that is not empty. -/
def pieces (sep : Text) (limit : Option Nat) (t : Text) : List Text :=
  cutsFrom sep [] (limit.getD (t.length + 1)) t

/-- As `pieces`, cutting from the end. -/
def piecesFromEnd (sep : Text) (limit : Option Nat) (t : Text) : List Text :=
  ((pieces sep.reverse limit t.reverse).map List.reverse).reverse

private def linesFrom (isEnd : Code → Bool) (keep : Bool) (out : List Text) (line : Text) :
    Text → List Text
  | [] => (if line.isEmpty then out else line.reverse :: out).reverse
  | 13 :: 10 :: rest =>
    linesFrom isEnd keep ((if keep then 10 :: 13 :: line else line).reverse :: out) [] rest
  | c :: rest =>
    if isEnd c then
      linesFrom isEnd keep ((if keep then c :: line else line).reverse :: out) [] rest
    else linesFrom isEnd keep out (c :: line) rest

/-- The lines, with their ends if `keep`. -/
def lines (isEnd : Code → Bool) (keep : Bool) (t : Text) : List Text :=
  linesFrom isEnd keep [] [] t

/-- The text around the first occurrence of a separator; without one it is all in front. -/
def partition (sep t : Text) : Text × Text × Text :=
  match cut? sep t with
  | some (before, after) => (before, sep, after)
  | none => (t, [], [])

/-- The text around the last occurrence of a separator; without one it is all behind. -/
def partitionLast (sep t : Text) : Text × Text × Text :=
  match cut? sep.reverse t.reverse with
  | some (after, before) => (before.reverse, sep, after.reverse)
  | none => ([], [], t)

end Phrasebook.Text
