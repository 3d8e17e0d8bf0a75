import Phrasebook.Number.FloatText
import Phrasebook.Text.Class
import Phrasebook.Value.Show
/-!
Format specifications: fill and alignment, sign, `z`, `#`, `0`, width, grouping, precision and a
type letter, in this order and each of them optional.
-/
namespace Phrasebook

inductive Alignment where
  | left | right | center | padded
  deriving DecidableEq

/-- A specification. Width and precision may be written with zeros in front, which decimals do not
always take. -/
structure FormatSpec where
  fill : Option Code
  align : Option Alignment
  sign : Option Code
  positiveZero : Bool
  alternate : Bool
  zero : Bool
  width : Nat
  grouping : Option Code
  precision : Option Nat
  type : Option Code
  longWidth : Bool
  longPrecision : Bool

namespace FormatSpec

def alignment? (c : Code) : Option Alignment :=
  if c = 60 then some .left else if c = 62 then some .right
  else if c = 94 then some .center else if c = 61 then some .padded else none

/-- Fill and alignment at the front; any character before an alignment is a fill. -/
def alignmentOf (t : Text) : Option Code × Option Alignment × Text :=
  match t with
  | c :: d :: rest => match alignment? d with
    | some a => (some c, some a, rest)
    | none => match alignment? c with
      | some a => (none, some a, d :: rest)
      | none => (none, none, t)
  | [c] => match alignment? c with
    | some a => (none, some a, [])
    | none => (none, none, t)
  | [] => (none, none, [])

def oneOf (p : Code → Bool) : Text → Option Code × Text
  | c :: rest => if p c then (some c, rest) else (none, c :: rest)
  | [] => (none, [])

/-- Takes a decimal numeral in digits of any script off the front. -/
def numeral (t : Text) : Option Nat × Text :=
  (Text.decimalNumeral? (t.takeWhile Text.isDecimal), t.dropWhile Text.isDecimal)

/-- Whether a numeral at the front has a zero before other digits. -/
private def hasLeadingZero (t : Text) : Bool :=
  t.head? == some 48 && (t.drop 1).head?.any Text.isDecimal

/-- Commas and underscores group digits, one or the other. -/
def groupingOf (t : Text) : Option (Option Code × Text) :=
  match t with
  | 44 :: 95 :: _ | 95 :: 44 :: _ | 95 :: 95 :: _ => none
  | 44 :: rest => some (some 44, rest)
  | 95 :: rest => some (some 95, rest)
  | t => some (none, t)

/-- Types whose digits a comma can group. -/
private def groupsThousands (c : Code) : Bool :=
  ([100, 101, 69, 102, 70, 103, 71, 37] : List Code).contains c

/-- Types whose digits an underscore groups by four. -/
def groupsFours (c : Code) : Bool := ([98, 111, 120, 88] : List Code).contains c

def parse? (t : Text) : Option FormatSpec := do
  let (fill, align, t) := alignmentOf t
  let (sign, t) := oneOf (fun c => c == 32 || c == 43 || c == 45) t
  let (coerce, t) := oneOf (· == 122) t
  let (alternate, t) := oneOf (· == 35) t
  let (zero, t) := oneOf (· == 48) t
  let longWidth := t.head? == some 48
  let (width, t) := numeral t
  let (grouping, t) ← groupingOf t
  let (point, t) := oneOf (· == 46) t
  let longPrecision := hasLeadingZero t
  let (precision, t) := if point.isSome then numeral t else (none, t)
  if point.isSome && precision.isNone then none
  else match t with
    | [] | [_] =>
      some ⟨fill, align, sign, coerce.isSome, alternate.isSome, zero.isSome, width.getD 0,
        grouping, precision, t.head?, longWidth, longPrecision⟩
    | _ => none

def groupingFits (s : FormatSpec) (type : Option Code) : Bool :=
  match s.grouping, type with
  | none, _ | _, none => true
  | some g, some c => groupsThousands c || (g == 95 && groupsFours c)

def pad (fill : Code) (align : Alignment) (width : Nat) (t : Text) : Text :=
  let gap := width - t.length
  match align with
  | .left => t ++ List.replicate gap fill
  | .center => List.replicate (gap / 2) fill ++ t ++ List.replicate (gap - gap / 2) fill
  | _ => List.replicate gap fill ++ t

/-- Digits in groups from the right, with zeros in front up to a width that counts the separators.
`digits` is reversed, and so is the result. -/
private def groupFrom (sep : Code) (size : Nat) : Nat → Text → Nat → Text
  | 0, digits, _ => digits
  | fuel + 1, digits, width =>
    let n := min size (max (max digits.length width) 1)
    let group := digits.take n ++ List.replicate (n - digits.length) 48
    let rest := digits.drop n
    let width := width - n
    if rest.isEmpty && width = 0 then group
    else group ++ sep :: groupFrom sep size fuel rest (width - 1)

/-- The whole part of a number, grouped and filled with zeros to `width`. Where there are no digits
nothing is grouped. -/
def groupDigits (sep : Option Code) (size : Nat) (digits : Text) (width : Nat) : Text :=
  match sep with
  | none => List.replicate (width - digits.length) 48 ++ digits
  | some c =>
    if digits.isEmpty then List.replicate width 48
    else (groupFrom c size (digits.length + width + 1) digits.reverse width).reverse

def signText (s : FormatSpec) (negative : Bool) : Text :=
  if negative then [45]
  else match s.sign with
    | some 43 => [43]
    | some 32 => [32]
    | _ => []

/-- Lays out sign, radix mark and digits. Zeros from a zero fill stand between sign and digits and
are grouped with them; another fill stands there if the alignment asks for it. -/
def layOut (s : FormatSpec) (size : Nat) (negative : Bool) (mark whole tail : Text) : Text :=
  let head := s.signText negative ++ mark
  let align := s.align.getD (if s.zero then .padded else .right)
  let fill := s.fill.getD (if s.zero then 48 else 32)
  if align = .padded ∧ fill = 48 then
    head ++ groupDigits s.grouping size whole (s.width - head.length - tail.length) ++ tail
  else
    let body := groupDigits s.grouping size whole 0 ++ tail
    if align = .padded then head ++ pad fill .right (s.width - head.length) body
    else pad fill align s.width (head ++ body)

private def radixOf (c : Code) : Option (Nat × Text) :=
  if c = 98 then some (2, "0b") else if c = 111 then some (8, "0o")
  else if c = 120 then some (16, "0x") else if c = 88 then some (16, "0X")
  else none

def formatCharacter (s : FormatSpec) (n : Int) : Except Fault Text :=
  if s.sign.isSome || s.alternate then .error .value
  else if n < 0 ∨ 0x10ffff < n then .error (.unworded .overflow)
  else .ok (s.layOut 3 false [] [] [n.toNat])

private def isFloatType (c : Code) : Bool :=
  ([101, 69, 102, 70, 103, 71, 37] : List Code).contains c

/-- The layout that a type letter of doubles stands for. -/
def floatLayout (s : FormatSpec) : FloatLayout :=
  let digits := s.precision.getD 6
  match s.type with
  | none => match s.precision with
    | some p => .general p s.alternate true
    | none => .shortest s.alternate
  | some c =>
    if c = 101 ∨ c = 69 then .scientific digits s.alternate
    else if c = 102 ∨ c = 70 ∨ c = 37 then .fixed digits s.alternate
    else .general digits s.alternate false

private def isZeroText (t : NumberText) : Bool :=
  t.whole.all (· == 48) && t.fraction.all (fun c => c == 48 || c == 46)

/-- A double. A percentage is a hundred times the number. -/
def formatFloat (s : FormatSpec) (x : Float) : Except Fault Text :=
  match s.type with
  | some c =>
    if isFloatType c || c = 110 then
      if !s.groupingFits s.type then .error .value
      else
        let percent := c = 37
        let t := s.floatLayout.write (if percent then x * 100 else x)
        .ok (finish s (c = 69 ∨ c = 70 ∨ c = 71) percent t)
    else .error .value
  | none => .ok (finish s false false (s.floatLayout.write x))
where
  finish (s : FormatSpec) (capital percent : Bool) (t : NumberText) : Text :=
    let negative := t.negative && !(s.positiveZero && isZeroText t)
    let tail := t.fraction ++ t.suffix ++ if percent then [37] else []
    let (whole, tail) := if t.whole.all Text.isDecimal then (t.whole, tail)
      else ([], t.whole ++ tail)
    let (whole, tail) := if capital then (Text.upperAscii whole, Text.upperAscii tail)
      else (whole, tail)
    s.layOut 3 negative [] whole tail

def formatInt (s : FormatSpec) (n : Int) : Except Fault Text :=
  let type := s.type.getD 100
  if isFloatType type then do s.formatFloat (← Number.toFloat n)
  else if s.precision.isSome || s.positiveZero || !s.groupingFits (some type) then .error .value
  else if type = 99 then s.formatCharacter n
  else if type = 100 ∨ type = 110 then do
    pure (s.layOut 3 (n < 0) [] (← Number.intText n.natAbs) [])
  else match radixOf type with
    | some (base, mark) =>
      let digits := Text.ofNatBase base n.natAbs
      let digits := if type = 88 then Text.upperAscii digits else digits
      .ok (s.layOut 4 (n < 0) (if s.alternate then mark else []) digits [])
    | none => .error .value

/-- A text, cut to the precision. -/
def formatText (s : FormatSpec) (t : Text) : Except Fault Text :=
  if s.sign.isSome || s.positiveZero || s.alternate || s.grouping.isSome
    || s.align = some .padded || s.type.any (· != 115) then .error .value
  else
    let t := match s.precision with
      | some p => t.take p
      | none => t
    .ok (pad (s.fill.getD (if s.zero then 48 else 32)) (s.align.getD .left) s.width t)

/-- Both parts of a complex number, without padding. The imaginary part has a sign unless it stands
alone; parentheses hold the parts together when no type asks for another form. -/
def formatComplex (s : FormatSpec) (z : Complex) : Except Fault Text :=
  let isType := s.type.all fun c => (isFloatType c && c != 37) || c = 110
  if (s.zero && s.fill.isNone) || s.fill = some 48 || s.align = some .padded || !isType || !s.groupingFits s.type then
    .error .value
  else
    let alone := s.type.isNone && z.re == 0 && !Binary.isNegative z.re
    let part (x : Float) (sign : Option Code) : Text :=
      let t := match s.type, s.precision with
        | none, some p => (FloatLayout.general p s.alternate false).write x
        | none, none => (FloatLayout.shortest s.alternate).write x
        | some _, _ => s.floatLayout.write x
      let t := if s.type.isNone && t.fraction = [46, 48] then
          { t with fraction := if s.alternate then [46] else [] }
        else t
      formatFloat.finish { s with sign := sign, align := none, fill := none, width := 0 }
        (s.type.any fun c => c < 97) false t
    let body := (if alone then [] else part z.re s.sign)
      ++ part z.im (if alone then s.sign else some 43) ++ [106]
    let body := if s.type.isNone && !alone then 40 :: body ++ [41] else body
    .ok (pad (s.fill.getD 32) (s.align.getD .right) s.width body)

/-- The coefficient for another exponent, a half going to the even neighbour. -/
private def rescaled (coefficient : Nat) (exponent target : Int) : Nat :=
  if target ≤ exponent then coefficient * Nat.pow 10 (exponent - target).toNat
  else Places.fixed coefficient (Nat.pow 10 (target - exponent).toNat) 0

private def withDigits (count : Nat) (coefficient : Nat) (exponent : Int) : Nat × Int :=
  let length (n : Nat) : Int := (Text.ofNat n).length
  if coefficient = 0 then (0, exponent)
  else
    let target := exponent + length coefficient - count
    let n := rescaled coefficient exponent target
    if length n = count then (n, target) else (n / 10, target + 1)

/-- The digits of a decimal that a type and a precision ask for. Without a precision all digits
stay. -/
private def decimalDigits (s : FormatSpec) (type : Code) (coefficient : Nat) (exponent : Int) :
    Nat × Int :=
  match s.precision with
  | none => if type = 102 ∧ coefficient = 0 ∧ 0 < exponent then (0, 0) else (coefficient, exponent)
  | some p =>
    if type = 101 then withDigits (p + 1) coefficient exponent
    else if type = 102 then (rescaled coefficient exponent (-p), -p)
    else
      let p := max p 1
      if p < (Text.ofNat coefficient).length then withDigits p coefficient exponent
      else (coefficient, exponent)

/-- A finite decimal with the point after `place` digits. -/
private def decimalText (s : FormatSpec) (type : Code) (mark : Text) (negative : Bool)
    (coefficient : Nat) (exponent : Int) (tail : Text) : Text :=
  let digits := Text.ofNat coefficient
  let left := exponent + digits.length
  let place : Int :=
    if type = 101 then
      if coefficient = 0 then 1 - ((s.precision.getD 0 : Nat) : Int) else 1
    else if type = 102 then left
    else if exponent ≤ 0 ∧ -6 < left then left else 1
  let (whole, fraction) :=
    if place ≤ 0 then ([48], List.replicate (-place).toNat 48 ++ digits)
    else (digits.take place.toNat ++ List.replicate (place - digits.length).toNat 48,
      digits.drop place.toNat)
  let rest := left - place
  let power := if rest != 0 || type = 101 then
      mark ++ (if rest < 0 then 45 else 43) :: Text.ofNat rest.natAbs
    else []
  s.layOut 3 negative [] whole
    ((if fraction.isEmpty && !s.alternate then [] else 46 :: fraction) ++ power ++ tail)

/-- A decimal. Its own digits stay unless a precision asks for others. -/
def formatDecimal (s : FormatSpec) (d : Decimal) : Except Fault Text :=
  let type := s.type.getD 71
  if !(isFloatType type || type = 110) || s.grouping = some 95
    || (s.zero && s.align.isSome) || (type = 110 && s.grouping.isSome)
    || s.longWidth || (s.longPrecision && (s.alternate || s.positiveZero)) then .error .value
  else match d with
    | .finite negative coefficient exponent =>
      let percent := type = 37
      let shape : Code := if type = 101 ∨ type = 69 then 101
        else if type = 102 ∨ type = 70 ∨ percent then 102 else 103
      let exponent := if percent then exponent + 2 else exponent
      let (coefficient, exponent) := decimalDigits s shape coefficient exponent
      let negative := negative && !(s.positiveZero && coefficient = 0)
      .ok (decimalText s shape (if type < 97 then [69] else [101]) negative coefficient exponent
        (if percent then [37] else []))
    | d =>
      let negative := match d with
        | .infinite negative | .notANumber negative _ _ => negative
        | .finite .. => false
      let word := if negative then d.toText.drop 1 else d.toText
      .ok ({ s with zero := false }.layOut 3 negative [] []
        (word ++ if type = 37 then [37] else []))

end FormatSpec

namespace Value

/-- The value under a specification; an empty one gives the plain form. Only numbers and texts take
others. -/
def format (h : Heap) (v : Value) (spec : Text) : Except Fault Text :=
  if spec.isEmpty then plain h v
  else
    let withSpec (f : FormatSpec → Except Fault Text) : Except Fault Text :=
      match FormatSpec.parse? spec with
      | some s => f s
      | .none => .error .value
    match v with
    | text t _ => withSpec fun s => s.formatText t
    | bool b => withSpec fun s => s.formatInt (if b then 1 else 0)
    | int n _ => withSpec fun s => s.formatInt n
    | float x _ => withSpec fun s => s.formatFloat x
    | decimal d _ => withSpec fun s => s.formatDecimal d
    | complex z _ => withSpec fun s => s.formatComplex z
    | _ => .error .type

/-- The value under a specification as a value. A text that it leaves as it is stays the same. -/
def formatted (h : Heap) (v : Value) (spec : Text) : Except Fault Value :=
  if spec.isEmpty then shown h v
  else do
    let t ← format h v spec
    match v with
    | text s _ => pure (if s = t then v else ofText t)
    | _ => pure (ofText t)

end Value
end Phrasebook
