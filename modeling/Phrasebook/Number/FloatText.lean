import Phrasebook.Number.Binary
import Phrasebook.Number.Places
import Phrasebook.Text.Basic
import Phrasebook.Text.Class
/-!
The written forms of doubles: fixed places, scientific, general, and the shortest form, which is
positional from four zeros after the point up to sixteen digits before it. What is read as a double is a
decimal numeral with an optional point and exponent, an infinity, or the word for no number, in any
letter case and with blanks around it.
-/
namespace Phrasebook

/-- A written number in pieces, so that digits can be grouped and padded afterwards. The fraction
includes its point, the suffix the exponent. -/
structure NumberText where
  negative : Bool
  whole : Text
  fraction : Text
  suffix : Text

namespace NumberText

def unsigned (t : NumberText) : Text := t.whole ++ t.fraction ++ t.suffix

def toText (t : NumberText) : Text := if t.negative then '-' :: t.unsigned else t.unsigned

end NumberText

/-- Layouts of a double. `general` drops trailing zeros unless `keepZeros`; with `pointed` a whole
number keeps one zero after the point. -/
inductive FloatLayout where
  | fixed (places : Nat) (keepPoint : Bool)
  | scientific (places : Nat) (keepPoint : Bool)
  | general (digits : Nat) (keepZeros pointed : Bool)
  | shortest (keepPoint : Bool)

namespace FloatLayout

/-- Numeral of `n` filled with zeros to `width` digits. -/
def padded (width n : Nat) : Text :=
  let t := Text.ofNat n
  List.replicate (width - t.length) 48 ++ t

private def exponentText (e : Int) : Text :=
  'e'.toNat :: (if e < 0 then '-'.toNat else '+'.toNat) :: padded 2 e.natAbs

private def dropZeros (t : Text) : Text := Text.trimRight (· == 48) t

/-- Lays out digits whose first stands for `10 ^ e`, without exponent. -/
private def positional (digits : Text) (e : Int) : Text × Text :=
  if e < 0 then ([48], List.replicate ((-e).toNat - 1) 48 ++ digits)
  else
    let n := e.toNat + 1
    (digits.take n ++ List.replicate (n - digits.length) 48, digits.drop n)

private def pointed (fraction : Text) (keep : Bool) : Text :=
  if fraction.isEmpty then (if keep then [46] else []) else 46 :: fraction

private def withExponent (digits : Text) (e : Int) (keep : Bool) : NumberText :=
  ⟨false, digits.take 1, pointed (digits.drop 1) keep, exponentText e⟩

/-- More places than a double has digits, before or behind the point. -/
private def enough : Nat := 1100

private def ofFixed (num den places : Nat) (keep : Bool) : NumberText :=
  let least := min places enough
  let t := padded (least + 1) (Places.fixed num den least)
  let fraction := t.drop (t.length - least) ++ List.replicate (places - least) 48
  ⟨false, t.take (t.length - least), pointed fraction keep, []⟩

/-- So many significant digits, and the exponent of the first. -/
private def leadingDigits (num den digits : Nat) : Text × Int :=
  let least := min digits enough
  let s := Places.significant num den least
  (padded least s.digits ++ List.replicate (digits - least) 48, s.exponent)

private def ofGeneral (num den digits : Nat) (keepZeros dot : Bool) : NumberText :=
  let digits := if digits = 0 then 1 else digits
  let (text, exponent) := leadingDigits num den digits
  let limit : Int := if dot then (digits : Int) - 1 else digits
  if exponent < -4 ∨ limit ≤ exponent then
    withExponent (if keepZeros then text else
      text.take 1 ++ dropZeros (text.drop 1)) exponent keepZeros
  else
    let (whole, fraction) := positional text exponent
    let fraction := if keepZeros then fraction else dropZeros fraction
    let fraction := if dot && fraction.isEmpty then [48] else fraction
    ⟨false, whole, pointed fraction keepZeros, []⟩

private def ofShortest (bits : UInt64) (num den : Nat) (keep : Bool) : NumberText :=
  if num = 0 then ⟨false, [48], [46, 48], []⟩
  else
    let s := Places.shortest bits num den
    let text := Text.ofNat s.digits
    let text := text.take 1 ++ dropZeros (text.drop 1)
    if s.exponent < -4 ∨ 16 ≤ s.exponent then withExponent text s.exponent keep
    else
      let (whole, fraction) := positional text s.exponent
      ⟨false, whole, 46 :: (if fraction.isEmpty then [48] else fraction), []⟩

/-- Writes a double. Infinity and the number that is not one are words. -/
def write (layout : FloatLayout) (x : Float) : NumberText :=
  match Binary.decode x with
  | .notANumber => ⟨false, "nan", [], []⟩
  | .infinite negative => ⟨negative, "inf", [], []⟩
  | .finite d =>
    let (num, den) := Binary.ratioOf d.mantissa d.exponent
    let t := match layout with
      | .fixed places keep => ofFixed num den places keep
      | .scientific places keep =>
        let (text, exponent) := leadingDigits num den (places + 1)
        withExponent text exponent keep
      | .general digits keepZeros dot => ofGeneral num den digits keepZeros dot
      | .shortest keep => ofShortest (x.toBits &&& 0x7fffffffffffffff) num den keep
    { t with negative := d.negative }

end FloatLayout

namespace Binary

/-- The shortest text that reads back as the number. -/
def toText (x : Float) : Text := ((FloatLayout.shortest false).write x).toText

/-- At most six significant digits, as used for durations. -/
def generalText (x : Float) : Text := ((FloatLayout.general 6 false false).write x).toText

/-- A run of digits with single underscores between them, and what follows. -/
private def digitsOf (out : Text) : Text → Text × Text
  | [] => (out.reverse, [])
  | 95 :: c :: rest =>
    if Text.isDecimal c && !out.isEmpty then digitsOf (c :: out) rest
    else (out.reverse, 95 :: c :: rest)
  | c :: rest => if Text.isDecimal c then digitsOf (c :: out) rest else (out.reverse, c :: rest)

private def exponentPart : Text → Option Int
  | [] => some 0
  | e :: rest =>
    if e = 101 ∨ e = 69 then
      let (negative, rest) := match rest with
        | 45 :: rest => (true, rest)
        | 43 :: rest => (false, rest)
        | rest => (false, rest)
      match digitsOf [] rest with
      | (digits, []) =>
        (Text.decimalNumeral? digits).map fun n => if negative then -(n : Int) else n
      | _ => none
    else none

private def unsigned? (negative : Bool) (t : Text) : Option Float :=
  let word := Text.lowerAscii t
  if word = "inf" ∨ word = "infinity" then some (infinity negative)
  else if word = "nan" then some nan
  else
    let (whole, rest) := digitsOf [] t
    let (fraction, rest) := match rest with
      | 46 :: rest => digitsOf [] rest
      | rest => ([], rest)
    match Text.decimalNumeral? (whole ++ fraction), exponentPart rest with
    | some n, some e => some (ofScientific negative n (e - fraction.length))
    | _, _ => none

def parse? (t : Text) : Option Float :=
  match Text.strip t with
  | 45 :: rest => unsigned? true rest
  | 43 :: rest => unsigned? false rest
  | t => unsigned? false t

end Binary
end Phrasebook
