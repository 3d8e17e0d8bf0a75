import Phrasebook.Text.Basic
import Phrasebook.Text.ClassTable
/-!
Character classes and the digit values behind them.
-/
namespace Phrasebook.Text

/-- Decimal digits come in runs of ten that start with a zero. -/
def decimalRanges : List (Nat × Nat) :=
  [(48, 57), (1632, 1641), (1776, 1785), (1984, 1993), (2406, 2415), (2534, 2543), (2662, 2671),
   (2790, 2799), (2918, 2927), (3046, 3055), (3174, 3183), (3302, 3311), (3430, 3439),
   (3558, 3567), (3664, 3673), (3792, 3801), (3872, 3881), (4160, 4169), (4240, 4249),
   (6112, 6121), (6160, 6169), (6470, 6479), (6608, 6617), (6784, 6793), (6800, 6809),
   (6992, 7001), (7088, 7097), (7232, 7241), (7248, 7257), (42528, 42537), (43216, 43225),
   (43264, 43273), (43472, 43481), (43504, 43513), (43600, 43609), (44016, 44025),
   (65296, 65305), (66720, 66729), (68912, 68921), (69734, 69743), (69872, 69881),
   (69942, 69951), (70096, 70105), (70384, 70393), (70736, 70745), (70864, 70873),
   (71248, 71257), (71360, 71369), (71472, 71481), (71904, 71913), (72016, 72025),
   (72784, 72793), (73040, 73049), (73120, 73129), (92768, 92777), (92864, 92873),
   (93008, 93017), (120782, 120831), (123200, 123209), (123632, 123641), (125264, 125273),
   (130032, 130041)]

def decimalValue? (c : Code) : Option Nat :=
  match decimalRanges.find? (fun r => r.1 ≤ c && c ≤ r.2) with
  | some r => some ((c - r.1) % 10)
  | none => none

def isDecimal (c : Code) : Bool := (decimalValue? c).isSome

/-- Decimal digits and the digit signs without place value, such as superscripts. -/
def isDigit (c : Code) : Bool := digitLikeTable.has c

def isNumeric (c : Code) : Bool := numericTable.has c

def isAlphabetic (c : Code) : Bool := alphabeticTable.has c

def isAlphanumeric (c : Code) : Bool :=
  isAlphabetic c || isDecimal c || isDigit c || isNumeric c

def isUppercase (c : Code) : Bool := uppercaseTable.has c

def isLowercase (c : Code) : Bool := lowercaseTable.has c

def isTitlecase (c : Code) : Bool := titlecaseTable.has c

def isPrintable (c : Code) : Bool := printableTable.has c

def isNameStart (c : Code) : Bool :=
  if c < 128 then (97 ≤ c && c ≤ 122) || (65 ≤ c && c ≤ 90) || c == 95 else nameStartTable.has c

def isNameContinue (c : Code) : Bool :=
  if c < 128 then (97 ≤ c && c ≤ 122) || (65 ≤ c && c ≤ 90) || c == 95 || (48 ≤ c && c ≤ 57)
  else nameContinueTable.has c

def isName : Text → Bool
  | [] => false
  | c :: rest => isNameStart c && rest.all isNameContinue

/-- The number that a run of decimal digits writes, `none` when another character occurs or
there is no digit. -/
def decimalNumeral? (t : Text) : Option Nat :=
  if t.isEmpty then none
  else t.foldl (fun acc c => match acc, decimalValue? c with
    | some n, some d => some (n * 10 + d)
    | _, _ => none) (some 0)

end Phrasebook.Text
