import Phrasebook.Loading.Yaml.Node
import Phrasebook.Number.FloatText
import Phrasebook.Text.Case
import Phrasebook.Value.Datum
/-!
What YAML scalars stand for. A plain scalar without a tag is a truth value, a number, a date or
nothing when it is written like one, and else a text, as a quoted scalar always is.
-/
namespace Phrasebook.Yaml

/-- The kinds of scalars that a plain one can be written like. -/
inductive ScalarKind where
  | null | bool | int | float | timestamp | merge | default | text
  deriving DecidableEq

namespace ScalarKind

private def isIn (words : List String) (t : Text) : Bool := words.any fun w => Text.ofString w == t

private def yesWords : List String :=
  ["yes", "Yes", "YES", "true", "True", "TRUE", "on", "On", "ON"]

private def noWords : List String :=
  ["no", "No", "NO", "false", "False", "FALSE", "off", "Off", "OFF"]

private def isDigit (c : Code) : Bool := 48 ≤ c && c ≤ 57

private def isDigitOrLine (c : Code) : Bool := isDigit c || c == 95

private def unsigned : Text → Text
  | 43 :: rest => rest
  | 45 :: rest => rest
  | t => t

/-- A digit, then digits and underscores. -/
private def isRun (t : Text) : Bool := t.head?.any isDigit && t.all isDigitOrLine

/-- Nothing, or an exponent with its sign. -/
private def isExponent : Text → Bool
  | [] => true
  | e :: s :: digits =>
    (e == 101 || e == 69) && (s == 43 || s == 45) && !digits.isEmpty && digits.all isDigit
  | _ => false

/-- Groups of one or two digits below sixty, each behind a colon. -/
private def areSixties : List Text → Bool
  | [] => true
  | g :: rest =>
    (match g with
      | [a] => isDigit a
      | [a, b] => 48 ≤ a && a ≤ 53 && isDigit b
      | _ => false) && areSixties rest

private def isSexagesimal (t : Text) : Bool :=
  match Text.splitAt 58 t with
  | first :: g :: rest => isRun first && areSixties (g :: rest)
  | _ => false

private def isFloat (t : Text) : Bool :=
  let body := unsigned t
  let whole := body.takeWhile (· != 46)
  let rest := body.dropWhile (· != 46)
  let tail := rest.drop 1
  let digits := tail.takeWhile isDigitOrLine
  let exponent := tail.dropWhile isDigitOrLine
  !rest.isEmpty &&
    ((isRun whole && isExponent exponent)
      || (whole.isEmpty && t.head? == some 46 && isRun digits && isExponent exponent)
      || (isSexagesimal whole && exponent.isEmpty)
      || (whole.isEmpty && isIn ["inf", "Inf", "INF"] tail)
      || isIn [".nan", ".NaN", ".NAN"] t)

private def isOctal (c : Code) : Bool := (48 ≤ c && c ≤ 55) || c == 95

private def isHex (c : Code) : Bool :=
  isDigitOrLine c || (97 ≤ c && c ≤ 102) || (65 ≤ c && c ≤ 70)

private def isInt (t : Text) : Bool :=
  match unsigned t with
  | 48 :: 98 :: rest => !rest.isEmpty && rest.all fun c => c == 48 || c == 49 || c == 95
  | 48 :: 120 :: rest => !rest.isEmpty && rest.all isHex
  | 48 :: rest => rest.all isOctal
  | c :: rest =>
    (isDigit c && rest.all isDigitOrLine) || (isDigit c && isSexagesimal (c :: rest))
  | [] => false

private def areDigits (least most : Nat) (t : Text) : Bool :=
  least ≤ t.length && t.length ≤ most && t.all isDigit

private def numeralIn (base : Nat) (t : Text) : Option Nat :=
  if t.isEmpty then none
  else t.foldl (fun n c => do
    let n ← n
    let d ← if isDigit c then some (c - 48)
      else if 97 ≤ c ∧ c ≤ 102 then some (c - 87)
      else if 65 ≤ c ∧ c ≤ 70 then some (c - 55)
      else none
    if d < base then some (n * base + d) else none) (some 0)

private def smallNumeral? (least most : Nat) (t : Text) : Option Nat :=
  if areDigits least most t then numeralIn 10 t else none

/-- The distance of a zone in hours and minutes. -/
private def zone? (t : Text) : Option (Nat × Nat) :=
  match t.dropWhile (fun c => c == 32 || c == 9) with
  | [] => if t.isEmpty then some (0, 0) else none
  | [90] => some (0, 0)
  | s :: rest =>
    if s = 43 ∨ s = 45 then match Text.splitAt 58 rest with
      | [h] => (smallNumeral? 1 2 h).map fun h => (h, 0)
      | [h, m] => do some (← smallNumeral? 1 2 h, ← smallNumeral? 2 2 m)
      | _ => none
    else none

/-- A time of day with its zone: whether it is written like one, and then whether there is such a
time. -/
private def clock? (t : Text) : Option Bool :=
  let hours := t.takeWhile isDigit
  match t.drop hours.length with
  | 58 :: a :: b :: 58 :: c :: d :: rest => do
    let h ← smallNumeral? 1 2 hours
    let m ← smallNumeral? 2 2 [a, b]
    let s ← smallNumeral? 2 2 [c, d]
    let (zoneHours, zoneMinutes) ← zone? (match rest with
      | 46 :: rest => rest.dropWhile isDigit
      | rest => rest)
    some (h < 24 && m < 60 && s < 60 && zoneHours * 60 + zoneMinutes < 1440)
  | _ => none

/-- A year, a month and a day, alone or before a time of day. -/
private def timestampParts? (t : Text) : Option (Text × Text × Text × Text) :=
  let year := t.takeWhile isDigit
  match t.drop year.length with
  | 45 :: rest =>
    let month := rest.takeWhile isDigit
    match rest.drop month.length with
    | 45 :: rest =>
      let day := rest.takeWhile isDigit
      if areDigits 4 4 year && areDigits 1 2 month && areDigits 1 2 day then
        some (year, month, day, rest.drop day.length)
      else none
    | _ => none
  | _ => none

private def clockAfter? (c : Code) (rest : Text) : Option Bool :=
  if c = 84 ∨ c = 116 then clock? rest
  else if c = 32 ∨ c = 9 then clock? (rest.dropWhile fun c => c == 32 || c == 9)
  else none

private def isTimestamp (t : Text) : Bool :=
  match timestampParts? t with
  | none => false
  | some (_, month, day, []) => month.length == 2 && day.length == 2
  | some (_, _, _, c :: rest) =>
    (clockAfter? c rest).isSome

/-- What a plain scalar is written like. -/
def ofPlain (t : Text) : ScalarKind :=
  if isIn yesWords t || isIn noWords t then .bool
  else if isFloat t then .float
  else if isInt t then .int
  else if isIn ["<<"] t then .merge
  else if isIn ["~", "null", "Null", "NULL", ""] t then .null
  else if isTimestamp t then .timestamp
  else if isIn ["="] t then .default
  else .text

def ofTag? (tag : Text) : Option ScalarKind :=
  let is (s : String) : Bool := tag == Node.coreTag ++ Text.ofString s
  if is "null" then some .null else if is "bool" then some .bool
  else if is "int" then some .int else if is "float" then some .float
  else if is "timestamp" then some .timestamp else if is "str" then some .text
  else none

private def withoutLines (t : Text) : Text := t.filter (· != 95)

private def sixties (groups : List Text) : Option Nat :=
  groups.foldl (fun n g => do some ((← n) * 60 + (← numeralIn 10 g))) (some 0)

private def intValue? (t : Text) : Option Int := do
  let t := withoutLines t
  let n : Nat ← match unsigned t with
    | [48] => some 0
    | 48 :: 98 :: rest => numeralIn 2 rest
    | 48 :: 120 :: rest => numeralIn 16 rest
    | 48 :: rest => numeralIn 8 rest
    | t =>
      if t.contains 58 then sixties (Text.splitAt 58 t)
      else if t.length ≤ Number.maxDigits then numeralIn 10 t else none
  some (if t.head? == some 45 then -(n : Int) else n)

private def floatValue? (t : Text) : Option Float :=
  let t := Text.lowerAscii (withoutLines t)
  let negative := t.head? == some 45
  let body := unsigned t
  if body = ".inf" then some (Binary.infinity negative)
  else if body = ".nan" then some Binary.nan
  else if body.contains 58 then
    match (Text.splitAt 58 body).reverse with
    | last :: groups => do
      let x ← Binary.parse? last
      let n ← sixties groups.reverse
      let y := x + Binary.ofNat (n * 60)
      some (if negative then -y else y)
    | [] => none
  else (Binary.parse? body).map fun x => if negative then -x else x

private def isLeap (y : Nat) : Bool := y % 4 == 0 && (y % 100 != 0 || y % 400 == 0)

private def daysIn (y m : Nat) : Nat :=
  if m = 2 then (if isLeap y then 29 else 28)
  else if m = 4 ∨ m = 6 ∨ m = 9 ∨ m = 11 then 30 else 31

/-- A day of the calendar, and a time of that day; others are no values. -/
private def dateValue (t : Text) : Except Fault Datum :=
  match timestampParts? t with
  | some (year, month, day, rest) =>
    let y := (numeralIn 10 year).getD 0
    let m := (numeralIn 10 month).getD 0
    let d := (numeralIn 10 day).getD 0
    let isDay := 1 ≤ y ∧ 1 ≤ m ∧ m ≤ 12 ∧ 1 ≤ d ∧ d ≤ daysIn y m
    match rest with
    | [] => if isDay then .ok (.date y m d) else .error .value
    | c :: rest =>
      if isDay ∧ clockAfter? c rest = some true then .ok .dateTime else .error .value
  | none => .error (.unworded .yaml)

def read (kind : ScalarKind) (t : Text) : Except Fault Datum :=
  match kind with
  | .null => .ok .none
  | .bool =>
    if isIn ["yes", "true", "on"] (Text.lowerAscii t) then .ok (.bool true)
    else if isIn ["no", "false", "off"] (Text.lowerAscii t) then .ok (.bool false)
    else .error (.missingKey (Text.Quoted.text (Text.lower t)))
  | .int => match intValue? t with
    | some n => .ok (.int n)
    | none => .error .value
  | .float => match floatValue? t with
    | some x => .ok (.float x)
    | none => .error .value
  | .timestamp => dateValue t
  | .text => .ok (.text t)
  | .merge | .default => .error (.unworded .yaml)

end ScalarKind
end Phrasebook.Yaml
