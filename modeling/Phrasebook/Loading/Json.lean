import Phrasebook.Number.FloatText
import Phrasebook.Value.Datum
/-!
Reading JSON documents. The words `NaN`, `Infinity` and `-Infinity` are numbers; of several members
with one name the last counts; a lone half of a surrogate pair stays as it is.
-/
namespace Phrasebook.Json

def malformed {α : Type} : Except Fault α := .error (.unworded .json)

def isSpace (c : Code) : Bool := c == 32 || c == 9 || c == 10 || c == 13

def skip (t : Text) : Text := t.dropWhile isSpace

def isDigit (c : Code) : Bool := 48 ≤ c && c ≤ 57

def hexValue? (c : Code) : Option Nat :=
  if isDigit c then some (c - 48)
  else if 97 ≤ c ∧ c ≤ 102 then some (c - 87)
  else if 65 ≤ c ∧ c ≤ 70 then some (c - 55)
  else none

def hexCode? : Text → Option (Code × Text)
  | a :: b :: c :: d :: rest => do
    let digits ← [a, b, c, d].mapM hexValue?
    some (digits.foldl (fun n x => n * 16 + x) 0, rest)
  | _ => none

def isHigh (c : Code) : Bool := 0xd800 ≤ c && c ≤ 0xdbff

def isLow (c : Code) : Bool := 0xdc00 ≤ c && c ≤ 0xdfff

/-- The character of a `\u` escape; two halves of a pair make one. -/
def unicodeEscape? (t : Text) : Option (Code × Text) := do
  let (high, rest) ← hexCode? t
  match isHigh high, rest with
  | true, 92 :: 117 :: more => match hexCode? more with
    | some (low, more) =>
      if isLow low then some (0x10000 + (high - 0xd800) * 1024 + (low - 0xdc00), more)
      else some (high, rest)
    | none => none
  | _, _ => some (high, rest)

def shortEscape? (c : Code) : Option Code :=
  if c = 34 ∨ c = 92 ∨ c = 47 then some c
  else if c = 98 then some 8 else if c = 102 then some 12 else if c = 110 then some 10
  else if c = 114 then some 13 else if c = 116 then some 9
  else none

/-- The rest of a string behind its opening mark. Control characters have to be escaped. -/
def stringFrom (out : Text) : Nat → Text → Option (Text × Text)
  | 0, _ => none
  | _ + 1, [] => none
  | fuel + 1, c :: rest =>
    if c = 34 then some (out.reverse, rest)
    else if c < 32 then none
    else if c = 92 then match rest with
      | 117 :: rest => match unicodeEscape? rest with
        | some (c, rest) => stringFrom (c :: out) fuel rest
        | none => none
      | d :: rest => match shortEscape? d with
        | some c => stringFrom (c :: out) fuel rest
        | none => none
      | [] => none
    else stringFrom (c :: out) fuel rest

def integerPart : Text → Option (Text × Text)
  | 48 :: rest => some ([48], rest)
  | c :: rest =>
    if isDigit c then some (c :: rest.takeWhile isDigit, rest.dropWhile isDigit) else none
  | [] => none

def fractionPart (t : Text) : Text × Text :=
  match t with
  | 46 :: rest =>
    let digits := rest.takeWhile isDigit
    if digits.isEmpty then ([], t) else (46 :: digits, rest.dropWhile isDigit)
  | t => ([], t)

def exponentDigits (t : Text) : Text × Text :=
  match t with
  | e :: rest =>
    if e = 101 ∨ e = 69 then
      let (sign, rest) := match rest with
        | 43 :: rest => ([43], rest)
        | 45 :: rest => ([45], rest)
        | rest => ([], rest)
      let digits := rest.takeWhile isDigit
      if digits.isEmpty then ([], t) else (e :: sign ++ digits, rest.dropWhile isDigit)
    else ([], t)
  | [] => ([], [])

/-- A number, whole as long as it has neither point nor exponent. -/
def number (negative : Bool) (t : Text) : Except Fault (Datum × Text) :=
  match integerPart t with
  | none => malformed
  | some (whole, rest) =>
    let (fraction, rest) := fractionPart rest
    let (exponent, rest) := exponentDigits rest
    if fraction.isEmpty && exponent.isEmpty then
      if Number.maxDigits < whole.length then .error .value
      else
        let n : Int := (Text.decimalNumeral? whole).getD 0
        .ok (.int (if negative then -n else n), rest)
    else
      let text := (if negative then [45] else []) ++ whole ++ fraction ++ exponent
      match Binary.parse? text with
      | some x => .ok (.float x, rest)
      | none => malformed

def words : List (Text × Datum) :=
  let entry (w : String) (d : Datum) : Text × Datum := (w, d)
  [entry "null" .none, entry "true" (.bool true), entry "false" (.bool false),
   entry "NaN" (.float Binary.nan), entry "Infinity" (.float (Binary.infinity false)),
   entry "-Infinity" (.float (Binary.infinity true))]

def word? (t : Text) : Option (Datum × Text) :=
  (words.find? fun w => Text.isPrefix w.1 t).map fun w => (w.2, t.drop w.1.length)

mutual

def value : Nat → Text → Except Fault (Datum × Text)
  | 0, _ => .error (.unworded .recursion)
  | fuel + 1, t =>
    match t with
    | 34 :: rest => match stringFrom [] fuel rest with
      | some (s, rest) => .ok (.text s, rest)
      | none => malformed
    | 91 :: rest => match skip rest with
      | 93 :: rest => .ok (.list [], rest)
      | rest => items fuel [] rest
    | 123 :: rest => match skip rest with
      | 125 :: rest => .ok (.map [], rest)
      | rest => members fuel [] rest
    | t => match word? t with
      | some r => .ok r
      | none => match t with
        | 45 :: rest => number true rest
        | t => number false t

def items : Nat → List Datum → Text → Except Fault (Datum × Text)
  | 0, _, _ => .error (.unworded .recursion)
  | fuel + 1, out, t => do
    let (d, rest) ← value fuel t
    match skip rest with
    | 44 :: rest => items fuel (d :: out) (skip rest)
    | 93 :: rest => pure (.list (d :: out).reverse, rest)
    | _ => malformed

def members : Nat → List (Value × Datum) → Text → Except Fault (Datum × Text)
  | 0, _, _ => .error (.unworded .recursion)
  | fuel + 1, out, t => do
    match t with
    | 34 :: rest =>
      match stringFrom [] fuel rest with
      | none => malformed
      | some (name, rest) =>
        match skip rest with
        | 58 :: rest =>
          let (d, rest) ← value fuel (skip rest)
          let out := (Value.ofText name, d) :: out
          match skip rest with
          | 44 :: rest => members fuel out (skip rest)
          | 125 :: rest => pure (Datum.ofEntries out.reverse, rest)
          | _ => malformed
        | _ => malformed
    | _ => malformed

end

def read (t : Text) : Except Fault Datum := do
  let (d, rest) ← value (2 * t.length + 2) (skip t)
  if (skip rest).isEmpty then pure d else malformed

end Phrasebook.Json
