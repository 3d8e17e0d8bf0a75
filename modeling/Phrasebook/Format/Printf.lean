import Phrasebook.Format.Spec
import Phrasebook.Value.Sequence
/-!
Percent formatting. A conversion is a percent sign, an optional key in parentheses, flags, a width,
a precision, an ignored length letter and a conversion letter; width and precision may be stars that
take the next argument. Two percent signs make one. Texts and bytes are formatted alike up to what
`s` accepts.
-/
namespace Phrasebook.Printf

/-- What is formatted: `mapping` serves keys, `queue` holds the arguments still to be used. -/
structure Arguments where
  queue : List Value
  mapping : Option Value

/-- The arguments that the right side of a percent sign stands for. -/
def Arguments.ofValue (isBytes : Bool) (v : Value) : Arguments :=
  match v with
  | .tuple items _ => ⟨items, none⟩
  | .dict _ | .list _ => ⟨[v], some v⟩
  | .bytes .. => ⟨[v], if isBytes then none else some v⟩
  | v => ⟨[v], none⟩

structure Conversion where
  left : Bool := false
  sign : Bool := false
  blank : Bool := false
  alternate : Bool := false
  zero : Bool := false
  width : Option Nat := none
  precision : Option Nat := none

/-- Computations that use up arguments. -/
abbrev Use := StateT Arguments (Except Fault)

def fail {α : Type} (f : Fault) : Use α := fun _ => .error f

def nextArgument : Use Value := do
  match (← get).queue with
  | v :: rest => modify fun a => { a with queue := rest }; pure v
  | [] => fail .type

/-- The key up to its closing parenthesis, with what follows; parentheses nest. -/
def keyFrom (key : Text) : Nat → Text → Option (Text × Text)
  | _, [] => none
  | level, c :: rest =>
    if c = 41 then
      if level = 0 then some (key.reverse, rest) else keyFrom (c :: key) (level - 1) rest
    else keyFrom (c :: key) (if c = 40 then level + 1 else level) rest

/-- Looks a key up and makes its value the only argument. -/
def useKey (h : Heap) (key : Value) : Use Unit := do
  match (← get).mapping with
  | some (.dict r) => match Value.entryOf h (h.dict r) key with
    | .ok v => modify fun a => { a with queue := [v] }
    | .error f => fail f
  | _ => fail .type

def keyPart (h : Heap) (isBytes : Bool) (t : Text) : Use Text := do
  match t with
  | 40 :: rest =>
    if (← get).mapping.isNone then fail .type
    else match keyFrom [] 0 rest with
      | some (key, rest) =>
        useKey h (if isBytes then .ofBytes (key.map Nat.toUInt8) else .ofText key)
        pure rest
      | none => fail .value
  | t => pure t

def flag (c : Conversion) (x : Code) : Option Conversion :=
  if x = 45 then some { c with left := true }
  else if x = 43 then some { c with sign := true }
  else if x = 32 then some { c with blank := true }
  else if x = 35 then some { c with alternate := true }
  else if x = 48 then some { c with zero := true }
  else none

def flagsPart (c : Conversion) : Text → Conversion × Text
  | [] => (c, [])
  | x :: rest => match flag c x with
    | some c => flagsPart c rest
    | none => (c, x :: rest)

def asciiNumeral (t : Text) : Nat × Text :=
  let p := fun c : Code => 48 ≤ c && c ≤ 57
  ((t.takeWhile p).foldl (fun n c => n * 10 + (c - 48)) 0, t.dropWhile p)

def starArgument : Use Int := do
  match (← nextArgument).int? with
  | some n => if n < -Value.maxIndex ∨ Value.maxIndex ≤ n then fail (.unworded .overflow) else pure n
  | none => fail .type

def widthPart (c : Conversion) (t : Text) : Use (Conversion × Text) := do
  match t with
  | 42 :: rest =>
    let n ← starArgument
    pure ({ c with width := some n.natAbs, left := c.left || n < 0 }, rest)
  | x :: _ =>
    if 48 ≤ x ∧ x ≤ 57 then
      let (n, rest) := asciiNumeral t
      if Value.maxIndex ≤ n then fail .value else pure ({ c with width := some n }, rest)
    else pure (c, t)
  | [] => pure (c, [])

def precisionPart (c : Conversion) (t : Text) : Use (Conversion × Text) := do
  match t with
  | 46 :: 42 :: rest =>
    let n ← starArgument
    pure ({ c with precision := some n.toNat }, rest)
  | 46 :: rest =>
    let (n, rest) := asciiNumeral rest
    if Nat.pow 2 31 ≤ n then fail .value else pure ({ c with precision := some n }, rest)
  | t => pure (c, t)

def dropLength : Text → Text
  | c :: rest => if c = 104 ∨ c = 108 ∨ c = 76 then rest else c :: rest
  | [] => []

/-- A number cut to an integer, as decimal conversions do. -/
def truncated (v : Value) : Except Fault Int :=
  match v.number? with
  | some (.int n) => .ok n
  | some (.float x) =>
    match Binary.truncate? x with
    | some n => .ok n
    | none => .error (if Binary.isNaN x then .value else .unworded .overflow)
  | some (.decimal d) => match d with
    | .finite negative a e =>
      let n : Nat := if 0 ≤ e then a * Nat.pow 10 e.toNat else a / Nat.pow 10 (-e).toNat
      .ok (if negative then -(n : Int) else n)
    | .infinite _ => .error (.unworded .overflow)
    | .notANumber .. => .error .value
  | _ => .error .type

def floatOf (v : Value) : Except Fault Float :=
  match v.number? with
  | some (.int n) => Number.toFloat n
  | some (.float x) => .ok x
  | some (.decimal d) => match d with
    | .notANumber _ true _ => .error .value
    | d => .ok d.toFloat
  | _ => .error .type

/-- A number in pieces: whether it is negative, a radix mark, digits. -/
structure Digits where
  negative : Bool
  mark : Text
  body : Text

def zeroFilled (c : Conversion) (t : Text) : Text :=
  List.replicate (c.precision.getD 0 - t.length) 48 ++ t

def integerDigits (c : Conversion) (letter : Code) (v : Value) : Except Fault Digits :=
  if letter = 111 ∨ letter = 120 ∨ letter = 88 then
    match v.int? with
    | some n =>
      let base := if letter = 111 then 8 else 16
      let body := Text.ofNatBase base n.natAbs
      let body := if letter = 88 then Text.upperAscii body else body
      .ok ⟨n < 0, if c.alternate then [48, letter] else [], zeroFilled c body⟩
    | none => .error .type
  else do
    let n ← truncated v
    pure ⟨n < 0, [], zeroFilled c (← Number.intText n.natAbs)⟩

def floatDigits (c : Conversion) (letter : Code) (v : Value) : Except Fault Digits := do
  let x ← floatOf v
  let p := c.precision.getD 6
  let lower := if letter < 97 then letter + 32 else letter
  let layout : FloatLayout :=
    if lower = 101 then .scientific p c.alternate
    else if lower = 102 then .fixed p c.alternate
    else .general p c.alternate false
  let t := layout.write x
  let body := if letter < 97 then Text.upperAscii t.unsigned else t.unsigned
  pure ⟨t.negative, [], body⟩

/-- Fills a number to its width, zeros going between the mark and the digits. -/
def layOut (c : Conversion) (d : Digits) : Text :=
  let sign : Text := if d.negative then [45] else if c.sign then [43] else if c.blank then [32] else []
  let gap := c.width.getD 0 - (sign.length + d.mark.length + d.body.length)
  if c.left then sign ++ d.mark ++ d.body ++ List.replicate gap 32
  else if c.zero then sign ++ d.mark ++ List.replicate gap 48 ++ d.body
  else List.replicate gap 32 ++ sign ++ d.mark ++ d.body

def padded (c : Conversion) (t : Text) : Text :=
  let gap := c.width.getD 0 - t.length
  if c.left then t ++ List.replicate gap 32 else List.replicate gap 32 ++ t

def cutTo (c : Conversion) (t : Text) : Text :=
  match c.precision with
  | some p => t.take p
  | none => t

def character (isBytes : Bool) (v : Value) : Except Fault Code :=
  match v, isBytes with
  | .text [c] _, false => .ok c
  | .bytes [b] _, true => .ok b.toNat
  | v, _ => match v.int? with
    | some n =>
      if n < 0 ∨ (if isBytes then (255 : Int) else 0x10ffff) < n then .error (.unworded .overflow)
      else .ok n.toNat
    | none => .error .type

/-- The characters of bytes. -/
def bytesOf (v : Value) : Except Fault Text :=
  match v with
  | .bytes bs _ => .ok (bs.map (·.toNat))
  | _ => .error .type

def convert (h : Heap) (isBytes : Bool) (c : Conversion) (letter : Code) (v : Value) :
    Except Fault Text :=
  let textual (t : Except Fault Text) : Except Fault Text := t.map fun t => padded c (cutTo c t)
  if letter = 115 then textual (if isBytes then bytesOf v else Value.plain h v)
  else if letter = 98 ∧ isBytes then textual (bytesOf v)
  else if letter = 114 then
    textual (if isBytes then Value.asciiQuoted h v else Value.quoted h v)
  else if letter = 97 then textual (Value.asciiQuoted h v)
  else if ([100, 105, 117, 111, 120, 88] : List Code).contains letter then
    (integerDigits c letter v).map (layOut c)
  else if ([101, 69, 102, 70, 103, 71] : List Code).contains letter then
    (floatDigits c letter v).map (layOut c)
  else if letter = 99 then (character isBytes v).map fun x => padded c [x]
  else .error .value

/-- A piece of the output: characters of the template, or a converted argument. -/
inductive Piece where
  | plain (t : Text)
  | converted (t : Text) (letter : Code) (argument : Value)

def Piece.text : Piece → Text
  | plain t | converted t .. => t

/-- One conversion after its percent sign, and what follows it. A byte from 128 on is no character
where a letter is expected, except directly behind a numeral or a point. -/
def conversion (h : Heap) (isBytes : Bool) (t : Text) : Use (Piece × Text) := do
  let t ← keyPart h isBytes t
  let (c, afterFlags) := flagsPart {} t
  let (c, afterWidth) ← widthPart c afterFlags
  let (c, measured) ← precisionPart c afterWidth
  let unmeasured := measured.length = afterWidth.length
    ∧ (measured.length = afterFlags.length ∨ afterFlags.head? = some 42)
  match dropLength measured with
  | [] => fail .value
  | letter :: rest =>
    let v ← nextArgument
    let isStray := unmeasured ∨ rest.length + 1 < measured.length
    if isBytes ∧ 128 ≤ letter ∧ isStray then fail (.unworded .overflow)
    match convert h isBytes c letter v with
    | .ok written => pure (.converted written letter v, rest)
    | .error f => fail f

def convertAll (h : Heap) (isBytes : Bool) (out : List Piece) :
    Nat → Text → Use (List Piece)
  | 0, _ => fail .value
  | fuel + 1, t => do
    let plain := t.takeWhile (· != 37)
    let out := if plain.isEmpty then out else .plain plain :: out
    match t.dropWhile (· != 37) with
    | [] => pure out.reverse
    | _ :: 37 :: rest => convertAll h isBytes (.plain [37] :: out) fuel rest
    | _ :: rest =>
      let (piece, rest) ← conversion h isBytes rest
      convertAll h isBytes (piece :: out) fuel rest

/-- The pieces that a template makes of the arguments that a value stands for. All of them have to be
used, unless keys may choose among them. -/
def pieces (h : Heap) (isBytes : Bool) (template : Text) (v : Value) :
    Except Fault (List Piece) := do
  let (out, left) ←
    (convertAll h isBytes [] (template.length + 1) template).run (.ofValue isBytes v)
  if !left.queue.isEmpty && left.mapping.isNone then throw .type
  pure out

/-- A formatted text. A template without conversions is its own result, and so is an unchanged
argument that stands alone. -/
def formatText (h : Heap) (template : Value) (t : Text) (v : Value) : Except Fault Value := do
  match ← pieces h false t v with
  | [.plain s] => pure (if s = t then template else .ofText s)
  | [.converted s 115 argument] => match argument with
    | .text u _ => pure (if s = u then argument else .ofText s)
    | _ => pure (.builtText s)
  | [.converted s letter _] =>
    pure (if letter = 114 ∨ letter = 97 then .builtText s else .ofText s)
  | all => pure (.ofText (all.flatMap Piece.text))

def formatBytes (h : Heap) (bs : List UInt8) (v : Value) : Except Fault Value := do
  let all ← pieces h true (bs.map (·.toNat)) v
  pure (.ofBytes ((all.flatMap Piece.text).map Nat.toUInt8))

end Phrasebook.Printf
