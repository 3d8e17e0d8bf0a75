import Phrasebook.Method.Call
import Phrasebook.Text.Case
import Phrasebook.Text.Encoding
import Phrasebook.Text.Fill
import Phrasebook.Text.Search
/-!
Methods of texts and of bytes. Bytes are handled as the text of their ASCII characters; a byte from
128 on stands for a private character, which has no letter case and belongs to no class.
-/
namespace Phrasebook.Method

inductive StringKind where
  | text | bytes
  deriving DecidableEq

namespace StringKind

def privateCode (b : UInt8) : Code := if b.toNat < 128 then b.toNat else 0xe000 + b.toNat

def privateByte (c : Code) : UInt8 := (if c < 128 then c else c - 0xe000).toUInt8

def read? : StringKind → Value → Option Text
  | .text, .text t _ => some t
  | .bytes, .bytes bs _ => some (bs.map privateCode)
  | _, _ => none

/-- A string read off another. -/
def ofChars : StringKind → Text → Value
  | .text, t => .ofText t
  | .bytes, t => .ofBytes (t.map privateByte)

/-- A string put together. -/
def built : StringKind → Text → Value
  | .text, t => .builtText t
  | .bytes, t => .builtBytes (t.map privateByte)

def read (k : StringKind) (v : Value) : Except Fault Text :=
  match k.read? v with
  | some t => .ok t
  | none => .error .type

def isBlank : StringKind → Code → Bool
  | .text, c => Text.isBlank c
  | .bytes, c => c == 32 || (9 ≤ c && c ≤ 13)

def isLineEnd : StringKind → Code → Bool
  | .text, c => Text.isLineEnd c
  | .bytes, c => c == 10 || c == 13

/-- What is searched for; bytes are also found by number. -/
def needle (k : StringKind) (v : Value) : Except Fault Text :=
  match k, v.int? with
  | .bytes, some n => if 0 ≤ n ∧ n < 256 then .ok [privateCode n.toNat.toUInt8] else .error .value
  | _, _ => k.read v

/-- Whether one of several strings passes a test; those behind it are not looked at. -/
def anyOf (k : StringKind) (test : Text → Bool) : List Value → Except Fault Bool
  | [] => .ok false
  | v :: rest => do if test (← k.read v) then pure true else k.anyOf test rest

end StringKind

structure Subject where
  kind : StringKind
  value : Value
  chars : Text

namespace Subject

/-- A part of the string. The whole of it is the string itself. -/
def part (s : Subject) (t : Text) : Value :=
  if t.length = s.chars.length then s.value else s.kind.ofChars t

/-- The string with other characters; with its own it is the string itself. -/
def remade (s : Subject) (t : Text) : Value := if t = s.chars then s.value else s.kind.built t

end Subject

def nonEmpty (t : Text) : Except Fault Text := if t.isEmpty then .error .value else .ok t

def fillOf (k : StringKind) : List Value → Except Fault Code
  | v :: _ => do
    match ← k.read v with
    | [c] => pure c
    | _ => throw .type
  | [] => .ok 32

/-- A class that a string has when it is not empty and all its characters do. -/
def allOf (p : Code → Bool) (t : Text) : Bool := !t.isEmpty && t.all p

/-- Methods without arguments from strings to strings. -/
def caseMap? (name : Text) : Option (Text → Text) :=
  if name = "upper" then some Text.upper else if name = "lower" then some Text.lower
  else if name = "title" then some Text.title
  else if name = "capitalize" then some Text.capitalize
  else if name = "swapcase" then some Text.swapcase
  else none

/-- Methods without arguments that ask about the characters. -/
def test? (k : StringKind) (name : Text) : Option (Text → Bool) :=
  if name = "isdigit" then some (allOf Text.isDigit)
  else if name = "isalpha" then some (allOf Text.isAlphabetic)
  else if name = "isalnum" then some (allOf Text.isAlphanumeric)
  else if name = "isspace" then some (allOf k.isBlank)
  else if name = "isupper" then some Text.allUpper
  else if name = "islower" then some Text.allLower
  else if name = "istitle" then some Text.allTitled
  else if name = "isascii" then some (fun t => t.all (· < 128))
  else if k = .bytes then none
  else if name = "isdecimal" then some (allOf Text.isDecimal)
  else if name = "isnumeric" then some (allOf Text.isNumeric)
  else if name = "isidentifier" then some Text.isName
  else if name = "isprintable" then some (fun t => t.all Text.isPrintable)
  else none

/-- The characters that trimming takes off: blanks unless others are given. -/
def cutSet (k : StringKind) (v : Value) : Except Fault (Code → Bool) :=
  match v with
  | .none => .ok k.isBlank
  | v => (k.read v).map fun chars => (chars.contains ·)

def trimmed (s : Subject) (trim : (Code → Bool) → Text → Text) (c : Call) :
    Except Fault Value := do
  match ← c.positional 0 1 with
  | [] => pure (s.part (trim s.kind.isBlank s.chars))
  | v :: _ => do pure (s.part (trim (← cutSet s.kind v) s.chars))

/-- The parts between blanks or separators. Words in a limited number of none are always cut
out. -/
def splitParts (s : Subject) (byBlank : Option Nat → Text → List Text)
    (bySep : Text → Option Nat → Text → List Text) (limit : Option Nat) :
    Option Value → Except Fault (List Value)
  | none | some .none =>
    .ok ((byBlank limit s.chars).map (if limit = some 0 then s.kind.ofChars else s.part))
  | some v => do pure ((bySep (← nonEmpty (← s.kind.read v)) limit s.chars).map s.part)

def splitWith (s : Subject) (byBlank : Option Nat → Text → List Text)
    (bySep : Text → Option Nat → Text → List Text) (c : Call) : Except Fault (List Value) := do
  match ← c.named (["sep", "maxsplit"].map Text.ofString) with
  | [sep, limit] => do splitParts s byBlank bySep (← Value.toLimit limit) sep
  | _ => throw .type

def keepsEnds (c : Call) : Except Fault Bool := do
  match ← c.named (["keepends"].map Text.ofString) with
  | [some v] => do pure ((← v.toInt) != 0)
  | _ => pure false

def linesOf (s : Subject) (c : Call) : Except Fault (List Value) := do
  pure ((Text.lines s.kind.isLineEnd (← keepsEnds c) s.chars).map s.part)

/-- The items with the string between them. A single item is itself. -/
def joined (s : Subject) (h : Heap) (c : Call) : Except Fault Value := do
  match ← c.positional 1 1 with
  | [v] =>
    let items ← v.items h
    let parts ← items.mapM s.kind.read
    match items with
    | [item] => pure item
    | _ => pure (s.kind.built (Text.joinWith s.chars parts))
  | _ => throw .type

def replaced (s : Subject) (c : Call) : Except Fault Value := do
  match ← c.positional 2 3 with
  | old :: new :: count =>
    let sought ← s.kind.read old
    let other ← s.kind.read new
    let limit ← Value.toLimit count.head?
    let isIdle := limit = some 0 || !Text.isInfix sought s.chars
      || (s.kind = .text && old.identical new)
    pure (if isIdle then s.value else s.kind.built (Text.replace sought other limit s.chars))
  | _ => throw .type

def affixes : Value → List Value
  | .tuple items _ => items
  | v => [v]

def affixed (s : Subject) (test : Text → Text → Option Int → Option Int → Bool)
    (c : Call) : Except Fault Value := do
  match ← c.positional 1 3 with
  | v :: bounds =>
    let lower ← Value.toBound bounds.head?
    let upper ← Value.toBound bounds[1]?
    pure (.bool (← s.kind.anyOf (fun affix => test affix s.chars lower upper) (affixes v)))
  | _ => throw .type

def searched {α : Type} (s : Subject)
    (search : Text → Text → Option Int → Option Int → α) (c : Call) : Except Fault α := do
  match ← c.positional 1 3 with
  | v :: bounds =>
    let lower ← Value.toBound bounds.head?
    let upper ← Value.toBound bounds[1]?
    pure (search (← s.kind.needle v) s.chars lower upper)
  | _ => throw .type

def positionOr (p : Option Nat) : Value :=
  match p with
  | some n => .ofInt n
  | none => .ofInt (-1)

def positionOf (p : Option Nat) : Except Fault Value :=
  match p with
  | some n => .ok (.ofInt n)
  | none => .error .value

/-- The parts before and after a separator, with the separator itself between them. -/
def parted (s : Subject) (part : Text → Text → Text × Text × Text) (c : Call) :
    Except Fault Value := do
  match ← c.positional 1 1 with
  | [v] =>
    let (before, sep, after) := part (← nonEmpty (← s.kind.read v)) s.chars
    let middle := if sep.isEmpty then s.kind.ofChars [] else v
    pure (.ofItems [s.part before, middle, s.part after])
  | _ => throw .type

def filled (s : Subject) (fill : Code → Int → Text → Text) (c : Call) :
    Except Fault Value := do
  match ← c.positional 1 2 with
  | width :: rest =>
    let width ← width.toInt
    pure (s.remade (fill (← fillOf s.kind rest) width s.chars))
  | _ => throw .type

def zeroFilled (s : Subject) (c : Call) : Except Fault Value := do
  match ← c.positional 1 1 with
  | [w] => do pure (s.remade (Text.zeroFill (← w.toInt) s.chars))
  | _ => throw .type

def tabSize (c : Call) : Except Fault Int := do
  match ← c.named (["tabsize"].map Text.ofString) with
  | [some v] => v.toInt
  | _ => pure 8

def tabbed (s : Subject) (c : Call) : Except Fault Value := do
  let t := Text.expandTabs (← tabSize c) s.chars
  pure (if s.kind = .bytes then s.kind.built t else s.remade t)

def without (s : Subject) (isAffix : Text → Text → Bool) (cut : Nat → Text → Text)
    (c : Call) : Except Fault Value := do
  match ← c.positional 1 1 with
  | [v] =>
    let affix ← s.kind.read v
    pure (if isAffix affix s.chars then s.part (cut affix.length s.chars) else s.value)
  | _ => throw .type

def nameOr (default : String) : Option Value → Except Fault Text
  | none => .ok default
  | some (.text name _) =>
    if name.any Encoding.isSurrogate then .error (.unworded .encoding)
    else if name.contains 0 then .error .value
    else .ok name
  | some _ => .error .type

def coding (c : Call) : Except Fault (Text × Text) := do
  match ← c.named (["encoding", "errors"].map Text.ofString) with
  | [charset, treatment] => do
    let charset ← nameOr "utf-8" charset
    pure (charset, ← nameOr "strict" treatment)
  | _ => throw .type

/-- Maps between text and bytes. `unmapped` is the fault of what has no counterpart. -/
def mapped {α : Type} (names : Text × Text) (unmapped : FaultKind)
    (f : Charset → Option Treatment → Except Encoding.Failure α) : Except Fault α :=
  match Charset.ofName? names.1 with
  | none => .error (.unworded .lookup)
  | some charset => (f charset (Treatment.ofName? names.2)).mapError fun
    | .unmapped => .unworded unmapped
    | .unknownTreatment => .unworded .lookup
    | .unfitTreatment => .type
    | .unusable => .unworded .unicode

def encoded (t : Text) (c : Call) : Except Fault Value := do
  pure (.ofBytes (← mapped (← coding c) .encoding fun charset treatment =>
    Encoding.encode charset treatment t))

def decoded (bs : List UInt8) (c : Call) : Except Fault Value := do
  let names ← coding c
  if bs.isEmpty then pure (.ofText [])
  else
    pure (.ofText (← mapped names .decoding fun charset treatment =>
      Encoding.decode charset treatment bs))

/-- Parts with a mark between groups of `size`, counted from the right, or from the left for a
negative `size`. -/
def grouped (mark : Code) (size : Int) (parts : List Text) : Text :=
  let starts (i : Nat) : Bool :=
    i != 0 && (if size < 0 then i else parts.length - i) % size.natAbs == 0
  parts.zipIdx.flatMap fun p => if starts p.2 then mark :: p.1 else p.1

def hexMark (v : Value) : Except Fault Code := do
  let t ← match v with
    | .text t _ => pure t
    | .bytes bs _ => pure (bs.map (·.toNat))
    | _ => throw .type
  match t with
  | [c] => if c < 128 then pure c else throw .value
  | _ => throw .value

def groupSize : Option Value → Except Fault Int
  | some v => v.toInt
  | none => .ok 1

def inHex (bs : List UInt8) (c : Call) : Except Fault Value := do
  let digits := bs.map fun b => Text.Quoted.hex 2 b.toNat
  match ← c.named (["sep", "bytes_per_sep"].map Text.ofString) with
  | [mark, size] =>
    let size ← groupSize size
    match mark with
    | none => pure (.ofText digits.flatten)
    | some v =>
      let mark ← hexMark v
      pure (.ofText (if size = 0 then digits.flatten else grouped mark size digits))
  | _ => throw .type

/-- Methods that texts and bytes share, except those that make lists. -/
def common? (s : Subject) (h : Heap) (name : Text) (c : Call) :
    Option (Except Fault Value) :=
  let is (n : String) : Bool := name == Text.ofString n
  if is "strip" then some (trimmed s Text.trim c)
  else if is "lstrip" then some (trimmed s Text.trimLeft c)
  else if is "rstrip" then some (trimmed s Text.trimRight c)
  else if is "join" then some (joined s h c)
  else if is "replace" then some (replaced s c)
  else if is "startswith" then some (affixed s Text.startsWith c)
  else if is "endswith" then some (affixed s Text.endsWith c)
  else if is "find" then some ((searched s Text.find? c).map positionOr)
  else if is "rfind" then some ((searched s Text.findLast? c).map positionOr)
  else if is "index" then some (searched s Text.find? c >>= positionOf)
  else if is "rindex" then some (searched s Text.findLast? c >>= positionOf)
  else if is "count" then some ((searched s Text.count c).map fun n => .ofInt n)
  else if is "partition" then some (parted s Text.partition c)
  else if is "rpartition" then some (parted s Text.partitionLast c)
  else if is "removeprefix" then some (without s Text.isPrefix List.drop c)
  else if is "removesuffix" then
    some (without s Text.isSuffix (fun n t => t.take (t.length - n)) c)
  else if is "center" then some (filled s Text.center c)
  else if is "ljust" then some (filled s Text.padRight c)
  else if is "rjust" then some (filled s Text.padLeft c)
  else if is "zfill" then some (zeroFilled s c)
  else if is "expandtabs" then some (tabbed s c)
  else match caseMap? name, test? s.kind name with
    | some f, _ => some (do c.empty; pure (s.kind.built (f s.chars)))
    | _, some p => some (do c.empty; pure (.bool (p s.chars)))
    | _, _ => none

def ofString (s : Subject) (name : Text) (c : Call) : Memory Value := do
  if name = "split" then
    Memory.newList (← ofExcept (splitWith s (Text.words s.kind.isBlank) Text.pieces c))
  else if name = "rsplit" then
    Memory.newList (← ofExcept
      (splitWith s (Text.wordsFromEnd s.kind.isBlank) Text.piecesFromEnd c))
  else if name = "splitlines" then Memory.newList (← ofExcept (linesOf s c))
  else ofExcept ((common? s (← get) name c).getD (.error .type))

def ofText (self : Value) (t : Text) (name : Text) (c : Call) : Memory Value :=
  if name = "encode" then ofExcept (encoded t c)
  else ofString ⟨.text, self, t⟩ name c

def ofBytes (self : Value) (bs : List UInt8) (name : Text) (c : Call) : Memory Value :=
  if name = "decode" then ofExcept (decoded bs c)
  else if name = "hex" then ofExcept (inHex bs c)
  else ofString ⟨.bytes, self, (StringKind.bytes.read? self).getD []⟩ name c

end Phrasebook.Method
