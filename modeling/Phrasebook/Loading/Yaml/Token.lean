import Phrasebook.Text.Basic
/-!
Tokens of YAML documents. Indentation becomes opening and closing tokens; a mapping key is known for
one only when its colon is reached, so that its tokens are put in front of it afterwards. A text
that cannot be cut into tokens gives none.
-/
namespace Phrasebook.Yaml

inductive Token where
  | directive
  | documentStart
  | documentEnd
  | sequenceStart
  | mappingStart
  | blockEnd
  | flowSequenceStart
  | flowSequenceEnd
  | flowMappingStart
  | flowMappingEnd
  | blockEntry
  | flowEntry
  | key
  | value
  | alias_ (name : Text)
  | anchor (name : Text)
  | tag (handle : Option Text) (suffix : Text)
  | scalar (text : Text) (plain : Bool)
  deriving DecidableEq

namespace Token

/-- A place where a key may have begun: the number of its first token, and where it stands. -/
structure KeyStart where
  token : Nat
  required : Bool
  index : Nat
  line : Nat
  column : Nat

/-- Where reading stands. `keys` holds the possible key of each flow level, the innermost first. -/
structure Reader where
  rest : Text
  index : Nat := 0
  line : Nat := 0
  column : Nat := 0
  flow : Nat := 0
  indent : Int := -1
  indents : List Int := []
  allowKey : Bool := true
  keys : List (Option KeyStart) := [none]
  tokens : Array Token := #[]

/-- Steps of reading, which fail on malformed text. -/
abbrev Read := StateT Reader Option

private def fail {α : Type} : Read α := fun _ => none

def isBreak (c : Code) : Bool := c == 10 || c == 13 || c == 0x85 || c == 0x2028 || c == 0x2029

private def isBreakOrEnd : Option Code → Bool
  | none => true
  | some c => isBreak c

private def isBlankOrEnd : Option Code → Bool
  | none => true
  | some c => c == 32 || c == 9 || isBreak c

private def peek (n : Nat) : Read (Option Code) := do return (← get).rest[n]?

private def forward (n : Nat) : Read Unit :=
  modify fun r => { r with
    rest := r.rest.drop n
    index := r.index + n
    column := r.column + n }

/-- Takes the characters up to the first that fails `p` off one line. -/
private def takeWhile (p : Code → Bool) : Read Text := do
  let t := (← get).rest.takeWhile p
  forward t.length
  pure t

/-- Takes a line break; all but the Unicode separators read as a line feed. -/
private def lineBreak : Read Text := do
  let r ← get
  let step (n : Nat) (t : Text) : Read Text := do
    set { r with rest := r.rest.drop n, index := r.index + n, line := r.line + 1, column := 0 }
    pure t
  match r.rest with
  | 13 :: 10 :: _ => step 2 [10]
  | c :: _ =>
    if c = 0x2028 ∨ c = 0x2029 then step 1 [c]
    else if isBreak c then step 1 [10] else pure []
  | [] => pure []

private def push (t : Token) : Read Unit := modify fun r => { r with tokens := r.tokens.push t }

private def setAllow (b : Bool) : Read Unit := modify fun r => { r with allowKey := b }

/-- Forgets the possible key of this level; a key that has to be one must not get lost. -/
private def dropKey : Read Unit := do
  let r ← get
  match r.keys with
  | some k :: more => if k.required then fail else set { r with keys := none :: more }
  | _ => pure ()

private def markKey : Read Unit := do
  if (← get).allowKey then
    dropKey
    modify fun r => { r with
      keys := some ⟨r.tokens.size, r.flow == 0 && r.indent == r.column, r.index, r.line, r.column⟩
        :: r.keys.drop 1 }

/-- Forgets possible keys that lie on an earlier line or too far back. -/
private def dropStaleKeys : Read Unit := do
  let r ← get
  let keys ← r.keys.mapM fun k => match k with
    | some k =>
      if k.line ≠ r.line ∨ r.index - k.index > 1024 then
        if k.required then fail else pure none
      else pure (some k)
    | none => pure none
  set { r with keys := keys }

private def unwindFrom : Nat → Int → Read Unit
  | 0, _ => pure ()
  | fuel + 1, column => do
    let r ← get
    if r.indent > column then
      set { r with
        indent := r.indents.headD (-1)
        indents := r.indents.drop 1
        tokens := r.tokens.push .blockEnd }
      unwindFrom fuel column

/-- Closes the blocks that are indented deeper than a column. -/
private def unwind (column : Int) : Read Unit := do
  let r ← get
  if r.flow = 0 then unwindFrom (r.indents.length + 1) column

/-- Opens a block at a column if it is indented deeper. -/
private def addIndent (column : Int) : Read Bool := do
  let r ← get
  if r.indent < column then
    set { r with indent := column, indents := r.indent :: r.indents }
    pure true
  else pure false

/-- Skips blanks, comments and line breaks. After a break in block context a key may begin. -/
private def skipToToken : Nat → Read Unit
  | 0 => pure ()
  | fuel + 1 => do
    let _ ← takeWhile (· == 32)
    if (← peek 0) == some 35 then
      let _ ← takeWhile (!isBreak ·)
    match ← peek 0 with
    | some c =>
      if isBreak c then
        let _ ← lineBreak
        if (← get).flow = 0 then setAllow true
        skipToToken fuel
    | none => pure ()

/-- Whether a document marker of three equal characters stands at the beginning of this line. -/
private def atMarker (c : Code) : Read Bool := do
  let r ← get
  return r.column = 0 && r.rest.take 3 == [c, c, c] && isBlankOrEnd r.rest[3]?

private def marker (t : Token) : Read Unit := do
  unwind (-1)
  dropKey
  setAllow false
  forward 3
  push t

private def flowStart (t : Token) : Read Unit := do
  markKey
  modify fun r => { r with flow := r.flow + 1, keys := none :: r.keys, allowKey := true }
  forward 1
  push t

private def flowEnd (t : Token) : Read Unit := do
  dropKey
  let r ← get
  if r.flow = 0 then
    setAllow false
  else
    set { r with flow := r.flow - 1, keys := r.keys.drop 1, allowKey := false }
  forward 1
  push t

private def flowEntryToken : Read Unit := do
  setAllow true
  dropKey
  forward 1
  push .flowEntry

private def blockEntryToken : Read Unit := do
  let r ← get
  if r.flow = 0 then
    if !r.allowKey then fail
    if ← addIndent r.column then push .sequenceStart
  setAllow true
  dropKey
  forward 1
  push .blockEntry

private def keyToken : Read Unit := do
  let r ← get
  if r.flow = 0 then
    if !r.allowKey then fail
    if ← addIndent r.column then push .mappingStart
  setAllow (r.flow == 0)
  dropKey
  forward 1
  push .key

/-- A colon: makes a key of what was marked as a possible one. -/
private def valueToken : Read Unit := do
  let r ← get
  match r.keys with
  | some k :: more =>
    set { r with keys := none :: more }
    let opens ← if r.flow = 0 then addIndent k.column else pure false
    modify fun r => { r with
      tokens := (r.tokens.extract 0 k.token
        ++ (if opens then #[.mappingStart, .key] else #[.key]))
        ++ r.tokens.extract k.token r.tokens.size
      allowKey := false }
  | _ =>
    if r.flow = 0 then
      if !r.allowKey then fail
      if ← addIndent r.column then push .mappingStart
    setAllow (r.flow == 0)
    dropKey
  forward 1
  push .value

private def isNameChar (c : Code) : Bool :=
  (48 ≤ c && c ≤ 57) || (65 ≤ c && c ≤ 90) || (97 ≤ c && c ≤ 122) || c == 45 || c == 95

private def endsName (c : Option Code) : Bool :=
  isBlankOrEnd c || (c.any fun c => ([63, 58, 44, 93, 125, 37, 64, 96] : List Code).contains c)

private def named (make : Text → Token) : Read Unit := do
  markKey
  setAllow false
  forward 1
  let name ← takeWhile isNameChar
  if name.isEmpty || !endsName (← peek 0) then fail
  push (make name)

private def isTagChar (c : Code) : Bool :=
  isNameChar c || (([59, 47, 63, 58, 64, 38, 61, 43, 36, 44, 46, 33, 126, 42, 39, 40, 41, 91,
    93, 37] : List Code).contains c)

private def tagToken : Read Unit := do
  markKey
  setAllow false
  match (← peek 1) with
  | some 60 =>
    forward 2
    let suffix ← takeWhile isTagChar
    if suffix.isEmpty || (← peek 0) != some 62 then fail
    forward 1
    push (.tag none suffix)
  | c =>
    if isBlankOrEnd c then
      forward 1
      push (.tag none [33])
    else
      forward 1
      let name ← takeWhile isNameChar
      let handle ← if (← peek 0) == some 33 then do
          forward 1
          pure (33 :: name ++ [33])
        else pure [33]
      let front := if handle.length = 1 then name else []
      let suffix := front ++ (← takeWhile isTagChar)
      if suffix.isEmpty then fail
      push (.tag (some handle) suffix)
  if !isBlankOrEnd (← peek 0) then fail

/-- Breaks and blanks between the lines of a quoted scalar. -/
private def quotedBreaks (out : Text) : Nat → Read Text
  | 0 => fail
  | fuel + 1 => do
    if (← atMarker 45) || (← atMarker 46) then fail
    let _ ← takeWhile fun c => c == 32 || c == 9
    if (← peek 0).any isBreak then
      let b ← lineBreak
      quotedBreaks (out ++ b) fuel
    else pure out

private def quotedSpaces (fuel : Nat) : Read Text := do
  let spaces ← takeWhile fun c => c == 32 || c == 9
  match ← peek 0 with
  | none => fail
  | some c =>
    if isBreak c then
      let b ← lineBreak
      let breaks ← quotedBreaks [] fuel
      pure ((if b ≠ [10] then b else if breaks.isEmpty then [32] else []) ++ breaks)
    else pure spaces

private def escapes : List (Code × Code) :=
  [(48, 0), (97, 7), (98, 8), (116, 9), (9, 9), (110, 10), (118, 11), (102, 12), (114, 13),
   (101, 27), (32, 32), (34, 34), (92, 92), (47, 47), (78, 0x85), (95, 0xa0), (76, 0x2028),
   (80, 0x2029)]

private def hexDigit? (c : Code) : Option Nat :=
  if 48 ≤ c ∧ c ≤ 57 then some (c - 48)
  else if 97 ≤ c ∧ c ≤ 102 then some (c - 87)
  else if 65 ≤ c ∧ c ≤ 70 then some (c - 55)
  else none

private def hexEscape (n : Nat) : Read Text := do
  let t := (← get).rest.take n
  if t.length < n then fail
  match t.mapM hexDigit? with
  | some digits =>
    forward n
    let c := digits.foldl (fun n x => n * 16 + x) 0
    if c > 0x10ffff then fail
    pure [c]
  | none => fail

private def escape (fuel : Nat) : Read Text := do
  match ← peek 0 with
  | none => fail
  | some c =>
    match escapes.lookup c with
    | some x => do
      forward 1
      pure [x]
    | none =>
      if c = 120 then do
        forward 1
        hexEscape 2
      else if c = 117 then do
        forward 1
        hexEscape 4
      else if c = 85 then do
        forward 1
        hexEscape 8
      else if isBreak c then do
        let _ ← lineBreak
        quotedBreaks [] fuel
      else fail

private def quotedFrom (double : Bool) (out : List Text) : Nat → Read Text
  | 0 => fail
  | fuel + 1 => do
    let plain ← takeWhile fun c =>
      !(c == 39 || c == 34 || c == 92 || c == 32 || c == 9 || isBreak c)
    let out := plain :: out
    match ← peek 0 with
    | none => fail
    | some c =>
      if c = (if double then 34 else 39) then
        if !double && (← peek 1) == some 39 then
          forward 2
          quotedFrom double ([39] :: out) fuel
        else
          forward 1
          pure out.reverse.flatten
      else if c = 39 ∨ c = 34 ∨ (c = 92 ∧ !double) then
        forward 1
        quotedFrom double ([c] :: out) fuel
      else if c = 92 then
        forward 1
        let t ← escape fuel
        quotedFrom double (t :: out) fuel
      else
        let t ← quotedSpaces fuel
        quotedFrom double (t :: out) fuel

private def quotedScalar (double : Bool) : Read Unit := do
  markKey
  setAllow false
  let fuel := (← get).rest.length + 1
  forward 1
  let t ← quotedFrom double [] fuel
  push (.scalar t false)

private def endsPlain (inFlow : Bool) (c : Code) (next : Option Code) : Bool :=
  c == 32 || c == 9 || isBreak c
    || (c == 58 && (isBlankOrEnd next || (inFlow && next.any fun d =>
      ([44, 91, 93, 123, 125] : List Code).contains d)))
    || (inFlow && ([44, 63, 91, 93, 123, 125] : List Code).contains c)

/-- The characters of a plain scalar up to a blank or a mark that ends it. -/
private def plainRun (inFlow : Bool) : Text → Text
  | [] => []
  | c :: rest => if endsPlain inFlow c rest.head? then [] else c :: plainRun inFlow rest

private def plainBreaks (out : Text) : Nat → Read (Option Text)
  | 0 => fail
  | fuel + 1 => do
    match ← peek 0 with
    | some c =>
      if c = 32 then
        forward 1
        plainBreaks out fuel
      else if isBreak c then
        let b ← lineBreak
        if (← atMarker 45) || (← atMarker 46) then pure none
        else plainBreaks (out ++ b) fuel
      else pure (some out)
    | none => pure (some out)

/-- Blanks and line breaks inside a plain scalar; nothing at a document marker. -/
private def plainSpaces (fuel : Nat) : Read Text := do
  let spaces ← takeWhile (· == 32)
  if (← peek 0).any isBreak then
    let b ← lineBreak
    setAllow true
    if (← atMarker 45) || (← atMarker 46) then pure []
    else match ← plainBreaks [] fuel with
      | none => pure []
      | some breaks =>
        pure ((if b ≠ [10] then b else if breaks.isEmpty then [32] else []) ++ breaks)
  else pure spaces

private def plainFrom (indent : Int) (spaces : Text) (out : List Text) : Nat → Read Text
  | 0 => fail
  | fuel + 1 => do
    let r ← get
    if r.rest.head? == some 35 then pure out.reverse.flatten
    else
      let run := plainRun (r.flow > 0) r.rest
      if run.isEmpty then pure out.reverse.flatten
      else
        setAllow false
        forward run.length
        let out := run :: spaces :: out
        let spaces ← plainSpaces fuel
        let r ← get
        if spaces.isEmpty || r.rest.head? == some 35 || (r.flow == 0 && r.column < indent) then
          pure out.reverse.flatten
        else plainFrom indent spaces out fuel

private def plainScalar : Read Unit := do
  markKey
  setAllow false
  let r ← get
  let t ← plainFrom (r.indent + 1) [] [] (r.rest.length + 1)
  push (.scalar t true)

/-- How the line breaks at the end of a block scalar are kept. -/
inductive Chomp where
  | clip | strip | keep
  deriving DecidableEq

private def chomp? (c : Option Code) : Option Chomp :=
  match c with
  | some 43 => some .keep
  | some 45 => some .strip
  | _ => none

private def increment? (c : Option Code) : Option Nat :=
  match c with
  | some c => if 49 ≤ c ∧ c ≤ 57 then some (c - 48) else none
  | none => none

private def blockHeader : Read (Chomp × Option Nat) := do
  let (chomp, increment) ← match chomp? (← peek 0) with
    | some c => do
      forward 1
      let i := increment? (← peek 0)
      if i.isSome then forward 1
      pure (c, i)
    | none => match increment? (← peek 0) with
      | some i => do
        forward 1
        let c := chomp? (← peek 0)
        if c.isSome then forward 1
        pure (c.getD .clip, some i)
      | none => pure (.clip, none)
  if !(isBreakOrEnd (← peek 0) || (← peek 0) == some 32) then fail
  let _ ← takeWhile (· == 32)
  if (← peek 0) == some 35 then
    let _ ← takeWhile (!isBreak ·)
  if !isBreakOrEnd (← peek 0) then fail
  let _ ← lineBreak
  pure (chomp, increment)

/-- Leading breaks of a block scalar, and the deepest column of a blank line. -/
private def blockIndent (out : Text) (deepest : Nat) : Nat → Read (Text × Nat)
  | 0 => fail
  | fuel + 1 => do
    match ← peek 0 with
    | some c =>
      if c = 32 then
        forward 1
        blockIndent out (max deepest (← get).column) fuel
      else if isBreak c then
        let b ← lineBreak
        blockIndent (out ++ b) deepest fuel
      else pure (out, deepest)
    | none => pure (out, deepest)

private def blockBreaks (indent : Nat) (out : Text) : Nat → Read Text
  | 0 => fail
  | fuel + 1 => do
    let r ← get
    let spaces := min (indent - r.column) (r.rest.takeWhile (· == 32)).length
    forward spaces
    if (← peek 0).any isBreak then
      let b ← lineBreak
      blockBreaks indent (out ++ b) fuel
    else pure out

private def isInnerBlank (c : Option Code) : Bool := c == some 32 || c == some 9

private def blockLines (folded : Bool) (chomp : Chomp) (indent : Nat) (breaks : Text)
    (lastBreak : Text) (out : List Text) : Nat → Read Text
  | 0 => fail
  | fuel + 1 => do
    let r ← get
    if r.column = indent ∧ !r.rest.isEmpty then
      let leadingText := !isInnerBlank r.rest.head?
      let line ← takeWhile (!isBreak ·)
      let out := line :: breaks :: out
      let b ← lineBreak
      let breaks ← blockBreaks indent [] fuel
      let r ← get
      if r.column = indent ∧ !r.rest.isEmpty then
        let joint :=
          if folded && b == [10] && leadingText && !isInnerBlank r.rest.head? then
            (if breaks.isEmpty then [32] else [])
          else b
        blockLines folded chomp indent breaks [] (joint :: out) fuel
      else finish breaks b out
    else finish breaks lastBreak out
where
  finish (breaks b : Text) (out : List Text) : Read Text :=
    let tail := match chomp with
      | .strip => []
      | .clip => b
      | .keep => b ++ breaks
    pure (out.reverse.flatten ++ tail)

private def blockScalar (folded : Bool) : Read Unit := do
  setAllow true
  dropKey
  let fuel := (← get).rest.length + 1
  let least := max 1 ((← get).indent + 1).toNat
  forward 1
  let (chomp, increment) ← blockHeader
  let (indent, breaks) ← match increment with
    | none => do
      let (breaks, deepest) ← blockIndent [] 0 fuel
      pure (max least deepest, breaks)
    | some i => do
      let indent := least + i - 1
      pure (indent, ← blockBreaks indent [] fuel)
  let t ← blockLines folded chomp indent breaks [] [] (fuel + 1)
  push (.scalar t false)

private def startsPlain (inFlow : Bool) (c : Code) (next : Option Code) : Bool :=
  !(([32, 9, 45, 63, 58, 44, 91, 93, 123, 125, 35, 38, 42, 33, 124, 62, 39, 34, 37, 64,
      96] : List Code).contains c || isBreak c)
    || (!isBlankOrEnd next && (c == 45 || (!inFlow && (c == 63 || c == 58))))

private def isDigit (c : Code) : Bool := 48 ≤ c && c ≤ 57

private def isEndOfLine (t : Text) : Bool :=
  match t.dropWhile (· == 32) with
  | [] => true
  | c :: _ => c == 35

/-- Whether a directive has a name and, if it names the version, whether that can be read. -/
private def isDirective (line : Text) : Bool :=
  let name := line.takeWhile isNameChar
  let rest := line.drop name.length
  !name.isEmpty && (rest.isEmpty || rest.head? == some 32) &&
    (name != Text.ofString "YAML" ||
      let version := rest.dropWhile (· == 32)
      let minor := (version.dropWhile isDigit).drop 1
      (version.takeWhile isDigit).dropWhile (· == 48) == [49] &&
        (version.dropWhile isDigit).head? == some 46 &&
        !(minor.takeWhile isDigit).isEmpty &&
        (match minor.dropWhile isDigit with
          | [] => true
          | c :: rest => c == 32 && isEndOfLine rest))

private def token (c : Code) : Read Unit := do
  let r ← get
  let next := r.rest[1]?
  let inFlow := r.flow > 0
  if c = 37 ∧ r.column = 0 then
    unwind (-1)
    dropKey
    setAllow false
    let line ← takeWhile (!isBreak ·)
    if isDirective (line.drop 1) then push .directive else fail
  else if ← atMarker 45 then marker .documentStart
  else if ← atMarker 46 then marker .documentEnd
  else if c = 91 then flowStart .flowSequenceStart
  else if c = 123 then flowStart .flowMappingStart
  else if c = 93 then flowEnd .flowSequenceEnd
  else if c = 125 then flowEnd .flowMappingEnd
  else if c = 44 then flowEntryToken
  else if c = 45 ∧ isBlankOrEnd next then blockEntryToken
  else if c = 63 ∧ (inFlow ∨ isBlankOrEnd next) then keyToken
  else if c = 58 ∧ (inFlow ∨ isBlankOrEnd next) then valueToken
  else if c = 42 then named .alias_
  else if c = 38 then named .anchor
  else if c = 33 then tagToken
  else if c = 124 ∧ !inFlow then blockScalar false
  else if c = 62 ∧ !inFlow then blockScalar true
  else if c = 39 then quotedScalar false
  else if c = 34 then quotedScalar true
  else if startsPlain inFlow c next then plainScalar
  else fail

private def tokensFrom : Nat → Read Unit
  | 0 => fail
  | fuel + 1 => do
    skipToToken ((← get).rest.length + 1)
    dropStaleKeys
    unwind (← get).column
    match ← peek 0 with
    | none =>
      unwind (-1)
      dropKey
    | some c =>
      token c
      tokensFrom fuel

def isAllowed (c : Code) : Bool :=
  c == 9 || c == 10 || c == 13 || (32 ≤ c && c ≤ 126) || c == 0x85 || (0xa0 ≤ c && c ≤ 0xd7ff)
    || (0xe000 ≤ c && c ≤ 0xfffd) || (0x10000 ≤ c && c ≤ 0x10ffff)

def ofText? (t : Text) : Option (List Token) :=
  if t.all isAllowed then
    let t := if t.head? == some 0xfeff then t.drop 1 else t
    match (tokensFrom (2 * t.length + 2)).run { rest := t } with
    | some (_, r) => some r.tokens.toList
    | none => none
  else none

end Token
end Phrasebook.Yaml
