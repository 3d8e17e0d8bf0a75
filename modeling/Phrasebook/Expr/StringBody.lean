import Phrasebook.Expr.Lexer
/-!
What string tokens stand for: escapes in plain and byte strings, and the pieces of f-strings. A
field of an f-string is kept as expression text; a format may hold fields of its own, whose
formats may not.
-/
namespace Phrasebook.StringBody

private def simpleEscape? (c : Code) : Option Code :=
  if c = 92 ∨ c = 39 ∨ c = 34 then some c
  else if c = 97 then some 7 else if c = 98 then some 8 else if c = 102 then some 12
  else if c = 110 then some 10 else if c = 114 then some 13 else if c = 116 then some 9
  else if c = 118 then some 11 else none

private def isOctal (c : Code) : Bool := 48 ≤ c && c ≤ 55

/-- The value of exactly `n` hexadecimal digits at the head. -/
private def hexDigits? (n : Nat) (t : Text) : Option Nat :=
  let digits := t.take n
  if digits.length = n ∧ digits.all Lexer.isHexDigit then some (Lexer.valueOf 16 digits) else none

/-- Resolves escapes. An unknown escape stands for itself; `none` when a numeric one is cut short
or names no character. -/
private def unescapeFrom (isBytes : Bool) (out : Text) : Nat → Text → Option Text
  | 0, _ => none
  | _ + 1, [] => some out.reverse
  | fuel + 1, 92 :: c :: rest =>
    if c = 10 then unescapeFrom isBytes out fuel rest
    else match simpleEscape? c with
      | some d => unescapeFrom isBytes (d :: out) fuel rest
      | none =>
        if isOctal c then
          let digits := c :: (rest.take 2).takeWhile isOctal
          let n := Lexer.valueOf 8 digits
          unescapeFrom isBytes ((if isBytes then n % 256 else n) :: out) fuel
            (rest.drop (digits.length - 1))
        else if c = 120 then
          match hexDigits? 2 rest with
          | some n => unescapeFrom isBytes (n :: out) fuel (rest.drop 2)
          | none => none
        else if c = 117 ∧ !isBytes then
          match hexDigits? 4 rest with
          | some n => unescapeFrom isBytes (n :: out) fuel (rest.drop 4)
          | none => none
        else if c = 85 ∧ !isBytes then
          match hexDigits? 8 rest with
          | some n => if n < 0x110000 then unescapeFrom isBytes (n :: out) fuel (rest.drop 8)
            else none
          | none => none
        else if c = 78 ∧ !isBytes then none
        else unescapeFrom isBytes (c :: 92 :: out) fuel rest
  | fuel + 1, c :: rest => unescapeFrom isBytes (c :: out) fuel rest

def unescape? (t : Text) : Option Text := unescapeFrom false [] (t.length + 1) t

private def readText? (raw : Bool) (t : Text) : Option Text :=
  if raw then some t else unescape? t

/-- The bytes of a byte string, which holds ASCII only. -/
def bytes? (s : StringToken) : Option (List UInt8) :=
  if s.body.all (· < 128) then
    let codes := if s.raw then some s.body else unescapeFrom true [] (s.body.length + 1) s.body
    codes.map fun cs => cs.map fun c => UInt8.ofNat c
  else none

def text? (s : StringToken) : Option Text := readText? s.raw s.body

/-- A piece of an f-string. `shown` is the field's own text when it ends in an equals sign. -/
inductive Piece where
  | text (value : Text)
  | field (expression : Text) (shown : Option Text) (conversion : Option Conversion)
      (spec : Option (List Piece))

/-- Where the expression text of a field ends: inside quotation marks, or after so many open
brackets. -/
private structure FieldState where
  quote : Option Code
  triple : Bool
  brackets : List Code

/-- The expression text up to the mark that ends it, and the text from that mark on. -/
private def fieldText (st : FieldState) (out : Text) : Nat → Text → Option (Text × Text)
  | 0, _ => none
  | _ + 1, [] => none
  | fuel + 1, c :: rest =>
    if c = 92 then none
    else match st.quote with
      | some q =>
        if c = q then
          if st.triple then
            if rest.take 2 = [q, q] then
              fieldText { st with quote := none } (q :: q :: q :: out) fuel (rest.drop 2)
            else fieldText st (c :: out) fuel rest
          else fieldText { st with quote := none } (c :: out) fuel rest
        else fieldText st (c :: out) fuel rest
      | none =>
        if c = 39 ∨ c = 34 then
          if rest.take 2 = [c, c] then
            fieldText { st with quote := some c, triple := true } (c :: c :: c :: out) fuel
              (rest.drop 2)
          else fieldText { st with quote := some c, triple := false } (c :: out) fuel rest
        else if c = 91 ∨ c = 123 ∨ c = 40 then
          if st.brackets.length ≥ 200 then none
          else fieldText { st with brackets := c :: st.brackets } (c :: out) fuel rest
        else if c = 35 then none
        else if st.brackets.isEmpty ∧
            (c = 33 ∨ c = 58 ∨ c = 125 ∨ c = 61 ∨ c = 60 ∨ c = 62) then
          if (c = 33 ∨ c = 61 ∨ c = 60 ∨ c = 62) ∧ rest.head? = some 61 then
            fieldText st (61 :: c :: out) fuel (rest.drop 1)
          else if c = 60 ∨ c = 62 then fieldText st (c :: out) fuel rest
          else some (out.reverse, c :: rest)
        else if c = 93 ∨ c = 125 ∨ c = 41 then
          match st.brackets with
          | open_ :: outer =>
            if (open_ = 91 ∧ c = 93) ∨ (open_ = 123 ∧ c = 125) ∨ (open_ = 40 ∧ c = 41) then
              fieldText { st with brackets := outer } (c :: out) fuel rest
            else none
          | [] => none
        else fieldText st (c :: out) fuel rest

private def isFieldBlank (c : Code) : Bool := c == 32 || c == 9 || c == 10 || c == 12

private def isAsciiBlank (c : Code) : Bool := c == 32 || (9 ≤ c && c ≤ 13)

/-- Literal text up to a brace. At the top level a doubled brace stands for one, and ends the run
with `true`; a single closing brace is refused there. -/
private def literalRun (raw top : Bool) (out : Text) : Nat → Text → Option (Text × Bool × Text)
  | 0, _ => none
  | _ + 1, [] => some (out.reverse, false, [])
  | fuel + 1, c :: rest =>
    if !raw ∧ c = 92 then
      match rest with
      | [] => some ((c :: out).reverse, false, [])
      | d :: after =>
        if d = 78 then
          match after with
          | 123 :: name =>
            let label := name.takeWhile (· != 125)
            let tail := name.drop label.length
            literalRun raw top ((tail.take 1).reverse ++ label.reverse ++ 123 :: d :: c :: out)
              fuel (tail.drop 1)
          | _ => literalRun raw top (d :: c :: out) fuel after
        else if d = 123 ∨ d = 125 then brace (c :: out) d after fuel
        else literalRun raw top (d :: c :: out) fuel after
    else if c = 123 ∨ c = 125 then brace out c rest fuel
    else literalRun raw top (c :: out) fuel rest
where
  brace (out : Text) (c : Code) (rest : Text) (_ : Nat) : Option (Text × Bool × Text) :=
    if top then
      if rest.head? = some c then some ((c :: out).reverse, true, rest.drop 1)
      else if c = 125 then none
      else some (out.reverse, false, c :: rest)
    else some (out.reverse, false, c :: rest)

private def conversion? (t : Text) : Option (Conversion × Text) :=
  match t with
  | 115 :: rest => some (.plain, rest)
  | 114 :: rest => some (.quoted, rest)
  | 97 :: rest => some (.ascii, rest)
  | _ => none

private def pushText (pieces : List Piece) (t : Text) : List Piece :=
  if t.isEmpty then pieces else .text t :: pieces

mutual

private def piecesFrom (raw : Bool) (level : Nat) (out : List Piece) :
    Nat → Text → Option (List Piece × Text)
  | 0, _ => none
  | fuel + 1, t =>
    match literalRun raw (level == 0) [] (t.length + 1) t with
    | none => none
    | some (literal, doubled, rest) =>
      match readText? raw literal with
      | none => none
      | some literal =>
        let out := pushText out literal
        if doubled then piecesFrom raw level out fuel rest
        else match rest with
          | [] => if level = 0 then some (out.reverse, []) else none
          | c :: after =>
            if c = 125 then some (out.reverse, rest)
            else if level ≥ 2 then none
            else match field raw level fuel after with
              | some (piece, rest) => piecesFrom raw level (piece :: out) fuel rest
              | none => none

/-- A field after its opening brace. -/
private def field (raw : Bool) (level : Nat) : Nat → Text → Option (Piece × Text)
  | 0, _ => none
  | fuel + 1, t =>
    match fieldText ⟨none, false, []⟩ [] (t.length + 1) t with
    | none => none
    | some (expression, rest) =>
      if expression.all isFieldBlank then none
      else
        let (shown, rest) := match rest with
          | 61 :: after =>
            let blanks := after.takeWhile isAsciiBlank
            (some (expression ++ 61 :: blanks), after.drop blanks.length)
          | rest => (none, rest)
        let converted : Option (Option Conversion × Text) := match rest with
          | 33 :: after => (conversion? after).map fun (c, rest) => (some c, rest)
          | rest => some (none, rest)
        match converted with
        | none => none
        | some (conversion, 125 :: rest) => some (.field expression shown conversion none, rest)
        | some (conversion, 58 :: rest) =>
          match piecesFrom raw (level + 1) [] fuel rest with
          | some (spec, 125 :: rest) =>
            some (.field expression shown conversion (some spec), rest)
          | _ => none
        | some _ => none

end

def pieces? (s : StringToken) : Option (List Piece) :=
  (piecesFrom s.raw 0 [] (2 * s.body.length + 2) s.body).map (·.1)

end Phrasebook.StringBody
