import Phrasebook.Expr.Basic
import Phrasebook.Text.Class
import Phrasebook.Text.Compose
/-!
Cutting expression text into tokens. A string token keeps its body as written; escapes are read later.
Inside brackets a line end is blank; outside it is a token. Brackets must match, nest at most two
hundred deep, and a line outside them starts at its margin.
-/
namespace Phrasebook

inductive ParseError where
  | malformed
  | notEncodable
  | nestedTooDeep
  deriving DecidableEq

structure StringToken where
  isBytes : Bool
  raw : Bool
  formatted : Bool
  body : Text

inductive Token where
  | name (id : Text)
  | keyword (word : String)
  | number (value : Literal)
  | string (value : StringToken)
  | op (symbol : String)
  | newline

namespace Token

def keywords : List String :=
  ["False", "None", "True", "and", "as", "assert", "async", "await", "break", "class",
   "continue", "def", "del", "elif", "else", "except", "finally", "for", "from", "global", "if",
   "import", "in", "is", "lambda", "nonlocal", "not", "or", "pass", "raise", "return", "try",
   "while", "with", "yield"]

/-- Operators and delimiters, longer ones first. Those that only statements use are here too: the
longest match must find them. -/
def symbols : List String :=
  ["**=", "//=", ">>=", "<<=", "...",
   "==", "!=", "<>", "<=", ">=", "<<", ">>", "**", "//", "->", ":=",
   "+=", "-=", "*=", "/=", "%=", "&=", "|=", "^=", "@=",
   "(", ")", "[", "]", "\x7b", "\x7d", ",", ":", ".", ";", "+", "-", "*", "/", "|", "&",
   "<", ">", "=", "%", "~", "^", "@"]

def isOp (symbol : String) : Token → Bool
  | .op s => s == symbol
  | _ => false

def isKeyword (word : String) : Token → Bool
  | .keyword w => w == word
  | _ => false

end Token

namespace Lexer

def isAsciiDigit (c : Code) : Bool := 48 ≤ c && c ≤ 57

def isHexDigit (c : Code) : Bool :=
  isAsciiDigit c || (97 ≤ c && c ≤ 102) || (65 ≤ c && c ≤ 70)

def hexValue (c : Code) : Nat :=
  if c ≤ 57 then c - 48 else if c ≤ 70 then c - 55 else c - 87

/-- May stand in a word: every character beyond ASCII may, until the word is checked whole. -/
def isWordChar (c : Code) : Bool :=
  isAsciiDigit c || (97 ≤ c && c ≤ 122) || (65 ≤ c && c ≤ 90) || c == 95 || 128 ≤ c

def isWordStart (c : Code) : Bool := isWordChar c && !isAsciiDigit c

/-- Every line end as a line feed. -/
def unifyLines : Text → Text
  | 13 :: 10 :: rest => 10 :: unifyLines rest
  | 13 :: rest => 10 :: unifyLines rest
  | c :: rest => c :: unifyLines rest
  | [] => []

/-- Digits with single underscores between them; `none` when an underscore has no digit after
it. -/
def digitRun (isDigit : Code → Bool) (digits : Text) : Text → Option (Text × Text)
  | [] => some (digits.reverse, [])
  | c :: rest =>
    if isDigit c then digitRun isDigit (c :: digits) rest
    else if c = 95 then
      match rest with
      | d :: _ => if isDigit d then digitRun isDigit digits rest else none
      | [] => none
    else some (digits.reverse, c :: rest)

def valueOf (base : Nat) (digits : Text) : Nat :=
  digits.foldl (fun n c => n * base + hexValue c) 0

/-- A number may touch a keyword that can follow it, and no other word. -/
def endsNumber (t : Text) : Bool :=
  Text.isPrefix "and" t || Text.isPrefix "else" t || Text.isPrefix "for" t ||
  Text.isPrefix "if" t || Text.isPrefix "in" t || Text.isPrefix "is" t ||
  Text.isPrefix "or" t || Text.isPrefix "not" t ||
  match t with
  | [] => true
  | c :: _ => !isWordChar c

def finish (value : Literal) (rest : Text) : Option (Token × Text) :=
  if endsNumber rest then some (.number value, rest) else none

def radix (base : Nat) (isDigit : Code → Bool) (t : Text) : Option (Token × Text) :=
  match digitRun isDigit [] t with
  | some (digits, rest) =>
    if digits.isEmpty then none
    else if rest.head?.any isAsciiDigit then none
    else finish (.int (valueOf base digits)) rest
  | none => none

/-- Whether there is a minus, whether there is a sign at all, and what follows it. -/
def sign : Text → Bool × Bool × Text
  | 43 :: rest => (false, true, rest)
  | 45 :: rest => (true, true, rest)
  | t => (false, false, t)

/-- The exponent after its letter; `none` when no digit follows. -/
def exponent? (t : Text) : Option (Option (Int × Text)) :=
  let (negative, signed, digits) := sign t
  match digits with
  | d :: _ =>
    if isAsciiDigit d then
      match digitRun isAsciiDigit [] digits with
      | some (ds, rest) =>
        let n : Int := valueOf 10 ds
        some (some (if negative then -n else n, rest))
      | none => none
    else if signed then none else some none
  | [] => if signed then none else some none

def floating (whole fraction : Text) (t : Text) : Option (Token × Text) :=
  let done (e : Int) (rest : Text) : Option (Token × Text) :=
    let x := Binary.ofScientific false (valueOf 10 (whole ++ fraction)) (e - fraction.length)
    match rest with
    | c :: after => if c = 106 ∨ c = 74 then finish (.imaginary x) after else finish (.float x) rest
    | [] => finish (.float x) []
  match t with
  | c :: rest =>
    if c = 101 ∨ c = 69 then
      match exponent? rest with
      | some (some (e, after)) => done e after
      | some none => if endsNumber t then done 0 t else none
      | none => none
    else done 0 t
  | [] => done 0 []

/-- Integers in decimal have no leading zeros and at most 4300 digits. -/
def decimal (t : Text) : Option (Token × Text) :=
  match digitRun isAsciiDigit [] t with
  | none => none
  | some (whole, rest) =>
    match rest with
    | 46 :: after =>
      match after with
      | d :: _ =>
        if isAsciiDigit d then
          match digitRun isAsciiDigit [] after with
          | some (fraction, rest) => floating whole fraction rest
          | none => none
        else floating whole [] after
      | [] => floating whole [] after
    | c :: after =>
      if c = 101 ∨ c = 69 then
        match exponent? after with
        | some (some _) => floating whole [] rest
        | some none => integer whole rest
        | none => none
      else if c = 106 ∨ c = 74 then
        finish (.imaginary (Binary.ofScientific false (valueOf 10 whole) 0)) after
      else integer whole rest
    | [] => integer whole []
where
  integer (whole rest : Text) : Option (Token × Text) :=
    if whole.head? = some 48 && whole.any (· != 48) then none
    else if whole.length > 4300 then none
    else finish (.int (valueOf 10 whole)) rest

/-- A number at the head of the text, which starts with a digit or with a point and a digit. -/
def number (t : Text) : Option (Token × Text) :=
  match t with
  | 48 :: c :: rest =>
    if c = 120 ∨ c = 88 then radix 16 isHexDigit rest
    else if c = 111 ∨ c = 79 then radix 8 (fun d => 48 ≤ d && d ≤ 55) rest
    else if c = 98 ∨ c = 66 then radix 2 (fun d => d == 48 || d == 49) rest
    else decimal t
  | 46 :: rest =>
    match digitRun isAsciiDigit [] rest with
    | some (fraction, rest) => floating [] fraction rest
    | none => none
  | t => decimal t

def shortBody (quote : Code) (body : Text) : Text → Option (Text × Text)
  | [] => none
  | 92 :: c :: rest => shortBody quote (c :: 92 :: body) rest
  | c :: rest =>
    if c = quote then some (body.reverse, rest)
    else if c = 10 then none
    else shortBody quote (c :: body) rest

def longBody (quote : Code) (body : Text) : Text → Option (Text × Text)
  | [] => none
  | 92 :: c :: rest => longBody quote (c :: 92 :: body) rest
  | c :: rest =>
    if c = quote ∧ rest.take 2 = [quote, quote] then some (body.reverse, rest.drop 2)
    else longBody quote (c :: body) rest

/-- The body of a string whose opening quotation mark heads the text. -/
def stringBody : Text → Option (Text × Text)
  | quote :: rest =>
    if rest.take 2 = [quote, quote] then longBody quote [] (rest.drop 2)
    else shortBody quote [] rest
  | [] => none

def stringMark? (mark : Text) : Option (StringToken) :=
  let mark := Text.lowerAscii mark
  if mark = [] ∨ mark = "u" then some ⟨false, false, false, []⟩
  else if mark = "b" then some ⟨true, false, false, []⟩
  else if mark = "r" then some ⟨false, true, false, []⟩
  else if mark = "f" then some ⟨false, false, true, []⟩
  else if mark = "br" ∨ mark = "rb" then some ⟨true, true, false, []⟩
  else if mark = "fr" ∨ mark = "rf" then some ⟨false, true, true, []⟩
  else none

/-- A word is a reserved one as written, or else a name in its composed form. -/
def word (t : Text) : Option Token :=
  match Token.keywords.find? (fun k => Text.ofString k = t) with
  | some k => some (.keyword k)
  | none => if Text.isName t then some (.name (Text.nameForm t)) else none

def isQuote (c : Code) : Bool := c == 34 || c == 39

def closes (opening symbol : String) : Bool :=
  match opening with
  | "(" => symbol == ")"
  | "[" => symbol == "]"
  | _ => symbol == "\x7d"

/-- The brackets open after a symbol; `none` when it closes the wrong one or opens one too many. -/
def nest (brackets : List String) (symbol : String) : Option (List String) :=
  if symbol == "(" || symbol == "[" || symbol == "\x7b" then
    if brackets.length ≥ 200 then none else some (symbol :: brackets)
  else if symbol == ")" || symbol == "]" || symbol == "\x7d" then
    match brackets with
    | opening :: outer => if closes opening symbol then some outer else none
    | [] => none
  else some brackets

def token (t : Text) : Option (Token × Text) :=
  match t with
  | [] => none
  | c :: rest =>
    if isWordStart c then
      let letters := t.takeWhile isWordChar
      let after := t.dropWhile isWordChar
      match after with
      | q :: _ =>
        if isQuote q then
          match stringMark? letters with
          | some flags =>
            (stringBody after).map fun (body, rest) => (.string { flags with body := body }, rest)
          | none => (word letters).map fun w => (w, after)
        else (word letters).map fun w => (w, after)
      | [] => (word letters).map fun w => (w, after)
    else if isQuote c then
      (stringBody t).map fun (body, rest) => (.string ⟨false, false, false, body⟩, rest)
    else if isAsciiDigit c || (c == 46 && rest.head?.any isAsciiDigit) then number t
    else match Token.symbols.find? (fun s : String => Text.isPrefix (Text.ofString s) t) with
      | some s => some (.op s, t.drop s.length)
      | none => none

def isSpace (c : Code) : Bool := c == 32 || c == 9 || c == 12

/-- The margin of a line, counted with tabs to multiples of eight; a form feed starts over. -/
def margin (column : Nat) : Text → Nat × Text
  | 32 :: rest => margin (column + 1) rest
  | 9 :: rest => margin ((column / 8 + 1) * 8) rest
  | 12 :: rest => margin 0 rest
  | 92 :: 10 :: rest => (column, (margin 0 rest).2)
  | t => (column, t)

def dropComment (t : Text) : Text := t.dropWhile (· != 10)

/-- What is passed at once. -/
inductive Lexeme where
  | blank
  | comment
  | token (value : Token)

/-- Whether a line starts, the brackets open, and the text ahead. -/
structure Cursor where
  lineStart : Bool
  brackets : List String
  ahead : Text

def Cursor.moved (here : Cursor) (ahead : Text) : Cursor := { here with ahead := ahead }

/-- A token that does not start a line. -/
def tokenStep (here : Cursor) : Option (Lexeme × Cursor) :=
  match token here.ahead with
  | none => none
  | some (tok, after) =>
    match tok with
    | .op s => (nest here.brackets s).map fun brackets => (.token tok, ⟨false, brackets, after⟩)
    | _ => some (.token tok, here.moved after)

/-- One step; `none` where no step can be made. -/
def step (here : Cursor) : Option (Lexeme × Cursor) :=
  if here.lineStart then
    let (column, rest) := margin 0 here.ahead
    match rest with
    | [] => some (.blank, here.moved [])
    | 10 :: after => some (.blank, here.moved after)
    | 35 :: after => some (.comment, here.moved (dropComment after))
    | _ => if column = 0 then some (.blank, ⟨false, here.brackets, rest⟩) else none
  else match here.ahead with
    | [] => none
    | 10 :: rest =>
      if here.brackets.isEmpty then some (.token .newline, ⟨true, [], rest⟩)
      else some (.blank, here.moved rest)
    | 35 :: rest => some (.comment, here.moved (dropComment rest))
    | 92 :: rest => match rest with
      | 10 :: after => if after.isEmpty then none else some (.blank, here.moved after)
      | _ => none
    | c :: rest => if isSpace c then some (.blank, here.moved rest) else tokenStep here

/-- Steps to the end, where no bracket may be open and the last line ends. -/
def run (out : List Token) : Nat → Cursor → Option (List Token)
  | 0, _ => none
  | fuel + 1, here =>
    if here.ahead.isEmpty then
      if here.lineStart then some out.reverse
      else if here.brackets.isEmpty then some (Token.newline :: out).reverse
      else none
    else match step here with
      | none => none
      | some (.token tok, next) => run (tok :: out) fuel next
      | some (_, next) => run out fuel next

def tokens? (t : Text) : Option (List Token) :=
  let t := unifyLines t
  run [] (2 * t.length + 4) ⟨true, [], t⟩

end Lexer
end Phrasebook
