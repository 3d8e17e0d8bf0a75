import Phrasebook.Text.Class
/-!
Quoted forms: a text or a run of bytes as a literal, and a text as a JSON string.
-/
namespace Phrasebook.Text.Quoted

/-- The numeral of `n` in base sixteen, filled with zeros to `width`. -/
def hex (width n : Nat) : Text :=
  let t := Text.ofNatBase 16 n
  List.replicate (width - t.length) 48 ++ t

/-- A character by number: two, four or eight digits, whichever suffice. -/
def numberEscape (c : Code) : Text :=
  if c < 0x100 then "\\x" ++ hex 2 c
  else if c < 0x10000 then "\\u" ++ hex 4 c
  else "\\U" ++ hex 8 c

/-- A single quotation mark encloses the text unless it occurs inside and a double one does not. -/
def quoteFor (t : Text) : Code := if t.contains 39 && !t.contains 34 then 34 else 39

/-- One character between the marks; `shown` says which characters stand for themselves. -/
def escape (shown : Code → Bool) (quote c : Code) : Text :=
  if c = quote ∨ c = 92 then [92, c]
  else if c = 9 then "\\t" else if c = 10 then "\\n" else if c = 13 then "\\r"
  else if c < 32 ∨ c = 127 then numberEscape c
  else if c < 127 then [c]
  else if shown c then [c] else numberEscape c

/-- The text as a literal: printable characters stand for themselves. -/
def text (t : Text) : Text :=
  let q := quoteFor t
  q :: t.flatMap (escape isPrintable q) ++ [q]

def ascii (t : Text) : Text :=
  let q := quoteFor t
  q :: t.flatMap (escape (fun _ => false) q) ++ [q]

def bytes (bs : List UInt8) : Text :=
  let t := bs.map (·.toNat)
  let q := quoteFor t
  98 :: q :: t.flatMap (escape (fun _ => false) q) ++ [q]

/-- A quoted form with escapes in place of all that is not ASCII. -/
def toAscii (t : Text) : Text := t.flatMap fun c => if c < 128 then [c] else numberEscape c

/-- One character of a JSON string: only the quotation mark, the backslash and control characters
are escaped. -/
def jsonEscape (c : Code) : Text :=
  if c = 34 ∨ c = 92 then [92, c]
  else if c = 8 then "\\b" else if c = 9 then "\\t" else if c = 10 then "\\n"
  else if c = 12 then "\\f" else if c = 13 then "\\r"
  else if c < 32 then "\\u" ++ hex 4 c
  else [c]

def json (t : Text) : Text := 34 :: t.flatMap jsonEscape ++ [34]

end Phrasebook.Text.Quoted
