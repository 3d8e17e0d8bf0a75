import Phrasebook.Text.Basic
/-!
Segments of a template source: literal text, and expressions between a dollar sign with an opening
brace and the brace that closes it. Braces nest, and those in quotation marks do not count.
-/
namespace Phrasebook

/-- A piece of a template source. The offset of an expression is that of its dollar sign. -/
inductive Segment where
  | text (body : Text)
  | expr (body : Text) (offset : Nat)
  deriving DecidableEq

namespace Segment

def opening : Text := [36, 123]

def isQuote (c : Code) : Bool := c == 34 || c == 39

/-- The body of a span and what follows its closing brace. `depth` counts the braces still open,
`quote` is the quotation mark that has to come; behind a backslash any character is quoted. -/
def spanFrom (depth : Nat) (quote : Option Code) (body : Text) : Text → Option (Text × Text)
  | [] => none
  | c :: rest =>
    match quote with
    | some q =>
      if c = 92 then match rest with
        | [] => none
        | d :: rest => spanFrom depth (some q) (d :: c :: body) rest
      else spanFrom depth (if c = q then none else some q) (c :: body) rest
    | none =>
      if isQuote c then spanFrom depth (some c) (c :: body) rest
      else if c = 123 then spanFrom (depth + 1) none (c :: body) rest
      else if c = 125 then
        match depth with
        | 0 => some (body.reverse, rest)
        | depth + 1 => spanFrom depth none (c :: body) rest
      else spanFrom depth none (c :: body) rest

def span? (t : Text) : Option (Text × Text) := spanFrom 0 none [] t

/-- The text before the first marker, and what follows the marker. -/
def literal : Text → Text × Option Text
  | [] => ([], none)
  | c :: rest =>
    match c, rest with
    | 36, 123 :: after => ([], some after)
    | _, _ =>
      let (body, after) := literal rest
      (c :: body, after)

def segmentsFrom : Nat → Nat → Text → Except Nat (List Segment)
  | 0, _, _ => .ok []
  | fuel + 1, offset, t => do
    let (body, after) := literal t
    let front := if body.isEmpty then [] else [Segment.text body]
    match after with
    | none => pure front
    | some after =>
      let start := offset + body.length
      match span? after with
      | none => throw start
      | some (inside, rest) =>
        let more ← segmentsFrom fuel (start + inside.length + 3) rest
        pure (front ++ .expr inside start :: more)

/-- The segments of a source, or the offset of a marker that is never closed. -/
def split (source : Text) : Except Nat (List Segment) := segmentsFrom (source.length + 1) 0 source

def toText : Segment → Text
  | .text body => body
  | .expr body _ => opening ++ body ++ [125]

end Segment
end Phrasebook
