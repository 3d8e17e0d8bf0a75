import Phrasebook.Expr.Lexer
import Phrasebook.Expr.StringBody
/-!
Reading expressions. One function per level of the grammar, from conditional expressions down to
atoms; each takes a bound on the depth of the calls below it, which the length of the text covers.
-/
namespace Phrasebook.Parser

/-- A step takes tokens from the front, or fails. -/
abbrev Parse := StateT (List Token) Option

private def accept (symbol : String) : Parse Bool := fun ts =>
  match ts with
  | t :: rest => if t.isOp symbol then some (true, rest) else some (false, ts)
  | [] => some (false, ts)

private def acceptWord (word : String) : Parse Bool := fun ts =>
  match ts with
  | t :: rest => if t.isKeyword word then some (true, rest) else some (false, ts)
  | [] => some (false, ts)

private def expect (symbol : String) : Parse Unit := do
  if ← accept symbol then pure () else failure

private def expectWord (word : String) : Parse Unit := do
  if ← acceptWord word then pure () else failure

private def nextIs (symbols : List String) : Parse Bool := fun ts =>
  some (ts.head?.any (fun t => symbols.any t.isOp), ts)

private def nextIsWord (words : List String) : Parse Bool := fun ts =>
  some (ts.head?.any (fun t => words.any t.isKeyword), ts)

/-- A name before the symbol; nothing is taken when it is not there. -/
private def nameBefore (symbol : String) : Parse (Option Text) := fun ts =>
  match ts with
  | .name n :: t :: rest => if t.isOp symbol then some (some n, rest) else some (none, ts)
  | _ => some (none, ts)

private def name : Parse Text := fun ts =>
  match ts with
  | .name n :: rest => some (n, rest)
  | _ => none

/-- The binary operators of one level, loosest first. -/
private def operatorAt (level : Nat) (symbol : String) : Option BinaryOp :=
  match level, symbol with
  | 0, "|" => some .bitOr
  | 1, "^" => some .bitXor
  | 2, "&" => some .bitAnd
  | 3, "<<" => some .shiftLeft
  | 3, ">>" => some .shiftRight
  | 4, "+" => some .add
  | 4, "-" => some .sub
  | 5, "*" => some .mul
  | 5, "/" => some .div
  | 5, "//" => some .floorDiv
  | 5, "%" => some .mod
  | 5, "@" => some .matMul
  | _, _ => none

private def binaryOp (level : Nat) : Parse (Option BinaryOp) := fun ts =>
  match ts with
  | .op s :: rest => match operatorAt level s with
    | some op => some (some op, rest)
    | none => some (none, ts)
  | _ => some (none, ts)

private def compareSymbol (symbol : String) : Option CompareOp :=
  match symbol with
  | "==" => some .eq
  | "!=" => some .notEq
  | "<" => some .less
  | "<=" => some .lessEq
  | ">" => some .greater
  | ">=" => some .greaterEq
  | _ => none

private def compareOp : Parse (Option CompareOp) := fun ts =>
  match ts with
  | .op s :: rest => match compareSymbol s with
    | some op => some (some op, rest)
    | none => some (none, ts)
  | .keyword "in" :: rest => some (some .isIn, rest)
  | .keyword "not" :: .keyword "in" :: rest => some (some .notIn, rest)
  | .keyword "is" :: .keyword "not" :: rest => some (some .notSame, rest)
  | .keyword "is" :: rest => some (some .same, rest)
  | _ => some (none, ts)

private def unaryOp : Parse (Option UnaryOp) := fun ts =>
  match ts with
  | .op "-" :: rest => some (some .negative, rest)
  | .op "+" :: rest => some (some .positive, rest)
  | .op "~" :: rest => some (some .invert, rest)
  | _ => some (none, ts)

private def stringTokens : Parse (List StringToken) := fun ts =>
  some (go [] ts)
where
  go (out : List StringToken) : List Token → List StringToken × List Token
    | .string s :: rest => go (s :: out) rest
    | rest => (out.reverse, rest)

private def connectiveWord : Connective → String
  | .and => "and"
  | .or => "or"

def isStarred : Expr → Bool
  | .starred _ => true
  | _ => false

mutual

/-- Whether an expression may stand before `in` in a comprehension. -/
private def isTarget : Expr → Bool
  | .name _ | .attribute .. | .subscript .. => true
  | .tuple es | .list es => areTargets es
  | _ => false

private def areTargets : List Expr → Bool
  | [] => true
  | .starred e :: rest => isTarget e && areTargets rest
  | e :: rest => isTarget e && areTargets rest

end

/-- The parameters of a lambda, seen up to here. -/
structure Params where
  names : List Text
  simple : Bool
  optional : Bool
  slash : Bool
  star : Bool
  bareStar : Bool

def noParams : Params := ⟨[], true, false, false, false, false⟩

/-- Parts of an f-string: adjacent texts make one part. -/
def joinParts : List (Text ⊕ Expr) → List Expr
  | [] => []
  | .inr e :: rest => e :: joinParts rest
  | .inl t :: rest =>
    match joinParts rest with
    | .literal (.text u) _ :: parts => .literal (.text (t ++ u)) {} :: parts
    | parts => if t.isEmpty then parts else .literal (.text t) {} :: parts

def toParts (pieces : List (Text ⊕ Expr)) : List Expr := joinParts pieces

mutual

def expression : Nat → Parse Expr
  | 0 => failure
  | fuel + 1 => do
    if ← acceptWord "lambda" then lambda fuel noParams
    else
      let body ← connective fuel .or
      if ← acceptWord "if" then
        let test ← connective fuel .or
        expectWord "else"
        let orElse ← expression fuel
        pure (.conditional test body orElse)
      else pure body
termination_by structural fuel => fuel

def connective : Nat → Connective → Parse Expr
  | 0, _ => failure
  | fuel + 1, op => do
    let first ← match op with
      | .or => connective fuel .and
      | .and => inversion fuel
    let rest ← connectiveRest fuel op
    pure (if rest.isEmpty then first else .boolean op (first :: rest))
termination_by structural fuel => fuel

def connectiveRest : Nat → Connective → Parse (List Expr)
  | 0, _ => failure
  | fuel + 1, op => do
    if ← acceptWord (connectiveWord op) then
      let next ← match op with
        | .or => connective fuel .and
        | .and => inversion fuel
      let rest ← connectiveRest fuel op
      pure (next :: rest)
    else pure []
termination_by structural fuel => fuel

def inversion : Nat → Parse Expr
  | 0 => failure
  | fuel + 1 => do
    if ← acceptWord "not" then
      let e ← inversion fuel
      pure (.unary .not e)
    else
      let left ← binary fuel 0
      let rest ← compareRest fuel
      pure (if rest.isEmpty then left else .compare left rest)
termination_by structural fuel => fuel

def compareRest : Nat → Parse (List (CompareOp × Expr))
  | 0 => failure
  | fuel + 1 => do
    match ← compareOp with
    | some op =>
      let e ← binary fuel 0
      let rest ← compareRest fuel
      pure ((op, e) :: rest)
    | none => pure []
termination_by structural fuel => fuel

def binary : Nat → Nat → Parse Expr
  | 0, _ => failure
  | fuel + 1, level => do
    if level ≥ 6 then factor fuel
    else
      let left ← binary fuel (level + 1)
      binaryRest fuel level left
termination_by structural fuel => fuel

def binaryRest : Nat → Nat → Expr → Parse Expr
  | 0, _, _ => failure
  | fuel + 1, level, left => do
    match ← binaryOp level with
    | some op =>
      let right ← binary fuel (level + 1)
      binaryRest fuel level (.binary op left right)
    | none => pure left
termination_by structural fuel => fuel

def factor : Nat → Parse Expr
  | 0 => failure
  | fuel + 1 => do
    match ← unaryOp with
    | some op =>
      let e ← factor fuel
      pure (.unary op e)
    | none =>
      let awaited ← acceptWord "await"
      let base ← primary fuel
      let base := if awaited then .foreign .await else base
      if ← accept "**" then
        let exponent ← factor fuel
        pure (.binary .pow base exponent)
      else pure base
termination_by structural fuel => fuel

def primary : Nat → Parse Expr
  | 0 => failure
  | fuel + 1 => do
    let e ← atom fuel
    trailers fuel e
termination_by structural fuel => fuel

def trailers : Nat → Expr → Parse Expr
  | 0, _ => failure
  | fuel + 1, e => do
    if ← accept "." then
      let attr ← name
      trailers fuel (.attribute e attr)
    else if ← accept "(" then
      let (args, keywords) ← arguments fuel true false false
      trailers fuel (.call e args keywords)
    else if ← accept "[" then
      let index ← slices fuel
      trailers fuel (.subscript e index)
    else pure e
termination_by structural fuel => fuel

def atom : Nat → Parse Expr
  | 0 => failure
  | fuel + 1 => do
    match (← get) with
    | .name n :: rest => set rest; pure (.name n)
    | .keyword "True" :: rest => set rest; pure (.literal (.bool true) {})
    | .keyword "False" :: rest => set rest; pure (.literal (.bool false) {})
    | .keyword "None" :: rest => set rest; pure (.literal .none {})
    | .number v :: rest => set rest; pure (.literal v {})
    | .string _ :: _ => strings fuel
    | .op "..." :: rest => set rest; pure (.literal .ellipsis {})
    | .op "(" :: rest => set rest; group fuel
    | .op "[" :: rest => set rest; listDisplay fuel
    | .op "\x7b" :: rest => set rest; braces fuel
    | _ => failure
termination_by structural fuel => fuel

/-- What follows an opening parenthesis: a tuple, a generator, a yield or one expression. -/
def group : Nat → Parse Expr
  | 0 => failure
  | fuel + 1 => do
    if ← accept ")" then pure (.tuple [])
    else if ← acceptWord "yield" then
      let kind ← yielded fuel
      expect ")"
      pure (.foreign kind)
    else
      let e ← starNamed fuel
      if ← nextIsWord ["for", "async"] then
        if isStarred e then failure
        clauses fuel
        expect ")"
        pure (.foreign .generator)
      else if ← accept "," then
        let rest ← starNamedList fuel ")"
        pure (.tuple (e :: rest))
      else
        expect ")"
        if isStarred e then failure
        pure e
termination_by structural fuel => fuel

def yielded : Nat → Parse Foreign
  | 0 => failure
  | fuel + 1 => do
    if ← acceptWord "from" then
      let _ ← expression fuel
      pure .yieldFrom
    else if ← nextIs [")"] then pure .yield
    else
      yieldItems fuel
      pure .yield
termination_by structural fuel => fuel

def yieldItems : Nat → Parse Unit
  | 0 => failure
  | fuel + 1 => do
    let _ ← if ← accept "*" then binary fuel 0 else expression fuel
    if ← accept "," then
      if ← nextIs [")"] then pure () else yieldItems fuel
    else pure ()
termination_by structural fuel => fuel

def named : Nat → Parse Expr
  | 0 => failure
  | fuel + 1 => do
    match ← nameBefore ":=" with
    | some _ =>
      let _ ← expression fuel
      pure (.foreign .namedExpr)
    | none => expression fuel
termination_by structural fuel => fuel

def starNamed : Nat → Parse Expr
  | 0 => failure
  | fuel + 1 => do
    if ← accept "*" then
      let e ← binary fuel 0
      pure (.starred e)
    else named fuel
termination_by structural fuel => fuel

def starNamedList : Nat → String → Parse (List Expr)
  | 0, _ => failure
  | fuel + 1, close => do
    if ← accept close then pure []
    else
      let e ← starNamed fuel
      if ← accept "," then
        let rest ← starNamedList fuel close
        pure (e :: rest)
      else
        expect close
        pure [e]
termination_by structural fuel => fuel

def listDisplay : Nat → Parse Expr
  | 0 => failure
  | fuel + 1 => do
    if ← accept "]" then pure (.list [])
    else
      let e ← starNamed fuel
      if ← nextIsWord ["for", "async"] then
        if isStarred e then failure
        clauses fuel
        expect "]"
        pure (.foreign .listComp)
      else if ← accept "," then
        let rest ← starNamedList fuel "]"
        pure (.list (e :: rest))
      else
        expect "]"
        pure (.list [e])
termination_by structural fuel => fuel

def braces : Nat → Parse Expr
  | 0 => failure
  | fuel + 1 => do
    if ← accept "\x7d" then pure (.dict [])
    else if ← accept "**" then
      let e ← binary fuel 0
      let rest ← dictRest fuel
      pure (.dict ((none, e) :: rest))
    else if ← nextIs ["*"] then
      let items ← starNamedList fuel "\x7d"
      pure (.set items)
    else
      match ← nameBefore ":=" with
      | some _ =>
        let _ ← expression fuel
        setRest fuel (.foreign .namedExpr)
      | none =>
        let e ← expression fuel
        if ← accept ":" then
          let value ← expression fuel
          if ← nextIsWord ["for", "async"] then
            clauses fuel
            expect "\x7d"
            pure (.foreign .dictComp)
          else
            let rest ← dictRest fuel
            pure (.dict ((some e, value) :: rest))
        else setRest fuel e
termination_by structural fuel => fuel

def setRest : Nat → Expr → Parse Expr
  | 0, _ => failure
  | fuel + 1, e => do
    if ← nextIsWord ["for", "async"] then
      clauses fuel
      expect "\x7d"
      pure (.foreign .setComp)
    else if ← accept "," then
      let rest ← starNamedList fuel "\x7d"
      pure (.set (e :: rest))
    else
      expect "\x7d"
      pure (.set [e])
termination_by structural fuel => fuel

def dictRest : Nat → Parse (List (Option Expr × Expr))
  | 0 => failure
  | fuel + 1 => do
    if ← accept "," then
      if ← accept "\x7d" then pure []
      else if ← accept "**" then
        let e ← binary fuel 0
        let rest ← dictRest fuel
        pure ((none, e) :: rest)
      else
        let key ← expression fuel
        expect ":"
        let value ← expression fuel
        let rest ← dictRest fuel
        pure ((some key, value) :: rest)
    else
      expect "\x7d"
      pure []
termination_by structural fuel => fuel

/-- The index after an opening bracket. A comma or a star makes it a tuple. -/
def slices : Nat → Parse Expr
  | 0 => failure
  | fuel + 1 => do
    let first ← sliceItem fuel
    if ← accept "," then
      let rest ← sliceRest fuel
      pure (.tuple (first :: rest))
    else
      expect "]"
      pure (if isStarred first then .tuple [first] else first)
termination_by structural fuel => fuel

def sliceRest : Nat → Parse (List Expr)
  | 0 => failure
  | fuel + 1 => do
    if ← accept "]" then pure []
    else
      let e ← sliceItem fuel
      if ← accept "," then
        let rest ← sliceRest fuel
        pure (e :: rest)
      else
        expect "]"
        pure [e]
termination_by structural fuel => fuel

def sliceItem : Nat → Parse Expr
  | 0 => failure
  | fuel + 1 => do
    if ← accept "*" then
      let e ← expression fuel
      pure (.starred e)
    else
      match ← nameBefore ":=" with
      | some _ =>
        let _ ← expression fuel
        pure (.foreign .namedExpr)
      | none =>
        let lower ← sliceBound fuel [":"]
        if ← accept ":" then
          let upper ← sliceBound fuel [":", ",", "]"]
          if ← accept ":" then
            let step ← sliceBound fuel [",", "]"]
            pure (.slice lower upper step)
          else pure (.slice lower upper none)
        else match lower with
          | some e => pure e
          | none => failure
termination_by structural fuel => fuel

def sliceBound : Nat → List String → Parse (Option Expr)
  | 0, _ => failure
  | fuel + 1, stops => do
    if ← nextIs stops then pure none
    else
      let e ← expression fuel
      pure (some e)
termination_by structural fuel => fuel

/-- The arguments of a call, up to its closing parenthesis. Positional ones stop at the first
keyword, starred ones at the first double star. -/
def arguments : Nat → Bool → Bool → Bool →
    Parse (List Expr × List (Option Text × Expr))
  | 0, _, _, _ => failure
  | fuel + 1, first, keyword, unpacked => do
    if ← accept ")" then pure ([], [])
    else if ← accept "*" then
      if unpacked then failure
      let e ← expression fuel
      let (args, keywords) ← moreArguments fuel keyword unpacked
      pure (.starred e :: args, keywords)
    else if ← accept "**" then
      let e ← expression fuel
      let (args, keywords) ← moreArguments fuel keyword true
      pure (args, (none, e) :: keywords)
    else
      match ← nameBefore "=" with
      | some n =>
        let e ← expression fuel
        let (args, keywords) ← moreArguments fuel true unpacked
        pure (args, (some n, e) :: keywords)
      | none =>
        if keyword || unpacked then failure
        let e ← named fuel
        if ← nextIsWord ["for", "async"] then
          if !first then failure
          clauses fuel
          expect ")"
          pure ([.foreign .generator], [])
        else
          let (args, keywords) ← moreArguments fuel keyword unpacked
          pure (e :: args, keywords)
termination_by structural fuel => fuel

def moreArguments : Nat → Bool → Bool → Parse (List Expr × List (Option Text × Expr))
  | 0, _, _ => failure
  | fuel + 1, keyword, unpacked => do
    if ← accept "," then arguments fuel false keyword unpacked
    else
      expect ")"
      pure ([], [])
termination_by structural fuel => fuel

def clauses : Nat → Parse Unit
  | 0 => failure
  | fuel + 1 => do
    let _ ← acceptWord "async"
    expectWord "for"
    targets fuel
    expectWord "in"
    let _ ← connective fuel .or
    conditions fuel
    if ← nextIsWord ["for", "async"] then clauses fuel else pure ()
termination_by structural fuel => fuel

def conditions : Nat → Parse Unit
  | 0 => failure
  | fuel + 1 => do
    if ← acceptWord "if" then
      let _ ← connective fuel .or
      conditions fuel
    else pure ()
termination_by structural fuel => fuel

def targets : Nat → Parse Unit
  | 0 => failure
  | fuel + 1 => do
    let _ ← accept "*"
    let e ← primary fuel
    if !isTarget e then failure
    if ← accept "," then
      if ← nextIsWord ["in"] then pure () else targets fuel
    else pure ()
termination_by structural fuel => fuel

def lambda : Nat → Params → Parse Expr
  | 0, _ => failure
  | fuel + 1, ps => do
    if ← accept ":" then
      if ps.bareStar then failure
      let body ← expression fuel
      pure (.lambda ps.names.reverse ps.simple body)
    else if ← accept "/" then
      if ps.slash || ps.star || ps.names.isEmpty then failure
      nextParam fuel { ps with slash := true }
    else if ← accept "**" then
      if ps.bareStar then failure
      let _ ← name
      let _ ← accept ","
      expect ":"
      let body ← expression fuel
      pure (.lambda ps.names.reverse false body)
    else if ← accept "*" then
      if ps.star then failure
      if ← accept "," then
        lambda fuel { ps with star := true, bareStar := true, simple := false }
      else
        let _ ← name
        nextParam fuel { ps with star := true, simple := false }
    else
      let n ← name
      if ← accept "=" then
        let _ ← expression fuel
        nextParam fuel { ps with
          names := n :: ps.names, simple := false, optional := true, bareStar := false }
      else
        if ps.optional && !ps.star then failure
        nextParam fuel { ps with names := n :: ps.names, bareStar := false }
termination_by structural fuel => fuel

def nextParam : Nat → Params → Parse Expr
  | 0, _ => failure
  | fuel + 1, ps => do
    if ← accept "," then lambda fuel ps
    else if ← nextIs [":"] then lambda fuel ps
    else failure
termination_by structural fuel => fuel

/-- Adjacent strings are one; with an f-string among them they are its parts. -/
def strings : Nat → Parse Expr
  | 0 => failure
  | fuel + 1 => do
    let tokens ← stringTokens
    if tokens.all (·.isBytes) then
      match tokens.mapM StringBody.bytes? with
      | some parts => pure (.literal (.bytes parts.flatten) {})
      | none => failure
    else if tokens.any (·.isBytes) then failure
    else if tokens.any (·.formatted) then
      let parts ← stringParts fuel tokens
      pure (.joined (toParts parts))
    else
      match tokens.mapM StringBody.text? with
      | some parts => pure (.literal (.text parts.flatten) {})
      | none => failure
termination_by structural fuel => fuel

def stringParts : Nat → List StringToken → Parse (List (Text ⊕ Expr))
  | 0, _ => failure
  | _ + 1, [] => pure []
  | fuel + 1, s :: rest => do
    let parts ← if s.formatted then
        match StringBody.pieces? s with
        | some pieces => pieceParts fuel pieces
        | none => failure
      else
        match StringBody.text? s with
        | some t => pure [.inl t]
        | none => failure
    let more ← stringParts fuel rest
    pure (parts ++ more)
termination_by structural fuel => fuel

def pieceParts : Nat → List StringBody.Piece → Parse (List (Text ⊕ Expr))
  | 0, _ => failure
  | _ + 1, [] => pure []
  | fuel + 1, .text t :: rest => do
    let more ← pieceParts fuel rest
    pure (.inl t :: more)
  | fuel + 1, .field source shown conversion spec :: rest => do
    let value ← fieldValue fuel source
    let format ← match spec with
      | none => pure none
      | some pieces => do
        let parts ← pieceParts fuel pieces
        pure (some (.joined (toParts parts)))
    let conversion := if shown.isSome && conversion.isNone && format.isNone then
      some .quoted else conversion
    let more ← pieceParts fuel rest
    pure (.inl (shown.getD []) :: .inr (.formatted value conversion format) :: more)
termination_by structural fuel => fuel

/-- A field reads as if it stood in parentheses. -/
def fieldValue : Nat → Text → Parse Expr
  | 0, _ => failure
  | fuel + 1, source => fun ts =>
    match Lexer.tokens? ("(" ++ source ++ ")") with
    | some (_ :: inner) =>
      match (group fuel).run inner with
      | some (e, [.newline]) => some (e, ts)
      | _ => none
    | _ => none
termination_by structural fuel => fuel

end

def topRest : Nat → Parse (List Expr)
  | 0 => failure
  | fuel + 1 => do
    if (← get).head?.any (fun t => match t with
        | .newline => true
        | _ => false) then pure []
    else
      let e ← expression (fuel + 1)
      if ← accept "," then
        let rest ← topRest fuel
        pure (e :: rest)
      else pure [e]

/-- Top level: expressions with a comma between them make a tuple. -/
def top (fuel : Nat) : Parse Expr := do
  let e ← expression fuel
  if ← accept "," then
    let rest ← topRest fuel
    pure (.tuple (e :: rest))
  else pure e

private def isNewline : Token → Bool
  | .newline => true
  | _ => false

end Parser

namespace Expr

mutual

def depth : Expr → Nat
  | .literal .. | .name _ | .foreign _ => 1
  | .attribute e _ | .unary _ e | .starred e | .lambda _ _ e => e.depth + 1
  | .subscript a b | .binary _ a b => max a.depth b.depth + 1
  | .slice a b c => max (depthOption a) (max (depthOption b) (depthOption c)) + 1
  | .call f args keywords => max f.depth (max (depthList args) (depthKeywords keywords)) + 1
  | .boolean _ es | .list es | .tuple es | .set es | .joined es => depthList es + 1
  | .compare a rest => max a.depth (depthCompare rest) + 1
  | .conditional a b c => max a.depth (max b.depth c.depth) + 1
  | .dict items => depthItems items + 1
  | .formatted a _ spec => max a.depth (depthOption spec) + 1

def depthOption : Option Expr → Nat
  | none => 0
  | some e => e.depth

def depthList : List Expr → Nat
  | [] => 0
  | e :: rest => max e.depth (depthList rest)

def depthKeywords : List (Option Text × Expr) → Nat
  | [] => 0
  | (_, e) :: rest => max e.depth (depthKeywords rest)

def depthCompare : List (CompareOp × Expr) → Nat
  | [] => 0
  | (_, e) :: rest => max e.depth (depthCompare rest)

def depthItems : List (Option Expr × Expr) → Nat
  | [] => 0
  | (k, e) :: rest => max (depthOption k) (max e.depth (depthItems rest))

end

end Expr

namespace Parser

private def isSurrogate (c : Code) : Bool := 0xD800 ≤ c && c ≤ 0xDFFF

def maxNesting : Nat := 2960

/-- The expression a text writes, blanks around it aside. A text with a lone surrogate has no
encoding to be read from; a NUL stands in no expression. -/
def parse (t : Text) : Except ParseError Expr :=
  let t := Text.strip t
  if t.any isSurrogate then .error .notEncodable
  else if t.any (· == 0) then .error .malformed
  else match Lexer.tokens? t with
    | none => .error .malformed
    | some tokens =>
      match (top (24 * t.length + 48)).run tokens with
      | some (e, rest) =>
        if rest.all isNewline then
          if e.depth > maxNesting then .error .nestedTooDeep else .ok e
        else .error .malformed
      | none => .error .malformed

end Phrasebook.Parser
