import Phrasebook.Text.Encoding.Treatment
/-!
The encoding of all characters in seven bits: characters in common use stand for themselves, and all
others for runs of digits in base sixty-four between a plus and a minus sign.
-/
namespace Phrasebook.Encoding.Utf7

private def digit (n : Nat) : Nat :=
  if n < 26 then 65 + n else if n < 52 then 71 + n else if n < 62 then n - 4
  else if n = 62 then 43 else 47

private def digitValue? (b : Nat) : Option Nat :=
  if 65 ≤ b ∧ b ≤ 90 then some (b - 65) else if 97 ≤ b ∧ b ≤ 122 then some (b - 71)
  else if 48 ≤ b ∧ b ≤ 57 then some (b + 4)
  else if b = 43 then some 62 else if b = 47 then some 63 else none

private def isDirect (c : Code) : Bool :=
  c == 9 || c == 10 || c == 13 || (32 ≤ c && c < 126 && c != 43 && c != 92)

/-- Bits not yet written: how many, and their number. -/
private structure Bits where
  count : Nat := 0
  value : Nat := 0

private def digitsOf (bits : Bits) : Nat → List Nat × Bits
  | 0 => ([], bits)
  | fuel + 1 =>
    if 6 ≤ bits.count then
      let left := bits.count - 6
      let (digits, rest) := digitsOf ⟨left, bits.value % Nat.pow 2 left⟩ fuel
      (digit (bits.value / Nat.pow 2 left) :: digits, rest)
    else ([], bits)

private def lastDigit (bits : Bits) : List Nat :=
  if bits.count = 0 then [] else [digit (bits.value * Nat.pow 2 (6 - bits.count))]

/-- The units of two bytes of a character. -/
private def units (c : Code) : List Nat := if c < 0x10000 then [c] else [highOf c, lowOf c]

private def pushUnits (bits : Bits) : List Nat → List Nat × Bits
  | [] => ([], bits)
  | u :: rest =>
    let (digits, bits) := digitsOf ⟨bits.count + 16, bits.value * 65536 + u⟩ 4
    let (more, bits) := pushUnits bits rest
    (digits ++ more, bits)

/-- The rest of a text, within a run of digits if there are `bits`. -/
private def encodeFrom : Option Bits → Text → List Nat
  | none, [] => []
  | some bits, [] => lastDigit bits ++ [45]
  | none, c :: rest =>
    if c = 43 then 43 :: 45 :: encodeFrom none rest
    else if isDirect c then c :: encodeFrom none rest
    else
      let (digits, bits) := pushUnits {} (units c)
      43 :: digits ++ encodeFrom (some bits) rest
  | some bits, c :: rest =>
    if isDirect c then
      let close := if (digitValue? c).isSome || c = 45 then [45] else []
      lastDigit bits ++ close ++ c :: encodeFrom none rest
    else
      let (digits, bits) := pushUnits bits (units c)
      digits ++ encodeFrom (some bits) rest

def encode (t : Text) : List Nat := encodeFrom none t

/-- A run of digits being read: where it starts, its bits, and half a pair. -/
private structure Shift where
  start : Nat
  bits : Bits := {}
  high : Option Code := none

/-- What has been read: the text, reversed, and the run that is open. -/
private structure Reading where
  out : Text := []
  shift : Option Shift := none

/-- Takes a unit in. Halves of pairs that find no partner stay as they are. -/
private def pushUnit (out : Text) (high : Option Code) (u : Nat) : Text × Option Code :=
  match high with
  | some h =>
    if isLowSurrogate u then (ofPair h u :: out, none)
    else if isHighSurrogate u then (h :: out, some u) else (u :: h :: out, none)
  | none => if isHighSurrogate u then (out, some u) else (u :: out, none)

private def pushDigit (r : Reading) (s : Shift) (n : Nat) : Reading :=
  let bits : Bits := ⟨s.bits.count + 6, s.bits.value * 64 + n⟩
  if 16 ≤ bits.count then
    let left := bits.count - 16
    let (out, high) := pushUnit r.out s.high (bits.value / Nat.pow 2 left)
    ⟨out, some ⟨s.start, ⟨left, bits.value % Nat.pow 2 left⟩, high⟩⟩
  else { r with shift := some { s with bits := bits } }

private def isCutOff (s : Shift) : Bool :=
  6 ≤ s.bits.count || (0 < s.bits.count && s.bits.value != 0)

private def decodeFrom (treatment : Option Treatment) (bs : List Nat) :
    Nat → Nat → Reading → Except Failure Text
  | 0, _, r => .ok r.out.reverse
  | fuel + 1, i, r =>
    let fail (start stop : Nat) (r : Reading) : Except Failure Text := do
      let (t, n) ← recover (fun _ => none) treatment (bs.drop start) (stop - start)
      decodeFrom treatment bs fuel (start + n) { r with out := t.reverse ++ r.out }
    match bs[i]?, r.shift with
    | none, none => .ok r.out.reverse
    | none, some s =>
      if s.high.isSome || isCutOff s then fail s.start bs.length { r with shift := none }
      else .ok r.out.reverse
    | some b, some s => match digitValue? b with
      | some n => decodeFrom treatment bs fuel (i + 1) (pushDigit r s n)
      | none =>
        if isCutOff s then fail s.start (i + 1) { r with shift := none }
        else
          let out := match s.high with
            | some h => if b < 128 then h :: r.out else r.out
            | none => r.out
          decodeFrom treatment bs fuel (if b = 45 then i + 1 else i) ⟨out, none⟩
    | some b, none =>
      if b = 43 then match bs[i + 1]? with
        | some c =>
          if c = 45 then decodeFrom treatment bs fuel (i + 2) { r with out := 43 :: r.out }
          else if (digitValue? c).isNone then fail i (i + 2) r
          else decodeFrom treatment bs fuel (i + 1) { r with shift := some ⟨i, {}, none⟩ }
        | none => decodeFrom treatment bs fuel (i + 1) { r with shift := some ⟨i, {}, none⟩ }
      else if b < 128 then decodeFrom treatment bs fuel (i + 1) { r with out := b :: r.out }
      else fail i (i + 1) r

def decode (treatment : Option Treatment) (bs : List Nat) : Except Failure Text :=
  decodeFrom treatment bs (4 * bs.length + 4) 0 {}

end Phrasebook.Encoding.Utf7
