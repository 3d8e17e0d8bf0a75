import Phrasebook.Text.Encoding.Treatment
/-!
Texts as the inside of literals: characters beyond ASCII, or beyond eight bits, by number.
-/
namespace Phrasebook.Encoding.Escaped

private def hexValue? (b : Nat) : Option Nat :=
  if 48 ≤ b ∧ b ≤ 57 then some (b - 48) else if 97 ≤ b ∧ b ≤ 102 then some (b - 87)
  else if 65 ≤ b ∧ b ≤ 70 then some (b - 55) else none

/-- The number of `count` hexadecimal digits behind a backslash and a letter; otherwise how many
bytes of the escape could be read. -/
private def numeral (count : Nat) (bs : List Nat) : Except Nat Nat :=
  let digits := ((bs.drop 2).take count).takeWhile fun b => (hexValue? b).isSome
  if digits.length = count then
    .ok (digits.foldl (fun n b => n * 16 + (hexValue? b).getD 0) 0)
  else .error (2 + digits.length)

private def numbered (count : Nat) (bs : List Nat) : Except Nat (Text × Nat) :=
  match numeral count bs with
  | .ok n => if n ≤ 0x10ffff then .ok ([n], 2 + count) else .error (2 + count)
  | .error n => .error n

private def isOctal (b : Nat) : Bool := 48 ≤ b && b ≤ 55

/-- The character at the front of the inside of a literal. -/
private def decodeFirst (bs : List Nat) : Except Nat (Text × Nat) :=
  match bs with
  | 92 :: rest => match rest with
    | [] => .error 1
    | 10 :: _ => .ok ([], 2)
    | 120 :: _ => numbered 2 bs
    | 117 :: _ => numbered 4 bs
    | 85 :: _ => numbered 8 bs
    | 78 :: _ => .error 2
    | c :: _ =>
      if isOctal c then
        let digits := (rest.take 3).takeWhile isOctal
        .ok ([digits.foldl (fun n b => n * 8 + (b - 48)) 0], 1 + digits.length)
      else match ([(92, 92), (39, 39), (34, 34), (98, 8), (102, 12), (116, 9), (110, 10),
          (114, 13), (118, 11), (97, 7)] : List (Nat × Nat)).lookup c with
        | some x => .ok ([x], 2)
        | none => .ok ([92, c], 2)
  | b :: _ => .ok ([b], 1)
  | [] => .ok ([], 0)

private def encodeCode (c : Code) : Text :=
  if c = 92 then [92, 92] else if c = 9 then [92, 116] else if c = 10 then [92, 110]
  else if c = 13 then [92, 114] else if 32 ≤ c ∧ c < 127 then [c]
  else Text.Quoted.numberEscape c

def codec : Codec where
  encode c := some (encodeCode c)
  decode := decodeFirst

/-- The character at the front of the inside of a raw literal, which has only long numbers. -/
private def decodeRaw (bs : List Nat) : Except Nat (Text × Nat) :=
  match bs with
  | 92 :: 117 :: _ => numbered 4 bs
  | 92 :: 85 :: _ => numbered 8 bs
  | 92 :: c :: _ => .ok ([92, c], 2)
  | b :: _ => .ok ([b], 1)
  | [] => .ok ([], 0)

/-- Long numbers only; all other characters are single bytes. -/
def rawCodec : Codec where
  encode c := some (if c < 256 then [c] else Text.Quoted.numberEscape c)
  decode := decodeRaw

end Phrasebook.Encoding.Escaped
