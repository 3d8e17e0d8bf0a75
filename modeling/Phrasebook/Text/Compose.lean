import Phrasebook.Text.Basic
import Phrasebook.Text.FoldTable
/-!
Compatibility composition, the form in which names are compared: decompose, order the combining
marks, compose. Hangul syllables go by arithmetic, all else by table.
-/
namespace Phrasebook.Text

private def foldRunTable : Array (Nat × Nat × Nat) := go #[] foldRuns
where
  go (out : Array (Nat × Nat × Nat)) : List Nat → Array (Nat × Nat × Nat)
    | a :: width :: image :: rest => go (out.push (a, a + width, image)) rest
    | _ => out

private def foldWideTable : Array (Nat × List Nat) := go #[] foldWide (foldWide.length)
where
  go (out : Array (Nat × List Nat)) (t : List Nat) : Nat → Array (Nat × List Nat)
    | 0 => out
    | fuel + 1 => match t with
      | c :: n :: rest => go (out.push (c, rest.take n)) (rest.drop n) fuel
      | _ => out

private def combiningTable : Array (Nat × Nat × Nat) := go #[] combiningRuns
where
  go (out : Array (Nat × Nat × Nat)) : List Nat → Array (Nat × Nat × Nat)
    | a :: width :: cls :: rest => go (out.push (a, a + width, cls)) rest
    | _ => out

private def pairTable : List ((Nat × Nat) × Nat) := go canonicalPairs
where
  go : List Nat → List ((Nat × Nat) × Nat)
    | a :: b :: c :: rest => ((a, b), c) :: go rest
    | _ => []

def combiningClass (c : Code) : Nat :=
  if c < 768 then 0
  else match combiningTable.find? (fun r => r.1 ≤ c && c ≤ r.2.1) with
    | some r => r.2.2
    | none => 0

def decomposed (c : Code) : Text :=
  if c < 160 then [c]
  else if 44032 ≤ c ∧ c ≤ 55203 then
    let s := c - 44032
    let lv := [4352 + s / 588, 4449 + s % 588 / 28]
    if s % 28 = 0 then lv else lv ++ [4519 + s % 28]
  else match foldRunTable.find? (fun r => r.1 ≤ c && c ≤ r.2.1) with
    | some r => [r.2.2 + (c - r.1)]
    | none => match foldWideTable.find? (fun e => e.1 == c) with
      | some e => e.2
      | none => [c]

private def insertMark (c : Code) (k : Nat) : List (Code × Nat) → List (Code × Nat)
  | [] => [(c, k)]
  | (d, j) :: rest => if k < j then (c, k) :: (d, j) :: rest else (d, j) :: insertMark c k rest

/-- Sorts each run of combining marks by class, keeping the order of equals. -/
private def orderMarks (run : List (Code × Nat)) : Text → Text
  | [] => run.map (·.1)
  | c :: rest =>
    let k := combiningClass c
    if k = 0 then run.map (·.1) ++ c :: orderMarks [] rest
    else orderMarks (insertMark c k run) rest

private def composePair? (a b : Code) : Option Code :=
  if 4352 ≤ a ∧ a < 4371 ∧ 4449 ≤ b ∧ b < 4470 then
    some (44032 + ((a - 4352) * 21 + (b - 4449)) * 28)
  else if 44032 ≤ a ∧ a ≤ 55203 ∧ (a - 44032) % 28 = 0 ∧ 4520 ≤ b ∧ b < 4547 then
    some (a + (b - 4519))
  else pairTable.lookup (a, b)

/-- Joins each mark to its starter unless a mark of the same or a higher class stands between:
`held` are the marks that stayed, newest first, `last` the class of the newest. -/
private def composeFrom (starter : Code) (held : Text) (last : Nat) : Text → Text
  | [] => starter :: held.reverse
  | c :: rest =>
    let k := combiningClass c
    let blocked := !held.isEmpty && (k = 0 || last ≥ k)
    match if blocked then none else composePair? starter c with
    | some both => composeFrom both held last rest
    | none =>
      if k = 0 then starter :: held.reverse ++ composeFrom c [] 0 rest
      else composeFrom starter (c :: held) k rest

private def composeMarks : Text → Text
  | [] => []
  | c :: rest =>
    if combiningClass c = 0 then composeFrom c [] 0 rest else c :: composeMarks rest

def nameForm (t : Text) : Text :=
  if t.all (· < 128) then t else composeMarks (orderMarks [] (t.flatMap decomposed))

end Phrasebook.Text
