import Phrasebook.Text.Basic
import Phrasebook.Text.CaseTable
import Phrasebook.Text.Class
/-!
Upper, lower and title case with full mappings. The capital sigma becomes a final sigma after a
cased letter and before no other, looking through the characters that casing ignores.
-/
namespace Phrasebook.Text

def isCased (c : Code) : Bool := casedTable.has c

def isCaseIgnorable (c : Code) : Bool := caseIgnorableTable.has c

/-- The lower-case form of a letter outside its context. -/
def lowerForm (c : Code) : Text :=
  if c = 304 then [105, 775] else [caseImage lowerRows c]

def upperForm (c : Code) : Text :=
  match upperWide.lookup c with
  | some wide => wide
  | none => [caseImage upperRows c]

def titleForm (c : Code) : Text :=
  match titleWide.lookup c with
  | some wide => wide
  | none => [caseImage titleRows c]

def capitalSigma : Code := 931

/-- Whether the nearest character that casing does not ignore is cased. -/
def nextIsCased (t : Text) : Bool :=
  match t.dropWhile isCaseIgnorable with
  | [] => false
  | c :: _ => isCased c

/-- The lower-case form in context: `before` holds the characters before, nearest first. -/
def lowerIn (before : Text) (c : Code) (after : Text) : Text :=
  if c = capitalSigma then
    if nextIsCased before && !nextIsCased after then [962] else [963]
  else lowerForm c

def lowerFrom (before out : Text) : Text → Text
  | [] => out.reverse
  | c :: rest => lowerFrom (c :: before) ((lowerIn before c rest).reverse ++ out) rest

def lower (t : Text) : Text :=
  if t.all (· < 128) then lowerAscii t else lowerFrom [] [] t

def upper (t : Text) : Text :=
  if t.all (· < 128) then upperAscii t else t.flatMap upperForm

/-- Upper case becomes lower case and the reverse. -/
private def swapFrom (before out : Text) : Text → Text
  | [] => out.reverse
  | c :: rest =>
    let form := if isUppercase c then lowerIn before c rest
      else if isLowercase c then upperForm c else [c]
    swapFrom (c :: before) (form.reverse ++ out) rest

def swapcase (t : Text) : Text := swapFrom [] [] t

def capitalize : Text → Text
  | [] => []
  | c :: rest => titleForm c ++ lowerFrom [c] [] rest

private def titleFrom (before out : Text) (inWord : Bool) : Text → Text
  | [] => out.reverse
  | c :: rest =>
    let form := if inWord then lowerIn before c rest else titleForm c
    titleFrom (c :: before) (form.reverse ++ out) (isCased c) rest

/-- A cased letter takes title case when no cased letter stands before it. -/
def title (t : Text) : Text := titleFrom [] [] false t

def allUpper (t : Text) : Bool :=
  t.all (fun c => !(isLowercase c || isTitlecase c)) && t.any isUppercase

def allLower (t : Text) : Bool :=
  t.all (fun c => !(isUppercase c || isTitlecase c)) && t.any isLowercase

private def titledFrom (seen inWord : Bool) : Text → Bool
  | [] => seen
  | c :: rest =>
    if isUppercase c || isTitlecase c then !inWord && titledFrom true true rest
    else if isLowercase c then inWord && titledFrom true true rest
    else titledFrom seen false rest

def allTitled (t : Text) : Bool := titledFrom false false t

end Phrasebook.Text
