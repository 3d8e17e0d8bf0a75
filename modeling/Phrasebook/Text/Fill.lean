import Phrasebook.Text.Basic
/-!
Filling a text up to a width, and replacing tabs by blanks. A width that is too small leaves the
text as it is.
-/
namespace Phrasebook.Text

def fillGap (t : Text) (width : Int) : Nat := (width - t.length).toNat

def padRight (fill : Code) (width : Int) (t : Text) : Text :=
  t ++ List.replicate (fillGap t width) fill

def padLeft (fill : Code) (width : Int) (t : Text) : Text :=
  List.replicate (fillGap t width) fill ++ t

/-- Fills both ends; of an odd gap the larger half stands in front if the width is odd. -/
def center (fill : Code) (width : Int) (t : Text) : Text :=
  let gap := fillGap t width
  let left := gap / 2 + if gap % 2 = 1 ∧ width % 2 = 1 then 1 else 0
  List.replicate left fill ++ t ++ List.replicate (gap - left) fill

/-- Fills with zeros, behind the sign if there is one. -/
def zeroFill (width : Int) (t : Text) : Text :=
  let zeros := List.replicate (fillGap t width) 48
  match t with
  | c :: rest => if c = 43 ∨ c = 45 then c :: zeros ++ rest else zeros ++ t
  | [] => zeros

def tabsFrom (size : Int) (out : Text) (column : Nat) : Text → Text
  | [] => out.reverse
  | c :: rest =>
    if c = 9 then
      let n := if 0 < size then size.toNat - column % size.toNat else 0
      tabsFrom size (List.replicate n 32 ++ out) (column + n) rest
    else tabsFrom size (c :: out) (if c = 10 ∨ c = 13 then 0 else column + 1) rest

/-- Replaces each tab by blanks up to the next multiple of `size`. -/
def expandTabs (size : Int) (t : Text) : Text := tabsFrom size [] 0 t

end Phrasebook.Text
