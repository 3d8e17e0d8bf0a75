import Phrasebook.Text.Charset.Name
import Phrasebook.Text.Charset.Page
import Phrasebook.Text.Encoding.Wide
/-!
Charsets and their names.
-/
namespace Phrasebook

/-- Charsets. Those of wider units without a byte order have a mark for it in front; the one of
single bytes may have a mark as well. A page gives the characters of bytes. -/
inductive Charset where
  | ascii
  | latin1
  | page (chars : Text)
  | utf7
  | utf8 (isMarked : Bool)
  | utf16 (order : Option Encoding.ByteOrder)
  | utf32 (order : Option Encoding.ByteOrder)
  | escaped (isRaw : Bool)
  | punycode
  | domainName
  | unusable

namespace Charset

private def isWordCode (c : Code) : Bool :=
  (48 ≤ c && c ≤ 57) || (65 ≤ c && c ≤ 90) || (97 ≤ c && c ≤ 122) || c == 46

/-- A name in lower case, with one underscore for whatever stands between its words. -/
def normalName (name : Text) : Text :=
  Text.joinWith [95] ((wordsOf name).map Text.lowerAscii)
where
  wordsOf (name : Text) : List Text :=
    ((name.map fun c => if isWordCode c then c else 32).splitOnP (· == 32)).filter (!·.isEmpty)

private def knownName? (name : Text) : Option Text :=
  let points := name.map fun c => if c = 46 then 95 else c
  let find (n : Text) : Option Text := do
    let row ← names.find? fun row => (words row).contains n
    (words row).head?
  match find name with
  | some n => some n
  | none => if points = name then none else aliasOf points
where
  words (row : String) : List Text :=
    ((Text.ofString row).splitOnP fun c => c == 32 || c == 10).filter (!·.isEmpty)
  /-- Other names may be written with underscores for points, the known ones may not. -/
  aliasOf (n : Text) : Option Text := do
    let row ← names.find? fun row => ((words row).drop 1).contains n
    (words row).head?

private def asciiHalf : Text := List.range 128

private def page? (name : Text) : Option Charset := do
  let (_, rows) ← pages.find? fun p => Text.ofString p.1 == name
  let chars := rows.flatMap Text.ofString
  some (.page (if chars.length < 256 then asciiHalf ++ chars else chars))

def ofName? (name : Text) : Option Charset := do
  let name ← knownName? (normalName name)
  let is (s : String) : Bool := name == Text.ofString s
  if is "ascii" then some .ascii
  else if is "latin_1" || is "charmap" then some .latin1
  else if is "utf_8" then some (.utf8 false)
  else if is "utf_8_sig" then some (.utf8 true)
  else if is "utf_16" then some (.utf16 none)
  else if is "utf_16_le" then some (.utf16 (some .little))
  else if is "utf_16_be" then some (.utf16 (some .big))
  else if is "utf_32" then some (.utf32 none)
  else if is "utf_32_le" then some (.utf32 (some .little))
  else if is "utf_32_be" then some (.utf32 (some .big))
  else if is "utf_7" then some .utf7
  else if is "unicode_escape" then some (.escaped false)
  else if is "raw_unicode_escape" then some (.escaped true)
  else if is "punycode" then some .punycode
  else if is "idna" then some .domainName
  else if is "undefined" then some .unusable
  else page? name

end Charset
end Phrasebook
