import Phrasebook.Loading.Json
import Phrasebook.Loading.Yaml.Document
import Phrasebook.Text.Case
import Phrasebook.Text.Encoding
/-!
Locale files. The ending of the name decides how the content is read; the rest of it is the locale.
-/
namespace Phrasebook

/-- A file, or a directory in the place of one. -/
structure FileEntry where
  name : Text
  content : Option (List UInt8)

namespace FileName

/-- The position of the last point, if it is neither the first nor the last character. -/
private def pointAt? (name : Text) : Option Nat :=
  let after := (name.reverse.takeWhile (· != 46)).length
  if after = 0 ∨ name.length ≤ after + 1 then none else some (name.length - after - 1)

/-- The ending with its point; a name that begins with its only point has none. -/
def suffix (name : Text) : Text :=
  match pointAt? name with
  | some i => name.drop i
  | none => []

def stem (name : Text) : Text :=
  match pointAt? name with
  | some i => name.take i
  | none => name

end FileName

inductive FileFormat where
  | json | yaml
  deriving DecidableEq

namespace FileFormat

def ofSuffix? (suffix : Text) : Option FileFormat :=
  if suffix = ".json" then some .json
  else if suffix = ".yaml" ∨ suffix = ".yml" then some .yaml
  else none

end FileFormat

namespace LocaleFile

/-- Any way to end a line becomes a line feed. -/
private def unifyBreaks : Text → Text
  | [] => []
  | 13 :: 10 :: rest => 10 :: unifyBreaks rest
  | c :: rest => (if c = 13 then 10 else c) :: unifyBreaks rest

/-- The text of a file; a byte order mark in front is dropped. -/
def decode (bs : List UInt8) : Except Fault Text :=
  let bs := if [0xef, 0xbb, 0xbf].isPrefixOf bs then bs.drop 3 else bs
  match Encoding.decode (.utf8 false) (some .strict) bs with
  | .ok t => .ok (unifyBreaks t)
  | .error _ => .error (.unworded .decoding)

/-- The data of a file. The text is read before the ending is looked at. -/
def read (name : Text) (bs : List UInt8) : Except Fault Datum := do
  let t ← decode bs
  match FileFormat.ofSuffix? (Text.lower (FileName.suffix name)) with
  | some .json => Json.read t
  | some .yaml => Yaml.read t
  | none =>
    throw (.refusedSetting ("Unsupported locale file extension: '" ++ FileName.suffix name
      ++ "'"))

end LocaleFile
end Phrasebook
