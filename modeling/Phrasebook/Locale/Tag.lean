import Phrasebook.Text.Basic
import Phrasebook.Text.Case
import Phrasebook.Text.Class
/-!
Locale tags. The normal form is trimmed, in lower case and joined by hyphens; the language is the
part before the first hyphen. A tag is recognized as a language of letters, then at most a script of
four letters, a region of two letters or three digits, and a variant; the language decides whether the
locale is known. What follows a point is an encoding and is dropped.
-/
namespace Phrasebook.Locale

def separator : Code := 45

def hyphenate (c : Code) : Code := if c = 95 then separator else c

/-- The normal form of a tag in any spelling. -/
def normalize (tag : Text) : Text := (Text.lower (Text.strip tag)).map hyphenate

def base (tag : Text) : Text := (normalize tag).takeWhile (· != separator)

inductive Recognition where
  | known | malformed | unknown
  deriving DecidableEq

def languages : List Text :=
  (["af", "am", "ar", "as", "az", "be", "bg", "bn", "br", "bs", "ca", "cs", "cy", "da", "de", "el",
   "en", "es", "et", "eu", "fa", "fi", "fil", "fr", "ga", "gl", "gu", "he", "hi", "hr", "hu",
   "hy", "id", "is", "it", "ja", "ka", "kk", "km", "kn", "ko", "ky", "lo", "lt", "lv", "mk",
   "ml", "mn", "mr", "ms", "my", "nb", "ne", "nl", "nn", "no", "or", "pa", "pl", "ps", "pt",
   "ro", "ru", "sd", "si", "sk", "sl", "so", "sq", "sr", "sv", "sw", "ta", "te", "th", "tk",
   "tl", "tr", "uk", "ur", "uz", "vi", "yue", "zh", "zu"] : List String).map Text.ofString

private def letters (t : Text) : Bool := !t.isEmpty && t.all Text.isAlphabetic

private def dropScript : List Text → List Text
  | p :: rest => if p.length = 4 ∧ letters p then rest else p :: rest
  | [] => []

private def dropRegion : List Text → List Text
  | p :: rest =>
    if (p.length = 2 ∧ letters p) ∨ (p.length = 3 ∧ p.all Text.isDigit) then rest else p :: rest
  | [] => []

/-- A variant is the last part and is judged by the part it starts at. -/
private def dropVariant : List Text → List Text
  | p :: rest =>
    if (p.length = 4 ∧ p.head?.any Text.isDigit) ∨ (5 ≤ p.length ∧ p.head?.any Text.isAlphabetic)
    then (p :: rest).dropLast else p :: rest
  | [] => []

def recognize (tag : Text) : Recognition :=
  let tag := (normalize tag).takeWhile (fun c => c != 46 && c != 64)
  match Text.splitAt separator tag with
  | language :: parts =>
    if !letters language then .malformed
    else if !(dropVariant (dropRegion (dropScript parts))).isEmpty then .malformed
    else if languages.contains language then .known
    else .unknown
  | [] => .malformed

def isKnown (tag : Text) : Bool := recognize tag == .known

end Phrasebook.Locale
