import Phrasebook.Fault
import Phrasebook.Loading.File
import Phrasebook.Locale.Tag
import Phrasebook.OrderedMap
import Phrasebook.Resource.Store
/-!
Loading all locale files of a directory into a store, in the order of their names. A file that
cannot be loaded ends the load or, if the load is lenient, is reported and left out. There is one
result for each file, and there are counts over them.
-/
namespace Phrasebook

inductive LoadStatus where
  | success | error
  deriving DecidableEq

namespace LoadStatus

def label : LoadStatus → Text
  | .success => "success" | .error => "error"

def ofLabel? (t : Text) : Option LoadStatus :=
  [success, error].find? fun s => s.label == t

end LoadStatus

structure LoadResult where
  locale : Text
  path : Text
  status : LoadStatus
  fault : Option Fault := none

namespace LoadResult

def isSuccess (r : LoadResult) : Bool := r.status == .success

def isError (r : LoadResult) : Bool := r.status == .error

end LoadResult

structure LoadSummary where
  results : List LoadResult

namespace LoadSummary

def attempted (s : LoadSummary) : Nat := s.results.length

def successful (s : LoadSummary) : Nat := s.results.countP (·.isSuccess)

def errorCount (s : LoadSummary) : Nat := s.results.countP (·.isError)

/-- The locales loaded, each once, in the order of their first file. -/
def locales (s : LoadSummary) : List Text :=
  OrderedMap.keys (OrderedMap.ofList
    ((s.results.filter (·.isSuccess)).map fun r => (r.locale, ())))

def errors (s : LoadSummary) : List LoadResult := s.results.filter (·.isError)

def byLocale (s : LoadSummary) (tag : Text) : List LoadResult :=
  s.results.filter fun r => r.locale == Locale.normalize tag

def hasErrors (s : LoadSummary) : Bool := 0 < s.errorCount

def allSuccessful (s : LoadSummary) : Bool := s.errorCount == 0

def describe (s : LoadSummary) : Text :=
  "LoadSummary(total=" ++ Text.ofNat s.attempted ++ ", ok=" ++ Text.ofNat s.successful
    ++ ", errors=" ++ Text.ofNat s.errorCount ++ ")"

end LoadSummary

/-- A directory; without entries it does not exist. -/
structure Directory where
  path : Text
  entries : Option (List FileEntry)

/-- A directory and the endings of the files to load from it. -/
structure DirectoryLoader where
  directory : Directory
  suffixes : List Text

namespace DirectoryLoader

def defaultSuffixes : List Text := ([".json", ".yaml", ".yml"] : List String).map Text.ofString

/-- A loader for some kinds of files, all of which have to be readable. -/
def new (directory : Directory) (suffixes : List Text := defaultSuffixes) :
    Except Fault DirectoryLoader :=
  let suffixes := suffixes.map Text.lower
  match suffixes.filter fun s => (FileFormat.ofSuffix? s).isNone with
  | [] => .ok ⟨directory, suffixes⟩
  | unsupported =>
    .error (.refusedSetting ("Unsupported locale file extensions: "
      ++ ResourceStore.tagList unsupported))

def selected (l : DirectoryLoader) (f : FileEntry) : Bool :=
  f.content.isSome && l.suffixes.contains (Text.lower (FileName.suffix f.name))

def files (l : DirectoryLoader) : Except Fault (List FileEntry) :=
  match l.directory.entries with
  | none => .error (.missingDirectory l.directory.path)
  | some entries =>
    .ok ((entries.filter l.selected).mergeSort fun a b => !Text.less b.name a.name)

def pathOf (l : DirectoryLoader) (name : Text) : Text := l.directory.path ++ 47 :: name

/-- How the content of a file with some name is read. -/
abbrev Reader := Text → List UInt8 → Except Fault Datum

def loadFile (read : Reader) (store : ResourceStore) (f : FileEntry) :
    Except Fault ResourceStore × List LogRecord :=
  match read f.name (f.content.getD []) with
  | .error e => (.error e, [])
  | .ok d => store.load (Locale.normalize (FileName.stem f.name)) d

structure Load where
  store : ResourceStore
  results : List LoadResult := []
  log : List LogRecord := []

def failure (path : Text) (f : Fault) : LogRecord :=
  ⟨.warning, "Failed to load " ++ path ++ ": " ++ f.message⟩

/-- Loads files one after the other. A strict load stops at the first fault. -/
def loadFiles (l : DirectoryLoader) (read : Reader) (strict : Bool) (done : Load) :
    List FileEntry → Load × Option Fault
  | [] => (done, none)
  | f :: rest =>
    let path := l.pathOf f.name
    let locale := Locale.normalize (FileName.stem f.name)
    match loadFile read done.store f with
    | (.ok store, records) =>
      l.loadFiles read strict ⟨store, done.results ++ [⟨locale, path, .success, none⟩],
        done.log ++ records⟩ rest
    | (.error e, records) =>
      if strict then ({ done with log := done.log ++ records }, some e)
      else
        l.loadFiles read strict ⟨done.store, done.results ++ [⟨locale, path, .error, some e⟩],
          done.log ++ records ++ [failure path e]⟩ rest

def finished (l : DirectoryLoader) (s : LoadSummary) : LogRecord :=
  ⟨.info, "Loaded locales from " ++ l.directory.path ++ ": " ++ s.describe⟩

/-- Loads the directory. What was loaded before a fault stays loaded. -/
def loadInto (l : DirectoryLoader) (store : ResourceStore) (strict : Bool := true)
    (read : Reader := LocaleFile.read) : Except Fault LoadSummary × ResourceStore × List LogRecord :=
  match l.files with
  | .error f => (.error f, store, [])
  | .ok files =>
    match l.loadFiles read strict { store := store } files with
    | (done, some f) => (.error f, done.store, done.log)
    | (done, none) =>
      let summary : LoadSummary := ⟨done.results⟩
      (.ok summary, done.store, done.log ++ [l.finished summary])

end DirectoryLoader
end Phrasebook
