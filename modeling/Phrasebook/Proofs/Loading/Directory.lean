import Phrasebook.Loading.Directory
import Phrasebook.Proofs.Locale.NormalForm
import Phrasebook.Proofs.OrderedMap
import Phrasebook.Proofs.Outcome
import Phrasebook.Proofs.Store.Run
import Mathlib.Data.List.Lex
/-!
Loading a directory. Whether a file can be loaded does not depend on what is loaded before it, only
on limits of the store that no load changes; so a lenient load is the load of the files that can be
loaded, and a strict one stops at the first that cannot.
-/
namespace Phrasebook

theorem Text.less_iff (s t : Text) : less s t = true ↔ s < t := by
  induction s generalizing t with
  | nil => cases t <;> simp [less]
  | cons a s ih =>
    cases t with
    | nil => simp [less]
    | cons b t =>
      rw [less, List.cons_lt_cons_iff, ← ih]
      split_ifs with first second
      · simp [first]
      · simp [first, Nat.ne_of_gt second]
      · have same : a = b := Nat.le_antisymm (Nat.not_lt.mp second) (Nat.not_lt.mp first)
        simp [same]

namespace LoadSummary

variable {summary : LoadSummary}

theorem exists_of_mem_locales {tag : Text} (member : tag ∈ summary.locales) :
    ∃ r ∈ summary.results, r.isSuccess = true ∧ r.locale = tag := by
  unfold locales at member
  rw [OrderedMap.mem_keys_iff, OrderedMap.ofList, OrderedMap.get?_insertAll] at member
  obtain ⟨_, found⟩ := Option.isSome_iff_exists.mp member
  rw [OrderedMap.get?_nil, Option.or_none] at found
  have listed := List.mem_reverse.mp (OrderedMap.mem_of_get?_eq_some _ _ _ found)
  obtain ⟨r, chosen, same⟩ := List.mem_map.mp listed
  obtain ⟨member, successful⟩ := List.mem_filter.mp chosen
  exact ⟨r, member, successful, congrArg Prod.fst same⟩

theorem successful_add_errorCount :
    summary.successful + summary.errorCount = summary.attempted := by
  unfold successful errorCount attempted
  rw [List.length_eq_countP_add_countP LoadResult.isSuccess]
  congr 2
  funext r
  unfold LoadResult.isError LoadResult.isSuccess
  cases r.status <;> rfl

end LoadSummary

namespace DirectoryLoader

variable {l : DirectoryLoader} {read : Reader} {s t store : ResourceStore} {f : FileEntry}
  {files : List FileEntry}

/-- What reading or loading a file raises, if it does. -/
def fault? (read : Reader) (store : ResourceStore) (f : FileEntry) : Option Fault :=
  match (loadFile read store f).1 with
  | .ok _ => none
  | .error e => some e

/-- The store after loading files that can all be loaded. -/
def loadAll (read : Reader) (store : ResourceStore) (files : List FileEntry) :
    Except Fault ResourceStore :=
  files.foldlM (fun s f => (loadFile read s f).1) store

def loadable (read : Reader) (store : ResourceStore) (files : List FileEntry) : List FileEntry :=
  files.filter fun f => (fault? read store f).isNone

def resultOf (l : DirectoryLoader) (f : FileEntry) : Option Fault → LoadResult
  | none => ⟨Locale.normalize (FileName.stem f.name), l.pathOf f.name, .success, none⟩
  | some e => ⟨Locale.normalize (FileName.stem f.name), l.pathOf f.name, .error, some e⟩

/-- Stores with the same limits. -/
def Alike (s t : ResourceStore) : Prop := s.budget = t.budget ∧ s.maxDepth = t.maxDepth

theorem fault?_eq_none_iff : fault? read s f = none ↔ ∃ t, (loadFile read s f).1 = .ok t := by
  unfold fault?
  cases (loadFile read s f).1 <;> simp

theorem fault?_eq_some_iff {e : Fault} :
    fault? read s f = some e ↔ (loadFile read s f).1 = .error e := by
  unfold fault?
  cases (loadFile read s f).1 <;> simp

theorem fault?_congr (alike : Alike s t) : fault? read s f = fault? read t f := by
  obtain ⟨budget, depth⟩ := alike
  unfold fault? loadFile
  cases read f.name (f.content.getD []) with
  | error e => rfl
  | ok d =>
    unfold ResourceStore.load
    rw [budget, depth]
    dsimp only
    cases Resource.compile ⟨Locale.normalize (Locale.normalize (FileName.stem f.name)), t.budget⟩
      t.maxDepth d <;> rfl

/-- A file that is loaded adds a tree to the locale that it is named for. -/
theorem added_of_loadFile (loaded : (loadFile read s f).1 = .ok t) :
    ∃ tree, t = (s.add (Locale.normalize (FileName.stem f.name)) tree).1 := by
  unfold loadFile at loaded
  cases given : read f.name (f.content.getD []) with
  | error e => simp [given] at loaded
  | ok d =>
    rw [given] at loaded
    obtain ⟨tree, -, added⟩ := ResourceStore.compiled_of_load loaded
    rw [Locale.normalize_normalize] at added
    exact ⟨tree, added⟩

theorem alike_of_loadFile (loaded : (loadFile read s f).1 = .ok t) : Alike t s := by
  obtain ⟨tree, rfl⟩ := added_of_loadFile loaded
  exact ⟨rfl, rfl⟩

theorem loadAll_cons : loadAll read s (f :: files) = .ok t ↔
    ∃ s', (loadFile read s f).1 = .ok s' ∧ loadAll read s' files = .ok t := by
  unfold loadAll
  rw [List.foldlM_cons, Outcome.bind_eq_ok]

theorem alike_of_loadAll (loaded : loadAll read s files = .ok t) : Alike t s := by
  induction files generalizing s with
  | nil =>
    cases loaded
    exact ⟨rfl, rfl⟩
  | cons f rest ih =>
    obtain ⟨s', first, later⟩ := loadAll_cons.mp loaded
    obtain ⟨budget, depth⟩ := ih later
    obtain ⟨sameBudget, sameDepth⟩ := alike_of_loadFile first
    exact ⟨budget.trans sameBudget, depth.trans sameDepth⟩

/-- Loading takes no locale away. -/
theorem get?_of_loadFile (loaded : (loadFile read s f).1 = .ok t) (code : Text) :
    (t.trees.get? code).isSome ↔
      code = Locale.normalize (FileName.stem f.name) ∨ (s.trees.get? code).isSome := by
  obtain ⟨tree, rfl⟩ := added_of_loadFile loaded
  unfold ResourceStore.add
  dsimp only
  rw [OrderedMap.get?_insert]
  split_ifs with same
  · simp [same]
  · simp [Ne.symm same]

theorem get?_of_loadAll (loaded : loadAll read s files = .ok t) (code : Text) :
    (t.trees.get? code).isSome ↔
      (∃ f ∈ files, code = Locale.normalize (FileName.stem f.name)) ∨
        (s.trees.get? code).isSome := by
  induction files generalizing s with
  | nil =>
    cases loaded
    simp
  | cons f rest ih =>
    obtain ⟨s', first, later⟩ := loadAll_cons.mp loaded
    rw [ih later, get?_of_loadFile first, List.exists_mem_cons_iff, or_left_comm, or_assoc]

theorem loadable_congr (alike : Alike s t) : loadable read s files = loadable read t files := by
  unfold loadable
  simp only [fault?_congr alike]

section Steps

variable {l : DirectoryLoader} {done : Load} {rest : List FileEntry} {e : Fault}

theorem loadFiles_of_loaded (loaded : (loadFile read done.store f).1 = .ok s) :
    ∃ log, ∀ strict rest, l.loadFiles read strict done (f :: rest) =
      l.loadFiles read strict ⟨s, done.results ++ [l.resultOf f none], log⟩ rest := by
  rcases given : loadFile read done.store f with ⟨_ | s', records⟩
  · rw [given] at loaded
    cases loaded
  · rw [given] at loaded
    cases loaded
    refine ⟨done.log ++ records, fun strict rest => ?_⟩
    simp only [loadFiles, given, resultOf]

theorem loadFiles_of_failed (failed : (loadFile read done.store f).1 = .error e) :
    ∃ log, ∀ rest, l.loadFiles read false done (f :: rest) =
      l.loadFiles read false ⟨done.store, done.results ++ [l.resultOf f (some e)], log⟩ rest := by
  rcases given : loadFile read done.store f with ⟨_ | s', records⟩
  · rw [given] at failed
    cases failed
    refine ⟨done.log ++ records ++ [failure (l.pathOf f.name) e], fun rest => ?_⟩
    simp only [loadFiles, given, resultOf, Bool.false_eq_true, ↓reduceIte]
  · rw [given] at failed
    cases failed

theorem loadFiles_stopped (failed : (loadFile read done.store f).1 = .error e) :
    ∃ log, l.loadFiles read true done (f :: rest) = ({ done with log := log }, some e) := by
  rcases given : loadFile read done.store f with ⟨_ | s', records⟩
  · rw [given] at failed
    cases failed
    exact ⟨done.log ++ records, by simp only [loadFiles, given, ↓reduceIte]⟩
  · rw [given] at failed
    cases failed

end Steps

/-- A lenient load comes to the load of what can be loaded. -/
theorem loadFiles_lenient (l : DirectoryLoader) (read : Reader) (done : Load)
    (files : List FileEntry) : ∃ final log,
    loadAll read done.store (loadable read done.store files) = .ok final ∧
    l.loadFiles read false done files =
      (⟨final, done.results ++ files.map fun f => l.resultOf f (fault? read done.store f), log⟩,
        none) := by
  induction files generalizing done with
  | nil => exact ⟨done.store, done.log, rfl, by simp [loadFiles]⟩
  | cons f rest ih =>
    cases given : (loadFile read done.store f).1 with
    | error e =>
      have failed : fault? read done.store f = some e := fault?_eq_some_iff.mpr given
      obtain ⟨log, skipped⟩ := loadFiles_of_failed (l := l) given
      obtain ⟨final, log, loaded, ended⟩ :=
        ih ⟨done.store, done.results ++ [l.resultOf f (some e)], log⟩
      refine ⟨final, log, ?_, ?_⟩
      · simpa [loadable, failed] using loaded
      · rw [skipped, ended]
        simp [failed]
    | ok s =>
      have passed : fault? read done.store f = none := fault?_eq_none_iff.mpr ⟨s, given⟩
      -- The store has changed, but not what can be loaded into it.
      have alike : Alike s done.store := alike_of_loadFile given
      obtain ⟨log, taken⟩ := loadFiles_of_loaded (l := l) given
      obtain ⟨final, log, loaded, ended⟩ := ih ⟨s, done.results ++ [l.resultOf f none], log⟩
      refine ⟨final, log, ?_, ?_⟩
      · rw [loadable_congr alike] at loaded
        rw [loadable, List.filter_cons_of_pos (by simp [passed])]
        exact loadAll_cons.mpr ⟨s, given, loaded⟩
      · rw [taken, ended]
        simp [passed, fault?_congr alike]

theorem loadFiles_strict (l : DirectoryLoader) (done : Load)
    (passed : ∀ f ∈ files, fault? read done.store f = none) :
    l.loadFiles read true done files = l.loadFiles read false done files := by
  induction files generalizing done with
  | nil => rfl
  | cons f rest ih =>
    obtain ⟨first, later⟩ := List.forall_mem_cons.mp passed
    obtain ⟨s, given⟩ := fault?_eq_none_iff.mp first
    have alike : Alike s done.store := alike_of_loadFile given
    obtain ⟨log, taken⟩ := loadFiles_of_loaded (l := l) given
    rw [taken, taken]
    exact ih _ fun g member => (fault?_congr alike).trans (later g member)

theorem loadFiles_first (l : DirectoryLoader) (done : Load) {before : List FileEntry} {e : Fault}
    (after : List FileEntry) (passed : ∀ g ∈ before, fault? read done.store g = none)
    (failed : fault? read done.store f = some e) : ∃ s results log,
      loadAll read done.store before = .ok s ∧
      l.loadFiles read true done (before ++ f :: after) = (⟨s, results, log⟩, some e) := by
  induction before generalizing done with
  | nil =>
    obtain ⟨log, stopped⟩ := loadFiles_stopped (l := l) (fault?_eq_some_iff.mp failed)
    exact ⟨done.store, done.results, log, rfl, stopped⟩
  | cons g rest ih =>
    obtain ⟨first, later⟩ := List.forall_mem_cons.mp passed
    obtain ⟨s, given⟩ := fault?_eq_none_iff.mp first
    have alike : Alike s done.store := alike_of_loadFile given
    obtain ⟨log, taken⟩ := loadFiles_of_loaded (l := l) given
    obtain ⟨t, results, log, loaded, ended⟩ := ih ⟨s, done.results ++ [l.resultOf g none], log⟩
      (fun h member => (fault?_congr alike).trans (later h member))
      ((fault?_congr alike).trans failed)
    refine ⟨t, results, log, loadAll_cons.mpr ⟨s, given, loaded⟩, ?_⟩
    rw [List.cons_append, taken, ended]

theorem files_sorted (path : Text) (entries : List FileEntry) (suffixes : List Text) :
    let l : DirectoryLoader := ⟨⟨path, some entries⟩, suffixes⟩
    ∃ files, l.files = .ok files ∧ files.Perm (entries.filter l.selected) ∧
      files.Pairwise (·.name ≤ ·.name) := by
  intro l
  have order (a b : FileEntry) : (!Text.less b.name a.name) = true ↔ a.name ≤ b.name := by
    rw [Bool.not_eq_true', ← Bool.not_eq_true, Text.less_iff]
    exact not_lt
  have sorted := @List.pairwise_mergeSort _ (fun a b : FileEntry => !Text.less b.name a.name)
    (fun a b c first second => (order a c).mpr
      (le_trans ((order a b).mp first) ((order b c).mp second)))
    (fun a b => by
      rw [Bool.or_eq_true, order, order]
      exact le_total a.name b.name)
    (entries.filter l.selected)
  exact ⟨_, rfl, List.mergeSort_perm _ _, sorted.imp fun {a b} => (order a b).mp⟩

/-- What a lenient load of some files comes to. -/
structure LoadedLeniently (l : DirectoryLoader) (read : Reader) (store : ResourceStore)
    (files : List FileEntry) (summary : LoadSummary) (final : ResourceStore) : Prop where
  results : summary.results = files.map fun f => l.resultOf f (fault? read store f)
  atTurn : ∀ before f after, files = before ++ f :: after → ∃ s,
    loadAll read store (loadable read store before) = .ok s ∧ fault? read s f = fault? read store f
  loaded : loadAll read store (loadable read store files) = .ok final
  trees : ∀ tag ∈ summary.locales, ∃ tree, final.trees.get? tag = some tree
  counted : summary.successful + summary.errorCount = summary.attempted

theorem loadedLeniently (l : DirectoryLoader) (read : Reader) (done : Load)
    (files : List FileEntry) (empty : done.results = []) :
    ∃ results final log, l.loadFiles read false done files = (⟨final, results, log⟩, none) ∧
      LoadedLeniently l read done.store files ⟨results⟩ final := by
  obtain ⟨final, log, loaded, ended⟩ := loadFiles_lenient l read done files
  rw [empty, List.nil_append] at ended
  refine ⟨_, final, log, ended, rfl, fun before f after split => ?_, loaded, fun tag member => ?_,
    LoadSummary.successful_add_errorCount⟩
  · obtain ⟨s, _, loaded, -⟩ := loadFiles_lenient l read done before
    exact ⟨s, loaded, fault?_congr (alike_of_loadAll loaded)⟩
  · obtain ⟨r, reported, successful, rfl⟩ := LoadSummary.exists_of_mem_locales member
    obtain ⟨f, chosen, rfl⟩ := List.mem_map.mp reported
    cases passed : fault? read done.store f with
    | some e =>
      rw [passed] at successful
      cases successful
    | none =>
      have taken : f ∈ loadable read done.store files :=
        List.mem_filter.mpr ⟨chosen, by rw [passed]; rfl⟩
      exact Option.isSome_iff_exists.mp ((get?_of_loadAll loaded _).mpr (.inl ⟨f, taken, rfl⟩))

end DirectoryLoader
end Phrasebook
