import Phrasebook.Facade
import Mathlib.Tactic.SplitIfs
/-!
Runs of a store: what callers ask of it, one call after the other, whether a call succeeds or fails.
-/
namespace Phrasebook

/-- What a caller can ask of a store. -/
inductive StoreCall where
  | load (tag : Text) (data : Datum)
  | reset (tag : Option Text)
  | keys (tag : Text)
  | missing (target reference : Text)
  | extra (target reference : Text)
  | progress (target reference : Text)
  | locales
  | hasLocale (tag : Text)
  | find (tag key : Text)
  | lookup (tag key : Text)

/-- The state that a computation leaves, also when it fails. -/
def Render.stateAfter {α : Type} (m : Render α) (s : RenderState) : RenderState :=
  match m s with
  | .ok _ s => s
  | .error _ s => s

namespace StoreCall

/-- Whether a call only asks. -/
def isQuery : StoreCall → Bool
  | load .. | reset _ => false
  | _ => true

def perform : StoreCall → Render Unit
  | load tag data => Facade.load tag data
  | reset tag => Facade.reset tag
  | keys tag => discard (Facade.askStore fun s => s.keys tag)
  | missing target reference => discard (Facade.askStore fun s => s.missing target reference)
  | extra target reference => discard (Facade.askStore fun s => s.extra target reference)
  | progress target reference => discard (Facade.askStore fun s => s.progress target reference)
  | locales => do let _ := (← get).store.locales
  | hasLocale tag => do let _ := (← get).store.hasLocale tag
  | find tag key => do let _ ← ofExcept ((← get).store.find tag key)
  | lookup tag key => do let _ ← ofExcept ((← get).store.lookup tag key)

/-- The state after some calls. A call that fails is followed by the next one. -/
def run (s : RenderState) (calls : List StoreCall) : RenderState :=
  calls.foldl (fun s call => call.perform.stateAfter s) s

end StoreCall

namespace ResourceStore

/-- A store in which nothing has been loaded. -/
def fresh (budget : Budget) (maxDepth : Int) : ResourceStore :=
  { budget := budget, maxDepth := maxDepth }

/-- What becomes of a store by one call. -/
def next (s : ResourceStore) : StoreCall → ResourceStore
  | .load tag data => match (s.load tag data).1 with
    | .ok changed => changed
    | .error _ => s
  | .reset none => s.clear.1
  | .reset (some tag) => (s.remove tag).1
  | .keys tag => (s.keys tag).2
  | .missing target reference => (s.missing target reference).2
  | .extra target reference => (s.extra target reference).2
  | .progress target reference => (s.progress target reference).2
  | .locales | .hasLocale _ | .find .. | .lookup .. => s

/-- A store has been asked for keys, any number of times. -/
inductive Asked (s : ResourceStore) : ResourceStore → Prop
  | start : Asked s s
  | keys (tag : Text) {t : ResourceStore} (before : Asked s t) : Asked s (t.keys tag).2

/-- What one call can do to a store. -/
inductive Step (s : ResourceStore) : StoreCall → ResourceStore → Prop
  | loaded (tag : Text) (data : Datum) (tree : ResourceTree)
      (compiled : Resource.compile ⟨Locale.normalize tag, s.budget⟩ s.maxDepth data = .ok tree) :
      Step s (.load tag data) (s.add (Locale.normalize tag) tree).1
  | refused (tag : Text) (data : Datum) (f : Fault)
      (failed : Resource.compile ⟨Locale.normalize tag, s.budget⟩ s.maxDepth data = .error f) :
      Step s (.load tag data) s
  | cleared : Step s (.reset none) s.clear.1
  | removed (tag : Text) : Step s (.reset (some tag)) (s.remove tag).1
  | asked (call : StoreCall) (t : ResourceStore) (isQuery : call.isQuery = true)
      (asked : Asked s t) : Step s call t

theorem Asked.missing {s t : ResourceStore} (before : Asked s t) (target reference : Text) :
    Asked s (t.missing target reference).2 :=
  .keys reference (.keys target before)

theorem Asked.progress {s t : ResourceStore} (before : Asked s t) (target reference : Text) :
    Asked s (t.progress target reference).2 := by
  simp only [ResourceStore.progress]
  split_ifs
  · exact .keys reference before
  · exact (Asked.keys reference before).missing target reference

/-- Questions change nothing but the cache. -/
theorem Asked.frame {s t : ResourceStore} (asked : Asked s t) : t = { s with cache := t.cache } := by
  induction asked with
  | start => rfl
  | @keys tag t before ih =>
    have cacheOnly : (t.keys tag).2 = { t with cache := (t.keys tag).2.cache } := by
      rcases found : t.cache.get (Locale.normalize tag) with ⟨known | known, cache⟩ <;>
        simp [ResourceStore.keys, found]
    rw [cacheOnly, ih]

theorem next_load_of_ok {s : ResourceStore} {tag : Text} {data : Datum} {tree : ResourceTree}
    (compiled : Resource.compile ⟨Locale.normalize tag, s.budget⟩ s.maxDepth data = .ok tree) :
    s.next (.load tag data) = (s.add (Locale.normalize tag) tree).1 := by
  simp [next, load, compiled]

theorem next_load_of_error {s : ResourceStore} {tag : Text} {data : Datum} {f : Fault}
    (failed : Resource.compile ⟨Locale.normalize tag, s.budget⟩ s.maxDepth data = .error f) :
    s.next (.load tag data) = s := by
  simp [next, load, failed]

theorem step_next (s : ResourceStore) (call : StoreCall) : Step s call (s.next call) := by
  cases call with
  | load tag data =>
    rcases compiled : Resource.compile ⟨Locale.normalize tag, s.budget⟩ s.maxDepth data with f | tree
    · rw [next_load_of_error compiled]
      exact .refused tag data f compiled
    · rw [next_load_of_ok compiled]
      exact .loaded tag data tree compiled
  | reset tag =>
    cases tag with
    | none => exact .cleared
    | some tag => exact .removed tag
  | keys tag => exact .asked _ _ rfl (.keys tag .start)
  | missing target reference => exact .asked _ _ rfl (Asked.start.missing target reference)
  | extra target reference => exact .asked _ _ rfl (Asked.start.missing reference target)
  | progress target reference => exact .asked _ _ rfl (Asked.start.progress target reference)
  | locales | hasLocale | find | lookup => exact .asked _ _ rfl .start

/-- A load that succeeds adds what its data compile to. -/
theorem compiled_of_load {s changed : ResourceStore} {tag : Text} {data : Datum}
    (loaded : (s.load tag data).1 = .ok changed) :
    ∃ tree, Resource.compile ⟨Locale.normalize tag, s.budget⟩ s.maxDepth data = .ok tree ∧
      changed = (s.add (Locale.normalize tag) tree).1 := by
  rcases compiled : Resource.compile ⟨Locale.normalize tag, s.budget⟩ s.maxDepth data with f | tree
  · simp [load, compiled] at loaded
  · refine ⟨tree, rfl, ?_⟩
    simpa [load, compiled, eq_comm] using loaded

/-- What holds of a store at first and is kept by each step holds after any calls. -/
theorem foldl_next {P : ResourceStore → Prop} {s : ResourceStore} (start : P s)
    (keep : ∀ {s t : ResourceStore} {call : StoreCall}, Step s call t → P s → P t)
    (calls : List StoreCall) : P (calls.foldl next s) := by
  induction calls generalizing s with
  | nil => exact start
  | cons call rest ih => exact ih (keep (step_next s call) start)

end ResourceStore

namespace StoreCall

section
variable {f : ResourceStore → Except Fault ResourceStore × List LogRecord} {s : RenderState}
  {records : List LogRecord}

theorem changeStore_of_ok {changed : ResourceStore}
    (given : f s.store = (.ok changed, records)) : Facade.changeStore f s =
      .ok () { s with log := records.reverse ++ s.log, store := changed } := by
  conv => lhs; whnf
  rw [given]
  rfl

theorem changeStore_of_error {fault : Fault}
    (given : f s.store = (.error fault, records)) : Facade.changeStore f s =
      .error fault { s with log := records.reverse ++ s.log } := by
  conv => lhs; whnf
  rw [given]
  rfl

end

/-- A load that fails leaves the store as it was. -/
theorem load_error {tag : Text} {data : Datum} {s s' : RenderState} {f : Fault}
    (failed : Facade.load tag data s = .error f s') : s'.store = s.store := by
  rw [Facade.load] at failed
  rcases loaded : s.store.load tag data with ⟨fault | changed, records⟩
  · rw [changeStore_of_error loaded] at failed
    cases failed
    rfl
  · rw [changeStore_of_ok loaded] at failed
    cases failed

/-- A load succeeds if its data can be compiled. -/
theorem load_ok_iff {tag : Text} {data : Datum} {s : RenderState} :
    (∃ s', Facade.load tag data s = .ok () s') ↔
      ∃ tree, Resource.compile ⟨Locale.normalize tag, s.store.budget⟩ s.store.maxDepth data =
        .ok tree := by
  rw [Facade.load]
  rcases compiled : Resource.compile ⟨Locale.normalize tag, s.store.budget⟩ s.store.maxDepth data
    with fault | tree
  · have loaded : s.store.load tag data =
        (.error fault, Resource.compileWarnings s.store.maxDepth data) := by
      simp [ResourceStore.load, compiled]
    rw [changeStore_of_error loaded]
    simp
  · have loaded : s.store.load tag data =
        (.ok (s.store.add (Locale.normalize tag) tree).1,
          Resource.compileWarnings s.store.maxDepth data
            ++ (s.store.add (Locale.normalize tag) tree).2) := by
      simp [ResourceStore.load, compiled]
    rw [changeStore_of_ok loaded]
    simp

/-- A call changes nothing but the store and the log. -/
theorem stateAfter_perform (call : StoreCall) (s : RenderState) :
    ∃ log, call.perform.stateAfter s = { s with store := s.store.next call, log := log } := by
  cases call with
  | load tag data =>
    rw [perform, Facade.load, Render.stateAfter, ResourceStore.next]
    rcases loaded : s.store.load tag data with ⟨f | changed, records⟩
    · rw [changeStore_of_error loaded]
      exact ⟨_, rfl⟩
    · rw [changeStore_of_ok loaded]
      exact ⟨_, rfl⟩
  | reset tag => cases tag <;> exact ⟨_, rfl⟩
  | keys | missing | extra | progress | locales | hasLocale => exact ⟨_, rfl⟩
  | find tag key =>
    refine ⟨s.log, ?_⟩
    change Render.stateAfter (ofExcept (s.store.find tag key) >>= fun _ => pure ()) s = _
    rcases s.store.find tag key with f | r <;> rfl
  | lookup tag key =>
    refine ⟨s.log, ?_⟩
    change Render.stateAfter (ofExcept (s.store.lookup tag key) >>= fun _ => pure ()) s = _
    rcases s.store.lookup tag key with f | r <;> rfl

theorem store_perform (call : StoreCall) (s : RenderState) :
    (call.perform.stateAfter s).store = s.store.next call := by
  obtain ⟨log, after⟩ := stateAfter_perform call s
  rw [after]

theorem contexts_perform (call : StoreCall) (s : RenderState) :
    (call.perform.stateAfter s).contexts = s.contexts := by
  obtain ⟨log, after⟩ := stateAfter_perform call s
  rw [after]

theorem store_run (s : RenderState) (calls : List StoreCall) :
    (run s calls).store = calls.foldl ResourceStore.next s.store := by
  induction calls generalizing s with
  | nil => rfl
  | cons call rest ih =>
    simp only [run, List.foldl_cons] at ih ⊢
    rw [ih, store_perform]

end StoreCall
end Phrasebook
