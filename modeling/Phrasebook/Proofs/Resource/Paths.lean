import Phrasebook.Proofs.Resource.Sound
import Phrasebook.Proofs.Text.Pieces
/-!
The keys of a tree against the values that keys name. Both are described by paths: lists of segments
that lead through trees only. In sound trees a path can be told from its key.
-/
namespace Phrasebook.Resource

def isTree : Resource → Bool
  | .tree _ => true
  | .leaf _ | .sequence _ => false

/-- The value at the end of a path through trees. -/
def walk : List Text → Resource → Option Resource
  | [], r => some r
  | segment :: rest, .tree entries => (OrderedMap.get? entries segment).bind (walk rest)
  | _ :: _, _ => none

/-- The key of a path. -/
def dotted (path : List Text) : Text := Text.joinWith [separator] path

mutual

/-- The paths to the values that are no trees, depth first. -/
def pathsOf : Resource → List (List Text)
  | .tree entries => pathsFrom entries
  | .leaf _ | .sequence _ => [[]]

def pathsFrom : List (Text × Resource) → List (List Text)
  | [] => []
  | (key, value) :: rest => (pathsOf value).map (key :: ·) ++ pathsFrom rest

end

theorem pathsFrom_eq (entries : List (Text × Resource)) :
    pathsFrom entries = entries.flatMap fun e => (pathsOf e.2).map (e.1 :: ·) := by
  induction entries with
  | nil => rfl
  | cons e rest ih => rw [pathsFrom, ih, List.flatMap_cons]

theorem dotted_ne_nil {path : List Text} (nonempty : path ≠ [])
    (segments : ∀ s ∈ path, IsSegment s) : dotted path ≠ [] := by
  cases path with
  | nil => exact absurd rfl nonempty
  | cons first rest =>
    have full : first ≠ [] := (segments first List.mem_cons_self).1
    cases rest with
    | nil => simpa [dotted, Text.joinWith] using full
    | cons second rest =>
      rw [dotted, Text.joinWith_cons _ _ (by simp)]
      simp

theorem splitAt_dotted {path : List Text} (nonempty : path ≠ [])
    (segments : ∀ s ∈ path, IsSegment s) : Text.splitAt separator (dotted path) = path :=
  Text.splitAt_joinWith separator nonempty fun s member => (segments s member).2

theorem join_dotted {path : List Text} (segment : Text) (segments : ∀ s ∈ path, IsSegment s) :
    join (dotted path) segment = dotted (path ++ [segment]) := by
  by_cases root : path = []
  · subst root
    simp [join, dotted, Text.joinWith]
  · have full : (dotted path).isEmpty = false := by
      simpa using dotted_ne_nil root segments
    rw [join, full, dotted, dotted, Text.joinWith_append separator root (by simp)]
    simp [Text.joinWith]

mutual

theorem keysOf_eq {front : List Text} (segments : ∀ s ∈ front, IsSegment s) :
    ∀ r : Resource, Sound r →
      keysOf (dotted front) r = (pathsOf r).map fun path => dotted (front ++ path)
  | .leaf _, _ => by simp [keysOf, pathsOf]
  | .sequence _, _ => by simp [keysOf, pathsOf]
  | .tree entries, sound => by
    rw [keysOf, pathsOf]
    cases sound with
    | tree _ _ segmentsOf sound => exact keysFrom_eq segments entries segmentsOf sound

theorem keysFrom_eq {front : List Text} (segments : ∀ s ∈ front, IsSegment s) :
    ∀ entries : List (Text × Resource), (∀ e ∈ entries, IsSegment e.1) →
      (∀ e ∈ entries, Sound e.2) →
      keysFrom (dotted front) entries = (pathsFrom entries).map fun path => dotted (front ++ path)
  | [], _, _ => rfl
  | (key, value) :: rest, segmentsOf, sound => by
    obtain ⟨isSegment, segmentsOf⟩ := List.forall_mem_cons.mp segmentsOf
    obtain ⟨soundValue, sound⟩ := List.forall_mem_cons.mp sound
    have deeper : ∀ s ∈ front ++ [key], IsSegment s := by
      simpa [or_imp, forall_and] using ⟨segments, isSegment⟩
    rw [keysFrom, pathsFrom, join_dotted key segments, keysOf_eq deeper value soundValue,
      keysFrom_eq segments rest segmentsOf sound]
    simp [Function.comp_def]

end

theorem keys_eq {tree : ResourceTree} (sound : Sound (.tree tree)) :
    keys tree = (pathsOf (.tree tree)).map dotted := by
  have whole := keysOf_eq (List.forall_mem_nil IsSegment) (.tree tree) sound
  rw [keysOf] at whole
  exact whole

/-- The paths lead to the values that are no trees. -/
theorem mem_pathsOf {r : Resource} (sound : Sound r) (path : List Text) :
    path ∈ pathsOf r ↔ ∃ v, walk path r = some v ∧ v.isTree = false := by
  induction sound generalizing path with
  | leaf template => cases path <;> simp [pathsOf, walk, isTree]
  | sequence items => cases path <;> simp [pathsOf, walk, isTree]
  | tree entries distinct segments sound ih =>
    simp only [pathsOf, pathsFrom_eq, List.mem_flatMap, List.mem_map]
    constructor
    · rintro ⟨e, member, rest, inside, rfl⟩
      obtain ⟨v, found, isEnd⟩ := (ih e member rest).mp inside
      have here := (OrderedMap.get?_eq_some_iff _ _ _ distinct).mpr member
      exact ⟨v, by simpa [walk, here] using found, isEnd⟩
    · rintro ⟨v, found, isEnd⟩
      cases path with
      | nil =>
        cases found
        cases isEnd
      | cons segment rest =>
        obtain ⟨value, here, found⟩ := Option.bind_eq_some_iff.mp found
        have member := OrderedMap.mem_of_get?_eq_some _ _ _ here
        exact ⟨(segment, value), member, rest, (ih _ member rest).mpr ⟨v, found, isEnd⟩, rfl⟩

theorem nodup_pathsOf {r : Resource} (sound : Sound r) : (pathsOf r).Nodup := by
  induction sound with
  | leaf | sequence => exact List.nodup_singleton _
  | tree entries distinct segments sound ih =>
    rw [pathsOf, pathsFrom_eq, List.nodup_flatMap]
    refine ⟨fun e member => (ih e member).map List.cons_injective, ?_⟩
    refine (List.pairwise_map.mp distinct).imp fun different path first second => ?_
    obtain ⟨_, -, rfl⟩ := List.mem_map.mp first
    obtain ⟨_, -, same⟩ := List.mem_map.mp second
    exact different (List.cons.inj same).1.symm

theorem walk_segments {path : List Text} {r v : Resource} (sound : Sound r)
    (found : walk path r = some v) : ∀ s ∈ path, IsSegment s := by
  induction path generalizing r with
  | nil => simp
  | cons segment rest ih =>
    cases r with
    | leaf | sequence => cases found
    | tree entries =>
      obtain ⟨value, here, found⟩ := Option.bind_eq_some_iff.mp found
      obtain ⟨isSegment, soundValue⟩ := sound.get? here
      exact List.forall_mem_cons.mpr ⟨isSegment, ih soundValue found⟩

theorem segments_of_mem_pathsOf {tree : ResourceTree} (sound : Sound (.tree tree))
    {path : List Text} (member : path ∈ pathsOf (.tree tree)) :
    path ≠ [] ∧ ∀ s ∈ path, IsSegment s := by
  obtain ⟨v, found, isEnd⟩ := (mem_pathsOf sound path).mp member
  refine ⟨?_, walk_segments sound found⟩
  rintro rfl
  cases found
  cases isEnd

theorem walk_append (front back : List Text) (r : Resource) :
    walk (front ++ back) r = (walk front r).bind (walk back) := by
  induction front generalizing r with
  | nil => rfl
  | cons segment rest ih =>
    cases r with
    | leaf | sequence => rfl
    | tree entries =>
      simp only [List.cons_append, walk, Option.bind_assoc]
      congr 1
      exact funext ih

theorem isTree_of_walk {path : List Text} {r v : Resource} (nonempty : path ≠ [])
    (found : walk path r = some v) : ∃ t, r = .tree t := by
  cases path with
  | nil => exact absurd rfl nonempty
  | cons segment rest =>
    cases r with
    | leaf | sequence => cases found
    | tree t => exact ⟨t, rfl⟩

theorem findFrom_none (path : List Text) : findFrom path none = .ok none := by
  cases path <;> rfl

theorem findFrom_leaf (segment : Text) (rest : List Text) (template : Template) :
    findFrom (segment :: rest) (some (.leaf template)) = .ok none :=
  findFrom_none rest

/-- From the end of a path through trees on, the rest of a key decides. -/
theorem findFrom_append {front : List Text} {r v : Resource} (reached : walk front r = some v)
    (back : List Text) : findFrom (front ++ back) (some r) = findFrom back (some v) := by
  induction front generalizing r with
  | nil =>
    cases reached
    rfl
  | cons segment rest ih =>
    cases r with
    | leaf | sequence => cases reached
    | tree entries =>
      obtain ⟨value, here, reached⟩ := Option.bind_eq_some_iff.mp reached
      have step : child? segment (.tree entries) = .ok (some value) := congrArg Except.ok here
      rw [List.cons_append, findFrom, step]
      exact ih reached

theorem findFrom_of_walk {path : List Text} {r v : Resource} (found : walk path r = some v) :
    findFrom path (some r) = .ok (some v) := by
  simpa [findFrom] using findFrom_append found []

/-- The way to what is found leads through trees up to a first value that is no tree. -/
theorem exists_end_of_findFrom {path : List Text} {r v : Resource}
    (found : findFrom path (some r) = .ok (some v)) (isEnd : v.isTree = false) :
    ∃ front back w, path = front ++ back ∧ walk front r = some w ∧ w.isTree = false ∧
      findFrom back (some w) = .ok (some v) := by
  induction path generalizing r with
  | nil =>
    cases found
    exact ⟨[], [], v, rfl, rfl, isEnd, rfl⟩
  | cons segment rest ih =>
    cases r with
    | leaf | sequence => exact ⟨[], segment :: rest, _, rfl, rfl, rfl, found⟩
    | tree entries =>
      change findFrom rest (OrderedMap.get? entries segment) = _ at found
      rcases here : OrderedMap.get? entries segment with _ | value
      · rw [here, findFrom_none] at found
        cases found
      · rw [here] at found
        obtain ⟨front, back, w, rfl, reached, ends, rest⟩ := ih found
        exact ⟨segment :: front, back, w, rfl, by simpa [walk, here] using reached, ends, rest⟩

/-- What is found is walked to if all stations on the way are trees. -/
theorem walk_of_findFrom {path : List Text} {tree : ResourceTree} {v : Resource}
    (found : findFrom path (some (.tree tree)) = .ok (some v))
    (stations : ∀ front back, front ≠ [] → back ≠ [] → path = front ++ back →
      ∃ t, findFrom front (some (.tree tree)) = .ok (some (.tree t))) :
    walk path (.tree tree) = some v := by
  induction path generalizing tree with
  | nil =>
    cases found
    rfl
  | cons segment rest ih =>
    change findFrom rest (tree.get? segment) = _ at found
    rcases here : tree.get? segment with _ | value
    · rw [here, findFrom_none] at found
      cases found
    · rw [here] at found
      by_cases last : rest = []
      · subst last
        cases found
        simp [walk, here]
      · obtain ⟨t, first⟩ := stations [segment] rest (by simp) last rfl
        change Except.ok (tree.get? segment) = _ at first
        rw [here] at first
        cases first
        have later : walk rest (.tree t) = some v := by
          refine ih found fun front back hasFront hasBack whole => ?_
          obtain ⟨next, reached⟩ := stations (segment :: front) back (by simp) hasBack
            (by rw [whole, List.cons_append])
          change findFrom front (tree.get? segment) = _ at reached
          exact ⟨next, by rwa [here] at reached⟩
        simpa [walk, here] using later

theorem find_eq {key : Text} (nonempty : key ≠ []) (root : Option Resource) :
    find key root = findFrom (Text.splitAt separator key) root := by
  have full : key.isEmpty = false := by simpa using nonempty
  simp [find, full]

/-- The first segment of a key that names something is not empty. -/
theorem head_ne_nil {tree : ResourceTree} {rest : List Text} {v : Resource}
    (sound : Sound (.tree tree))
    (found : findFrom ([] :: rest) (some (.tree tree)) = .ok (some v)) : False := by
  change findFrom rest (tree.get? []) = _ at found
  rcases here : tree.get? [] with _ | value
  · rw [here, findFrom_none] at found
    cases found
  · exact (sound.get? here).1.1 rfl

private theorem find_of_mem_keys {tree : ResourceTree} (sound : Sound (.tree tree)) {key : Text}
    (listed : key ∈ keys tree) :
    (∃ r, find key (some (.tree tree)) = .ok (some r) ∧ r.isTree = false) ∧
      ∀ front rest, key = front ++ separator :: rest →
        ∃ t, find front (some (.tree tree)) = .ok (some (.tree t)) := by
  rw [keys_eq sound] at listed
  obtain ⟨path, member, rfl⟩ := List.mem_map.mp listed
  obtain ⟨v, found, isEnd⟩ := (mem_pathsOf sound path).mp member
  obtain ⟨nonempty, segments⟩ := segments_of_mem_pathsOf sound member
  constructor
  · refine ⟨v, ?_, isEnd⟩
    rw [find_eq (dotted_ne_nil nonempty segments), splitAt_dotted nonempty segments]
    exact findFrom_of_walk found
  · intro front rest whole
    have parts : path = Text.splitAt separator front ++ Text.splitAt separator rest := by
      rw [← splitAt_dotted nonempty segments, whole, Text.splitAt_append]
    rw [parts, walk_append] at found
    obtain ⟨station, reached, found⟩ := Option.bind_eq_some_iff.mp found
    obtain ⟨t, rfl⟩ := isTree_of_walk (Text.splitAt_ne_nil separator rest) found
    have full : front ≠ [] := by
      rintro rfl
      exact (segments [] (by simp [parts, Text.splitAt])).1 rfl
    exact ⟨t, (find_eq full _).trans (findFrom_of_walk reached)⟩

private theorem mem_keys_of_find {tree : ResourceTree} (sound : Sound (.tree tree)) {key : Text}
    {v : Resource} (found : find key (some (.tree tree)) = .ok (some v)) (isEnd : v.isTree = false)
    (stations : ∀ front rest, key = front ++ separator :: rest →
      ∃ t, find front (some (.tree tree)) = .ok (some (.tree t))) : key ∈ keys tree := by
  have nonempty : key ≠ [] := by
    rintro rfl
    cases found
    cases isEnd
  rw [find_eq nonempty] at found
  rw [keys_eq sound, List.mem_map]
  refine ⟨Text.splitAt separator key, (mem_pathsOf sound _).mpr ⟨v, ?_, isEnd⟩,
    Text.joinWith_splitAt separator key⟩
  refine walk_of_findFrom found fun front back hasFront hasBack whole => ?_
  have pieces : Text.splitAt separator (dotted front) = front :=
    Text.splitAt_joinWith separator hasFront fun s member =>
      Text.not_mem_of_mem_splitAt separator (whole ▸ List.mem_append_left back member)
  have cut : key = dotted front ++ separator :: dotted back := by
    rw [← Text.joinWith_splitAt separator key, whole]
    exact Text.joinWith_append separator hasFront hasBack
  obtain ⟨t, station⟩ := stations _ _ cut
  have full : dotted front ≠ [] := by
    intro isEmpty
    rw [isEmpty] at pieces
    rw [whole, ← pieces] at found
    exact head_ne_nil sound found
  rw [find_eq full, pieces] at station
  exact ⟨t, station⟩

/-- A key is listed if it names a value that is no tree, and each shorter part of it names a tree. -/
theorem mem_keys_iff {tree : ResourceTree} (sound : Sound (.tree tree)) (key : Text) :
    key ∈ keys tree ↔
      (∃ r, find key (some (.tree tree)) = .ok (some r) ∧ r.isTree = false) ∧
      ∀ front rest, key = front ++ separator :: rest →
        ∃ t, find front (some (.tree tree)) = .ok (some (.tree t)) := by
  refine ⟨find_of_mem_keys sound, ?_⟩
  rintro ⟨⟨v, found, isEnd⟩, stations⟩
  exact mem_keys_of_find sound found isEnd stations

theorem nodup_keys {tree : ResourceTree} (sound : Sound (.tree tree)) : (keys tree).Nodup := by
  rw [keys_eq sound]
  refine (nodup_pathsOf sound).map_on fun first memFirst second memSecond same => ?_
  obtain ⟨hasFirst, segmentsFirst⟩ := segments_of_mem_pathsOf sound memFirst
  obtain ⟨hasSecond, segmentsSecond⟩ := segments_of_mem_pathsOf sound memSecond
  calc first
      = Text.splitAt separator (dotted first) := (splitAt_dotted hasFirst segmentsFirst).symm
    _ = Text.splitAt separator (dotted second) := by rw [same]
    _ = second := splitAt_dotted hasSecond segmentsSecond

end Phrasebook.Resource
