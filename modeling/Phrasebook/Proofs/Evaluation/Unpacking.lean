import Phrasebook.Proofs.Evaluation.Operand
import Phrasebook.Proofs.OrderedMap
import Phrasebook.Proofs.Render.Outcome
import Phrasebook.Render.Invoke
/-!
Unpacking of keywords and of dictionary entries. A call passes on each name once, with the value that
was given last; nothing is made of a name given twice, and pairs do as well as a dictionary.
-/
namespace Phrasebook

namespace Value

theorem text_sameKey (v : Value) (name : Text) (origin : Origin) :
    (text name origin).sameKey v = match v with
      | .text other _ => name == other
      | _ => false := by
  cases v <;> simp [sameKey, sameAtom, identical, number?]

theorem text_sameKey_of_ne_text {v : Value} (noText : ∀ name origin, v ≠ .text name origin)
    (name : Text) (origin : Origin) : (text name origin).sameKey v = false := by
  rw [text_sameKey]
  split
  · exact absurd rfl (noText _ _)
  · rfl

theorem pair_eq_ok_iff (h : Heap) (v : Value) (e : Value × Value) :
    v.pair h = .ok e ↔ v.items h = .ok [e.1, e.2] ∧ e.1.isHashable = true := by
  obtain ⟨k, w⟩ := e
  rw [pair]
  rcases v.items h with f | _ | ⟨key, _ | ⟨value, _ | _⟩⟩
  case ok.cons.cons.nil =>
    dsimp only
    split_ifs with hashable
    · constructor
      · rintro ⟨⟩
        exact ⟨rfl, hashable⟩
      · rintro ⟨⟨⟩, -⟩
        rfl
    · refine iff_of_false (by simp) ?_
      rintro ⟨⟨⟩, also⟩
      exact hashable also
  all_goals simp

/-- What is unpacked are the entries of a dictionary, or the pairs that are the items of a value. -/
theorem unpacked_eq_ok_iff (h : Heap) (v : Value) (es : Entries) :
    v.unpacked h = .ok es ↔ (∃ r, v = .dict r ∧ h.dict r = es) ∨
      (∀ r, v ≠ .dict r) ∧ ∃ items, v.items h = .ok items ∧
        List.Forall₂ (fun item e => item.items h = .ok [e.1, e.2] ∧ e.1.isHashable = true) items es := by
  by_cases isDict : ∃ r, v = .dict r
  · obtain ⟨r, rfl⟩ := isDict
    simp [unpacked]
  · have other : ∀ r, v ≠ .dict r := fun r same => isDict ⟨r, same⟩
    rw [unpacked_of_ne_dict h other, Outcome.bind_eq_ok]
    simp only [Outcome.mapM_eq_ok_iff, pair_eq_ok_iff]
    simp [other]

theorem items_fault (h : Heap) (v : Value) : Outcome.FailsOnly (· = .type) (v.items h) := by
  cases v <;> first | exact .ok _ | exact .error rfl

theorem pair_fault (h : Heap) (v : Value) :
    Outcome.FailsOnly (fun f => f = .type ∨ f = .value) (v.pair h) := by
  have unread := items_fault h v
  rw [pair]
  generalize v.items h = read at unread ⊢
  rcases read with f | _ | ⟨key, _ | ⟨value, _ | _⟩⟩
  case error => exact .error (.inl (unread f rfl))
  case ok.cons.cons.nil =>
    dsimp only
    split_ifs
    · exact .ok _
    · exact .error (.inl rfl)
  all_goals exact .error (.inr rfl)

theorem unpacked_of_unreadable (h : Heap) {v : Value} {f : Fault} (failed : v.items h = .error f) :
    v.unpacked h = .error .type := by
  have other (r : Nat) : v ≠ .dict r := by
    rintro rfl
    cases failed
  rw [unpacked_of_ne_dict h other, failed, items_fault h v f failed]
  rfl

theorem unpacked_fault (h : Heap) (v : Value) :
    Outcome.FailsOnly (fun f => f = .type ∨ f = .value) (v.unpacked h) := by
  by_cases isDict : ∃ r, v = .dict r
  · obtain ⟨r, rfl⟩ := isDict
    exact .ok _
  · rw [unpacked_of_ne_dict h fun r same => isDict ⟨r, same⟩]
    exact .bind (fun f failed => .inl (items_fault h v f failed)) fun items =>
      .mapM (pair_fault h) items

end Value

namespace Entries

/-- The keywords that entries stand for. -/
def keywords (m : Entries) : Except Fault (OrderedMap Value) := m.mapM Render.keywordOf

theorem keywordOf_of_ne_text {key : Value} (noText : ∀ name origin, key ≠ .text name origin)
    (value : Value) : Render.keywordOf (key, value) = .error .type := by
  unfold Render.keywordOf
  split
  · rename_i same
    exact absurd same (noText _ _)
  · rfl

theorem text_or_not (key : Value) :
    (∃ name origin, key = .text name origin) ∨ ∀ name origin, key ≠ .text name origin := by
  by_cases isText : ∃ name origin, key = .text name origin
  · exact .inl isText
  · exact .inr fun name origin same => isText ⟨name, origin, same⟩

theorem keywords_cons (e : Value × Value) (m : Entries) :
    keywords (e :: m) = Render.keywordOf e >>= fun e => keywords m >>= fun m => pure (e :: m) := by
  rw [keywords, List.mapM_cons]
  rfl

/-- An entry that is inserted becomes a keyword in the same place; no name is one that is no text. -/
theorem keywords_insert (m : Entries) (key value : Value) :
    keywords (m.insert key value) = (do
      let named ← keywords m
      let e ← Render.keywordOf (key, value)
      pure (named.insert e.1 e.2)) := by
  induction m with
  | nil => rfl
  | cons e rest ih =>
    obtain ⟨other, old⟩ := e
    rw [insert, keywords_cons]
    rcases text_or_not other with ⟨name, origin, rfl⟩ | noText
    · have first (v : Value) : Render.keywordOf (.text name origin, v) = .ok (name, v) := rfl
      rcases text_or_not key with ⟨name', origin', rfl⟩ | noText
      · have last : Render.keywordOf (.text name' origin', value) = .ok (name', value) := rfl
        by_cases same : name = name'
        · subst same
          rw [if_pos (by simp [Value.text_sameKey]), keywords_cons, first, first, last]
          cases keywords rest with
          | error f => rfl
          | ok named => exact congrArg Except.ok (if_pos rfl).symm
        · rw [if_neg (by simp [Value.text_sameKey, same]), keywords_cons, ih, first, last]
          cases keywords rest with
          | error f => rfl
          | ok named => exact congrArg Except.ok (if_neg same).symm
      · -- no text is the same key as another value, so this one comes last and fails there
        rw [if_neg (by simp [Value.text_sameKey_of_ne_text noText]), keywords_cons, ih, first,
          keywordOf_of_ne_text noText]
        cases keywords rest <;> rfl
    · have failed (v : Value) := keywordOf_of_ne_text noText v
      split_ifs <;> simp only [keywords_cons, failed] <;> rfl

theorem keywords_insertAll (m given : Entries) :
    keywords (m.insertAll given) = (do
      let named ← keywords m
      let more ← keywords given
      pure (named.insertAll more)) := by
  induction given generalizing m with
  | nil => exact (bind_pure (keywords m)).symm
  | cons e rest ih =>
    change keywords ((m.insert e.1 e.2).insertAll rest) = _
    rw [ih, keywords_insert, keywords_cons]
    simp only [bind_assoc, pure_bind]
    rfl

end Entries

namespace Render

variable (eval : Expr → Render Value)

theorem callOf_insertAll (args : List Value) (given : Entries) :
    callOf args (Entries.insertAll [] given) =
      given.keywords.map fun named => ⟨args, .ofList named⟩ := by
  have whole := Entries.keywords_insertAll [] given
  rw [Entries.keywords] at whole
  rw [callOf, whole]
  cases given.keywords <;> rfl

/-- The entries that one operand of a dictionary display gives. -/
def entered : Option Expr × Expr → Render Entries
  | (none, e) => do
    let v ← eval e
    look fun h => v.unpacked h
  | (some k, e) => do
    let v ← eval e
    let key ← eval k
    if key.isHashable then pure [(key, v)] else throw .type

theorem dictItems_entered (m : Entries) (items : List (Option Expr × Expr)) :
    dictItems eval m items = (fun ess => m.insertAll ess.flatten) <$> items.mapM (entered eval) := by
  induction items generalizing m with
  | nil => rfl
  | cons item rest ih =>
    obtain ⟨_ | k, e⟩ := item
    · simp [dictItems, entered, ih, updated_eq, List.mapM_cons, Entries.insertAll]
    · simp only [dictItems, entered, ih, List.mapM_cons, bind_assoc, map_bind]
      refine bind_congr fun v => bind_congr fun key => ?_
      split_ifs with hashable
      · simp [Entries.insertAll]
      · rfl

end Render

namespace Interpreter

variable (lower : Interpreter) (r : Nat) (locals : Locals)

theorem callGiven_eq (f : Value) (args : List Value) (given : Entries) :
    callGiven lower.invoke r f args given = (do
      ofExcept (Limits.checkCall f args ((Entries.insertAll [] given).map (·.2)))
      let named ← ofExcept given.keywords
      let result ← lower.invoke f ⟨args, .ofList named⟩
      Render.checkDeadline r
      pure result) := by
  rw [callGiven, Render.callOf_insertAll]
  refine bind_congr fun _ => ?_
  cases given.keywords <;> rfl

theorem dispatch_dict (items : List (Option Expr × Expr)) :
    lower.dispatch r locals (.dict items) = (do
      let ess ← items.mapM (Render.entered (lower.eval r locals))
      Render.ofMemory (Memory.newDict (Entries.insertAll [] ess.flatten))) := by
  simp only [dispatch, Render.dictItems_entered, bind_map_left]

/-- A call that a template makes evaluates its positional and then its keyword arguments and passes on
all of the former in their order and each name of the latter once, with the value that was given last:
what it passes on is what was given exactly if no name was given twice. A dictionary display takes in
its entries likewise. What is unpacked into either has to be a dictionary or else consist of pairs; what
has no items at all is of the wrong type. -/
theorem arguments_received :
    (∀ f args keywords, lower.dispatch r locals (.call f args keywords) = (do
      let g ← lower.eval r locals f
      ofExcept g.callable
      let vss ← args.mapM (Render.gathered (lower.eval r locals))
      let ess ← keywords.mapM (Render.supplied (lower.eval r locals))
      callGiven lower.invoke r g vss.flatten ess.flatten)) ∧
    (∀ g args given, callGiven lower.invoke r g args given = (do
      ofExcept (Limits.checkCall g args ((Entries.insertAll [] given).map (·.2)))
      let named ← ofExcept (given.mapM Render.keywordOf)
      let result ← lower.invoke g ⟨args, .ofList named⟩
      Render.checkDeadline r
      pure result)) ∧
    (∀ named : OrderedMap Value, (OrderedMap.ofList named).keys.Nodup ∧
      (∀ key, (OrderedMap.ofList named).get? key = OrderedMap.get? named.reverse key) ∧
      (OrderedMap.ofList named = named ↔ named.keys.Nodup)) ∧
    (∀ items, lower.dispatch r locals (.dict items) = (do
      let ess ← items.mapM (Render.entered (lower.eval r locals))
      Render.ofMemory (Memory.newDict (Entries.insertAll [] ess.flatten)))) ∧
    ∀ (h : Heap) (v : Value),
      (∀ es, v.unpacked h = .ok es ↔ (∃ d, v = .dict d ∧ h.dict d = es) ∨
        (∀ d, v ≠ .dict d) ∧ ∃ items, v.items h = .ok items ∧ List.Forall₂
          (fun item e => item.items h = .ok [e.1, e.2] ∧ e.1.isHashable = true) items es) ∧
      (∀ f, v.items h = .error f → v.unpacked h = .error .type) ∧
      Outcome.FailsOnly (fun f => f = .type ∨ f = .value) (v.unpacked h) := by
  refine ⟨dispatch_call lower r locals, callGiven_eq lower r, fun named => ⟨?_, fun key => ?_, ?_⟩,
    dispatch_dict lower r locals, fun h v => ⟨v.unpacked_eq_ok_iff h,
      fun _ failed => Value.unpacked_of_unreadable h failed, v.unpacked_fault h⟩⟩
  · exact OrderedMap.nodup_insertAll [] named List.nodup_nil
  · exact (OrderedMap.get?_insertAll [] key named).trans (Option.or_none ..)
  · exact OrderedMap.ofList_eq_self_iff

/-- A name given by itself and then once more in a pair: the function receives the latter alone. -/
theorem arguments_received_of_repeated :
    let pairs : Value := .ofItems [.ofItems [.ofName [97], .bool true]]
    let lower : Interpreter :=
      { eval := fun _ _ e => pure (match e with
          | .name [102] => .function .keywords
          | .name [120] => .bool false
          | _ => pairs)
        invoke := fun _ c => pure (.ofItems (c.keywords.map (·.2))) }
    let s : RenderState := { runs := #[⟨[], .new 9, .whole 1, none⟩] }
    pairs.unpacked {} = .ok [(.ofName [97], .bool true)] ∧
    Render.outcome (lower.dispatch 0 [] (.call (.name [102]) []
      [(some [97], .name [120]), (none, .name [121])])) s = .ok (.ofItems [.bool true]) := by
  intro pairs lower s
  obtain ⟨call, -, -, -, unpacked⟩ := arguments_received lower 0 []
  refine ⟨((unpacked {} pairs).1 _).mpr (.inr ⟨nofun, _, rfl, ?_⟩), ?_⟩
  · exact .cons ⟨rfl, rfl⟩ .nil
  · rw [call]
    rfl

end Interpreter
end Phrasebook
