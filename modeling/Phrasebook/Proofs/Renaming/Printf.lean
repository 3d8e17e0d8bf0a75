import Phrasebook.Format.Printf
import Phrasebook.Proofs.Renaming.Reading
/-!
Percent formatting in a heap and in its image.
-/
namespace Phrasebook.Printf

variable {ρ : Renaming} {h h' : Heap}

def Arguments.rename (ρ : Renaming) (a : Arguments) : Arguments :=
  ⟨a.queue.map (Value.rename ρ), a.mapping.map (Value.rename ρ)⟩

def Piece.rename (ρ : Renaming) : Piece → Piece
  | plain t => plain t
  | converted t letter v => converted t letter (v.rename ρ)

@[simp] theorem Piece.text_rename (p : Piece) : (p.rename ρ).text = p.text := by
  cases p <;> rfl

/-- Computations that use up arguments and their images alike. -/
def Mirrors {α β : Type} (ρ : Renaming) (f : α → β) (m : Use α) (m' : Use β) : Prop :=
  ∀ a, m'.run (a.rename ρ) = (m.run a).map (Prod.map f (Arguments.rename ρ))

namespace Mirrors

variable {α β γ δ : Type} {f : α → β} {g : γ → δ}

theorem pure (a : α) : Mirrors ρ f (Pure.pure a) (Pure.pure (f a)) := fun _ => rfl

theorem fail (e : Fault) : Mirrors ρ f (Printf.fail e) (Printf.fail e) := fun _ => rfl

theorem bind {m : Use α} {m' : Use β} {n : α → Use γ} {n' : β → Use δ}
    (first : Mirrors ρ f m m') (second : ∀ a, Mirrors ρ g (n a) (n' (f a))) :
    Mirrors ρ g (m >>= n) (m' >>= n') := by
  intro a
  rw [StateT.run_bind, StateT.run_bind, first a, Outcome.bind_map, Outcome.map_bind]
  congr
  funext r
  exact second r.1 r.2

/-- The arguments left are taken from both sides. -/
theorem read {n n' : Arguments → Use γ} (rest : ∀ a, Mirrors ρ id (n a) (n' (a.rename ρ))) :
    Mirrors ρ id (get >>= n) (get >>= n') := fun a => rest a a

end Mirrors

theorem nextArgument_mirrors : Mirrors ρ (Value.rename ρ) nextArgument nextArgument := by
  rintro ⟨queue, mapping⟩
  cases queue with
  | nil => rfl
  | cons v rest => rfl

theorem starArgument_mirrors : Mirrors ρ id starArgument starArgument := by
  refine .bind nextArgument_mirrors fun v => ?_
  rw [Value.int?_rename]
  cases v.int? with
  | none => exact .fail _
  | some n =>
    dsimp only
    split_ifs
    · exact .fail _
    · exact .pure n

theorem widthPart_mirrors (c : Conversion) (t : Text) :
    Mirrors ρ id (widthPart c t) (widthPart c t) := by
  unfold widthPart
  split
  · exact .bind starArgument_mirrors fun n => .pure _
  · dsimp only
    split_ifs
    · exact .fail _
    · exact .pure _
    · exact .pure _
  · exact .pure _

theorem precisionPart_mirrors (c : Conversion) (t : Text) :
    Mirrors ρ id (precisionPart c t) (precisionPart c t) := by
  unfold precisionPart
  split
  · exact .bind starArgument_mirrors fun n => .pure _
  · dsimp only
    split_ifs
    · exact .fail _
    · exact .pure _
  · exact .pure _

@[simp] theorem truncated_rename (v : Value) : truncated (v.rename ρ) = truncated v := by
  rw [truncated, truncated, Value.number?_rename]

@[simp] theorem floatOf_rename (v : Value) : floatOf (v.rename ρ) = floatOf v := by
  rw [floatOf, floatOf, Value.number?_rename]

@[simp] theorem integerDigits_rename (c : Conversion) (letter : Code) (v : Value) :
    integerDigits c letter (v.rename ρ) = integerDigits c letter v := by
  rw [integerDigits, integerDigits, Value.int?_rename, truncated_rename]

@[simp] theorem floatDigits_rename (c : Conversion) (letter : Code) (v : Value) :
    floatDigits c letter (v.rename ρ) = floatDigits c letter v := by
  rw [floatDigits, floatDigits, floatOf_rename]

@[simp] theorem character_rename (isBytes : Bool) (v : Value) :
    character isBytes (v.rename ρ) = character isBytes v := by
  cases v with
  | text t o => rcases t with _ | ⟨c, _ | ⟨d, rest⟩⟩ <;> cases isBytes <;> rfl
  | bytes bs o => rcases bs with _ | ⟨c, _ | ⟨d, rest⟩⟩ <;> cases isBytes <;> rfl
  | _ => rfl

@[simp] theorem bytesOf_rename (v : Value) : bytesOf (v.rename ρ) = bytesOf v := by
  cases v <;> rfl

@[simp] theorem ofValue_rename (isBytes : Bool) (v : Value) :
    Arguments.ofValue isBytes (v.rename ρ) = (Arguments.ofValue isBytes v).rename ρ := by
  cases v <;> cases isBytes <;> simp [Arguments.ofValue, Arguments.rename]

section
variable (image : Heap.Image ρ h h')
include image

theorem convert_rename (isBytes : Bool) (c : Conversion) (letter : Code) (v : Value) :
    convert h' isBytes c letter (v.rename ρ) = convert h isBytes c letter v := by
  simp only [convert, bytesOf_rename, Value.plain_rename image, Value.quoted_rename image,
    Value.asciiQuoted_rename image, integerDigits_rename, floatDigits_rename, character_rename]

theorem useKey_mirrors (key : Value) :
    Mirrors ρ id (useKey h key) (useKey h' (key.rename ρ)) := by
  refine .read fun a => ?_
  obtain ⟨queue, mapping⟩ := a
  cases mapping with
  | none => exact .fail _
  | some v =>
    cases v with
    | dict r =>
      have found := Value.entryOf_rename image (h.dict r) key
      rw [← image.dict] at found
      simp only [Arguments.rename, Option.map_some, Value.rename, found]
      cases Value.entryOf h (h.dict r) key with
      | ok v => exact fun a => rfl
      | error f => exact .fail f
    | _ => exact .fail _

theorem keyPart_mirrors (isBytes : Bool) (t : Text) :
    Mirrors ρ id (keyPart h isBytes t) (keyPart h' isBytes t) := by
  have use : ∀ key : Text, Mirrors ρ id
      (useKey h (if isBytes then .ofBytes (key.map Nat.toUInt8) else .ofText key))
      (useKey h' (if isBytes then .ofBytes (key.map Nat.toUInt8) else .ofText key)) := by
    intro key
    have plain := useKey_mirrors image
      (if isBytes then .ofBytes (key.map Nat.toUInt8) else .ofText key)
    cases isBytes <;> simpa using plain
  unfold keyPart
  split
  · rename_i rest
    refine .read fun a => ?_
    have unset : (a.rename ρ).mapping.isNone = a.mapping.isNone := by
      simp [Arguments.rename]
    rw [unset]
    by_cases missing : a.mapping.isNone
    · rw [if_pos missing, if_pos missing]
      exact .fail _
    · rw [if_neg missing, if_neg missing]
      cases keyFrom [] 0 rest with
      | none => exact .fail _
      | some found => exact .bind (use found.1) fun _ => .pure _
  · exact .pure _

theorem conversion_mirrors (isBytes : Bool) (t : Text) :
    Mirrors ρ (Prod.map (Piece.rename ρ) id) (conversion h isBytes t)
      (conversion h' isBytes t) := by
  refine .bind (keyPart_mirrors image isBytes t) fun t => ?_
  refine .bind (widthPart_mirrors _ _) fun w => .bind (precisionPart_mirrors _ _) fun p => ?_
  dsimp only [id]
  cases dropLength p.2 with
  | nil => exact .fail _
  | cons letter rest =>
    refine .bind nextArgument_mirrors fun v => ?_
    rw [convert_rename image]
    cases convert h isBytes p.1 letter v with
    | ok written =>
      split_ifs
      · exact .bind (f := id) (.fail _) fun _ => .pure _
      · exact .pure _
    | error f =>
      split_ifs
      · exact .bind (f := id) (.fail _) fun _ => .fail f
      · exact .fail f

theorem convertAll_mirrors (isBytes : Bool) (n : Nat) (out : List Piece) (t : Text) :
    Mirrors ρ (List.map (Piece.rename ρ)) (convertAll h isBytes out n t)
      (convertAll h' isBytes (out.map (Piece.rename ρ)) n t) := by
  induction n generalizing out t with
  | zero => exact .fail _
  | succ n ih =>
    have before : (if (t.takeWhile (· != 37)).isEmpty then out.map (Piece.rename ρ)
        else .plain (t.takeWhile (· != 37)) :: out.map (Piece.rename ρ)) =
        (if (t.takeWhile (· != 37)).isEmpty then out
          else .plain (t.takeWhile (· != 37)) :: out).map (Piece.rename ρ) := by
      split_ifs <;> rfl
    unfold convertAll
    dsimp only
    rw [before]
    generalize (if (t.takeWhile (· != 37)).isEmpty then out
      else .plain (t.takeWhile (· != 37)) :: out) = out
    split
    · rw [← List.map_reverse]
      exact .pure _
    · exact ih (.plain [37] :: out) _
    · exact .bind (conversion_mirrors image isBytes _) fun r => ih (r.1 :: out) r.2

theorem pieces_rename (isBytes : Bool) (template : Text) (v : Value) :
    pieces h' isBytes template (v.rename ρ) =
      (pieces h isBytes template v).map (List.map (Piece.rename ρ)) := by
  have all := convertAll_mirrors image isBytes (template.length + 1) [] template
  simp only [pieces, ofValue_rename]
  rw [← List.map_nil, all, Outcome.bind_map, Outcome.map_bind]
  congr
  funext r
  obtain ⟨out, queue, mapping⟩ := r
  simp only [Prod.map, Arguments.rename, List.isEmpty_map, Option.isNone_map]
  split_ifs <;> rfl

theorem formatText_rename (template : Value) (t : Text) (v : Value) :
    formatText h' (template.rename ρ) t (v.rename ρ) =
      (formatText h template t v).map (Value.rename ρ) := by
  simp only [formatText, pieces_rename image, Outcome.bind_map, Outcome.map_bind]
  congr
  funext all
  rcases all with _ | ⟨p, _ | ⟨q, rest⟩⟩
  · rfl
  · cases p with
    | plain s =>
      simp only [List.map_cons, List.map_nil, Piece.rename]
      split_ifs <;> simp
    | converted s letter argument =>
      by_cases plain : letter = 115
      · subst plain
        cases argument with
        | text u o =>
          simp only [List.map_cons, List.map_nil, Piece.rename, Value.rename]
          split_ifs <;> simp
        | _ => simp [Piece.rename]
      · simp only [List.map_cons, List.map_nil, Piece.rename]
        split_ifs <;> simp
  · simp [List.flatMap_map]

theorem formatBytes_rename (bs : List UInt8) (v : Value) :
    formatBytes h' bs (v.rename ρ) = (formatBytes h bs v).map (Value.rename ρ) := by
  simp only [formatBytes, pieces_rename image, Outcome.bind_map, Outcome.map_bind]
  simp [List.flatMap_map]

end

end Phrasebook.Printf
