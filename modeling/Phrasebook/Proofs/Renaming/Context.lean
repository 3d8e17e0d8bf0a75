import Phrasebook.Proofs.Renaming.Eval
import Phrasebook.Render.Context
/-!
Rendering a template and a key in a state and in its image.
-/
namespace Phrasebook

variable {ρ : Renaming}

namespace OrderedMap

variable (m : OrderedMap Value)

theorem insert_rename (key : Text) (value : Value) :
    (m.rename ρ).insert key (value.rename ρ) = (m.insert key value).rename ρ := by
  induction m with
  | nil => rfl
  | cons e rest ih =>
    simp only [rename_cons, insert, ih]
    split_ifs <;> rfl

theorem insertAll_rename (more : OrderedMap Value) :
    (m.rename ρ).insertAll (more.rename ρ) = (m.insertAll more).rename ρ := by
  induction more generalizing m with
  | nil => rfl
  | cons e rest ih =>
    simp only [insertAll, rename_cons, List.foldl_cons, insert_rename] at ih ⊢
    exact ih _

end OrderedMap

namespace Context

theorem dataWith_rename (c : Context) (data : OrderedMap Value) :
    (c.rename ρ).dataWith (data.rename ρ) = (c.dataWith data).rename ρ := by
  simp only [dataWith, ← OrderedMap.insertAll_rename]
  rfl

theorem findTemplate_rename (c : Context) (store : ResourceStore) (key : Text) :
    (c.rename ρ).findTemplate store key = c.findTemplate store key := rfl

end Context

theorem Value.bindTo_rename (readers : ρ.reader = ρ.context) (id : Nat) (v : Value) :
    (v.rename ρ).bindTo (ρ.context id) = (v.bindTo id).rename ρ := by
  cases v with
  | helper h => simp only [rename, bindTo, Renaming.contextFor_eq readers, Origin.rename]
  | _ => rfl

namespace Template

theorem partText_rename {h h' : Heap} (image : Heap.Image ρ h h') (v : Value) :
    partText h' (v.rename ρ) = partText h v := by
  have plain := Value.plain_rename image v
  cases v with
  | none => rfl
  | _ => exact plain

variable {lower : Interpreter} (mirrors : lower.Mirrors ρ)
include mirrors

theorem renderParts_mirrors (r : Nat) (parts : List Part) :
    Render.Mirrors ρ id (renderParts lower r parts) (renderParts lower (ρ.run r) parts) := by
  induction parts with
  | nil => exact .pure []
  | cons part rest ih =>
    cases part with
    | text t => exact .bind ih fun ts => .pure (t ++ ts)
    | expr e =>
      refine .bind (mirrors.eval r [] e) fun v => ?_
      refine .bind (f := id) (Render.look_mirrors fun h h' image => ?_) fun t => ?_
      · rw [partText_rename image, Outcome.map_id]
      · exact .bind ih fun ts => .pure (t ++ ts)

theorem render_mirrors (t : Template) (data : OrderedMap Value) :
    Render.Mirrors ρ id (t.render lower data) (t.render lower (data.rename ρ)) := by
  cases t with
  | constant source => exact .pure source
  | dynamic source parts budget =>
    refine .tryCatch (.bind (Render.start_mirrors budget data) fun r => ?_) fun f => .throw _
    exact renderParts_mirrors mirrors r parts

end Template

theorem Render.renderKey_mirrors {lower : Interpreter} (mirrors : lower.Mirrors ρ) (r : Nat)
    (key : Text) (data : OrderedMap Value) :
    Mirrors ρ id (renderKey lower r key data)
      (renderKey lower (ρ.context r) key (data.rename ρ)) := by
  refine .bind (context_mirrors r) fun c => .read fun s s' image => ?_
  rw [Context.findTemplate_rename, image.store]
  refine .bind (.same _) fun found => .bind (log_mirrors _ _) fun _ => ?_
  rw [Context.dataWith_rename]
  generalize c.dataWith data = merged
  have bound : ((merged.rename ρ).map fun e => e.2.bindTo (ρ.context r)) =
      (merged.map fun e => e.2.bindTo r).map (Value.rename ρ) := by
    simp [OrderedMap.rename, Value.bindTo_rename mirrors.readers]
  dsimp only
  rw [bound, OrderedMap.keys_rename]
  refine .tryCatch ?_ fun f => .bind (context_mirrors r) fun c => .throw _
  refine .bind (ofMemory_mirrors (Memory.markAll_mirrors _)) fun values => ?_
  rw [OrderedMap.zip_rename]
  exact Template.render_mirrors mirrors found.1 _

end Phrasebook
