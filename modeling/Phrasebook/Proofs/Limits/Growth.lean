import Phrasebook.Proofs.Limits.Check
import Phrasebook.Proofs.OrderedMap
import Phrasebook.Proofs.Outcome
import Phrasebook.Proofs.Render.Outcome
import Phrasebook.Proofs.Text.Length
import Phrasebook.Render.Invoke
/-!
Methods that can make a string longer. What their check lets through keeps to the limit, except that
tabs can be replaced without a size being given, which the check does not look at.
-/
namespace Phrasebook

open Limits (ownLength? maxLength)
open Method (StringKind Subject)

namespace Method

theorem StringKind.ownLength?_of_read {kind : StringKind} {v : Value} {t : Text}
    (read : kind.read? v = some t) : ownLength? v = some t.length := by
  cases kind <;> cases v <;> simp_all [StringKind.read?, ownLength?]
  · rw [← read, List.length_map]

theorem StringKind.read?_of_read {kind : StringKind} {v : Value} {t : Text}
    (read : kind.read v = .ok t) : kind.read? v = some t := by
  unfold StringKind.read at read
  split at read
  · rename_i given
    cases read
    exact given
  · cases read

theorem StringKind.ownLength?_built (kind : StringKind) (t : Text) :
    ownLength? (kind.built t) = some t.length := by
  cases kind with
  | text => rfl
  | bytes => exact congrArg some (List.length_map _)

theorem args_of_positional {c : Call} {least most : Nat} {args : List Value}
    (given : c.positional least most = .ok args) : c.args = args := by
  unfold Call.positional at given
  split_ifs at given
  exact Except.ok.inj given

theorem int?_of_toInt {v : Value} {n : Int} (read : v.toInt = .ok n) : v.int? = some n := by
  unfold Value.toInt at read
  split at read
  · rename_i given
    split_ifs at read
    cases read
    exact given
  · cases read

/-- The tab size is an argument of the call, or the call has none. -/
theorem tabSize_cases {c : Call} {size : Int} (read : tabSize c = .ok size) :
    (∃ w ∈ c.args ++ c.keywords.map (·.2), w.int? = some size) ∨ c = ⟨[], []⟩ ∧ size = 8 := by
  obtain ⟨given, named, read⟩ := Outcome.bind_eq_ok.mp read
  unfold Call.named at named
  dsimp only at named
  split_ifs at named with many foreign
  cases named
  obtain ⟨args, keywords⟩ := c
  rcases args with _ | ⟨w, _ | ⟨other, more⟩⟩
  · simp only [List.map_nil, List.map_cons, List.nil_append, List.length_nil, List.drop_zero] at read
    cases found : keywords.get? "tabsize" with
    | some w =>
      rw [found] at read
      have member := OrderedMap.mem_of_get?_eq_some _ _ _ found
      exact .inl ⟨w, List.mem_map_of_mem member, int?_of_toInt read⟩
    | none =>
      rw [found] at read
      cases read
      cases keywords with
      | nil => exact .inr ⟨rfl, rfl⟩
      | cons e rest =>
        have known : e.1 = "tabsize" := by
          simp at foreign
          exact foreign.1
        simp [OrderedMap.get?_cons, known] at found
  · exact .inl ⟨w, List.mem_cons_self, int?_of_toInt read⟩
  · simp at many

namespace Subject

variable {s : Subject} (whole : s.kind.read? s.value = some s.chars)
include whole

theorem ownLength?_remade (t : Text) : ownLength? (s.remade t) = some t.length := by
  unfold remade
  split_ifs with same
  · rw [same]
    exact StringKind.ownLength?_of_read whole
  · exact s.kind.ownLength?_built t

end Subject

section
variable {s : Subject} (whole : s.kind.read? s.value = some s.chars) {c : Call} {v : Value}
include whole

theorem length_of_filled {fill : Code → Int → Text → Text}
    (length : ∀ code width t, (fill code width t).length = max t.length width.toNat)
    (made : filled s fill c = .ok v) :
    ∃ w ∈ c.args, ∃ k, w.int? = some k ∧ ownLength? v = some (max s.chars.length k.toNat) := by
  obtain ⟨args, given, made⟩ := Outcome.bind_eq_ok.mp made
  obtain rfl : c.args = args := args_of_positional given
  split at made
  · rename_i w rest listed
    obtain ⟨k, width, made⟩ := Outcome.bind_eq_ok.mp made
    obtain ⟨code, -, made⟩ := Outcome.bind_eq_ok.mp made
    cases made
    refine ⟨w, by rw [listed]; exact List.mem_cons_self, k, int?_of_toInt width, ?_⟩
    rw [Subject.ownLength?_remade whole, length]
  · cases made

theorem length_of_zeroFilled (made : zeroFilled s c = .ok v) :
    ∃ w ∈ c.args, ∃ k, w.int? = some k ∧ ownLength? v = some (max s.chars.length k.toNat) := by
  obtain ⟨args, given, made⟩ := Outcome.bind_eq_ok.mp made
  obtain rfl : c.args = args := args_of_positional given
  split at made
  · rename_i w listed
    obtain ⟨k, width, made⟩ := Outcome.bind_eq_ok.mp made
    cases made
    refine ⟨w, by rw [listed]; exact List.mem_cons_self, k, int?_of_toInt width, ?_⟩
    rw [Subject.ownLength?_remade whole, Text.length_zeroFill]
  · cases made

theorem length_of_tabbed (made : tabbed s c = .ok v) :
    ∃ size, tabSize c = .ok size ∧ ownLength? v = some (Text.expandTabs size s.chars).length := by
  obtain ⟨size, given, made⟩ := Outcome.bind_eq_ok.mp made
  refine ⟨size, given, ?_⟩
  cases made
  split_ifs
  · exact StringKind.ownLength?_built _ _
  · exact Subject.ownLength?_remade whole _

theorem length_of_replaced (made : replaced s c = .ok v) :
    ∃ new other, c.args[1]? = some new ∧ s.kind.read? new = some other ∧ ∃ size,
      ownLength? v = some size ∧ size ≤ s.chars.length + (s.chars.length + 1) * other.length := by
  obtain ⟨args, given, made⟩ := Outcome.bind_eq_ok.mp made
  obtain rfl : c.args = args := args_of_positional given
  split at made
  · rename_i old new count listed
    obtain ⟨sought, -, made⟩ := Outcome.bind_eq_ok.mp made
    obtain ⟨other, read, made⟩ := Outcome.bind_eq_ok.mp made
    obtain ⟨limit, -, made⟩ := Outcome.bind_eq_ok.mp made
    refine ⟨new, other, by rw [listed]; rfl, StringKind.read?_of_read read, ?_⟩
    cases made
    split_ifs
    · exact ⟨_, StringKind.ownLength?_of_read whole, Nat.le_add_right _ _⟩
    · exact ⟨_, StringKind.ownLength?_built _ _, Text.length_replace_le _ _ _ _⟩
  · cases made

end

/-- Methods that can make a string longer. -/
inductive Growth where
  | center | padRight | padLeft | zeroFill | expandTabs | replace

namespace Growth

def name : Growth → Text
  | center => "center" | padRight => "ljust" | padLeft => "rjust" | zeroFill => "zfill"
  | expandTabs => "expandtabs" | replace => "replace"

def result (s : Subject) (c : Call) : Growth → Except Fault Value
  | center => filled s Text.center c
  | padRight => filled s Text.padRight c
  | padLeft => filled s Text.padLeft c
  | zeroFill => zeroFilled s c
  | expandTabs => tabbed s c
  | replace => replaced s c

variable {kind : StringKind} {receiver : Value} {chars : Text}
  (string : kind.read? receiver = some chars) (g : Growth) {o : Origin} {c : Call} {v : Value}
include string

theorem call_eq (c : Call) :
    call receiver g.name c = ofExcept (g.result ⟨kind, receiver, chars⟩ c) := by
  cases kind with
  | text =>
    cases receiver with
    | text t o =>
      cases string
      cases g <;> rfl
    | _ => cases string
  | bytes =>
    cases receiver with
    | bytes bs o =>
      cases string
      cases g <;> rfl
    | _ => cases string

omit string in
theorem le_of_tabs {size : Int} {own n : Nat} (short : n ≤ max 1 size.toNat * own)
    (bound : size * own ≤ maxLength) : n ≤ max own maxLength := by
  rcases Int.lt_or_le 0 size with positive | small
  · obtain ⟨m, rfl⟩ := Int.eq_ofNat_of_zero_le (Int.le_of_lt positive)
    have wide : max 1 m = m := Nat.max_eq_right (by omega)
    rw [Int.toNat_natCast, wide] at short
    have fits : m * own ≤ maxLength := by exact_mod_cast bound
    omega
  · rw [Int.toNat_of_nonpos small, Nat.max_eq_left (Nat.zero_le 1), Nat.one_mul] at short
    omega

/-- The only call that is let through and can exceed the limit is one without a tab size. -/
theorem length_of_result
    (passed : Limits.checkCall (.method receiver g.name o) c.args (c.keywords.map (·.2)) = .ok ())
    (made : g.result ⟨kind, receiver, chars⟩ c = .ok v) :
    ∃ size, ownLength? v = some size ∧ (size ≤ max chars.length maxLength ∨
      g = expandTabs ∧ c = ⟨[], []⟩ ∧ size = (Text.expandTabs 8 chars).length) := by
  have own := StringKind.ownLength?_of_read string
  have filled (isWidth : Limits.isWidthMethod g.name) (other : (g.name == "expandtabs") = false)
      (length : ∃ w ∈ c.args, ∃ k, w.int? = some k ∧
        ownLength? v = some (max chars.length k.toNat)) :
      ∃ size, ownLength? v = some size ∧ (size ≤ max chars.length maxLength ∨
        g = expandTabs ∧ c = ⟨[], []⟩ ∧ size = (Text.expandTabs 8 chars).length) := by
    obtain ⟨w, member, k, width, length⟩ := length
    have bound := Limits.width_of_checkCall own isWidth passed (List.mem_append_left _ member) width
    rw [other, if_neg Bool.false_ne_true] at bound
    exact ⟨_, length, .inl (by omega)⟩
  cases g with
  | center => exact filled rfl rfl (length_of_filled string Text.length_center made)
  | padRight => exact filled rfl rfl (length_of_filled string Text.length_padRight made)
  | padLeft => exact filled rfl rfl (length_of_filled string Text.length_padLeft made)
  | zeroFill => exact filled rfl rfl (length_of_zeroFilled string made)
  | expandTabs =>
    obtain ⟨size, read, length⟩ := length_of_tabbed string made
    refine ⟨_, length, ?_⟩
    rcases tabSize_cases read with ⟨w, member, width⟩ | ⟨rfl, rfl⟩
    · have bound := Limits.width_of_checkCall own rfl passed member width
      have short := Text.length_expandTabs_le size chars
      exact .inl (le_of_tabs short bound)
    · exact .inr ⟨rfl, rfl, rfl⟩
  | replace =>
    obtain ⟨new, other, second, read, size, length, short⟩ := length_of_replaced string made
    have bound := Limits.replacement_of_checkCall own passed second (StringKind.ownLength?_of_read read)
    exact ⟨size, length, .inl (Nat.le_trans short (Nat.le_trans bound (Nat.le_max_right _ _)))⟩

end Growth
end Method

theorem Limits.ownLength?_mark (n : Nat) (v : Value) : ownLength? (v.markFrom n).1 = ownLength? v := by
  cases v with
  | text t o => cases o <;> rfl
  | bytes bs o => cases o <;> rfl
  | int k o => cases o <;> rfl
  | float x o => cases o <;> rfl
  | complex z o => cases o <;> rfl
  | decimal d o => cases o <;> rfl
  | tuple xs o => cases o <;> rfl
  | slice a b c o => cases o <;> rfl
  | view part r o => cases o <;> rfl
  | boundHelper f c o => cases o <;> rfl
  | form before after o => cases o <;> rfl
  | method x name o => cases o <;> rfl
  | _ => rfl

namespace Interpreter

open Method (Growth)

variable {kind : StringKind} {receiver : Value} {chars : Text}
  (string : kind.read? receiver = some chars) (g : Growth) {o : Origin} {c : Call}
include string

theorem callMethod_eq (lower : Interpreter) (c : Call) :
    lower.callMethod receiver g.name c =
      Render.ofMemory (ofExcept (g.result ⟨kind, receiver, chars⟩ c)) := by
  rw [← g.call_eq string]
  cases kind <;> cases receiver <;> first | rfl | cases string

theorem invoke_growth (n : Nat) (c : Call) :
    (ofFrames (n + 1)).invoke (.method receiver g.name o) c =
      ofExcept (g.result ⟨kind, receiver, chars⟩ c) >>= Render.mark := by
  change (ofFrames n).callMethod receiver g.name c >>= Render.mark = _
  rw [callMethod_eq string]
  cases g.result ⟨kind, receiver, chars⟩ c <;> rfl

theorem length_of_invoke {n : Nat} {s t : RenderState} {v : Value}
    (passed : Limits.checkCall (.method receiver g.name o) c.args (c.keywords.map (·.2)) = .ok ())
    (ran : EStateM.run ((ofFrames n).invoke (.method receiver g.name o) c) s = .ok v t) :
    ∃ size, ownLength? v = some size ∧ (size ≤ max chars.length maxLength ∨
      g = .expandTabs ∧ c = ⟨[], []⟩ ∧ size = (Text.expandTabs 8 chars).length) := by
  cases n with
  | zero => cases ran
  | succ n =>
    rw [invoke_growth string] at ran
    obtain ⟨w, u, ended, marked⟩ := Outcome.run_bind_eq_ok.mp ran
    obtain ⟨made, rfl⟩ := Outcome.run_ofExcept_eq_ok.mp ended
    cases marked
    rw [Limits.ownLength?_mark]
    exact g.length_of_result string passed made

/-- Tabs are replaced without a size whatever comes of it. -/
theorem invoke_expandTabs (n : Nat) (s : RenderState) :
    ∃ v t, EStateM.run ((ofFrames (n + 1)).invoke
        (.method receiver Growth.expandTabs.name o) ⟨[], []⟩) s = .ok v t ∧
      ownLength? v = some (Text.expandTabs 8 chars).length := by
  rw [invoke_growth string]
  obtain ⟨w, made⟩ : ∃ w, Growth.expandTabs.result ⟨kind, receiver, chars⟩ ⟨[], []⟩ = .ok w :=
    ⟨_, rfl⟩
  obtain ⟨size, read, length⟩ := Method.length_of_tabbed string made
  cases read
  refine ⟨_, _, Outcome.run_bind_eq_ok.mpr ⟨w, s, Outcome.run_ofExcept_eq_ok.mpr ⟨made, rfl⟩, rfl⟩, ?_⟩
  rw [Limits.ownLength?_mark, length]

/-- A call that is let through and returns gives a string within the limit, or no longer than the one
it was called on, unless tabs are replaced without a size. This is always let through, and returns: each
tab takes up to eight places. -/
theorem growth_limited (g : Growth) (o : Origin) :
    (∀ (c : Call) (n : Nat) (s t : RenderState) (v : Value),
      Limits.checkCall (.method receiver g.name o) c.args (c.keywords.map (·.2)) = .ok () →
      EStateM.run ((ofFrames n).invoke (.method receiver g.name o) c) s = .ok v t →
      ∃ size, ownLength? v = some size ∧ (size ≤ max chars.length maxLength ∨
        g = .expandTabs ∧ c = ⟨[], []⟩ ∧ size = (Text.expandTabs 8 chars).length)) ∧
    (Limits.checkCall (.method receiver Growth.expandTabs.name o) [] [] = .ok () ∧
      ∀ (n : Nat) (s : RenderState), ∃ v t,
        EStateM.run ((ofFrames (n + 1)).invoke
          (.method receiver Growth.expandTabs.name o) ⟨[], []⟩) s = .ok v t ∧
        ownLength? v = some (Text.expandTabs 8 chars).length) ∧
    (Text.expandTabs 8 chars).length ≤ 8 * chars.length ∧
    ∀ m, chars = List.replicate m 9 → (Text.expandTabs 8 chars).length = 8 * m := by
  refine ⟨fun c n s t v passed ran => length_of_invoke string g passed ran, ⟨?_, ?_⟩, ?_, ?_⟩
  · rw [Limits.checkCall, StringKind.ownLength?_of_read string]
    rfl
  · exact invoke_expandTabs string
  · exact Text.length_expandTabs_le 8 chars
  · rintro m rfl
    exact Text.length_expandTabs_tabs (by decide) m

omit string in
/-- So many tabs become more characters than the limit. -/
theorem growth_limited_of_tabs :
    let tabs : Text := List.replicate 12501 9
    let expand : Value := .method (.text tabs .unmarked) Growth.expandTabs.name .unmarked
    StringKind.text.read? (.text tabs .unmarked) = some tabs ∧
    Limits.checkCall expand [] [] = .ok () ∧
    ∃ v t, EStateM.run ((ofFrames 1).invoke expand ⟨[], []⟩) {} = .ok v t ∧
      ∃ size, ownLength? v = some size ∧ max tabs.length maxLength < size := by
  intro tabs expand
  have string : StringKind.text.read? (.text tabs .unmarked) = some tabs := rfl
  obtain ⟨-, ⟨passed, returns⟩, -, widened⟩ := growth_limited string .expandTabs .unmarked
  obtain ⟨v, t, ran, length⟩ := returns 0 {}
  refine ⟨string, passed, v, t, ran, _, length, ?_⟩
  rw [widened 12501 rfl, List.length_replicate]
  decide

end Interpreter
end Phrasebook
