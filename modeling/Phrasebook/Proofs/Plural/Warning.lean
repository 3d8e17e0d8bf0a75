import Phrasebook.Proofs.Plural.Engine
import Phrasebook.Render.Invoke
/-!
The warnings of a plural engine. Each is logged when it is first due, and not again until the engine
forgets its warnings. A registration forgets that a tag was reported, but from then on the tag has a
rule. A form that is a function may call the engine again; these calls come after the one that
selected it.
-/
namespace Phrasebook

open Interpreter (tagOf countOf formsLength)

/-- What is asked of an engine, one call after the other. A form is selected in the heap of its time. -/
inductive EngineCall where
  | ruleFor (tag : Text)
  | selectForm (heap : Heap) (count forms language : Value)
  | register (tag : Text) (rule : PluralRule)
  | resetWarnings

namespace EngineCall

def registered? : EngineCall → Option (Text × PluralRule)
  | register tag rule => some (tag, rule)
  | _ => none

def registrations (calls : List EngineCall) : List (Text × PluralRule) :=
  calls.filterMap registered?

end EngineCall

/-- Something to warn of: a tag without a rule, or too few forms for an index. -/
inductive PluralNotice where
  | unsupported (tag : Text) (followed : PluralRule)
  | clamped (rule : PluralRule) (index forms : Nat)

namespace PluralNotice

/-- What counts as the same warning: another spelling of a tag, or another index. -/
def mark : PluralNotice → PluralWarning
  | unsupported tag _ => .language (Locale.normalize tag)
  | clamped rule _ forms => .clamp rule forms

def record : PluralNotice → LogRecord
  | unsupported tag followed =>
    ⟨.warning, "Unsupported plural language " ++ Text.Quoted.text tag ++ ", falling back to "
      ++ Text.Quoted.text followed.label ++ " rules"⟩
  | clamped rule index forms => PluralEngine.clampWarning rule index forms

theorem record_ne (tag : Text) (followed rule : PluralRule) (index forms : Nat) :
    (unsupported tag followed).record ≠ (clamped rule index forms).record := by
  intro same
  have first : (85 : Nat) :: _ = _ := congrArg LogRecord.message same
  cases rule <;> cases first

end PluralNotice

open PluralNotice (unsupported)

namespace PluralEngine

/-- The index of the form for a count, and how many forms there are. -/
def choice (h : Heap) (rule : PluralRule) (count forms : Value) : Except Fault (Nat × Nat) := do
  let count ← countOf count
  let index ← rule.index count
  let size ← formsLength h forms
  pure (index, size)

/-- What selecting one of some forms asks of an engine. -/
def select (e : PluralEngine) (h : Heap) (count forms language : Value) :
    Except Fault Nat × PluralEngine × List LogRecord :=
  match tagOf language with
  | .error f => (.error f, e, [])
  | .ok tag =>
    let found := e.ruleFor tag
    match choice h found.1 count forms with
    | .error f => (.error f, found.2)
    | .ok (index, size) =>
      let fitted := found.2.1.clampIndex found.1 index size
      (.ok fitted.1, fitted.2.1, found.2.2 ++ fitted.2.2)

/-- What becomes of an engine by a call, and what is logged. -/
def ask (e : PluralEngine) : EngineCall → PluralEngine × List LogRecord
  | .ruleFor tag => (e.ruleFor tag).2
  | .selectForm h count forms language =>
    if forms.truth h then (e.select h count forms language).2 else (e, [])
  | .register tag rule => (e.register tag rule, [])
  | .resetWarnings => (e.resetWarnings, [])

def after (e : PluralEngine) (calls : List EngineCall) : PluralEngine :=
  calls.foldl (fun e call => (e.ask call).1) e

end PluralEngine

namespace Render

def engineOf (s : RenderState) : EngineOwner → PluralEngine
  | .facade => s.engine
  | .shared => s.sharedEngine

def withEngine (s : RenderState) (owner : EngineOwner) (e : PluralEngine)
    (records : List LogRecord) : RenderState :=
  match owner with
  | .facade => { s with engine := e, log := records.reverse ++ s.log }
  | .shared => { s with sharedEngine := e, log := records.reverse ++ s.log }

theorem useEngine_bind {α β : Type} (owner : EngineOwner)
    (ask : PluralEngine → α × PluralEngine × List LogRecord) (next : α → Render β)
    (s : RenderState) :
    (useEngine owner ask >>= next) s =
      next (ask (engineOf s owner)).1
        (withEngine s owner (ask (engineOf s owner)).2.1 (ask (engineOf s owner)).2.2) := by
  cases owner <;> rfl

theorem withEngine_self (s : RenderState) (owner : EngineOwner) :
    withEngine s owner (engineOf s owner) [] = s := by
  cases owner <;> rfl

theorem withEngine_withEngine (s : RenderState) (owner : EngineOwner) (first e : PluralEngine)
    (older newer : List LogRecord) :
    withEngine (withEngine s owner first older) owner e newer =
      withEngine s owner e (older ++ newer) := by
  cases owner <;> simp [withEngine]

@[simp] theorem engineOf_withEngine (s : RenderState) (owner : EngineOwner) (e : PluralEngine)
    (records : List LogRecord) : engineOf (withEngine s owner e records) owner = e := by
  cases owner <;> rfl

@[simp] theorem heap_withEngine (s : RenderState) (owner : EngineOwner) (e : PluralEngine)
    (records : List LogRecord) : (withEngine s owner e records).heap = s.heap := by
  cases owner <;> rfl

end Render

namespace Interpreter
open PluralEngine (choice)
open Render (engineOf withEngine useEngine useEngine_bind)

theorem bind_apply_congr {α β : Type} {m m' : Render α} {next : α → Render β} {s : RenderState}
    (same : m s = m' s) : (m >>= next) s = (m' >>= next) s := by
  simp only [bind, EStateM.bind, same]

theorem choice_bind {α : Type} (rule : PluralRule) (count forms : Value)
    (next : Nat → Nat → Render α) (s : RenderState) :
    (do
      let count ← ofExcept (countOf count)
      let index ← ofExcept (rule.index count)
      let size ← Render.look fun h => formsLength h forms
      next index size) s =
      (do
        let chosen ← ofExcept (choice s.heap rule count forms)
        next chosen.1 chosen.2) s := by
  unfold choice
  rw [← bind_assoc]
  cases counted : countOf count with
  | error f => rfl
  | ok c =>
    change ((ofExcept (rule.index c) : Render Nat) >>= _) s =
      ((ofExcept (rule.index c >>= _) : Render (Nat × Nat)) >>= _) s
    cases rule.index c with
    | error f => rfl
    | ok index =>
      change ((ofExcept (formsLength s.heap forms) : Render Nat) >>= _) s =
        ((ofExcept (formsLength s.heap forms >>= _) : Render (Nat × Nat)) >>= _) s
      cases formsLength s.heap forms <;> rfl

theorem formIndex_eq (owner : EngineOwner) (count forms language : Value) (s : RenderState) :
    formIndex owner count forms language s =
      (useEngine owner (fun e => e.select s.heap count forms language) >>= ofExcept) s := by
  rw [useEngine_bind]
  unfold formIndex PluralEngine.select
  cases tagOf language with
  | error f => exact congrArg _ (Render.withEngine_self s owner).symm
  | ok tag =>
    change (useEngine owner (fun e => e.ruleFor tag) >>= _) s = _
    rw [useEngine_bind, choice_bind, Render.heap_withEngine]
    dsimp only
    cases choice s.heap ((engineOf s owner).ruleFor tag).1 count forms with
    | error f => rfl
    | ok chosen =>
      change (useEngine owner (fun e => e.clampIndex _ chosen.1 chosen.2)) _ = _
      rw [← bind_pure (useEngine owner _), useEngine_bind, Render.engineOf_withEngine,
        Render.withEngine_withEngine]
      rfl

/-- Selecting a form asks the engine of the context once, in the heap of its time. -/
theorem selectForm_eq (lower : Interpreter) (owner : EngineOwner) (count forms language : Value)
    (s : RenderState) :
    lower.selectForm owner count forms language s =
      (if forms.truth s.heap then do
        let index ← useEngine owner (fun e => e.select s.heap count forms language) >>= ofExcept
        let form ← Render.ofMemory (forms.subscript (.ofInt index))
        lower.fillForm form count
      else Render.look fun h => Value.shown h count) s := by
  unfold selectForm
  change (if !forms.truth s.heap then _ else formIndex owner count forms language >>= _) s = _
  cases forms.truth s.heap with
  | false => rfl
  | true =>
    exact bind_apply_congr (formIndex_eq owner count forms language s)

end Interpreter

namespace PluralEngine

variable {e : PluralEngine} {call : EngineCall} {rule? : Text → Option PluralRule}
  {fallback : PluralRule}

/-- Logs a notice, unless the same warning was given. -/
def report (e : PluralEngine) (n : PluralNotice) : PluralEngine × List LogRecord :=
  if e.warned.contains n.mark then (e, [])
  else ({ e with warned := n.mark :: e.warned }, [n.record])

def reportAll (e : PluralEngine) : List PluralNotice → PluralEngine × List LogRecord
  | [] => (e, [])
  | n :: later =>
    let rest := (e.report n).1.reportAll later
    (rest.1, (e.report n).2 ++ rest.2)

def missing (rule? : Text → Option PluralRule) (fallback : PluralRule) (tag : Text) :
    List PluralNotice :=
  if (rule? tag).isNone then [.unsupported tag fallback] else []

def crowded (rule : PluralRule) : Except Fault (Nat × Nat) → List PluralNotice
  | .ok (index, forms) => if index < forms then [] else [.clamped rule index forms]
  | .error _ => []

/-- What there is to warn of at a call: a tag that is resolved has no entry, the index of a form is
not below the number of forms. -/
def due (rule? : Text → Option PluralRule) (fallback : PluralRule) :
    EngineCall → List PluralNotice
  | .ruleFor tag => missing rule? fallback tag
  | .selectForm h count forms language =>
    if forms.truth h then
      match tagOf language with
      | .ok tag =>
        let rule := (rule? tag).getD fallback
        missing rule? fallback tag ++ crowded rule (choice h rule count forms)
      | .error _ => []
    else []
  | .register .. | .resetWarnings => []

/-- What an engine has to warn of at a call. -/
def dueNow (e : PluralEngine) (call : EngineCall) : List PluralNotice :=
  due ( entry? e) e.defaultRule call

theorem due_shape (rule? : Text → Option PluralRule) (fallback : PluralRule) (call : EngineCall) :
    due rule? fallback call = [] ∨ ∃ tag rule chosen,
      due rule? fallback call = missing rule? fallback tag ++ crowded rule chosen := by
  cases call with
  | ruleFor tag => exact .inr ⟨tag, fallback, .error .type, (List.append_nil _).symm⟩
  | selectForm h count forms language =>
    simp only [due]
    split_ifs
    · split
      · exact .inr ⟨_, _, _, rfl⟩
      · exact .inl rfl
    · exact .inl rfl
  | register tag rule => exact .inl rfl
  | resetWarnings => exact .inl rfl

/-- A call has at most one notice of each kind. -/
theorem nodup_map_due {α : Type} (rule? : Text → Option PluralRule) (fallback : PluralRule)
    (call : EngineCall) (f : PluralNotice → α)
    (differ : ∀ tag followed rule index forms,
      f (.unsupported tag followed) ≠ f (.clamped rule index forms)) :
    ((due rule? fallback call).map f).Nodup := by
  rcases due_shape rule? fallback call with none | ⟨tag, rule, chosen, shape⟩
  · rw [none]
    exact List.nodup_nil
  · rw [shape]
    unfold missing crowded
    rcases chosen with _ | ⟨index, forms⟩
    · split_ifs <;> simp
    · dsimp only
      split_ifs <;> simp [differ]

theorem absent_of_mem_due {tag : Text} {followed : PluralRule}
    (member : .unsupported tag followed ∈ due rule? fallback call) : rule? tag = none := by
  rcases due_shape rule? fallback call with none | ⟨other, rule, chosen, shape⟩
  · rw [none] at member
    cases member
  · rw [shape] at member
    unfold missing crowded at member
    rcases List.mem_append.mp member with member | member
    · split_ifs at member with absent
      · cases List.mem_singleton.mp member
        exact Option.isNone_iff_eq_none.mp absent
      · cases member
    · rcases chosen with _ | ⟨index, forms⟩
      · cases member
      · dsimp only at member
        split_ifs at member
        · cases member
        · cases List.mem_singleton.mp member

theorem reportAll_singleton (n : PluralNotice) : e.reportAll [n] = e.report n := by
  simp [reportAll]

theorem ruleFor_eq (tag : Text) : e.ruleFor tag =
    (( e.entry? tag).getD e.defaultRule, e.reportAll (missing ( entry? e) e.defaultRule tag)) := by
  unfold ruleFor missing
  cases e.entry? tag with
  | some rule => rfl
  | none =>
    rw [Option.isNone_none, if_pos rfl, reportAll_singleton]
    unfold report
    cases given : e.warned.contains (.language (Locale.normalize tag)) <;>
      simp only [PluralNotice.mark, given] <;> rfl

theorem clampIndex_snd (rule : PluralRule) (index forms : Nat) :
    (e.clampIndex rule index forms).2 = e.reportAll (crowded rule (.ok (index, forms))) := by
  unfold clampIndex crowded
  dsimp only
  by_cases fits : index < forms
  · rw [if_pos fits, if_pos fits]
    rfl
  · rw [if_neg fits, if_neg fits, reportAll_singleton]
    unfold report
    cases given : e.warned.contains (.clamp rule forms) <;>
      simp only [PluralNotice.mark, given] <;> rfl

theorem reportAll_append (first later : List PluralNotice) :
    e.reportAll (first ++ later) =
      (((e.reportAll first).1.reportAll later).1,
        (e.reportAll first).2 ++ ((e.reportAll first).1.reportAll later).2) := by
  induction first generalizing e with
  | nil => rfl
  | cons n rest ih => simp [reportAll, ih]

theorem ask_ruleFor (tag : Text) :
    e.ask (.ruleFor tag) = e.reportAll (e.dueNow (.ruleFor tag)) := by
  simp only [ask, dueNow, due, ruleFor_eq]

theorem ask_selectForm (h : Heap) (count forms language : Value) :
    e.ask (.selectForm h count forms language) =
      e.reportAll (e.dueNow (.selectForm h count forms language)) := by
  simp only [ask, dueNow, due]
  split_ifs
  · unfold select
    cases tagOf language with
    | error f => rfl
    | ok tag =>
      dsimp only
      rw [ruleFor_eq, reportAll_append]
      cases choice h (( e.entry? tag).getD e.defaultRule) count forms with
      | error f => simp [crowded, reportAll]
      | ok chosen =>
        dsimp only
        rw [clampIndex_snd]
  · rfl

theorem mem_warned_reportAll (ns : List PluralNotice) {m : PluralWarning} :
    m ∈ (e.reportAll ns).1.warned ↔ m ∈ e.warned ∨ ∃ n ∈ ns, n.mark = m := by
  induction ns generalizing e with
  | nil => simp [reportAll]
  | cons n later ih =>
    have first : m ∈ (e.report n).1.warned ↔ m ∈ e.warned ∨ n.mark = m := by
      unfold report
      split_ifs with given
      · have known : n.mark ∈ e.warned := List.contains_iff_mem.mp given
        refine ⟨.inl, fun either => either.elim id fun same => same ▸ known⟩
      · rw [List.mem_cons, or_comm, eq_comm]
    unfold reportAll
    rw [ih, first, or_assoc, List.exists_mem_cons_iff]

theorem reportAll_snd {ns : List PluralNotice} (distinct : (ns.map PluralNotice.mark).Nodup) :
    (e.reportAll ns).2 = (ns.filter (·.mark ∉ e.warned)).map PluralNotice.record := by
  induction ns generalizing e with
  | nil => rfl
  | cons n later ih =>
    obtain ⟨fresh, distinct⟩ := List.nodup_cons.mp distinct
    have same : later.filter (·.mark ∉ (e.report n).1.warned) =
        later.filter (·.mark ∉ e.warned) := by
      refine List.filter_congr fun other member => ?_
      have first := mem_warned_reportAll (e := e) [n] (m := other.mark)
      have differs : n.mark ≠ other.mark := fun same =>
        fresh (same ▸ List.mem_map_of_mem member)
      rw [reportAll_singleton] at first
      simp [first, differs]
    unfold reportAll
    dsimp only
    rw [ih distinct, same, List.filter_cons]
    unfold report
    split_ifs with given absent absent
    · simp_all
    · rfl
    · simp
    · simp_all

theorem ask_snd : (e.ask call).2 =
    ((e.dueNow call).filter (·.mark ∉ e.warned)).map PluralNotice.record := by
  have distinct := nodup_map_due ( entry? e) e.defaultRule call
    PluralNotice.mark fun tag followed rule index forms same => by cases same
  cases call with
  | ruleFor tag =>
    rw [ask_ruleFor]
    exact reportAll_snd distinct
  | selectForm h count forms language =>
    rw [ask_selectForm]
    exact reportAll_snd distinct
  | register tag rule => rfl
  | resetWarnings => rfl

/-- A call takes some of the steps that an engine has, with the same registrations. -/
theorem exists_run_ask (call : EngineCall) : ∃ steps, (e.ask call).1 = e.run steps ∧
    PluralCall.registrations steps = call.registered?.toList := by
  cases call with
  | ruleFor tag => exact ⟨[.ruleFor tag], rfl, rfl⟩
  | selectForm h count forms language =>
    simp only [ask]
    split_ifs
    · unfold select
      cases tagOf language with
      | error f => exact ⟨[], rfl, rfl⟩
      | ok tag =>
        dsimp only
        cases choice h (e.ruleFor tag).1 count forms with
        | error f => exact ⟨[.ruleFor tag], rfl, rfl⟩
        | ok chosen =>
          exact ⟨[.ruleFor tag, .clampIndex (e.ruleFor tag).1 chosen.1 chosen.2], rfl, rfl⟩
    · exact ⟨[], rfl, rfl⟩
  | register tag rule => exact ⟨[.register tag rule], rfl, rfl⟩
  | resetWarnings => exact ⟨[.resetWarnings], rfl, rfl⟩

theorem exists_run_after (calls : List EngineCall) : ∃ steps, e.after calls = e.run steps ∧
    PluralCall.registrations steps = EngineCall.registrations calls := by
  induction calls generalizing e with
  | nil => exact ⟨[], rfl, rfl⟩
  | cons call later ih =>
    obtain ⟨first, ran, registered⟩ := exists_run_ask (e := e) call
    obtain ⟨rest, ranLater, registeredLater⟩ := ih (e := (e.ask call).1)
    refine ⟨first ++ rest, ?_, ?_⟩
    · unfold run at ran ranLater ⊢
      rw [List.foldl_append, ← ran, ← ranLater]
      rfl
    · unfold PluralCall.registrations EngineCall.registrations at *
      rw [List.filterMap_append, registered, registeredLater]
      cases given : call.registered? <;> simp [given]

section Trace

variable (table : List (Text × PluralRule)) (language : Text) (earlier : List EngineCall)
  {m : PluralWarning}

/-- What there is to warn of at a call after some others. -/
def dueAfter (call : EngineCall) : List PluralNotice :=
  due (resolved? (table ++ EngineCall.registrations earlier)) (firstDefault table language) call

/-- What a call logs after some others. -/
def logged (call : EngineCall) : List LogRecord :=
  (((new table language).after earlier).ask call).2

def Logs (call : EngineCall) (m : PluralWarning) : Prop :=
  ∃ n ∈ dueAfter table language earlier call,
    n.mark = m ∧ n.record ∈ logged table language earlier call

/-- A warning was logged, and the warnings were not forgotten since. -/
def Reported (m : PluralWarning) : Prop :=
  ∃ before call since, earlier = before ++ call :: since ∧ .resetWarnings ∉ since ∧
    Logs table language before call m

theorem due_after (call : EngineCall) :
    ((new table language).after earlier).dueNow call =
      dueAfter table language earlier call := by
  obtain ⟨steps, ran, registered⟩ := exists_run_after (e := new table language) earlier
  have entries : entry? ((new table language).after earlier) =
      resolved? (table ++ EngineCall.registrations earlier) := by
    funext tag
    rw [ran, entry?_run_new, registered]
  rw [dueNow, entries, ran, defaultRule_run_new, dueAfter]

theorem logged_eq (call : EngineCall) : logged table language earlier call =
    ((dueAfter table language earlier call).filter
      (·.mark ∉ ((new table language).after earlier).warned)).map PluralNotice.record := by
  rw [logged, ask_snd, due_after]

theorem eq_of_record_eq {call : EngineCall} {n n' : PluralNotice}
    (member : n ∈ dueAfter table language earlier call)
    (member' : n' ∈ dueAfter table language earlier call) (same : n.record = n'.record) :
    n = n' :=
  List.inj_on_of_nodup_map (nodup_map_due _ _ _ _ PluralNotice.record_ne) member member' same

theorem logs_iff {call : EngineCall} : Logs table language earlier call m ↔
    m ∉ ((new table language).after earlier).warned ∧
      ∃ n ∈ dueAfter table language earlier call, n.mark = m := by
  unfold Logs
  rw [logged_eq]
  constructor
  · rintro ⟨n, member, rfl, told⟩
    obtain ⟨n', chosen, same⟩ := List.mem_map.mp told
    obtain ⟨member', fresh⟩ := List.mem_filter.mp chosen
    rw [eq_of_record_eq table language earlier member member' same.symm]
    exact ⟨of_decide_eq_true fresh, n', member', rfl⟩
  · rintro ⟨fresh, n, member, rfl⟩
    exact ⟨n, member, rfl, List.mem_map_of_mem (List.mem_filter.mpr ⟨member, decide_eq_true fresh⟩)⟩

theorem reported_snoc {call : EngineCall} : Reported table language (earlier ++ [call]) m ↔
    Logs table language earlier call m ∨
      call ≠ .resetWarnings ∧ Reported table language earlier m := by
  constructor
  · rintro ⟨before, first, since, split, kept, told⟩
    rcases List.eq_nil_or_concat' since with rfl | ⟨since, last, rfl⟩
    · obtain ⟨rfl, same⟩ := List.append_inj' split rfl
      cases same
      exact .inl told
    · have split : earlier ++ [call] = (before ++ first :: since) ++ [last] := by simpa using split
      obtain ⟨rfl, same⟩ := List.append_inj' split rfl
      cases same
      simp only [List.mem_append, List.mem_singleton, not_or] at kept
      exact .inr ⟨Ne.symm kept.2, before, first, since, rfl, kept.1, told⟩
  · rintro (told | ⟨keeps, before, first, since, rfl, kept, told⟩)
    · exact ⟨earlier, call, [], rfl, List.not_mem_nil, told⟩
    · refine ⟨before, first, since ++ [call], by simp, ?_, told⟩
      simp [kept, keeps.symm]

theorem after_snoc (call : EngineCall) : (new table language).after (earlier ++ [call]) =
    (((new table language).after earlier).ask call).1 := by
  simp [after]

theorem mem_warned_told {call : EngineCall}
    (told : ((new table language).after earlier).ask call =
      ((new table language).after earlier).reportAll
        (((new table language).after earlier).dueNow call)) :
    m ∈ ((new table language).after (earlier ++ [call])).warned ↔
      Logs table language earlier call m ∨ m ∈ ((new table language).after earlier).warned := by
  rw [after_snoc, told, mem_warned_reportAll, due_after, logs_iff]
  by_cases noted : m ∈ ((new table language).after earlier).warned <;> simp [noted]

theorem mem_warned_register (tag : Text) (rule : PluralRule) :
    m ∈ ((new table language).after (earlier ++ [.register tag rule])).warned ↔
      m ∈ ((new table language).after earlier).warned ∧ m ≠ .language (Locale.normalize tag) := by
  rw [after_snoc]
  exact List.mem_filter.trans (and_congr_right fun _ => bne_iff_ne)

theorem not_logs_of_silent {call : EngineCall}
    (silent : dueAfter table language earlier call = []) :
    ¬Logs table language earlier call m := by
  rintro ⟨n, member, -⟩
  rw [silent] at member
  cases member

/-- Rules that are added take no entry away. -/
theorem isSome_lastRule?_append (older newer : List (Text × PluralRule)) (code : Text) :
    (lastRule? (older ++ newer) code).isSome ↔
      (lastRule? newer code).isSome ∨ (lastRule? older code).isSome := by
  rw [lastRule?_append, Option.isSome_or, Bool.or_eq_true]

/-- The warnings that an engine has noted were logged since it forgot them. Of those, a registration
has it forget no other than that of a tag which has an entry from then on. -/
theorem warned_after (earlier : List EngineCall) :
    (m ∈ ((new table language).after earlier).warned → Reported table language earlier m) ∧
    (Reported table language earlier m →
      m ∈ ((new table language).after earlier).warned ∨
        ∃ code, m = .language code ∧
          (lastRule? (table ++ EngineCall.registrations earlier) code).isSome) := by
  -- Call after call, in both directions at once: they share what each call does to the warnings.
  induction earlier using List.reverseRecOn with
  | nil =>
    refine ⟨fun member => absurd member List.not_mem_nil, ?_⟩
    rintro ⟨before, first, since, split, -⟩
    simp at split
  | append_singleton earlier call ih =>
    obtain ⟨sound, complete⟩ := ih
    have registered : EngineCall.registrations (earlier ++ [call]) =
        EngineCall.registrations earlier ++ call.registered?.toList := by
      cases call <;> simp [EngineCall.registrations, EngineCall.registered?]
    rw [reported_snoc, registered]
    cases call with
    | ruleFor tag =>
      rw [mem_warned_told _ _ _ (ask_ruleFor tag)]
      simpa [EngineCall.registered?, or_assoc] using
        ⟨Or.imp_right sound, Or.imp_right complete⟩
    | selectForm h count forms language =>
      rw [mem_warned_told _ _ _ (ask_selectForm h count forms language)]
      simpa [EngineCall.registered?, or_assoc] using
        ⟨Or.imp_right sound, Or.imp_right complete⟩
    | register tag rule =>
      rw [mem_warned_register, or_iff_right (not_logs_of_silent _ _ _ rfl)]
      refine ⟨fun noted => ⟨by simp, sound noted.1⟩, fun kept => ?_⟩
      rw [← List.append_assoc, EngineCall.registered?, Option.toList_some]
      simp only [isSome_lastRule?_append (table ++ EngineCall.registrations earlier)]
      rcases complete kept.2 with member | ⟨code, same, found⟩
      · -- The warning is forgotten only if it is of the tag that has an entry now.
        by_cases own : m = .language (Locale.normalize tag)
        · exact .inr ⟨Locale.normalize tag, own, .inl (by simp [lastRule?, inNormalForm])⟩
        · exact .inl ⟨member, own⟩
      · exact .inr ⟨code, same, .inr found⟩
    | resetWarnings =>
      rw [after_snoc, or_iff_right (not_logs_of_silent _ _ _ rfl)]
      exact ⟨fun member => absurd member List.not_mem_nil, fun kept => absurd rfl kept.1⟩

/-- For what is due, to be noted and to be reported is the same. -/
theorem mem_warned_iff_reported {call : EngineCall} {n : PluralNotice}
    (member : n ∈ dueAfter table language earlier call) :
    n.mark ∈ ((new table language).after earlier).warned ↔
      Reported table language earlier n.mark := by
  obtain ⟨sound, complete⟩ := warned_after table language (m := n.mark) earlier
  refine ⟨sound, fun reported => ?_⟩
  rcases complete reported with noted | ⟨code, same, found⟩
  · exact noted
  · cases n with
    | clamped rule index forms => cases same
    | unsupported tag followed =>
      cases same
      have absent := absent_of_mem_due member
      rw [resolved?, Option.or_eq_none_iff] at absent
      rw [absent.1] at found
      cases found

open Classical in
/-- Over any calls an engine logs what is due and was not reported since its warnings were forgotten,
so that nothing is logged twice between; and selecting a form in a template asks its engine once. -/
theorem logged_unless_reported (table : List (Text × PluralRule)) (language : Text) :
    (∀ earlier call, logged table language earlier call =
      ((dueAfter table language earlier call).filter
        (¬Reported table language earlier ·.mark)).map PluralNotice.record) ∧
    (∀ before call since later m, Logs table language before call m → .resetWarnings ∉ since →
      ¬Logs table language (before ++ call :: since) later m) ∧
    ∀ (lower : Interpreter) (owner : EngineOwner) (count forms tag : Value) (s : RenderState),
      lower.selectForm owner count forms tag s =
        (if forms.truth s.heap then do
          let index ← Render.useEngine owner (fun e => e.select s.heap count forms tag) >>= ofExcept
          let form ← Render.ofMemory (forms.subscript (.ofInt index))
          lower.fillForm form count
        else Render.look fun h => Value.shown h count) s := by
  refine ⟨fun earlier call => ?_, fun before call since later m first kept again => ?_,
    Interpreter.selectForm_eq⟩
  · rw [logged_eq]
    congr 1
    refine List.filter_congr fun n member => ?_
    exact decide_eq_decide.mpr (not_congr (mem_warned_iff_reported table language earlier member))
  · obtain ⟨fresh, n, member, rfl⟩ := (logs_iff table language _).mp again
    exact fresh ((mem_warned_iff_reported table language _ member).mpr
      ⟨before, call, since, rfl, kept, first⟩)

end Trace

end PluralEngine
end Phrasebook
