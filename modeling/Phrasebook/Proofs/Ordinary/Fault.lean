import Phrasebook.Limits
import Phrasebook.Proofs.Outcome
/-!
Faults of values and of the operations on them: those that are shared with the host, and the limits
on what a template may build. No other error of the library comes from them.
-/
namespace Phrasebook

/-- What is said when a template would build too much. -/
inductive Limits.Denies : Text → Prop
  | bits : Denies ("Integer result would exceed " ++ Text.ofNat maxBits ++ " bits")
  | length : Denies ("Result would exceed " ++ Text.ofNat maxLength ++ " characters")
  | repetition : Denies ("Sequence repetition would exceed " ++ Text.ofNat maxLength ++ " items")
  | exponent (shown : Text) :
    Denies ("Exponent " ++ shown ++ " exceeds the limit of " ++ Text.ofNat maxExponent)

/-- A fault that is shared with the host, or a limit that is exceeded. -/
inductive Fault.IsOrdinary : Fault → Prop
  | undefinedName (name : Text) : IsOrdinary (.undefinedName name)
  | notCallable (kind : Text) : IsOrdinary (.notCallable kind)
  | lambdaArity (expected given : Nat) : IsOrdinary (.lambdaArity expected given)
  | noAttribute (kind attr : Text) : IsOrdinary (.noAttribute kind attr)
  | outOfRange (what : Indexed) : IsOrdinary (.outOfRange what)
  | missingKey (shown : Text) : IsOrdinary (.missingKey shown)
  | raised (message : Text) : IsOrdinary (.raised message)
  | unworded (kind : FaultKind) : IsOrdinary (.unworded kind)
  | limit {detail : Text} (denies : Limits.Denies detail) : IsOrdinary (.violation detail)

namespace Fault

attribute [grind .] IsOrdinary.undefinedName IsOrdinary.notCallable IsOrdinary.lambdaArity
  IsOrdinary.noAttribute IsOrdinary.outOfRange IsOrdinary.missingKey IsOrdinary.raised
  IsOrdinary.unworded

@[grind .] theorem IsOrdinary.type : Fault.type.IsOrdinary := .unworded .type

@[grind .] theorem IsOrdinary.value : Fault.value.IsOrdinary := .unworded .value

end Fault

/-- What an evaluation within the grammar fails with. -/
inductive Fault.IsRuntime : Fault → Prop
  | ordinary {f : Fault} (ordinary : f.IsOrdinary) : IsRuntime f
  | timedOut (report : Report) : IsRuntime (.own (.timedOut report))
  | tooDeep (report : Report) : IsRuntime (.own (.tooDeep report))
  | classCalled : IsRuntime (.violation "Calling classes is not allowed in templates")
  | partialAttribute (attr : Text) : IsRuntime (.violation
      ("Access to attribute '" ++ attr ++ "' of a partial function is not allowed"))
  | keyNotFound (report : Report) (locale key : Text) :
    IsRuntime (.own (.keyNotFound report locale key))
  | execution (report : Report) (source cause : Text) (locale key : Option Text) :
    IsRuntime (.own (.execution report source cause locale key))

/-- A computation whose faults are ordinary. -/
abbrev Ordinary {α : Type} (x : Except Fault α) : Prop := Outcome.FailsOnly Fault.IsOrdinary x

theorem Ordinary.runtime {α : Type} {x : Except Fault α} (ordinary : Ordinary x) :
    Outcome.FailsOnly Fault.IsRuntime x :=
  fun f failed => .ordinary (ordinary f failed)

namespace Memory

/-- A computation on the heap whose faults are ordinary. -/
abbrev Ordinary {α : Type} (m : Memory α) : Prop := Outcome.StopsOnly Fault.IsOrdinary m

@[grind .] theorem newList_ordinary (items : List Value) : Memory.Ordinary (newList items) := by
  grind [newList, markAll]

@[grind .] theorem newDict_ordinary (entries : Entries) : Memory.Ordinary (newDict entries) := by
  grind [newDict, markEntries, markAll]

@[grind .] theorem newSet_ordinary (items : List Value) : Memory.Ordinary (newSet items) := by
  grind [newSet, markAll]

@[grind .] theorem writeList_ordinary (r : Nat) (items : List Value) :
    Memory.Ordinary (writeList r items) := by
  grind [writeList, markAll]

@[grind .] theorem writeDict_ordinary (r : Nat) (entries : Entries) :
    Memory.Ordinary (writeDict r entries) := by
  grind [writeDict, markEntries, markAll]

@[grind .] theorem writeSet_ordinary (r : Nat) (items : List Value) :
    Memory.Ordinary (writeSet r items) := by
  grind [writeSet, markAll]

end Memory
end Phrasebook
