import Phrasebook.Proofs.Resource.Visit
import Phrasebook.Proofs.Store.Run
/-!
How loading fails: with the documented errors, unless it comes upon something that cannot be written or
is not read.
-/
namespace Phrasebook.ResourceStore

open Resource (Visit visitsOf)

variable {s : ResourceStore} {tag : Text} {data : Datum} {f : Fault}

theorem load_eq_error_iff : (s.load tag data).1 = .error f ↔
    Resource.compile ⟨Locale.normalize tag, s.budget⟩ s.maxDepth data = .error f := by
  rw [load]
  split <;> simp_all

/-- Loading fails as the first check on the way through the data that fails. -/
theorem load_checks : (s.load tag data).1 = .error f ↔
    ∃ front v back, visitsOf s.maxDepth data = front ++ v :: back ∧
      (∀ u ∈ front, u.check ⟨Locale.normalize tag, s.budget⟩ = .ok ()) ∧
      v.check ⟨Locale.normalize tag, s.budget⟩ = .error f := by
  rw [load_eq_error_iff, ← Outcome.discard_eq_error_iff, Resource.compile_checks,
    Outcome.forM_eq_error_iff]

/-- Loading ends otherwise than documented if and only if, before any other check fails, it comes upon a
key or a position that cannot be written or upon a template with an expression that is not read; what
escapes then is one of three faults. Compiling a template fails with anything but a syntax error of that
template if and only if its first expression that cannot be compiled is one that is not read. -/
theorem load_escapes_iff (s : ResourceStore) (tag : Text) (data : Datum) (f : Fault) :
    ((s.load tag data).1 = .error f ∧ ¬f.IsDocumented ↔
      ∃ front v back, visitsOf s.maxDepth data = front ++ v :: back ∧
        (∀ u ∈ front, u.check ⟨Locale.normalize tag, s.budget⟩ = .ok ()) ∧ v.Escapes f) ∧
    ((s.load tag data).1 = .error f → f.IsDocumented ∨
      f = .value ∨ f = .unworded .encoding ∨ f = .unworded .recursion) ∧
    ∀ budget source, (Template.compile budget source = .error f ∧
      (∀ report, f ≠ .own (.templateSyntax report source)) ↔ Template.Escapes source f) := by
  refine ⟨⟨?_, ?_⟩, fun failed => ?_, fun budget source => ⟨?_, fun escapes => ?_⟩⟩
  · rintro ⟨failed, undocumented⟩
    obtain ⟨front, v, back, whole, passed, failed⟩ := load_checks.mp failed
    exact ⟨front, v, back, whole, passed, (Visit.check_fault failed).resolve_left undocumented⟩
  · rintro ⟨front, v, back, whole, passed, escapes⟩
    exact ⟨load_checks.mpr ⟨front, v, back, whole, passed, Visit.check_of_escapes escapes⟩,
      escapes.not_isDocumented⟩
  · obtain ⟨_, v, _, -, -, failed⟩ := load_checks.mp failed
    exact (Visit.check_fault failed).imp_right Visit.Escapes.kind
  · rintro ⟨failed, otherwise⟩
    exact (Template.compile_cases failed).resolve_left fun ⟨report, same⟩ => otherwise report same
  · refine ⟨Template.compile_of_escapes escapes, fun report same => ?_⟩
    rcases escapes.kind with rfl | rfl <;> cases same

/-- An expression in which a lone surrogate is quoted. -/
def loneSurrogate : Text := [36, 123, 39, 0xD800, 39, 125]

theorem load_lone_surrogate :
    ((fresh .standard 100).load "en" (.map [(.ofText "k", .text loneSurrogate)])).1 =
      .error (.unworded .encoding) ∧ ¬Fault.IsDocumented (.unworded .encoding) := by
  refine (load_escapes_iff _ _ _ _).1.mpr
    ⟨[.key [] (.ofText "k"), .level (DepthGuard.new 100)], .text loneSurrogate, [], rfl, ?_, ?_⟩
  · simp only [List.forall_mem_cons]
    exact ⟨rfl, rfl, nofun⟩
  · exact ⟨[], [39, 0xD800, 39], 0, [], by decide +kernel, nofun,
      .notEncodable 0xD800 (by decide +kernel) (by decide)⟩

end Phrasebook.ResourceStore
