import Phrasebook.Diagnostic.Format
import Phrasebook.Proofs.Loading.Json
import Phrasebook.Proofs.OrderedMap
/-!
The JSON object of a diagnostic gives the diagnostic back: each field that is present is read under
its name, as it is, and nothing else is. So two diagnostics have one object only if they agree,
where an empty hint counts as none.
-/
namespace Phrasebook

theorem DiagnosticCode.label_injective : Function.Injective label := by
  have found (c : DiagnosticCode) : ofLabel? c.label = some c := by cases c <;> decide
  intro a b same
  have again := congrArg ofLabel? same
  rw [found, found] at again
  exact Option.some.inj again

theorem Severity.label_injective : Function.Injective label := by
  intro a b same
  cases a <;> cases b <;> first | rfl | exact absurd same (by decide)

namespace Diagnostic

/-- The hint, unless it is empty. -/
def shownHint (d : Diagnostic) : Option Text := d.hint.filter (!·.isEmpty)

/-- The fields by name: what a diagnostic has there, if anything. -/
def columns : OrderedMap (Diagnostic → Option Datum) :=
  [("code", fun d => some (.text d.code.label)), ("code_value", fun d => some (.int d.code.value)),
   ("message", fun d => some (.text d.message)),
   ("severity", fun d => some (.text d.severity.label)),
   ("locale", fun d => d.locale.map .text), ("key", fun d => d.key.map .text),
   ("source", fun d => d.source.map .text), ("hint", fun d => d.shownHint.map .text)]

/-- What a diagnostic has in a column, under the name of the column. -/
def fieldIn (d : Diagnostic) (column : Text × (Diagnostic → Option Datum)) :
    Option (Text × Datum) :=
  (column.2 d).map (column.1, ·)

/-- The fields that are present. -/
def fields (d : Diagnostic) : OrderedMap Datum := columns.filterMap d.fieldIn

/-- Two diagnostics that agree in all they say. -/
structure Agrees (d e : Diagnostic) : Prop where
  code : d.code = e.code
  message : d.message = e.message
  severity : d.severity = e.severity
  locale : d.locale = e.locale
  key : d.key = e.key
  source : d.source = e.source
  hint : d.shownHint = e.shownHint

variable {d e : Diagnostic}

section Columns

variable {table : OrderedMap (Diagnostic → Option Datum)}

theorem keys_present_sublist (d : Diagnostic) (table : OrderedMap (Diagnostic → Option Datum)) :
    List.Sublist (OrderedMap.keys (table.filterMap d.fieldIn)) table.keys := by
  induction table with
  | nil => exact List.Sublist.slnil
  | cons column rest ih =>
    cases here : column.2 d with
    | none => simpa [fieldIn, here, OrderedMap.keys] using ih.cons column.1
    | some content => simpa [fieldIn, here, OrderedMap.keys] using ih.cons_cons column.1

theorem get?_present (d : Diagnostic) (distinct : table.keys.Nodup) (name : Text) :
    OrderedMap.get? (table.filterMap d.fieldIn) name = (table.get? name).bind (· d) := by
  induction table with
  | nil => rfl
  | cons column rest ih =>
    obtain ⟨fresh, distinct⟩ : column.1 ∉ OrderedMap.keys rest ∧ (OrderedMap.keys rest).Nodup := by
      simpa [OrderedMap.keys] using distinct
    have ih := ih distinct
    rw [OrderedMap.get?_cons]
    cases here : column.2 d with
    | none =>
      have missing : d.fieldIn column = none := by rw [fieldIn, here, Option.map_none]
      rw [List.filterMap_cons_none missing, ih]
      split_ifs with same
      · have absent : OrderedMap.get? rest name = none := by
          rwa [OrderedMap.mem_keys_iff, Option.not_isSome_iff_eq_none, same] at fresh
        rw [absent, Option.bind_some, here, Option.bind_none]
      · rfl
    | some content =>
      have present : d.fieldIn column = some (column.1, content) := by
        rw [fieldIn, here, Option.map_some]
      rw [List.filterMap_cons_some present, OrderedMap.get?_cons, ih]
      split_ifs
      · exact here.symm
      · rfl

end Columns

/-- A text that may be missing, as a field. -/
def optionalField (name : Text) (t : Option Text) : OrderedMap Datum :=
  t.toList.map fun t => (name, .text t)

theorem fields_eq (d : Diagnostic) :
    d.fields = ([("code", .text d.code.label), ("code_value", .int d.code.value),
        ("message", .text d.message), ("severity", .text d.severity.label)] : OrderedMap Datum)
      ++ optionalField "locale" d.locale ++ optionalField "key" d.key
      ++ optionalField "source" d.source ++ optionalField "hint" d.shownHint := by
  rw [fields, List.filterMap_eq_flatMap_toList]
  simp [columns, fieldIn, optionalField, Option.toList_map, Function.comp_def]

theorem distinct_columns : columns.keys.Nodup := by decide

theorem nodup_keys_fields (d : Diagnostic) : d.fields.keys.Nodup :=
  distinct_columns.sublist (keys_present_sublist d columns)

/-- Under each name stands what the diagnostic has there, whatever its other fields hold. -/
theorem get?_fields (d : Diagnostic) (name : Text) :
    d.fields.get? name = (columns.get? name).bind (· d) :=
  get?_present d distinct_columns name

theorem fields_eq_iff : d.fields = e.fields ↔ d.Agrees e := by
  constructor
  · intro same
    have under (name : Text) : (columns.get? name).bind (· d) = (columns.get? name).bind (· e) := by
      rw [← get?_fields, ← get?_fields, same]
    have text (s t : Option Text) (equal : s.map Datum.text = t.map Datum.text) : s = t :=
      Option.map_injective (fun _ _ => Datum.text.inj) equal
    exact ⟨DiagnosticCode.label_injective (Datum.text.inj (Option.some.inj (under "code"))),
      Datum.text.inj (Option.some.inj (under "message")),
      Severity.label_injective (Datum.text.inj (Option.some.inj (under "severity"))),
      text _ _ (under "locale"), text _ _ (under "key"), text _ _ (under "source"),
      text _ _ (under "hint")⟩
  · rintro ⟨code, message, severity, locale, key, source, hint⟩
    refine List.filterMap_congr fun column member => ?_
    have same : ∀ column ∈ columns, column.2 d = column.2 e := by
      simp [columns, code, message, severity, locale, key, source, hint]
    rw [fieldIn, fieldIn, same column member]

end Diagnostic

namespace DiagnosticFormat
open Json (ReadsMember reads_json reads_ofNat)

variable {f : DiagnosticFormat} {d e : Diagnostic}

section Plain

variable (plain : f.sanitize = false)
include plain

theorem cut_of_plain (t : Text) : f.cut t = t := by
  rw [cut, plain, Bool.false_and, if_neg Bool.false_ne_true]

theorem help_of_plain (d : Diagnostic) : f.help d = d.shownHint := by
  unfold help Diagnostic.shownHint
  cases d.hint with
  | none => rfl
  | some hint =>
    dsimp only
    rw [cut_of_plain plain]
    cases hint <;> rfl

/-- Every member that is written is read as a field that is present. -/
theorem members_read (d : Diagnostic) : List.Forall₂ ReadsMember (f.members d) d.fields := by
  have optional (name : Text) (t : Option Text) :
      List.Forall₂ ReadsMember (t.toList.map fun t => member name (Text.Quoted.json t))
        (Diagnostic.optionalField name t) := by
    cases t with
    | none => exact .nil
    | some t => exact .cons ⟨rfl, reads_json t⟩ .nil
  have short : (Text.ofNat d.code.value).length ≤ Number.maxDigits := by
    cases d.code <;> decide
  rw [d.fields_eq, members, help_of_plain plain]
  simp only [cut_of_plain plain]
  refine List.rel_append (List.rel_append (List.rel_append (List.rel_append ?_
    (optional "locale" d.locale)) (optional "key" d.key)) (optional "source" d.source))
    (optional "hint" d.shownHint)
  exact .cons ⟨rfl, reads_json _⟩ (.cons ⟨rfl, reads_ofNat short⟩
    (.cons ⟨rfl, reads_json _⟩ (.cons ⟨rfl, reads_json _⟩ .nil)))

theorem read_json (d : Diagnostic) : Json.read (f.json d) = .ok (.ofFields d.fields) :=
  Json.read_object (members_read plain d) d.nodup_keys_fields

theorem json_eq_iff : f.json d = f.json e ↔ d.Agrees e := by
  constructor
  · intro same
    have again := congrArg Json.read same
    rw [read_json plain, read_json plain] at again
    exact Diagnostic.fields_eq_iff.mp (Datum.ofFields_injective (Except.ok.inj again))
  · rintro ⟨code, message, severity, locale, key, source, hint⟩
    simp only [json, members, help_of_plain plain, code, message, severity, locale, key, source,
      hint]

end Plain

/-- The JSON object of a diagnostic that is not sanitized is read as the fields that are present,
each of them once and as it is, whatever characters the others hold; and two diagnostics have one
object just if they agree, a hint that is empty and one that is missing being alike. -/
theorem json_identifies (style : f.style = .json) (plain : f.sanitize = false) :
    (∀ d, Json.read (f.format d) = .ok (.ofFields d.fields) ∧ d.fields.keys.Nodup ∧
      ∀ name, d.fields.get? name = (Diagnostic.columns.get? name).bind (· d)) ∧
    ∀ d e, f.format d = f.format e ↔ d.Agrees e := by
  have object (d : Diagnostic) : f.format d = f.json d := by rw [format, style]
  refine ⟨fun d => ⟨?_, d.nodup_keys_fields, d.get?_fields⟩, fun d e => ?_⟩
  · rw [object, read_json plain]
  · rw [object, object, json_eq_iff plain]

/-- A message that looks like the end of a string and two more members. -/
theorem json_identifies_forgery :
    let f : DiagnosticFormat := { style := .json, maxLength := 4 }
    let d : Diagnostic :=
      { code := .templateSyntax, message := "bad\", \"key\": \"\\n\n", hint := some []
        locale := some [] }
    Json.read (f.format d) = .ok (.ofFields [("code", .text "TEMPLATE_SYNTAX"),
      ("code_value", .int 2001), ("message", .text d.message), ("severity", .text "error"),
      ("locale", .text [])]) ∧
    f.format d = f.format { d with hint := none } ∧
    f.format d ≠ f.format { d with locale := none } := by
  intro f d
  obtain ⟨object, same⟩ := json_identifies (f := f) rfl rfl
  refine ⟨(object d).1, (same _ _).mpr ⟨rfl, rfl, rfl, rfl, rfl, rfl, rfl⟩, fun equal => ?_⟩
  have locale : some [] = none := ((same _ _).mp equal).locale
  cases locale

end DiagnosticFormat
end Phrasebook
