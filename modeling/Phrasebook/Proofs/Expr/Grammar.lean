import Phrasebook.Expr.Reading
import Mathlib.Logic.Relation
import Mathlib.Tactic.SplitIfs
import Mathlib.Tactic.Tauto
/-!
What it means for an expression to keep to the template grammar, at every depth, and that reading
accepts no other.
-/
namespace Phrasebook.Expr

/-- The items of a display or of a call, which may be starred. -/
def items : Expr → List Expr
  | .list es | .tuple es | .set es | .call _ es _ => es
  | _ => []

/-- The other expressions directly below. -/
def others : Expr → List Expr
  | .call f _ keywords => f :: keywords.map (·.2)
  | .list _ | .tuple _ | .set _ => []
  | e => e.children

theorem mem_children_iff {e d : Expr} : d ∈ e.children ↔ d ∈ e.others ∨ d ∈ e.items := by
  cases e with
  | call f args keywords =>
    simp only [children, others, items, List.mem_append, List.mem_cons]
    tauto
  | _ => simp [children, others, items]

/-- What stands in an expression, at whatever depth. -/
def Contains : Expr → Expr → Prop := Relation.ReflTransGen fun e d => d ∈ e.children

/-- A construct that the grammar leaves out, with the refusal that names it. -/
inductive Outside : Expr → Refusal → Prop
  | foreign (f : Foreign) : Outside (.foreign f) (.construct f.label)
  | operator {op : BinaryOp} (a b : Expr) (foreign : op.isAllowed = false) :
    Outside (.binary op a b) (.construct op.label)
  | attribute (e : Expr) {attr : Text} (forbidden : isForbiddenAttribute attr = true) :
    Outside (.attribute e attr) (.attribute attr)
  | lambda (params : List Text) (body : Expr) : Outside (.lambda params false body) .lambdaParameters

/-- Nothing in an expression is outside of the grammar. -/
def InGrammar (e : Expr) : Prop := ∀ d, e.Contains d → ∀ r, ¬d.Outside r

theorem InGrammar.of_child {e d : Expr} (inside : e.InGrammar) (member : d ∈ e.children) :
    d.InGrammar := fun _ contains => inside _ (.head member contains)

/-- Nothing of a kind stands in an expression. -/
def Without (kind : Expr → Bool) (e : Expr) : Prop := ∀ d, e.Contains d → kind d = false

section
variable {kind : Expr → Bool} {e d : Expr}

theorem Without.of_contains (without : e.Without kind) (contains : e.Contains d) :
    d.Without kind :=
  fun _ inside => without _ (contains.trans inside)

theorem Without.of_child (without : e.Without kind) (member : d ∈ e.children) : d.Without kind :=
  without.of_contains (.single member)

theorem without_iff : e.Without kind ↔ kind e = false ∧ ∀ d ∈ e.children, d.Without kind := by
  constructor
  · exact fun without => ⟨without e .refl, fun d child => without.of_child child⟩
  · rintro ⟨own, below⟩ d contains
    cases contains.cases_head with
    | inl same => exact same ▸ own
    | inr later =>
      obtain ⟨c, child, inside⟩ := later
      exact below c child d inside

end

theorem depth_le_depthList {d : Expr} {es : List Expr} (member : d ∈ es) :
    d.depth ≤ depthList es := by
  induction es with
  | nil => cases member
  | cons e rest ih =>
    rw [depthList]
    rcases List.mem_cons.mp member with rfl | later
    · exact Nat.le_max_left ..
    · exact Nat.le_trans (ih later) (Nat.le_max_right ..)

theorem depthList_append (es fs : List Expr) :
    depthList (es ++ fs) = max (depthList es) (depthList fs) := by
  induction es with
  | nil => simp [depthList]
  | cons e rest ih => simp [depthList, ih, Nat.max_assoc]

theorem depthOption_eq (e : Option Expr) : depthOption e = depthList e.toList := by
  cases e <;> simp [depthOption, depthList]

theorem depthKeywords_eq (keywords : List (Option Text × Expr)) :
    depthKeywords keywords = depthList (keywords.map (·.2)) := by
  induction keywords with
  | nil => rfl
  | cons k rest ih => simp [depthKeywords, depthList, ih]

theorem depthCompare_eq (rest : List (CompareOp × Expr)) :
    depthCompare rest = depthList (rest.map (·.2)) := by
  induction rest with
  | nil => rfl
  | cons c rest ih => simp [depthCompare, depthList, ih]

theorem depthItems_eq (items : List (Option Expr × Expr)) :
    depthItems items = depthList (items.filterMap (·.1) ++ items.map (·.2)) := by
  induction items with
  | nil => rfl
  | cons item rest ih =>
    obtain ⟨_ | k, e⟩ := item
    · simp [depthItems, depthOption, depthList, depthList_append, ih]
      omega
    · simp [depthItems, depthOption, depthList, depthList_append, ih]
      omega

/-- An expression is one deeper than what stands directly in it. -/
theorem depth_eq (e : Expr) : e.depth = depthList e.children + 1 := by
  cases e <;>
    simp [depth, children, depthList, depthList_append, depthOption_eq, depthKeywords_eq,
      depthCompare_eq, depthItems_eq]

namespace Node

/-- How far it is from a point of a tree to the end of what is below it. -/
def height : Node → Nat
  | .operator _ => 0
  | .expr e => 2 * e.depth
  | .keyword e => 2 * e.depth + 1

theorem mem_children_expr {e : Expr} {b : Node} : b ∈ (Node.expr e).children →
    (∃ d ∈ e.children, b = .expr d ∨ b = .keyword d) ∨
      ∃ op l r, e = .binary op l r ∧ b = .operator op := by
  cases e with
  | binary op l r =>
    simp only [children, List.mem_cons, List.not_mem_nil, or_false]
    rintro (rfl | rfl | rfl)
    · exact .inl ⟨l, .head _, .inl rfl⟩
    · exact .inr ⟨op, l, r, rfl, rfl⟩
    · exact .inl ⟨r, .tail _ (.head _), .inl rfl⟩
  | call f args keywords =>
    simp only [children, List.cons_append, List.mem_cons, List.mem_append, List.mem_map]
    rintro (rfl | ⟨e, member, rfl⟩ | ⟨k, member, rfl⟩)
    · exact .inl ⟨f, .head _, .inl rfl⟩
    · exact .inl ⟨e, .tail _ (List.mem_append_left _ member), .inl rfl⟩
    · exact .inl ⟨k.2, .tail _ (List.mem_append_right _ (List.mem_map_of_mem member)), .inr rfl⟩
  | _ =>
    intro member
    obtain ⟨d, inside, rfl⟩ := List.mem_map.mp member
    exact .inl ⟨d, inside, .inl rfl⟩

theorem children_of_child {e d : Expr} (member : d ∈ e.children) :
    .expr d ∈ (Node.expr e).children ∨ .keyword d ∈ (Node.expr e).children := by
  cases e with
  | binary op l r =>
    simp only [Expr.children, List.mem_cons, List.not_mem_nil, or_false] at member
    rcases member with rfl | rfl <;> simp [children]
  | call f args keywords =>
    simp only [Expr.children, List.cons_append, List.mem_cons, List.mem_append,
      List.mem_map] at member
    rcases member with rfl | inside | ⟨k, inside, rfl⟩
    · exact .inl (.head _)
    · exact .inl (.tail _ (List.mem_append_left _ (List.mem_map_of_mem inside)))
    · refine .inr (.tail _ (List.mem_append_right _ ?_))
      exact List.mem_map.mpr ⟨k, inside, rfl⟩
  | _ => exact .inl (List.mem_map_of_mem member)

theorem height_lt {a b : Node} (member : b ∈ a.children) : b.height < a.height := by
  cases a with
  | operator op => cases member
  | keyword e =>
    obtain rfl := List.mem_singleton.mp member
    exact Nat.lt_succ_self _
  | expr e =>
    have depth := e.depth_eq
    rcases mem_children_expr member with ⟨d, inside, rfl | rfl⟩ | ⟨op, l, r, rfl, rfl⟩
    · have bound := depth_le_depthList inside
      simp only [height]
      omega
    · have bound := depth_le_depthList inside
      simp only [height]
      omega
    · simp only [height]
      omega

def Reaches : Node → Node → Prop := Relation.ReflTransGen fun a b => b ∈ a.children

theorem reaches_of_contains {e d : Expr} (contains : e.Contains d) :
    (Node.expr e).Reaches (.expr d) := by
  induction contains with
  | refl => exact .refl
  | tail _ member ih =>
    rcases children_of_child member with direct | keyword
    · exact ih.tail direct
    · exact (ih.tail keyword).tail (List.mem_singleton_self _)

/-- What is reached from an expression stands in it, or is an operator there. -/
theorem contains_of_reaches {e : Expr} {b : Node} (reaches : (Node.expr e).Reaches b) :
    (∃ d, e.Contains d ∧ (b = .expr d ∨ b = .keyword d)) ∨
      ∃ op l r, e.Contains (.binary op l r) ∧ b = .operator op := by
  induction reaches with
  | refl => exact .inl ⟨e, .refl, .inl rfl⟩
  | tail _ member ih =>
    rcases ih with ⟨d, contains, rfl | rfl⟩ | ⟨op, l, r, contains, rfl⟩
    · rcases mem_children_expr member with ⟨d', inside, below⟩ | ⟨op, l, r, rfl, rfl⟩
      · exact .inl ⟨d', contains.tail inside, below⟩
      · exact .inr ⟨op, l, r, contains, rfl⟩
    · obtain rfl := List.mem_singleton.mp member
      exact .inl ⟨d, contains, .inl rfl⟩
    · cases member

end Node

open Node (Reaches)

theorem exists_of_firstRefusal {n : Nat} {level : List Node} {r : Refusal}
    (refused : firstRefusal n level = some r) :
    ∃ a ∈ level, ∃ b, a.Reaches b ∧ b.refusal? = some r := by
  induction n generalizing level with
  | zero => cases refused
  | succ n ih =>
    rw [firstRefusal] at refused
    split_ifs at refused
    split at refused
    · rename_i first found
      obtain rfl := Option.some.inj refused
      obtain ⟨a, member, here⟩ := List.exists_of_findSome?_eq_some found
      exact ⟨a, member, a, .refl, here⟩
    · obtain ⟨c, inside, b, reaches, here⟩ := ih refused
      obtain ⟨a, member, below⟩ := List.mem_flatMap.mp inside
      exact ⟨a, member, b, .head below reaches, here⟩

/-- The level-wise search, if it goes deep enough, leaves nothing out. -/
theorem refusal?_of_firstRefusal {n : Nat} {level : List Node}
    (passed : firstRefusal n level = none) (bound : ∀ a ∈ level, a.height < n) {a b : Node}
    (member : a ∈ level) (reaches : a.Reaches b) : b.refusal? = none := by
  induction n generalizing level a with
  | zero => exact absurd (bound a member) (Nat.not_lt_zero _)
  | succ n ih =>
    rw [firstRefusal, if_neg (by simpa using List.ne_nil_of_mem member)] at passed
    split at passed
    · cases passed
    · rename_i none
      cases reaches.cases_head with
      | inl same => exact same ▸ List.findSome?_eq_none_iff.mp none a member
      | inr below =>
        obtain ⟨c, inside, reaches⟩ := below
        refine ih passed (fun d deeper => ?_) (List.mem_flatMap.mpr ⟨a, member, inside⟩) reaches
        obtain ⟨a', member', inside'⟩ := List.mem_flatMap.mp deeper
        have lower := Node.height_lt inside'
        have upper := bound a' member'
        omega

/-- What is refused stands in the expression. -/
theorem outside_of_refusal? {e : Expr} {r : Refusal} (refused : e.refusal? = some r) :
    ∃ d, e.Contains d ∧ d.Outside r := by
  obtain ⟨a, member, b, reaches, here⟩ := exists_of_firstRefusal refused
  obtain rfl := List.mem_singleton.mp member
  rcases Node.contains_of_reaches reaches with ⟨d, contains, rfl | rfl⟩ | ⟨op, l, r, contains, rfl⟩
  · refine ⟨d, contains, ?_⟩
    cases d with
    | foreign f =>
      obtain rfl := Option.some.inj here
      exact .foreign f
    | «attribute» e attr =>
      rw [Node.refusal?] at here
      split_ifs at here with forbidden
      obtain rfl := Option.some.inj here
      exact .attribute e forbidden
    | lambda params simple body =>
      rw [Node.refusal?] at here
      split_ifs at here with simple
      obtain rfl := Option.some.inj here
      obtain rfl := Bool.not_eq_true _ |>.mp simple
      exact .lambda params body
    | _ => cases here
  · cases here
  · rw [Node.refusal?] at here
    split_ifs at here with allowed
    obtain rfl := Option.some.inj here
    exact ⟨_, contains, .operator l r ((Bool.not_eq_true _).mp allowed)⟩

theorem refusal?_eq_none_iff {e : Expr} : e.refusal? = none ↔ e.InGrammar := by
  constructor
  · intro passed d contains r outside
    have bound : ∀ a ∈ [Node.expr e], a.height < 2 * e.depth + 2 := by
      simp [Node.height]
    have reaches := Node.reaches_of_contains contains
    have own := refusal?_of_firstRefusal passed bound (List.mem_singleton_self _) reaches
    cases outside with
    | foreign f => cases own
    | @operator op l r foreign =>
      have below : Node.operator op ∈ (Node.expr (.binary op l r)).children := .tail _ (.head _)
      have operator := refusal?_of_firstRefusal passed bound (List.mem_singleton_self _)
        (reaches.tail below)
      simp [Node.refusal?, foreign] at operator
    | «attribute» e forbidden => simp [Node.refusal?, forbidden] at own
    | lambda params body => simp [Node.refusal?] at own
  · intro inside
    cases refused : e.refusal? with
    | none => rfl
    | some r =>
      obtain ⟨d, contains, outside⟩ := outside_of_refusal? refused
      exact absurd outside (inside d contains r)

end Phrasebook.Expr
