import Phrasebook.Proofs.Expr.Children
/-!
Expressions that differ in the names of parameters alone. The parameter of a lambda may be renamed to
a name that does not occur: what comes of it is such an expression.
-/
namespace Phrasebook

namespace Expr

/-- Two names stand for the same, given which parameters stand for each other, the innermost first. -/
def Paired : List (Text × Text) → Text → Text → Prop
  | [], a, b => a = b
  | (p, q) :: rest, a, b => a = p ∧ b = q ∨ a ≠ p ∧ b ≠ q ∧ Paired rest a b

/-- The parameters of two lambdas, on top of those around them. -/
def bound (params params' : List Text) (names : List (Text × Text)) : List (Text × Text) :=
  (params.zip params').reverse ++ names

/-- The second expression is the first, but for the names of parameters. -/
inductive Alpha : List (Text × Text) → Expr → Expr → Prop
  | name {names : List (Text × Text)} {a b : Text} (paired : Paired names a b) :
    Alpha names (.name a) (.name b)
  | lambda {names : List (Text × Text)} {params params' : List Text} {simple : Bool}
    {body body' : Expr} (length : params'.length = params.length)
    (alpha : Alpha (bound params params' names) body body') :
    Alpha names (.lambda params simple body) (.lambda params' simple body')
  | other {names : List (Text × Text)} {e : Expr} {ds : List Expr} (other : e.isScoped = false)
    (length : e.children.length = ds.length)
    (alpha : ∀ c d, (c, d) ∈ e.children.zip ds → Alpha names c d) : Alpha names e (e.withChildren ds)

variable {names : List (Text × Text)} {e e' : Expr} {ds : List Expr}

theorem Alpha.of_children (other : e.isScoped = false)
    (alpha : List.Forall₂ (Alpha names) e.children ds) : Alpha names e (e.withChildren ds) := by
  obtain ⟨length, alpha⟩ := List.forall₂_iff_zip.mp alpha
  exact .other other length fun c d => alpha

theorem item_of_ne_starred (other : ∀ d, e ≠ .starred d) : Operand.item e = ⟨.plain, e⟩ := by
  cases e with
  | starred d => exact absurd rfl (other d)
  | _ => rfl

theorem withChildren_ne_starred (other : ∀ d, e ≠ .starred d) (d : Expr) :
    e.withChildren ds ≠ .starred d := by
  unfold withChildren
  split
  case h_3 => exact absurd rfl (other _)
  case h_8 => split <;> simp
  case h_18 => exact other d
  all_goals simp

/-- The items of expressions that are alike are starred alike. -/
theorem Alpha.item (alpha : Alpha names e e') :
    SameOperand (Alpha names) (Operand.item e) (Operand.item e') := by
  have whole := alpha
  cases alpha with
  | name => exact ⟨rfl, whole⟩
  | lambda => exact ⟨rfl, whole⟩
  | @other _ _ ds _ length alpha =>
    by_cases starred : ∃ d, e = .starred d
    · obtain ⟨c, rfl⟩ := starred
      obtain ⟨d, rfl⟩ := List.length_eq_one_iff.mp length.symm
      exact ⟨rfl, alpha c d (.head _)⟩
    · have other (d : Expr) : e ≠ .starred d := fun same => starred ⟨d, same⟩
      rw [item_of_ne_starred other, item_of_ne_starred (withChildren_ne_starred other)]
      exact ⟨rfl, whole⟩

/-- The free occurrences of a name are renamed. -/
def rename (x y : Text) (e : Expr) : Expr :=
  match e with
  | .name n => .name (if n = x then y else n)
  | .lambda params simple body =>
    if x ∈ params then .lambda params simple body else .lambda params simple (body.rename x y)
  | e => e.withChildren (e.children.attach.map fun d => d.val.rename x y)
termination_by e.depth
decreasing_by
  · simp [depth]
  · have bound := depth_le_depthList d.property
    have depth := depth_eq e
    omega

/-- In one lambda of an expression, a parameter is renamed, and with it what it binds. -/
inductive Renamed (x y : Text) : Expr → Expr → Prop
  | here {params : List Text} {simple : Bool} {body : Expr} (param : x ∈ params) :
    Renamed x y (.lambda params simple body)
      (.lambda (params.map fun n => if n = x then y else n) simple (body.rename x y))
  | inside {e d d' : Expr} {front back : List Expr} (children : e.children = front ++ d :: back)
    (renamed : Renamed x y d d') : Renamed x y e (e.withChildren (front ++ d' :: back))

/-- Whether a name stands at the root of an expression, as a parameter or otherwise. -/
def mentions (n : Text) : Expr → Bool
  | .name m => m == n
  | .lambda params _ _ => params.contains n
  | _ => false

theorem rename_other (x y : Text) (other : e.isScoped = false) :
    e.rename x y = e.withChildren (e.children.map (rename x y)) := by
  rw [rename]
  · simp
  · rintro n rfl
    cases other
  · rintro params simple body rfl
    cases other

theorem paired_append {front : List (Text × Text)} {a b : Text}
    (agree : ∀ p ∈ front, p.1 = a ↔ p.2 = b)
    (later : (∀ p ∈ front, p.1 ≠ a) → Paired names a b) : Paired (front ++ names) a b := by
  induction front with
  | nil => exact later nofun
  | cons p rest ih =>
    obtain ⟨own, others⟩ := List.forall_mem_cons.mp agree
    by_cases here : p.1 = a
    · exact .inl ⟨here.symm, (own.mp here).symm⟩
    · refine .inr ⟨Ne.symm here, fun same => here (own.mpr same.symm), ih others fun absent => ?_⟩
      exact later (List.forall_mem_cons.mpr ⟨here, absent⟩)

theorem paired_self (same : ∀ p ∈ names, p.1 = p.2) (n : Text) : Paired names n n := by
  have agree : ∀ p ∈ names, p.1 = n ↔ p.2 = n := fun p member => by rw [same p member]
  have last : Paired [] n n := rfl
  have paired := paired_append agree fun _ => last
  rwa [List.append_nil] at paired

/-- Under a lambda whose parameters are renamed, a name stands for another if they do not mix with the
parameters, and stand for each other outside unless they are parameters. -/
theorem paired_bound {params : List Text} {f : Text → Text} {a b : Text}
    (agree : ∀ p ∈ params, p = a ↔ f p = b) (later : a ∉ params → Paired names a b) :
    Paired (bound params (params.map f) names) a b := by
  rw [bound, ← List.map_prod_left_eq_zip, ← List.map_reverse]
  refine paired_append (fun p member => ?_) fun absent => later fun inside => ?_
  · obtain ⟨n, inside, rfl⟩ := List.mem_map.mp member
    exact agree n (List.mem_reverse.mp inside)
  · exact absent (a, f a) (List.mem_map_of_mem (List.mem_reverse.mpr inside)) rfl

theorem paired_bound_self {params : List Text} {a b : Text}
    (agree : ∀ p ∈ params, p = a ↔ p = b) (later : a ∉ params → Paired names a b) :
    Paired (bound params params names) a b := by
  have paired := paired_bound (f := id) agree later
  rwa [List.map_id] at paired

/-- An expression is like itself if each of its names stands for itself. -/
theorem alpha_self (own : ∀ n, e.Contains (.name n) → Paired names n n) : Alpha names e e := by
  induction e using childInduction generalizing names with
  | step e ih =>
    cases kind : e.isScoped with
    | false =>
      have alpha : List.Forall₂ (Alpha names) e.children e.children :=
        List.forall₂_same.mpr fun d child => ih d child fun n inside => own n (.head child inside)
      have whole := Alpha.of_children kind alpha
      rwa [withChildren_self] at whole
    | true =>
      cases e with
      | name n => exact .name (own n .refl)
      | lambda params simple body =>
        refine .lambda rfl (ih body (.head _) fun n inside => ?_)
        exact paired_bound_self (fun _ _ => Iff.rfl) fun _ => own n (.head (.head _) inside)
      | _ => cases kind

theorem alpha_rename {x y : Text} (fresh : e.Without (mentions y)) (paired : Paired names x y)
    (others : ∀ n, n ≠ x → n ≠ y → Paired names n n) : Alpha names e (e.rename x y) := by
  induction e using childInduction generalizing names with
  | step e ih =>
    cases kind : e.isScoped with
    | false =>
      rw [rename_other x y kind]
      refine .of_children kind ?_
      rw [List.forall₂_map_right_iff, List.forall₂_same]
      exact fun d child => ih d child (fresh.of_child child) paired others
    | true =>
      cases e with
      | name n =>
        have other : n ≠ y := by simpa [mentions] using fresh _ .refl
        rw [rename]
        split_ifs with same
        · exact .name (same ▸ paired)
        · exact .name (others n same other)
      | lambda params simple body =>
        have inside := fresh.of_child (d := body) (.head _)
        have distinct (p : Text) (param : p ∈ params) : p ≠ y := by
          rintro rfl
          simpa [mentions, param] using fresh _ .refl
        rw [rename]
        split_ifs with param
        · refine .lambda rfl (alpha_self fun n contains => ?_)
          refine paired_bound_self (fun _ _ => Iff.rfl) fun absent => others n ?_ ?_
          · exact fun same => absent (same ▸ param)
          · simpa [mentions] using inside _ contains
        · refine .lambda rfl (ih body (.head _) inside ?_ fun n left right => ?_)
          · refine paired_bound_self (fun p member => ?_) fun _ => paired
            have left : p ≠ x := fun same => param (same ▸ member)
            exact iff_of_false left (distinct p member)
          · exact paired_bound_self (fun _ _ => Iff.rfl) fun _ => others n left right
      | _ => cases kind

/-- A parameter that is renamed to a name that does not occur changes nothing but names. -/
theorem alpha_of_renamed {x y : Text} (renamed : Renamed x y e e') (fresh : e.Without (mentions y))
    (same : ∀ p ∈ names, p.1 = p.2) : Alpha names e e' := by
  induction renamed generalizing names with
  | @here params simple body param =>
    have inside := fresh.of_child (d := body) (.head _)
    have distinct (p : Text) (param : p ∈ params) : p ≠ y := by
      rintro rfl
      simpa [mentions, param] using fresh _ .refl
    refine .lambda (List.length_map _) (alpha_rename inside ?_ fun n left right => ?_)
    · refine paired_bound (fun p member => ?_) fun absent => absurd param absent
      by_cases same : p = x
      · simp [same]
      · simp [same, distinct p member]
    · refine paired_bound (fun p member => ?_) fun _ => paired_self same n
      by_cases same : p = x
      · simp [same, Ne.symm left, Ne.symm right]
      · simp [same]
  | @inside e d d' front back children _ ih =>
    have child : d ∈ e.children := by simp [children]
    have below := fresh.of_child child
    cases kind : e.isScoped with
    | false =>
      have beside (c : Expr) : Alpha names c c := alpha_self fun n _ => paired_self same n
      refine .of_children kind ?_
      rw [children]
      have others (es : List Expr) : List.Forall₂ (Alpha names) es es :=
        List.forall₂_same.mpr fun c _ => beside c
      exact List.rel_append (others front) (.cons (ih below same) (others back))
    | true =>
      cases e with
      | name n => simp [Expr.children] at child
      | lambda params simple body =>
        obtain ⟨rfl, rfl, rfl⟩ : front = [] ∧ d = body ∧ back = [] := by
          rcases front with _ | ⟨c, _ | ⟨c', front⟩⟩ <;> cases children
          exact ⟨rfl, rfl, rfl⟩
        have agree (p : Text × Text) (member : p ∈ bound params params names) : p.1 = p.2 := by
          rcases List.mem_append.mp member with own | outer
          · rw [List.mem_reverse, List.zip_eq_zipWith, List.zipWith_self] at own
            obtain ⟨n, -, rfl⟩ := List.mem_map.mp own
            rfl
          · exact same p outer
        exact .lambda rfl (ih below agree)
      | _ => cases kind

end Expr
end Phrasebook
