import Sift.Proofs.Expression.Information
import Sift.Proofs.Expression.Levels

/-!
# What the checker accepts

The error of a check depends on the order in which operands are looked at, but what is accepted, and
with which kind, does not.  Checks are therefore compared by their successes alone: one check
*follows* another if it finds a kind wherever the other one does, and the two kinds are related
(`Checked.Follows`).  Every rule of a node keeps checks that follow each other so, provided that a
kind is only ever related to itself or to a kind that is not known (`NodeKind.checked?_follows`).

Two laws come from this one.  With equal kinds it says that checking by runs accepts what checking
both sides of every connective accepts (`Term.check_iff_plainCheck`), although the first error may
be another one.  With kinds that may have become unknown it says that knowing less about the
properties never rejects more (`Term.check_of_informed`).
-/

set_option autoImplicit false

namespace Sift

/-! ## Checks that follow each other -/

/-- Where the first check finds a kind, the second one finds a related kind. -/
def Checked.Follows (related : Option Kind → Option Kind → Prop) (first second : Checked) : Prop :=
  ∀ kind, first = .ok kind → ∃ kind', second = .ok kind' ∧ related kind kind'

/-- A relation of kinds that the rules of nodes keep: the second kind is the first one or is not
known, and the results of arithmetic are related when the operands are. -/
structure Forgetful (related : Option Kind → Option Kind → Prop) : Prop where
  refl : ∀ kind, related kind kind
  informs : ∀ {kind kind'}, related kind kind' → Informs none kind' kind
  result : ∀ {left left' right right'}, related left left' → related right right' →
    related (resultKind left right) (resultKind left' right')

/-- Every kind stays the same. -/
theorem forgetful_eq : Forgetful Eq where
  refl _ := rfl
  informs same := Or.inr same
  result sameLeft sameRight := sameLeft ▸ sameRight ▸ rfl

theorem resultKind_informs_left {less more : Option Kind} (informs : Informs none less more)
    (right : Option Kind) : Informs none (resultKind less right) (resultKind more right) := by
  rcases informs with rfl | rfl
  · unfold Informs
    rcases more with _ | _ | _ | _ | _ | _ <;> rcases right with _ | _ | _ | _ | _ | _ <;> decide
  · exact .refl none _

theorem resultKind_informs_right (left : Option Kind) {less more : Option Kind}
    (informs : Informs none less more) :
    Informs none (resultKind left less) (resultKind left more) := by
  rcases informs with rfl | rfl
  · unfold Informs
    rcases left with _ | _ | _ | _ | _ | _ <;> rcases more with _ | _ | _ | _ | _ | _ <;> decide
  · exact .refl none _

/-- A kind may be forgotten. -/
theorem forgetful_informs : Forgetful fun more less => Informs none less more where
  refl _ := .refl none _
  informs informs := informs
  result informsLeft informsRight :=
    (resultKind_informs_left informsLeft _).trans (resultKind_informs_right _ informsRight)

variable {related : Option Kind → Option Kind → Prop}

/-- What is accepted is accepted when less is known of it. -/
theorem accepts_of_informs {accepted : Kind → Prop} {less more : Option Kind}
    (informs : Informs none less more) (accepts : ∀ known ∈ more, accepted known) :
    ∀ known ∈ less, accepted known := by
  rcases informs with rfl | rfl
  · exact nofun
  · exact accepts

/-- Operands that follow others have related kinds. -/
theorem kindsOf_follows {operands operands' : List Checked}
    (follows : List.Forall₂ (Checked.Follows related) operands operands')
    {kinds : List (Option Kind)} (found : kindsOf operands = .ok kinds) :
    ∃ kinds', kindsOf operands' = .ok kinds' ∧ List.Forall₂ related kinds kinds' := by
  rw [kindsOf_eq_ok_iff] at found
  subst found
  simp only [kindsOf_eq_ok_iff]
  induction kinds generalizing operands' with
  | nil =>
    cases follows
    exact ⟨[], rfl, .nil⟩
  | cons kind rest ih =>
    obtain ⟨_, _, first, others, rfl⟩ := List.forall₂_cons_left_iff.1 follows
    obtain ⟨kind', rfl, isRelated⟩ := first kind rfl
    obtain ⟨rest', rfl, relatedRest⟩ := ih others
    exact ⟨kind' :: rest', rfl, .cons isRelated relatedRest⟩

/-! ## Rules of the nodes -/

section Rules

variable (forgetful : Forgetful related)
include forgetful

theorem Checked.Follows.meets {demand : Demand} {checked checked' : Checked}
    (follows : checked.Follows related checked') (meets : checked.Meets demand) :
    checked'.Meets demand := by
  obtain ⟨kind, found, accepted⟩ := meets
  obtain ⟨kind', found', isRelated⟩ := follows kind found
  exact ⟨kind', found', accepts_of_informs (forgetful.informs isRelated) accepted⟩

theorem checkBooleans_follows {context : String} {operands operands' : List Checked}
    (follows : List.Forall₂ (Checked.Follows related) operands operands') :
    (checkBooleans context operands).Follows related (checkBooleans context operands') := by
  intro kind checked
  obtain ⟨rfl, meets⟩ := checkBooleans_eq_ok_iff.1 checked
  refine ⟨some .boolean, checkBooleans_eq_ok_iff.2 ⟨rfl, ?_⟩, forgetful.refl _⟩
  clear checked
  induction follows with
  | nil => exact nofun
  | cons first _ ih =>
    obtain ⟨meetsFirst, meetsRest⟩ := List.forall_mem_cons.1 meets
    exact List.forall_mem_cons.2 ⟨first.meets forgetful meetsFirst, ih meetsRest⟩

theorem checkTest_follows {operands operands' : List Checked}
    (follows : List.Forall₂ (Checked.Follows related) operands operands') :
    (checkTest operands).Follows related (checkTest operands') := by
  intro kind checked
  obtain ⟨kinds, found, rfl⟩ := map_eq_ok_iff.1 checked
  obtain ⟨kinds', found', _⟩ := kindsOf_follows follows found
  exact ⟨some .boolean, map_eq_ok_iff.2 ⟨kinds', found', rfl⟩, forgetful.refl _⟩

/-- Operands of `BETWEEN` that are alike stay so when some of them are no longer known. -/
theorem Alike.of_forall₂ {kinds kinds' : List (Option Kind)}
    (isRelated : List.Forall₂ related kinds kinds') (alike : Alike (kinds.filterMap id)) :
    Alike (kinds'.filterMap id) := by
  -- only known kinds are judged, so forgetting some of them leaves fewer to judge
  have fewer : kinds'.filterMap id ⊆ kinds.filterMap id := by
    clear alike
    induction isRelated with
    | nil => exact fun _ member => member
    | @cons kind kind' _ _ first _ ih =>
      rcases forgetful.informs first with rfl | rfl
      · intro known member
        rw [List.filterMap_cons_none rfl] at member
        cases kind with
        | none => exact ih member
        | some kind => exact List.mem_cons_of_mem kind (ih member)
      · cases kind with
        | none => exact ih
        | some kind => exact List.cons_subset_cons kind ih
  exact alike.imp (fun numeric kind member => numeric kind (fewer member))
    fun strings kind member => strings kind (fewer member)

theorem checkBetween_follows {operands operands' : List Checked}
    (follows : List.Forall₂ (Checked.Follows related) operands operands') :
    (checkBetween operands).Follows related (checkBetween operands') := by
  intro kind checked
  obtain ⟨rfl, kinds, found, alike⟩ := checkBetween_eq_ok_iff.1 checked
  obtain ⟨kinds', found', isRelated⟩ := kindsOf_follows follows found
  exact ⟨some .boolean, checkBetween_eq_ok_iff.2
    ⟨rfl, kinds', found', alike.of_forall₂ forgetful isRelated⟩, forgetful.refl _⟩

theorem checkLike_follows {subject subject' pattern pattern' : Checked}
    (follows : subject.Follows related subject')
    (followsPattern : pattern.Follows related pattern') :
    (checkLike subject pattern).Follows related (checkLike subject' pattern') := by
  intro kind checked
  obtain ⟨rfl, meets, meetsPattern⟩ := checkLike_eq_ok_iff.1 checked
  exact ⟨some .boolean, checkLike_eq_ok_iff.2
    ⟨rfl, follows.meets forgetful meets, followsPattern.meets forgetful meetsPattern⟩,
    forgetful.refl _⟩

theorem checkArithmetic_follows {operator : Arithmetic} {left left' right right' : Checked}
    (followsLeft : left.Follows related left') (followsRight : right.Follows related right') :
    (checkArithmetic operator left right).Follows related
      (checkArithmetic operator left' right') := by
  intro kind checked
  obtain ⟨leftKind, rightKind, rfl, rfl, numericLeft, numericRight, rfl⟩ :=
    checkArithmetic_eq_ok_iff.1 checked
  obtain ⟨leftKind', rfl, relatedLeft⟩ := followsLeft leftKind rfl
  obtain ⟨rightKind', rfl, relatedRight⟩ := followsRight rightKind rfl
  refine ⟨_, checkArithmetic_eq_ok_iff.2 ⟨leftKind', rightKind', rfl, rfl, ?_, ?_, rfl⟩,
    forgetful.result relatedLeft relatedRight⟩
  · exact accepts_of_informs (forgetful.informs relatedLeft) numericLeft
  · exact accepts_of_informs (forgetful.informs relatedRight) numericRight

theorem checkNegation_follows {operand operand' : Checked}
    (follows : operand.Follows related operand') :
    (checkNegation operand).Follows related (checkNegation operand') := by
  intro kind checked
  obtain ⟨rfl, numeric⟩ := checkNegation_eq_ok_iff.1 checked
  obtain ⟨kind', rfl, isRelated⟩ := follows kind rfl
  exact ⟨kind', checkNegation_eq_ok_iff.2
    ⟨rfl, accepts_of_informs (forgetful.informs isRelated) numeric⟩, isRelated⟩

/-- **What a node is checked to be follows what its operands are checked to be.** -/
theorem NodeKind.checked?_follows {schema schema' : Schema} {kind : NodeKind}
    (properties : ∀ name, kind = .property name → related (schema name) (schema' name))
    {operands operands' : List Checked}
    (follows : List.Forall₂ (Checked.Follows related) operands operands') {checked : Checked}
    (found : kind.checked? schema operands = some checked) :
    ∃ checked', kind.checked? schema' operands' = some checked' ∧
      checked.Follows related checked' := by
  revert found
  fun_cases NodeKind.checked? schema kind operands <;> intro found <;> cases found
  case case1 name =>
    obtain ⟨⟩ := follows
    refine ⟨_, rfl, ?_⟩
    rintro _ ⟨⟩
    exact ⟨_, rfl, properties name rfl⟩
  case case2 content =>
    obtain ⟨⟩ := follows
    refine ⟨_, rfl, ?_⟩
    rintro kind ⟨⟩
    exact ⟨_, rfl, forgetful.refl _⟩
  case case3 operator => exact ⟨_, rfl, checkBooleans_follows forgetful follows⟩
  case case4 operand =>
    obtain _ | ⟨first, ⟨⟩⟩ := follows
    exact ⟨_, rfl, checkBooleans_follows forgetful (.cons first .nil)⟩
  case case5 operand =>
    obtain _ | ⟨first, ⟨⟩⟩ := follows
    exact ⟨_, rfl, checkTest_follows forgetful (.cons first .nil)⟩
  case case6 value low high =>
    obtain _ | ⟨first, _ | ⟨second, _ | ⟨third, ⟨⟩⟩⟩⟩ := follows
    exact ⟨_, rfl, checkBetween_follows forgetful (.cons first (.cons second (.cons third .nil)))⟩
  case case7 value items =>
    obtain _ | ⟨first, rest⟩ := follows
    exact ⟨_, rfl, checkTest_follows forgetful (.cons first rest)⟩
  case case8 subject pattern =>
    obtain _ | ⟨first, _ | ⟨second, ⟨⟩⟩⟩ := follows
    exact ⟨_, rfl, checkLike_follows forgetful first second⟩
  case case9 left right operator =>
    obtain _ | ⟨first, _ | ⟨second, ⟨⟩⟩⟩ := follows
    exact ⟨_, rfl, checkTest_follows forgetful (.cons first (.cons second .nil))⟩
  case case10 => exact ⟨_, rfl, checkBooleans_follows forgetful follows⟩
  case case11 operator left right =>
    obtain _ | ⟨first, _ | ⟨second, ⟨⟩⟩⟩ := follows
    exact ⟨_, rfl, checkArithmetic_follows forgetful first second⟩
  case case12 operand =>
    obtain _ | ⟨first, ⟨⟩⟩ := follows
    exact ⟨_, rfl, checkNegation_follows forgetful first⟩

/-- Two checks of terms that go by the rules of nodes follow each other on a term if they do so on
its operands. -/
theorem Term.follows_of_operands {schema schema' : Schema} {check check' : Term → Checked}
    {term : Term}
    (gives : term.kind.checked? schema (term.operands.map check) = some (check term))
    (gives' : term.kind.checked? schema' (term.operands.map check') = some (check' term))
    (properties : ∀ name, term.kind = .property name → related (schema name) (schema' name))
    (operands : ∀ operand ∈ term.operands, (check operand).Follows related (check' operand)) :
    (check term).Follows related (check' term) := by
  have follows : List.Forall₂ (Checked.Follows related)
      (term.operands.map check) (term.operands.map check') := by
    rw [List.forall₂_map_left_iff, List.forall₂_map_right_iff]
    exact List.forall₂_same.2 operands
  obtain ⟨checked, found, followed⟩ := NodeKind.checked?_follows forgetful properties follows gives
  cases gives'.symm.trans found
  exact followed

end Rules

/-! ## Checking without runs -/

/-- The kind of a term, by recursion into both sides of every connective: each side is to be a truth
value, as far as its kind is known. -/
def Term.plainCheck (schema : Schema) : Term → Checked
  | .property name => .ok (schema name)
  | .literal content => .ok content.value.kind
  | .connect operator left right =>
    checkBooleans operator.name [left.plainCheck schema, right.plainCheck schema]
  | .not operand => checkBooleans NodeKind.not.name [operand.plainCheck schema]
  | .isNull operand => checkTest [operand.plainCheck schema]
  | .between value low high =>
    checkBetween [value.plainCheck schema, low.plainCheck schema, high.plainCheck schema]
  | .inList value items =>
    checkTest (value.plainCheck schema :: items.map fun item => item.plainCheck schema)
  | .like subject pattern => checkLike (subject.plainCheck schema) (pattern.plainCheck schema)
  | .compare _ left right => checkTest [left.plainCheck schema, right.plainCheck schema]
  | .any operands =>
    checkBooleans NodeKind.any.name (operands.map fun operand => operand.plainCheck schema)
  | .arithmetic operator left right =>
    checkArithmetic operator (left.plainCheck schema) (right.plainCheck schema)
  | .negate operand => checkNegation (operand.plainCheck schema)

/-- A term is plainly checked to be what its node is on its operands. -/
theorem Term.checked?_operands (schema : Schema) (term : Term) :
    term.kind.checked? schema (term.operands.map fun operand => operand.plainCheck schema) =
      some (term.plainCheck schema) := by
  cases term <;> rw [plainCheck] <;> rfl

/-- Only connectives are checked on other terms than their operands. -/
theorem Term.flatOperands_eq_operands {term : Term}
    (other : ∀ operator, term.kind ≠ .connect operator) : term.flatOperands = term.operands := by
  cases term with
  | connect operator left right => exact absurd rfl (other operator)
  | _ => rfl

/-- **Checking by runs accepts what plain checking accepts, with the same kind.** -/
theorem Term.check_iff_plainCheck (schema : Schema) (term : Term) (kind : Option Kind) :
    term.check schema = .ok kind ↔ term.plainCheck schema = .ok kind := by
  induction term using operandInduction generalizing kind with
  | step term ih =>
    -- a run that is accepted is accepted on both sides; all other nodes are checked alike
    by_cases connective : ∃ operator, term.kind = .connect operator
    · obtain ⟨operator, same⟩ := connective
      cases term with
      | connect operator left right =>
        rw [check_connect_eq_ok_iff, plainCheck, checkBooleans_eq_ok_iff, List.forall_mem_cons,
          List.forall_mem_singleton]
        simp only [Checked.Meets, ih left (by simp [operands]), ih right (by simp [operands])]
      | _ => cases same
    · have gives := checked?_flatOperands schema term
      rw [flatOperands_eq_operands (not_exists.1 connective)] at gives
      have gives' := checked?_operands schema term
      constructor
      · intro checked
        obtain ⟨_, found, rfl⟩ := follows_of_operands forgetful_eq gives gives' (fun _ _ => rfl)
          (fun operand member kind found => ⟨kind, (ih operand member kind).1 found, rfl⟩)
          kind checked
        exact found
      · intro checked
        obtain ⟨_, found, rfl⟩ := follows_of_operands forgetful_eq gives' gives (fun _ _ => rfl)
          (fun operand member kind found => ⟨kind, (ih operand member kind).2 found, rfl⟩)
          kind checked
        exact found

/-- **A finished expression is accepted by runs as it is without.**  A kind is found for its term
exactly if the plain checker finds it.  So it is for each of its nodes, whose term the nodes below
it show, where every connective is checked on the nodes that are listed as the operands of its run.
Only the error of a term that is not accepted may be another one. -/
theorem Expression.check_iff_recursion {requests : List Builder.Request} {root : Nat}
    {expression : Expression} (built : (Builder.after requests).build root = .ok expression)
    (schema : Schema) :
    (∀ kind, expression.term.check schema = .ok kind ↔
      expression.term.plainCheck schema = .ok kind) ∧
    ∀ (id : Nat) (node : Node), expression.nodes[id]? = some node →
      Shows expression.nodes id node.grown.term ∧
        ∃ checked, expression.workOut (NodeKind.checked? schema) maxDepth id = some checked ∧
          ∀ kind, checked = .ok kind ↔ node.grown.term.plainCheck schema = .ok kind := by
  refine ⟨Term.check_iff_plainCheck schema expression.term, fun id node found => ?_⟩
  have carries : (Builder.mk expression.nodes).Carries id node.grown.term :=
    Option.map_eq_some_iff.2 ⟨node, found, rfl⟩
  refine ⟨(forest_of_build built).shows carries, node.grown.term.check schema, ?_,
    Term.check_iff_plainCheck schema node.grown.term⟩
  rw [workOut_node built (Term.checked?_flatOperands schema) found,
    if_pos (graded_of_build built id node found).2]

/-- In `('a' AND b) AND NOT 1` the run is refused for the operand of `NOT`, which is checked before
any operand is held to be a truth value, and the recursion for the string. -/
theorem Expression.check_iff_recursion_other_error :
    ∃ expression,
      (Builder.after [(.literal (.string "a"), []), (.property "b", []), (.connect .and, [0, 1]),
        (.literal (.number (.integer 1)), []), (.not, [3]), (.connect .and, [2, 4])]).build 5 =
          .ok expression ∧
      expression.term.check (fun _ => some .boolean) = .error ⟨"NOT", .boolean, .integer⟩ ∧
      expression.term.plainCheck (fun _ => some .boolean) = .error ⟨"AND", .boolean, .string⟩ ∧
      ∃ checked, expression.workOut (NodeKind.checked? fun _ => some .boolean) maxDepth 5 =
        some checked ∧ ∀ kind, checked ≠ .ok kind := by
  let requests : List Builder.Request :=
    [(.literal (.string "a"), []), (.property "b", []), (.connect .and, [0, 1]),
      (.literal (.number (.integer 1)), []), (.not, [3]), (.connect .and, [2, 4])]
  obtain ⟨expression, built, same⟩ : ∃ expression, (Builder.after requests).build 5 =
      .ok expression ∧ expression.term =
        .connect .and (.connect .and (.literal (.string "a")) (.property "b"))
          (.not (.literal (.number (.integer 1)))) := by
    refine ⟨_, rfl, ?_⟩
    rfl
  obtain ⟨_, atNodes⟩ := check_iff_recursion built fun _ => some .boolean
  obtain ⟨_, sameNodes, _⟩ := Builder.build_eq_ok_iff.1 built
  obtain ⟨node, found, carried⟩ := Option.map_eq_some_iff.1 (Builder.termAt_root built)
  rw [← sameNodes] at found
  obtain ⟨_, checked, worked, accepted⟩ := atNodes 5 node found
  have rejected : expression.term.plainCheck (fun _ => some .boolean) =
      .error ⟨"AND", .boolean, .string⟩ := by
    rw [same]
    simp only [Term.plainCheck]
    rfl
  refine ⟨expression, built, ?_, rejected, checked, worked, fun kind isOk => ?_⟩
  · rw [same, Term.check_connect]
    simp only [Term.runOf, Term.runBefore, if_true, List.map_cons, List.map_nil, Term.check]
    rfl
  · have accepts := (accepted kind).1 isOk
    rw [carried, rejected] at accepts
    cases accepts

/-! ## Knowing less -/

/-- **Knowing less never rejects more.**  A schema that has the kinds of another one, or does not
know them, accepts what that one accepts, with the same kind or an unknown one. -/
theorem Term.check_of_informed {less more : Schema} {term : Term}
    (informed : ∀ name, term.Mentions name → Informs none (less name) (more name))
    {kind : Option Kind} (checked : term.check more = .ok kind) :
    ∃ kind', term.check less = .ok kind' ∧ Informs none kind' kind := by
  rw [check_iff_plainCheck] at checked
  simp only [check_iff_plainCheck]
  suffices follows : (term.plainCheck more).Follows (fun more less => Informs none less more)
      (term.plainCheck less) from follows kind checked
  clear checked
  induction term using operandInduction with
  | step term ih =>
    refine follows_of_operands forgetful_informs (checked?_operands more term)
      (checked?_operands less term) (fun name isProperty => ?_) (fun operand member => ?_)
    · cases term <;> cases isProperty
      exact informed name .here
    · exact ih operand member fun name mentioned => informed name (.inside member mentioned)

/-- **A schema that knows less never rejects more.**  Let one schema know some of the kinds that
another one gives to the identifiers of an expression, and none besides.  What is accepted with the
other one is accepted with it, with the same kind or an unknown one, and so a predicate stays a
predicate.  What is rejected with it is rejected with the other one. -/
theorem Expression.check_of_less {requests : List Builder.Request} {root : Nat}
    {expression : Expression} (built : (Builder.after requests).build root = .ok expression)
    {less more : Schema}
    (known : ∀ name ∈ expression.identifiers, ∀ kind, less name = some kind →
      more name = some kind) :
    (∀ kind, expression.term.check more = .ok kind →
      ∃ kind', expression.term.check less = .ok kind' ∧ (kind' = kind ∨ kind' = none)) ∧
    (expression.term.checkPredicate more = .ok () →
      expression.term.checkPredicate less = .ok ()) ∧
    ∀ error, expression.term.check less = .error error →
      ∃ error', expression.term.check more = .error error' := by
  have informed : ∀ name, expression.term.Mentions name → Informs none (less name) (more name) := by
    intro name mentioned
    cases isKnown : less name with
    | none => exact Or.inl rfl
    | some kind =>
      exact Or.inr (known name (mem_identifiers_of_mentions built mentioned) kind isKnown)
  have accepted : ∀ kind, expression.term.check more = .ok kind →
      ∃ kind', expression.term.check less = .ok kind' ∧ (kind' = kind ∨ kind' = none) := by
    intro kind checked
    obtain ⟨kind', checked', informs⟩ := Term.check_of_informed informed checked
    exact ⟨kind', checked', informs.symm.imp_left Eq.symm⟩
  refine ⟨accepted, ?_, ?_⟩
  · simp only [Term.checkPredicate_eq_ok_iff]
    rintro (unknown | boolean)
    · obtain ⟨kind', checked', rfl | rfl⟩ := accepted _ unknown <;> exact Or.inl checked'
    · obtain ⟨kind', checked', rfl | rfl⟩ := accepted _ boolean
      · exact Or.inr checked'
      · exact Or.inl checked'
  · intro error rejected
    rw [exists_error_iff]
    intro kind checked
    obtain ⟨_, checked', _⟩ := accepted kind checked
    cases rejected.symm.trans checked'

/-- The sum of an integer and an integer literal is an integer, and is accepted as a number of
unknown kind where nothing is known about the first. -/
theorem Expression.check_of_less_sum :
    ∃ expression,
      (Builder.after [(.property "n", []), (.literal (.number (.integer 1)), []),
        (.arithmetic .add, [0, 1])]).build 2 = .ok expression ∧
      expression.term.check (fun _ => some .integer) = .ok (some .integer) ∧
      ∃ kind, expression.term.check (fun _ => none) = .ok kind ∧
        (kind = some .integer ∨ kind = none) := by
  let requests : List Builder.Request :=
    [(.property "n", []), (.literal (.number (.integer 1)), []), (.arithmetic .add, [0, 1])]
  obtain ⟨expression, built, same⟩ : ∃ expression, (Builder.after requests).build 2 =
      .ok expression ∧ expression.term =
        .arithmetic .add (.property "n") (.literal (.number (.integer 1))) := ⟨_, rfl, rfl⟩
  have checked : expression.term.check (fun _ => some .integer) = .ok (some .integer) := by
    rw [same]
    simp only [Term.check]
    rfl
  exact ⟨expression, built, checked, (check_of_less built (by simp)).1 _ checked⟩

end Sift
