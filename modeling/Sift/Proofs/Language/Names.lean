import Sift.Proofs.Expression.Postorder
import Sift.Proofs.Language.Grammar

/-!
# The names of a sentence

The identifiers among the tokens of a sentence are the names of the properties in its term, one for
one and in the same order (`Derives.names`).  Only an identifier becomes a property, and no rule of
the grammar leaves a part out, uses it twice or moves it past another.
-/

set_option autoImplicit false

namespace Sift

/-! ## Names in terms -/

/-- The name of a property. -/
def NodeKind.property? : NodeKind → Option String
  | .property name => some name
  | _ => none

theorem Expression.Node.property?_eq (node : Node) :
    Expression.Node.property? node = node.kind.property? := by
  obtain ⟨kind, children, parent, grown⟩ := node
  cases kind <;> rfl

namespace Term

/-- The names of the properties in a term, from left to right. -/
def names (term : Term) : List String :=
  term.postorder.filterMap fun part => part.kind.property?

theorem names_eq (term : Term) :
    term.names = term.operands.flatMap names ++ term.kind.property?.toList := by
  rw [names, postorder_eq, List.filterMap_append, List.filterMap_flatMap]
  rfl

/-- A node that is no property has the names of its operands. -/
theorem names_of_inner {term : Term} (inner : term.kind.property? = none) :
    term.names = term.operands.flatMap names := by
  rw [names_eq, inner, Option.toList_none, List.append_nil]

@[simp] theorem names_property (name : String) : (property name).names = [name] :=
  names_eq _

@[simp] theorem names_literal (content : Literal) : (literal content).names = [] :=
  names_eq _

end Term

/-! ## Names among tokens -/

/-- The name that a token gives, if it is an identifier. -/
def Token.identifier? : Token → Option String
  | .identifier name => some name
  | _ => none

namespace Token

@[simp] theorem identifier?_identifier (name : String) :
    (identifier name).identifier? = some name := rfl

@[simp] theorem identifier?_number (text : String) : (number text).identifier? = none := rfl

@[simp] theorem identifier?_string (text : String) : (string text).identifier? = none := rfl

@[simp] theorem identifier?_keyword (word : Keyword) : (keyword word).identifier? = none := rfl

@[simp] theorem identifier?_symbol (mark : Symbol) : (symbol mark).identifier? = none := rfl

end Token

namespace Grammar

/-- The names that tokens give. -/
def namesOf (tokens : List Token) : List String :=
  tokens.filterMap Token.identifier?

@[simp] theorem namesOf_nil : namesOf [] = [] := rfl

@[simp] theorem namesOf_append (first second : List Token) :
    namesOf (first ++ second) = namesOf first ++ namesOf second :=
  List.filterMap_append

@[simp] theorem namesOf_cons (token : Token) (rest : List Token) :
    namesOf (token :: rest) = token.identifier?.toList ++ namesOf rest := by
  rw [namesOf, List.filterMap_cons]
  cases token.identifier? <;> rfl

@[simp] theorem namesOf_notIf (negated : Bool) : namesOf (notIf negated) = [] := by
  cases negated <;> rfl

@[simp] theorem identifier?_truthWord (b : Bool) : (truthWord b).identifier? = none :=
  Token.identifier?_keyword _

theorem namesOf_separated (items : List (List Token)) :
    namesOf (separated items) = items.flatMap namesOf := by
  fun_induction separated items with
  | case1 => rfl
  | case2 item => simp
  | case3 item next rest ih =>
    rw [namesOf_append, namesOf_cons, ih]
    rfl

@[simp] theorem namesOf_listed (items : List (List Token)) :
    namesOf (listed items) = items.flatMap namesOf := by
  simp [listed, namesOf_separated]

/-- Items that each have the names of their terms have them together. -/
theorem flatMap_namesOf {parts : List (List Token × Term)}
    (each : ∀ part ∈ parts, namesOf part.1 = part.2.names) :
    (parts.map Prod.fst).flatMap namesOf = (parts.map Prod.snd).flatMap Term.names := by
  rw [List.flatMap_map, List.flatMap_map]
  exact List.flatMap_congr each

/-! ## Names in derivations -/

@[simp] theorem names_negatedIf (negated : Bool) (test : Term) :
    (negatedIf negated test).names = test.names := by
  cases negated with
  | false => rfl
  | true =>
    rw [negatedIf, if_pos rfl, Term.names_of_inner rfl]
    simp [Term.operands]

theorem Escapes.namesOf_eq {clause : List Token} {escape : Option Char}
    (escapes : Escapes clause escape) : namesOf clause = [] := by
  cases escapes <;> rfl

/-- An operator gives no name, and what it makes has the names of its sides. -/
theorem Joins.names {category : Category} {token : Token} {make : Term → Term → Term}
    (joins : Joins category token make) : token.identifier? = none ∧
      ∀ left right, (make left right).names = left.names ++ right.names := by
  cases joins <;>
    refine ⟨rfl, fun left right => (Term.names_of_inner rfl).trans ?_⟩ <;>
    simp [Term.operands]

variable [Engine]

/-- **The names of a derivation.**  Tokens give exactly the names of the properties in the term
that they mean, in the same order. -/
theorem Derives.names {levels : Nat} {category : Category} {tokens : List Token} {term : Term}
    (derives : Derives levels category tokens term) : namesOf tokens = term.names := by
  induction derives with
  | alone _ _ ih => exact ih
  | chain _ joins _ _ first second =>
    obtain ⟨none, sides⟩ := joins.names
    rw [namesOf_append, namesOf_cons, none, first, second, sides]
    rfl
  | not _ ih | minus _ _ ih =>
    rw [Term.names_of_inner rfl]
    simp [Term.operands, ih]
  | isNull _ _ ih =>
    rw [names_negatedIf, Term.names_of_inner rfl]
    simp [Term.operands, ih]
  | isTruth _ _ _ ih =>
    rw [Term.names_of_inner rfl]
    simp [Term.operands, ih]
  | between _ _ _ _ value low high =>
    rw [names_negatedIf, Term.names_of_inner rfl]
    simp [Term.operands, value, low, high]
  | inList _ parts _ _ _ value items =>
    rw [names_negatedIf, Term.names_of_inner rfl]
    simp [Term.operands, value, flatMap_namesOf items]
  | likeText _ _ escapes _ subject =>
    rw [names_negatedIf, Term.names_of_inner rfl]
    simp [Term.operands, subject, escapes.namesOf_eq]
  | like _ _ _ _ subject pattern =>
    rw [names_negatedIf, Term.names_of_inner rfl]
    simp [Term.operands, subject, pattern]
  | compare _ _ _ left right =>
    rw [Term.names_of_inner rfl]
    simp [Term.operands, left, right]
  | plus _ ih => exact ih
  | minusNumber _ | number _ | string | truth _ | property => simp
  | any parts some _ items =>
    rw [Term.names_of_inner rfl]
    simp [Term.operands, flatMap_namesOf items]
  | parens _ ih => simp [ih]

end Grammar

end Sift
