import Sift.Proofs.Language.Names
import Sift.Proofs.Language.Refusals

/-!
# What a text becomes

A text that is read becomes an expression whose nodes stand in the order in which the text has been
read: every node behind all of its operands, the operands of a node in the order of the text, and
the root last (`parse_postorder`).  Nothing that was read is dropped or used twice, so the builder
is never misused, and a text is refused only for what it says.
-/

set_option autoImplicit false

open Sift.Parser

namespace Sift.Grammar

variable [Engine]

theorem parse_eq_ok {text : String} {expression : Expression}
    (parsed : parse text = .ok expression) :
    ∃ tokens, Lexer.tokenize text = .ok tokens ∧ parseExpression tokens = .ok expression := by
  obtain ⟨tokens, cut, parsed⟩ := do_eq_ok_iff.1 parsed
  exact ⟨tokens, mapError_eq_ok_iff.1 cut, parsed⟩

/-- Tokens that were read are a sentence, and the expression is its term laid out. -/
theorem parseExpression_eq_ok {tokens : List Token} {expression : Expression}
    (parsed : parseExpression tokens = .ok expression) :
    Sentence tokens expression.term ∧ Shows expression.nodes expression.root expression.term ∧
      Expression.ofTerm expression.term = .ok expression := by
  have assembled := parsed
  rw [parseExpression_eq] at assembled
  obtain ⟨term, read, finished⟩ := bind_eq_ok_iff.1 assembled
  have sentence := parseTokens_eq_ok_iff.1 read
  have finished := mapError_eq_ok_iff.1 finished
  obtain ⟨expression', parsed', rfl, shows⟩ := sentence.exists_parseExpression
  obtain rfl := Except.ok.inj (parsed.symm.trans parsed')
  exact ⟨sentence, shows, finished⟩

/-- The property nodes of a sentence have its identifiers as names, in the same order. -/
theorem Sentence.properties_ofTerm {tokens : List Token} {term : Term} {expression : Expression}
    (sentence : Sentence tokens term) (finished : Expression.ofTerm term = .ok expression) :
    expression.nodes.toList.filterMap Expression.Node.property? =
      tokens.filterMap Token.identifier? := by
  obtain ⟨⟨levels, _, derives⟩, _⟩ := sentence
  have kinds := congrArg (List.filterMap fun shown => shown.1.property?)
    (Expression.shown_ofTerm finished)
  rw [List.filterMap_map, List.filterMap_map] at kinds
  calc expression.nodes.toList.filterMap Expression.Node.property?
      = expression.nodes.toList.filterMap fun node => node.kind.property? :=
        congrArg (List.filterMap · _) (funext Expression.Node.property?_eq)
    _ = term.names := kinds
    _ = tokens.filterMap Token.identifier? := derives.names.symm

theorem careful_parse (text : String) : Careful (parse text) := by
  unfold parse
  cases Lexer.tokenize text with
  | error error => exact careful_error trivial
  | ok tokens => exact careful_parseExpression tokens

/-- **The nodes of a parsed text stand in post-order.**  The nodes show the term that the tokens of
the text mean; going through them in post-order visits their positions one after the other, up to
the root, which is the last, and so goes through the term in post-order; and the properties have the
names that the identifiers of the text give, in the order of the text.  If the builder has refused
the text, then for being too deep or for a pattern that does not compile. -/
theorem parse_postorder (text : String) :
    (∀ expression, parse text = .ok expression →
      Shows expression.nodes expression.root expression.term ∧
      expression.postorder = List.range expression.size ∧
      expression.root + 1 = expression.size ∧
      expression.nodes.toList.map Node.shown = expression.term.postorder.map Term.shown ∧
      ∃ tokens, Lexer.tokenize text = .ok tokens ∧ Sentence tokens expression.term ∧
        expression.nodes.toList.filterMap Expression.Node.property? =
          tokens.filterMap Token.identifier?) ∧
    ∀ error, parse text = .error (.build error) →
      error = .tooDeep ∨ ∃ pattern message, Pattern.compile pattern = .error message ∧
        error = .invalidPattern pattern.text message := by
  refine ⟨fun expression parsed => ?_, fun error failed => ?_⟩
  · obtain ⟨tokens, cut, parsed⟩ := parse_eq_ok parsed
    obtain ⟨sentence, shows, finished⟩ := parseExpression_eq_ok parsed
    exact ⟨shows, Expression.postorder_ofTerm finished, Expression.root_ofTerm finished,
      Expression.shown_ofTerm finished, tokens, cut, sentence, sentence.properties_ofTerm finished⟩
  · have foreseen := careful_parse text failed
    cases error with
    | tooDeep => exact Or.inl rfl
    | invalidPattern pattern message =>
      obtain ⟨escape, refused⟩ := foreseen
      exact Or.inr ⟨⟨pattern, escape⟩, message, refused, rfl⟩
    | _ => cases foreseen

end Sift.Grammar
