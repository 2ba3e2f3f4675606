import Sift.Proofs.Language.Assembly
import Sift.Proofs.Language.Completeness
import Sift.Proofs.Language.Soundness

/-!
# The parser accepts the sentences of the grammar

A sequence of tokens is a sentence if the grammar derives it as a disjunction with a term that is
not too deep (`Grammar.Sentence`).  What the descent reads is derived, and what is derived is read,
so the parser, which goes in step with it, accepts exactly the sentences.  A term that was derived
has no empty lists, so nothing can go wrong when it is laid out, and the nodes of the expression
show the term of the derivation.
-/

set_option autoImplicit false

open Sift.Descent
open Sift.Parser (parseExpression)

namespace Sift.Grammar

variable [Engine] {tokens : List Token} {term : Term}

/-- A sentence of the grammar with its term.  The sentence itself is the first level, and no part of
it is nested deeper than the limit; neither is any node of the term. -/
def Sentence (tokens : List Token) (term : Term) : Prop :=
  (∃ levels, levels + 1 = maxDepth ∧ Derives levels .disjunction tokens term) ∧
    term.depth ≤ maxDepth

/-- The descent reads exactly the sentences. -/
theorem parseTokens_eq_ok_iff : parseTokens tokens = .ok term ↔ Sentence tokens term := by
  constructor
  · intro read
    obtain ⟨⟨grown, stream⟩, readAll, read⟩ := do_eq_ok_iff.1 read
    obtain ⟨used, found, rest, ⟨levels, same, derives⟩, rfl, small⟩ :=
      (soundBelow_nested maxDepth).disjunction readAll
    dsimp only at read
    split at read
    case h_1 finished =>
      obtain rfl := Except.ok.inj read
      have all : tokens = used := by
        rw [finished, List.append_nil] at rest
        exact rest
      exact ⟨⟨levels, same.symm, all ▸ derives⟩, small⟩
    case h_2 => cases read
  · rintro ⟨⟨levels, same, derives⟩, small⟩
    obtain ⟨position, read⟩ := derives.completes.reads 0 [] nofun small
    rw [List.append_nil] at read
    have readAll : (nested maxDepth).disjunction ⟨0, tokens⟩ =
        .ok (term.grown, ⟨position, []⟩) := by
      rw [← same]
      exact read
    show ((nested maxDepth).disjunction ⟨0, tokens⟩).bind _ = _
    rw [readAll]
    rfl

/-- A sentence has one term. -/
theorem Sentence.unique {term' : Term} (sentence : Sentence tokens term)
    (sentence' : Sentence tokens term') : term = term' :=
  Except.ok.inj ((parseTokens_eq_ok_iff.2 sentence).symm.trans (parseTokens_eq_ok_iff.2 sentence'))

/-- A sentence becomes an expression whose nodes show its term. -/
theorem Sentence.exists_parseExpression (sentence : Sentence tokens term) :
    ∃ expression, parseExpression tokens = .ok expression ∧ expression.term = term ∧
      Shows expression.nodes expression.root term := by
  have read := parseTokens_eq_ok_iff.2 sentence
  obtain ⟨⟨levels, _, derives⟩, small⟩ := sentence
  obtain ⟨expression, finished, sameTerm, shows⟩ :=
    Expression.exists_ofTerm derives.proper small
  refine ⟨expression, ?_, sameTerm, shows⟩
  rw [Parser.parseExpression_eq, read]
  show (Expression.ofTerm term).mapError _ = _
  rw [finished]
  rfl

/-- **The parser accepts exactly the sentences of the grammar, and builds what they mean.**  Tokens
become an expression if and only if they are a sentence, and the nodes of the expression then show
the term that the grammar derives. -/
theorem parseExpression_grammar (tokens : List Token) :
    ((∃ expression, parseExpression tokens = .ok expression) ↔ ∃ term, Sentence tokens term) ∧
      ∀ expression term, parseExpression tokens = .ok expression → Sentence tokens term →
        Shows expression.nodes expression.root term ∧ expression.term = term := by
  refine ⟨⟨?_, ?_⟩, fun expression term parsed sentence => ?_⟩
  · rintro ⟨expression, parsed⟩
    rw [Parser.parseExpression_eq] at parsed
    obtain ⟨term, read, _⟩ := bind_eq_ok_iff.1 parsed
    exact ⟨term, parseTokens_eq_ok_iff.1 read⟩
  · rintro ⟨term, sentence⟩
    obtain ⟨expression, parsed, _⟩ := sentence.exists_parseExpression
    exact ⟨expression, parsed⟩
  · obtain ⟨expression', parsed', sameTerm, shows⟩ := sentence.exists_parseExpression
    obtain rfl := Except.ok.inj (parsed.symm.trans parsed')
    exact ⟨shows, sameTerm⟩

end Sift.Grammar
