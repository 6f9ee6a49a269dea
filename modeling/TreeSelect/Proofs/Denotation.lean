import Mathlib.Computability.Language
import TreeSelect.Selector.Syntax
import TreeSelect.Predicate.Basic

namespace TreeSelect.Selector.SyntaxNode

/-- A text without its first and its last character. -/
def stripEnds (s : String) : String := String.ofList (s.toList.drop 1).dropLast

mutual
/-- The literal a value stands for: the text between the quotes of a quoted value, bare text as
it is written. -/
def literalOf (input : String) : SyntaxNode → String
  | n@⟨r, _, _, cs⟩ =>
    match r with
    | .value => literalOnly input cs
    | _ => if r.isQuoted then stripEnds (n.text input) else n.text input

/-- The literal of the only tree of a list. -/
def literalOnly (input : String) : List SyntaxNode → String
  | [c] => literalOf input c
  | _ => ""
end

/-- An attribute value passes the comparison written `op` with a literal: `=` is equality, `!=`
its negation, and `~=` says the literal is one of the value's blank-separated tokens. -/
def Compares (op actual literal : String) : Prop :=
  (op = "=" ∧ actual = literal) ∨ (op = "!=" ∧ actual ≠ literal) ∨
    (op = "~=" ∧ literal ∈ Text.splitAsciiBlank actual)

mutual
/-- The elements a predict, an attribute block or a condition inside one lets through. -/
def Holds (input : String) : SyntaxNode → Element → Prop
  | ⟨r, _, _, cs⟩, e =>
    match r with
    | .predictWithAttr | .basicPredicts | .attrAndExpr => HoldsAll input cs e
    | .basicPredict | .attrExpr | .attrBasicExpr | .attrGroupExpr => HoldsOnly input cs e
    | .idPredict => ∃ i, cs = [i] ∧ e.id = i.text input
    | .classPredict => ∃ i, cs = [i] ∧ i.text input ∈ e.classes
    | .tagPredict => ∃ i, cs = [i] ∧ e.tag = i.text input
    | .attrPredict => cs = [] ∨ HoldsOnly input cs e
    | .attrOrExpr => HoldsSome input cs e
    | .attrElementaryExpr => ∃ name op v, cs = [name, op, v] ∧
      Compares (op.text input) ((e.attr? (name.text input)).getD "") (literalOf input v)
    | _ => False

/-- The only tree of the list lets the element through. -/
def HoldsOnly (input : String) : List SyntaxNode → Element → Prop
  | [c], e => Holds input c e
  | _, _ => False

/-- Every tree of the list lets the element through. -/
def HoldsAll (input : String) : List SyntaxNode → Element → Prop
  | [], _ => True
  | c :: cs, e => Holds input c e ∧ HoldsAll input cs e

/-- Some tree of the list lets the element through. -/
def HoldsSome (input : String) : List SyntaxNode → Element → Prop
  | [], _ => False
  | c :: cs, e => Holds input c e ∨ HoldsSome input cs e
end

mutual
/-- The paths a selector tree matches. -/
def Matches (input : String) : SyntaxNode → List Element → Prop
  | ⟨r, _, _, cs⟩, w =>
    match r with
    | .expr | .elementaryExpr | .groupExpr => MatchesOnly input cs w
    | .orExpr => MatchesSome input cs w
    | .concatExpr => MatchesSeq input cs w
    | .basicExpr => MatchesQuantified input cs w
    | .predict => ∃ e, w = [e] ∧ HoldsOnly input cs e
    | _ => False

/-- The only tree of the list matches the path. -/
def MatchesOnly (input : String) : List SyntaxNode → List Element → Prop
  | [c], w => Matches input c w
  | _, _ => False

/-- An operand, or an operand and its marker: any number of consecutive pieces of the path
matched by the operand for a star, at least one for a plus, and at most one for an option. -/
def MatchesQuantified (input : String) : List SyntaxNode → List Element → Prop
  | [c], w => Matches input c w
  | [c, m], w =>
    match m.rule with
    | .star => ∃ ws : List (List Element), w = ws.flatten ∧ ∀ u ∈ ws, Matches input c u
    | .plus => ∃ ws : List (List Element), ws ≠ [] ∧ w = ws.flatten ∧ ∀ u ∈ ws, Matches input c u
    | .option => w = [] ∨ Matches input c w
    | _ => False
  | _, _ => False

/-- Some tree of the list matches the path. -/
def MatchesSome (input : String) : List SyntaxNode → List Element → Prop
  | [], _ => False
  | c :: cs, w => Matches input c w ∨ MatchesSome input cs w

/-- The path cuts into consecutive pieces, the trees of the list matching them in order. -/
def MatchesSeq (input : String) : List SyntaxNode → List Element → Prop
  | [], w => w = []
  | c :: cs, w => ∃ u v, w = u ++ v ∧ Matches input c u ∧ MatchesSeq input cs v
end

/-- The language of a selector tree: the paths it matches. -/
def lang (input : String) (t : SyntaxNode) : Language Element := {w | t.Matches input w}

end TreeSelect.Selector.SyntaxNode
