import TreeSelect.Selector.Rule
import TreeSelect.Text.Quoted

namespace TreeSelect.Selector

def maxNesting : Nat := 32

/-- The stage of compilation that met a syntax tree it cannot handle. -/
inductive Stage where
  | astBuilder
  | predicateCompiler
  deriving DecidableEq, Repr

def Stage.name : Stage → String
  | .astBuilder => "AST builder"
  | .predicateCompiler => "predicate compiler"

/-- What a stage could not handle: a node of some rule, or the text of a comparison operator. -/
inductive Culprit where
  | rule (r : Rule)
  | operator (text : String)
  deriving DecidableEq, Repr

def Culprit.name : Culprit → String
  | .rule r => r.name
  | .operator t => Text.quote t

/-- Why a selector does not compile. -/
inductive CompileError where
  /-- No parse covers the whole text; `remainder` is the text from byte `position` on. -/
  | unmatched (position : Nat) (remainder : String)
  /-- A syntax tree has a node that a compilation stage has no case for. -/
  | internal (stage : Stage) (culprit : Culprit)
  /-- The parenthesis at byte `position` opens a group deeper than `limit`. -/
  | tooDeep (position : Nat) (limit : Nat)
  deriving DecidableEq, Repr

def CompileError.message : CompileError → String
  | .unmatched p r => s!"Selector error: syntax error at offset {p}, unmatched input " ++ Text.quote r
  | .internal st c => s!"Selector error: internal error: {st.name} cannot handle {c.name}"
  | .tooDeep p l => s!"Selector error: parentheses nest deeper than {l} at offset {p}"

def CompileError.record : CompileError → String
  | .unmatched p r => s!"Syntax \x7b position: {p}, remainder: " ++ Text.quote r ++ " \x7d"
  | .internal st c =>
    let stage := match st with
      | .astBuilder => "AstBuilder"
      | .predicateCompiler => "PredicateCompiler"
    s!"Internal \x7b stage: {stage}, rule: " ++ Text.quote c.name ++ " \x7d"
  | .tooDeep p l => s!"TooDeep \x7b position: {p}, limit: {l} \x7d"

end TreeSelect.Selector
