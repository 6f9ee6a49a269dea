import TreeSelect.Predicate.OfSyntax

namespace TreeSelect

/-- A selector over root-to-node paths. -/
inductive Ast where
  /-- The first part matches the upper nodes of the path, the second the rest below them. -/
  | concat (l r : Ast)
  | or (l r : Ast)
  /-- Zero or more. -/
  | star (e : Ast)
  /-- One or more. -/
  | plus (e : Ast)
  /-- Zero or one. -/
  | option (e : Ast)
  /-- Exactly one node, passing the predicate. -/
  | pred (p : Predicate)
  deriving Repr, Inhabited

namespace Ast

open Selector

def refuse (r : Rule) : CompileError := .internal .astBuilder (.rule r)

def isPredictRule (r : Rule) : Bool :=
  r = .predictWithAttr || r = .attrPredict || r = .basicPredicts || r = .idPredict ||
    r = .classPredict || r = .tagPredict || r = .identifier

def foldOperands (r : Rule) (f : Ast → Ast → Ast) : List Ast → Except CompileError Ast
  | [] => .error (refuse r)
  | a :: as => .ok (as.foldl f a)

mutual
def ofSyntax (input : String) : SyntaxNode → Except CompileError Ast
  | ⟨.concatExpr, _, _, subs⟩ => do foldOperands .concatExpr concat (← ofSyntaxAll input subs)
  | ⟨.orExpr, _, _, subs⟩ => do foldOperands .orExpr or (← ofSyntaxAll input subs)
  | ⟨.basicExpr, _, _, [operand, marker]⟩ => do
    let a ← ofSyntax input operand
    match marker.rule with
    | .star => pure (star a)
    | .plus => pure (plus a)
    | .option => pure (option a)
    | r => .error (refuse r)
  | ⟨.groupExpr, _, _, [inner]⟩ => ofSyntax input inner
  | n@⟨r, _, _, _⟩ =>
    if isPredictRule r then pred <$> Predicate.ofSyntax input n else .error (refuse r)

def ofSyntaxAll (input : String) : List SyntaxNode → Except CompileError (List Ast)
  | [] => pure []
  | n :: ns => do
    let a ← ofSyntax input n
    let as ← ofSyntaxAll input ns
    pure (a :: as)
end

end Ast

end TreeSelect
