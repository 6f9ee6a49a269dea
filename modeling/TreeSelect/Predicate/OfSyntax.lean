import TreeSelect.Predicate.Basic
import TreeSelect.Selector.Syntax
import TreeSelect.Selector.Error

namespace TreeSelect.Predicate

open Selector

def refuse (r : Rule) : CompileError := .internal .predicateCompiler (.rule r)

/-- The text of a quoted value between its quotes: the node's text without its first and last
byte. -/
def unquote (input : String) (n : SyntaxNode) : String :=
  Text.sliceBytes input (n.start + 1) (n.len - 2)

mutual
def literal (input : String) : SyntaxNode → Except CompileError String
  | ⟨.value, _, _, [inner]⟩ => literal input inner
  | n@⟨r, _, _, _⟩ =>
    if r.isQuoted then .ok (unquote input n)
    else if r = .text then .ok (n.text input)
    else .error (refuse r)

def ofAttrExpr (input : String) : SyntaxNode → Except CompileError Predicate
  | ⟨.attrOrExpr, _, _, subs⟩ => do
    match ← ofAttrExprs input subs with
    | p :: ps => pure (ps.foldl Predicate.or p)
    | [] => .error (refuse .attrOrExpr)
  | ⟨.attrAndExpr, _, _, subs⟩ => do
    match ← ofAttrExprs input subs with
    | p :: ps => pure (ps.foldl Predicate.and p)
    | [] => .error (refuse .attrAndExpr)
  | ⟨.attrGroupExpr, _, _, [inner]⟩ => ofAttrExpr input inner
  | ⟨.attrElementaryExpr, _, _, [name, op, v]⟩ => do
    let lit ← literal input v
    let name := name.text input
    match op.text input with
    | "=" => pure (attr name .equals lit)
    | "!=" => pure (not (attr name .equals lit))
    | "~=" => pure (attr name .includes lit)
    | other => .error (.internal .predicateCompiler (.operator other))
  | ⟨r, _, _, _⟩ => .error (refuse r)

def ofAttrExprs (input : String) : List SyntaxNode → Except CompileError (List Predicate)
  | [] => pure []
  | n :: ns => do
    let p ← ofAttrExpr input n
    let ps ← ofAttrExprs input ns
    pure (p :: ps)
end

def identifierOf (input : String) : SyntaxNode → Except CompileError String
  | ⟨_, _, _, [⟨.identifier, s, l, subs⟩]⟩ => .ok (SyntaxNode.text ⟨.identifier, s, l, subs⟩ input)
  | ⟨r, _, _, _⟩ => .error (refuse r)

mutual
def ofSyntax (input : String) : SyntaxNode → Except CompileError Predicate
  | ⟨.predictWithAttr, _, _, subs⟩ => (·.foldl Predicate.and any) <$> ofSyntaxAll input subs
  | ⟨.basicPredicts, _, _, subs⟩ => (·.foldl Predicate.and any) <$> ofSyntaxAll input subs
  | n@⟨.tagPredict, _, _, _⟩ => .ok (tag (n.text input))
  | n@⟨.identifier, _, _, _⟩ => .ok (tag (n.text input))
  | n@⟨.idPredict, _, _, _⟩ => id <$> identifierOf input n
  | n@⟨.classPredict, _, _, _⟩ => cls <$> identifierOf input n
  | ⟨.attrPredict, _, _, []⟩ => .ok any
  | ⟨.attrPredict, _, _, [e]⟩ => ofAttrExpr input e
  | ⟨r, _, _, _⟩ => .error (refuse r)

def ofSyntaxAll (input : String) : List SyntaxNode → Except CompileError (List Predicate)
  | [] => pure []
  | n :: ns => do
    let p ← ofSyntax input n
    let ps ← ofSyntaxAll input ns
    pure (p :: ps)
end

end TreeSelect.Predicate
