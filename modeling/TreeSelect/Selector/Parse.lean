import TreeSelect.Selector.Grammar
import TreeSelect.Selector.Nesting

namespace TreeSelect.Selector

def syntaxErrorAt (input : String) (pos : Nat) : CompileError :=
  let p := min pos input.utf8ByteSize
  .unmatched p (String.ofList (Text.dropBytes input.toList p))

def parseRaw (input : String) : Except CompileError SyntaxNode := do
  checkNesting input
  let cs := input.toList
  match Grammar.expr (cs.length + 1) ⟨cs, 0⟩ 0 with
  | ⟨reach, none⟩ => .error (syntaxErrorAt input reach)
  | ⟨_, some (nodes, c)⟩ =>
    if c.rest.isEmpty then
      match nodes with
      | [n] => pure n
      | _ => .error (syntaxErrorAt input 0)
    else .error (syntaxErrorAt input c.pos)

def parse (input : String) : Except CompileError SyntaxNode :=
  SyntaxNode.simplify <$> parseRaw input

end TreeSelect.Selector
