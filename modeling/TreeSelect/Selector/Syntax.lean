import TreeSelect.Selector.Rule
import TreeSelect.Text.Utf8

namespace TreeSelect.Selector

/-- A rule and the span of selector text, in bytes, that it matched. -/
structure SyntaxNode where
  rule : Rule
  start : Nat
  len : Nat
  subs : List SyntaxNode
  deriving Repr, Inhabited

namespace SyntaxNode

def text (n : SyntaxNode) (input : String) : String := Text.sliceBytes input n.start n.len

/-- Whether a span of `len` bytes from byte `start` lies inside the text and begins and ends
between characters. -/
def spanFits (input : String) (start len : Nat) : Bool :=
  let cs := input.toList
  start + len ≤ Text.byteSize cs && Text.isBoundary cs start && Text.isBoundary cs (start + len)

/-- Whether the span of a quoted value holds its two quote bytes and the text between them
begins and ends between characters. -/
def quotedSpanFits (input : String) (start len : Nat) : Bool :=
  2 ≤ len && spanFits input (start + 1) (len - 2)

def isWrapper : SyntaxNode → Bool
  | ⟨_, s, l, [c]⟩ => c.start == s && c.len == l
  | _ => false

mutual
def simplify : SyntaxNode → SyntaxNode
  | ⟨r, s, l, [c]⟩ => if c.start = s ∧ c.len = l then simplify c else ⟨r, s, l, [simplify c]⟩
  | ⟨r, s, l, subs⟩ => ⟨r, s, l, simplifyAll subs⟩

def simplifyAll : List SyntaxNode → List SyntaxNode
  | [] => []
  | c :: cs => simplify c :: simplifyAll cs
end

end SyntaxNode

end TreeSelect.Selector
