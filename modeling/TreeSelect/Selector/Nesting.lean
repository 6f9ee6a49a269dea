import TreeSelect.Selector.Error

namespace TreeSelect.Selector

def isQuoteChar (c : Char) : Bool := c == '\'' || c == '"' || c == '`'

/-- The byte offset of the first parenthesis that opens a level deeper than `maxNesting`, reading
from byte `pos` at depth `depth`, inside the quote `quote` if there is one. -/
def tooDeepAt : List Char → Nat → Nat → Option Char → Option Nat
  | [], _, _, _ => none
  | c :: cs, pos, depth, some q =>
    tooDeepAt cs (pos + c.utf8Size) depth (if c == q then none else some q)
  | c :: cs, pos, depth, none =>
    if isQuoteChar c then tooDeepAt cs (pos + c.utf8Size) depth (some c)
    else if c == '(' then
      if depth + 1 > maxNesting then some pos
      else tooDeepAt cs (pos + c.utf8Size) (depth + 1) none
    else if c == ')' then tooDeepAt cs (pos + c.utf8Size) (depth - 1) none
    else tooDeepAt cs (pos + c.utf8Size) depth none

def checkNesting (input : String) : Except CompileError Unit :=
  match tooDeepAt input.toList 0 0 none with
  | some p => .error (.tooDeep p maxNesting)
  | none => .ok ()

end TreeSelect.Selector
