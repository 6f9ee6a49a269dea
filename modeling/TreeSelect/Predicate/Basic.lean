import TreeSelect.Element
import TreeSelect.Text.Quoted

namespace TreeSelect

/-- How an attribute value is compared with a literal. -/
inductive AttrOp where
  /-- The value equals the literal. -/
  | equals
  /-- The literal is one of the value's tokens, split at ASCII blanks. -/
  | includes
  deriving DecidableEq, Repr, Inhabited

def AttrOp.apply : AttrOp → String → String → Bool
  | .equals, actual, expected => actual == expected
  | .includes, actual, expected => (Text.splitAsciiBlank actual).contains expected

/-- A test of one element. -/
inductive Predicate where
  | any
  | tag (name : String)
  | id (name : String)
  | cls (name : String)
  /-- An attribute compared with a literal; a missing attribute reads as empty. -/
  | attr (name : String) (op : AttrOp) (value : String)
  | not (p : Predicate)
  | conj (ps : List Predicate)
  | disj (ps : List Predicate)
  deriving Repr, Inhabited

namespace Predicate

mutual
def test (e : Element) : Predicate → Bool
  | any => true
  | tag t => e.tag == t
  | id i => e.id == i
  | cls c => e.hasClass c
  | attr n op v => op.apply ((e.attr? n).getD "") v
  | not p => !test e p
  | conj ps => testAll e ps
  | disj ps => testSome e ps

def testAll (e : Element) : List Predicate → Bool
  | [] => true
  | p :: ps => test e p && testAll e ps

def testSome (e : Element) : List Predicate → Bool
  | [] => false
  | p :: ps => test e p || testSome e ps
end

def and : Predicate → Predicate → Predicate
  | x, any => x
  | any, y => y
  | conj xs, conj ys => conj (xs ++ ys)
  | conj xs, y => conj (xs ++ [y])
  | x, conj ys => conj (x :: ys)
  | x, y => conj [x, y]

def or : Predicate → Predicate → Predicate
  | any, _ => any
  | _, any => any
  | disj xs, disj ys => disj (xs ++ ys)
  | disj xs, y => disj (xs ++ [y])
  | x, disj ys => disj (x :: ys)
  | x, y => disj [x, y]

mutual
def render : Predicate → String
  | any => "[]"
  | tag t => t
  | id i => "#" ++ i
  | cls c => "." ++ c
  | attr n .equals v => "[" ++ n ++ "=" ++ Text.quote v ++ "]"
  | attr n .includes v => "[" ++ n ++ "~=" ++ Text.quote v ++ "]"
  | not p => "!" ++ render p
  | conj ps => "(" ++ renderJoined " && " ps ++ ")"
  | disj ps => "(" ++ renderJoined " || " ps ++ ")"

def renderJoined (sep : String) : List Predicate → String
  | [] => ""
  | [p] => render p
  | p :: ps => render p ++ sep ++ renderJoined sep ps
end

end Predicate

end TreeSelect
