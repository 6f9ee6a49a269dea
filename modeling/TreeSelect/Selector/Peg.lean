import TreeSelect.Selector.Syntax

namespace TreeSelect.Selector

/-- The characters still to read and the byte offset of the first of them. -/
structure Cursor where
  rest : List Char
  pos : Nat
  deriving Repr

/-- The outcome of an expression: the reach, and on success the nodes built and the cursor after
them. -/
structure Outcome where
  reach : Nat
  result : Option (List SyntaxNode × Cursor)

def Peg := Cursor → Nat → Outcome

namespace Peg

def empty : Peg := fun c r => ⟨r, some ([], c)⟩

def fail : Peg := fun _ r => ⟨r, none⟩

def sat (p : Char → Bool) : Peg := fun c r =>
  match c.rest with
  | x :: xs => if p x then ⟨r, some ([], ⟨xs, c.pos + x.utf8Size⟩)⟩ else ⟨r, none⟩
  | [] => ⟨r, none⟩

def anyChar : Peg := sat fun _ => true

def lit : List Char → Peg
  | [] => empty
  | x :: xs => fun c r =>
    match (sat (· == x)) c r with
    | ⟨r', some (_, c')⟩ => lit xs c' r'
    | o => o

def seq (a b : Peg) : Peg := fun c r =>
  match a c r with
  | ⟨r₁, some (ns, c₁)⟩ =>
    match b c₁ r₁ with
    | ⟨r₂, some (ms, c₂)⟩ => ⟨r₂, some (ns ++ ms, c₂)⟩
    | ⟨r₂, none⟩ => ⟨r₂, none⟩
  | ⟨r₁, none⟩ => ⟨r₁, none⟩

def alt (a b : Peg) : Peg := fun c r =>
  match a c r with
  | ⟨r₁, some x⟩ => ⟨r₁, some x⟩
  | ⟨r₁, none⟩ => b c r₁

def opt (a : Peg) : Peg := alt a empty

def notAhead (a : Peg) : Peg := fun c r =>
  match a c r with
  | ⟨_, some _⟩ => ⟨r, none⟩
  | ⟨_, none⟩ => ⟨r, some ([], c)⟩

/-- The expression as many times as it succeeds, at least zero; a success that reads nothing
ends the repetition. -/
def many (a : Peg) (c : Cursor) (r : Nat) : Outcome :=
  match a c r with
  | ⟨r₁, some (ns, c₁)⟩ =>
    if _ : c₁.rest.length < c.rest.length then
      match many a c₁ r₁ with
      | ⟨r₂, some (ms, c₂)⟩ => ⟨r₂, some (ns ++ ms, c₂)⟩
      | ⟨r₂, none⟩ => ⟨r₂, none⟩
    else ⟨r₁, some (ns, c₁)⟩
  | ⟨r₁, none⟩ => ⟨r₁, some ([], c)⟩
termination_by c.rest.length

def many1 (a : Peg) : Peg := seq a (many a)

/-- A named rule: on success one node spanning what the body read, holding the body's nodes;
on failure the reach grows to the rule's start. -/
def rule (name : Rule) (body : Peg) : Peg := fun c r =>
  match body c r with
  | ⟨r₁, some (ns, c₁)⟩ => ⟨r₁, some ([⟨name, c.pos, c₁.pos - c.pos, ns⟩], c₁)⟩
  | ⟨r₁, none⟩ => ⟨max r₁ c.pos, none⟩

def seqs : List Peg → Peg
  | [] => empty
  | [a] => a
  | a :: as => seq a (seqs as)

def alts : List Peg → Peg
  | [] => fail
  | [a] => a
  | a :: as => alt a (alts as)

end Peg

end TreeSelect.Selector
