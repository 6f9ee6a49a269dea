import TreeSelect.Program.Basic
import TreeSelect.Selector.Ast
import TreeSelect.Selector.Parse

namespace TreeSelect

namespace Ast

/-- The two kinds of binary node that form chains of operands. -/
inductive Chain where
  | concat
  | or
  deriving DecidableEq, Repr

/-- The operands along the left spine of a chain of one kind, in order; a node of another kind
is one operand. -/
def spine (k : Chain) : Ast → List Ast
  | concat l r => if k = .concat then spine k l ++ [r] else [concat l r]
  | or l r => if k = .or then spine k l ++ [r] else [or l r]
  | a => [a]

def nodes : Ast → Nat
  | concat l r => l.nodes + r.nodes + 1
  | or l r => l.nodes + r.nodes + 1
  | star e => e.nodes + 1
  | plus e => e.nodes + 1
  | option e => e.nodes + 1
  | pred _ => 1

def Chain.split : Chain → Ast → Except Ast (Ast × Ast)
  | .concat, Ast.concat l r => .ok (l, r)
  | .or, Ast.or l r => .ok (l, r)
  | _, a => .error a

theorem Chain.nodes_lt_of_split {k : Chain} {a l r : Ast} (h : k.split a = .ok (l, r)) :
    l.nodes < a.nodes := by
  cases k <;> cases a <;> simp only [Chain.split, reduceCtorEq, Except.ok.injEq,
    Prod.mk.injEq] at h <;> (obtain ⟨rfl, rfl⟩ := h; simp only [nodes]; omega)

/-- The loop of `unroll`: while the current AST splits, push its right child and go on with its
left child; push the first operand that does not split. -/
def unrollLoop (k : Chain) (operands : Array Ast) (current : Ast) : Array Ast :=
  match _h : k.split current with
  | .ok (l, r) => unrollLoop k (operands.push r) l
  | .error first => operands.push first
termination_by current.nodes
decreasing_by exact Chain.nodes_lt_of_split _h

/-- The operands of the chain node of kind `k` with children `l` and `r`, in order: collected
from the right by the loop, starting from `r`, then reversed. -/
def unroll (k : Chain) (l r : Ast) : List Ast := (unrollLoop k #[r] l).reverse.toList

theorem spine_of_split_ok {k : Chain} {a l r : Ast} (h : k.split a = .ok (l, r)) :
    a.spine k = l.spine k ++ [r] := by
  cases k <;> cases a <;> simp only [Chain.split, reduceCtorEq, Except.ok.injEq,
    Prod.mk.injEq] at h <;> (obtain ⟨rfl, rfl⟩ := h; simp [spine])

theorem spine_of_split_error {k : Chain} {a first : Ast} (h : k.split a = .error first) :
    first = a ∧ a.spine k = [a] := by
  cases k <;> cases a <;> simp only [Chain.split, reduceCtorEq, Except.error.injEq] at h <;>
    (subst h; simp [spine])

/-- The invariant of the loop: the operands pushed so far, then the spine of the AST still to
take apart, right to left. -/
theorem toList_unrollLoop (k : Chain) (operands : Array Ast) (current : Ast) :
    (unrollLoop k operands current).toList = operands.toList ++ (current.spine k).reverse := by
  fun_induction unrollLoop k operands current with
  | case1 operands current l r h ih =>
    rw [ih, spine_of_split_ok h, Array.toList_push, List.reverse_append, List.append_assoc]
    rfl
  | case2 operands current first h =>
    obtain ⟨rfl, hs⟩ := spine_of_split_error h
    rw [Array.toList_push, hs, List.reverse_singleton]

theorem unroll_eq_spine_append (k : Chain) (l r : Ast) : unroll k l r = l.spine k ++ [r] := by
  rw [unroll, Array.toList_reverse, toList_unrollLoop, List.reverse_append, List.reverse_reverse]
  rfl

def nodesList : List Ast → Nat
  | [] => 0
  | a :: as => a.nodes + nodesList as

theorem nodes_pos (a : Ast) : 0 < a.nodes := by
  cases a <;> simp [nodes]

@[simp] theorem nodesList_append (as bs : List Ast) :
    nodesList (as ++ bs) = nodesList as + nodesList bs := by
  induction as with
  | nil => simp [nodesList]
  | cons a as ih => simp [nodesList, ih]; omega

theorem nodesList_spine (k : Chain) (a : Ast) : nodesList (spine k a) ≤ a.nodes := by
  induction a with
  | concat l r ihl _ =>
    cases k
    · simp only [spine, if_pos, nodesList_append, nodesList, nodes]
      omega
    · simp [spine, nodesList, nodes]
  | or l r ihl _ =>
    cases k
    · simp [spine, nodesList, nodes]
    · simp only [spine, if_pos, nodesList_append, nodesList, nodes]
      omega
  | _ => simp [spine, nodesList, nodes]

theorem nodesList_unroll (k : Chain) (l r : Ast) :
    nodesList (unroll k l r) ≤ l.nodes + r.nodes := by
  have := nodesList_spine k l
  simp [unroll_eq_spine_append, nodesList]
  omega

end Ast

mutual
def emit : Ast → Nat → List Instruction
  | .pred p, _ => [.predict p]
  | .concat l r, base =>
    have := Ast.nodesList_unroll .concat l r
    emitSeq (Ast.unroll .concat l r) base
  | .or l r, base =>
    match _h : Ast.unroll .or l r with
    | [] => []
    | first :: rest =>
      have : first.nodes + Ast.nodesList rest ≤ l.nodes + r.nodes := by
        have h := Ast.nodesList_unroll .or l r
        rw [_h] at h
        simpa [Ast.nodesList] using h
      let splits := rest.length
      let code := emit first (base + splits)
      let (starts, body) := emitAlternatives rest (base + splits + code.length)
      (starts.reverse.zipIdx.map fun (s, i) => .split (base + i + 1) s) ++ code ++ body
  | .star e, base =>
    let body := emit e (base + 1)
    .split (base + 1) (base + 2 + body.length) :: body ++ [.jump base]
  | .plus e, base =>
    let body := emit e base
    body ++ [.split base (base + body.length + 1)]
  | .option e, base =>
    let body := emit e (base + 1)
    .split (base + 1) (base + 1 + body.length) :: body
termination_by a => 2 * a.nodes
decreasing_by
  all_goals simp only [Ast.nodes]
  all_goals omega

def emitSeq : List Ast → Nat → List Instruction
  | [], _ => []
  | a :: as, base =>
    let code := emit a base
    code ++ emitSeq as (base + code.length)
termination_by as => 2 * Ast.nodesList as + 1
decreasing_by
  all_goals simp only [Ast.nodesList]
  all_goals have h := Ast.nodes_pos a
  all_goals omega

/-- The alternatives after the first, from address `pc`: each operand behind a jump to its own
end; gives the start of each operand and the code. -/
def emitAlternatives : List Ast → Nat → List Nat × List Instruction
  | [], _ => ([], [])
  | a :: as, pc =>
    let code := emit a (pc + 1)
    let after := pc + 1 + code.length
    let (starts, body) := emitAlternatives as after
    ((pc + 1) :: starts, .jump after :: code ++ body)
termination_by as => 2 * Ast.nodesList as + 1
decreasing_by
  all_goals simp only [Ast.nodesList]
  all_goals have h := Ast.nodes_pos a
  all_goals omega
end

namespace Program

def generate (a : Ast) : Program := ⟨(emit a 0 ++ [Instruction.accept]).toArray⟩

def compile (selector : String) : Except Selector.CompileError Program := do
  let t ← Selector.parse selector
  let a ← Ast.ofSyntax selector t
  pure (generate a)

end Program

end TreeSelect
