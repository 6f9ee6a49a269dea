import TreeSelect.Proofs.Layout

namespace TreeSelect

namespace Instruction

/-- Move every target of a jump or a split by `k`. -/
def shiftTargets (k : Nat) : Instruction → Instruction
  | split a b => split (a + k) (b + k)
  | jump a => jump (a + k)
  | i => i

end Instruction

namespace Ast

/-- The binary node of a kind of chain. -/
def Chain.node : Chain → Ast → Ast → Ast
  | .concat => Ast.concat
  | .or => Ast.or

theorem spine_node (k : Chain) (l r : Ast) : (k.node l r).spine k = l.spine k ++ [r] := by
  cases k <;> rfl

theorem unroll_eq_spine (k : Chain) (l r : Ast) : unroll k l r = (k.node l r).spine k := by
  rw [spine_node, unroll_eq_spine_append]

theorem spine_shape_node {k : Chain} {l : Ast} (r : Ast)
    (hl : ∃ first rest, l.spine k = first :: rest ∧ (∀ x y, first ≠ k.node x y) ∧
      rest.foldl k.node first = l) :
    ∃ first rest, (k.node l r).spine k = first :: rest ∧ (∀ x y, first ≠ k.node x y) ∧
      rest.foldl k.node first = k.node l r := by
  obtain ⟨first, rest, h, hfirst, hfold⟩ := hl
  refine ⟨first, rest ++ [r], by rw [spine_node, h, List.cons_append], hfirst, ?_⟩
  rw [List.foldl_append, hfold]
  rfl

theorem spine_shape (k : Chain) (a : Ast) :
    ∃ first rest, a.spine k = first :: rest ∧ (∀ x y, first ≠ k.node x y) ∧
      rest.foldl k.node first = a := by
  induction a with
  | concat l r ihl _ =>
    cases k with
    | concat => exact spine_shape_node r ihl
    | or => exact ⟨concat l r, [], rfl, (fun x y h => by cases h), rfl⟩
  | or l r ihl _ =>
    cases k with
    | or => exact spine_shape_node r ihl
    | concat => exact ⟨or l r, [], rfl, (fun x y h => by cases h), rfl⟩
  | star e _ => exact ⟨star e, [], rfl, (fun x y h => by cases k <;> cases h), rfl⟩
  | plus e _ => exact ⟨plus e, [], rfl, (fun x y h => by cases k <;> cases h), rfl⟩
  | option e _ => exact ⟨option e, [], rfl, (fun x y h => by cases k <;> cases h), rfl⟩
  | pred q => exact ⟨pred q, [], rfl, (fun x y h => by cases k <;> cases h), rfl⟩

/-- Taking apart the chain node of kind `k` over `l` and `r` gives at least two operands, the last
of them `r` and the first not a node of kind `k`; folding them to the left with the node of kind
`k` gives the chain back. So exactly the left spine of nodes of kind `k` is taken apart. -/
theorem unroll_takes_apart_left_spine (k : Chain) (l r : Ast) :
    2 ≤ (unroll k l r).length ∧ (unroll k l r).getLast? = some r ∧
      ∃ first rest, unroll k l r = first :: rest ∧ (∀ x y, first ≠ k.node x y) ∧
        rest.foldl k.node first = k.node l r := by
  have hpos := List.length_pos_iff.mpr (l.spine_ne_nil k)
  refine ⟨by simp only [unroll_eq_spine_append, List.length_append, List.length_singleton]; omega,
    by simp [unroll_eq_spine_append], ?_⟩
  rw [unroll_eq_spine]
  exact spine_shape_node r (spine_shape k l)

/-- The size of the code of an AST: one instruction for a predicate, two around the operands of
an alternation or the body of a star, one after the body of a plus or before that of an option. -/
def codeSize : Ast → Nat
  | pred _ => 1
  | concat l r => l.codeSize + r.codeSize
  | or l r => l.codeSize + r.codeSize + 2
  | star e => e.codeSize + 2
  | plus e => e.codeSize + 1
  | option e => e.codeSize + 1

/-- The sizes of the code of a list of ASTs, added up. -/
def codeSizes : List Ast → Nat
  | [] => 0
  | a :: as => a.codeSize + codeSizes as

@[simp] theorem codeSizes_append (as bs : List Ast) :
    codeSizes (as ++ bs) = codeSizes as + codeSizes bs := by
  induction as with
  | nil => simp [codeSizes]
  | cons a as ih => simp [codeSizes, ih]; omega

theorem codeSizes_spine_or (a : Ast) :
    codeSizes (a.spine .or) + 2 * ((a.spine .or).length - 1) = a.codeSize := by
  induction a with
  | or l r ihl _ =>
    have hpos := List.length_pos_iff.mpr (l.spine_ne_nil .or)
    rw [spine, if_pos rfl, codeSizes_append, List.length_append, codeSize, ← ihl]
    simp only [codeSizes, List.length_singleton]
    omega
  | concat l r _ _ => simp [spine, codeSizes]
  | star e _ => simp [spine, codeSizes]
  | plus e _ => simp [spine, codeSizes]
  | option e _ => simp [spine, codeSizes]
  | pred q => simp [spine, codeSizes]

theorem codeSize_or_chain (l r : Ast) :
    (or l r).codeSize = codeSizes (unroll .or l r) + 2 * ((unroll .or l r).length - 1) := by
  rw [unroll_eq_spine, Chain.node, codeSizes_spine_or]

theorem length_layout (a : Ast) (b : Nat) : (a.layout b).length = a.codeSize := by
  induction a generalizing b with
  | pred q => rfl
  | concat l r ihl ihr => simp [layout, codeSize, ihl, ihr]
  | or l r ihl ihr => simp [layout, codeSize, ihl, ihr]; omega
  | star e ih => simp [layout, codeSize, ih]
  | plus e ih => simp [layout, codeSize, ih]
  | option e ih => simp [layout, codeSize, ih]

theorem layout_add (a : Ast) (b k : Nat) :
    a.layout (b + k) = (a.layout b).map (Instruction.shiftTargets k) := by
  induction a generalizing b with
  | pred q => rfl
  | concat l r ihl ihr =>
    have hr : b + k + l.codeSize = b + l.codeSize + k := by omega
    simp only [layout, length_layout]
    rw [hr, ihl, ihr, List.map_append]
  | or l r ihl ihr =>
    have hj : b + k + 2 + l.codeSize + r.codeSize = b + 2 + l.codeSize + r.codeSize + k := by
      omega
    have hr : b + k + 2 + l.codeSize = b + 2 + l.codeSize + k := by omega
    have hl : b + k + 1 = b + 1 + k := by omega
    simp only [layout, length_layout]
    rw [hj, hr, hl, ihl, ihr]
    simp only [List.map_cons, List.map_append, Instruction.shiftTargets]
  | star e ih =>
    have he : b + k + 2 + e.codeSize = b + 2 + e.codeSize + k := by omega
    have hb : b + k + 1 = b + 1 + k := by omega
    simp only [layout, length_layout]
    rw [he, hb, ih]
    simp only [List.map_cons, List.map_append, List.map_nil, Instruction.shiftTargets]
  | plus e ih =>
    have he : b + k + e.codeSize + 1 = b + e.codeSize + 1 + k := by omega
    simp only [layout, length_layout]
    rw [he, ih]
    simp only [List.map_cons, List.map_append, List.map_nil, Instruction.shiftTargets]
  | option e ih =>
    have he : b + k + 1 + e.codeSize = b + 1 + e.codeSize + k := by omega
    have hb : b + k + 1 = b + 1 + k := by omega
    simp only [layout, length_layout]
    rw [he, hb, ih]
    simp only [List.map_cons, Instruction.shiftTargets]

end Ast

/-- The code of an AST generated `k` addresses further on is the same code with every target of
a jump or a split moved by `k`. Its length is the size of the AST, whatever the address, and an
alternation chain of `n` operands has the sizes of its operands and `2 * (n - 1)` more. -/
theorem emit_relocates (a : Ast) (b k : Nat) :
    emit a (b + k) = (emit a b).map (Instruction.shiftTargets k) ∧
    (emit a b).length = a.codeSize ∧
    ∀ l r : Ast, (Ast.or l r).codeSize =
      Ast.codeSizes (Ast.unroll .or l r) + 2 * ((Ast.unroll .or l r).length - 1) := by
  rw [emit_eq_layout, emit_eq_layout]
  exact ⟨a.layout_add b k, a.length_layout b, Ast.codeSize_or_chain⟩

end TreeSelect
