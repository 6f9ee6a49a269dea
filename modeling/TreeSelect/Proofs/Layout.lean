import TreeSelect.Program.Codegen

namespace TreeSelect

namespace Ast

/-- Thompson's construction at address `base`, one binary node at a time. An alternation is a
split to its two operands, the first closed by a jump past the second; a star is a split into
its body or past it, with a jump back to the split after the body; a plus is its body and a split
back into it or on; an option is a split into its body or past it. -/
def layout : Ast → Nat → List Instruction
  | pred p, _ => [.predict p]
  | concat l r, b => l.layout b ++ r.layout (b + (l.layout b).length)
  | or l r, b =>
    let left := l.layout (b + 1)
    let right := r.layout (b + 2 + left.length)
    .split (b + 1) (b + 2 + left.length) :: left ++
      .jump (b + 2 + left.length + right.length) :: right
  | star e, b =>
    let body := e.layout (b + 1)
    .split (b + 1) (b + 2 + body.length) :: body ++ [.jump b]
  | plus e, b =>
    let body := e.layout b
    body ++ [.split b (b + body.length + 1)]
  | option e, b =>
    let body := e.layout (b + 1)
    .split (b + 1) (b + 1 + body.length) :: body

theorem spine_ne_nil (k : Chain) (a : Ast) : a.spine k ≠ [] := by
  cases a with
  | concat l r => cases k <;> simp [spine]
  | or l r => cases k <;> simp [spine]
  | _ => simp [spine]

end Ast

theorem emitSeq_singleton (a : Ast) (b : Nat) : emitSeq [a] b = emit a b := by
  rw [emitSeq, emitSeq, List.append_nil]

theorem emitSeq_append (xs ys : List Ast) (b : Nat) :
    emitSeq (xs ++ ys) b = emitSeq xs b ++ emitSeq ys (b + (emitSeq xs b).length) := by
  induction xs generalizing b with
  | nil => simp [emitSeq]
  | cons a xs ih =>
    rw [List.cons_append, emitSeq, emitSeq, ih, List.length_append, List.append_assoc,
      Nat.add_assoc]

theorem emitSeq_spine_concat (a : Ast) (b : Nat) : emitSeq (a.spine .concat) b = emit a b := by
  cases a with
  | concat l r => rw [emit, Ast.unroll_eq_spine_append, Ast.spine, if_pos rfl]
  | _ => simp [Ast.spine, emitSeq_singleton]

theorem emit_concat (l r : Ast) (b : Nat) :
    emit (.concat l r) b = emit l b ++ emit r (b + (emit l b).length) := by
  rw [emit, Ast.unroll_eq_spine_append, emitSeq_append, emitSeq_spine_concat, emitSeq_singleton]

/-- The code of the alternation of `first :: rest` at `base`, as `emit` lays it out: one split
per later operand, then the first operand, then each later operand behind the jump that closes
the one before it. -/
def choiceCode (first : Ast) (rest : List Ast) (base : Nat) : List Instruction :=
  let code := emit first (base + rest.length)
  let alts := emitAlternatives rest (base + rest.length + code.length)
  (alts.1.reverse.zipIdx.map fun (s, i) => .split (base + i + 1) s) ++ code ++ alts.2

theorem emit_or_eq_choiceCode {l r first : Ast} {rest : List Ast}
    (h : Ast.unroll .or l r = first :: rest) (b : Nat) :
    emit (.or l r) b = choiceCode first rest b := by
  rw [emit]
  split
  · rename_i h'
    rw [h] at h'
    cases h'
  · rename_i first' rest' h'
    rw [h] at h'
    cases h'
    rfl

theorem emitAlternatives_append (xs ys : List Ast) (pc : Nat) :
    emitAlternatives (xs ++ ys) pc =
      ((emitAlternatives xs pc).1 ++
          (emitAlternatives ys (pc + (emitAlternatives xs pc).2.length)).1,
        (emitAlternatives xs pc).2 ++
          (emitAlternatives ys (pc + (emitAlternatives xs pc).2.length)).2) := by
  induction xs generalizing pc with
  | nil => simp [emitAlternatives]
  | cons a xs ih =>
    rw [List.cons_append, emitAlternatives, emitAlternatives, ih]
    simp only [List.length_cons, List.length_append, List.cons_append, List.append_assoc]
    have hpc : pc + 1 + (emit a (pc + 1)).length + (emitAlternatives xs
        (pc + 1 + (emit a (pc + 1)).length)).2.length =
        pc + ((emit a (pc + 1)).length + (emitAlternatives xs
          (pc + 1 + (emit a (pc + 1)).length)).2.length + 1) := by omega
    rw [hpc]

theorem length_emitAlternatives_fst (xs : List Ast) (pc : Nat) :
    (emitAlternatives xs pc).1.length = xs.length := by
  induction xs generalizing pc with
  | nil => simp [emitAlternatives]
  | cons a xs ih => simp [emitAlternatives, ih]

theorem emitAlternatives_singleton (a : Ast) (pc : Nat) :
    emitAlternatives [a] pc =
      ([pc + 1], .jump (pc + 1 + (emit a (pc + 1)).length) :: emit a (pc + 1)) := by
  simp [emitAlternatives]

theorem length_choiceCode (first : Ast) (rest : List Ast) (b : Nat) :
    (choiceCode first rest b).length = rest.length + (emit first (b + rest.length)).length +
      (emitAlternatives rest (b + rest.length + (emit first (b + rest.length)).length)).2.length := by
  simp [choiceCode, length_emitAlternatives_fst]
  omega

theorem choiceCode_append_singleton (first : Ast) (rest : List Ast) (r : Ast) (b : Nat) :
    choiceCode first (rest ++ [r]) b =
      .split (b + 1) (b + 2 + (choiceCode first rest (b + 1)).length) ::
        choiceCode first rest (b + 1) ++
      .jump (b + 2 + (choiceCode first rest (b + 1)).length +
        (emit r (b + 2 + (choiceCode first rest (b + 1)).length)).length) ::
        emit r (b + 2 + (choiceCode first rest (b + 1)).length) := by
  have hb : b + (rest ++ [r]).length = b + 1 + rest.length := by simp; omega
  rw [length_choiceCode]
  simp only [choiceCode, hb, emitAlternatives_append, emitAlternatives_singleton,
    List.reverse_append, List.reverse_singleton, List.singleton_append, List.zipIdx_cons,
    List.zipIdx_succ, List.map_cons, List.map_map]
  generalize emit first (b + 1 + rest.length) = code
  generalize emitAlternatives rest (b + 1 + rest.length + code.length) = alts
  have hstart : b + 1 + rest.length + code.length + alts.2.length + 1 =
      b + 2 + (rest.length + code.length + alts.2.length) := by omega
  have hsplits : ((fun x : Nat × Nat => Instruction.split (b + x.2 + 1) x.1) ∘
      fun x : Nat × Nat => (x.1, x.2 + 1)) =
      fun x : Nat × Nat => Instruction.split (b + 1 + x.2 + 1) x.1 := by
    funext x
    simp only [Function.comp_apply, Instruction.split.injEq, and_true]
    omega
  rw [hstart, hsplits]
  simp

theorem choiceCode_of_spine {a first : Ast} {rest : List Ast}
    (h : a.spine .or = first :: rest) (b : Nat) : choiceCode first rest b = emit a b := by
  cases a with
  | or l r =>
    have hu : Ast.unroll .or l r = first :: rest := by
      rw [← h, Ast.unroll_eq_spine_append, Ast.spine, if_pos rfl]
    rw [emit_or_eq_choiceCode hu]
  | _ =>
    simp only [Ast.spine, List.cons.injEq, reduceCtorEq, if_false] at h
    obtain ⟨rfl, rfl⟩ := h
    simp [choiceCode, emitAlternatives]

theorem emit_or (l r : Ast) (b : Nat) :
    emit (.or l r) b =
      .split (b + 1) (b + 2 + (emit l (b + 1)).length) :: emit l (b + 1) ++
      .jump (b + 2 + (emit l (b + 1)).length + (emit r (b + 2 + (emit l (b + 1)).length)).length) ::
        emit r (b + 2 + (emit l (b + 1)).length) := by
  obtain ⟨first, rest, h⟩ := List.exists_cons_of_ne_nil (l.spine_ne_nil .or)
  have hu : Ast.unroll .or l r = first :: (rest ++ [r]) := by
    rw [Ast.unroll_eq_spine_append, h, List.cons_append]
  rw [emit_or_eq_choiceCode hu, choiceCode_append_singleton, choiceCode_of_spine h]

theorem Ast.layout_eq_emit (a : Ast) (b : Nat) : a.layout b = emit a b := by
  induction a generalizing b with
  | pred p => rw [emit, Ast.layout]
  | concat l r ihl ihr => simp only [emit_concat, Ast.layout, ihl, ihr]
  | or l r ihl ihr => simp only [emit_or, Ast.layout, ihl, ihr]
  | star e ih => simp only [emit, Ast.layout, ih]
  | plus e ih => simp only [emit, Ast.layout, ih]
  | option e ih => simp only [emit, Ast.layout, ih]

/-- The generated code of every AST at every base address is Thompson's construction taken one
binary node at a time. -/
theorem emit_eq_layout (a : Ast) (b : Nat) : emit a b = a.layout b :=
  (a.layout_eq_emit b).symm

end TreeSelect
