import TreeSelect.Proofs.Compile

namespace TreeSelect.Selector.SyntaxNode

/-- `u` is a node of the tree `t`: `t` itself or a node of one of its children. -/
inductive NodeOf (u : SyntaxNode) : SyntaxNode → Prop
  | root : NodeOf u u
  | child {t c : SyntaxNode} : c ∈ t.subs → NodeOf u c → NodeOf u t

theorem NodeOf.trans {u v t : SyntaxNode} (huv : NodeOf u v) (hvt : NodeOf v t) : NodeOf u t := by
  induction hvt with
  | root => exact huv
  | child hc _ ih => exact .child hc ih

theorem subs_induction {motive : SyntaxNode → Prop}
    (step : ∀ t, (∀ c ∈ t.subs, motive c) → motive t) : ∀ t, motive t
  | ⟨r, s, l, subs⟩ => step _ fun c hc =>
    have : sizeOf c < sizeOf (⟨r, s, l, subs⟩ : SyntaxNode) :=
      Nat.lt_of_lt_of_le (List.sizeOf_lt_of_mem hc) (by simp)
    subs_induction step c
termination_by t => sizeOf t

/-- The last node of the chain of lone children that span the same bytes, from a node down. -/
def unwrap : SyntaxNode → SyntaxNode
  | ⟨r, s, l, [c]⟩ => if c.start = s ∧ c.len = l then unwrap c else ⟨r, s, l, [c]⟩
  | t => t

theorem unwrap_of_isWrapper_false {t : SyntaxNode} (h : t.isWrapper = false) : t.unwrap = t := by
  obtain ⟨r, s, l, subs⟩ := t
  rcases subs with _ | ⟨c, _ | ⟨d, cs⟩⟩
  · rfl
  · have hne : ¬(c.start = s ∧ c.len = l) := by simpa [isWrapper] using h
    rw [unwrap, if_neg hne]
  · rfl

theorem unwrap_spec (t : SyntaxNode) : t.unwrap.isWrapper = false ∧ NodeOf t.unwrap t := by
  fun_induction unwrap t with
  | case1 r s l c h ih => exact ⟨ih.1, .child List.mem_cons_self ih.2⟩
  | case2 r s l c h => exact ⟨by simpa [isWrapper] using h, .root⟩
  | case3 t ht =>
    refine ⟨?_, .root⟩
    obtain ⟨r, s, l, subs⟩ := t
    rcases subs with _ | ⟨c, _ | ⟨d, cs⟩⟩
    · rfl
    · exact absurd rfl (ht r s l c)
    · rfl

theorem simplify_eq_unwrap (t : SyntaxNode) :
    t.simplify = ⟨t.unwrap.rule, t.unwrap.start, t.unwrap.len, t.unwrap.subs.map simplify⟩ := by
  fun_induction unwrap t with
  | case1 r s l c h ih => rw [simplify_wrap h.1 h.2, ih]
  | case2 r s l c h => rw [simplify, if_neg h, List.map_singleton]
  | case3 t ht =>
    obtain ⟨r, s, l, subs⟩ := t
    rw [simplify.eq_2 _ _ _ _ (fun c hc => ht r s l c (by rw [hc])), simplifyAll_eq_map]

theorem isWrapper_simplify (t : SyntaxNode) : t.simplify.isWrapper = false := by
  obtain ⟨hw, -⟩ := unwrap_spec t
  rw [simplify_eq_unwrap]
  generalize t.unwrap = w at hw
  obtain ⟨r, s, l, subs⟩ := w
  rcases subs with _ | ⟨c, _ | ⟨d, cs⟩⟩
  · rfl
  · have hne : ¬(c.start = s ∧ c.len = l) := by simpa [isWrapper] using hw
    simpa [isWrapper, (span_simplify c).1, (span_simplify c).2] using hne
  · rfl

theorem nodeOf_simplify {u t : SyntaxNode} (h : NodeOf u t.simplify) :
    ∃ v, NodeOf v t ∧ u = v.simplify := by
  generalize hT : t.simplify = T at h
  induction h generalizing t with
  | root => exact ⟨t, .root, hT.symm⟩
  | @child T c hc _ ih =>
    rw [← hT, simplify_eq_unwrap] at hc
    obtain ⟨c', hc', rfl⟩ := List.mem_map.mp hc
    obtain ⟨v, hv, rfl⟩ := ih rfl
    exact ⟨v, (NodeOf.child hc' hv).trans (unwrap_spec t).2, rfl⟩

theorem simplify_of_no_wrapper (t : SyntaxNode) (h : ∀ u, NodeOf u t → u.isWrapper = false) :
    t.simplify = t := by
  induction t using subs_induction with
  | step t ih =>
    have hsubs : t.subs.map simplify = t.subs := by
      rw [List.map_congr_left fun c hc => ih c hc fun u hu => h u (.child hc hu), List.map_id']
    rw [simplify_eq_unwrap, unwrap_of_isWrapper_false (h t .root), hsubs]
    cases t
    rfl

/-- Simplification leaves no node with one child that spans the same bytes; a second
simplification changes nothing; the root keeps the span of the tree; and every node of the
result is the last node of a chain of same-span lone children of the tree, with its rule and span,
over its children simplified. -/
theorem simplify_collapses_wrappers (t : SyntaxNode) :
    (∀ u, NodeOf u t.simplify → u.isWrapper = false) ∧
    t.simplify.simplify = t.simplify ∧
    (t.simplify.start = t.start ∧ t.simplify.len = t.len) ∧
    ∀ u, NodeOf u t.simplify → ∃ v, NodeOf v t ∧ NodeOf v.unwrap t ∧
      u = ⟨v.unwrap.rule, v.unwrap.start, v.unwrap.len, v.unwrap.subs.map simplify⟩ := by
  have hnone : ∀ u, NodeOf u t.simplify → u.isWrapper = false := by
    intro u hu
    obtain ⟨v, -, rfl⟩ := nodeOf_simplify hu
    exact isWrapper_simplify v
  refine ⟨hnone, simplify_of_no_wrapper _ hnone, span_simplify t, fun u hu => ?_⟩
  obtain ⟨v, hv, rfl⟩ := nodeOf_simplify hu
  exact ⟨v, hv, (unwrap_spec v).2.trans hv, simplify_eq_unwrap v⟩

end TreeSelect.Selector.SyntaxNode
