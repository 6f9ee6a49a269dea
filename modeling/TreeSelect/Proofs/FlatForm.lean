import TreeSelect.Proofs.Compile
import TreeSelect.Proofs.Validation

namespace TreeSelect

namespace Predicate

/-- Whether a predicate is a conjunction. -/
def isConj : Predicate → Bool
  | conj _ => true
  | _ => false

/-- Whether a predicate is a disjunction. -/
def isDisj : Predicate → Bool
  | disj _ => true
  | _ => false

/-- A predicate without `any` whose conjunctions and disjunctions are flat lists of two members
at least, and whose negations are of attribute equalities. -/
inductive Flat : Predicate → Prop
  | tag (t : String) : Flat (.tag t)
  | id (i : String) : Flat (.id i)
  | cls (c : String) : Flat (.cls c)
  | attr (n : String) (op : AttrOp) (v : String) : Flat (.attr n op v)
  | notEquals (n v : String) : Flat (.not (.attr n .equals v))
  | conj {ps : List Predicate} : 2 ≤ ps.length → (∀ p ∈ ps, Flat p) →
      (∀ p ∈ ps, p.isConj = false) → Flat (.conj ps)
  | disj {ps : List Predicate} : 2 ≤ ps.length → (∀ p ∈ ps, Flat p) →
      (∀ p ∈ ps, p.isDisj = false) → Flat (.disj ps)

/-- The normal form of predicates: `any` alone, or a flat predicate. -/
def Normal (p : Predicate) : Prop := p = any ∨ Flat p

variable {p q : Predicate} {ps : List Predicate}

theorem Flat.ne_any (h : Flat p) : p ≠ any := by
  cases h <;> simp

theorem Flat.normal (h : Flat p) : Normal p := .inr h

theorem normal_any : Normal any := .inl rfl

theorem Flat.conjuncts_flat (h : Flat p) :
    p.conjuncts ≠ [] ∧ (∀ x ∈ p.conjuncts, Flat x) ∧ ∀ x ∈ p.conjuncts, x.isConj = false := by
  cases p with
  | conj ps =>
    cases h with
    | conj hlen hflat hkind => exact ⟨List.ne_nil_of_length_pos (show 0 < ps.length by omega), hflat, hkind⟩
  | _ => simpa [conjuncts, isConj] using h

theorem Flat.disjuncts_flat (h : Flat p) :
    p.disjuncts ≠ [] ∧ (∀ x ∈ p.disjuncts, Flat x) ∧ ∀ x ∈ p.disjuncts, x.isDisj = false := by
  cases p with
  | disj ps =>
    cases h with
    | disj hlen hflat hkind => exact ⟨List.ne_nil_of_length_pos (show 0 < ps.length by omega), hflat, hkind⟩
  | _ => simpa [disjuncts, isDisj] using h

theorem two_le_length_append {α : Type} {xs ys : List α} (hx : xs ≠ []) (hy : ys ≠ []) :
    2 ≤ (xs ++ ys).length := by
  have := List.length_pos_iff.mpr hx
  have := List.length_pos_iff.mpr hy
  rw [List.length_append]
  omega

theorem Flat.and (hp : Flat p) (hq : Flat q) : Flat (p.and q) := by
  rw [and_eq_conj hp.ne_any hq.ne_any]
  obtain ⟨hp₁, hp₂, hp₃⟩ := hp.conjuncts_flat
  obtain ⟨hq₁, hq₂, hq₃⟩ := hq.conjuncts_flat
  apply Flat.conj (two_le_length_append hp₁ hq₁)
  · intro x hx
    rcases List.mem_append.mp hx with hx | hx
    · exact hp₂ x hx
    · exact hq₂ x hx
  · intro x hx
    rcases List.mem_append.mp hx with hx | hx
    · exact hp₃ x hx
    · exact hq₃ x hx

theorem Flat.or (hp : Flat p) (hq : Flat q) : Flat (p.or q) := by
  rw [or_eq_disj hp.ne_any hq.ne_any]
  obtain ⟨hp₁, hp₂, hp₃⟩ := hp.disjuncts_flat
  obtain ⟨hq₁, hq₂, hq₃⟩ := hq.disjuncts_flat
  apply Flat.disj (two_le_length_append hp₁ hq₁)
  · intro x hx
    rcases List.mem_append.mp hx with hx | hx
    · exact hp₂ x hx
    · exact hq₂ x hx
  · intro x hx
    rcases List.mem_append.mp hx with hx | hx
    · exact hp₃ x hx
    · exact hq₃ x hx

theorem Normal.and (hp : Normal p) (hq : Normal q) : Normal (p.and q) := by
  rcases hp with rfl | hp
  · simpa using hq
  rcases hq with rfl | hq
  · simpa using hp.normal
  exact (hp.and hq).normal

theorem Normal.or (hp : Normal p) (hq : Normal q) : Normal (p.or q) := by
  rcases hp with rfl | hp
  · simpa using normal_any
  rcases hq with rfl | hq
  · simpa using normal_any
  exact (hp.or hq).normal

theorem Flat.foldl_and (hp : Flat p) (hps : ∀ q ∈ ps, Flat q) : Flat (ps.foldl Predicate.and p) :=
  List.foldlRecOn ps _ hp fun _ hb q hq => hb.and (hps q hq)

theorem Flat.foldl_or (hp : Flat p) (hps : ∀ q ∈ ps, Flat q) : Flat (ps.foldl Predicate.or p) :=
  List.foldlRecOn ps _ hp fun _ hb q hq => hb.or (hps q hq)

theorem Normal.foldl_and (hp : Normal p) (hps : ∀ q ∈ ps, Normal q) :
    Normal (ps.foldl Predicate.and p) :=
  List.foldlRecOn ps _ hp fun _ hb q hq => hb.and (hps q hq)

end Predicate

theorem Except.bind_eq_ok {ε α β : Type} {x : Except ε α} {f : α → Except ε β} {b : β}
    (h : x >>= f = .ok b) : ∃ a, x = .ok a ∧ f a = .ok b := by
  cases x with
  | error e => cases h
  | ok a => exact ⟨a, rfl, h⟩

theorem Except.map_eq_ok {ε α β : Type} {x : Except ε α} {f : α → β} {b : β}
    (h : f <$> x = .ok b) : ∃ a, x = .ok a ∧ f a = b := by
  cases x with
  | error e => cases h
  | ok a => exact ⟨a, rfl, Except.ok.inj h⟩

namespace Predicate

open Selector

variable {input : String}

theorem flat_of_ofAttrExpr :
    (∀ n p, ofAttrExpr input n = .ok p → Flat p) ∧
      (∀ ns ps, ofAttrExprs input ns = .ok ps → ∀ p ∈ ps, Flat p) := by
  refine ofAttrExpr.mutual_induct (fun n => ∀ p, ofAttrExpr input n = .ok p → Flat p)
    (fun ns => ∀ ps, ofAttrExprs input ns = .ok ps → ∀ p ∈ ps, Flat p)
    ?disj ?conj ?group ?comparison ?other ?nil ?cons
  case disj =>
    intro s l subs ih p h
    obtain ⟨ps, hps, h⟩ := Except.bind_eq_ok h
    have hall := ih ps hps
    cases ps with
    | nil => cases h
    | cons q qs =>
      cases h
      exact Flat.foldl_or (hall q List.mem_cons_self) fun r hr => hall r (List.mem_cons_of_mem _ hr)
  case conj =>
    intro s l subs ih p h
    obtain ⟨ps, hps, h⟩ := Except.bind_eq_ok h
    have hall := ih ps hps
    cases ps with
    | nil => cases h
    | cons q qs =>
      cases h
      exact Flat.foldl_and (hall q List.mem_cons_self) fun r hr => hall r (List.mem_cons_of_mem _ hr)
  case group =>
    intro s l inner ih p h
    exact ih p h
  case comparison =>
    intro s l name op v p h
    obtain ⟨lit, -, h⟩ := Except.bind_eq_ok h
    split at h
    all_goals cases h
    · exact .attr _ _ _
    · exact .notEquals _ _
    · exact .attr _ _ _
  case other =>
    intro r s l subs h₁ h₂ h₃ h₄ p h
    rw [ofAttrExpr.eq_def] at h
    split at h <;> simp_all
  case nil =>
    intro ps h p hp
    cases h
    cases hp
  case cons =>
    intro n ns ihn ihns ps h p hp
    obtain ⟨q, hq, h⟩ := Except.bind_eq_ok h
    obtain ⟨qs, hqs, h⟩ := Except.bind_eq_ok h
    cases h
    rcases List.mem_cons.mp hp with rfl | hp
    · exact ihn p hq
    · exact ihns qs hqs p hp

theorem normal_of_ofSyntax :
    (∀ n p, ofSyntax input n = .ok p → Normal p) ∧
      (∀ ns ps, ofSyntaxAll input ns = .ok ps → ∀ p ∈ ps, Normal p) := by
  refine ofSyntax.mutual_induct (fun n => ∀ p, ofSyntax input n = .ok p → Normal p)
    (fun ns => ∀ ps, ofSyntaxAll input ns = .ok ps → ∀ p ∈ ps, Normal p)
    ?withAttr ?basics ?tag ?ident ?id ?cls ?emptyBlock ?block ?other ?nil ?cons
  case withAttr | basics =>
    intro s l subs ih p h
    obtain ⟨ps, hps, rfl⟩ := Except.map_eq_ok h
    exact Normal.foldl_and normal_any (ih ps hps)
  case tag | ident =>
    intro s l subs p h
    cases h
    exact (Flat.tag _).normal
  case id =>
    intro s l subs p h
    obtain ⟨i, -, rfl⟩ := Except.map_eq_ok h
    exact (Flat.id i).normal
  case cls =>
    intro s l subs p h
    obtain ⟨c, -, rfl⟩ := Except.map_eq_ok h
    exact (Flat.cls c).normal
  case emptyBlock =>
    intro s l p h
    cases h
    exact normal_any
  case block =>
    intro s l e p h
    exact (flat_of_ofAttrExpr.1 e p h).normal
  case other =>
    intro r s l subs h₁ h₂ h₃ h₄ h₅ h₆ h₇ h₈ p h
    rw [ofSyntax.eq_def] at h
    split at h <;> simp_all
  case nil =>
    intro ps h p hp
    cases h
    cases hp
  case cons =>
    intro n ns ihn ihns ps h p hp
    obtain ⟨q, hq, h⟩ := Except.bind_eq_ok h
    obtain ⟨qs, hqs, h⟩ := Except.bind_eq_ok h
    cases h
    rcases List.mem_cons.mp hp with rfl | hp
    · exact ihn p hq
    · exact ihns qs hqs p hp

end Predicate

namespace Ast

/-- Every predicate at a leaf of the AST satisfies `P`. -/
def AllPreds (P : Predicate → Prop) : Ast → Prop
  | concat l r => l.AllPreds P ∧ r.AllPreds P
  | or l r => l.AllPreds P ∧ r.AllPreds P
  | star e => e.AllPreds P
  | plus e => e.AllPreds P
  | option e => e.AllPreds P
  | pred p => P p

variable {P : Predicate → Prop}

theorem predict_of_mem_layout {a : Ast} (ha : a.AllPreds P) (b : Nat) {q : Predicate}
    (hq : Instruction.predict q ∈ a.layout b) : P q := by
  induction a generalizing b with
  | pred p =>
    simp only [layout, List.mem_singleton, Instruction.predict.injEq] at hq
    rw [hq]
    exact ha
  | concat l r ihl ihr =>
    rcases List.mem_append.mp hq with hq | hq
    · exact ihl ha.1 _ hq
    · exact ihr ha.2 _ hq
  | or l r ihl ihr =>
    simp only [layout, List.mem_cons, List.mem_append, reduceCtorEq, false_or] at hq
    rcases hq with hq | hq
    · exact ihl ha.1 _ hq
    · exact ihr ha.2 _ hq
  | star e ih =>
    simp only [layout, List.mem_cons, List.mem_append, List.not_mem_nil, reduceCtorEq,
      false_or, or_false] at hq
    exact ih ha _ hq
  | plus e ih =>
    simp only [layout, List.mem_append, List.mem_singleton, reduceCtorEq, or_false] at hq
    exact ih ha _ hq
  | option e ih =>
    simp only [layout, List.mem_cons, reduceCtorEq, false_or] at hq
    exact ih ha _ hq

theorem allPreds_foldOperands {r : Selector.Rule} {f : Ast → Ast → Ast} {as : List Ast} {a : Ast}
    (h : foldOperands r f as = .ok a) (has : ∀ x ∈ as, x.AllPreds P)
    (hf : ∀ x y, x.AllPreds P → y.AllPreds P → (f x y).AllPreds P) : a.AllPreds P := by
  cases as with
  | nil => cases h
  | cons x xs =>
    cases h
    exact List.foldlRecOn xs f (has x List.mem_cons_self) fun _ hb y hy =>
      hf _ y hb (has y (List.mem_cons_of_mem x hy))

open Selector

variable {input : String}

theorem normal_of_ofSyntax :
    (∀ t a, ofSyntax input t = .ok a → a.AllPreds Predicate.Normal) ∧
      (∀ ts as, ofSyntaxAll input ts = .ok as → ∀ a ∈ as, a.AllPreds Predicate.Normal) := by
  refine ofSyntax.mutual_induct (fun t => ∀ a, ofSyntax input t = .ok a → a.AllPreds Predicate.Normal)
    (fun ts => ∀ as, ofSyntaxAll input ts = .ok as → ∀ a ∈ as, a.AllPreds Predicate.Normal)
    ?concat ?or ?quantified ?group ?predict ?other ?nil ?cons
  case concat | or =>
    intro s l subs ih a h
    obtain ⟨as, has, h⟩ := Except.bind_eq_ok h
    exact allPreds_foldOperands h (ih as has) fun _ _ hx hy => ⟨hx, hy⟩
  case quantified =>
    intro s l operand marker ih a h
    obtain ⟨e, he, h⟩ := Except.bind_eq_ok h
    split at h
    all_goals cases h
    all_goals exact ih e he
  case group =>
    intro s l inner ih a h
    exact ih a h
  case predict =>
    intro r s l subs _ _ _ _ hr a h
    rw [ofSyntax_of_isPredictRule hr] at h
    obtain ⟨p, hp, rfl⟩ := Except.map_eq_ok h
    exact Predicate.normal_of_ofSyntax.1 _ p hp
  case other =>
    intro r s l subs h₁ h₂ h₃ h₄ hr a h
    rw [ofSyntax.eq_def] at h
    split at h <;> simp_all
  case nil =>
    intro as h a ha
    cases h
    cases ha
  case cons =>
    intro t ts iht ihts as h a ha
    obtain ⟨x, hx, h⟩ := Except.bind_eq_ok h
    obtain ⟨xs, hxs, h⟩ := Except.bind_eq_ok h
    cases h
    rcases List.mem_cons.mp ha with rfl | ha
    · exact iht a hx
    · exact ihts xs hxs a ha

end Ast

namespace Program

theorem predicts_of_compile {s : String} {prog : Program} (h : compile s = .ok prog) {q : Predicate}
    (hq : Instruction.predict q ∈ prog.code.toList) : q.Normal := by
  obtain ⟨t, -, h⟩ := Except.bind_eq_ok h
  obtain ⟨a, ha, h⟩ := Except.bind_eq_ok h
  cases h
  rw [code_generate, ← Ast.layout_eq_emit] at hq
  rcases List.mem_append.mp hq with hq | hq
  · exact Ast.predict_of_mem_layout (Ast.normal_of_ofSyntax.1 t a ha) 0 hq
  · simp at hq

/-- Every predicate in the program of any selector is in flat normal form, and conjunction and
disjunction keep that form. -/
theorem compiled_predicates_normal :
    (∀ (s : String) (prog : Program), compile s = .ok prog →
      ∀ q, Instruction.predict q ∈ prog.code.toList → q.Normal) ∧
    (∀ p q : Predicate, p.Normal → q.Normal → (p.and q).Normal ∧ (p.or q).Normal) :=
  ⟨fun _ _ h _ hq => predicts_of_compile h hq, fun _ _ hp hq => ⟨hp.and hq, hp.or hq⟩⟩

end Program

namespace Program

set_option maxRecDepth 4000 in
theorem attribute_selector_predicates_normal :
    ∃ prog, compile "div.a[] [x=1 && (y!=2 || z~=3)]* | #b" = .ok prog ∧
      ∀ q, Instruction.predict q ∈ prog.code.toList → q.Normal := by
  obtain ⟨prog, h⟩ : ∃ prog, compile "div.a[] [x=1 && (y!=2 || z~=3)]* | #b" = .ok prog :=
    ⟨_, by cbv⟩
  exact ⟨prog, h, compiled_predicates_normal.1 _ prog h⟩

end Program

end TreeSelect
