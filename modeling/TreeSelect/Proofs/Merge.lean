import TreeSelect.Predicate.Basic

namespace TreeSelect.Predicate

/-- The conjuncts of a predicate: the list of a conjunction, or the predicate alone. -/
def conjuncts : Predicate → List Predicate
  | conj ps => ps
  | p => [p]

/-- The disjuncts of a predicate: the list of a disjunction, or the predicate alone. -/
def disjuncts : Predicate → List Predicate
  | disj ps => ps
  | p => [p]

variable {p q r : Predicate} {e : Element}

@[simp] theorem conjuncts_conj (ps : List Predicate) : (conj ps).conjuncts = ps := rfl

@[simp] theorem disjuncts_disj (ps : List Predicate) : (disj ps).disjuncts = ps := rfl

section Units

@[simp] theorem and_any (p : Predicate) : p.and any = p := by
  cases p <;> rfl

@[simp] theorem any_and (p : Predicate) : any.and p = p := by
  cases p <;> rfl

@[simp] theorem or_any (p : Predicate) : p.or any = any := by
  cases p <;> rfl

@[simp] theorem any_or (p : Predicate) : any.or p = any := rfl

end Units

section Lists

theorem and_eq_conj (hp : p ≠ any) (hq : q ≠ any) :
    p.and q = conj (p.conjuncts ++ q.conjuncts) := by
  cases p <;> cases q <;> simp_all [Predicate.and, conjuncts]

theorem or_eq_disj (hp : p ≠ any) (hq : q ≠ any) :
    p.or q = disj (p.disjuncts ++ q.disjuncts) := by
  cases p <;> cases q <;> simp_all [Predicate.or, disjuncts]

theorem testAll_append (xs ys : List Predicate) :
    testAll e (xs ++ ys) = (testAll e xs && testAll e ys) := by
  induction xs with
  | nil => simp [testAll]
  | cons x xs ih => simp [testAll, ih, Bool.and_assoc]

theorem testSome_append (xs ys : List Predicate) :
    testSome e (xs ++ ys) = (testSome e xs || testSome e ys) := by
  induction xs with
  | nil => simp [testSome]
  | cons x xs ih => simp [testSome, ih, Bool.or_assoc]

end Lists

@[simp] theorem test_and (p q : Predicate) : (p.and q).test e = (p.test e && q.test e) := by
  unfold Predicate.and
  split <;> simp [test, testAll, testAll_append]

@[simp] theorem test_or (p q : Predicate) : (p.or q).test e = (p.test e || q.test e) := by
  unfold Predicate.or
  split <;> simp [test, testSome, testSome_append]

section Assoc

theorem assoc_and (p q r : Predicate) : (p.and q).and r = p.and (q.and r) := by
  by_cases hp : p = any
  · simp [hp]
  by_cases hq : q = any
  · simp [hq]
  by_cases hr : r = any
  · simp [hr]
  have hpq : p.and q ≠ any := by simp [and_eq_conj hp hq]
  have hqr : q.and r ≠ any := by simp [and_eq_conj hq hr]
  rw [and_eq_conj hpq hr, and_eq_conj hp hqr, and_eq_conj hp hq, and_eq_conj hq hr]
  simp

theorem assoc_or (p q r : Predicate) : (p.or q).or r = p.or (q.or r) := by
  by_cases hp : p = any
  · simp [hp]
  by_cases hq : q = any
  · simp [hq]
  by_cases hr : r = any
  · simp [hr]
  have hpq : p.or q ≠ any := by simp [or_eq_disj hp hq]
  have hqr : q.or r ≠ any := by simp [or_eq_disj hq hr]
  rw [or_eq_disj hpq hr, or_eq_disj hp hqr, or_eq_disj hp hq, or_eq_disj hq hr]
  simp

instance : Std.Associative Predicate.and := ⟨assoc_and⟩

instance : Std.Associative Predicate.or := ⟨assoc_or⟩

theorem foldl_and_append (p q : Predicate) (ps qs : List Predicate) :
    (ps ++ q :: qs).foldl Predicate.and p = (ps.foldl Predicate.and p).and (qs.foldl Predicate.and q) := by
  rw [List.foldl_append, List.foldl_cons, List.foldl_assoc]

theorem foldl_or_append (p q : Predicate) (ps qs : List Predicate) :
    (ps ++ q :: qs).foldl Predicate.or p = (ps.foldl Predicate.or p).or (qs.foldl Predicate.or q) := by
  rw [List.foldl_append, List.foldl_cons, List.foldl_assoc]

end Assoc

/-- The laws of the two merges: each tests as the Boolean operation, for every element; `any` is
a unit of conjunction on both sides and absorbs disjunction on both sides; both merges are
associative as operations on predicates; and so a left fold splits anywhere into the merge of
the folds of its two parts, that is, it builds the same predicate under every bracketing. -/
theorem and_or_laws :
    (∀ (p q : Predicate) (e : Element), (p.and q).test e = (p.test e && q.test e)) ∧
    (∀ (p q : Predicate) (e : Element), (p.or q).test e = (p.test e || q.test e)) ∧
    (∀ p : Predicate, any.and p = p ∧ p.and any = p) ∧
    (∀ p : Predicate, any.or p = any ∧ p.or any = any) ∧
    (∀ p q r : Predicate, (p.and q).and r = p.and (q.and r)) ∧
    (∀ p q r : Predicate, (p.or q).or r = p.or (q.or r)) ∧
    (∀ (p q : Predicate) (ps qs : List Predicate),
      (ps ++ q :: qs).foldl Predicate.and p =
        (ps.foldl Predicate.and p).and (qs.foldl Predicate.and q)) ∧
    (∀ (p q : Predicate) (ps qs : List Predicate),
      (ps ++ q :: qs).foldl Predicate.or p =
        (ps.foldl Predicate.or p).or (qs.foldl Predicate.or q)) :=
  ⟨fun p q _ => test_and p q, fun p q _ => test_or p q, fun p => ⟨any_and p, and_any p⟩,
    fun p => ⟨any_or p, or_any p⟩, assoc_and, assoc_or, foldl_and_append, foldl_or_append⟩

end TreeSelect.Predicate
