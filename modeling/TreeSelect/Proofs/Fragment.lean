import TreeSelect.Proofs.Runs

namespace TreeSelect

open Relation

/-- The instructions of `code` placed from address `base` on, and no instruction elsewhere. -/
def placed (code : List Instruction) (base pc : Nat) : Option Instruction :=
  if base ≤ pc then code[pc - base]? else none

section Placed

variable {code pre mid post : List Instruction} {base pc : Nat}

theorem placed_eq_none_of_lt (h : pc < base) : placed code base pc = none := by
  simp [placed, Nat.not_le.mpr h]

theorem placed_eq_none_of_le (h : base + code.length ≤ pc) : placed code base pc = none := by
  have hb : base ≤ pc := by omega
  simp only [placed, hb, if_true]
  exact List.getElem?_eq_none (by omega)

theorem placed_append_left {c₁ c₂ : List Instruction} (h : pc < base + c₁.length) :
    placed (c₁ ++ c₂) base pc = placed c₁ base pc := by
  unfold placed
  split
  · rw [List.getElem?_append_left (by omega)]
  · rfl

theorem placed_append_right {c₁ c₂ : List Instruction} (h : base + c₁.length ≤ pc) :
    placed (c₁ ++ c₂) base pc = placed c₂ (base + c₁.length) pc := by
  have h1 : base ≤ pc := by omega
  simp only [placed, h1, h, if_true]
  rw [List.getElem?_append_right (by omega)]
  congr 1
  omega

theorem placed_append_left_of_eq_some {c₁ c₂ : List Instruction} {i : Instruction}
    (h : placed c₁ base pc = some i) : placed (c₁ ++ c₂) base pc = some i := by
  by_cases hpc : pc < base + c₁.length
  · rw [placed_append_left hpc, h]
  · rw [placed_eq_none_of_le (by omega)] at h
    cases h

theorem placed_append_right_of_eq_some {c₁ c₂ : List Instruction} {i : Instruction}
    (h : placed c₂ (base + c₁.length) pc = some i) : placed (c₁ ++ c₂) base pc = some i := by
  by_cases hpc : base + c₁.length ≤ pc
  · rw [placed_append_right hpc, h]
  · rw [placed_eq_none_of_lt (by omega)] at h
    cases h

theorem placed_cons_self (i : Instruction) : placed (i :: code) base base = some i := by
  simp [placed]

theorem placed_cons_of_lt {i : Instruction} (h : base < pc) :
    placed (i :: code) base pc = placed code (base + 1) pc := by
  have h' : base + [i].length ≤ pc := by simpa using Nat.succ_le_of_lt h
  exact placed_append_right h'

theorem placed_cons_of_eq_some {i j : Instruction} (h : placed code (base + 1) pc = some j) :
    placed (i :: code) base pc = some j := by
  have h' : placed code (base + [i].length) pc = some j := by simpa using h
  exact placed_append_right_of_eq_some h'

theorem mem_of_placed_eq_some {i : Instruction} (h : placed code base pc = some i) : i ∈ code := by
  unfold placed at h
  split at h
  · exact List.mem_of_getElem? h
  · cases h

end Placed

section Moves

variable {f g : Nat → Option Instruction}

theorem Eps.mono (hfg : ∀ pc i, f pc = some i → g pc = some i) {pc q : Nat} (h : Eps f pc q) :
    Eps g pc q := by
  cases h with
  | jump h => exact .jump (hfg _ _ h)
  | splitLeft h => exact .splitLeft (hfg _ _ h)
  | splitRight h => exact .splitRight (hfg _ _ h)

theorem Reads.mono (hfg : ∀ pc i, f pc = some i → g pc = some i) {e : Element} {pc q : Nat}
    (h : Reads f e pc q) : Reads g e pc q := by
  obtain ⟨r, hr, htest, rfl⟩ := h
  exact ⟨r, hfg _ _ hr, htest, rfl⟩

theorem moves_mono (hfg : ∀ pc i, f pc = some i → g pc = some i) {s t : Nat × List Element}
    (h : ReflTransGen (Move f) s t) : ReflTransGen (Move g) s t := by
  induction h with
  | refl => exact .refl
  | tail _ hstep ih =>
    cases hstep with
    | eps h => exact ih.tail (.eps (h.mono hfg))
    | read h => exact ih.tail (.read (h.mono hfg))

theorem Move.of_fetch_eq {s t : Nat × List Element} (hfg : f s.1 = g s.1) (h : Move f s t) :
    Move g s t := by
  cases h with
  | eps h =>
    refine .eps ?_
    cases h with
    | jump h => exact .jump (hfg ▸ h)
    | splitLeft h => exact .splitLeft (hfg ▸ h)
    | splitRight h => exact .splitRight (hfg ▸ h)
  | read h =>
    obtain ⟨r, hr, htest, rfl⟩ := h
    exact .read ⟨r, hfg ▸ hr, htest, rfl⟩

theorem Move.fetch_ne_accept {s t : Nat × List Element} (h : Move f s t) :
    f s.1 ≠ some .accept := by
  rcases h with h | ⟨r, hr, -, -⟩
  · rcases h with h | h | h <;> simp [h]
  · simp [hr]

theorem eq_of_moves_of_halted {s : Nat} {x : List Element} {t : Nat × List Element}
    (hs : f s = none ∨ f s = some .accept) (h : ReflTransGen (Move f) (s, x) t) : t = (s, x) := by
  rcases h.cases_head with he | ⟨u, hstep, -⟩
  · exact he.symm
  · rcases hs with hs | hs
    · have := hstep.fetch_isSome
      simp [hs] at this
    · exact absurd hs hstep.fetch_ne_accept

theorem Move.eq_of_fetch_jump {q a : Nat} {w : List Element} {t : Nat × List Element}
    (hq : f q = some (.jump a)) (h : Move f (q, w) t) : t = (a, w) := by
  rcases h with h | ⟨r, hr, -, -⟩
  · rcases h with h | h | h <;> simp_all
  · simp_all

theorem Move.eq_of_fetch_split {q a c : Nat} {w : List Element} {t : Nat × List Element}
    (hq : f q = some (.split a c)) (h : Move f (q, w) t) : t = (a, w) ∨ t = (c, w) := by
  rcases h with h | ⟨r, hr, -, -⟩
  · rcases h with h | h | h <;> simp_all
  · simp_all

theorem Move.of_fetch_predict {q : Nat} {r : Predicate} {w : List Element}
    {t : Nat × List Element} (hq : f q = some (.predict r)) (h : Move f (q, w) t) :
    ∃ e w', w = e :: w' ∧ r.test e = true ∧ t = (q + 1, w') := by
  rcases h with h | ⟨r', hr, htest, rfl⟩
  · rcases h with h | h | h <;> simp_all
  · rw [hq, Option.some.injEq, Instruction.predict.injEq] at hr
    subst hr
    exact ⟨_, _, rfl, htest, rfl⟩

/-- Every move from an address in `[lo, hi)` lands in `[lo, hi]`. -/
def Closed (f : Nat → Option Instruction) (lo hi : Nat) : Prop :=
  ∀ s t, Move f s t → lo ≤ s.1 → s.1 < hi → lo ≤ t.1 ∧ t.1 ≤ hi

theorem exit_through {lo hi s t : Nat} {x y : List Element}
    (hagree : ∀ pc, lo ≤ pc → pc < hi → g pc = f pc) (hclosed : Closed f lo hi)
    (hs : lo ≤ s ∧ s ≤ hi) (ht : ¬(lo ≤ t ∧ t < hi))
    (h : ReflTransGen (Move g) (s, x) (t, y)) :
    ∃ z, ReflTransGen (Move f) (s, x) (hi, z) ∧ ReflTransGen (Move g) (hi, z) (t, y) := by
  generalize hsx : (s, x) = u at h
  induction h using ReflTransGen.head_induction_on generalizing s x with
  | refl =>
    obtain ⟨hst, hxy⟩ := Prod.mk.inj hsx
    subst hst hxy
    have hhi : s = hi := by omega
    subst hhi
    exact ⟨x, .refl, .refl⟩
  | @head u u' hstep hrest ih =>
    subst hsx
    by_cases hhi : s = hi
    · subst hhi
      exact ⟨x, .refl, .head hstep hrest⟩
    · have hlt : s < hi := by omega
      have hf : Move f (s, x) u' := hstep.of_fetch_eq (hagree s hs.1 hlt)
      obtain ⟨hlo', hhi'⟩ := hclosed _ _ hf hs.1 hlt
      obtain ⟨z, hz, hrest'⟩ := ih ⟨hlo', hhi'⟩ rfl
      exact ⟨z, .head hf hz, hrest'⟩

end Moves

end TreeSelect
