import Mathlib.Computability.Language
import TreeSelect.Proofs.Fragment
import TreeSelect.Proofs.Layout
import TreeSelect.Proofs.Simulation

namespace TreeSelect

open Relation Computability

namespace Ast

/-- The paths an AST matches. A predicate matches the one-node paths whose node passes it; a
concatenation matches a path whose upper part the first operand matches and whose rest, directly
below, the second matches; alternation is union; the repetitions are the Kleene star, one or
more, and zero or one. -/
def lang : Ast → Language Element
  | pred p => ({w | ∃ e, w = [e] ∧ p.test e = true} : Set (List Element))
  | concat l r => l.lang * r.lang
  | or l r => l.lang + r.lang
  | star e => e.lang∗
  | plus e => e.lang * e.lang∗
  | option e => 1 + e.lang

end Ast

/-- The runs of `code` placed at `base`, from its first address to its end, read exactly the
paths of `L`: a run that reads `x` leaves `y` exactly when `x` is a path of `L` followed by `y`. -/
def Recognizes (code : List Instruction) (base : Nat) (L : Language Element) : Prop :=
  ∀ x y, ReflTransGen (Move (placed code base)) (base, x) (base + code.length, y) ↔
    ∃ v ∈ L, x = v ++ y

section Shapes

variable {c c₁ c₂ : List Instruction} {b : Nat} {L L₁ L₂ : Language Element}

theorem eq_of_moves_from_end {x y : List Element} {pc : Nat}
    (hpc : b + c.length ≤ pc) (h : ReflTransGen (Move (placed c b)) (pc, x) (pc, y)) : x = y := by
  have := eq_of_moves_of_halted (.inl (placed_eq_none_of_le hpc)) h
  exact (Prod.mk.inj this).2.symm

theorem recognizes_predict (q : Predicate) (b : Nat) :
    Recognizes [.predict q] b ({w | ∃ e, w = [e] ∧ q.test e = true} : Set (List Element)) := by
  intro x y
  constructor
  · intro h
    rcases h.cases_head with he | ⟨t, hstep, hrest⟩
    · simp at he
    · obtain ⟨e, x', rfl, htest, rfl⟩ := hstep.of_fetch_predict (placed_cons_self _)
      have hx' : x' = y := eq_of_moves_from_end (by simp) hrest
      subst hx'
      exact ⟨[e], ⟨e, rfl, htest⟩, rfl⟩
  · rintro ⟨v, ⟨e, rfl, htest⟩, rfl⟩
    exact .single (.read ⟨q, placed_cons_self _, htest, rfl⟩)

theorem recognizes_append (h₁ : Recognizes c₁ b L₁)
    (hc₁ : Closed (placed c₁ b) b (b + c₁.length))
    (h₂ : Recognizes c₂ (b + c₁.length) L₂)
    (hc₂ : Closed (placed c₂ (b + c₁.length)) (b + c₁.length) (b + c₁.length + c₂.length)) :
    Recognizes (c₁ ++ c₂) b (L₁ * L₂) := by
  intro x y
  have hend : b + (c₁ ++ c₂).length = b + c₁.length + c₂.length := by simp; omega
  rw [hend]
  constructor
  · intro h
    obtain ⟨z, hz, hrest⟩ := exit_through (fun _ _ hpc => placed_append_left hpc) hc₁
      ⟨le_refl b, by omega⟩ (by omega) h
    obtain ⟨z', hz', hlast⟩ := exit_through (fun _ hpc _ => placed_append_right hpc) hc₂
      ⟨le_refl _, by omega⟩ (by omega) hrest
    have hz'y : z' = y := eq_of_moves_from_end (by simp; omega) hlast
    subst hz'y
    obtain ⟨v₁, hv₁, rfl⟩ := (h₁ x z).mp hz
    obtain ⟨v₂, hv₂, rfl⟩ := (h₂ z z').mp hz'
    exact ⟨v₁ ++ v₂, Language.append_mem_mul hv₁ hv₂, by rw [List.append_assoc]⟩
  · rintro ⟨v, hv, rfl⟩
    obtain ⟨v₁, hv₁, v₂, hv₂, rfl⟩ := Language.mem_mul.mp hv
    have r₁ := (h₁ (v₁ ++ v₂ ++ y) (v₂ ++ y)).mpr ⟨v₁, hv₁, by rw [List.append_assoc]⟩
    have r₂ := (h₂ (v₂ ++ y) y).mpr ⟨v₂, hv₂, rfl⟩
    exact (moves_mono (fun _ _ => placed_append_left_of_eq_some) r₁).trans
      (moves_mono (fun _ _ => placed_append_right_of_eq_some) r₂)

theorem placed_choice_left {s t j pc : Nat} (hlo : b + 1 ≤ pc) (hhi : pc < b + 1 + c₁.length) :
    placed (.split s t :: c₁ ++ .jump j :: c₂) b pc = placed c₁ (b + 1) pc := by
  rw [List.cons_append, placed_cons_of_lt (by omega), placed_append_left hhi]

theorem placed_choice_jump {s t j : Nat} :
    placed (.split s t :: c₁ ++ .jump j :: c₂) b (b + 1 + c₁.length) = some (.jump j) := by
  rw [List.cons_append, placed_cons_of_lt (by omega), placed_append_right (le_refl _),
    placed_cons_self]

theorem placed_choice_right {s t j pc : Nat} (hlo : b + 2 + c₁.length ≤ pc) :
    placed (.split s t :: c₁ ++ .jump j :: c₂) b pc = placed c₂ (b + 2 + c₁.length) pc := by
  rw [List.cons_append, placed_cons_of_lt (by omega), placed_append_right (by omega),
    placed_cons_of_lt (by omega)]
  congr 1
  omega

theorem placed_choice_of_left {s t j pc : Nat} {i : Instruction}
    (h : placed c₁ (b + 1) pc = some i) :
    placed (.split s t :: c₁ ++ .jump j :: c₂) b pc = some i := by
  rw [List.cons_append]
  exact placed_cons_of_eq_some (placed_append_left_of_eq_some h)

theorem placed_choice_of_right {s t j pc : Nat} {i : Instruction}
    (h : placed c₂ (b + 2 + c₁.length) pc = some i) :
    placed (.split s t :: c₁ ++ .jump j :: c₂) b pc = some i := by
  have h' : placed c₂ (b + 1 + c₁.length + 1) pc = some i := by
    rw [show b + 1 + c₁.length + 1 = b + 2 + c₁.length by omega]
    exact h
  rw [List.cons_append]
  exact placed_cons_of_eq_some (placed_append_right_of_eq_some (placed_cons_of_eq_some h'))

theorem recognizes_choice (h₁ : Recognizes c₁ (b + 1) L₁)
    (hc₁ : Closed (placed c₁ (b + 1)) (b + 1) (b + 1 + c₁.length))
    (h₂ : Recognizes c₂ (b + 2 + c₁.length) L₂)
    (hc₂ : Closed (placed c₂ (b + 2 + c₁.length)) (b + 2 + c₁.length)
      (b + 2 + c₁.length + c₂.length)) :
    Recognizes (.split (b + 1) (b + 2 + c₁.length) :: c₁ ++
      .jump (b + 2 + c₁.length + c₂.length) :: c₂) b (L₁ + L₂) := by
  intro x y
  have hend : b + (.split (b + 1) (b + 2 + c₁.length) :: c₁ ++
      .jump (b + 2 + c₁.length + c₂.length) :: c₂).length = b + 2 + c₁.length + c₂.length := by
    simp; omega
  rw [hend]
  constructor
  · intro h
    rcases h.cases_head with he | ⟨t, hstep, hrest⟩
    · have := (Prod.mk.inj he).1
      omega
    · rcases hstep.eq_of_fetch_split (placed_cons_self _) with rfl | rfl
      · obtain ⟨z, hz, hjump⟩ := exit_through (fun _ hlo hhi => placed_choice_left hlo hhi) hc₁
          ⟨le_refl _, by omega⟩ (by omega) hrest
        rcases hjump.cases_head with he | ⟨t', hstep', hlast⟩
        · have := (Prod.mk.inj he).1
          omega
        · rw [hstep'.eq_of_fetch_jump placed_choice_jump] at hlast
          have hzy : z = y := eq_of_moves_from_end (by simp; omega) hlast
          subst hzy
          obtain ⟨v, hv, rfl⟩ := (h₁ x z).mp hz
          exact ⟨v, (Language.mem_add _ _ _).mpr (.inl hv), rfl⟩
      · obtain ⟨z, hz, hlast⟩ := exit_through (fun _ hlo _ => placed_choice_right hlo) hc₂
          ⟨le_refl _, by omega⟩ (by omega) hrest
        have hzy : z = y := eq_of_moves_from_end (by simp; omega) hlast
        subst hzy
        obtain ⟨v, hv, rfl⟩ := (h₂ x z).mp hz
        exact ⟨v, (Language.mem_add _ _ _).mpr (.inr hv), rfl⟩
  · rintro ⟨v, hv, rfl⟩
    rcases (Language.mem_add _ _ _).mp hv with hv | hv
    · have r := (h₁ (v ++ y) y).mpr ⟨v, hv, rfl⟩
      refine .head (.eps (.splitLeft (placed_cons_self _))) ?_
      refine (moves_mono (fun _ _ => placed_choice_of_left) r).tail ?_
      exact .eps (.jump placed_choice_jump)
    · have r := (h₂ (v ++ y) y).mpr ⟨v, hv, rfl⟩
      exact .head (.eps (.splitRight (placed_cons_self _)))
        (moves_mono (fun _ _ => placed_choice_of_right) r)

theorem append_mem_kstar {v v' : List Element} (hv : v ∈ L∗) (hv' : v' ∈ L) : v ++ v' ∈ L∗ := by
  rw [← Language.one_add_kstar_mul_self_eq_kstar]
  exact (Language.mem_add _ _ _).mpr (.inr (Language.append_mem_mul hv hv'))

theorem placed_loop_split {s t j : Nat} :
    placed (.split s t :: c ++ [.jump j]) b b = some (.split s t) := by
  rw [List.cons_append, placed_cons_self]

theorem placed_loop_body {s t j pc : Nat} (hlo : b + 1 ≤ pc) (hhi : pc < b + 1 + c.length) :
    placed (.split s t :: c ++ [.jump j]) b pc = placed c (b + 1) pc := by
  rw [List.cons_append, placed_cons_of_lt (by omega), placed_append_left hhi]

theorem placed_loop_jump {s t j : Nat} :
    placed (.split s t :: c ++ [.jump j]) b (b + 1 + c.length) = some (.jump j) := by
  rw [List.cons_append, placed_cons_of_lt (by omega), placed_append_right (le_refl _),
    placed_cons_self]

theorem placed_loop_of_body {s t j pc : Nat} {i : Instruction}
    (h : placed c (b + 1) pc = some i) : placed (.split s t :: c ++ [.jump j]) b pc = some i := by
  rw [List.cons_append]
  exact placed_cons_of_eq_some (placed_append_left_of_eq_some h)

theorem loop_runs_cases (h₁ : Recognizes c (b + 1) L)
    (hc : Closed (placed c (b + 1)) (b + 1) (b + 1 + c.length)) {x : List Element}
    {t : Nat × List Element}
    (h : ReflTransGen (Move (placed (.split (b + 1) (b + 2 + c.length) :: c ++ [.jump b]) b))
      (b, x) t) :
    ((t.1 = b ∨ t.1 = b + 2 + c.length) ∧ ∃ v ∈ L∗, x = v ++ t.2) ∨
      (b + 1 ≤ t.1 ∧ t.1 ≤ b + 1 + c.length ∧ ∃ v ∈ L∗, ∃ w, x = v ++ w ∧
        ReflTransGen (Move (placed c (b + 1))) (b + 1, w) t) := by
  induction h with
  | refl => exact .inl ⟨.inl rfl, [], Language.nil_mem_kstar _, rfl⟩
  | @tail t t' _ hstep ih =>
    obtain ⟨q, w'⟩ := t
    rcases ih with ⟨hq | hq, v, hv, hx⟩ | ⟨hlo, hhi, v, hv, w, hx, hbody⟩
    · -- at the split: start an iteration or leave the star
      dsimp only at hq
      subst hq
      rcases hstep.eq_of_fetch_split placed_loop_split with rfl | rfl
      · exact .inr ⟨le_refl _, by omega, v, hv, w', hx, .refl⟩
      · exact .inl ⟨.inr rfl, v, hv, hx⟩
    · -- past the star there is no instruction
      dsimp only at hq
      subst hq
      have := hstep.fetch_isSome
      rw [placed_eq_none_of_le (by simp; omega)] at this
      cases this
    · dsimp only at hlo hhi
      by_cases hj : q = b + 1 + c.length
      · -- at the jump the iteration is complete
        subst hj
        rw [hstep.eq_of_fetch_jump placed_loop_jump]
        obtain ⟨v', hv', rfl⟩ := (h₁ w w').mp hbody
        exact .inl ⟨.inl rfl, v ++ v', append_mem_kstar hv hv', by rw [hx, List.append_assoc]⟩
      · have hlt : q < b + 1 + c.length := by omega
        have hstep' := hstep.of_fetch_eq (placed_loop_body hlo hlt)
        obtain ⟨hlo', hhi'⟩ := hc _ _ hstep' hlo hlt
        exact .inr ⟨hlo', hhi', v, hv, w, hx, hbody.tail hstep'⟩

theorem loop_runs_of_flatten (h₁ : Recognizes c (b + 1) L) (ws : List (List Element))
    (hws : ∀ w ∈ ws, w ∈ L) (y : List Element) :
    ReflTransGen (Move (placed (.split (b + 1) (b + 2 + c.length) :: c ++ [.jump b]) b))
      (b, ws.flatten ++ y) (b + 2 + c.length, y) := by
  induction ws with
  | nil => exact .single (.eps (.splitRight placed_loop_split))
  | cons w ws ih =>
    have r := (h₁ (w ++ (ws.flatten ++ y)) (ws.flatten ++ y)).mpr
      ⟨w, hws w (List.mem_cons_self ..), rfl⟩
    rw [List.flatten_cons, List.append_assoc]
    refine .head (.eps (.splitLeft placed_loop_split)) ?_
    refine ((moves_mono (fun _ _ => placed_loop_of_body) r).tail
      (.eps (.jump placed_loop_jump))).trans ?_
    exact ih fun w' hw' => hws w' (List.mem_cons_of_mem _ hw')

theorem recognizes_loop (h₁ : Recognizes c (b + 1) L)
    (hc : Closed (placed c (b + 1)) (b + 1) (b + 1 + c.length)) :
    Recognizes (.split (b + 1) (b + 2 + c.length) :: c ++ [.jump b]) b L∗ := by
  intro x y
  have hend : b + (Instruction.split (b + 1) (b + 2 + c.length) :: c ++
      [Instruction.jump b]).length = b + 2 + c.length := by
    simp; omega
  rw [hend]
  constructor
  · intro h
    rcases loop_runs_cases h₁ hc h with ⟨-, v, hv, hx⟩ | ⟨-, hhi, -⟩
    · exact ⟨v, hv, hx⟩
    · dsimp only at hhi
      omega
  · rintro ⟨v, hv, rfl⟩
    obtain ⟨ws, rfl, hws⟩ := Language.mem_kstar.mp hv
    exact loop_runs_of_flatten h₁ ws hws y

theorem repeat_runs_cases (h₁ : Recognizes c b L) (hc : Closed (placed c b) b (b + c.length))
    {x : List Element} {t : Nat × List Element}
    (h : ReflTransGen (Move (placed (c ++ [.split b (b + c.length + 1)]) b)) (b, x) t) :
    (t.1 = b + c.length + 1 ∧ ∃ v ∈ L∗ * L, x = v ++ t.2) ∨
      (b ≤ t.1 ∧ t.1 ≤ b + c.length ∧ ∃ v ∈ L∗, ∃ w, x = v ++ w ∧
        ReflTransGen (Move (placed c b)) (b, w) t) := by
  have hsplit : placed (c ++ [.split b (b + c.length + 1)]) b (b + c.length) =
      some (.split b (b + c.length + 1)) := by
    rw [placed_append_right (le_refl _), placed_cons_self]
  induction h with
  | refl => exact .inr ⟨le_refl _, by omega, [], Language.nil_mem_kstar _, x, rfl, .refl⟩
  | @tail t t' _ hstep ih =>
    obtain ⟨q, w'⟩ := t
    rcases ih with ⟨hq, -⟩ | ⟨hlo, hhi, v, hv, w, hx, hbody⟩
    · -- past the plus there is no instruction
      dsimp only at hq
      subst hq
      have := hstep.fetch_isSome
      rw [placed_eq_none_of_le (by simp; omega)] at this
      cases this
    · dsimp only at hlo hhi
      by_cases hj : q = b + c.length
      · -- at the split the iteration is complete: go round again or leave
        subst hj
        obtain ⟨v', hv', rfl⟩ := (h₁ w w').mp hbody
        rcases hstep.eq_of_fetch_split hsplit with rfl | rfl
        · exact .inr ⟨le_refl _, by omega, v ++ v', append_mem_kstar hv hv', w', by
            rw [hx, List.append_assoc], .refl⟩
        · exact .inl ⟨rfl, v ++ v', Language.append_mem_mul hv hv', by
            rw [hx, List.append_assoc]⟩
      · have hlt : q < b + c.length := by omega
        have hstep' := hstep.of_fetch_eq (placed_append_left hlt)
        obtain ⟨hlo', hhi'⟩ := hc _ _ hstep' hlo hlt
        exact .inr ⟨hlo', hhi', v, hv, w, hx, hbody.tail hstep'⟩

theorem recognizes_repeat (h₁ : Recognizes c b L) (hc : Closed (placed c b) b (b + c.length)) :
    Recognizes (c ++ [.split b (b + c.length + 1)]) b (L * L∗) := by
  intro x y
  have hend : b + (c ++ [Instruction.split b (b + c.length + 1)]).length = b + c.length + 1 := by
    simp; omega
  have hsplit : placed (c ++ [.split b (b + c.length + 1)]) b (b + c.length) =
      some (.split b (b + c.length + 1)) := by
    rw [placed_append_right (le_refl _), placed_cons_self]
  rw [hend, ← Language.mul_self_kstar_comm]
  constructor
  · intro h
    rcases repeat_runs_cases h₁ hc h with ⟨-, v, hv, hx⟩ | ⟨-, hhi, -⟩
    · exact ⟨v, hv, hx⟩
    · dsimp only at hhi
      omega
  · rintro ⟨v, hv, rfl⟩
    obtain ⟨u, hu, v', hv', rfl⟩ := Language.mem_mul.mp hv
    obtain ⟨ws, rfl, hws⟩ := Language.mem_kstar.mp hu
    have hiter : ∀ (ws : List (List Element)), (∀ w ∈ ws, w ∈ L) → ∀ z,
        ReflTransGen (Move (placed (c ++ [.split b (b + c.length + 1)]) b))
          (b, ws.flatten ++ z) (b, z) := by
      intro ws hws z
      induction ws with
      | nil => exact .refl
      | cons w ws ih =>
        have r := (h₁ (w ++ (ws.flatten ++ z)) (ws.flatten ++ z)).mpr
          ⟨w, hws w (List.mem_cons_self ..), rfl⟩
        rw [List.flatten_cons, List.append_assoc]
        refine ((moves_mono (fun _ _ => placed_append_left_of_eq_some) r).tail
          (.eps (.splitLeft hsplit))).trans ?_
        exact ih fun w' hw' => hws w' (List.mem_cons_of_mem _ hw')
    have r := (h₁ (v' ++ y) y).mpr ⟨v', hv', rfl⟩
    rw [List.append_assoc]
    exact (hiter ws hws _).trans ((moves_mono (fun _ _ => placed_append_left_of_eq_some) r).tail
      (.eps (.splitRight hsplit)))

theorem recognizes_option (h₁ : Recognizes c (b + 1) L)
    (hc : Closed (placed c (b + 1)) (b + 1) (b + 1 + c.length)) :
    Recognizes (.split (b + 1) (b + 1 + c.length) :: c) b (1 + L) := by
  intro x y
  have hend : b + (Instruction.split (b + 1) (b + 1 + c.length) :: c).length =
      b + 1 + c.length := by
    simp; omega
  rw [hend]
  constructor
  · intro h
    rcases h.cases_head with he | ⟨t, hstep, hrest⟩
    · have := (Prod.mk.inj he).1
      omega
    · rcases hstep.eq_of_fetch_split (placed_cons_self _) with rfl | rfl
      · obtain ⟨z, hz, hlast⟩ := exit_through
          (fun _ hlo _ => placed_cons_of_lt (Nat.lt_of_succ_le hlo)) hc ⟨le_refl _, by omega⟩
          (by omega) hrest
        have hzy : z = y := eq_of_moves_from_end (by simp; omega) hlast
        subst hzy
        obtain ⟨v, hv, rfl⟩ := (h₁ x z).mp hz
        exact ⟨v, (Language.mem_add _ _ _).mpr (.inr hv), rfl⟩
      · have hxy : x = y := eq_of_moves_from_end (by simp; omega) hrest
        subst hxy
        exact ⟨[], (Language.mem_add _ _ _).mpr (.inl (Language.nil_mem_one)), rfl⟩
  · rintro ⟨v, hv, rfl⟩
    rcases (Language.mem_add _ _ _).mp hv with hv | hv
    · rw [(Language.mem_one v).mp hv]
      exact .single (.eps (.splitRight (placed_cons_self _)))
    · have r := (h₁ (v ++ y) y).mpr ⟨v, hv, rfl⟩
      exact .head (.eps (.splitLeft (placed_cons_self _)))
        (moves_mono (fun _ _ => placed_cons_of_eq_some) r)

end Shapes

namespace Ast

theorem layout_targets (a : Ast) (b : Nat) :
    ∀ i ∈ a.layout b, ∀ t ∈ i.targets, b ≤ t ∧ t ≤ b + (a.layout b).length := by
  induction a generalizing b with
  | pred p => simp [layout, Instruction.targets]
  | concat l r ihl ihr =>
    intro i hi t ht
    simp only [layout, List.mem_append, List.length_append] at hi ⊢
    rcases hi with hi | hi
    · have := ihl b i hi t ht
      omega
    · have := ihr _ i hi t ht
      omega
  | or l r ihl ihr =>
    intro i hi t ht
    simp only [layout, List.mem_cons, List.mem_append, List.cons_append, List.length_cons,
      List.length_append] at hi ⊢
    rcases hi with rfl | hi | rfl | hi
    · simp only [Instruction.targets, List.mem_cons, List.not_mem_nil, or_false] at ht
      omega
    · have := ihl _ i hi t ht
      omega
    · simp only [Instruction.targets, List.mem_singleton] at ht
      omega
    · have := ihr _ i hi t ht
      omega
  | star e ih =>
    intro i hi t ht
    simp only [layout, List.mem_cons, List.mem_append, List.cons_append, List.length_cons,
      List.length_append, List.not_mem_nil, or_false] at hi ⊢
    rcases hi with rfl | hi | rfl
    · simp only [Instruction.targets, List.mem_cons, List.not_mem_nil, or_false] at ht
      omega
    · have := ih _ i hi t ht
      omega
    · simp only [Instruction.targets, List.mem_singleton] at ht
      omega
  | plus e ih =>
    intro i hi t ht
    simp only [layout, List.mem_append, List.mem_singleton, List.length_append,
      List.length_singleton] at hi ⊢
    rcases hi with hi | rfl
    · have := ih _ i hi t ht
      omega
    · simp only [Instruction.targets, List.mem_cons, List.not_mem_nil, or_false] at ht
      omega
  | option e ih =>
    intro i hi t ht
    simp only [layout, List.mem_cons, List.length_cons] at hi ⊢
    rcases hi with rfl | hi
    · simp only [Instruction.targets, List.mem_cons, List.not_mem_nil, or_false] at ht
      omega
    · have := ih _ i hi t ht
      omega

theorem layout_closed (a : Ast) (b : Nat) :
    Closed (placed (a.layout b) b) b (b + (a.layout b).length) := by
  intro s t hmove _ hhi
  cases hmove with
  | eps h =>
    obtain ⟨i, hi, ht⟩ := eps_iff_mem_targets.mp h
    exact a.layout_targets b i (mem_of_placed_eq_some hi) _ ht
  | read h =>
    obtain ⟨-, -, -, rfl⟩ := h
    dsimp only at hhi ⊢
    omega

theorem layout_ne_accept (a : Ast) (b : Nat) : Instruction.accept ∉ a.layout b := by
  induction a generalizing b with
  | pred p => simp [layout]
  | concat l r ihl ihr => simp [layout, ihl, ihr]
  | or l r ihl ihr => simp [layout, ihl, ihr]
  | star e ih => simp [layout, ih]
  | plus e ih => simp [layout, ih]
  | option e ih => simp [layout, ih]

theorem recognizes_layout (a : Ast) (b : Nat) : Recognizes (a.layout b) b a.lang := by
  induction a generalizing b with
  | pred p => exact recognizes_predict p b
  | concat l r ihl ihr =>
    exact recognizes_append (ihl b) (l.layout_closed b) (ihr _) (r.layout_closed _)
  | or l r ihl ihr =>
    exact recognizes_choice (ihl _) (l.layout_closed _) (ihr _) (r.layout_closed _)
  | star e ih => exact recognizes_loop (ih _) (e.layout_closed _)
  | plus e ih => exact recognizes_repeat (ih _) (e.layout_closed _)
  | option e ih => exact recognizes_option (ih _) (e.layout_closed _)

end Ast

namespace Program

theorem fetch_generate (a : Ast) : (generate a).fetch = placed (a.layout 0 ++ [.accept]) 0 := by
  funext pc
  simp [fetch, generate, placed, ← Ast.layout_eq_emit]

theorem generate_runs_accept_iff (a : Ast) (path : List Element) :
    (generate a).Accepts path ↔ path ∈ a.lang := by
  have hrec := a.recognizes_layout 0
  have hacc : placed (a.layout 0 ++ [.accept]) 0 (0 + (a.layout 0).length) = some .accept := by
    rw [placed_append_right (le_refl _), placed_cons_self]
  rw [Accepts, AcceptsFrom, fetch_generate]
  constructor
  · rintro ⟨pc, hrun, hpc⟩
    have hout : ¬(0 ≤ pc ∧ pc < 0 + (a.layout 0).length) := by
      rintro ⟨-, hlt⟩
      rw [placed_append_left hlt] at hpc
      exact a.layout_ne_accept 0 (mem_of_placed_eq_some hpc)
    obtain ⟨z, hz, hlast⟩ := exit_through (fun _ _ hlt => placed_append_left hlt)
      (a.layout_closed 0) ⟨le_refl 0, Nat.zero_le _⟩ hout hrun
    have hz : z = [] := (Prod.mk.inj (eq_of_moves_of_halted (.inr hacc) hlast)).2.symm
    subst hz
    obtain ⟨v, hv, hpath⟩ := (hrec path []).mp hz
    rw [hpath, List.append_nil]
    exact hv
  · intro hp
    have r := (hrec path []).mpr ⟨path, hp, (List.append_nil path).symm⟩
    exact ⟨_, moves_mono (fun _ _ => placed_append_left_of_eq_some) r, hacc⟩

/-- The program generated for an AST accepts exactly the AST's paths, the empty path included. -/
theorem generate_accepts_iff (a : Ast) (path : List Element) :
    (generate a).accepts path = true ↔ path ∈ a.lang := by
  rw [accepts, Machine.run_eq_true_iff]
  exact generate_runs_accept_iff a path

end Program

end TreeSelect
