import TreeSelect.Machine

namespace TreeSelect

/-- A while loop with condition `c` and body `f` runs from `s` for `k` turns and stops in `s'`. -/
inductive Turns {σ : Type} (c : σ → Bool) (f : σ → σ) : σ → Nat → σ → Prop
  | done {s : σ} : c s = false → Turns c f s 0 s
  | next {s s' : σ} {k : Nat} : c s = true → Turns c f (f s) k s' → Turns c f s (k + 1) s'

theorem Turns.le_of_counter {σ : Type} {c : σ → Bool} {f : σ → σ} (μ : σ → Nat) (N : Nat)
    (hstep : ∀ s, c s = true → μ (f s) = μ s + 1) (hbound : ∀ s, c s = true → μ s < N)
    {s s' : σ} {k : Nat} (h : Turns c f s k s') : k ≤ N - μ s := by
  induction h with
  | done _ => exact Nat.zero_le _
  | @next s _ k hc _ ih =>
    have hlt := hbound s hc
    rw [hstep s hc] at ih
    omega

namespace Threads

variable {n : Nat}

/-- A call on a set of `n` addresses. -/
inductive Op (n : Nat) where
  | add (pc : Fin n)
  | clear
  deriving DecidableEq, Repr

/-- Make one call. -/
def Op.apply (t : Threads n) : Op n → Threads n
  | .add pc => t.add pc
  | .clear => t.clear

/-- The set after a history of calls, from a new set. -/
def replay (n : Nat) (ops : List (Op n)) : Threads n := ops.foldl Op.apply (new n)

/-- The members as the contract of the set has them after one more call: an addition appends an
address that is not a member yet, a clear forgets every member. -/
def Op.record (ms : List Nat) : Op n → List Nat
  | .add pc => if pc.val ∈ ms then ms else ms ++ [pc.val]
  | .clear => []

/-- The members after a history: the addresses added since the last clear, each once, in the
order they were first added. -/
def Op.members (ops : List (Op n)) : List Nat := ops.foldl Op.record []

theorem toList_add (t : Threads n) (pc : Fin n) :
    (t.add pc).dense.toList = Op.record t.dense.toList (.add pc) := by
  by_cases hm : pc.val ∈ t.dense
  · have hc : t.contains pc = true := (t.contains_iff pc).mpr hm
    rw [add, dif_pos hc, Op.record, if_pos (Array.mem_toList_iff.mpr hm)]
  · have hc : ¬t.contains pc = true := fun h => hm ((t.contains_iff pc).mp h)
    have hs : pc.val < t.stamps.size := by
      rw [t.size_stamps]
      exact pc.isLt
    rw [add, dif_neg hc, dif_pos hs, Op.record, if_neg (fun h => hm (Array.mem_toList_iff.mp h)),
      Array.toList_push]

theorem toList_apply (t : Threads n) (op : Op n) :
    (Op.apply t op).dense.toList = Op.record t.dense.toList op := by
  cases op with
  | add pc => exact toList_add t pc
  | clear => simp [Op.apply, Op.record]

theorem toList_foldl_apply (ops : List (Op n)) (t : Threads n) :
    (ops.foldl Op.apply t).dense.toList = ops.foldl Op.record t.dense.toList := by
  induction ops generalizing t with
  | nil => rfl
  | cons op ops ih => rw [List.foldl_cons, List.foldl_cons, ih, toList_apply]

example : (replay 4 [.add 2, .add 0, .add 2, .clear, .add 2]).dense.toList = [2] := by decide

theorem one_le_generation (t : Threads n) : 1 ≤ t.generation := by
  have hne : t.generation.toNat ≠ 0 := fun h => t.generation_ne_zero (UInt32.toNat_inj.mp h)
  rw [UInt32.le_iff_toNat_le]
  exact Nat.one_le_iff_ne_zero.mpr hne

theorem contains_clear (t : Threads n) (pc : Nat) : t.clear.contains pc = false := by
  rw [Bool.eq_false_iff, ne_eq, contains_iff, dense_clear]
  exact Array.not_mem_empty pc

end Threads

namespace Machine

variable {p : Program}

/-- The condition of the scan loop: the position has not reached the end of the active set. -/
def scanGoesOn (s : Threads p.size × Threads p.size × Nat) : Bool := s.2.2 < s.1.dense.size

/-- One turn of the scan loop while reading `e`: the member at the position adds the targets of
its moves to the active set and the thread it reads `e` into to the next set, and the position
moves on. -/
def scanTurn (p : Program) (e : Element) :
    Threads p.size × Threads p.size × Nat → Threads p.size × Threads p.size × Nat
  | (active, next, i) =>
    match active.dense[i]? with
    | some pc => (active.follow p.code pc, next.advance p.code e pc, i + 1)
    | none => (active, next, i)

theorem scanTurn_of_lt (e : Element) {active next : Threads p.size} {i : Nat}
    (hi : i < active.dense.size) :
    scanTurn p e (active, next, i) =
      (active.follow p.code active.dense[i], next.advance p.code e active.dense[i], i + 1) := by
  simp [scanTurn, hi]

theorem scan_eq_turns (e : Element) (active next : Threads p.size) (i : Nat) :
    ∃ k s, Turns scanGoesOn (scanTurn p e) (active, next, i) k s ∧
      scan p e active next i = (s.1, s.2.1) := by
  fun_induction scan p e active next i with
  | case1 active next i hi pc ih =>
    obtain ⟨k, s, hrun, hres⟩ := ih
    refine ⟨k + 1, s, .next (by simp [scanGoesOn, hi]) ?_, hres⟩
    rwa [scanTurn_of_lt e hi]
  | case2 active next i hi =>
    exact ⟨0, _, .done (by simp [scanGoesOn, hi]), rfl⟩

theorem scan_turns_le (e : Element) (active next : Threads p.size) :
    ∃ k ≤ p.size, ∃ s, Turns scanGoesOn (scanTurn p e) (active, next, 0) k s ∧
      scan p e active next 0 = (s.1, s.2.1) := by
  obtain ⟨k, s, hrun, hres⟩ := scan_eq_turns e active next 0
  have hk := hrun.le_of_counter (fun s => s.2.2) p.size ?_ ?_
  · exact ⟨k, hk, s, hrun, hres⟩
  · rintro ⟨a, nx, i⟩ hc
    have hi : i < a.dense.size := by simpa [scanGoesOn] using hc
    simp [scanTurn_of_lt e hi]
  · rintro ⟨a, nx, i⟩ hc
    have hi : i < a.dense.size := by simpa [scanGoesOn] using hc
    exact Nat.lt_of_lt_of_le hi a.size_dense_le

/-- The condition of the loop after the last node: no `accept` met yet, and the position has not
reached the end of the active set. -/
def finishGoesOn (s : Bool × Threads p.size × Nat) : Bool := !s.1 && s.2.2 < s.2.1.dense.size

/-- One turn of the loop after the last node: the member at the position is taken and the
position moves on; an `accept` there ends the loop with a yes, any other instruction adds the
targets of its moves to the active set. -/
def finishTurn (p : Program) : Bool × Threads p.size × Nat → Bool × Threads p.size × Nat
  | (found, active, i) =>
    match active.dense[i]? with
    | some pc =>
      if p.code[pc]?.any Instruction.isAccept then (true, active, i + 1)
      else (false, active.follow p.code pc, i + 1)
    | none => (found, active, i)

theorem finishTurn_of_lt (found : Bool) {active : Threads p.size} {i : Nat}
    (hi : i < active.dense.size) :
    finishTurn p (found, active, i) =
      if p.code[active.dense[i]]?.any Instruction.isAccept then (true, active, i + 1)
      else (false, active.follow p.code active.dense[i], i + 1) := by
  simp only [finishTurn, Array.getElem?_eq_getElem hi]

theorem finish_eq_turns (active : Threads p.size) (i : Nat) :
    ∃ k s, Turns finishGoesOn (finishTurn p) (false, active, i) k s ∧
      finish p active i = (s.1, s.2.1) := by
  fun_induction finish p active i with
  | case1 active i hi pc hpc =>
    have hturn : finishTurn p (false, active, i) = (true, active, i + 1) := by
      rw [finishTurn_of_lt false hi, if_pos hpc]
    refine ⟨1, (true, active, i + 1), .next (by simp [finishGoesOn, hi]) ?_, rfl⟩
    rw [hturn]
    exact .done (by simp [finishGoesOn])
  | case2 active i hi pc hpc ih =>
    obtain ⟨k, s, hrun, hres⟩ := ih
    have hturn : finishTurn p (false, active, i) = (false, active.follow p.code pc, i + 1) := by
      rw [finishTurn_of_lt false hi, if_neg hpc]
    refine ⟨k + 1, s, .next (by simp [finishGoesOn, hi]) ?_, hres⟩
    rwa [hturn]
  | case3 active i hi =>
    exact ⟨0, _, .done (by simp [finishGoesOn, hi]), rfl⟩

theorem finish_turns_le (active : Threads p.size) :
    ∃ k ≤ p.size, ∃ s, Turns finishGoesOn (finishTurn p) (false, active, 0) k s ∧
      finish p active 0 = (s.1, s.2.1) := by
  obtain ⟨k, s, hrun, hres⟩ := finish_eq_turns active 0
  have hk := hrun.le_of_counter (fun s => s.2.2) p.size ?_ ?_
  · exact ⟨k, hk, s, hrun, hres⟩
  · rintro ⟨found, a, i⟩ hc
    have hi : i < a.dense.size := by simp_all [finishGoesOn]
    rw [finishTurn_of_lt found hi]
    split <;> rfl
  · rintro ⟨found, a, i⟩ hc
    have hi : i < a.dense.size := by simp_all [finishGoesOn]
    exact Nat.lt_of_lt_of_le hi a.size_dense_le

end Machine

open Threads Machine in
/-- Every history of additions and clears from a new set of `n` addresses, however often it wraps
the generation counter, leaves a set that keeps its contract: no repeated member, membership read
off the stamps, no stamp past the generation, a generation of at least 1. Its members are the
addresses added since the last clear, each once, in the order of their first addition; there are
at most `n` of them, and a clear leaves none. Both scans of the machine, which read the active set
while they add to it, stop after at most as many turns as the program has instructions. -/
theorem replay_keeps_contract (n : Nat) (ops : List (Op n)) :
    let t := replay n ops
    t.dense.toList.Nodup ∧
    (∀ pc < n, t.contains pc = true ↔ pc ∈ t.dense) ∧
    (∀ pc (h : pc < t.stamps.size), t.stamps[pc] ≤ t.generation) ∧
    1 ≤ t.generation ∧
    t.dense.toList = Op.members ops ∧
    t.dense.size ≤ n ∧
    (t.clear.dense.size = 0 ∧ ∀ pc, t.clear.contains pc = false) ∧
    (∀ (p : Program) (e : Element) (active next : Threads p.size), ∃ k ≤ p.size, ∃ s,
      Turns scanGoesOn (scanTurn p e) (active, next, 0) k s ∧
        scan p e active next 0 = (s.1, s.2.1)) ∧
    (∀ (p : Program) (active : Threads p.size), ∃ k ≤ p.size, ∃ s,
      Turns finishGoesOn (finishTurn p) (false, active, 0) k s ∧
        finish p active 0 = (s.1, s.2.1)) := by
  intro t
  have hmembers : t.dense.toList = Op.members ops := toList_foldl_apply ops (new n)
  exact ⟨t.nodup, fun pc _ => t.contains_iff pc, t.stamp_le, t.one_le_generation, hmembers,
    t.size_dense_le, ⟨by simp, t.contains_clear⟩, fun _ => scan_turns_le, fun _ => finish_turns_le⟩

end TreeSelect
