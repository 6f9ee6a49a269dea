import TreeSelect.Proofs.Thompson

namespace TreeSelect

open Relation

namespace Program

/-- A list of instructions that ends with `accept` and whose targets all lie inside it. -/
def Valid (is : List Instruction) : Prop :=
  is.getLast? = some .accept ∧ ∀ i ∈ is, ∀ t ∈ i.targets, t < is.length

/-- The instruction at `pc` is the first, in address order, with a target at or past `n`, and
`t` is its first such target. -/
def FirstOutOfRange (n : Nat) (is : List Instruction) (pc t : Nat) : Prop :=
  ∃ i, is[pc]? = some i ∧ (∀ i' ∈ is.take pc, ∀ u ∈ i'.targets, u < n) ∧
    ∃ pre post, i.targets = pre ++ t :: post ∧ (∀ u ∈ pre, u < n) ∧ n ≤ t

end Program

theorem Instruction.any_isAccept_iff {o : Option Instruction} :
    o.any Instruction.isAccept = true ↔ o = some .accept := by
  cases o with
  | none => simp
  | some i => cases i <;> simp [Instruction.isAccept]

theorem find?_targets_eq_some_iff {n t : Nat} {i : Instruction} :
    i.targets.find? (n ≤ ·) = some t ↔
      ∃ pre post, i.targets = pre ++ t :: post ∧ (∀ u ∈ pre, u < n) ∧ n ≤ t := by
  rw [List.find?_eq_some_iff_append]
  constructor
  · rintro ⟨ht, pre, post, hsplit, hpre⟩
    refine ⟨pre, post, hsplit, fun u hu => ?_, by simpa using ht⟩
    simpa using hpre u hu
  · rintro ⟨pre, post, hsplit, hpre, ht⟩
    refine ⟨by simpa using ht, pre, post, hsplit, fun u hu => ?_⟩
    simpa using hpre u hu

theorem find?_targets_eq_none_iff {n : Nat} {i : Instruction} :
    i.targets.find? (n ≤ ·) = none ↔ ∀ u ∈ i.targets, u < n := by
  simp [List.find?_eq_none]

theorem firstOutOfRange_eq_none_iff {n pc : Nat} {is : List Instruction} :
    firstOutOfRange n pc is = none ↔ ∀ i ∈ is, ∀ t ∈ i.targets, t < n := by
  induction is generalizing pc with
  | nil => simp [firstOutOfRange]
  | cons i is ih =>
    rw [firstOutOfRange]
    split
    · rename_i t ht
      have hmem := List.mem_of_find?_eq_some ht
      obtain ⟨-, -, -, -, hn⟩ := find?_targets_eq_some_iff.mp ht
      simp only [reduceCtorEq, false_iff, not_forall, List.mem_cons]
      exact ⟨i, .inl rfl, t, hmem, by omega⟩
    · rename_i hnone
      rw [ih, List.forall_mem_cons]
      exact ⟨fun h => ⟨find?_targets_eq_none_iff.mp hnone, h⟩, fun h => h.2⟩

theorem firstOutOfRange_eq_some_iff {n pc₀ pc t : Nat} {is : List Instruction} :
    firstOutOfRange n pc₀ is = some (pc, t) ↔
      ∃ k, pc = pc₀ + k ∧ Program.FirstOutOfRange n is k t := by
  induction is generalizing pc₀ with
  | nil => simp [firstOutOfRange, Program.FirstOutOfRange]
  | cons i is ih =>
    rw [firstOutOfRange]
    split
    · rename_i t' ht'
      simp only [Option.some.injEq, Prod.mk.injEq]
      constructor
      · rintro ⟨rfl, rfl⟩
        exact ⟨0, rfl, i, rfl, by simp, find?_targets_eq_some_iff.mp ht'⟩
      · rintro ⟨k, rfl, i', hk, hpre, hbad⟩
        cases k with
        | zero =>
          simp only [List.getElem?_cons_zero, Option.some.injEq] at hk
          subst hk
          rw [← find?_targets_eq_some_iff, ht', Option.some.injEq] at hbad
          exact ⟨rfl, hbad⟩
        | succ k =>
          obtain ⟨-, -, -, -, hn⟩ := find?_targets_eq_some_iff.mp ht'
          have := hpre i (by simp) t' (List.mem_of_find?_eq_some ht')
          omega
    · rename_i hnone
      have hi := find?_targets_eq_none_iff.mp hnone
      rw [ih]
      constructor
      · rintro ⟨k, rfl, i', hk, hpre, hbad⟩
        refine ⟨k + 1, by omega, i', by simpa using hk, ?_, hbad⟩
        simp only [List.take_succ_cons, List.mem_cons, forall_eq_or_imp]
        exact ⟨hi, hpre⟩
      · rintro ⟨k, rfl, i', hk, hpre, hbad⟩
        cases k with
        | zero =>
          simp only [List.getElem?_cons_zero, Option.some.injEq] at hk
          subst hk
          obtain ⟨pre, post, hsplit, -, hn⟩ := hbad
          have := hi t (by rw [hsplit]; simp)
          omega
        | succ k =>
          refine ⟨k, by omega, i', by simpa using hk, ?_, hbad⟩
          intro i'' hi''
          exact hpre i'' (by simp [List.take_succ_cons, hi''])

theorem firstOutOfRange_zero_eq_some_iff {n pc t : Nat} {is : List Instruction} :
    firstOutOfRange n 0 is = some (pc, t) ↔ Program.FirstOutOfRange n is pc t := by
  rw [firstOutOfRange_eq_some_iff]
  simp

namespace Program

variable {is : List Instruction}

theorem ofList_cases (is : List Instruction) :
    (is.getLast? ≠ some .accept ∧ ofList is = .error .missingMatch) ∨
    (∃ pc t, is.getLast? = some .accept ∧ firstOutOfRange is.length 0 is = some (pc, t) ∧
      ofList is = .error (.targetOutOfRange pc t)) ∨
    (is.getLast? = some .accept ∧ firstOutOfRange is.length 0 is = none ∧
      ofList is = .ok ⟨is.toArray⟩) := by
  unfold ofList
  by_cases hlast : is.getLast? = some .accept
  · rw [if_pos (Instruction.any_isAccept_iff.mpr hlast)]
    cases hbad : firstOutOfRange is.length 0 is with
    | some r =>
      obtain ⟨pc, t⟩ := r
      exact .inr (.inl ⟨pc, t, hlast, rfl, rfl⟩)
    | none => exact .inr (.inr ⟨hlast, rfl, rfl⟩)
  · rw [if_neg (mt Instruction.any_isAccept_iff.mp hlast)]
    exact .inl ⟨hlast, rfl⟩

theorem ofList_eq_ok_iff (p : Program) : ofList is = .ok p ↔ Valid is ∧ p = ⟨is.toArray⟩ := by
  rcases ofList_cases is with ⟨hlast, heq⟩ | ⟨pc, t, -, hbad, heq⟩ | ⟨hlast, hnone, heq⟩
  · simp [heq, Valid, hlast]
  · have hout : ¬∀ i ∈ is, ∀ t ∈ i.targets, t < is.length := by
      rw [← firstOutOfRange_eq_none_iff, hbad]
      simp
    simp [heq, Valid, hout]
  · rw [firstOutOfRange_eq_none_iff] at hnone
    rw [heq, Except.ok.injEq]
    exact ⟨fun h => ⟨⟨hlast, hnone⟩, h.symm⟩, fun h => h.2.symm⟩

theorem ofList_eq_missingMatch_iff :
    ofList is = .error .missingMatch ↔ is.getLast? ≠ some .accept := by
  rcases ofList_cases is with ⟨hlast, heq⟩ | ⟨pc, t, hlast, -, heq⟩ | ⟨hlast, -, heq⟩ <;>
    simp [heq, hlast]

theorem ofList_eq_targetOutOfRange_iff (pc t : Nat) :
    ofList is = .error (.targetOutOfRange pc t) ↔
      is.getLast? = some .accept ∧ FirstOutOfRange is.length is pc t := by
  rw [← firstOutOfRange_zero_eq_some_iff]
  rcases ofList_cases is with ⟨hlast, heq⟩ | ⟨pc', t', hlast, hbad, heq⟩ | ⟨hlast, hnone, heq⟩
  · simp [heq, hlast]
  · simp [heq, hlast, hbad]
  · simp [heq, hlast, hnone]

theorem size_pos_of_valid {p : Program} (hp : Valid p.code.toList) : 0 < p.size := by
  obtain ⟨hlast, -⟩ := hp
  have hlen : p.code.toList.length ≠ 0 := by
    intro h0
    simp [List.length_eq_zero_iff.mp h0] at hlast
  simpa [size, Nat.pos_iff_ne_zero] using hlen

theorem Valid.move_lt {p : Program} (hp : Valid p.code.toList) {s u : Nat × List Element}
    (hm : Move p.fetch s u) : u.1 < p.size := by
  obtain ⟨hlast, htargets⟩ := hp
  have hfetch : ∀ pc, p.fetch pc = p.code.toList[pc]? := fun pc => by simp [fetch]
  cases hm with
  | eps he =>
    obtain ⟨i, hi, hx⟩ := eps_iff_mem_targets.mp he
    rw [hfetch] at hi
    simpa [size] using htargets i (List.mem_of_getElem? hi) _ hx
  | @read pc q e w hr =>
    obtain ⟨r, hr, -, rfl⟩ := hr
    have hpc : pc < p.size := lt_size_of_fetch_isSome (by simp [hr])
    have hne : pc ≠ p.size - 1 := by
      rintro rfl
      rw [List.getLast?_eq_getElem?, ← hfetch, Array.length_toList] at hlast
      simp [size, hlast] at hr
    dsimp only
    omega

theorem Valid.eps_closure_lt {p : Program} (hp : Valid p.code.toList) {s q : Nat}
    (hs : s < p.size) (h : ReflTransGen (Eps p.fetch) s q) : q < p.size := by
  induction h with
  | refl => exact hs
  | tail _ hstep _ => exact hp.move_lt (s := (_, [])) (.eps hstep)

end Program

namespace Threads

variable {p : Program}

theorem mem_follow_of_valid (hp : Program.Valid p.code.toList) (t : Threads p.size) (pc x : Nat) :
    x ∈ (t.follow p.code pc).dense ↔ x ∈ t.dense ∨ Eps p.fetch pc x := by
  rw [t.mem_follow]
  constructor
  · rintro (h | ⟨-, h⟩)
    · exact .inl h
    · exact .inr h
  · rintro (h | h)
    · exact .inl h
    · exact .inr ⟨hp.move_lt (s := (pc, [])) (.eps h), h⟩

end Threads

namespace Machine

variable {p : Program}

theorem scan_of_valid (hp : Program.Valid p.code.toList) (e : Element) (active next : Threads p.size)
    (hn : next.dense = #[]) :
    (∀ q, q ∈ (scan p e active next 0).1.dense ↔
        ∃ s ∈ active.dense, ReflTransGen (Eps p.fetch) s q) ∧
      ∀ q, q ∈ (scan p e active next 0).2.dense ↔
        ∃ x ∈ (scan p e active next 0).1.dense, Reads p.fetch e x q := by
  obtain ⟨hact, hnext⟩ :=
    scan_spec e active.dense.toList active next 0 (Closing.start active) (by simp [hn])
  refine ⟨fun q => ?_, fun q => ?_⟩
  · rw [hact]
    simp only [Array.mem_toList_iff]
    constructor
    · rintro ⟨-, h⟩
      exact h
    · rintro ⟨s, hs, hrun⟩
      exact ⟨hp.eps_closure_lt (active.lt_of_mem hs) hrun, s, hs, hrun⟩
  · rw [hnext]
    constructor
    · rintro ⟨-, h⟩
      exact h
    · rintro ⟨x, hx, hread⟩
      exact ⟨hp.move_lt (s := (x, [e])) (.read hread), x, hx, hread⟩

end Machine

theorem Ast.layout_ne_nil (a : Ast) (b : Nat) : a.layout b ≠ [] := by
  induction a generalizing b with
  | concat l r ihl _ => simp [Ast.layout, ihl]
  | _ => simp [Ast.layout]

section Generated

variable (a : Ast) (b : Nat)

theorem emit_ne_nil : emit a b ≠ [] := by
  rw [← a.layout_eq_emit]
  exact a.layout_ne_nil b

theorem accept_not_mem_emit : Instruction.accept ∉ emit a b := by
  rw [← a.layout_eq_emit]
  exact a.layout_ne_accept b

theorem emit_targets : ∀ i ∈ emit a b, ∀ t ∈ i.targets, b ≤ t ∧ t ≤ b + (emit a b).length := by
  rw [← a.layout_eq_emit]
  exact a.layout_targets b

end Generated

namespace Program

section Generated

variable (a : Ast)

theorem code_generate : (generate a).code.toList = emit a 0 ++ [.accept] := by
  simp [generate]

theorem valid_generate : Valid (generate a).code.toList := by
  rw [code_generate]
  refine ⟨List.getLast?_concat, fun i hi t ht => ?_⟩
  rw [List.mem_append, List.mem_singleton] at hi
  rcases hi with hi | rfl
  · have := emit_targets a 0 i hi t ht
    rw [List.length_append, List.length_singleton]
    omega
  · simp [Instruction.targets] at ht

theorem fetch_generate_eq_accept_iff (pc : Nat) :
    (generate a).fetch pc = some .accept ↔ pc + 1 = (generate a).size := by
  have hfetch : (generate a).fetch pc = (emit a 0 ++ [.accept])[pc]? := by
    simp [fetch, generate]
  have hsize : (generate a).size = (emit a 0).length + 1 := by
    simp [size, generate]
  rw [hfetch, hsize]
  rcases Nat.lt_trichotomy pc (emit a 0).length with hlt | rfl | hgt
  · -- inside the code of the AST, which holds no `accept`
    rw [List.getElem?_append_left hlt]
    have hne : (emit a 0)[pc]? ≠ some .accept := fun h =>
      accept_not_mem_emit a 0 (List.mem_of_getElem? h)
    simp only [hne, false_iff]
    omega
  · simp
  · rw [List.getElem?_eq_none (by simp; omega)]
    simp only [reduceCtorEq, false_iff]
    omega

/-- The code of every AST at every address is a non-empty piece with no `accept`, whose targets
stay between its start and its end. So the program generated for an AST holds exactly one
`accept`, at its last address, and passes the check. -/
theorem generate_passes_check :
    (∀ b, emit a b ≠ [] ∧ Instruction.accept ∉ emit a b ∧
      ∀ i ∈ emit a b, ∀ t ∈ i.targets, b ≤ t ∧ t ≤ b + (emit a b).length) ∧
    (∀ pc, (generate a).fetch pc = some .accept ↔ pc + 1 = (generate a).size) ∧
    ofList (generate a).code.toList = .ok (generate a) := by
  refine ⟨fun b => ⟨emit_ne_nil a b, accept_not_mem_emit a b, emit_targets a b⟩,
    fetch_generate_eq_accept_iff a, ?_⟩
  rw [ofList_eq_ok_iff]
  exact ⟨valid_generate a, by simp⟩

end Generated

/-- The check accepts a list exactly when it ends with `accept` and every target lies inside it.
It reports a missing `accept` whatever the targets, and otherwise the first instruction with a
target past the end, with its first such target. On every program it accepts, a move never
leaves the program: following the moves from an address adds every target, and each scan of a
run collects in full the addresses its threads move to. -/
theorem ofList_outcomes_and_bounds (is : List Instruction) :
    (∀ p, ofList is = .ok p ↔ Valid is ∧ p = ⟨is.toArray⟩) ∧
    (ofList is = .error .missingMatch ↔ is.getLast? ≠ some .accept) ∧
    (∀ pc t, ofList is = .error (.targetOutOfRange pc t) ↔
      is.getLast? = some .accept ∧ FirstOutOfRange is.length is pc t) ∧
    ∀ p, ofList is = .ok p →
      0 < p.size ∧ (∀ s u, Move p.fetch s u → u.1 < p.size) ∧
      (∀ (t : Threads p.size) pc x,
        x ∈ (t.follow p.code pc).dense ↔ x ∈ t.dense ∨ Eps p.fetch pc x) ∧
      ∀ e (active next : Threads p.size), next.dense = #[] →
        (∀ q, q ∈ (Machine.scan p e active next 0).1.dense ↔
          ∃ s ∈ active.dense, ReflTransGen (Eps p.fetch) s q) ∧
        ∀ q, q ∈ (Machine.scan p e active next 0).2.dense ↔
          ∃ x ∈ (Machine.scan p e active next 0).1.dense, Reads p.fetch e x q := by
  refine ⟨ofList_eq_ok_iff, ofList_eq_missingMatch_iff, ofList_eq_targetOutOfRange_iff,
    fun p hp => ?_⟩
  obtain ⟨hvalid, rfl⟩ := (ofList_eq_ok_iff p).mp hp
  have hv : Valid (Program.mk is.toArray).code.toList := by simpa using hvalid
  exact ⟨size_pos_of_valid hv, fun _ _ => hv.move_lt, Threads.mem_follow_of_valid hv,
    fun e active next hn => Machine.scan_of_valid hv e active next hn⟩

end Program

end TreeSelect
