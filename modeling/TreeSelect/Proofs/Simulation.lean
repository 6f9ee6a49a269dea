import TreeSelect.Machine
import TreeSelect.Proofs.Runs

namespace TreeSelect

open Relation

theorem eps_iff_mem_targets {fetch : Nat → Option Instruction} {pc x : Nat} :
    Eps fetch pc x ↔ ∃ i, fetch pc = some i ∧ x ∈ i.targets := by
  constructor
  · rintro (h | h | h) <;> exact ⟨_, h, by simp [Instruction.targets]⟩
  · rintro ⟨i, hi, hx⟩
    cases i with
    | split a b =>
      simp only [Instruction.targets, List.mem_cons, List.not_mem_nil, or_false] at hx
      rcases hx with rfl | rfl
      · exact .splitLeft hi
      · exact .splitRight hi
    | jump a =>
      rw [Instruction.targets, List.mem_singleton] at hx
      subst hx
      exact .jump hi
    | predict q => simp [Instruction.targets] at hx
    | accept => simp [Instruction.targets] at hx

namespace Threads

variable {p : Program}

theorem mem_follow (t : Threads p.size) (pc x : Nat) :
    x ∈ (t.follow p.code pc).dense ↔ x ∈ t.dense ∨ (x < p.size ∧ Eps p.fetch pc x) := by
  rw [eps_iff_mem_targets]
  unfold follow Program.fetch
  cases hc : p.code[pc]? with
  | none => simp
  | some i =>
    cases i with
    | split a b =>
      simp only [mem_add, Option.some.injEq, exists_eq_left', Instruction.targets,
        List.mem_cons, List.not_mem_nil, or_false]
      constructor
      · rintro ((hx | ⟨rfl, ha⟩) | ⟨rfl, hb⟩)
        · exact .inl hx
        · exact .inr ⟨ha, .inl rfl⟩
        · exact .inr ⟨hb, .inr rfl⟩
      · rintro (hx | ⟨hn, rfl | rfl⟩)
        · exact .inl (.inl hx)
        · exact .inl (.inr ⟨rfl, hn⟩)
        · exact .inr ⟨rfl, hn⟩
    | jump a =>
      simp only [mem_add, Option.some.injEq, exists_eq_left', Instruction.targets,
        List.mem_singleton]
      constructor
      · rintro (hx | ⟨rfl, ha⟩)
        · exact .inl hx
        · exact .inr ⟨ha, rfl⟩
      · rintro (hx | ⟨hn, rfl⟩)
        · exact .inl hx
        · exact .inr ⟨rfl, hn⟩
    | predict q => simp [Instruction.targets]
    | accept => simp [Instruction.targets]

theorem mem_advance (t : Threads p.size) (e : Element) (pc x : Nat) :
    x ∈ (t.advance p.code e pc).dense ↔ x ∈ t.dense ∨ (x < p.size ∧ Reads p.fetch e pc x) := by
  unfold advance Reads Program.fetch
  cases hc : p.code[pc]? with
  | none => simp
  | some i =>
    cases i with
    | predict q =>
      by_cases hq : q.test e = true
      · simp only [hq, if_true, mem_add, Option.some.injEq, Instruction.predict.injEq,
          exists_eq_left', true_and]
        constructor
        · rintro (hx | ⟨rfl, hn⟩)
          · exact .inl hx
          · exact .inr ⟨hn, rfl⟩
        · rintro (hx | ⟨hn, rfl⟩)
          · exact .inl hx
          · exact .inr ⟨rfl, hn⟩
      · simp [hq]
    | split a b => simp
    | jump a => simp
    | accept => simp

end Threads

theorem take_succ_of_grown {D : Array Nat} {D' xs : List Nat} (h : D' = D.toList ++ xs)
    {i : Nat} (hi : i < D.size) : D'.take (i + 1) = D.toList.take i ++ [D[i]] := by
  rw [h, List.take_append_of_le_length (by simpa using Nat.succ_le_of_lt hi), List.take_add_one]
  simp [hi]

namespace Machine

variable {p : Program}

/-- What a scan has made of the active set by position `i`, from the seeds it started with: the
seeds are members, every member is reached from a seed by moves that read nothing, and every
member before position `i` has the targets of its moves in the set. -/
structure Closing (p : Program) (seeds : List Nat) (active : Threads p.size) (i : Nat) :
    Prop where
  seeds_mem : ∀ s ∈ seeds, s ∈ active.dense
  reached : ∀ q ∈ active.dense, ∃ s ∈ seeds, ReflTransGen (Eps p.fetch) s q
  closed : ∀ x ∈ active.dense.toList.take i, ∀ q, Eps p.fetch x q → q < p.size →
    q ∈ active.dense

theorem Closing.start (active : Threads p.size) : Closing p active.dense.toList active 0 where
  seeds_mem _ hs := Array.mem_toList_iff.mp hs
  reached q hq := ⟨q, Array.mem_toList_iff.mpr hq, .refl⟩
  closed := by simp

theorem Closing.follow {seeds : List Nat} {active : Threads p.size} {i : Nat}
    (h : Closing p seeds active i) (hi : i < active.dense.size) :
    Closing p seeds (active.follow p.code active.dense[i]) (i + 1) where
  seeds_mem s hs := (active.mem_follow _ s).mpr (.inl (h.seeds_mem s hs))
  reached q hq := by
    rcases (active.mem_follow _ q).mp hq with hq | ⟨-, heps⟩
    · exact h.reached q hq
    · obtain ⟨s, hs, hrun⟩ := h.reached _ (Array.getElem_mem hi)
      exact ⟨s, hs, hrun.tail heps⟩
  closed x hx q heps hq := by
    obtain ⟨xs, hxs⟩ := active.exists_toList_follow p.code active.dense[i]
    rw [take_succ_of_grown hxs hi, List.mem_append, List.mem_singleton] at hx
    rcases hx with hx | rfl
    · exact (active.mem_follow _ q).mpr (.inl (h.closed x hx q heps hq))
    · exact (active.mem_follow _ q).mpr (.inr ⟨hq, heps⟩)

theorem Closing.mem_iff {seeds : List Nat} {active : Threads p.size} {i : Nat}
    (h : Closing p seeds active i) (hi : active.dense.size ≤ i) (q : Nat) :
    q ∈ active.dense ↔ q < p.size ∧ ∃ s ∈ seeds, ReflTransGen (Eps p.fetch) s q := by
  constructor
  · intro hq
    exact ⟨active.lt_of_mem hq, h.reached q hq⟩
  · rintro ⟨hq, s, hs, hrun⟩
    have hall : active.dense.toList.take i = active.dense.toList :=
      List.take_of_length_le (by simpa using hi)
    revert hq
    induction hrun with
    | refl => exact fun _ => h.seeds_mem s hs
    | @tail x y _ heps ih =>
      intro hq
      have hx := ih (Program.lt_size_of_fetch_isSome heps.fetch_isSome)
      have hx' : x ∈ active.dense.toList.take i := by
        rw [hall]
        exact Array.mem_toList_iff.mpr hx
      exact h.closed x hx' y heps hq

theorem scan_spec (e : Element) (seeds : List Nat) (active next : Threads p.size) (i : Nat)
    (hc : Closing p seeds active i)
    (hn : ∀ q, q ∈ next.dense ↔
      q < p.size ∧ ∃ x ∈ active.dense.toList.take i, Reads p.fetch e x q) :
    (∀ q, q ∈ (scan p e active next i).1.dense ↔
        q < p.size ∧ ∃ s ∈ seeds, ReflTransGen (Eps p.fetch) s q) ∧
      ∀ q, q ∈ (scan p e active next i).2.dense ↔
        q < p.size ∧ ∃ x ∈ (scan p e active next i).1.dense, Reads p.fetch e x q := by
  fun_induction scan p e active next i with
  | case1 active next i hi pc ih =>
    apply ih (hc.follow hi)
    intro q
    obtain ⟨xs, hxs⟩ := active.exists_toList_follow p.code pc
    rw [Threads.mem_advance, hn, take_succ_of_grown hxs hi]
    simp only [List.mem_append, List.mem_singleton]
    constructor
    · rintro (⟨hq, x, hx, hread⟩ | ⟨hq, hread⟩)
      · exact ⟨hq, x, .inl hx, hread⟩
      · exact ⟨hq, pc, .inr rfl, hread⟩
    · rintro ⟨hq, x, hx | rfl, hread⟩
      · exact .inl ⟨hq, x, hx, hread⟩
      · exact .inr ⟨hq, hread⟩
  | case2 active next i hi =>
    have hle : active.dense.size ≤ i := Nat.le_of_not_lt hi
    refine ⟨hc.mem_iff hle, fun q => ?_⟩
    rw [hn, List.take_of_length_le (by simpa using hle)]
    simp only [Array.mem_toList_iff]

theorem any_isAccept_iff (pc : Nat) :
    p.code[pc]?.any Instruction.isAccept = true ↔ p.fetch pc = some .accept := by
  unfold Program.fetch
  cases p.code[pc]? with
  | none => simp
  | some i => cases i <;> simp [Instruction.isAccept]

theorem finish_spec (seeds : List Nat) (active : Threads p.size) (i : Nat)
    (hc : Closing p seeds active i)
    (hacc : ∀ x ∈ active.dense.toList.take i, p.fetch x ≠ some .accept) :
    (finish p active i).1 = true ↔
      ∃ q, q < p.size ∧ (∃ s ∈ seeds, ReflTransGen (Eps p.fetch) s q) ∧
        p.fetch q = some .accept := by
  fun_induction finish p active i with
  | case1 active i hi pc hpc =>
    simp only [true_iff]
    have hmem : pc ∈ active.dense := Array.getElem_mem hi
    exact ⟨pc, active.lt_of_mem hmem, hc.reached pc hmem, (any_isAccept_iff pc).mp hpc⟩
  | case2 active i hi pc hpc ih =>
    apply ih (hc.follow hi)
    intro x hx
    obtain ⟨xs, hxs⟩ := active.exists_toList_follow p.code pc
    rw [take_succ_of_grown hxs hi, List.mem_append, List.mem_singleton] at hx
    rcases hx with hx | rfl
    · exact hacc x hx
    · exact fun h => hpc ((any_isAccept_iff _).mpr h)
  | case3 active i hi =>
    have hle : active.dense.size ≤ i := Nat.le_of_not_lt hi
    simp only [Bool.false_eq_true, false_iff, not_exists, not_and]
    rintro q hq ⟨s, hs, hrun⟩ hqacc
    have hmem := (hc.mem_iff hle q).mpr ⟨hq, s, hs, hrun⟩
    have hmem' : q ∈ active.dense.toList.take i := by
      rw [List.take_of_length_le (by simpa using hle)]
      exact Array.mem_toList_iff.mpr hmem
    exact hacc q hmem' hqacc

theorem exists_acceptsFrom_scan (e : Element) (es : List Element) (active next : Threads p.size)
    (hn : next.dense = #[]) :
    (∃ s ∈ active.dense, p.AcceptsFrom s (e :: es)) ↔
      ∃ q ∈ (scan p e active next 0).2.dense, p.AcceptsFrom q es := by
  obtain ⟨hact, hnext⟩ :=
    scan_spec e active.dense.toList active next 0 (Closing.start active) (by simp [hn])
  constructor
  · rintro ⟨s, hs, hrun⟩
    obtain ⟨c, q, hc, hread, hacc⟩ := (Program.acceptsFrom_cons_iff s e es).mp hrun
    have hcmem := (hact c).mpr
      ⟨Program.lt_size_of_fetch_isSome hread.fetch_isSome, s, Array.mem_toList_iff.mpr hs, hc⟩
    exact ⟨q, (hnext q).mpr ⟨hacc.lt_size, c, hcmem, hread⟩, hacc⟩
  · rintro ⟨q, hq, hacc⟩
    obtain ⟨-, c, hcmem, hread⟩ := (hnext q).mp hq
    obtain ⟨-, s, hs, hc⟩ := (hact c).mp hcmem
    exact ⟨s, Array.mem_toList_iff.mp hs, (Program.acceptsFrom_cons_iff s e es).mpr
      ⟨c, q, hc, hread, hacc⟩⟩

theorem walk_iff (m : Machine) (path : List Element) (hn : m.next.dense = #[]) :
    (m.walk path).1 = true ↔ ∃ s ∈ m.active.dense, m.program.AcceptsFrom s path := by
  induction path generalizing m with
  | nil =>
    rw [walk, finish_spec m.active.dense.toList m.active 0 (Closing.start _) (by simp)]
    simp only [Program.acceptsFrom_nil_iff]
    constructor
    · rintro ⟨q, -, ⟨s, hs, hrun⟩, hacc⟩
      exact ⟨s, Array.mem_toList_iff.mp hs, q, hrun, hacc⟩
    · rintro ⟨s, hs, q, hrun, hacc⟩
      exact ⟨q, Program.lt_size_of_fetch_isSome (by simp [hacc]),
        ⟨s, Array.mem_toList_iff.mpr hs, hrun⟩, hacc⟩
  | cons e es ih =>
    rw [walk, exists_acceptsFrom_scan e es m.active m.next hn]
    split
    · rename_i hempty
      simp only [Bool.false_eq_true, false_iff, not_exists, not_and]
      intro q hq
      simp only [Array.isEmpty_iff] at hempty
      simp [hempty] at hq
    · exact ih _ (Threads.dense_clear _)

theorem run_eq_true_iff (m : Machine) (path : List Element) :
    (m.run path).1 = true ↔ m.program.Accepts path := by
  unfold run
  split
  · rename_i h0
    simp only [Bool.false_eq_true, false_iff]
    intro hacc
    have := hacc.lt_size
    omega
  · rename_i h0
    rw [walk_iff _ path (Threads.dense_clear _)]
    simp only [Threads.mem_add, Threads.dense_clear, Array.not_mem_empty, false_or]
    constructor
    · rintro ⟨s, ⟨rfl, -⟩, hacc⟩
      exact hacc
    · intro hacc
      exact ⟨0, ⟨rfl, Nat.pos_of_ne_zero h0⟩, hacc⟩

/-- Whatever state earlier paths left it in, the machine accepts a path exactly when some run of
its program reads the whole path from address 0 and then stands at an `accept`. -/
theorem run_iff_accepts (m : Machine) (path : List Element) :
    (m.run path).1 = true ↔ m.program.Accepts path :=
  run_eq_true_iff m path

end Machine

end TreeSelect
