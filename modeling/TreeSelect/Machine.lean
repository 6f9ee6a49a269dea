import TreeSelect.Program.Basic

namespace TreeSelect

/-- A set of addresses below `size`. `dense` lists the members in the order they were added, and
an address is a member exactly when its stamp is the current generation. -/
structure Threads (size : Nat) where
  dense : Array Nat
  stamps : Array UInt32
  generation : UInt32
  size_stamps : stamps.size = size
  generation_ne_zero : generation ≠ 0
  stamp_le : ∀ pc (h : pc < stamps.size), stamps[pc] ≤ generation
  mem_dense : ∀ pc, pc ∈ dense ↔ ∃ h : pc < stamps.size, stamps[pc] = generation
  nodup : dense.toList.Nodup

namespace Threads

variable {n : Nat}

def new (n : Nat) : Threads n where
  dense := #[]
  stamps := Array.replicate n 0
  generation := 1
  size_stamps := by simp
  generation_ne_zero := by decide
  stamp_le := by simp
  mem_dense := by simp
  nodup := by simp

def contains (t : Threads n) (pc : Nat) : Bool := t.stamps[pc]? == some t.generation

theorem contains_iff (t : Threads n) (pc : Nat) : t.contains pc = true ↔ pc ∈ t.dense := by
  rw [t.mem_dense]
  simp [contains, getElem?_eq_some_iff]

theorem stamp_set_le (t : Threads n) {pc : Nat} (h : pc < t.stamps.size) :
    ∀ j (hj : j < (t.stamps.set pc t.generation h).size),
      (t.stamps.set pc t.generation h)[j] ≤ t.generation := by
  intro j hj
  rw [Array.getElem_set]
  split
  · exact UInt32.le_refl _
  · exact t.stamp_le j (by simpa using hj)

theorem mem_push_iff_stamp_set (t : Threads n) {pc : Nat} (h : pc < t.stamps.size) :
    ∀ x, x ∈ t.dense.push pc ↔
      ∃ hx : x < (t.stamps.set pc t.generation h).size,
        (t.stamps.set pc t.generation h)[x] = t.generation := by
  intro x
  rw [Array.mem_push, t.mem_dense]
  by_cases hx : x = pc
  · subst hx
    simp [h]
  · have hne : pc ≠ x := Ne.symm hx
    simp [Array.getElem_set, hne, hx]

theorem nodup_push (t : Threads n) {pc : Nat} (hc : t.contains pc = false) :
    (t.dense.push pc).toList.Nodup := by
  have hm : pc ∉ t.dense := by
    rw [← contains_iff]
    simp [hc]
  rw [Array.toList_push, List.nodup_append]
  refine ⟨t.nodup, by simp, ?_⟩
  intro a ha b hb
  rw [List.mem_singleton] at hb
  subst hb
  exact fun he => hm (he ▸ Array.mem_def.mpr ha)

/-- Add an address unless it is a member already. An address past the end, which no program
of the machine produces, is left out. -/
def add (t : Threads n) (pc : Nat) : Threads n :=
  if hc : t.contains pc then t
  else if h : pc < t.stamps.size then
    { dense := t.dense.push pc
      stamps := t.stamps.set pc t.generation h
      generation := t.generation
      size_stamps := by simpa using t.size_stamps
      generation_ne_zero := t.generation_ne_zero
      stamp_le := t.stamp_set_le h
      mem_dense := t.mem_push_iff_stamp_set h
      nodup := t.nodup_push (by simpa using hc) }
  else t

theorem stamp_lt_succ (t : Threads n) (hg : t.generation + 1 ≠ 0) :
    ∀ pc (h : pc < t.stamps.size), t.stamps[pc] < t.generation + 1 := by
  intro pc h
  have hle := UInt32.le_iff_toNat_le.mp (t.stamp_le pc h)
  have hlt := UInt32.toNat_lt t.generation
  have hsucc : (t.generation + 1).toNat = t.generation.toNat + 1 := by
    have h0 : (t.generation + 1).toNat ≠ 0 := fun h0 => hg (UInt32.toNat_inj.mp h0)
    have h1 : (1 : UInt32).toNat = 1 := rfl
    rw [UInt32.toNat_add, h1] at h0 ⊢
    omega
  rw [UInt32.lt_iff_toNat_lt, hsucc]
  omega

/-- Empty the set by moving to the next generation; when the generation counter wraps to 0,
every stamp is reset and the generation starts again at 1. -/
def clear (t : Threads n) : Threads n :=
  if hg : t.generation + 1 = 0 then
    { dense := #[]
      stamps := Array.replicate t.stamps.size 0
      generation := 1
      size_stamps := by simpa using t.size_stamps
      generation_ne_zero := by decide
      stamp_le := by simp
      mem_dense := by simp
      nodup := by simp }
  else
    { dense := #[]
      stamps := t.stamps
      generation := t.generation + 1
      size_stamps := t.size_stamps
      generation_ne_zero := hg
      stamp_le := fun pc h => UInt32.le_of_lt (t.stamp_lt_succ hg pc h)
      mem_dense := fun pc => by
        simpa using fun h => UInt32.ne_of_lt (t.stamp_lt_succ hg pc h)
      nodup := by simp }

theorem size_dense_le (t : Threads n) : t.dense.size ≤ n := by
  have hsub : t.dense.toList ⊆ List.range n := by
    intro pc hpc
    obtain ⟨h, _⟩ := (t.mem_dense pc).mp (Array.mem_def.mpr hpc)
    rw [List.mem_range]
    exact t.size_stamps ▸ h
  simpa using t.nodup.length_le_of_subset hsub

/-- Add the targets of the epsilon moves of the instruction at `pc`: the target of a jump, the
two targets of a split in order. -/
def follow (t : Threads n) (code : Array Instruction) (pc : Nat) : Threads n :=
  match code[pc]? with
  | some (.jump a) => t.add a
  | some (.split a b) => (t.add a).add b
  | _ => t

/-- Add the address after `pc` when the instruction there is a `predict` whose predicate the
node passes. -/
def advance (t : Threads n) (code : Array Instruction) (e : Element) (pc : Nat) : Threads n :=
  match code[pc]? with
  | some (.predict q) => if q.test e then t.add (pc + 1) else t
  | _ => t

theorem lt_of_mem (t : Threads n) {pc : Nat} (h : pc ∈ t.dense) : pc < n := by
  obtain ⟨hlt, _⟩ := (t.mem_dense pc).mp h
  exact t.size_stamps ▸ hlt

theorem mem_add (t : Threads n) (pc x : Nat) :
    x ∈ (t.add pc).dense ↔ x ∈ t.dense ∨ (x = pc ∧ pc < n) := by
  unfold add
  split
  · rename_i hc
    have hpc := (t.contains_iff pc).mp hc
    constructor
    · exact Or.inl
    · rintro (hx | ⟨rfl, _⟩)
      · exact hx
      · exact hpc
  · split
    · rename_i h
      simp only [Array.mem_push]
      have hn : pc < n := t.size_stamps ▸ h
      constructor
      · rintro (hx | rfl)
        · exact Or.inl hx
        · exact Or.inr ⟨rfl, hn⟩
      · rintro (hx | ⟨rfl, _⟩)
        · exact Or.inl hx
        · exact Or.inr rfl
    · rename_i h
      constructor
      · exact Or.inl
      · rintro (hx | ⟨rfl, hn⟩)
        · exact hx
        · rw [t.size_stamps] at h
          exact absurd hn h

theorem exists_toList_add (t : Threads n) (pc : Nat) :
    ∃ xs, (t.add pc).dense.toList = t.dense.toList ++ xs := by
  unfold add
  split
  · exact ⟨[], by simp⟩
  · split
    · exact ⟨[pc], by simp⟩
    · exact ⟨[], by simp⟩

theorem exists_toList_follow (t : Threads n) (code : Array Instruction) (pc : Nat) :
    ∃ xs, (t.follow code pc).dense.toList = t.dense.toList ++ xs := by
  unfold follow
  split
  · exact t.exists_toList_add _
  · obtain ⟨xs, hx⟩ := t.exists_toList_add _
    obtain ⟨ys, hy⟩ := (t.add _).exists_toList_add _
    exact ⟨xs ++ ys, by rw [hy, hx, List.append_assoc]⟩
  · exact ⟨[], by simp⟩

@[simp] theorem dense_new : (Threads.new n).dense = #[] := rfl

@[simp] theorem dense_clear (t : Threads n) : t.clear.dense = #[] := by
  unfold clear
  split <;> rfl

end Threads

/-- A machine running one program: the active threads and the threads for the next node. -/
structure Machine where
  program : Program
  active : Threads program.size
  next : Threads program.size

namespace Machine

def new (p : Program) : Machine := ⟨p, .new p.size, .new p.size⟩

/-- Read one node: scan the active threads from position `i` in the order they were added,
adding the targets of jumps and splits to the active set as the scan goes, and the address after
each `predict` whose predicate the node passes to the next set. -/
def scan (p : Program) (e : Element) (active next : Threads p.size) (i : Nat) :
    Threads p.size × Threads p.size :=
  if h : i < active.dense.size then
    let pc := active.dense[i]
    scan p e (active.follow p.code pc) (next.advance p.code e pc) (i + 1)
  else (active, next)
termination_by p.size - i
decreasing_by have := active.size_dense_le; omega

/-- After the last node: scan the active threads from position `i`, adding the targets of jumps
and splits as the scan goes, and stop at the first `accept`. -/
def finish (p : Program) (active : Threads p.size) (i : Nat) : Bool × Threads p.size :=
  if h : i < active.dense.size then
    let pc := active.dense[i]
    if p.code[pc]?.any Instruction.isAccept then (true, active)
    else finish p (active.follow p.code pc) (i + 1)
  else (false, active)
termination_by p.size - i
decreasing_by have := active.size_dense_le; omega

/-- Run the nodes of a path from the active threads: after each node the two sets change
places and the old active set is cleared; when no thread survives a node the path is refused. -/
def walk (m : Machine) : List Element → Bool × Machine
  | [] =>
    let r := finish m.program m.active 0
    (r.1, { m with active := r.2 })
  | e :: es =>
    let r := scan m.program e m.active m.next 0
    let m : Machine := { m with active := r.2, next := r.1.clear }
    if m.active.dense.isEmpty then (false, m) else m.walk es

/-- Whether the program accepts exactly this path, and the machine after the run. Both sets are
cleared and the active one seeded with address 0; an empty program accepts nothing. -/
def run (m : Machine) (path : List Element) : Bool × Machine :=
  if m.program.size = 0 then (false, m)
  else
    let m : Machine := { m with active := (m.active.clear).add 0, next := m.next.clear }
    m.walk path

end Machine

namespace Program

def accepts (p : Program) (path : List Element) : Bool := ((Machine.new p).run path).1

end Program

end TreeSelect
