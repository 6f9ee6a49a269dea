import Mathlib.Logic.Relation
import TreeSelect.Program.Basic

namespace TreeSelect

open Relation

/-- A move that reads nothing, where `fetch` gives the instruction at each address: a jump to
its target, a split to either of its targets. -/
inductive Eps (fetch : Nat → Option Instruction) : Nat → Nat → Prop
  | jump {pc a : Nat} : fetch pc = some (.jump a) → Eps fetch pc a
  | splitLeft {pc a b : Nat} : fetch pc = some (.split a b) → Eps fetch pc a
  | splitRight {pc a b : Nat} : fetch pc = some (.split a b) → Eps fetch pc b

/-- The thread at `pc` reads the node `e` and goes on at `q`. -/
def Reads (fetch : Nat → Option Instruction) (e : Element) (pc q : Nat) : Prop :=
  ∃ r, fetch pc = some (.predict r) ∧ r.test e = true ∧ q = pc + 1

/-- A move of a thread that stands at an address with the rest of the path to read. -/
inductive Move (fetch : Nat → Option Instruction) : Nat × List Element → Nat × List Element → Prop
  | eps {pc q : Nat} {w : List Element} : Eps fetch pc q → Move fetch (pc, w) (q, w)
  | read {pc q : Nat} {e : Element} {w : List Element} :
      Reads fetch e pc q → Move fetch (pc, e :: w) (q, w)

section Moves

variable {fetch : Nat → Option Instruction}

theorem Eps.fetch_isSome {pc q : Nat} (h : Eps fetch pc q) : (fetch pc).isSome := by
  cases h <;> simp_all

theorem Reads.fetch_isSome {e : Element} {pc q : Nat} (h : Reads fetch e pc q) :
    (fetch pc).isSome := by
  obtain ⟨r, hr, -⟩ := h
  simp [hr]

theorem Move.fetch_isSome {s t : Nat × List Element} (h : Move fetch s t) :
    (fetch s.1).isSome := by
  cases h with
  | eps h => exact h.fetch_isSome
  | read h => exact h.fetch_isSome

theorem moves_of_eps {pc q : Nat} (h : ReflTransGen (Eps fetch) pc q)
    (w : List Element) : ReflTransGen (Move fetch) (pc, w) (q, w) := by
  induction h with
  | refl => exact .refl
  | tail _ hstep ih => exact ih.tail (.eps hstep)

theorem eps_of_moves_nil {pc : Nat} {t : Nat × List Element}
    (h : ReflTransGen (Move fetch) (pc, []) t) :
    ∃ q, t = (q, []) ∧ ReflTransGen (Eps fetch) pc q := by
  induction h with
  | refl => exact ⟨pc, rfl, .refl⟩
  | tail _ hstep ih =>
    obtain ⟨q, rfl, hq⟩ := ih
    cases hstep with
    | eps h => exact ⟨_, rfl, hq.tail h⟩

theorem moves_cons_cases {pc : Nat} {e : Element} {w : List Element}
    {t : Nat × List Element} (h : ReflTransGen (Move fetch) (pc, e :: w) t) :
    (∃ q, t = (q, e :: w) ∧ ReflTransGen (Eps fetch) pc q) ∨
      ∃ c q, ReflTransGen (Eps fetch) pc c ∧ Reads fetch e c q ∧
        ReflTransGen (Move fetch) (q, w) t := by
  generalize hs : (pc, e :: w) = s at h
  induction h using ReflTransGen.head_induction_on generalizing pc with
  | refl =>
    subst hs
    exact .inl ⟨pc, rfl, .refl⟩
  | head hstep hrest ih =>
    subst hs
    cases hstep with
    | eps hpc =>
      rcases ih rfl with ⟨q, rfl, hq⟩ | ⟨c, q, hc, hread, hrun⟩
      · exact .inl ⟨q, rfl, .head hpc hq⟩
      · exact .inr ⟨c, q, .head hpc hc, hread, hrun⟩
    | read hread => exact .inr ⟨_, _, .refl, hread, hrest⟩

end Moves

namespace Program

/-- The instruction at an address, if the program has one there. -/
def fetch (p : Program) (pc : Nat) : Option Instruction := p.code[pc]?

theorem lt_size_of_fetch_isSome {p : Program} {pc : Nat} (h : (p.fetch pc).isSome) :
    pc < p.size := by
  simpa [fetch, size] using h

/-- From address `s`, some run reads all of `w` and then stands at an `accept`. -/
def AcceptsFrom (p : Program) (s : Nat) (w : List Element) : Prop :=
  ∃ pc, ReflTransGen (Move p.fetch) (s, w) (pc, []) ∧ p.fetch pc = some .accept

/-- The program accepts a path when some run from address 0 reads the whole path and then
stands at an `accept`. A thread that stands at an `accept` before the path ends does not
accept. -/
def Accepts (p : Program) (path : List Element) : Prop := p.AcceptsFrom 0 path

variable {p : Program}

theorem acceptsFrom_nil_iff (s : Nat) :
    p.AcceptsFrom s [] ↔ ∃ q, ReflTransGen (Eps p.fetch) s q ∧ p.fetch q = some .accept := by
  constructor
  · rintro ⟨pc, hrun, hacc⟩
    obtain ⟨q, hq, heps⟩ := eps_of_moves_nil hrun
    cases hq
    exact ⟨pc, heps, hacc⟩
  · rintro ⟨q, heps, hacc⟩
    exact ⟨q, moves_of_eps heps [], hacc⟩

theorem acceptsFrom_cons_iff (s : Nat) (e : Element) (w : List Element) :
    p.AcceptsFrom s (e :: w) ↔
      ∃ c q, ReflTransGen (Eps p.fetch) s c ∧ Reads p.fetch e c q ∧ p.AcceptsFrom q w := by
  constructor
  · rintro ⟨pc, hrun, hacc⟩
    rcases moves_cons_cases hrun with ⟨q, hq, -⟩ | ⟨c, q, hc, hread, hrest⟩
    · cases hq
    · exact ⟨c, q, hc, hread, pc, hrest, hacc⟩
  · rintro ⟨c, q, hc, hread, pc, hrest, hacc⟩
    refine ⟨pc, ?_, hacc⟩
    exact (moves_of_eps hc (e :: w)).trans (.head (.read hread) hrest)

theorem AcceptsFrom.lt_size {s : Nat} {w : List Element} (h : p.AcceptsFrom s w) :
    s < p.size := by
  obtain ⟨pc, hrun, hacc⟩ := h
  rcases hrun.cases_head with hs | ⟨t, hstep, -⟩
  · cases hs
    exact lt_size_of_fetch_isSome (by simp [hacc])
  · exact lt_size_of_fetch_isSome hstep.fetch_isSome

end Program

end TreeSelect
