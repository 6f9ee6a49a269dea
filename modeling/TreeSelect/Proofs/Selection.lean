import TreeSelect.Forest.Select
import TreeSelect.Proofs.Simulation
import TreeSelect.Proofs.Preorder

namespace TreeSelect

open Forest

namespace Machine

theorem program_walk (m : Machine) (path : List Element) :
    (m.walk path).2.program = m.program := by
  induction path generalizing m with
  | nil => rfl
  | cons e es ih =>
    simp only [walk]
    split
    · rfl
    · exact ih _

theorem program_run (m : Machine) (path : List Element) : (m.run path).2.program = m.program := by
  unfold run
  split
  · rfl
  · exact program_walk _ _

theorem run_eq_accepts (m : Machine) (path : List Element) :
    (m.run path).1 = m.program.accepts path := by
  rw [Bool.eq_iff_iff, run_eq_true_iff, Program.accepts, run_eq_true_iff]
  rfl

variable {f : Forest} {p : Program} {P : Nat → List Element}
  {fuel x d r : Nat} {m : Machine} {path : List Element} {stack : List (Nat × Nat)}
  {found : List Nat}

theorem selectWalk_nil (fuel : Nat) (m : Machine) (path : List Element) (found : List Nat) :
    selectWalk f fuel m path [] found = (found, m) := by
  cases fuel <;> rfl

theorem selectWalk_unknown (hx : f.get? x = none) :
    selectWalk f (fuel + 1) m path ((x, d) :: stack) found =
      selectWalk f fuel m path stack found := by
  simp [selectWalk, hx]

theorem selectWalk_visit {e : Entry} (hx : f.get? x = some e) :
    selectWalk f (fuel + 1) m path ((x, d) :: stack) found =
      selectWalk f fuel (m.run (path.take d ++ [e.elem])).2 (path.take d ++ [e.elem])
        (e.children.map (·, d + 1) ++ stack)
        (if m.program.accepts (path.take d ++ [e.elem]) then found ++ [x] else found) := by
  simp [selectWalk, hx, run_eq_accepts]

/-- The walk over the subtree under `x`, at depth `d` below the path `above`: it spends one pass
on each node that `preorderUpTo h x` lists, finds those whose path `P` the program accepts, and
gives the path back as it found it up to depth `d`; the stack below is left for later. -/
def WalksSubtree (f : Forest) (p : Program) (P : Nat → List Element) (h x d : Nat)
    (above : List Element) : Prop :=
  ∀ fuel (m : Machine) path stack found, m.program = p → path.take d = above →
    ∃ (m' : Machine) (path' : List Element), m'.program = p ∧ path'.take d = above ∧
      selectWalk f (fuel + (f.preorderUpTo h x).length) m path ((x, d) :: stack) found =
        selectWalk f fuel m' path' stack
          (found ++ (f.preorderUpTo h x).filter fun y => p.accepts (P y))

theorem walksChildren {h d : Nat} {above : List Element} :
    ∀ cs : List Nat, (∀ c ∈ cs, WalksSubtree f p P h c d above) →
      ∀ fuel (m : Machine) path stack found, m.program = p → path.take d = above →
        ∃ (m' : Machine) (path' : List Element), m'.program = p ∧ path'.take d = above ∧
          selectWalk f (fuel + (cs.flatMap (f.preorderUpTo h)).length) m path
              (cs.map (·, d) ++ stack) found =
            selectWalk f fuel m' path' stack
              (found ++ (cs.flatMap (f.preorderUpTo h)).filter fun y => p.accepts (P y)) := by
  intro cs
  induction cs with
  | nil =>
    intro _ fuel m path stack found hm hpath
    exact ⟨m, path, hm, hpath, by simp⟩
  | cons c cs ih =>
    intro hcs fuel m path stack found hm hpath
    obtain ⟨m₁, path₁, hm₁, hpath₁, hwalk₁⟩ :=
      hcs c List.mem_cons_self (fuel + (cs.flatMap (f.preorderUpTo h)).length) m path
        (cs.map (·, d) ++ stack) found hm hpath
    obtain ⟨m₂, path₂, hm₂, hpath₂, hwalk₂⟩ :=
      ih (fun c' hc' => hcs c' (List.mem_cons_of_mem c hc')) fuel m₁ path₁ stack _ hm₁ hpath₁
    refine ⟨m₂, path₂, hm₂, hpath₂, ?_⟩
    rw [List.flatMap_cons, List.length_append, List.map_cons, List.cons_append,
      show fuel + ((f.preorderUpTo h c).length + (cs.flatMap (f.preorderUpTo h)).length) =
        fuel + (cs.flatMap (f.preorderUpTo h)).length + (f.preorderUpTo h c).length by omega,
      hwalk₁, hwalk₂, List.filter_append, List.append_assoc]

theorem walksSubtree (hf : f.WellFormed) (P : Nat → List Element) :
    ∀ h x, Complete f h x → x < f.size →
      (∀ y c ec, Below f x y → c ∈ f.children y → f.get? c = some ec → P c = P y ++ [ec.elem]) →
      ∀ (d : Nat) (above : List Element), above.length = d →
        (∀ ex, f.get? x = some ex → P x = above ++ [ex.elem]) →
        WalksSubtree f p P h x d above := by
  intro h
  induction h with
  | zero =>
    intro x hcomplete hx _ d above hlen hPx fuel m path stack found hm hpath
    obtain ⟨ex, hex⟩ := exists_get?_of_lt hx
    have hleaf : ex.children = [] := by simpa [Complete, children, hex] using hcomplete
    refine ⟨(m.run (above ++ [ex.elem])).2, above ++ [ex.elem], (program_run _ _).trans hm,
      List.take_left' hlen, ?_⟩
    rw [preorderUpTo, List.length_singleton, selectWalk_visit hex, hpath, hleaf, hm, ← hPx ex hex]
    by_cases hacc : p.accepts (P x) <;> simp [hacc]
  | succ h ih =>
    intro x hcomplete hx hP d above hlen hPx fuel m path stack found hm hpath
    obtain ⟨ex, hex⟩ := exists_get?_of_lt hx
    have hkids : f.children x = ex.children := by simp [children, hex]
    have hchild : ∀ c ∈ ex.children, WalksSubtree f p P h c (d + 1) (above ++ [ex.elem]) := by
      intro c hc
      rw [← hkids] at hc
      refine ih c (hcomplete c hc) (hf.child_lt hc)
        (fun y c' ec hy hc' hec => hP y c' ec ((Below.refl.child hc).trans hy) hc' hec)
        (d + 1) (above ++ [ex.elem]) (by simp [hlen]) fun ec hec => ?_
      rw [hP x c ec .refl hc hec, hPx ex hex]
    obtain ⟨m', path', hm', hpath', hwalk⟩ :=
      walksChildren ex.children hchild fuel (m.run (above ++ [ex.elem])).2 (above ++ [ex.elem])
        stack (if p.accepts (above ++ [ex.elem]) then found ++ [x] else found)
        ((program_run _ _).trans hm) (List.take_of_length_le (by simp [hlen]))
    refine ⟨m', path', hm', ?_, ?_⟩
    · have hcut : path'.take d = (path'.take (d + 1)).take d := by
        rw [List.take_take, Nat.min_eq_left (by omega)]
      rw [hcut, hpath', List.take_left' hlen]
    · rw [preorderUpTo, List.length_cons, hkids, ← Nat.add_assoc, selectWalk_visit hex, hpath, hm,
        hwalk, ← hPx ex hex, List.filter_cons]
      by_cases hacc : p.accepts (P x) <;> simp [hacc]

theorem select_eq_filter (hf : f.WellFormed) (m : Machine) (r : Nat) :
    ∃ m', m'.program = m.program ∧
      m.select f r = ((f.descendants r).filter fun x =>
        m.program.accepts (f.elems (f.chainFrom r x)), m') := by
  by_cases hr : r < f.size
  · have hP : ∀ y c ec, Below f r y → c ∈ f.children y → f.get? c = some ec →
        f.elems (f.chainFrom r c) = f.elems (f.chainFrom r y) ++ [ec.elem] := by
      intro y c ec hy hc hec
      rw [hf.chainFrom_child hy hc, elems_append, elems_singleton hec]
    have hPr : ∀ ex, f.get? r = some ex → f.elems (f.chainFrom r r) = [] ++ [ex.elem] := by
      intro ex hex
      rw [chainFrom_self hr, elems_singleton hex, List.nil_append]
    have hlen := hf.length_descendants_le r
    rw [descendants, if_pos hr] at hlen ⊢
    obtain ⟨m', path', hm', -, hwalk⟩ :=
      walksSubtree hf _ f.size r (hf.complete_of_le hr (by omega)) hr hP 0 [] rfl hPr
        (f.size + 1 - (f.preorderUpTo f.size r).length) m [] [] [] rfl rfl
    refine ⟨m', hm', ?_⟩
    rw [select, ← Nat.sub_add_cancel (by omega : (f.preorderUpTo f.size r).length ≤ f.size + 1),
      hwalk, selectWalk_nil, List.nil_append]
  · refine ⟨m, rfl, ?_⟩
    rw [select, selectWalk_unknown (get?_eq_none (by omega)), selectWalk_nil,
      descendants_of_le (by omega), List.filter_nil]

theorem filter_chainFrom_of_root (hf : f.WellFormed) (hroot : f.parent? r = none)
    (q : List Element → Bool) :
    (f.descendants r).filter (fun x => q (f.elems (f.chainFrom r x))) =
      (f.descendants r).filter fun x => q (f.elems (f.path x)) := by
  refine List.filter_congr fun x hx => ?_
  obtain ⟨hr, hb⟩ := mem_descendants hx
  rw [hf.chainFrom_of_root hr hroot hb]

theorem selectAll_eq_flatMap (hf : f.WellFormed) :
    ∀ (roots : List Nat) (m : Machine), (∀ r ∈ roots, f.parent? r = none) →
      ∃ m', m'.program = m.program ∧
        m.selectAll f roots = (roots.flatMap fun r => (f.descendants r).filter fun x =>
          m.program.accepts (f.elems (f.path x)), m') := by
  intro roots
  induction roots with
  | nil => exact fun m _ => ⟨m, rfl, rfl⟩
  | cons r roots ih =>
    intro m hroots
    obtain ⟨m₁, hm₁, hsel⟩ := select_eq_filter hf m r
    obtain ⟨m₂, hm₂, hrest⟩ := ih m₁ fun r' hr' => hroots r' (List.mem_cons_of_mem r hr')
    refine ⟨m₂, hm₂.trans hm₁, ?_⟩
    rw [selectAll, hsel, hrest, hm₁, List.flatMap_cons,
      filter_chainFrom_of_root hf (hroots r List.mem_cons_self)]

end Machine

namespace Program

variable {f : Forest}

theorem select_eq_filter (hf : f.WellFormed) (p : Program) (r : Nat) :
    p.select f r = (f.descendants r).filter fun x => p.accepts (f.elems (f.chainFrom r x)) := by
  obtain ⟨m', -, hsel⟩ := (Machine.new p).select_eq_filter hf r
  rw [select, hsel]
  rfl

theorem selectAll_eq_flatMap (hf : f.WellFormed) (p : Program) :
    p.selectAll f = f.roots.flatMap fun r =>
      (f.descendants r).filter fun x => p.accepts (f.elems (f.path x)) := by
  have hroots : ∀ r ∈ f.roots, f.parent? r = none := by
    intro r hr
    rw [hf.roots_eq, List.mem_filter] at hr
    exact Option.isNone_iff_eq_none.mp hr.2
  obtain ⟨m', -, hsel⟩ := (Machine.new p).selectAll_eq_flatMap hf f.roots hroots
  rw [selectAll, hsel]
  rfl

/-- Selection over every forest that calls build from the empty forest. `select` from a node is
the node's subtree in pre-order, each node once, filtered by the program's answer on the chain of
elements down from that node; it is empty for an unknown node. `selectAll` joins these lists over
the roots in order, and below a root the chain is the path from the top of the tree. The two
entry points that compile a selector give the same for the compiled program. -/
theorem select_eq_filter_descendants (cs : List Forest.Call) (p : Program) (r : Nat) :
    let f := ({} : Forest).replay cs
    p.select f r = (f.descendants r).filter (fun x => p.accepts (f.elems (f.chainFrom r x))) ∧
    (p.select f r).Nodup ∧
    (r < f.size → f.descendants r = r :: (f.children r).flatMap f.descendants) ∧
    (f.size ≤ r → p.select f r = []) ∧
    p.selectAll f = f.roots.flatMap (fun r =>
      (f.descendants r).filter fun x => p.accepts (f.elems (f.path x))) ∧
    (∀ s, f.selectFrom r s = (fun q : Program =>
      (f.descendants r).filter fun x => q.accepts (f.elems (f.chainFrom r x))) <$>
        Program.compile s) ∧
    (∀ s, f.select s = (fun q : Program => f.roots.flatMap fun r =>
      (f.descendants r).filter fun x => q.accepts (f.elems (f.path x))) <$>
        Program.compile s) := by
  intro f
  have hf : f.WellFormed := wellFormed_empty.replay cs
  have hsel := select_eq_filter hf p r
  refine ⟨hsel, ?_, fun hr => hf.descendants_eq hr, fun hr => ?_, selectAll_eq_flatMap hf p,
    fun s => ?_, fun s => ?_⟩
  · rw [hsel]
    exact (hf.nodup_descendants r).filter _
  · rw [hsel, descendants_of_le hr, List.filter_nil]
  · unfold Forest.selectFrom
    congr 1
    funext q
    exact select_eq_filter hf q r
  · unfold Forest.select
    congr 1
    funext q
    exact selectAll_eq_flatMap hf q

end Program

end TreeSelect
