import Mathlib.Logic.Function.Iterate
import Mathlib.Data.Nat.Find
import Mathlib.Data.List.Nodup
import TreeSelect.Forest.Basic

namespace TreeSelect.Forest

/-- A call that changes the shape of a forest. -/
inductive Call where
  | add (e : Element)
  | append (parent : Nat) (e : Element)
  | setParent (child parent : Nat)

/-- Make a call: its answer (the new node's id for `add` and `append`) or its refusal, and the
forest after it. A refused call leaves the forest as it was. -/
def call (f : Forest) : Call → Except TreeError (Option Nat) × Forest
  | .add e => (.ok (some (f.add e).2), (f.add e).1)
  | .append p e =>
    match f.append p e with
    | .ok (g, id) => (.ok (some id), g)
    | .error err => (.error err, f)
  | .setParent c p =>
    match f.setParent c p with
    | .ok g => (.ok none, g)
    | .error err => (.error err, f)

/-- The forest after a sequence of calls. -/
def replay (f : Forest) (cs : List Call) : Forest := cs.foldl (fun f c => (f.call c).2) f

/-- One step along the parent links; a node without a parent stays where it is. -/
def up (f : Forest) (x : Nat) : Nat := (f.parent? x).getD x

variable {f g : Forest} {e : Element} {x c p id : Nat}

section Views

theorem get?_eq_none (h : f.size ≤ x) : f.get? x = none := by
  simp only [get?, size] at *
  exact Array.getElem?_eq_none h

theorem exists_get?_of_lt (h : x < f.size) : ∃ en, f.get? x = some en :=
  ⟨f.entries[x], Array.getElem?_eq_getElem h⟩

theorem parent?_eq_none_of_le (h : f.size ≤ x) : f.parent? x = none := by
  simp [parent?, get?_eq_none h]

theorem children_eq_nil_of_le (h : f.size ≤ x) : f.children x = [] := by
  simp [children, get?_eq_none h]

theorem lt_size_of_parent?_eq_some (h : f.parent? x = some p) : x < f.size := by
  by_contra hx
  rw [parent?_eq_none_of_le (Nat.le_of_not_lt hx)] at h
  cases h

theorem lt_size_of_mem_children (h : x ∈ f.children p) : p < f.size := by
  by_contra hp
  rw [children_eq_nil_of_le (Nat.le_of_not_lt hp)] at h
  cases h

@[simp] theorem size_add : (f.add e).1.size = f.size + 1 := by
  simp [add, size]

@[simp] theorem roots_add : (f.add e).1.roots = f.roots ++ [f.size] := rfl

@[simp] theorem id_add : (f.add e).2 = f.size := rfl

theorem get?_add : (f.add e).1.get? x = if x = f.size then some { elem := e } else f.get? x := by
  unfold add get?
  rw [Array.getElem?_push]
  rfl

@[simp] theorem parent?_add : (f.add e).1.parent? x = f.parent? x := by
  rw [parent?, get?_add]
  split
  · rename_i hx
    simp [parent?_eq_none_of_le (Nat.le_of_eq hx.symm)]
  · rfl

@[simp] theorem children_add : (f.add e).1.children x = f.children x := by
  rw [children, get?_add]
  split
  · rename_i hx
    simp [children_eq_nil_of_le (Nat.le_of_eq hx.symm)]
  · rfl

theorem elem?_add : (f.add e).1.elem? x = if x = f.size then some e else f.elem? x := by
  rw [elem?, get?_add]
  split <;> rfl

theorem append_ok_cases (h : f.append p e = .ok (g, id)) :
    p < f.size ∧ id = f.size ∧ g.size = f.size + 1 ∧ g.roots = f.roots ∧
      (∀ x, g.parent? x = if x = f.size then some p else f.parent? x) ∧
      (∀ x, g.children x = if x = p then f.children p ++ [f.size] else f.children x) ∧
      (∀ x, g.elem? x = if x = f.size then some e else f.elem? x) := by
  unfold append at h
  split at h
  · cases h
  rename_i pe hpe
  simp only [Except.ok.injEq, Prod.mk.injEq] at h
  obtain ⟨hg, rfl⟩ := h
  have hp : p < f.size := by
    by_contra hp
    rw [get?_eq_none (Nat.le_of_not_lt hp)] at hpe
    cases hpe
  have hget : ∀ x, g.get? x =
      if x = f.size then some { elem := e, parent := some p }
      else if x = p then some { pe with children := pe.children ++ [f.size] } else f.get? x := by
    intro x
    rw [← hg]
    simp only [get?, Array.set!_eq_setIfInBounds, Array.getElem?_push, Array.size_setIfInBounds,
      Array.getElem?_setIfInBounds]
    by_cases hx : x = f.size
    · simp [hx, size]
    · by_cases hxp : x = p
      · subst hxp
        have hx' : x ≠ f.entries.size := hx
        simp [hx, hx', show x < f.entries.size from hp]
      · simp [hxp, Ne.symm hxp, size]
  have hsize : g.size = f.size + 1 := by
    rw [← hg]
    simp [size]
  refine ⟨hp, rfl, hsize, by rw [← hg], fun x => ?_, fun x => ?_, fun x => ?_⟩
  · rw [parent?, hget]
    by_cases hx : x = f.size
    · simp [hx]
    · by_cases hxp : x = p
      · subst hxp
        simp [hx, parent?, hpe]
      · simp [hx, hxp, parent?]
  · rw [children, hget]
    by_cases hx : x = f.size
    · subst hx
      simp [Nat.ne_of_gt hp, children_eq_nil_of_le (Nat.le_refl _)]
    · by_cases hxp : x = p
      · subst hxp
        simp [hx, children, hpe]
      · simp [hx, hxp, children]
  · rw [elem?, hget]
    by_cases hx : x = f.size
    · simp [hx]
    · by_cases hxp : x = p
      · subst hxp
        simp [hx, elem?, hpe]
      · simp [hx, hxp, elem?]

theorem ancestorsUpTo_head (fuel x : Nat) : x ∈ f.ancestorsUpTo fuel x := by
  cases fuel with
  | zero => simp [ancestorsUpTo]
  | succ fuel =>
    simp only [ancestorsUpTo]
    split <;> simp

theorem mem_ancestors_self (hx : x < f.size) : x ∈ f.ancestors x := by
  simp only [ancestors, hx, if_true]
  exact ancestorsUpTo_head _ _

theorem setParent_ok_cases (h : f.setParent c p = .ok g) :
    c < f.size ∧ p < f.size ∧ f.parent? c = none ∧ c ∉ f.ancestors p ∧ g.size = f.size ∧
      g.roots = f.roots.filter (· != c) ∧
      (∀ x, g.parent? x = if x = c then some p else f.parent? x) ∧
      (∀ x, g.children x = if x = p then f.children p ++ [c] else f.children x) ∧
      (∀ x, g.elem? x = f.elem? x) := by
  unfold setParent at h
  split at h
  · cases h
  rename_i ce hce
  split at h
  · cases h
  rename_i hcp
  split at h
  · cases h
  rename_i pe hpe
  split at h
  · cases h
  rename_i hcyc
  simp only [Except.ok.injEq] at h
  have hc : c < f.size := by
    by_contra hc
    rw [get?_eq_none (Nat.le_of_not_lt hc)] at hce
    cases hce
  have hp : p < f.size := by
    by_contra hp
    rw [get?_eq_none (Nat.le_of_not_lt hp)] at hpe
    cases hpe
  have hanc : c ∉ f.ancestors p := by simpa using hcyc
  have hne : c ≠ p := by
    intro hcp
    subst hcp
    exact hanc (mem_ancestors_self hp)
  have hnone : f.parent? c = none := by simpa [parent?, hce] using hcp
  have hget : ∀ x, g.get? x =
      if x = p then some { pe with children := pe.children ++ [c] }
      else if x = c then some { ce with parent := some p } else f.get? x := by
    intro x
    rw [← h]
    simp only [get?, Array.set!_eq_setIfInBounds, Array.size_setIfInBounds,
      Array.getElem?_setIfInBounds]
    by_cases hxp : x = p
    · subst hxp
      simp [show x < f.entries.size from hp]
    · by_cases hxc : x = c
      · subst hxc
        simp [hxp, Ne.symm hxp, show x < f.entries.size from hc]
      · simp [hxp, hxc, Ne.symm hxp, Ne.symm hxc]
  have hsize : g.size = f.size := by
    rw [← h]
    simp [size]
  refine ⟨hc, hp, hnone, hanc, hsize, by rw [← h], fun x => ?_, fun x => ?_, fun x => ?_⟩
  · rw [parent?, hget]
    by_cases hxp : x = p
    · subst hxp
      simp [Ne.symm hne, parent?, hpe]
    · by_cases hxc : x = c
      · subst hxc
        simp [hne]
      · simp [hxp, hxc, parent?]
  · rw [children, hget]
    by_cases hxp : x = p
    · subst hxp
      simp [children, hpe]
    · by_cases hxc : x = c
      · subst hxc
        simp [hxp, children, hce]
      · simp [hxp, hxc, children]
  · rw [elem?, hget]
    by_cases hxp : x = p
    · subst hxp
      simp [elem?, hpe]
    · by_cases hxc : x = c
      · subst hxc
        simp [hxp, elem?, hce]
      · simp [hxp, hxc, elem?]

end Views

section Climb

theorem up_of_parent?_eq_some (h : f.parent? x = some p) : f.up x = p := by
  simp [up, h]

theorem up_of_parent?_eq_none (h : f.parent? x = none) : f.up x = x := by
  simp [up, h]

theorem iterate_up_of_root (h : f.parent? x = none) (k : Nat) : f.up^[k] x = x :=
  Function.iterate_fixed (up_of_parent?_eq_none h) k

theorem iterate_up_eq_of_avoid (hagree : ∀ y, y ≠ c → g.up y = f.up y) {k : Nat}
    (havoid : ∀ j < k, f.up^[j] x ≠ c) : g.up^[k] x = f.up^[k] x := by
  induction k with
  | zero => rfl
  | succ k ih =>
    rw [Function.iterate_succ_apply', Function.iterate_succ_apply',
      ih fun j hj => havoid j (by omega), hagree _ (havoid k (by omega))]

theorem exists_iterate_up_eq (hagree : ∀ y, y ≠ c → g.up y = f.up y) {k : Nat}
    (hk : f.up^[k] x = c) : ∃ m, g.up^[m] x = c := by
  induction k generalizing x with
  | zero => exact ⟨0, hk⟩
  | succ k ih =>
    by_cases hx : x = c
    · exact ⟨0, hx⟩
    · rw [Function.iterate_succ_apply] at hk
      obtain ⟨m, hm⟩ := ih hk
      exact ⟨m + 1, by rw [Function.iterate_succ_apply, hagree x hx, hm]⟩

theorem iterate_up_mem_ancestorsUpTo (fuel : Nat) :
    ∀ j x, j ≤ fuel → f.up^[j] x ∈ f.ancestorsUpTo fuel x := by
  induction fuel with
  | zero =>
    intro j x hj
    obtain rfl : j = 0 := by omega
    simp [ancestorsUpTo]
  | succ fuel ih =>
    intro j x hj
    cases hpx : f.parent? x with
    | none =>
      rw [iterate_up_of_root hpx]
      simp [ancestorsUpTo, hpx]
    | some q =>
      cases j with
      | zero => simp [ancestorsUpTo, hpx]
      | succ j =>
        rw [Function.iterate_succ_apply, up_of_parent?_eq_some hpx]
        simp [ancestorsUpTo, hpx, ih j q (by omega)]

end Climb

/-- The shape every call keeps: parent links point at nodes, a node has a parent exactly when
it is listed among that parent's children, no child is listed twice, the climb along parent
links reaches a node without a parent, and the roots are the nodes without a parent in the
order of their ids. -/
structure WellFormed (f : Forest) : Prop where
  parent_lt : ∀ {x p}, f.parent? x = some p → p < f.size
  parent?_eq_some_iff : ∀ {x p}, f.parent? x = some p ↔ x ∈ f.children p
  nodup_children : ∀ p, (f.children p).Nodup
  reaches_root : ∀ x, ∃ k, f.parent? (f.up^[k] x) = none
  roots_eq : f.roots = (List.range f.size).filter fun x => (f.parent? x).isNone

namespace WellFormed

variable (hf : f.WellFormed)
include hf

theorem child_lt (h : x ∈ f.children p) : x < f.size :=
  lt_size_of_parent?_eq_some (hf.parent?_eq_some_iff.mpr h)

theorem eq_of_mem_children {q : Nat} (hp : x ∈ f.children p) (hq : x ∈ f.children q) :
    p = q := by
  have h := hf.parent?_eq_some_iff.mpr hq
  rw [hf.parent?_eq_some_iff.mpr hp] at h
  exact Option.some.inj h

theorem not_mem_children_of_root (h : f.parent? x = none) (p : Nat) : x ∉ f.children p := by
  intro hx
  rw [hf.parent?_eq_some_iff.mpr hx] at h
  cases h

theorem up_lt (hx : x < f.size) : f.up x < f.size := by
  unfold up
  cases h : f.parent? x with
  | none => exact hx
  | some q => exact hf.parent_lt h

theorem iterate_up_lt (hx : x < f.size) (k : Nat) : f.up^[k] x < f.size := by
  induction k with
  | zero => exact hx
  | succ k ih =>
    rw [Function.iterate_succ_apply']
    exact hf.up_lt ih

theorem exists_root_lt (hx : x < f.size) : ∃ k < f.size, f.parent? (f.up^[k] x) = none := by
  classical
  have hex := hf.reaches_root x
  have hroot : f.parent? (f.up^[Nat.find hex] x) = none := Nat.find_spec hex
  have hshort : ∀ i j, i < j → j ≤ Nat.find hex → f.up^[i] x ≠ f.up^[j] x := by
    intro i j hij hj hsame
    have hjump : f.up^[Nat.find hex - (j - i)] x = f.up^[Nat.find hex] x := by
      calc f.up^[Nat.find hex - (j - i)] x = f.up^[Nat.find hex - j] (f.up^[i] x) := by
            rw [← Function.iterate_add_apply, show Nat.find hex - j + i =
              Nat.find hex - (j - i) by omega]
        _ = f.up^[Nat.find hex - j] (f.up^[j] x) := by rw [hsame]
        _ = f.up^[Nat.find hex] x := by
            rw [← Function.iterate_add_apply, show Nat.find hex - j + j = Nat.find hex by omega]
    exact Nat.find_min hex (by omega : Nat.find hex - (j - i) < Nat.find hex) (hjump ▸ hroot)
  have hnodup : ((List.range (Nat.find hex + 1)).map fun j => f.up^[j] x).Nodup := by
    refine List.Nodup.map_on (fun i hi j hj hij => ?_) List.nodup_range
    rw [List.mem_range] at hi hj
    by_contra hne
    rcases Nat.lt_or_gt_of_ne hne with hlt | hlt
    · exact hshort i j hlt (by omega) hij
    · exact hshort j i hlt (by omega) hij.symm
  have hsub : ((List.range (Nat.find hex + 1)).map fun j => f.up^[j] x) ⊆ List.range f.size := by
    intro y hy
    obtain ⟨j, -, rfl⟩ := List.mem_map.mp hy
    exact List.mem_range.mpr (hf.iterate_up_lt hx j)
  have hlen := hnodup.length_le_of_subset hsub
  simp only [List.length_map, List.length_range] at hlen
  exact ⟨Nat.find hex, by omega, hroot⟩

theorem iterate_up_mem_ancestors (hx : x < f.size) (j : Nat) : f.up^[j] x ∈ f.ancestors x := by
  rw [ancestors, if_pos hx]
  obtain ⟨k, hk, hroot⟩ := hf.exists_root_lt hx
  by_cases hj : j ≤ f.size
  · exact iterate_up_mem_ancestorsUpTo _ _ _ hj
  · -- past the root the climb stays there
    have hstay : f.up^[j] x = f.up^[k] x := by
      rw [show j = (j - k) + k by omega, Function.iterate_add_apply, iterate_up_of_root hroot]
    rw [hstay]
    exact iterate_up_mem_ancestorsUpTo _ _ _ (by omega)

end WellFormed

section Calls

theorem wellFormed_empty : WellFormed ({} : Forest) where
  parent_lt h := by
    rw [parent?_eq_none_of_le (Nat.zero_le _)] at h
    cases h
  parent?_eq_some_iff {x p} := by
    rw [parent?_eq_none_of_le (Nat.zero_le _), children_eq_nil_of_le (Nat.zero_le _)]
    simp
  nodup_children p := by
    rw [children_eq_nil_of_le (Nat.zero_le _)]
    exact List.nodup_nil
  reaches_root x := ⟨0, parent?_eq_none_of_le (Nat.zero_le _)⟩
  roots_eq := rfl

theorem WellFormed.add (hf : f.WellFormed) (e : Element) : (f.add e).1.WellFormed where
  parent_lt h := by
    rw [parent?_add] at h
    rw [size_add]
    exact Nat.lt_succ_of_lt (hf.parent_lt h)
  parent?_eq_some_iff {x p} := by
    rw [parent?_add, children_add]
    exact hf.parent?_eq_some_iff
  nodup_children p := by
    rw [children_add]
    exact hf.nodup_children p
  reaches_root x := by
    have hup : (f.add e).1.up = f.up := funext fun y => by simp [up]
    simpa [hup] using hf.reaches_root x
  roots_eq := by
    rw [roots_add, hf.roots_eq, size_add, List.range_succ, List.filter_append]
    simp [parent?_eq_none_of_le (Nat.le_refl f.size)]

theorem WellFormed.link (hf : f.WellFormed) (hle : f.size ≤ g.size) (hp : p < f.size)
    (hc : f.parent? c = none) (havoid : ∀ j, f.up^[j] p ≠ c)
    (hparent : ∀ x, g.parent? x = if x = c then some p else f.parent? x)
    (hchildren : ∀ x, g.children x = if x = p then f.children p ++ [c] else f.children x)
    (hroots : g.roots = (List.range g.size).filter fun x => (g.parent? x).isNone) :
    g.WellFormed where
  parent_lt {x q} h := by
    rw [hparent] at h
    split at h
    · cases h
      omega
    · exact Nat.lt_of_lt_of_le (hf.parent_lt h) hle
  parent?_eq_some_iff {x q} := by
    rw [hparent, hchildren]
    by_cases hx : x = c
    · -- `c` was listed nowhere, and now it is listed under `p` only
      subst hx
      by_cases hq : q = p
      · simp [hq]
      · simp [hq, Ne.symm hq, hf.not_mem_children_of_root hc]
    · by_cases hq : q = p
      · subst hq
        simp [hx, hf.parent?_eq_some_iff]
      · simp [hx, hq, hf.parent?_eq_some_iff]
  nodup_children q := by
    rw [hchildren]
    split
    · rename_i hq
      subst hq
      rw [List.nodup_append]
      refine ⟨hf.nodup_children q, List.nodup_singleton c, ?_⟩
      intro a ha b hb
      rw [List.mem_singleton] at hb
      subst hb
      rintro rfl
      exact hf.not_mem_children_of_root hc q ha
    · exact hf.nodup_children q
  reaches_root x := by
    have hagree : ∀ y, y ≠ c → g.up y = f.up y := fun y hy => by simp [up, hparent, hy]
    have hupc : g.up c = p := by simp [up, hparent]
    obtain ⟨kp, hkp⟩ := hf.reaches_root p
    have hfromp : g.parent? (g.up^[kp] p) = none := by
      rw [iterate_up_eq_of_avoid hagree fun j _ => havoid j, hparent, if_neg (havoid kp), hkp]
    obtain ⟨k, hk⟩ := hf.reaches_root x
    by_cases hr : f.up^[k] x = c
    · obtain ⟨m, hm⟩ := exists_iterate_up_eq hagree hr
      refine ⟨kp + 1 + m, ?_⟩
      rw [Function.iterate_add_apply, Function.iterate_add_apply, hm, Function.iterate_one, hupc]
      exact hfromp
    · -- the climb of `x` cannot pass `c`, a node without a parent, and end elsewhere
      have havoidx : ∀ j < k, f.up^[j] x ≠ c := by
        intro j hj hjc
        apply hr
        rw [show k = (k - j) + j by omega, Function.iterate_add_apply, hjc, iterate_up_of_root hc]
      refine ⟨k, ?_⟩
      rw [iterate_up_eq_of_avoid hagree havoidx, hparent, if_neg hr, hk]
  roots_eq := hroots

theorem WellFormed.append (hf : f.WellFormed) (h : f.append p e = .ok (g, id)) :
    g.WellFormed := by
  obtain ⟨hp, -, hsize, hroots, hparent, hchildren, -⟩ := append_ok_cases h
  refine hf.link (by omega) hp (parent?_eq_none_of_le (Nat.le_refl _))
    (fun j => Nat.ne_of_lt (hf.iterate_up_lt hp j)) hparent hchildren ?_
  have hold : (List.range f.size).filter (fun x => (g.parent? x).isNone) =
      (List.range f.size).filter (fun x => (f.parent? x).isNone) :=
    List.filter_congr fun x hx => by rw [hparent, if_neg (Nat.ne_of_lt (List.mem_range.mp hx))]
  rw [hroots, hf.roots_eq, hsize, List.range_succ, List.filter_append, hold]
  simp [hparent]

theorem WellFormed.setParent (hf : f.WellFormed) (h : f.setParent c p = .ok g) :
    g.WellFormed := by
  obtain ⟨-, hp, hnone, hanc, hsize, hroots, hparent, hchildren, -⟩ := setParent_ok_cases h
  refine hf.link (Nat.le_of_eq hsize.symm) hp hnone
    (fun j hj => hanc (hj ▸ hf.iterate_up_mem_ancestors hp j)) hparent hchildren ?_
  rw [hroots, hf.roots_eq, hsize, List.filter_filter]
  refine List.filter_congr fun x _ => ?_
  rw [hparent]
  by_cases hxc : x = c <;> simp [hxc]

theorem WellFormed.call (hf : f.WellFormed) (c : Call) : (f.call c).2.WellFormed := by
  cases c with
  | add e => exact hf.add e
  | append p e =>
    simp only [Forest.call]
    split
    · rename_i h
      exact hf.append h
    · exact hf
  | setParent c p =>
    simp only [Forest.call]
    split
    · rename_i h
      exact hf.setParent h
    · exact hf

theorem WellFormed.replay (hf : f.WellFormed) (cs : List Call) : (f.replay cs).WellFormed := by
  induction cs generalizing f with
  | nil => exact hf
  | cons c cs ih => exact ih (hf.call c)

theorem call_of_error {c : Call} {err : TreeError} (h : (f.call c).1 = .error err) :
    (f.call c).2 = f := by
  cases c with
  | add e => simp [call] at h
  | append p e =>
    simp only [call] at h ⊢
    split
    · rename_i hok
      simp [hok] at h
    · rfl
  | setParent c p =>
    simp only [call] at h ⊢
    split
    · rename_i hok
      simp [hok] at h
    · rfl

end Calls

/-- Whatever calls are made from the empty forest, refused ones included, the nodes form a
forest. Every parent and child link points at a node; a node has parent `p` exactly when it is
listed among the children of `p`, and it is listed in no other child list and at most once
there; the climb along parent links from any node reaches a node without a parent in fewer
steps than there are nodes; the roots are exactly the nodes without a parent, each once, in
increasing order; and a refused call leaves the forest as it was. -/
theorem replay_shape (cs : List Call) :
    let f := ({} : Forest).replay cs
    (∀ x p, f.parent? x = some p → p < f.size) ∧
    (∀ p x, x ∈ f.children p → x < f.size) ∧
    (∀ x p, f.parent? x = some p ↔ x ∈ f.children p) ∧
    (∀ p, (f.children p).Nodup) ∧
    (∀ x p q, x ∈ f.children p → x ∈ f.children q → p = q) ∧
    (∀ x < f.size, ∃ k < f.size, f.parent? (f.up^[k] x) = none) ∧
    f.roots = (List.range f.size).filter (fun x => (f.parent? x).isNone) ∧
    (∀ (c : Call) (err : TreeError), (f.call c).1 = .error err → (f.call c).2 = f) := by
  intro f
  have hf : f.WellFormed := wellFormed_empty.replay cs
  exact ⟨fun _ _ h => hf.parent_lt h, fun _ _ h => hf.child_lt h,
    fun _ _ => hf.parent?_eq_some_iff, hf.nodup_children, fun _ _ _ => hf.eq_of_mem_children,
    fun _ hx => hf.exists_root_lt hx, hf.roots_eq, fun _ _ => call_of_error⟩

end TreeSelect.Forest
