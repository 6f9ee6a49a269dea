import Mathlib.Data.List.Chain
import TreeSelect.Proofs.Preorder

namespace TreeSelect.Forest

/-- A climb along parent links: each node is followed by its parent, and the last node, which
exists, has none. -/
inductive Climb (f : Forest) : List Nat → Prop
  | top {x : Nat} : x < f.size → f.parent? x = none → Climb f [x]
  | up {x p : Nat} {l : List Nat} : f.parent? x = some p → Climb f (p :: l) →
      Climb f (x :: p :: l)

variable {f : Forest} {x y p : Nat} {stack l : List Nat}

@[simp] theorem drainDescendants_zero (stack : List Nat) :
    f.drainDescendants 0 stack = ([], stack) := rfl

@[simp] theorem drainDescendants_nil (fuel : Nat) : f.drainDescendants fuel [] = ([], []) := by
  cases fuel <;> rfl

theorem drainDescendants_cons (fuel : Nat) :
    f.drainDescendants (fuel + 1) (x :: stack) =
      (x :: (f.drainDescendants fuel (f.children x ++ stack)).1,
        (f.drainDescendants fuel (f.children x ++ stack)).2) := rfl

theorem Climb.lt_size (h : Climb f l) : ∀ y ∈ l, y < f.size := by
  induction h with
  | top hx _ => simpa using hx
  | up hp _ ih =>
    intro y hy
    rcases List.mem_cons.mp hy with rfl | hy
    · exact lt_size_of_parent?_eq_some hp
    · exact ih y hy

theorem Climb.isChain (h : Climb f l) : l.IsChain fun a b => f.parent? a = some b := by
  induction h with
  | top => exact List.isChain_singleton _
  | up hp _ ih => exact List.IsChain.cons_cons hp ih

theorem Climb.getLast (h : Climb f l) : ∃ r, l.getLast? = some r ∧ r < f.size ∧ f.parent? r = none := by
  induction h with
  | top hx hroot => exact ⟨_, rfl, hx, hroot⟩
  | up _ _ ih =>
    obtain ⟨r, hr, hrest⟩ := ih
    exact ⟨r, by rw [List.getLast?_cons_cons, hr], hrest⟩

theorem forall₂_filterMap {α β : Type} {g : α → Option β} :
    ∀ {l : List α}, (∀ a ∈ l, (g a).isSome) → List.Forall₂ (fun a b => g a = some b) l (l.filterMap g)
  | [], _ => .nil
  | a :: l, h => by
    obtain ⟨b, hb⟩ := Option.isSome_iff_exists.mp (h a List.mem_cons_self)
    rw [List.filterMap_cons_some hb]
    exact .cons hb (forall₂_filterMap fun a' ha' => h a' (List.mem_cons_of_mem a ha'))

theorem idxOf?_eq_some_iff_of_nodup {l : List Nat} {a i : Nat} (hl : l.Nodup) :
    l.idxOf? a = some i ↔ l[i]? = some a := by
  rw [List.idxOf?_eq_some_iff, List.getElem?_eq_some_iff]
  constructor
  · rintro ⟨hi, ha, -⟩
    exact ⟨hi, ha⟩
  · rintro ⟨hi, ha⟩
    refine ⟨hi, ha, fun j hj hja => ?_⟩
    have hji : j = i := (hl.getElem_inj_iff).mp (hja.trans ha.symm)
    omega

theorem ancestors_of_le (hx : f.size ≤ x) : f.ancestors x = [] := by
  simp [ancestors, Nat.not_lt.mpr hx]

theorem index?_of_root (h : f.parent? x = none) : f.index? x = none := by
  simp [index?, h]

namespace WellFormed

variable (hf : f.WellFormed)
include hf

theorem drainDescendants_stack :
    ∀ fuel stack, (∀ y ∈ stack, y < f.size) → (stack.flatMap f.descendants).length ≤ fuel →
      f.drainDescendants fuel stack = (stack.flatMap f.descendants, []) := by
  intro fuel
  induction fuel with
  | zero =>
    intro stack hlt hlen
    cases stack with
    | nil => rfl
    | cons y ys =>
      rw [List.flatMap_cons, hf.descendants_eq (hlt y List.mem_cons_self)] at hlen
      simp at hlen
  | succ fuel ih =>
    intro stack hlt hlen
    cases stack with
    | nil => exact drainDescendants_nil _
    | cons y ys =>
      have hsplit : (y :: ys).flatMap f.descendants =
          y :: (f.children y ++ ys).flatMap f.descendants := by
        rw [List.flatMap_cons, hf.descendants_eq (hlt y List.mem_cons_self), List.flatMap_append,
          List.cons_append]
      have hnext : ∀ z ∈ f.children y ++ ys, z < f.size := by
        intro z hz
        rcases List.mem_append.mp hz with hz | hz
        · exact hf.child_lt hz
        · exact hlt z (List.mem_cons_of_mem y hz)
      rw [hsplit] at hlen ⊢
      rw [List.length_cons] at hlen
      rw [drainDescendants_cons, ih _ hnext (by omega)]

theorem drainDescendants_start (fuel : Nat) (hfuel : (f.descendants x).length ≤ fuel) :
    f.drainDescendants fuel (f.descendantsStack x) = (f.descendants x, []) := by
  unfold descendantsStack
  split
  · rename_i hx
    have h := hf.drainDescendants_stack fuel [x] (by simpa using hx) (by simpa using hfuel)
    simpa using h
  · rename_i hx
    rw [descendants_of_le (by omega), drainDescendants_nil]

theorem descendants_subset (hx : x < f.size) (hb : Below f x y) :
    f.descendants y ⊆ f.descendants x := by
  induction hb with
  | refl => exact List.Subset.refl _
  | child _ hc ih =>
    refine List.Subset.trans ?_ ih
    intro z hz
    rw [hf.descendants_eq (hf.lt_size_of_below hx ‹_›)]
    exact List.mem_cons_of_mem _ (List.mem_flatMap.mpr ⟨_, hc, hz⟩)

theorem mem_descendants_iff : y ∈ f.descendants x ↔ x < f.size ∧ Below f x y := by
  constructor
  · exact mem_descendants
  · rintro ⟨hx, hb⟩
    have hy : y < f.size := hf.lt_size_of_below hx hb
    apply hf.descendants_subset hx hb
    rw [hf.descendants_eq hy]
    exact List.mem_cons_self

theorem ancestors_climb_of_root :
    ∀ k x, x < f.size → f.parent? (f.up^[k] x) = none →
      ∃ l, f.ancestors x = x :: l ∧ Climb f (x :: l) := by
  intro k
  induction k with
  | zero =>
    intro x hx hroot
    exact ⟨[], ancestors_of_root hx hroot, .top hx hroot⟩
  | succ k ih =>
    intro x hx hroot
    cases hp : f.parent? x with
    | none => exact ⟨[], ancestors_of_root hx hp, .top hx hp⟩
    | some q =>
      rw [Function.iterate_succ_apply, up_of_parent?_eq_some hp] at hroot
      obtain ⟨l, hl, hclimb⟩ := ih q (hf.parent_lt hp) hroot
      exact ⟨q :: l, by rw [hf.ancestors_of_parent hp, hl], .up hp hclimb⟩

theorem ancestors_climb (hx : x < f.size) : ∃ l, f.ancestors x = x :: l ∧ Climb f (x :: l) := by
  obtain ⟨k, -, hroot⟩ := hf.exists_root_lt hx
  exact hf.ancestors_climb_of_root k x hx hroot

theorem path_from_root (hx : x < f.size) :
    (∃ r ∈ f.roots, (f.path x).head? = some r) ∧
      (f.path x).IsChain (fun a b => b ∈ f.children a) ∧ (f.path x).getLast? = some x := by
  obtain ⟨l, hl, hclimb⟩ := hf.ancestors_climb hx
  obtain ⟨r, hr, hrs, hroot⟩ := hclimb.getLast
  refine ⟨⟨r, ?_, ?_⟩, ?_, ?_⟩
  · rw [hf.roots_eq, List.mem_filter, List.mem_range]
    exact ⟨hrs, by simp [hroot]⟩
  · rw [path, hl, List.head?_reverse, hr]
  · rw [path, hl, List.isChain_reverse]
    exact hclimb.isChain.imp fun a b h => hf.parent?_eq_some_iff.mp h
  · rw [path, hl, List.getLast?_reverse, List.head?_cons]

theorem lt_size_of_mem_path (hy : y ∈ f.path x) : y < f.size := by
  rw [path, List.mem_reverse] at hy
  by_cases hx : x < f.size
  · obtain ⟨l, hl, hclimb⟩ := hf.ancestors_climb hx
    rw [hl] at hy
    exact hclimb.lt_size y hy
  · rw [ancestors_of_le (by omega)] at hy
    cases hy

theorem tagPath_along (x : Nat) :
    List.Forall₂ (fun i t => (f.elem? i).map (·.tag) = some t) (f.path x) (f.tagPath x) := by
  apply forall₂_filterMap
  intro i hi
  obtain ⟨en, hen⟩ := exists_get?_of_lt (hf.lt_size_of_mem_path hi)
  simp [elem?, hen]

theorem index?_eq_some_iff (k : Nat) :
    f.index? x = some k ↔ ∃ p, f.parent? x = some p ∧ (f.children p)[k]? = some x := by
  unfold index?
  cases hp : f.parent? x with
  | none => simp
  | some p =>
    simp only [Option.bind_some, Option.some.injEq, exists_eq_left']
    exact idxOf?_eq_some_iff_of_nodup (hf.nodup_children p)

end WellFormed

/-- What the views of a forest give at a node `x`. -/
structure Views (f : Forest) (x : Nat) : Prop where
  /-- The pre-order iterator yields the subtree's pre-order, given a step for each of its nodes,
  and then stops with an empty stack. -/
  drain : ∀ fuel, (f.descendants x).length ≤ fuel →
    f.drainDescendants fuel (f.descendantsStack x) = (f.descendants x, [])
  /-- The pre-order: the node, then the pre-orders under its children, in order. -/
  descendants_eq : x < f.size → f.descendants x = x :: (f.children x).flatMap f.descendants
  /-- It lists the nodes of the subtree and nothing else, each once. -/
  mem_descendants : ∀ y, y ∈ f.descendants x ↔ x < f.size ∧ Below f x y
  nodup_descendants : (f.descendants x).Nodup
  /-- The ancestors: the node, then the climb along parent links to a node without a parent. -/
  ancestors_climb : x < f.size → ∃ l, f.ancestors x = x :: l ∧ Climb f (x :: l)
  /-- The path: from a root, along child links, down to the node. -/
  path_from_root : x < f.size → (∃ r ∈ f.roots, (f.path x).head? = some r) ∧
    (f.path x).IsChain (fun a b => b ∈ f.children a) ∧ (f.path x).getLast? = some x
  tagPath_along :
    List.Forall₂ (fun i t => (f.elem? i).map (·.tag) = some t) (f.path x) (f.tagPath x)
  index_iff : ∀ k, f.index? x = some k ↔ ∃ p, f.parent? x = some p ∧ (f.children p)[k]? = some x
  index_of_root : f.parent? x = none → f.index? x = none
  /-- An unknown id has no subtree, no ancestors, no path and no index. -/
  unknown : f.size ≤ x →
    f.descendants x = [] ∧ f.ancestors x = [] ∧ f.path x = [] ∧ f.index? x = none

/-- In a well-formed forest, at every id: the pre-order iterator yields exactly the pre-order of
the subtree, each node of it once, and nothing for an unknown id; the ancestors climb to a node
without a parent; the path runs from a root down child links to the node; the tag path reads the
tags along it; and the index is the position among the parent's children, none for a top-level
or unknown id. -/
theorem views_of_wellFormed (hf : f.WellFormed) (x : Nat) : f.Views x where
  drain := hf.drainDescendants_start
  descendants_eq := hf.descendants_eq
  mem_descendants _ := hf.mem_descendants_iff
  nodup_descendants := hf.nodup_descendants x
  ancestors_climb := hf.ancestors_climb
  path_from_root := hf.path_from_root
  tagPath_along := hf.tagPath_along x
  index_iff := hf.index?_eq_some_iff
  index_of_root := index?_of_root
  unknown hx := ⟨descendants_of_le hx, ancestors_of_le hx, by rw [path, ancestors_of_le hx]; rfl,
    index?_of_root (parent?_eq_none_of_le hx)⟩

theorem views_of_root_with_two_children :
    (({} : Forest).replay [.add (.ofTag "ul"), .append 0 (.ofTag "li"),
      .append 0 (.ofTag "li")]).WellFormed ∧
    (({} : Forest).replay [.add (.ofTag "ul"), .append 0 (.ofTag "li"),
      .append 0 (.ofTag "li")]).Views 2 := by
  have hf := wellFormed_empty.replay [.add (.ofTag "ul"), .append 0 (.ofTag "li"),
    .append 0 (.ofTag "li")]
  exact ⟨hf, views_of_wellFormed hf 2⟩

end TreeSelect.Forest
