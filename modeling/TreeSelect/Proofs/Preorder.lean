import Mathlib.Dynamics.PeriodicPts.Defs
import TreeSelect.Proofs.ForestShape

namespace TreeSelect.Forest

/-- `y` is in the subtree under `x`: a chain of child links leads from `x` to `y`. -/
inductive Below (f : Forest) (x : Nat) : Nat → Prop
  | refl : Below f x x
  | child {y c : Nat} : Below f x y → c ∈ f.children y → Below f x c

/-- Every chain of `h` child links from `x` ends at a node without children, so that
`preorderUpTo h x` lists the whole subtree. -/
def Complete (f : Forest) : Nat → Nat → Prop
  | 0, x => f.children x = []
  | h + 1, x => ∀ c ∈ f.children x, Complete f h c

/-- The elements of a list of ids, unknown ids left out. -/
def elems (f : Forest) (ids : List Nat) : List Element := ids.filterMap f.elem?

/-- The ids on the parent chain from `top` down to `x`, both included: the ancestors of `x` up
to `top`, outermost first. -/
def chainFrom (f : Forest) (top x : Nat) : List Nat :=
  ((f.ancestors x).takeWhile (· != top) ++ [top]).reverse

variable {f : Forest} {x y z c p r h : Nat}

theorem Below.trans (hxy : Below f x y) (hyz : Below f y z) : Below f x z := by
  induction hyz with
  | refl => exact hxy
  | child _ hc ih => exact ih.child hc

theorem ancestorsUpTo_eq_cons (fuel x : Nat) : ∃ rest, f.ancestorsUpTo fuel x = x :: rest := by
  cases fuel with
  | zero => exact ⟨[], rfl⟩
  | succ fuel =>
    simp only [ancestorsUpTo]
    split
    · exact ⟨_, rfl⟩
    · exact ⟨[], rfl⟩

theorem ancestorsUpTo_of_root :
    ∀ k x fuel, f.parent? (f.up^[k] x) = none → k ≤ fuel →
      f.ancestorsUpTo fuel x = f.ancestorsUpTo k x := by
  intro k
  induction k with
  | zero =>
    intro x fuel hroot _
    cases fuel with
    | zero => rfl
    | succ fuel => simp [ancestorsUpTo, show f.parent? x = none from hroot]
  | succ k ih =>
    intro x fuel hroot hk
    obtain ⟨fuel, rfl⟩ : ∃ fuel', fuel = fuel' + 1 := ⟨fuel - 1, by omega⟩
    cases hx : f.parent? x with
    | none => simp [ancestorsUpTo, hx]
    | some q =>
      rw [Function.iterate_succ_apply, up_of_parent?_eq_some hx] at hroot
      simp [ancestorsUpTo, hx, ih q fuel hroot (by omega)]

namespace WellFormed

variable (hf : f.WellFormed)
include hf

theorem parent?_of_mem_children (hc : c ∈ f.children p) : f.parent? c = some p :=
  hf.parent?_eq_some_iff.mpr hc

theorem up_of_mem_children (hc : c ∈ f.children p) : f.up c = p :=
  up_of_parent?_eq_some (hf.parent?_of_mem_children hc)

theorem lt_size_of_parents {k : Nat} (hx : x < f.size)
    (h : ∀ j < k, f.parent? (f.up^[j] x) ≠ none) : k < f.size := by
  obtain ⟨K, hK, hroot⟩ := hf.exists_root_lt hx
  by_contra hk
  exact h K (by omega) hroot

theorem parents_of_child {k : Nat} (hc : c ∈ f.children p)
    (h : ∀ j < k, f.parent? (f.up^[j] p) ≠ none) :
    ∀ j < k + 1, f.parent? (f.up^[j] c) ≠ none := by
  intro j hj
  cases j with
  | zero => simp [hf.parent?_of_mem_children hc]
  | succ j =>
    rw [Function.iterate_succ_apply, hf.up_of_mem_children hc]
    exact h j (by omega)

theorem Below.climb (hb : Below f x y) :
    ∃ k, f.up^[k] y = x ∧ ∀ j < k, f.parent? (f.up^[j] y) ≠ none := by
  induction hb with
  | refl => exact ⟨0, rfl, by simp⟩
  | child _ hc ih =>
    obtain ⟨k, hk, hpar⟩ := ih
    refine ⟨k + 1, ?_, hf.parents_of_child hc hpar⟩
    rw [Function.iterate_succ_apply, hf.up_of_mem_children hc, hk]

theorem below_of_climb :
    ∀ k y, f.up^[k] y = x → (∀ j < k, f.parent? (f.up^[j] y) ≠ none) → Below f x y := by
  intro k
  induction k with
  | zero =>
    intro y hy _
    rw [← hy]
    exact .refl
  | succ k ih =>
    intro y hy hpar
    obtain ⟨q, hq⟩ : ∃ q, f.parent? y = some q :=
      Option.ne_none_iff_exists'.mp (hpar 0 (by omega))
    rw [Function.iterate_succ_apply, up_of_parent?_eq_some hq] at hy
    have hbelow : Below f x q := ih q hy fun j hj => by
      have := hpar (j + 1) (by omega)
      rwa [Function.iterate_succ_apply, up_of_parent?_eq_some hq] at this
    exact hbelow.child (hf.parent?_eq_some_iff.mp hq)

theorem not_below_child (hc : c ∈ f.children x) : ¬ Below f c x := by
  intro hb
  obtain ⟨k, hk, hpar⟩ := Below.climb hf hb
  have hperiod : Function.IsPeriodicPt f.up (k + 1) c := by
    show f.up^[k + 1] c = c
    rw [Function.iterate_succ_apply, hf.up_of_mem_children hc, hk]
  have hall : ∀ n, f.parent? (f.up^[n] c) ≠ none := by
    intro n
    rw [← hperiod.iterate_mod_apply n]
    exact hf.parents_of_child hc hpar _ (Nat.mod_lt _ (by omega))
  obtain ⟨n, hn⟩ := hf.reaches_root c
  exact hall n hn

theorem below_total {a b : Nat} (ha : Below f a y) (hb : Below f b y) :
    Below f a b ∨ Below f b a := by
  obtain ⟨ka, hka, hpa⟩ := Below.climb hf ha
  obtain ⟨kb, hkb, hpb⟩ := Below.climb hf hb
  have hpart : ∀ {s t : Nat} {ks kt : Nat}, f.up^[ks] y = s → f.up^[kt] y = t →
      (∀ j < kt, f.parent? (f.up^[j] y) ≠ none) → ks ≤ kt → Below f t s := by
    intro s t ks kt hs ht hpt hle
    refine hf.below_of_climb (kt - ks) s ?_ fun j hj => ?_
    · rw [← hs, ← Function.iterate_add_apply, Nat.sub_add_cancel hle, ht]
    · rw [← hs, ← Function.iterate_add_apply]
      exact hpt _ (by omega)
  rcases Nat.le_total ka kb with hle | hle
  · exact .inr (hpart hka hkb hpb hle)
  · exact .inl (hpart hkb hka hpa hle)

theorem eq_of_below_of_below {c₁ c₂ : Nat} (hc₁ : c₁ ∈ f.children x) (hc₂ : c₂ ∈ f.children x)
    (h₁ : Below f c₁ y) (h₂ : Below f c₂ y) : c₁ = c₂ := by
  have hup : ∀ {a b : Nat}, a ∈ f.children x → b ∈ f.children x → Below f a b → a = b := by
    intro a b ha hb hab
    cases hab with
    | refl => rfl
    | child hay hby =>
      obtain rfl := hf.eq_of_mem_children hb hby
      exact absurd hay (hf.not_below_child ha)
  rcases hf.below_total h₁ h₂ with h | h
  · exact hup hc₁ hc₂ h
  · exact (hup hc₂ hc₁ h).symm

theorem complete :
    ∀ h x j, x < f.size → (∀ i < j, f.parent? (f.up^[i] x) ≠ none) → f.size ≤ j + h + 1 →
      Complete f h x := by
  intro h
  induction h with
  | zero =>
    intro x j hx hpar hsize
    show f.children x = []
    rcases hcs : f.children x with _ | ⟨c, cs⟩
    · rfl
    · have hc : c ∈ f.children x := by simp [hcs]
      have := hf.lt_size_of_parents (hf.child_lt hc) (hf.parents_of_child hc hpar)
      omega
  | succ h ih =>
    intro x j hx hpar hsize c hc
    exact ih c (j + 1) (hf.child_lt hc) (hf.parents_of_child hc hpar) (by omega)

theorem complete_of_le (hx : x < f.size) (hh : f.size ≤ h + 1) : Complete f h x :=
  hf.complete h x 0 hx (by simp) (by omega)

end WellFormed

theorem preorderUpTo_of_complete :
    ∀ h x, Complete f h x → ∀ h', h ≤ h' → f.preorderUpTo h' x = f.preorderUpTo h x := by
  intro h
  induction h with
  | zero =>
    intro x hc h' _
    have hc : f.children x = [] := hc
    cases h' with
    | zero => rfl
    | succ h' => simp [preorderUpTo, hc]
  | succ h ih =>
    intro x hc h' hh
    obtain ⟨h', rfl⟩ : ∃ k, h' = k + 1 := ⟨h' - 1, by omega⟩
    simp only [preorderUpTo]
    rw [List.flatMap_congr fun c hmem => ih c (hc c hmem) h' (by omega)]

theorem below_of_mem_preorderUpTo : ∀ h x, y ∈ f.preorderUpTo h x → Below f x y := by
  intro h
  induction h with
  | zero =>
    intro x hy
    rw [preorderUpTo, List.mem_singleton] at hy
    rw [hy]
    exact .refl
  | succ h ih =>
    intro x hy
    rw [preorderUpTo, List.mem_cons, List.mem_flatMap] at hy
    rcases hy with rfl | ⟨c, hc, hyc⟩
    · exact .refl
    · exact (Below.refl.child hc).trans (ih c hyc)

theorem descendants_of_le (hx : f.size ≤ x) : f.descendants x = [] := by
  simp [descendants, Nat.not_lt.mpr hx]

theorem mem_descendants (hy : y ∈ f.descendants x) : x < f.size ∧ Below f x y := by
  unfold descendants at hy
  split at hy
  · rename_i hx
    exact ⟨hx, below_of_mem_preorderUpTo _ _ hy⟩
  · cases hy

namespace WellFormed

variable (hf : f.WellFormed)
include hf

theorem lt_size_of_below (hx : x < f.size) (hb : Below f x y) : y < f.size := by
  cases hb with
  | refl => exact hx
  | child _ hc => exact hf.child_lt hc

theorem nodup_preorderUpTo : ∀ h x, (f.preorderUpTo h x).Nodup := by
  intro h
  induction h with
  | zero => intro x; simp [preorderUpTo]
  | succ h ih =>
    intro x
    rw [preorderUpTo, List.nodup_cons, List.nodup_flatMap]
    refine ⟨fun hx => ?_, fun c _ => ih c, ?_⟩
    · obtain ⟨c, hc, hxc⟩ := List.mem_flatMap.mp hx
      exact hf.not_below_child hc (below_of_mem_preorderUpTo h c hxc)
    · refine (hf.nodup_children x).pairwise_of_forall_ne fun a ha b hb hab => ?_
      intro y hya hyb
      exact hab (hf.eq_of_below_of_below ha hb (below_of_mem_preorderUpTo h a hya)
        (below_of_mem_preorderUpTo h b hyb))

theorem descendants_eq (hx : x < f.size) :
    f.descendants x = x :: (f.children x).flatMap f.descendants := by
  obtain ⟨n, hn⟩ : ∃ n, f.size = n + 1 := ⟨f.size - 1, by omega⟩
  rw [descendants, if_pos hx, hn, preorderUpTo]
  congr 1
  refine List.flatMap_congr fun c hc => ?_
  have hcs : c < f.size := hf.child_lt hc
  rw [descendants, if_pos hcs, hn]
  exact (preorderUpTo_of_complete n c (hf.complete_of_le hcs (by omega)) (n + 1) (by omega)).symm

theorem nodup_descendants (x : Nat) : (f.descendants x).Nodup := by
  unfold descendants
  split
  · exact hf.nodup_preorderUpTo _ _
  · exact List.nodup_nil

theorem length_descendants_le (x : Nat) : (f.descendants x).length ≤ f.size := by
  have hsub : f.descendants x ⊆ List.range f.size := by
    intro y hy
    obtain ⟨hx, hb⟩ := mem_descendants hy
    exact List.mem_range.mpr (hf.lt_size_of_below hx hb)
  simpa using (hf.nodup_descendants x).length_le_of_subset hsub

end WellFormed

section Chains

theorem elems_append (l₁ l₂ : List Nat) : f.elems (l₁ ++ l₂) = f.elems l₁ ++ f.elems l₂ :=
  List.filterMap_append

theorem elems_singleton {e : Entry} (hx : f.get? x = some e) : f.elems [x] = [e.elem] := by
  simp [elems, elem?, hx]

theorem chainFrom_self (hx : x < f.size) : f.chainFrom x x = [x] := by
  obtain ⟨rest, hrest⟩ := ancestorsUpTo_eq_cons (f := f) f.size x
  simp [chainFrom, ancestors, hx, hrest]

theorem ancestors_of_root (hx : x < f.size) (h : f.parent? x = none) : f.ancestors x = [x] := by
  obtain ⟨n, hn⟩ : ∃ n, f.size = n + 1 := ⟨f.size - 1, by omega⟩
  rw [ancestors, if_pos hx, hn]
  simp [ancestorsUpTo, h]

theorem path_of_root (hx : x < f.size) (h : f.parent? x = none) : f.path x = [x] := by
  rw [path, ancestors_of_root hx h, List.reverse_singleton]

namespace WellFormed

variable (hf : f.WellFormed)
include hf

theorem ancestors_of_parent (hc : f.parent? c = some p) : f.ancestors c = c :: f.ancestors p := by
  have hcs : c < f.size := lt_size_of_parent?_eq_some hc
  have hps : p < f.size := hf.parent_lt hc
  obtain ⟨k, hk, hroot⟩ := hf.exists_root_lt hps
  obtain ⟨n, hn⟩ : ∃ n, f.size = n + 1 := ⟨f.size - 1, by omega⟩
  have hstep : f.ancestorsUpTo (n + 1) c = c :: f.ancestorsUpTo n p := by
    simp [ancestorsUpTo, hc]
  rw [ancestors, if_pos hcs, ancestors, if_pos hps, hn, hstep,
    ancestorsUpTo_of_root k p n hroot (by omega), ancestorsUpTo_of_root k p (n + 1) hroot (by omega)]

theorem path_child (hc : c ∈ f.children p) : f.path c = f.path p ++ [c] := by
  rw [path, hf.ancestors_of_parent (hf.parent?_of_mem_children hc), List.reverse_cons, path]

theorem chainFrom_child (hb : Below f x y) (hc : c ∈ f.children y) :
    f.chainFrom x c = f.chainFrom x y ++ [c] := by
  have hne : c ≠ x := by
    rintro rfl
    exact hf.not_below_child hc hb
  rw [chainFrom, hf.ancestors_of_parent (hf.parent?_of_mem_children hc), List.takeWhile_cons,
    if_pos (by simpa using hne), chainFrom]
  simp

theorem chainFrom_of_root (hr : r < f.size) (hroot : f.parent? r = none) (hb : Below f r x) :
    f.chainFrom r x = f.path x := by
  induction hb with
  | refl => rw [chainFrom_self hr, path_of_root hr hroot]
  | child hb hc ih => rw [hf.chainFrom_child hb hc, ih, hf.path_child hc]

end WellFormed

end Chains

end TreeSelect.Forest
