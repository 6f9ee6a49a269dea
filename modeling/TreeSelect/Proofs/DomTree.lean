import Mathlib.Logic.Relation
import Mathlib.Data.List.Nodup
import TreeSelect.Markup.Dom

namespace TreeSelect.Markup.Dom

open Relation

variable (d : Dom)

/-- `c` is a child of `p`. -/
def Child (p c : Nat) : Prop := c ∈ (d.get p).children

/-- Whether a node is an element. -/
def isElement (x : Nat) : Bool :=
  match (d.get x).data with
  | .element .. => true
  | _ => false

/-- Whether a walk of the document goes below a node: the document and elements. -/
def opens (x : Nat) : Bool :=
  match (d.get x).data with
  | .document | .element .. => true
  | _ => false

/-- The text of a text node. -/
def text? (x : Nat) : Option String :=
  match (d.get x).data with
  | .text s => some s
  | _ => none

/-- The elements among some nodes, in order. -/
def elementsOf (cs : List Nat) : List Nat := cs.filter d.isElement

/-- The texts of the text nodes among some nodes, in order. -/
def textsOf (cs : List Nat) : List String := cs.filterMap d.text?

/-- The child links from the document form a finite tree: every child is a node of the
document, no node is listed twice as a child or under two parents, the document is the only
document node, and no chain of child links comes back to where it started. -/
structure IsTree : Prop where
  root_document : (d.get 0).data = .document
  child_lt : ∀ {p c}, d.Child p c → c < d.nodes.size
  nodup_children : ∀ p, (d.get p).children.toList.Nodup
  parent_unique : ∀ {p q c}, d.Child p c → d.Child q c → p = q
  child_ne_document : ∀ {p c}, d.Child p c → (d.get c).data ≠ .document
  acyclic : ∀ x, ¬TransGen d.Child x x

/-- The elements met by a walk from `x` in document order, going below the document and below
elements, at most `fuel` levels deep. -/
def preorderUpTo : Nat → Nat → List Nat
  | 0, _ => []
  | fuel + 1, x =>
    match (d.get x).data with
    | .document => (d.get x).children.toList.flatMap (preorderUpTo fuel)
    | .element .. => x :: (d.get x).children.toList.flatMap (preorderUpTo fuel)
    | _ => []

/-- The elements of the document in document order. -/
def elementOrder : List Nat := d.preorderUpTo (d.nodes.size + 1) 0

/-- The nodes met by a walk from `x` in document order, going below the document and below
elements, at most `fuel` levels deep. -/
def visitsUpTo : Nat → Nat → List Nat
  | 0, _ => []
  | fuel + 1, x =>
    x :: if d.opens x then (d.get x).children.toList.flatMap (visitsUpTo fuel) else []

/-- A walk of `fuel` levels from `x` reaches the bottom of the tree below `x`. -/
def Fits : Nat → Nat → Prop
  | 0, _ => False
  | fuel + 1, x => ∀ c ∈ (d.get x).children, Fits fuel c

/-- `y` is reached from `x` by child links that leave only the document and elements. -/
inductive Reaches (x : Nat) : Nat → Prop
  | refl : Reaches x x
  | child {p c : Nat} : Reaches x p → d.opens p = true → d.Child p c → Reaches x c

variable {d}

theorem get_of_size_le {p : Nat} (h : d.nodes.size ≤ p) : d.get p = default := by
  simp [get, Array.getD, Nat.not_lt.mpr h]

section Reach

theorem Reaches.reflTransGen {x y : Nat} (h : d.Reaches x y) : ReflTransGen d.Child x y := by
  induction h with
  | refl => exact .refl
  | child _ _ hc ih => exact ih.tail hc

theorem Reaches.head {x c y : Nat} (hx : d.opens x = true) (hc : d.Child x c)
    (h : d.Reaches c y) : d.Reaches x y := by
  induction h with
  | refl => exact Reaches.refl.child hx hc
  | child _ hp hc' ih => exact ih.child hp hc'

theorem Reaches.cases_head {x y : Nat} (h : d.Reaches x y) :
    y = x ∨ (d.opens x = true ∧ ∃ c, d.Child x c ∧ d.Reaches c y) := by
  induction h with
  | refl => exact .inl rfl
  | @child p c _ hp hc ih =>
    rcases ih with rfl | ⟨hx, c', hc', hr⟩
    · exact .inr ⟨hp, c, hc, .refl⟩
    · exact .inr ⟨hx, c', hc', hr.child hp hc⟩

theorem mem_preorderUpTo {y : Nat} :
    ∀ fuel x, y ∈ d.preorderUpTo fuel x → d.isElement y = true ∧ d.Reaches x y := by
  intro fuel
  induction fuel with
  | zero => simp [preorderUpTo]
  | succ fuel ih =>
    intro x hy
    have hbelow : d.opens x = true → y ∈ (d.get x).children.toList.flatMap (d.preorderUpTo fuel) →
        d.isElement y = true ∧ d.Reaches x y := by
      intro hx hmem
      obtain ⟨c, hc, hyc⟩ := List.mem_flatMap.mp hmem
      obtain ⟨he, hr⟩ := ih c hyc
      exact ⟨he, hr.head hx (Array.mem_toList_iff.mp hc)⟩
    unfold preorderUpTo at hy
    split at hy
    · rename_i hdata
      exact hbelow (by simp [opens, hdata]) hy
    · rename_i hdata
      rcases List.mem_cons.mp hy with rfl | hy
      · exact ⟨by simp [isElement, hdata], .refl⟩
      · exact hbelow (by simp [opens, hdata]) hy
    · cases hy

theorem mem_preorderUpTo_of_reaches {y : Nat} (he : d.isElement y = true) :
    ∀ fuel x, d.Fits fuel x → d.Reaches x y → y ∈ d.preorderUpTo fuel x := by
  intro fuel
  induction fuel with
  | zero => exact fun _ hfits => absurd hfits id
  | succ fuel ih =>
    intro x hfits hr
    unfold preorderUpTo
    rcases hr.cases_head with rfl | ⟨hx, c, hc, hrc⟩
    · unfold isElement at he
      split <;> simp_all
    · have hmem : y ∈ (d.get x).children.toList.flatMap (d.preorderUpTo fuel) :=
        List.mem_flatMap.mpr ⟨c, Array.mem_toList_iff.mpr hc, ih c (hfits c hc) hrc⟩
      unfold opens at hx
      split <;> simp_all

theorem mem_visitsUpTo {y : Nat} : ∀ fuel x, y ∈ d.visitsUpTo fuel x → d.Reaches x y := by
  intro fuel
  induction fuel with
  | zero => simp [visitsUpTo]
  | succ fuel ih =>
    intro x hy
    rw [visitsUpTo] at hy
    rcases List.mem_cons.mp hy with rfl | hy
    · exact .refl
    · cases hx : d.opens x with
      | false => simp [hx] at hy
      | true =>
        rw [hx, if_pos rfl] at hy
        obtain ⟨c, hc, hyc⟩ := List.mem_flatMap.mp hy
        exact (ih c hyc).head hx (Array.mem_toList_iff.mp hc)

theorem preorderUpTo_of_not_element {x : Nat} (he : d.isElement x = false)
    (hdoc : (d.get x).data ≠ .document) : ∀ fuel, d.preorderUpTo fuel x = [] := by
  intro fuel
  cases fuel with
  | zero => rfl
  | succ fuel =>
    unfold isElement at he
    unfold preorderUpTo
    split <;> simp_all

theorem acyclic_of_child_lt (h : ∀ {p c}, d.Child p c → p < c) (x : Nat) :
    ¬TransGen d.Child x x := by
  have hlt : ∀ {a b}, TransGen d.Child a b → a < b := by
    intro a b hab
    induction hab with
    | single hc => exact h hc
    | tail _ hc ih => exact Nat.lt_trans ih (h hc)
  exact fun hx => Nat.lt_irrefl x (hlt hx)

end Reach

namespace IsTree

variable (hd : d.IsTree)
include hd

theorem above_total {a b y : Nat} (ha : ReflTransGen d.Child a y) (hb : ReflTransGen d.Child b y) :
    ReflTransGen d.Child a b ∨ ReflTransGen d.Child b a := by
  revert ha
  induction hb with
  | refl => exact .inl
  | @tail p y' hbp hpy ih =>
    intro ha
    rcases ha.cases_tail with rfl | ⟨q, haq, hqy⟩
    · exact .inr (hbp.tail hpy)
    · obtain rfl := hd.parent_unique hqy hpy
      exact ih haq

theorem not_above_of_child {x c : Nat} (hc : d.Child x c) : ¬ReflTransGen d.Child c x :=
  fun h => hd.acyclic x (TransGen.head' hc h)

theorem eq_of_child_of_child {x c₁ c₂ y : Nat} (h₁ : d.Child x c₁) (h₂ : d.Child x c₂)
    (hy₁ : ReflTransGen d.Child c₁ y) (hy₂ : ReflTransGen d.Child c₂ y) : c₁ = c₂ := by
  have hup : ∀ {a b : Nat}, d.Child x a → d.Child x b → ReflTransGen d.Child a b → a = b := by
    intro a b ha hb hab
    rcases hab.cases_tail with rfl | ⟨q, haq, hqb⟩
    · rfl
    · obtain rfl := hd.parent_unique hqb hb
      exact absurd haq (hd.not_above_of_child ha)
  rcases hd.above_total hy₁ hy₂ with h | h
  · exact hup h₁ h₂ h
  · exact (hup h₂ h₁ h).symm

theorem nodup_flatMap_children {w : Nat → List Nat} (hw : ∀ c, (w c).Nodup)
    (hbelow : ∀ c y, y ∈ w c → ReflTransGen d.Child c y) (x : Nat) :
    ((d.get x).children.toList.flatMap w).Nodup := by
  rw [List.nodup_flatMap]
  refine ⟨fun c _ => hw c, (hd.nodup_children x).pairwise_of_forall_ne fun a ha b hb hab => ?_⟩
  intro y hya hyb
  exact hab (hd.eq_of_child_of_child (Array.mem_toList_iff.mp ha) (Array.mem_toList_iff.mp hb)
    (hbelow a y hya) (hbelow b y hyb))

theorem nodup_preorderUpTo : ∀ fuel x, (d.preorderUpTo fuel x).Nodup := by
  intro fuel
  induction fuel with
  | zero => simp [preorderUpTo]
  | succ fuel ih =>
    intro x
    unfold preorderUpTo
    have hbelow : ∀ c y, y ∈ d.preorderUpTo fuel c → ReflTransGen d.Child c y :=
      fun c _ h => (mem_preorderUpTo fuel c h).2.reflTransGen
    split
    · exact hd.nodup_flatMap_children ih hbelow x
    · refine List.nodup_cons.mpr ⟨fun hx => ?_, hd.nodup_flatMap_children ih hbelow x⟩
      obtain ⟨c, hc, hxc⟩ := List.mem_flatMap.mp hx
      exact hd.not_above_of_child (Array.mem_toList_iff.mp hc)
        (mem_preorderUpTo fuel c hxc).2.reflTransGen
    · exact List.nodup_nil

theorem nodup_visitsUpTo : ∀ fuel x, (d.visitsUpTo fuel x).Nodup := by
  intro fuel
  induction fuel with
  | zero => simp [visitsUpTo]
  | succ fuel ih =>
    intro x
    have hbelow : ∀ c y, y ∈ d.visitsUpTo fuel c → ReflTransGen d.Child c y :=
      fun c _ h => (mem_visitsUpTo fuel c h).reflTransGen
    rw [visitsUpTo]
    split
    · refine List.nodup_cons.mpr ⟨fun hx => ?_, hd.nodup_flatMap_children ih hbelow x⟩
      obtain ⟨c, hc, hxc⟩ := List.mem_flatMap.mp hx
      exact hd.not_above_of_child (Array.mem_toList_iff.mp hc) (hbelow c x hxc)
    · exact List.nodup_singleton x

theorem length_visitsUpTo_le (fuel : Nat) : (d.visitsUpTo fuel 0).length ≤ d.nodes.size + 1 := by
  have hsub : d.visitsUpTo fuel 0 ⊆ List.range (d.nodes.size + 1) := by
    intro y hy
    rw [List.mem_range]
    rcases mem_visitsUpTo fuel 0 hy with _ | ⟨_, _, hc⟩
    · omega
    · exact Nat.lt_succ_of_lt (hd.child_lt hc)
  simpa using (hd.nodup_visitsUpTo fuel 0).length_le_of_subset hsub

theorem fits_of_above : ∀ fuel x (above : List Nat), x < d.nodes.size →
    (∀ a ∈ above, a < d.nodes.size) → above.Nodup → (∀ a ∈ above, TransGen d.Child a x) →
    d.nodes.size ≤ above.length + fuel → d.Fits fuel x := by
  intro fuel
  induction fuel with
  | zero =>
    intro x above hx habove hnodup hpath hsize
    have hnot : x ∉ above := fun hmem => hd.acyclic x (hpath x hmem)
    have hsub : x :: above ⊆ List.range d.nodes.size := by
      intro a ha
      rcases List.mem_cons.mp ha with rfl | ha
      · exact List.mem_range.mpr hx
      · exact List.mem_range.mpr (habove a ha)
    have hlen := (List.nodup_cons.mpr ⟨hnot, hnodup⟩).length_le_of_subset hsub
    simp only [List.length_cons, List.length_range] at hlen
    omega
  | succ fuel ih =>
    intro x above hx habove hnodup hpath hsize c hc
    have hnot : x ∉ above := fun hmem => hd.acyclic x (hpath x hmem)
    refine ih c (above ++ [x]) (hd.child_lt hc) ?_ ?_ ?_ (by simp; omega)
    · intro a ha
      rcases List.mem_append.mp ha with ha | ha
      · exact habove a ha
      · rw [List.mem_singleton.mp ha]
        exact hx
    · exact List.nodup_append.mpr ⟨hnodup, List.nodup_singleton x,
        fun a ha b hb hab => hnot (by rw [List.mem_singleton.mp hb] at hab; exact hab ▸ ha)⟩
    · intro a ha
      rcases List.mem_append.mp ha with ha | ha
      · exact (hpath a ha).tail hc
      · rw [List.mem_singleton.mp ha]
        exact .single hc

theorem fits_root : d.Fits (d.nodes.size + 1) 0 := fun c hc =>
  hd.fits_of_above d.nodes.size c [] (hd.child_lt hc) (by simp) List.nodup_nil (by simp) (by simp)

theorem flatMap_elementsOf (x fuel : Nat) :
    (d.elementsOf (d.get x).children.toList).flatMap (d.preorderUpTo fuel) =
      (d.get x).children.toList.flatMap (d.preorderUpTo fuel) := by
  have hlist : ∀ cs : List Nat, (∀ c ∈ cs, (d.get c).data ≠ .document) →
      (d.elementsOf cs).flatMap (d.preorderUpTo fuel) = cs.flatMap (d.preorderUpTo fuel) := by
    intro cs hnotdoc
    induction cs with
    | nil => rfl
    | cons c cs ih =>
      have hcs := ih fun c' h' => hnotdoc c' (List.mem_cons_of_mem c h')
      unfold elementsOf at hcs ⊢
      cases he : d.isElement c with
      | true => simp [he, hcs]
      | false =>
        simp [he, hcs,
          preorderUpTo_of_not_element he (hnotdoc c List.mem_cons_self)]
  exact hlist _ fun c hc => hd.child_ne_document (Array.mem_toList_iff.mp hc)

theorem elementOrder_eq :
    d.elementOrder = (d.get 0).children.toList.flatMap (d.preorderUpTo d.nodes.size) := by
  rw [elementOrder, preorderUpTo, hd.root_document]

theorem nodup_elementOrder : d.elementOrder.Nodup := hd.nodup_preorderUpTo _ _

theorem mem_elementOrder {y : Nat} :
    y ∈ d.elementOrder ↔ d.isElement y = true ∧ d.Reaches 0 y :=
  ⟨mem_preorderUpTo _ _, fun ⟨he, hr⟩ => mem_preorderUpTo_of_reaches he _ _ hd.fits_root hr⟩

end IsTree

end TreeSelect.Markup.Dom
