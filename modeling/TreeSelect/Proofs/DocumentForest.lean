import TreeSelect.Proofs.DocumentLoop
import TreeSelect.Proofs.Preorder

namespace TreeSelect.Element

/-- The runs of text an element keeps from some texts: each trimmed, and those that trim to
nothing dropped. -/
def textRuns (ts : List String) : List String := (ts.map Text.trim).filter fun t => !t.isEmpty

theorem foldl_pushText (ts : List String) (e : Element) :
    ts.foldl pushText e =
      { e with text := e.text ++ String.join (textRuns ts), textParts := e.textParts ++ textRuns ts } := by
  induction ts generalizing e with
  | nil => simp [textRuns, String.join_nil]
  | cons t ts ih =>
    rw [List.foldl_cons, ih]
    by_cases ht : (Text.trim t).isEmpty
    · simp [pushText, textRuns, ht]
    · simp [pushText, textRuns, ht, String.join_cons, String.append_assoc]

@[simp] theorem text_setAttr (e : Element) (name value : String) :
    (e.setAttr name value).text = e.text := by
  unfold setAttr
  split
  · rfl
  · split <;> rfl

@[simp] theorem textParts_setAttr (e : Element) (name value : String) :
    (e.setAttr name value).textParts = e.textParts := by
  unfold setAttr
  split
  · rfl
  · split <;> rfl

end TreeSelect.Element

namespace TreeSelect.Forest

open Markup

variable {f g : Forest} {e : Element} {x p : Nat}

section Walk

variable {d : Dom} {raw : Bool} {ser : Nat → Except String String} {markup : Nat → String}
  {ι : Nat → Nat} {fuel owner c : Nat}

/-- Where the walk puts the nodes for the children of `owner`: at the top for the document, node
0, and under the node `ι owner` for an element. -/
def slot (ι : Nat → Nat) (owner : Nat) : Option Nat := if owner = 0 then none else some (ι owner)

@[simp] theorem slot_zero : slot ι 0 = none := rfl

theorem slot_of_ne_zero (h : owner ≠ 0) : slot ι owner = some (ι owner) := if_neg h

/-- What a walk over the children `cs` of `owner` does, taking `f` to `g`. It adds the elements
`L` met below `cs` as the nodes `f.size`, `f.size + 1`, … in that order, the node of `y` being
`ι y`, each with its element, texts, parent and element children. The nodes of the elements
among `cs` become roots (under the document) or the last children of the node of `owner`,
which also gets the texts among `cs`; no other old node changes. -/
structure WalkSpec (d : Dom) (raw : Bool) (markup : Nat → String) (ι : Nat → Nat) (owner : Nat)
    (cs L : List Nat) (f g : Forest) : Prop where
  size_eq : g.size = f.size + L.length
  roots_eq : g.roots = f.roots ++ if slot ι owner = none then (d.elementsOf cs).map ι else []
  parent_old : ∀ x < f.size, g.parent? x = f.parent? x
  children_old : ∀ x < f.size,
    g.children x = f.children x ++ if slot ι owner = some x then (d.elementsOf cs).map ι else []
  elem_old : ∀ x < f.size, g.elem? x =
    if slot ι owner = some x then (f.elem? x).map fun e => (d.textsOf cs).foldl Element.pushText e
    else f.elem? x
  parent_new : ∀ i (h : i < L.length), ∀ q, d.Child q L[i] → g.parent? (f.size + i) = slot ι q
  slot_lt : ∀ i (h : i < L.length), ∀ q, d.Child q L[i] → ∀ y, slot ι q = some y → y < f.size + i
  children_new : ∀ i (h : i < L.length),
    g.children (f.size + i) = (d.elementsOf (d.get L[i]).children.toList).map ι
  elem_new : ∀ i (h : i < L.length), ∃ ns name attrs cc,
    (d.get L[i]).data = .element ns name attrs cc ∧ g.elem? (f.size + i) =
      some ((d.textsOf (d.get L[i]).children.toList).foldl Element.pushText
        (elementOf raw (markup L[i]) name attrs))

theorem WalkSpec.of_no_element {cs : List Nat} (he : d.elementsOf cs = [])
    (ht : slot ι owner = none ∨ d.textsOf cs = []) : WalkSpec d raw markup ι owner cs [] f f where
  size_eq := rfl
  roots_eq := by simp [he]
  parent_old _ _ := rfl
  children_old _ _ := by simp [he]
  elem_old _ _ := by rcases ht with ht | ht <;> simp [ht]
  parent_new _ h := absurd h (Nat.not_lt_zero _)
  slot_lt _ h := absurd h (Nat.not_lt_zero _)
  children_new _ h := absurd h (Nat.not_lt_zero _)
  elem_new _ h := absurd h (Nat.not_lt_zero _)

theorem WalkSpec.nil : WalkSpec d raw markup ι owner [] [] f f := .of_no_element rfl (.inr rfl)

theorem exists_getElem_append {L₁ L₂ : List Nat} {i : Nat} (h : i < (L₁ ++ L₂).length) :
    (∃ h₁ : i < L₁.length, (L₁ ++ L₂)[i] = L₁[i]) ∨
      ∃ j, ∃ h₂ : j < L₂.length, i = L₁.length + j ∧ (L₁ ++ L₂)[i] = L₂[j] := by
  rcases Nat.lt_or_ge i L₁.length with h₁ | h₁
  · exact .inl ⟨h₁, List.getElem_append_left h₁⟩
  · rw [List.length_append] at h
    exact .inr ⟨i - L₁.length, by omega, by omega, List.getElem_append_right h₁⟩

theorem WalkSpec.append {cs₁ cs₂ L₁ L₂ : List Nat} {k : Forest}
    (h₁ : WalkSpec d raw markup ι owner cs₁ L₁ f g) (h₂ : WalkSpec d raw markup ι owner cs₂ L₂ g k)
    (hown : f.Admits (slot ι owner)) :
    WalkSpec d raw markup ι owner (cs₁ ++ cs₂) (L₁ ++ L₂) f k where
  size_eq := by rw [h₂.size_eq, h₁.size_eq, List.length_append, Nat.add_assoc]
  roots_eq := by
    rw [h₂.roots_eq, h₁.roots_eq]
    split <;> simp [Dom.elementsOf]
  parent_old x hx := by
    rw [h₂.parent_old x (by rw [h₁.size_eq]; omega), h₁.parent_old x hx]
  children_old x hx := by
    rw [h₂.children_old x (by rw [h₁.size_eq]; omega), h₁.children_old x hx]
    split <;> simp [Dom.elementsOf]
  elem_old x hx := by
    rw [h₂.elem_old x (by rw [h₁.size_eq]; omega), h₁.elem_old x hx]
    split
    · simp [Dom.textsOf, Option.map_map, Function.comp_def]
    · rfl
  parent_new i hi q hq := by
    rcases exists_getElem_append hi with ⟨hi₁, heq⟩ | ⟨j, hj, rfl, heq⟩
    · rw [heq] at hq
      rw [h₂.parent_old _ (by rw [h₁.size_eq]; omega), h₁.parent_new i hi₁ q hq]
    · rw [heq] at hq
      rw [← Nat.add_assoc, ← h₁.size_eq, h₂.parent_new j hj q hq]
  slot_lt i hi q hq y hy := by
    rcases exists_getElem_append hi with ⟨hi₁, heq⟩ | ⟨j, hj, rfl, heq⟩
    · rw [heq] at hq
      exact h₁.slot_lt i hi₁ q hq y hy
    · rw [heq] at hq
      have := h₂.slot_lt j hj q hq y hy
      rw [h₁.size_eq] at this
      omega
  children_new i hi := by
    rcases exists_getElem_append hi with ⟨hi₁, heq⟩ | ⟨j, hj, rfl, heq⟩
    · have hne : slot ι owner ≠ some (f.size + i) := fun h => by have := hown _ h; omega
      rw [heq, h₂.children_old _ (by rw [h₁.size_eq]; omega), h₁.children_new i hi₁, if_neg hne,
        List.append_nil]
    · rw [heq, ← Nat.add_assoc, ← h₁.size_eq, h₂.children_new j hj]
  elem_new i hi := by
    rcases exists_getElem_append hi with ⟨hi₁, heq⟩ | ⟨j, hj, rfl, heq⟩
    · have hne : slot ι owner ≠ some (f.size + i) := fun h => by have := hown _ h; omega
      rw [heq, h₂.elem_old _ (by rw [h₁.size_eq]; omega), if_neg hne]
      exact h₁.elem_new i hi₁
    · rw [heq, ← Nat.add_assoc, ← h₁.size_eq]
      exact h₂.elem_new j hj

theorem walkSpec_skip {ctx : Option Nat} (he : d.isElement c = false) (ht : d.text? c = none)
    (hdoc : (d.get c).data ≠ .document) :
    ∃ g, walkUpTo d raw ser (fuel + 1) ctx c f = .ok g ∧
      WalkSpec d raw markup ι owner [c] (d.preorderUpTo (fuel + 1) c) f g := by
  have hopens : d.opens c = false := by
    unfold Dom.isElement at he
    unfold Dom.opens
    split <;> simp_all
  rw [Dom.preorderUpTo_of_not_element he hdoc]
  exact ⟨f, walkUpTo_of_visit_none (visit_skip hopens ht),
    .of_no_element (by simp [Dom.elementsOf, he]) (.inr (by simp [Dom.textsOf, ht]))⟩

theorem walkSpec_text {s : String} (h : (d.get c).data = .text s)
    (hown : f.Admits (slot ι owner)) :
    ∃ g, walkUpTo d raw ser (fuel + 1) (slot ι owner) c f = .ok g ∧
      WalkSpec d raw markup ι owner [c] [] f g := by
  have he : d.elementsOf [c] = [] := by simp [Dom.elementsOf, Dom.isElement, h]
  have ht : d.textsOf [c] = [s] := by simp [Dom.textsOf, Dom.text?, h]
  cases hslot : slot ι owner with
  | none => exact ⟨f, walkUpTo_of_visit_none (visit_text h), .of_no_element he (.inl hslot)⟩
  | some p =>
    obtain ⟨g, hg, hsize, hroots, hparent, hchildren, helem⟩ :=
      modify_cases (h := (·.pushText s)) (hown p hslot)
    have hv : visit d raw ser c (some p) f = .ok (g, none) := by simp [visit_text h, hg]
    refine ⟨g, walkUpTo_of_visit_none hv, ?_⟩
    exact {
      size_eq := hsize
      roots_eq := by simp [hslot, hroots]
      parent_old := fun x _ => hparent x
      children_old := fun x _ => by simp [hchildren, he]
      elem_old := fun x _ => by
        rw [helem, ht, hslot]
        by_cases hx : x = p
        · subst hx
          simp
        · simp [hx, Ne.symm hx]
      parent_new := fun _ h => absurd h (Nat.not_lt_zero _)
      slot_lt := fun _ h => absurd h (Nat.not_lt_zero _)
      children_new := fun _ h => absurd h (Nat.not_lt_zero _)
      elem_new := fun _ h => absurd h (Nat.not_lt_zero _) }

section Elements

variable (hser : ∀ y, d.isElement y = true → ser y = .ok (markup y))
include hser

theorem walkSpec_element (hd : d.IsTree) {ns name attrs cc} {Lc : List Nat}
    (h : (d.get c).data = .element ns name attrs cc) (hc : d.Child owner c) (hι : ι c = f.size)
    (hown : f.Admits (slot ι owner))
    (hkids : ∀ g : Forest, g.size = f.size + 1 →
      ∃ k, walkList d raw ser fuel (some f.size) (d.get c).children.toList g = .ok k ∧
        WalkSpec d raw markup ι c (d.get c).children.toList Lc g k) :
    ∃ k, walkUpTo d raw ser (fuel + 1) (slot ι owner) c f = .ok k ∧
      WalkSpec d raw markup ι owner [c] (c :: Lc) f k := by
  obtain ⟨g, hplace, hsize, hroots, hparent, hchildren, helem⟩ :=
    place_cases (elementOf raw (markup c) name attrs) hown
  have hv : visit d raw ser c (slot ι owner) f = .ok (g, some (some f.size)) := by
    rw [visit_element h, elementNode_of_ok (hser c (by simp [Dom.isElement, h]))]
    simp [Except.bind, hplace]
  obtain ⟨k, hwalk, hk⟩ := hkids g hsize
  have hc0 : c ≠ 0 := by
    rintro rfl
    rw [hd.root_document] at h
    cases h
  have hslotc : slot ι c = some f.size := by rw [slot_of_ne_zero hc0, hι]
  have hnew : ∀ y, slot ι owner = some y → y ≠ f.size := fun y hy => Nat.ne_of_lt (hown y hy)
  have hel : d.elementsOf [c] = [c] := by simp [Dom.elementsOf, Dom.isElement, h]
  have htx : d.textsOf [c] = [] := by simp [Dom.textsOf, Dom.text?, h]
  refine ⟨k, by rw [walkUpTo_of_visit_some hv, hwalk], ?_⟩
  exact {
    size_eq := by rw [hk.size_eq, hsize, List.length_cons]; omega
    roots_eq := by
      rw [hk.roots_eq, hslotc, hroots, hel]
      simp [hι]
    parent_old := fun x hx => by rw [hk.parent_old x (by omega), hparent, if_neg (by omega)]
    children_old := fun x hx => by
      have hne : ¬some f.size = some x := by simp; omega
      rw [hk.children_old x (by omega), hchildren, hslotc, hel, if_neg hne]
      simp [hι]
    elem_old := fun x hx => by
      have hne : ¬some f.size = some x := by simp; omega
      rw [hk.elem_old x (by omega), hslotc, if_neg hne, helem, if_neg (by omega), htx]
      simp
    parent_new := fun i hi q hq => by
      cases i with
      | zero =>
        obtain rfl := hd.parent_unique hc hq
        rw [Nat.add_zero, hk.parent_old f.size (by omega), hparent, if_pos rfl]
      | succ j =>
        rw [show f.size + (j + 1) = g.size + j by omega]
        exact hk.parent_new j _ q hq
    slot_lt := fun i hi q hq y hy => by
      cases i with
      | zero =>
        obtain rfl := hd.parent_unique hc hq
        exact hown y hy
      | succ j =>
        have := hk.slot_lt j (by simpa using hi) q hq y hy
        omega
    children_new := fun i hi => by
      cases i with
      | zero =>
        have hnot : ¬slot ι owner = some f.size := fun hs => hnew _ hs rfl
        rw [Nat.add_zero, hk.children_old f.size (by omega), hchildren, hslotc, if_pos rfl,
          children_eq_nil_of_le (Nat.le_refl _), if_neg hnot]
        rfl
      | succ j =>
        rw [show f.size + (j + 1) = g.size + j by omega]
        exact hk.children_new j _
    elem_new := fun i hi => by
      cases i with
      | zero =>
        refine ⟨ns, name, attrs, cc, h, ?_⟩
        rw [Nat.add_zero, hk.elem_old f.size (by omega), hslotc, if_pos rfl, helem, if_pos rfl]
        rfl
      | succ j =>
        rw [show f.size + (j + 1) = g.size + j by omega]
        exact hk.elem_new j _ }

omit hser in
variable (d raw ser markup) in
/-- The walk `fuel` levels deep meets `WalkSpec` on every list of children of one node when it
reaches the bottom of their subtrees and `ι` numbers the elements it meets from the forest's
size on. -/
def WalksAt (ι : Nat → Nat) (fuel : Nat) : Prop :=
  ∀ (cs : List Nat) owner (f : Forest), (∀ c ∈ cs, d.Child owner c) →
    (∀ c ∈ cs, d.Fits fuel c) → f.Admits (slot ι owner) →
    (∀ i (h : i < (cs.flatMap (d.preorderUpTo fuel)).length),
      ι (cs.flatMap (d.preorderUpTo fuel))[i] = f.size + i) →
    ∃ g, walkList d raw ser fuel (slot ι owner) cs f = .ok g ∧
      WalkSpec d raw markup ι owner cs (cs.flatMap (d.preorderUpTo fuel)) f g

omit hser in
theorem walksAt_zero : WalksAt d raw ser markup ι 0 := by
  intro cs owner f _ hfits _ _
  cases cs with
  | nil => exact ⟨f, rfl, WalkSpec.nil⟩
  | cons c _ => exact absurd (hfits c List.mem_cons_self) id

theorem walkSpec_child (hd : d.IsTree) (ih : WalksAt d raw ser markup ι fuel) (hc : d.Child owner c)
    (hfits : d.Fits (fuel + 1) c) (hown : f.Admits (slot ι owner))
    (hι : ∀ i (h : i < (d.preorderUpTo (fuel + 1) c).length),
      ι (d.preorderUpTo (fuel + 1) c)[i] = f.size + i) :
    ∃ g, walkUpTo d raw ser (fuel + 1) (slot ι owner) c f = .ok g ∧
      WalkSpec d raw markup ι owner [c] (d.preorderUpTo (fuel + 1) c) f g := by
  cases hdata : (d.get c).data with
  | document => exact absurd hdata (hd.child_ne_document hc)
  | element ns name attrs cc =>
    have hpre : d.preorderUpTo (fuel + 1) c =
        c :: (d.get c).children.toList.flatMap (d.preorderUpTo fuel) := by
      simp [Dom.preorderUpTo, hdata]
    rw [hpre] at hι ⊢
    have hιc : ι c = f.size := hι 0 (by simp)
    refine walkSpec_element hser hd hdata hc hιc hown fun g hg => ?_
    have hslot : slot ι c = some f.size := by
      rw [slot_of_ne_zero (fun h0 => by rw [h0, hd.root_document] at hdata; cases hdata), hιc]
    rw [← hslot]
    refine ih _ c g (fun c' h' => Array.mem_toList_iff.mp h')
      (fun c' h' => hfits c' (Array.mem_toList_iff.mp h')) (fun y hy => ?_) (fun j hj => ?_)
    · rw [hslot, Option.some.injEq] at hy
      omega
    · have hj₁ := hι (j + 1) (by rw [List.length_cons]; omega)
      rw [List.getElem_cons_succ] at hj₁
      rw [hj₁, hg]
      omega
  | text s =>
    have hpre : d.preorderUpTo (fuel + 1) c = [] := by simp [Dom.preorderUpTo, hdata]
    rw [hpre]
    exact walkSpec_text hdata hown
  | fragment | comment _ | doctype _ =>
    exact walkSpec_skip (by simp [Dom.isElement, hdata]) (by simp [Dom.text?, hdata])
      (by simp [hdata])

theorem walksAt_succ (hd : d.IsTree) (ih : WalksAt d raw ser markup ι fuel) :
    WalksAt d raw ser markup ι (fuel + 1) := by
  intro cs owner f hchild hfits hown hι
  induction cs generalizing f with
  | nil => exact ⟨f, rfl, WalkSpec.nil⟩
  | cons c cs ihcs =>
    rw [List.flatMap_cons] at hι ⊢
    obtain ⟨g, hg, hone⟩ := walkSpec_child hser hd ih (hchild c List.mem_cons_self)
      (hfits c List.mem_cons_self) hown fun i h => by
        rw [← hι i (by rw [List.length_append]; omega), List.getElem_append_left h]
    have hsize := hone.size_eq
    obtain ⟨k, hk, hrest⟩ := ihcs g
      (fun c' h' => hchild c' (List.mem_cons_of_mem c h'))
      (fun c' h' => hfits c' (List.mem_cons_of_mem c h'))
      (hown.mono (by omega))
      (fun j hj => by
        rw [hsize, Nat.add_assoc, ← hι _ (by rw [List.length_append]; omega),
          List.getElem_append_right (by omega)]
        simp)
    refine ⟨k, ?_, hone.append hrest hown⟩
    rw [walkList_cons, hg]
    exact hk

theorem walksAt (hd : d.IsTree) : ∀ fuel, WalksAt d raw ser markup ι fuel
  | 0 => walksAt_zero
  | fuel + 1 => walksAt_succ hser hd (walksAt hd fuel)

end Elements

end Walk

section Document

variable {d : Dom} {raw : Bool} {ser : Nat → Except String String} {markup : Nat → String}
  {F : Forest}

theorem text_elementOf (raw : Bool) (s name : String) (attrs : List Attribute) :
    (elementOf raw s name attrs).text = "" ∧ (elementOf raw s name attrs).textParts = [] := by
  have hkeep : ∀ (as : List Attribute) (e : Element),
      (as.foldl (fun e a => e.setAttr a.name a.value) e).text = e.text ∧
      (as.foldl (fun e a => e.setAttr a.name a.value) e).textParts = e.textParts := by
    intro as
    induction as with
    | nil => exact fun _ => ⟨rfl, rfl⟩
    | cons a as ih => exact fun e => by simp [ih]
  unfold elementOf
  split <;> simp [hkeep, Element.ofTag]

variable (raw) in
theorem walkSpec_convert (hd : d.IsTree) (hser : ∀ y, d.isElement y = true → ser y = .ok (markup y)) :
    ∃ F, convert d raw ser = .ok F ∧
      WalkSpec d raw markup d.elementOrder.idxOf 0 (d.get 0).children.toList d.elementOrder {} F := by
  have hnodup := hd.nodup_elementOrder
  rw [convert_eq_walkUpTo hd, walkUpTo_of_visit_some (visit_document hd.root_document)]
  rw [hd.elementOrder_eq] at *
  exact walksAt hser hd _ _ 0 {} (fun c hc => Array.mem_toList_iff.mp hc)
    (fun c hc => hd.fits_root c (Array.mem_toList_iff.mp hc)) admits_none
    (fun i hi => by simp [hnodup.idxOf_getElem, size])

theorem descendants_eq_map_preorderUpTo (hd : d.IsTree) (hf : F.WellFormed)
    (hsize : F.size = d.elementOrder.length)
    (hchildren : ∀ k (h : k < d.elementOrder.length), F.children k =
      (d.elementsOf (d.get d.elementOrder[k]).children.toList).map d.elementOrder.idxOf) :
    ∀ n y, y ∈ d.elementOrder → d.Fits n y →
      F.descendants (d.elementOrder.idxOf y) = (d.preorderUpTo n y).map d.elementOrder.idxOf := by
  intro n
  induction n with
  | zero => exact fun _ _ hfits => absurd hfits id
  | succ n ih =>
    intro y hy hfits
    have hlt : d.elementOrder.idxOf y < d.elementOrder.length := List.idxOf_lt_length_of_mem hy
    obtain ⟨hel, hr⟩ := hd.mem_elementOrder.mp hy
    have hpre : d.preorderUpTo (n + 1) y =
        y :: (d.get y).children.toList.flatMap (d.preorderUpTo n) := by
      unfold Dom.isElement at hel
      unfold Dom.preorderUpTo
      split <;> simp_all
    have hopens : d.opens y = true := by
      unfold Dom.isElement at hel
      unfold Dom.opens
      split <;> simp_all
    rw [hf.descendants_eq (hsize ▸ hlt), hchildren _ hlt, List.getElem_idxOf hlt, hpre,
      List.map_cons, List.flatMap_map, ← hd.flatMap_elementsOf, List.map_flatMap]
    congr 1
    refine List.flatMap_congr fun c hc => ?_
    obtain ⟨hcy, hce⟩ := List.mem_filter.mp hc
    have hchild : d.Child y c := Array.mem_toList_iff.mp hcy
    exact ih c (hd.mem_elementOrder.mpr ⟨hce, hr.child hopens hchild⟩) (hfits c hchild)

theorem map_idxOf_eq_range {L : List Nat} (h : L.Nodup) : L.map L.idxOf = List.range L.length :=
  List.ext_getElem (by simp) fun i _ _ => by simp [h.idxOf_getElem]

theorem flatMap_descendants_eq_range (hd : d.IsTree) (hf : F.WellFormed)
    (hsize : F.size = d.elementOrder.length)
    (hchildren : ∀ k (h : k < d.elementOrder.length), F.children k =
      (d.elementsOf (d.get d.elementOrder[k]).children.toList).map d.elementOrder.idxOf)
    (hroots : F.roots = (d.elementsOf (d.get 0).children.toList).map d.elementOrder.idxOf) :
    F.roots.flatMap F.descendants = List.range F.size := by
  have hdesc := descendants_eq_map_preorderUpTo hd hf hsize hchildren
  calc F.roots.flatMap F.descendants
      = (d.elementsOf (d.get 0).children.toList).flatMap
          fun c => (d.preorderUpTo d.nodes.size c).map d.elementOrder.idxOf := by
        rw [hroots, List.flatMap_map]
        refine List.flatMap_congr fun c hc => ?_
        obtain ⟨hc0, hce⟩ := List.mem_filter.mp hc
        have hchild : d.Child 0 c := Array.mem_toList_iff.mp hc0
        exact hdesc _ c (hd.mem_elementOrder.mpr ⟨hce, Dom.Reaches.refl.child
          (by simp [Dom.opens, hd.root_document]) hchild⟩) (hd.fits_root c hchild)
    _ = ((d.get 0).children.toList.flatMap (d.preorderUpTo d.nodes.size)).map
          d.elementOrder.idxOf := by
        rw [← hd.flatMap_elementsOf 0 d.nodes.size, List.map_flatMap]
    _ = List.range F.size := by
        rw [← hd.elementOrder_eq, map_idxOf_eq_range hd.nodup_elementOrder, hsize]

/-- `F` is the forest of the document `d`, with `markup` the markup of each element. Its nodes are
the elements reached from the document through the document and elements, each once, numbered in
document order: node `k` stands for `d.elementOrder[k]`. A node holds its element with the trimmed
non-empty runs of its text children, in order, and their concatenation. Its parent is the node of
its parent element, which comes before it, or none under the document; its children are the
nodes of its element children in order, and the roots those of the document's. The forest is
well formed, and its pre-order walk lists the nodes in order. -/
structure IsForestOf (d : Dom) (raw : Bool) (markup : Nat → String) (F : Forest) : Prop where
  nodup_order : d.elementOrder.Nodup
  mem_order : ∀ y, y ∈ d.elementOrder ↔ d.isElement y = true ∧ d.Reaches 0 y
  size_eq : F.size = d.elementOrder.length
  elem_eq : ∀ k (h : k < d.elementOrder.length), ∃ ns name attrs cc,
    (d.get d.elementOrder[k]).data = .element ns name attrs cc ∧
    F.elem? k = some { elementOf raw (markup d.elementOrder[k]) name attrs with
      text := String.join (Element.textRuns (d.textsOf (d.get d.elementOrder[k]).children.toList))
      textParts := Element.textRuns (d.textsOf (d.get d.elementOrder[k]).children.toList) }
  parent_eq : ∀ k (h : k < d.elementOrder.length), ∀ q, d.Child q d.elementOrder[k] →
    F.parent? k = if q = 0 then none else some (d.elementOrder.idxOf q)
  parent_lt : ∀ k (h : k < d.elementOrder.length), ∀ q, d.Child q d.elementOrder[k] → q ≠ 0 →
    d.elementOrder.idxOf q < k
  children_eq : ∀ k (h : k < d.elementOrder.length), F.children k =
    (d.elementsOf (d.get d.elementOrder[k]).children.toList).map d.elementOrder.idxOf
  roots_eq : F.roots = (d.elementsOf (d.get 0).children.toList).map d.elementOrder.idxOf
  wellFormed : F.WellFormed
  preorder_eq : F.roots.flatMap F.descendants = List.range F.size

/-- On a document whose child links form a tree, with `ser` writing out each element as `markup`
gives it, the stack loop ends with the forest of the document. Whatever the serializer does, the
loop never ends in a refused edit: a node's parent is taken off the stack before it. -/
theorem convert_isForestOf (hd : d.IsTree)
    (hser : ∀ y, d.isElement y = true → ser y = .ok (markup y)) :
    (∀ (ser' : Nat → Except String String) err, convert d raw ser' ≠ .error (.tree err)) ∧
      ∃ F, convert d raw ser = .ok F ∧ IsForestOf d raw markup F := by
  obtain ⟨F, hF, hw⟩ := walkSpec_convert raw hd hser
  have hf : F.WellFormed := WellFormed.convert hF
  have hsize : F.size = d.elementOrder.length := by simpa [size] using hw.size_eq
  have hempty : ({} : Forest).size = 0 := rfl
  have hchildren : ∀ k (h : k < d.elementOrder.length), F.children k =
      (d.elementsOf (d.get d.elementOrder[k]).children.toList).map d.elementOrder.idxOf :=
    fun k h => by simpa [hempty] using hw.children_new k h
  have hroots : F.roots = (d.elementsOf (d.get 0).children.toList).map d.elementOrder.idxOf := by
    simpa using hw.roots_eq
  refine ⟨fun ser' err => convert_ne_tree_error d raw ser' err, F, hF,
    hd.nodup_elementOrder, fun y => hd.mem_elementOrder, hsize, fun k h => ?_,
    fun k h q hq => ?_, fun k h q hq hq0 => ?_, hchildren, hroots, hf,
    flatMap_descendants_eq_range hd hf hsize hchildren hroots⟩
  · obtain ⟨ns, name, attrs, cc, hdata, helem⟩ := hw.elem_new k h
    obtain ⟨htext, hparts⟩ := text_elementOf raw (markup d.elementOrder[k]) name attrs
    refine ⟨ns, name, attrs, cc, hdata, ?_⟩
    rw [hempty, Nat.zero_add] at helem
    rw [helem, Element.foldl_pushText, htext, hparts]
    simp
  · simpa [hempty, slot] using hw.parent_new k h q hq
  · simpa [hempty, slot_of_ne_zero hq0] using hw.slot_lt k h q hq _ (slot_of_ne_zero hq0)

theorem convert_isForestOf_paragraph :
    Dom.IsTree ⟨#[{ data := .document, children := #[1] },
        { data := .element .html "p" [] none, parent := some 0, children := #[2] },
        { data := .text "a", parent := some 1 }]⟩ ∧
      ((∀ (ser' : Nat → Except String String) err, convert ⟨#[{ data := .document, children := #[1] },
        { data := .element .html "p" [] none, parent := some 0, children := #[2] },
        { data := .text "a", parent := some 1 }]⟩ true ser' ≠ .error (.tree err)) ∧
      ∃ F, convert ⟨#[{ data := .document, children := #[1] },
        { data := .element .html "p" [] none, parent := some 0, children := #[2] },
        { data := .text "a", parent := some 1 }]⟩ true (fun _ => .ok "<p>a</p>") = .ok F ∧
      IsForestOf ⟨#[{ data := .document, children := #[1] },
        { data := .element .html "p" [] none, parent := some 0, children := #[2] },
        { data := .text "a", parent := some 1 }]⟩ true (fun _ => "<p>a</p>") F) := by
  have hnext : ∀ {p c}, Dom.Child ⟨#[{ data := .document, children := #[1] },
        { data := .element .html "p" [] none, parent := some 0, children := #[2] },
        { data := .text "a", parent := some 1 }]⟩ p c →
      c = p + 1 ∧ c < 3 := by
    intro p c h
    unfold Dom.Child at h
    rcases p with _ | _ | _ | p
    · simp_all [Dom.get]
    · simp_all [Dom.get]
    · simp_all [Dom.get]
    · rw [Dom.get_of_size_le (by simp)] at h
      exact absurd h (Array.not_mem_empty c)
  have hd : Dom.IsTree ⟨#[{ data := .document, children := #[1] },
        { data := .element .html "p" [] none, parent := some 0, children := #[2] },
        { data := .text "a", parent := some 1 }]⟩ := {
    root_document := rfl
    child_lt := fun h => (hnext h).2
    nodup_children := fun p => by
      rcases p with _ | _ | _ | p
      · simp [Dom.get]
      · simp [Dom.get]
      · simp [Dom.get]
      · rw [Dom.get_of_size_le (by simp)]
        exact List.nodup_nil
    parent_unique := fun h₁ h₂ => by
      have := hnext h₁
      have := hnext h₂
      omega
    child_ne_document := fun {p c} h => by
      obtain ⟨rfl, hc⟩ := hnext h
      rcases p with _ | _ | p
      · simp [Dom.get]
      · simp [Dom.get]
      · omega
    acyclic := Dom.acyclic_of_child_lt fun h => by
      have := (hnext h).1
      omega }
  exact ⟨hd, convert_isForestOf hd fun _ _ => rfl⟩

end Document

end TreeSelect.Forest
