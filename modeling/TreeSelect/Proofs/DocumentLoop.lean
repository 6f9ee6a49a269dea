import TreeSelect.Document
import TreeSelect.Proofs.ForestShape
import TreeSelect.Proofs.DomTree

namespace TreeSelect.Forest

open Markup

variable {f g : Forest} {e : Element} {x p : Nat}

section Edits

theorem append_ok_of_lt (hp : p < f.size) : ∃ g, f.append p e = .ok (g, f.size) := by
  obtain ⟨pe, hpe⟩ := exists_get?_of_lt hp
  exact ⟨_, by rw [append, hpe]⟩

theorem modify_cases {h : Element → Element} (hp : p < f.size) :
    ∃ g, f.modify p h = some g ∧ g.size = f.size ∧ g.roots = f.roots ∧
      (∀ x, g.parent? x = f.parent? x) ∧ (∀ x, g.children x = f.children x) ∧
      (∀ x, g.elem? x = if x = p then (f.elem? p).map h else f.elem? x) := by
  obtain ⟨pe, hpe⟩ := exists_get?_of_lt hp
  let g : Forest := { f with entries := f.entries.set! p { pe with elem := h pe.elem } }
  have hget : ∀ x, g.get? x = if x = p then some { pe with elem := h pe.elem } else f.get? x := by
    intro x
    simp only [g, get?, Array.set!_eq_setIfInBounds, Array.getElem?_setIfInBounds]
    by_cases hxp : x = p
    · subst hxp
      simp [show x < f.entries.size from hp]
    · simp [hxp, Ne.symm hxp]
  refine ⟨g, by simp [g, modify, hpe], by simp [g, size], rfl, fun x => ?_, fun x => ?_,
    fun x => ?_⟩
  · by_cases hxp : x = p
    · subst hxp
      simp [parent?, hget, hpe]
    · simp [parent?, hget, hxp]
  · by_cases hxp : x = p
    · subst hxp
      simp [children, hget, hpe]
    · simp [children, hget, hxp]
  · by_cases hxp : x = p
    · subst hxp
      simp [elem?, hget, hpe]
    · simp [elem?, hget, hxp]

theorem lt_size_of_modify_eq_some {h : Element → Element} (hm : f.modify p h = some g) :
    p < f.size := by
  by_contra hp
  rw [modify, get?_eq_none (Nat.le_of_not_lt hp)] at hm
  cases hm

theorem WellFormed.of_links (hf : f.WellFormed) (hsize : g.size = f.size) (hroots : g.roots = f.roots)
    (hparent : ∀ x, g.parent? x = f.parent? x) (hchildren : ∀ x, g.children x = f.children x) :
    g.WellFormed := by
  have hup : g.up = f.up := funext fun x => by simp [up, hparent]
  exact {
    parent_lt := fun h => hsize ▸ hf.parent_lt (hparent _ ▸ h)
    parent?_eq_some_iff := by
      intro x q
      rw [hparent, hchildren]
      exact hf.parent?_eq_some_iff
    nodup_children := fun q => hchildren q ▸ hf.nodup_children q
    reaches_root := fun x => by
      obtain ⟨k, hk⟩ := hf.reaches_root x
      exact ⟨k, by rw [hup, hparent, hk]⟩
    roots_eq := by
      rw [hroots, hf.roots_eq, hsize]
      exact List.filter_congr fun x _ => by rw [hparent] }

theorem WellFormed.modify {h : Element → Element} (hf : f.WellFormed)
    (hm : f.modify p h = some g) : g.WellFormed := by
  obtain ⟨g', hg', hsize, hroots, hparent, hchildren, -⟩ :=
    modify_cases (h := h) (lt_size_of_modify_eq_some hm)
  obtain rfl : g' = g := Option.some.inj (hg'.symm.trans hm)
  exact hf.of_links hsize hroots hparent hchildren

end Edits

section Place

variable {parent : Option Nat} {id : Nat}

/-- `parent` is none or a node of the forest: a place where a new node can go. -/
def Admits (f : Forest) (parent : Option Nat) : Prop := ∀ q, parent = some q → q < f.size

theorem admits_none : f.Admits none := fun _ h => by cases h

theorem Admits.mono (h : f.Admits parent) (hsize : f.size ≤ g.size) : g.Admits parent :=
  fun q hq => Nat.lt_of_lt_of_le (h q hq) hsize

theorem place_cases (e : Element) (hp : f.Admits parent) :
    ∃ g, f.place parent e = .ok (g, f.size) ∧ g.size = f.size + 1 ∧
      g.roots = f.roots ++ (if parent = none then [f.size] else []) ∧
      (∀ y, g.parent? y = if y = f.size then parent else f.parent? y) ∧
      (∀ y, g.children y = f.children y ++ if parent = some y then [f.size] else []) ∧
      (∀ y, g.elem? y = if y = f.size then some e else f.elem? y) := by
  cases parent with
  | none =>
    refine ⟨(f.add e).1, rfl, size_add, by simp, fun y => ?_, fun y => by simp, fun y => elem?_add⟩
    rw [parent?_add]
    split
    · rename_i hy
      exact parent?_eq_none_of_le (Nat.le_of_eq hy.symm)
    · rfl
  | some q =>
    obtain ⟨g, hg⟩ := append_ok_of_lt (e := e) (hp q rfl)
    obtain ⟨-, -, hsize, hroots, hparent, hchildren, helem⟩ := append_ok_cases hg
    refine ⟨g, by simp [place, hg, Except.mapError], hsize, by simp [hroots], hparent,
      fun y => ?_, helem⟩
    rw [hchildren]
    by_cases hy : y = q
    · subst hy
      simp
    · simp [hy, Ne.symm hy]

theorem WellFormed.place (hf : f.WellFormed) (h : f.place parent e = .ok (g, id)) :
    g.WellFormed := by
  cases parent with
  | none =>
    obtain ⟨rfl, rfl⟩ := Prod.mk.inj (Except.ok.inj h).symm
    exact hf.add e
  | some q =>
    cases ha : f.append q e with
    | error err => simp [Forest.place, ha, Except.mapError] at h
    | ok r =>
      obtain ⟨g', id'⟩ := r
      simp only [Forest.place, ha, Except.mapError, Except.ok.injEq, Prod.mk.injEq] at h
      obtain ⟨rfl, rfl⟩ := h
      exact hf.append ha

theorem place_ne_tree_error (hp : f.Admits parent) (err : TreeError) :
    f.place parent e ≠ .error (.tree err) := by
  obtain ⟨g, hg, -⟩ := place_cases e hp
  rw [hg]
  intro h
  cases h

end Place

section Visit

variable {d : Dom} {raw : Bool} {ser : Nat → Except String String} {parent : Option Nat}
  {next : Option (Option Nat)}

theorem elementNode_of_ok {outer : Except String String} {s : String} (h : outer = .ok s)
    (raw : Bool) (name : String) (attrs : List Attribute) :
    elementNode raw outer name attrs = .ok (elementOf raw s name attrs) := by
  cases raw <;> simp [elementNode, elementOf, h, Except.mapError, Except.map]

theorem elementNode_ne_tree_error (raw : Bool) (outer : Except String String) (name : String)
    (attrs : List Attribute) (err : TreeError) : elementNode raw outer name attrs ≠ .error (.tree err) := by
  cases raw <;> cases outer <;> simp [elementNode, Except.mapError, Except.map]

theorem visit_document (h : (d.get x).data = .document) :
    visit d raw ser x parent f = .ok (f, some parent) := by
  simp [visit, h]

theorem visit_element {ns name attrs cc} (h : (d.get x).data = .element ns name attrs cc) :
    visit d raw ser x parent f = (elementNode raw (ser x) name attrs).bind fun e =>
      (f.place parent e).bind fun r => .ok (r.1, some (some r.2)) := by
  simp only [visit, h]
  rfl

theorem visit_text {s : String} (h : (d.get x).data = .text s) :
    visit d raw ser x parent f =
      .ok ((parent.bind fun p => f.modify p (·.pushText s)).getD f, none) := by
  cases parent <;> simp [visit, h]

theorem visit_skip (he : d.opens x = false) (ht : d.text? x = none) :
    visit d raw ser x parent f = .ok (f, none) := by
  unfold Dom.opens at he
  unfold Dom.text? at ht
  unfold visit
  split <;> simp_all

/-- What a visit that went through did, by the kind of node: the document passes its parent on,
an element is placed and its children go under it, and anything else is not gone below, a text
changing at most the element it goes to. -/
theorem visit_ok_cases (h : visit d raw ser x parent f = .ok (g, next)) :
    ((d.get x).data = .document ∧ g = f ∧ next = some parent) ∨
    (∃ ns name attrs cc e id, (d.get x).data = .element ns name attrs cc ∧
      f.place parent e = .ok (g, id) ∧ next = some (some id)) ∨
    (d.opens x = false ∧ next = none ∧ (g = f ∨ ∃ q s, f.modify q (·.pushText s) = some g)) := by
  cases hdata : (d.get x).data with
  | document =>
    rw [visit_document hdata] at h
    cases h
    exact .inl ⟨rfl, rfl, rfl⟩
  | element ns name attrs cc =>
    rw [visit_element hdata] at h
    cases hn : elementNode raw (ser x) name attrs with
    | error err => simp [hn, Except.bind] at h
    | ok e =>
      cases hp : f.place parent e with
      | error err => simp [hn, hp, Except.bind] at h
      | ok r =>
        obtain ⟨g', id⟩ := r
        simp only [hn, hp, Except.bind, Except.ok.injEq, Prod.mk.injEq] at h
        obtain ⟨rfl, rfl⟩ := h
        exact .inr (.inl ⟨ns, name, attrs, cc, e, id, rfl, hp, rfl⟩)
  | text s =>
    rw [visit_text hdata] at h
    simp only [Except.ok.injEq, Prod.mk.injEq] at h
    obtain ⟨rfl, rfl⟩ := h
    refine .inr (.inr ⟨by simp [Dom.opens, hdata], rfl, ?_⟩)
    cases parent with
    | none => exact .inl rfl
    | some q =>
      cases hm : f.modify q (·.pushText s) with
      | none => exact .inl (by simp [hm])
      | some g' => exact .inr ⟨q, s, by simp [hm]⟩
  | fragment | comment _ | doctype _ =>
    rw [visit_skip (by simp [Dom.opens, hdata]) (by simp [Dom.text?, hdata])] at h
    cases h
    exact .inr (.inr ⟨by simp [Dom.opens, hdata], rfl, .inl rfl⟩)

/-- A visit fails only in building an element or in placing it. -/
theorem visit_error_cases {err : HtmlError} (h : visit d raw ser x parent f = .error err) :
    ∃ ns name attrs cc, (d.get x).data = .element ns name attrs cc ∧
      (elementNode raw (ser x) name attrs = .error err ∨
        ∃ e, f.place parent e = .error err) := by
  cases hdata : (d.get x).data with
  | element ns name attrs cc =>
    rw [visit_element hdata] at h
    refine ⟨ns, name, attrs, cc, rfl, ?_⟩
    cases hn : elementNode raw (ser x) name attrs with
    | error err' =>
      rw [hn] at h
      exact .inl (congrArg Except.error (Except.error.inj h))
    | ok e =>
      cases hp : f.place parent e with
      | error err' =>
        simp only [hn, hp, Except.bind, Except.error.injEq] at h
        exact .inr ⟨e, h ▸ hp⟩
      | ok r => simp [hn, hp, Except.bind] at h
  | document =>
    rw [visit_document hdata] at h
    cases h
  | text s =>
    rw [visit_text hdata] at h
    cases h
  | fragment | comment _ | doctype _ =>
    rw [visit_skip (by simp [Dom.opens, hdata]) (by simp [Dom.text?, hdata])] at h
    cases h

/-- The walk goes on below exactly the document and elements. -/
theorem visit_ok_next (h : visit d raw ser x parent f = .ok (g, next)) :
    next.isSome = d.opens x := by
  rcases visit_ok_cases h with ⟨hdata, -, rfl⟩ | ⟨_, _, _, _, _, _, hdata, -, rfl⟩ | ⟨hopens, rfl, -⟩
  · simp [Dom.opens, hdata]
  · simp [Dom.opens, hdata]
  · simp [hopens]

theorem visit_ne_tree_error (hp : f.Admits parent) (err : TreeError) :
    visit d raw ser x parent f ≠ .error (.tree err) := by
  intro h
  obtain ⟨_, name, attrs, _, -, hn | ⟨e, hplace⟩⟩ := visit_error_cases h
  · exact elementNode_ne_tree_error raw (ser x) name attrs err hn
  · exact place_ne_tree_error hp err hplace

/-- A visit under a place where a new node can go only lets the forest grow, and its children go
where a new node can go. -/
theorem visit_ok_admits (hp : f.Admits parent) (h : visit d raw ser x parent f = .ok (g, next)) :
    f.size ≤ g.size ∧ ∀ c, next = some c → g.Admits c := by
  rcases visit_ok_cases h with ⟨-, rfl, rfl⟩ | ⟨_, _, _, _, e, id, -, hplace, rfl⟩ |
    ⟨-, rfl, rfl | ⟨q, s, hm⟩⟩
  · exact ⟨Nat.le_refl _, fun c hc => Option.some.inj hc ▸ hp⟩
  · obtain ⟨g', hg', hsize, -⟩ := place_cases e hp
    obtain ⟨rfl, rfl⟩ := Prod.mk.inj (Except.ok.inj (hg'.symm.trans hplace))
    refine ⟨by omega, fun c hc q hq => ?_⟩
    rw [← Option.some.inj hc, Option.some.injEq] at hq
    omega
  · exact ⟨Nat.le_refl _, fun c hc => by cases hc⟩
  · obtain ⟨g', hg', hsize, -⟩ := modify_cases (h := (·.pushText s)) (lt_size_of_modify_eq_some hm)
    obtain rfl : g' = g := Option.some.inj (hg'.symm.trans hm)
    exact ⟨Nat.le_of_eq hsize.symm, fun c hc => by cases hc⟩

theorem WellFormed.visit (hf : f.WellFormed) (h : visit d raw ser x parent f = .ok (g, next)) :
    g.WellFormed := by
  rcases visit_ok_cases h with ⟨-, rfl, -⟩ | ⟨_, _, _, _, _, _, -, hplace, -⟩ |
    ⟨-, -, rfl | ⟨_, _, hm⟩⟩
  · exact hf
  · exact hf.place hplace
  · exact hf
  · exact hf.modify hm

end Visit

section Loop

variable {d : Dom} {raw : Bool} {ser : Nat → Except String String} {ctx : Option Nat}
  {next : Option (Option Nat)}

variable (d) in
/-- What a visit of `x` pushes: its children, last first, under the node the visit gives; nothing
when the walk does not go below it. -/
def pending (x : Nat) : Option (Option Nat) → Array (Nat × Option Nat)
  | none => #[]
  | some c => ((d.get x).children.map (·, c)).reverse

theorem mem_pending {en : Nat × Option Nat} (h : en ∈ pending d x next) :
    next = some en.2 ∧ en.1 ∈ (d.get x).children := by
  cases next with
  | none => simp [pending] at h
  | some c =>
    obtain ⟨y, hy, rfl⟩ := Array.mem_map.mp (Array.mem_reverse.mp h)
    exact ⟨rfl, hy⟩

theorem convertLoop_empty (n : Nat) (f : Forest) : convertLoop d raw ser n #[] f = .ok f := by
  cases n <;> rfl

theorem convertLoop_push (n : Nat) (rest : Array (Nat × Option Nat)) (x : Nat) (ctx : Option Nat)
    (f : Forest) :
    convertLoop d raw ser (n + 1) (rest.push (x, ctx)) f =
      (visit d raw ser x ctx f).bind fun r => convertLoop d raw ser n (rest ++ pending d x r.2) r.1 := by
  simp only [convertLoop, Array.back?_push, Array.pop_push]
  congr 1
  funext ⟨g, next⟩
  cases next <;> simp [pending]

/-- Whatever the document and the serializer, no edit of the loop is refused: every entry of the
stack goes where a new node can go, and each round keeps it so. -/
theorem convertLoop_ne_tree_error :
    ∀ n (stack : Array (Nat × Option Nat)) f, (∀ en ∈ stack, f.Admits en.2) →
      ∀ err, convertLoop d raw ser n stack f ≠ .error (.tree err) := by
  intro n
  induction n with
  | zero =>
    intro _ _ _ _ h
    cases h
  | succ n ih =>
    intro stack f hstack err
    cases hb : stack.back? with
    | none => simp [convertLoop, hb]
    | some en =>
      obtain ⟨x, ctx⟩ := en
      obtain ⟨rest, rfl⟩ := Array.back?_eq_some_iff.mp hb
      have hctx : f.Admits ctx := hstack _ (Array.mem_push_self)
      rw [convertLoop_push]
      cases hv : visit d raw ser x ctx f with
      | error e' =>
        intro h
        obtain rfl : e' = .tree err := Except.error.inj h
        exact visit_ne_tree_error hctx err hv
      | ok r =>
        obtain ⟨g, next⟩ := r
        obtain ⟨hsize, hnext⟩ := visit_ok_admits hctx hv
        refine ih _ g (fun en hen => ?_) err
        rcases Array.mem_append.mp hen with hen | hen
        · exact (hstack en (Array.mem_push_of_mem _ hen)).mono hsize
        · exact hnext _ (mem_pending hen).1

theorem WellFormed.convertLoop :
    ∀ n (stack : Array (Nat × Option Nat)) f, f.WellFormed →
      ∀ g, Forest.convertLoop d raw ser n stack f = .ok g → g.WellFormed := by
  intro n
  induction n with
  | zero =>
    intro _ f hf g h
    cases h
    exact hf
  | succ n ih =>
    intro stack f hf g h
    cases hb : stack.back? with
    | none =>
      simp only [Forest.convertLoop, hb, Except.ok.injEq] at h
      exact h ▸ hf
    | some en =>
      obtain ⟨x, ctx⟩ := en
      obtain ⟨rest, rfl⟩ := Array.back?_eq_some_iff.mp hb
      rw [convertLoop_push] at h
      cases hv : Forest.visit d raw ser x ctx f with
      | error err => simp [hv, Except.bind] at h
      | ok r =>
        rw [hv] at h
        exact ih _ r.1 (hf.visit hv) g h

end Loop

section Recursion

variable {d : Dom} {raw : Bool} {ser : Nat → Except String String} {ctx : Option Nat}
  {next : Option (Option Nat)}

variable (d raw ser) in
/-- The walk of the loop as a recursion: a node, then its children in order under the node the
visit gives, at most `n` levels deep. -/
def walkUpTo : Nat → Option Nat → Nat → Forest → Except HtmlError Forest
  | 0, _, _, f => .ok f
  | n + 1, parent, x, f =>
    (visit d raw ser x parent f).bind fun r =>
      match r.2 with
      | none => .ok r.1
      | some c => (d.get x).children.toList.foldlM (fun g y => walkUpTo n c y g) r.1

variable (d raw ser) in
/-- The recursive walk over a list of siblings, one after the other, under one node. -/
def walkList (n : Nat) (c : Option Nat) (cs : List Nat) (f : Forest) : Except HtmlError Forest :=
  cs.foldlM (fun g y => walkUpTo d raw ser n c y g) f

theorem walkList_cons (n : Nat) (c : Option Nat) (y : Nat) (cs : List Nat) :
    walkList d raw ser n c (y :: cs) f =
      (walkUpTo d raw ser n c y f).bind (walkList d raw ser n c cs) := rfl

theorem walkUpTo_of_visit_none {g : Forest} {n : Nat} (h : visit d raw ser x ctx f = .ok (g, none)) :
    walkUpTo d raw ser (n + 1) ctx x f = .ok g := by
  rw [walkUpTo, h]
  rfl

theorem walkUpTo_of_visit_some {g : Forest} {n : Nat} {c : Option Nat}
    (h : visit d raw ser x ctx f = .ok (g, some c)) :
    walkUpTo d raw ser (n + 1) ctx x f = walkList d raw ser n c (d.get x).children.toList g := by
  rw [walkUpTo, h]
  rfl

theorem walkUpTo_succ (n : Nat) (x : Nat) :
    walkUpTo d raw ser (n + 1) ctx x f = (visit d raw ser x ctx f).bind fun r =>
      (pending d x r.2).toList.reverse.foldlM (fun g en => walkUpTo d raw ser n en.2 en.1 g) r.1 := by
  simp only [walkUpTo]
  congr 1
  funext ⟨g, next⟩
  cases next with
  | none => rfl
  | some c =>
    simp only [pending, Array.toList_reverse, List.reverse_reverse, Array.toList_map,
      List.foldlM_map]

/-- The loop with `x` on top of the stack runs the recursive walk from `x`, then goes on with the
rest of the stack; it takes as many rounds as the walk meets nodes. -/
theorem convertLoop_push_eq :
    ∀ n x, d.Fits n x → ∀ k rest ctx f,
      convertLoop d raw ser ((d.visitsUpTo n x).length + k) (rest.push (x, ctx)) f =
        (walkUpTo d raw ser n ctx x f).bind (convertLoop d raw ser k rest) := by
  intro n
  induction n with
  | zero => exact fun _ hfits => absurd hfits id
  | succ n ih =>
    have hlist : ∀ (ens : List (Nat × Option Nat)), (∀ en ∈ ens, d.Fits n en.1) → ∀ k rest f,
        convertLoop d raw ser ((ens.flatMap fun en => d.visitsUpTo n en.1).length + k)
            (rest ++ ens.reverse.toArray) f =
          (ens.foldlM (fun g en => walkUpTo d raw ser n en.2 en.1 g) f).bind
            (convertLoop d raw ser k rest) := by
      intro ens
      induction ens with
      | nil =>
        intro _ k rest f
        simp only [List.flatMap_nil, List.length_nil, Nat.zero_add, List.reverse_nil,
          List.foldlM_nil]
        show convertLoop d raw ser k (rest ++ #[]) f = _
        rw [Array.append_empty]
        rfl
      | cons en ens ihens =>
        intro hfits k rest f
        have hpush : rest ++ (en :: ens).reverse.toArray = (rest ++ ens.reverse.toArray).push en := by
          simp
        rw [hpush, List.flatMap_cons, List.length_append, Nat.add_assoc,
          ih en.1 (hfits en List.mem_cons_self), List.foldlM_cons]
        cases walkUpTo d raw ser n en.2 en.1 f with
        | error err => rfl
        | ok g => exact ihens (fun en' h' => hfits en' (List.mem_cons_of_mem en h')) k rest g
    intro x hfits k rest ctx f
    rw [walkUpTo_succ]
    cases hv : visit d raw ser x ctx f with
    | error err =>
      rw [show (d.visitsUpTo (n + 1) x).length + k = ((d.visitsUpTo (n + 1) x).length - 1 + k) + 1
        by simp [Dom.visitsUpTo]; omega, convertLoop_push, hv]
      rfl
    | ok r =>
      obtain ⟨g, next⟩ := r
      have hopens := visit_ok_next hv
      have hlen : (d.visitsUpTo (n + 1) x).length + k =
          (((pending d x next).toList.reverse.flatMap fun en => d.visitsUpTo n en.1).length + k) + 1 := by
        cases next with
        | none => simp [Dom.visitsUpTo, ← hopens, pending]; omega
        | some c =>
          simp only [Dom.visitsUpTo, ← hopens, Option.isSome_some, if_true, pending,
            Array.toList_reverse, List.reverse_reverse, Array.toList_map, List.flatMap_map,
            List.length_cons]
          exact Nat.add_right_comm _ _ _
      have hstack : rest ++ pending d x next = rest ++ (pending d x next).toList.reverse.reverse.toArray := by
        simp
      rw [hlen, convertLoop_push, hv]
      simp only [Except.bind]
      rw [hstack]
      exact hlist _ (fun en hen =>
        hfits en.1 (mem_pending (Array.mem_toList_iff.mp (List.mem_reverse.mp hen))).2) k rest g

/-- On a tree the loop runs the recursive walk from the document to its end: its rounds, one for
each node the walk meets, are at most the nodes of the document and one more. -/
theorem convert_eq_walkUpTo (hd : d.IsTree) :
    convert d raw ser = walkUpTo d raw ser (d.nodes.size + 1) none 0 {} := by
  have hle := hd.length_visitsUpTo_le (d.nodes.size + 1)
  have hsim := @convertLoop_push_eq d raw ser (d.nodes.size + 1) 0 hd.fits_root
    (d.nodes.size + 1 - (d.visitsUpTo (d.nodes.size + 1) 0).length) #[] none {}
  rw [Nat.add_sub_cancel' hle] at hsim
  have hempty : convertLoop d raw ser
      (d.nodes.size + 1 - (d.visitsUpTo (d.nodes.size + 1) 0).length) #[] = Except.ok :=
    funext (convertLoop_empty _)
  rw [convert, show (#[(0, none)] : Array (Nat × Option Nat)) = #[].push (0, none) from rfl, hsim,
    hempty]
  cases walkUpTo d raw ser (d.nodes.size + 1) none 0 {} <;> rfl

theorem convert_ne_tree_error (d : Dom) (raw : Bool) (ser : Nat → Except String String)
    (err : TreeError) : convert d raw ser ≠ .error (.tree err) := by
  refine convertLoop_ne_tree_error _ _ _ (fun en hen => ?_) err
  rw [Array.mem_singleton.mp hen]
  exact admits_none

theorem WellFormed.convert {F : Forest} (h : convert d raw ser = .ok F) : F.WellFormed :=
  WellFormed.convertLoop _ _ _ wellFormed_empty _ h

end Recursion

end TreeSelect.Forest
