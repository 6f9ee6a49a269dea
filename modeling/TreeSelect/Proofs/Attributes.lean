import TreeSelect.Predicate.Basic

namespace TreeSelect

namespace Text

section Words

variable {p q : Char → Bool}

theorem wordsFrom_congr {cs : List Char} (h : ∀ c ∈ cs, p c = q c) (acc : List Char) :
    wordsFrom p cs acc = wordsFrom q cs acc := by
  induction cs generalizing acc with
  | nil => rfl
  | cons c cs ih =>
    have hc := h c (List.mem_cons_self)
    have hcs := ih (fun c' hc' => h c' (List.mem_cons_of_mem _ hc'))
    simp only [wordsFrom, hc, hcs]

theorem mem_wordsFrom_nil {w acc : List Char} :
    w ∈ wordsFrom p [] acc ↔ acc ≠ [] ∧ w = acc.reverse := by
  by_cases h : acc = [] <;> simp [wordsFrom, h]

theorem mem_wordsFrom_sep {c : Char} (hc : p c = true) {w cs acc : List Char} :
    w ∈ wordsFrom p (c :: cs) acc ↔ (acc ≠ [] ∧ w = acc.reverse) ∨ w ∈ wordsFrom p cs [] := by
  by_cases h : acc = [] <;> simp [wordsFrom, hc, h]

theorem wordsFrom_cons_of_not_sep {c : Char} (hc : p c = false) (cs acc : List Char) :
    wordsFrom p (c :: cs) acc = wordsFrom p cs (c :: acc) := by
  simp [wordsFrom, hc]

theorem takeWhile_not_eq_self {acc : List Char} (h : ∀ c ∈ acc, q c = false) :
    acc.takeWhile (fun c => !q c) = acc := by
  induction acc with
  | nil => rfl
  | cons c acc ih =>
    rw [List.takeWhile_cons, h c List.mem_cons_self, Bool.not_false, if_pos rfl,
      ih (fun c' hc' => h c' (List.mem_cons_of_mem _ hc'))]

theorem mem_wordsFrom_of_le (hpq : ∀ c, p c = true → q c = true) {w : List Char}
    (hw : ∀ c ∈ w, q c = false) (cs acc : List Char) (h : w ∈ wordsFrom p cs acc) :
    w ∈ wordsFrom q cs (acc.takeWhile fun c => !q c) := by
  have hkeep : ∀ acc : List Char, w = acc.reverse → acc.takeWhile (fun c => !q c) = acc := by
    rintro acc rfl
    exact takeWhile_not_eq_self fun c hc => hw c (List.mem_reverse.mpr hc)
  induction cs generalizing acc with
  | nil =>
    rw [mem_wordsFrom_nil] at h ⊢
    obtain ⟨hne, rfl⟩ := h
    rw [hkeep acc rfl]
    exact ⟨hne, rfl⟩
  | cons c cs ih =>
    cases hp : p c with
    | true =>
      rw [mem_wordsFrom_sep hp] at h
      rw [mem_wordsFrom_sep (hpq c hp)]
      rcases h with ⟨hne, rfl⟩ | h
      · rw [hkeep acc rfl]
        exact .inl ⟨hne, rfl⟩
      · exact .inr (ih [] h)
    | false =>
      rw [wordsFrom_cons_of_not_sep hp] at h
      have h' := ih (c :: acc) h
      cases hq : q c with
      | true =>
        rw [mem_wordsFrom_sep hq]
        simp only [List.takeWhile_cons, hq, Bool.not_true, Bool.false_eq_true, if_false] at h'
        exact .inr h'
      | false =>
        rw [wordsFrom_cons_of_not_sep hq]
        simpa [List.takeWhile_cons, hq] using h'

end Words

theorem mem_map_ofList_iff {v : String} {ws : List (List Char)} :
    v ∈ ws.map String.ofList ↔ v.toList ∈ ws := by
  constructor
  · intro h
    obtain ⟨w, hw, rfl⟩ := List.mem_map.mp h
    simpa [String.toList_ofList] using hw
  · intro h
    exact List.mem_map.mpr ⟨v.toList, h, String.ofList_toList⟩

theorem mem_splitBlank_of_mem_splitAsciiBlank {s v : String}
    (hv : ∀ c ∈ v.toList, isBlank c = false) (h : v ∈ splitAsciiBlank s) : v ∈ splitBlank s := by
  rw [splitAsciiBlank, mem_map_ofList_iff] at h
  rw [splitBlank, mem_map_ofList_iff]
  have := mem_wordsFrom_of_le (fun _ => isBlank_of_isAsciiBlank) hv s.toList [] h
  simpa [words] using this

theorem splitBlank_eq_splitAsciiBlank {s : String}
    (h : ∀ c ∈ s.toList, isBlank c = isAsciiBlank c) : splitBlank s = splitAsciiBlank s := by
  rw [splitBlank, splitAsciiBlank, words, words, wordsFrom_congr h]

end Text

theorem lookup_insertSorted_self (k v : String) (l : List (String × String)) :
    (insertSorted k v l).lookup k = some v := by
  induction l with
  | nil => simp [insertSorted]
  | cons kv rest ih =>
    obtain ⟨k', v'⟩ := kv
    by_cases heq : k = k'
    · simp [insertSorted, heq]
    · have hb : (k == k') = false := by simpa using heq
      by_cases hlt : k < k'
      · simp [insertSorted, heq, hlt]
      · simp [insertSorted, heq, hlt, List.lookup_cons, hb, ih]

theorem lookup_insertSorted_of_ne {k k' : String} (hne : k' ≠ k) (v : String)
    (l : List (String × String)) : (insertSorted k v l).lookup k' = l.lookup k' := by
  have hb : (k' == k) = false := by simpa using hne
  induction l with
  | nil => simp [insertSorted, List.lookup_cons, hb]
  | cons kv rest ih =>
    obtain ⟨k'', v'⟩ := kv
    by_cases heq : k = k''
    · subst heq
      simp [insertSorted, List.lookup_cons, hb]
    · by_cases hlt : k < k''
      · simp [insertSorted, heq, hlt, List.lookup_cons, hb]
      · simp [insertSorted, heq, hlt, List.lookup_cons, ih]

namespace Element

theorem attr?_setAttr (e : Element) (name value n : String) :
    (e.setAttr name value).attr? n = if n = name then some value else e.attr? n := by
  split
  · rename_i h
    subst h
    simp [setAttr, attr?, lookup_insertSorted_self]
  · rename_i h
    simp only [setAttr, attr?]
    split <;> (try split) <;> exact lookup_insertSorted_of_ne h value _

@[simp] theorem attr?_pushText (e : Element) (t n : String) : (e.pushText t).attr? n = e.attr? n := by
  simp only [pushText]
  split <;> rfl

theorem id_setAttr (e : Element) (name value : String) :
    (e.setAttr name value).id = if name = "id" then value else e.id := by
  unfold setAttr
  split
  · rfl
  · split <;> rfl

theorem classes_setAttr (e : Element) (name value : String) :
    (e.setAttr name value).classes =
      if name = "class" then Text.splitBlank value else e.classes := by
  unfold setAttr
  split
  · rename_i h
    subst h
    simp
  · split <;> rfl

@[simp] theorem id_pushText (e : Element) (t : String) : (e.pushText t).id = e.id := by
  simp only [pushText]
  split <;> rfl

@[simp] theorem classes_pushText (e : Element) (t : String) :
    (e.pushText t).classes = e.classes := by
  simp only [pushText]
  split <;> rfl

/-- The elements made from a tag alone by setting attributes and adding runs of text, as a
document's elements are made. -/
inductive Built : Element → Prop
  | ofTag (tag : String) : Built (ofTag tag)
  | setAttr {e : Element} (name value : String) : Built e → Built (e.setAttr name value)
  | pushText {e : Element} (t : String) : Built e → Built (e.pushText t)

/-- The id is the `id` attribute and the class list is the `class` attribute cut at Unicode white
space, a missing attribute reading as empty. -/
structure Cached (e : Element) : Prop where
  id_eq : e.id = (e.attr? "id").getD ""
  classes_eq : e.classes = Text.splitBlank ((e.attr? "class").getD "")

theorem cached_ofTag (tag : String) : (ofTag tag).Cached where
  id_eq := rfl
  classes_eq := by simp [ofTag, attr?, Text.splitBlank, Text.words, Text.wordsFrom]

theorem Cached.setAttr {e : Element} (h : e.Cached) (name value : String) :
    (e.setAttr name value).Cached where
  id_eq := by
    rw [id_setAttr, attr?_setAttr]
    by_cases hn : name = "id"
    · simp [hn]
    · simp [hn, Ne.symm hn, h.id_eq]
  classes_eq := by
    rw [classes_setAttr, attr?_setAttr]
    by_cases hn : name = "class"
    · simp [hn]
    · simp [hn, Ne.symm hn, h.classes_eq]

theorem Cached.pushText {e : Element} (h : e.Cached) (t : String) : (e.pushText t).Cached where
  id_eq := by simp [h.id_eq]
  classes_eq := by simp [h.classes_eq]

theorem Built.cached {e : Element} (h : e.Built) : e.Cached := by
  induction h with
  | ofTag tag => exact cached_ofTag tag
  | setAttr name value _ ih => exact ih.setAttr name value
  | pushText t _ ih => exact ih.pushText t

end Element

namespace Predicate

/-- On every element built by setting attributes and adding text, `#v` agrees with `[id=v]`. For
`v` without white space `[class~=v]` implies `.v`, and the two agree whenever the `class`
attribute holds no white space beyond the five ASCII blanks. -/
theorem id_and_class_against_attributes {e : Element} (he : e.Built) (v : String)
    (hv : ∀ c ∈ v.toList, Text.isBlank c = false) :
    (Predicate.id v).test e = (attr "id" .equals v).test e ∧
      ((attr "class" .includes v).test e = true → (cls v).test e = true) ∧
      ((∀ c ∈ ((e.attr? "class").getD "").toList, Text.isBlank c = Text.isAsciiBlank c) →
        (cls v).test e = (attr "class" .includes v).test e) := by
  have hc := he.cached
  refine ⟨?_, fun h => ?_, fun hs => ?_⟩
  · simp [test, AttrOp.apply, hc.id_eq]
  · simp only [test, AttrOp.apply, Element.hasClass, hc.classes_eq, List.contains_iff_mem] at h ⊢
    exact Text.mem_splitBlank_of_mem_splitAsciiBlank hv h
  · simp only [test, AttrOp.apply, Element.hasClass, hc.classes_eq,
      Text.splitBlank_eq_splitAsciiBlank hs]

theorem id_and_class_on_ascii_classes :
    ((Element.ofTag "p").setAttr "class" "a b").Built ∧ (∀ c ∈ "a".toList, Text.isBlank c = false) ∧
      ((Predicate.id "a").test ((Element.ofTag "p").setAttr "class" "a b") =
          (attr "id" .equals "a").test ((Element.ofTag "p").setAttr "class" "a b") ∧
        ((attr "class" .includes "a").test ((Element.ofTag "p").setAttr "class" "a b") = true →
          (cls "a").test ((Element.ofTag "p").setAttr "class" "a b") = true) ∧
        ((∀ c ∈ ((((Element.ofTag "p").setAttr "class" "a b").attr? "class").getD "").toList,
            Text.isBlank c = Text.isAsciiBlank c) →
          (cls "a").test ((Element.ofTag "p").setAttr "class" "a b") =
            (attr "class" .includes "a").test ((Element.ofTag "p").setAttr "class" "a b"))) := by
  have he : ((Element.ofTag "p").setAttr "class" "a b").Built := .setAttr _ _ (.ofTag _)
  have hv : ∀ c ∈ "a".toList, Text.isBlank c = false := by
    intro c hc
    simp at hc
    subst hc
    decide
  exact ⟨he, hv, id_and_class_against_attributes he "a" hv⟩

theorem class_test_differs_from_includes :
    ¬∀ e : Element, e.Built → ∀ v : String, v ≠ "" → (∀ c ∈ v.toList, Text.isBlank c = false) →
      (cls v).test e = (attr "class" .includes v).test e := by
  intro h
  have hv : ∀ c ∈ "a".toList, Text.isBlank c = false := by
    intro c hc
    simp at hc
    subst hc
    decide
  have hne := h _ (.setAttr "class" "a\u00a0b" (.ofTag "")) "a" (by decide) hv
  revert hne
  decide

end Predicate

end TreeSelect
