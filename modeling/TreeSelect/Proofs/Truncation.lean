import TreeSelect.Proofs.Closure

namespace TreeSelect.Selector

open Text

namespace Peg

/-- What follows a success as one run sees it (`z`) and as the other does (`z'`): the other run
is at the end of its text, or both begin with the same characters `u`, which `Z` accepts. -/
def Follows (Z : List Char → Prop) (z z' : List Char) : Prop :=
  z' = [] ∨ ∃ u x x', Z u ∧ z = u ++ x ∧ z' = u ++ x'

/-- The expression reads forward, and a success that reads `w` and stops before `z` is a success
with the same nodes from `w ++ z'`, when `z` and `z'` are related by `Follows Z`. -/
def Keeps (Z : List Char → Prop) (a : Peg) : Prop :=
  ReadsText a ∧ ∀ w z z' pos r r' ns, Follows Z z z' →
    (a ⟨w ++ z, pos⟩ r).result = some (ns, ⟨z, pos + byteSize w⟩) →
    (a ⟨w ++ z', pos⟩ r').result = some (ns, ⟨z', pos + byteSize w⟩)

/-- A failure from `z` is a failure from `z'`, when `z` and `z'` are related by `Follows Z`. -/
def Refutes (Z : List Char → Prop) (a : Peg) : Prop :=
  ∀ z z' pos r r', Follows Z z z' → (a ⟨z, pos⟩ r).result = none → (a ⟨z', pos⟩ r').result = none

/-- The condition stays true when more characters follow. -/
def Extends (Z : List Char → Prop) : Prop := ∀ u v, Z u → Z (u ++ v)

/-- Whatever the expression reads, when it reads something, is accepted by `Z`. -/
def Leads (Z : List Char → Prop) (b : Peg) : Prop :=
  ∀ c w ms c', b.Yields c ms c' → c.rest = w ++ c'.rest → w ≠ [] → Z w

/-- The expression fails from every text that starts with a character in `S`. -/
def FailsOn (a : Peg) (S : Char → Prop) : Prop :=
  ∀ x t pos r, S x → (a ⟨x :: t, pos⟩ r).result = none

/-- The expression fails at the end of the text. -/
def FailsAtEnd (a : Peg) : Prop := ∀ pos r, (a ⟨[], pos⟩ r).result = none

/-- Every success reads at least one character, the first of them in `S`. -/
def StartsIn (b : Peg) (S : Char → Prop) : Prop :=
  ∀ c ms c', b.Yields c ms c' → ∃ x t, c.rest = x :: t ++ c'.rest ∧ S x

/-- What `b` reads, followed by a pair related by `Follows Z`, is a pair related by
`Follows Za`: the condition that a part before `b` needs of what follows it. -/
def Passes (Z Za : List Char → Prop) (b : Peg) : Prop :=
  ∀ w z z' pos r ms, Follows Z z z' →
    (b ⟨w ++ z, pos⟩ r).result = some (ms, ⟨z, pos + byteSize w⟩) → Follows Za (w ++ z) (w ++ z')

variable {Z Z' Za : List Char → Prop} {a b : Peg} {z z' w : List Char}

theorem Follows.mono (h : ∀ u, Z u → Z' u) (hf : Follows Z z z') : Follows Z' z z' := by
  rcases hf with rfl | ⟨u, x, x', hu, rfl, rfl⟩
  · exact .inl rfl
  · exact .inr ⟨u, x, x', h u hu, rfl, rfl⟩

theorem Follows.append (hext : Extends Za) (hnil : ∀ u, Z u → Za u) (hf : Follows Z z z')
    (hw : w ≠ [] → Za w) : Follows Za (w ++ z) (w ++ z') := by
  by_cases hne : w = []
  · subst hne
    exact hf.mono hnil
  · rcases hf with rfl | ⟨u, x, x', hu, rfl, rfl⟩
    · exact .inr ⟨w, z, [], hw hne, rfl, rfl⟩
    · exact .inr ⟨w ++ u, x, x', hext _ _ (hw hne), by simp, by simp⟩

theorem success_split (h : ReadsText a) {c c₁ : Cursor} {r : Nat} {ns : List SyntaxNode}
    (ha : (a c r).result = some (ns, c₁)) :
    ∃ w, c.rest = w ++ c₁.rest ∧ c₁ = ⟨c₁.rest, c.pos + byteSize w⟩ := by
  obtain ⟨w, hw, hpos⟩ := h c ns c₁ ⟨r, ha⟩
  exact ⟨w, hw, by rw [← hpos]⟩

theorem success_split_two (ha : ReadsText a) (hb : ReadsText b) {pos r r₁ : Nat} {c₁ : Cursor}
    {ns₁ ns₂ : List SyntaxNode} (h₁ : (a ⟨w ++ z, pos⟩ r).result = some (ns₁, c₁))
    (h₂ : (b c₁ r₁).result = some (ns₂, ⟨z, pos + byteSize w⟩)) :
    ∃ w₁ w₂, w = w₁ ++ w₂ ∧ c₁ = ⟨w₂ ++ z, pos + byteSize w₁⟩ := by
  obtain ⟨w₂, hw₂, -⟩ := success_split hb h₂
  obtain ⟨w₁, hw₁, hc₁⟩ := success_split ha h₁
  obtain ⟨rest₁, pos₁⟩ := c₁
  simp only [Cursor.mk.injEq, true_and] at hw₁ hc₁ hw₂
  subst hw₂ hc₁
  rw [← List.append_assoc] at hw₁
  exact ⟨w₁, w₂, List.append_cancel_right hw₁, rfl⟩

theorem outcome_eq {o : Outcome} {x : Option (List SyntaxNode × Cursor)} (h : o.result = x) :
    o = ⟨o.reach, x⟩ := by
  cases o
  simp_all

theorem fails_of_startsIn {S : Char → Prop} (ha : FailsOn a S) (hb : StartsIn b S) {pos r r' : Nat}
    {ms : List SyntaxNode} (h : (b ⟨w ++ z, pos⟩ r).result = some (ms, ⟨z, pos + byteSize w⟩)) :
    (a ⟨w ++ z', pos⟩ r').result = none := by
  obtain ⟨x, t, hw, hx⟩ := hb _ ms _ ⟨r, h⟩
  obtain rfl := List.append_cancel_right hw
  exact ha x (t ++ z') pos r' hx

theorem Leads.of_startsIn {S : Char → Prop} (hb : StartsIn b S) (hS : ∀ x t, S x → Z (x :: t)) :
    Leads Z b := fun c w ms c' h hw _ => by
  obtain ⟨x, t, hxt, hx⟩ := hb c ms c' h
  rw [hw] at hxt
  rw [List.append_cancel_right hxt]
  exact hS x t hx

theorem Leads.many (hext : Extends Za) (hlead : Leads Za a) (ha : ReadsText a) :
    Leads Za (many a) := by
  intro c w ms c' h hw hne
  refine (Yields.many_induction (fun c _ c' => (∃ v, c.rest = v ++ c'.rest) ∧
    ∀ w, c.rest = w ++ c'.rest → w ≠ [] → Za w) (fun c => ⟨⟨[], rfl⟩, fun w hw hne => ?_⟩) ?_ h).2
    w hw hne
  · exact absurd (List.append_left_eq_self.mp hw.symm) hne
  · rintro c ns c₁ ms c' h₁ ⟨⟨v, hv⟩, ih⟩
    obtain ⟨w₁, hw₁, -⟩ := ha c ns c₁ h₁
    refine ⟨⟨w₁ ++ v, by rw [hw₁, hv, List.append_assoc]⟩, fun w hw hne => ?_⟩
    rw [hw₁, hv, ← List.append_assoc] at hw
    obtain rfl := List.append_cancel_right hw
    by_cases hne₁ : w₁ = []
    · subst hne₁
      exact ih v hv (by simpa using hne)
    · exact hext _ _ (hlead c w₁ ns c₁ h₁ hw₁ hne₁)

theorem Passes.of_leads (hext : Extends Za) (hlead : Leads Za b) (hnil : ∀ u, Z u → Za u) :
    Passes Z Za b := fun w z _ pos r ms hf h =>
  hf.append hext hnil fun hne => hlead ⟨w ++ z, pos⟩ w ms _ ⟨r, h⟩ rfl hne

theorem Passes.of_startsIn {S : Char → Prop} (hext : Extends Za) (hlead : Leads Za b)
    (hb : StartsIn b S) : Passes Z Za b := by
  intro w z z' pos r ms hf h
  obtain ⟨x, t, hw, -⟩ := hb ⟨w ++ z, pos⟩ ms _ ⟨r, h⟩
  have hza : Za w := hlead ⟨w ++ z, pos⟩ w ms _ ⟨r, h⟩ rfl (by
    rintro rfl
    have hlen := congrArg List.length hw
    simp only [List.nil_append, List.length_cons, List.length_append] at hlen
    omega)
  rcases hf with rfl | ⟨u, x, x', -, rfl, rfl⟩
  · exact .inr ⟨w, z, [], hza, rfl, rfl⟩
  · exact .inr ⟨w ++ u, x, x', hext _ _ hza, by simp, by simp⟩

theorem Keeps.mono (h : ∀ u, Z' u → Z u) (ha : Keeps Z a) : Keeps Z' a :=
  ⟨ha.1, fun w z z' pos r r' ns hf => ha.2 w z z' pos r r' ns (hf.mono h)⟩

theorem keeps_empty : Keeps Z empty := by
  refine ⟨closed_readsText.empty, fun w z z' pos r r' ns _ h => ?_⟩
  obtain ⟨rfl, hc⟩ := yields_empty ⟨r, h⟩
  obtain ⟨hz, -⟩ := Cursor.mk.inj hc
  obtain rfl : w = [] := by simpa using hz
  rfl

theorem keeps_fail : Keeps Z fail :=
  ⟨closed_readsText.fail, fun _ _ _ _ _ _ _ _ h => absurd ⟨_, h⟩ not_yields_fail⟩

theorem keeps_sat (p : Char → Bool) : Keeps Z (sat p) := by
  refine ⟨closed_readsText.sat p, fun w z z' pos r r' ns _ h => ?_⟩
  obtain ⟨rfl, x, hx, hread⟩ := yields_sat ⟨r, h⟩
  obtain rfl : w = [x] := List.append_cancel_right (hread.1.trans (List.singleton_append).symm)
  simp [sat, hx]

theorem keeps_lit (xs : List Char) : Keeps Z (lit xs) := by
  refine ⟨closed_readsText.lit xs, fun w z z' pos r r' ns _ h => ?_⟩
  obtain ⟨rfl, hread⟩ := yields_lit xs ⟨r, h⟩
  obtain rfl : w = xs := List.append_cancel_right hread.1
  clear h hread
  induction w generalizing pos r' with
  | nil => rfl
  | cons x xs ih =>
    simp only [lit, List.cons_append]
    rw [show sat (· == x) ⟨x :: (xs ++ z'), pos⟩ r' = ⟨r', some ([], ⟨xs ++ z', pos + x.utf8Size⟩)⟩ by
      simp [sat]]
    simpa [Nat.add_assoc] using ih (pos + x.utf8Size) r'

theorem Keeps.rule (name : Rule) (ha : Keeps Z a) : Keeps Z (rule name a) := by
  refine ⟨closed_readsText.rule name ha.1, fun w z z' pos r r' ns hf h => ?_⟩
  simp only [Peg.rule] at h ⊢
  split at h
  · rename_i r₁ ms c₁ h₁
    simp only [Option.some.injEq, Prod.mk.injEq] at h
    obtain ⟨rfl, rfl⟩ := h
    rw [outcome_eq (ha.2 w z z' pos r r' ms hf (by rw [h₁]))]
  · simp at h

theorem Keeps.seq (ha : Keeps Za a) (hb : Keeps Z b) (hpass : Passes Z Za b) :
    Keeps Z (seq a b) := by
  refine ⟨closed_readsText.seq ha.1 hb.1, fun w z z' pos r r' ns hf h => ?_⟩
  simp only [Peg.seq] at h ⊢
  split at h
  · rename_i r₁ ns₁ c₁ h₁
    split at h
    · rename_i r₂ ns₂ c₂ h₂
      simp only [Option.some.injEq, Prod.mk.injEq] at h
      obtain ⟨rfl, rfl⟩ := h
      obtain ⟨w₁, w₂, rfl, rfl⟩ := success_split_two ha.1 hb.1 (by rw [h₁]) (by rw [h₂])
      have hpos : pos + byteSize (w₁ ++ w₂) = pos + byteSize w₁ + byteSize w₂ := by
        rw [byteSize_append, Nat.add_assoc]
      have hfa : Follows Za (w₂ ++ z) (w₂ ++ z') :=
        hpass w₂ z z' _ r₁ ns₂ hf (by rw [h₂, hpos])
      have ha' := ha.2 w₁ (w₂ ++ z) (w₂ ++ z') pos r r' ns₁ hfa
        (by rw [List.append_assoc] at h₁; rw [h₁])
      rw [List.append_assoc, outcome_eq ha']
      have hb' := hb.2 w₂ z z' (pos + byteSize w₁) r₁ (a ⟨w₁ ++ (w₂ ++ z'), pos⟩ r').reach ns₂ hf
        (by rw [h₂, hpos])
      simp only
      rw [outcome_eq hb', hpos]
    · simp at h
  · simp at h

theorem Keeps.alt (ha : Keeps Z a) (hb : Keeps Z b)
    (hfail : ∀ w z z' pos r r₀ r' ms, Follows Z z z' →
      (b ⟨w ++ z, pos⟩ r).result = some (ms, ⟨z, pos + byteSize w⟩) →
      (a ⟨w ++ z, pos⟩ r₀).result = none → (a ⟨w ++ z', pos⟩ r').result = none) :
    Keeps Z (alt a b) := by
  refine ⟨closed_readsText.alt ha.1 hb.1, fun w z z' pos r r' ns hf h => ?_⟩
  simp only [Peg.alt] at h ⊢
  split at h
  · rename_i r₁ x h₁
    simp only [Option.some.injEq] at h
    subst h
    rw [outcome_eq (ha.2 w z z' pos r r' ns hf (by rw [h₁]))]
  · rename_i r₁ h₁
    have hnone := hfail w z z' pos r₁ r r' ns hf h (by rw [h₁])
    rw [outcome_eq hnone]
    exact hb.2 w z z' pos r₁ _ ns hf h

theorem Keeps.opt (ha : Keeps Z a) (hr : Refutes Z a) : Keeps Z (opt a) :=
  ha.alt keeps_empty fun w z z' pos r r₀ r' ms hf h hnone => by
    obtain ⟨rfl, hc⟩ := yields_empty ⟨r, h⟩
    obtain ⟨hz, -⟩ := Cursor.mk.inj hc
    obtain rfl : w = [] := by simpa using hz
    exact hr z z' pos r₀ r' hf hnone

theorem readsText_notAhead (a : Peg) : ReadsText (notAhead a) := fun _ _ _ h => by
  obtain ⟨-, rfl⟩ := yields_notAhead h
  exact ⟨[], .nil _⟩

theorem Keeps.notAhead (hr : Refutes Z a) : Keeps Z (notAhead a) := by
  refine ⟨readsText_notAhead a, fun w z z' pos r r' ns hf h => ?_⟩
  obtain ⟨rfl, hc⟩ := yields_notAhead ⟨r, h⟩
  obtain ⟨hz, -⟩ := Cursor.mk.inj hc
  obtain rfl : w = [] := by simpa using hz
  simp only [List.nil_append, byteSize_nil, Nat.add_zero, Peg.notAhead] at h ⊢
  split at h
  · simp at h
  · rename_i r₁ h₁
    rw [outcome_eq (hr z z' pos r r' hf (by rw [h₁]))]

theorem Keeps.many (ha : Keeps Za a) (hext : Extends Za) (hlead : Leads Za a)
    (hnil : ∀ u, Z u → Za u) (hstop : Refutes Z a) : Keeps Z (many a) := by
  refine ⟨closed_readsText.many ha.1, fun w z z' pos r r' ns hf h => ?_⟩
  induction hlen : (w ++ z).length using Nat.strongRecOn generalizing w pos r r' ns with
  | _ k ih =>
    rw [Peg.many] at h
    rw [Peg.many]
    split at h
    · rename_i r₁ ns₁ c₁ h₁
      split at h
      · rename_i hlt
        split at h
        · rename_i r₂ ns₂ c₂ h₂
          simp only [Option.some.injEq, Prod.mk.injEq] at h
          obtain ⟨rfl, rfl⟩ := h
          obtain ⟨w₁, w₂, rfl, rfl⟩ :=
            success_split_two ha.1 (closed_readsText.many ha.1) (by rw [h₁]) (by rw [h₂])
          have hne : w₁ ≠ [] := by
            rintro rfl
            simp at hlt
          have hpos : pos + byteSize (w₁ ++ w₂) = pos + byteSize w₁ + byteSize w₂ := by
            rw [byteSize_append, Nat.add_assoc]
          have hfa : Follows Za (w₂ ++ z) (w₂ ++ z') :=
            Passes.of_leads hext (Leads.many hext hlead ha.1) hnil w₂ z z' _ r₁ ns₂ hf
              (by rw [h₂, hpos])
          have ha' := ha.2 w₁ (w₂ ++ z) (w₂ ++ z') pos r r' ns₁ hfa
            (by rw [List.append_assoc] at h₁; rw [h₁])
          rw [List.append_assoc, outcome_eq ha']
          have hlt' : (w₂ ++ z).length < k := by
            rw [← hlen]
            simpa using hlt
          have hm := ih _ hlt' w₂ (pos + byteSize w₁) r₁ (a ⟨w₁ ++ (w₂ ++ z'), pos⟩ r').reach ns₂
            (by rw [h₂, hpos]) rfl
          have hlt₂ : (w₂ ++ z').length < (w₁ ++ (w₂ ++ z')).length := by
            have := List.length_pos_iff.mpr hne
            simp only [List.length_append]
            omega
          simp only [hlt₂, dite_true]
          rw [outcome_eq hm, hpos]
        · simp at h
      · rename_i hnlt
        simp only [Option.some.injEq, Prod.mk.injEq] at h
        obtain ⟨rfl, rfl⟩ := h
        obtain rfl : w = [] := by simpa using hnlt
        rw [outcome_eq (ha.2 [] z z' pos r r' ns₁ (hf.mono hnil) (by rw [h₁]))]
        simp
    · rename_i r₁ h₁
      simp only [Option.some.injEq, Prod.mk.injEq] at h
      obtain ⟨rfl, hc⟩ := h
      obtain ⟨hz, -⟩ := Cursor.mk.inj hc
      obtain rfl : w = [] := by simpa using hz
      simp only [List.nil_append] at h₁ ⊢
      rw [outcome_eq (hstop z z' pos r r' hf (by rw [h₁]))]
      simp

theorem Keeps.many1 (ha : Keeps Za a) (hext : Extends Za) (hlead : Leads Za a)
    (hnil : ∀ u, Z u → Za u) (hstop : Refutes Z a) : Keeps Z (many1 a) :=
  ha.seq (ha.many hext hlead hnil hstop) (.of_leads hext (Leads.many hext hlead ha.1) hnil)

theorem seq_result_eq_none {c : Cursor} {r : Nat} (h : (a c r).result = none) :
    (Peg.seq a b c r).result = none := by
  simp only [Peg.seq]
  rw [outcome_eq h]

theorem seq_eq_of_skip {c c' : Cursor} {r : Nat} (h : a c r = ⟨r, some ([], c')⟩) :
    Peg.seq a b c r = b c' r := by
  simp only [Peg.seq, h, List.nil_append]
  generalize b c' r = o
  rcases o with ⟨r₂, _ | ⟨ms, c₂⟩⟩ <;> rfl

theorem FailsOn.seq_left {S : Char → Prop} (ha : FailsOn a S) : FailsOn (seq a b) S :=
  fun x t pos r hx => seq_result_eq_none (ha x t pos r hx)

theorem notAhead_result_eq_none {c : Cursor} {r : Nat} (h : (a c r).result ≠ none) :
    (notAhead a c r).result = none := by
  simp only [Peg.notAhead]
  split
  · rfl
  · rename_i r₁ h₁
    exact absurd (by rw [h₁]) h

theorem Refutes.mono (h : ∀ u, Z' u → Z u) (ha : Refutes Z a) : Refutes Z' a :=
  fun z z' pos r r' hf => ha z z' pos r r' (hf.mono h)

theorem refutes_of_fails (hend : FailsAtEnd a)
    (hwin : ∀ u x pos r, Z u → (a ⟨u ++ x, pos⟩ r).result = none) : Refutes Z a := by
  rintro z z' pos r r' (rfl | ⟨u, x, x', hu, rfl, rfl⟩) -
  · exact hend pos r'
  · exact hwin u x' pos r' hu

theorem refutes_sat (p : Char → Bool) : Refutes (· ≠ []) (sat p) := by
  rintro z z' pos r r' (rfl | ⟨u, x, x', hu, rfl, rfl⟩) h
  · simp [sat]
  · obtain ⟨y, t, rfl⟩ := List.exists_cons_of_ne_nil hu
    simp only [sat, List.cons_append] at h ⊢
    cases hp : p y <;> simp_all

theorem lit_result_eq_none_iff (xs : List Char) (y : List Char) (pos r : Nat) :
    (lit xs ⟨y, pos⟩ r).result = none ↔ ¬ xs <+: y := by
  induction xs generalizing y pos r with
  | nil => simp [lit, empty]
  | cons x xs ih =>
    cases y with
    | nil => simp [lit, sat]
    | cons y t =>
      by_cases hxy : y = x
      · subst hxy
        simp only [lit, sat, beq_self_eq_true, if_true, List.cons_prefix_cons, true_and]
        exact ih t _ r
      · have hne : (y == x) = false := by simpa using hxy
        simp [lit, sat, hne, Ne.symm hxy]

theorem alts_lit_result_eq_none_iff (y : List Char) (pos : Nat) :
    ∀ (ss : List (List Char)) (r : Nat),
      (alts (ss.map lit) ⟨y, pos⟩ r).result = none ↔ ∀ s ∈ ss, ¬ s <+: y
  | [], _ => by simp [alts, Peg.fail]
  | [s], r => by simpa [alts] using lit_result_eq_none_iff s y pos r
  | s :: s' :: ss, r => by
    show (Peg.alt (lit s) (alts ((s' :: ss).map lit)) ⟨y, pos⟩ r).result = none ↔ _
    rw [List.forall_mem_cons]
    simp only [Peg.alt]
    split
    · rename_i r₁ x h₁
      have hs : s <+: y := Classical.not_not.mp fun hs => by
        have hnone := (lit_result_eq_none_iff s y pos r).mpr hs
        rw [h₁] at hnone
        simp at hnone
      simp [hs]
    · rename_i r₁ h₁
      have hs : ¬ s <+: y := (lit_result_eq_none_iff s y pos r).mp (by rw [h₁])
      rw [alts_lit_result_eq_none_iff y pos (s' :: ss) r₁]
      simp [hs]

theorem refutes_lit (xs : List Char) : Refutes (fun u => xs.length ≤ u.length) (lit xs) := by
  rintro z z' pos r r' (rfl | ⟨u, x, x', hu, rfl, rfl⟩) h
  · rw [lit_result_eq_none_iff] at h ⊢
    intro hxs
    obtain rfl := List.prefix_nil.mp hxs
    exact h (List.nil_prefix)
  · rw [lit_result_eq_none_iff] at h ⊢
    intro hxs
    exact h ((List.prefix_of_prefix_length_le hxs (List.prefix_append u x') hu).trans
      (List.prefix_append u x))

theorem many_result_ne_none (a : Peg) (c : Cursor) (r : Nat) : (many a c r).result ≠ none := by
  induction c, r using many.induct a with
  | case1 c r r₁ ms₁ c₁ ha hlt r₂ ms₂ c₂ hm ih =>
    rw [many, ha]
    simp [hlt, hm]
  | case2 c r r₁ ms₁ c₁ ha hlt r₂ hm ih => exact absurd (by rw [hm]) ih
  | case3 c r r₁ ms₁ c₁ ha hlt =>
    rw [many, ha]
    simp [hlt]
  | case4 c r r₁ ha =>
    rw [many, ha]
    simp

theorem Refutes.seq_many (ha : Refutes Z a) : Refutes Z (seq a (many b)) := by
  intro z z' pos r r' hf h
  simp only [Peg.seq] at h ⊢
  split at h
  · rename_i r₁ ns₁ c₁ h₁
    split at h
    · simp at h
    · rename_i r₂ h₂
      exact absurd (by rw [h₂]) (many_result_ne_none b c₁ r₁)
  · rename_i r₁ h₁
    rw [outcome_eq (ha z z' pos r r' hf (by rw [h₁]))]

theorem StartsIn.mono {S S' : Char → Prop} (hb : StartsIn b S) (h : ∀ x, S x → S' x) :
    StartsIn b S' := fun c ms c' hy => by
  obtain ⟨x, t, hxt, hx⟩ := hb c ms c' hy
  exact ⟨x, t, hxt, h x hx⟩

theorem startsIn_sat (p : Char → Bool) : StartsIn (sat p) (fun x => p x = true) := by
  intro c ms c' hy
  obtain ⟨-, x, hx, hread⟩ := yields_sat hy
  exact ⟨x, [], hread.1, hx⟩

theorem startsIn_lit (x : Char) (xs : List Char) : StartsIn (lit (x :: xs)) (· = x) := by
  intro c ms c' hy
  obtain ⟨-, hread⟩ := yields_lit _ hy
  exact ⟨x, xs, hread.1, rfl⟩

theorem StartsIn.seq_left {S : Char → Prop} (ha : StartsIn a S) (hb : ReadsText b) :
    StartsIn (seq a b) S := by
  intro c ms c' hy
  obtain ⟨ns₁, c₁, ns₂, h₁, h₂, -⟩ := yields_seq hy
  obtain ⟨x, t, hxt, hx⟩ := ha c ns₁ c₁ h₁
  obtain ⟨w, hw, -⟩ := hb c₁ ns₂ c' h₂
  exact ⟨x, t ++ w, by rw [hxt, hw]; simp, hx⟩

theorem StartsIn.alt {S : Char → Prop} (ha : StartsIn a S) (hb : StartsIn b S) :
    StartsIn (alt a b) S := fun c ms c' hy =>
  (yields_alt hy).elim (ha c ms c') (hb c ms c')

theorem StartsIn.rule {S : Char → Prop} (name : Rule) (ha : StartsIn a S) :
    StartsIn (rule name a) S := fun c ms c' hy => by
  obtain ⟨ns, hy', -⟩ := yields_rule hy
  exact ha c ns c' hy'

theorem Leads.alt (ha : Leads Z a) (hb : Leads Z b) : Leads Z (alt a b) :=
  fun c w ms c' hy => (yields_alt hy).elim (ha c w ms c') (hb c w ms c')

theorem leads_empty : Leads Z empty := fun c w ms c' hy hw hne => by
  obtain ⟨-, rfl⟩ := yields_empty hy
  exact absurd (List.append_left_eq_self.mp hw.symm) hne

theorem leads_lit {xs : List Char} (hZ : Z xs) : Leads Z (lit xs) := fun c w ms c' hy hw _ => by
  obtain ⟨-, hread⟩ := yields_lit xs hy
  have hxs := hread.1
  rw [hw] at hxs
  rw [List.append_cancel_right hxs]
  exact hZ

theorem Leads.lit_seq {xs : List Char} (hZ : ∀ v, Z (xs ++ v)) (hb : ReadsText b) :
    Leads Z (seq (lit xs) b) := fun c w ms c' hy hw _ => by
  obtain ⟨ns₁, c₁, ns₂, h₁, h₂, -⟩ := yields_seq hy
  obtain ⟨-, hread⟩ := yields_lit xs h₁
  obtain ⟨v, hv, -⟩ := hb c₁ ns₂ c' h₂
  rw [hread.1, hv, ← List.append_assoc] at hw
  rw [← List.append_cancel_right hw]
  exact hZ v

theorem leads_ne_nil : Leads (· ≠ []) b := fun _ _ _ _ _ _ hne => hne

theorem extends_ne_nil : Extends (· ≠ []) := fun u v hu => by simp [hu]

theorem StartsIn.seq_right {S : Char → Prop} (ha : ReadsText a) (hb : StartsIn b S) :
    StartsIn (seq a b) (fun _ => True) := by
  intro c ms c' hy
  obtain ⟨ns₁, c₁, ns₂, h₁, h₂, -⟩ := yields_seq hy
  obtain ⟨w, hw, -⟩ := ha c ns₁ c₁ h₁
  obtain ⟨x, t, hxt, -⟩ := hb c₁ ns₂ c' h₂
  cases w with
  | nil => exact ⟨x, t, by rw [hw, hxt]; rfl, trivial⟩
  | cons y w => exact ⟨y, w ++ x :: t, by rw [hw, hxt]; simp, trivial⟩

theorem StartsIn.failsOn {S : Char → Prop} (h : StartsIn a S) : FailsOn a (fun x => ¬ S x) := by
  intro x t pos r hx
  cases hres : (a ⟨x :: t, pos⟩ r).result with
  | none => rfl
  | some p =>
    obtain ⟨y, u, hy, hS⟩ := h _ p.1 p.2 ⟨r, hres⟩
    simp only [List.cons_append, List.cons.injEq] at hy
    exact absurd (hy.1 ▸ hS) hx

theorem StartsIn.failsAtEnd {S : Char → Prop} (h : StartsIn a S) : FailsAtEnd a := by
  intro pos r
  cases hres : (a ⟨[], pos⟩ r).result with
  | none => rfl
  | some p =>
    obtain ⟨y, u, hy, -⟩ := h _ p.1 p.2 ⟨r, hres⟩
    simp at hy

theorem refutes_of_failsOn {S : Char → Prop} (hend : FailsAtEnd a) (hon : FailsOn a S)
    (hZ : ∀ u, Z u → ∃ x t, u = x :: t ∧ S x) : Refutes Z a :=
  refutes_of_fails hend fun u v pos r hu => by
    obtain ⟨x, t, rfl, hx⟩ := hZ u hu
    exact hon x (t ++ v) pos r hx

theorem failsOn_notAhead {S : Char → Prop}
    (h : ∀ x t pos r, S x → (a ⟨x :: t, pos⟩ r).result ≠ none) : FailsOn (notAhead a) S :=
  fun x t pos r hx => notAhead_result_eq_none (h x t pos r hx)

theorem follows_true (z z' : List Char) : Follows (fun _ => True) z z' :=
  .inr ⟨[], z, z', trivial, rfl, rfl⟩

theorem passes_true : Passes Z (fun _ => True) b := fun _ _ _ _ _ _ _ _ => follows_true _ _

theorem Keeps.lit_seq (xs : List Char) (hb : Keeps Z b) : Keeps Z (Peg.seq (lit xs) b) :=
  (keeps_lit xs).seq hb passes_true

theorem Keeps.alt_of_startsIn {S : Char → Prop} (ha : Keeps Z a) (hb : Keeps Z b)
    (hfa : FailsOn a S) (hsb : StartsIn b S) : Keeps Z (Peg.alt a b) :=
  ha.alt hb fun _ _ _ _ _ _ _ _ _ h _ => fails_of_startsIn hfa hsb h

theorem startsIn_many1_sat (p : Char → Bool) :
    StartsIn (many1 (sat p)) (fun x => p x = true) :=
  (startsIn_sat p).seq_left (closed_readsText.many (closed_readsText.sat p))

theorem keeps_many1_sat (p : Char → Bool) : Keeps (· ≠ []) (many1 (sat p)) :=
  Keeps.many1 (keeps_sat p) extends_ne_nil leads_ne_nil (fun _ h => h) (refutes_sat p)

end Peg

end TreeSelect.Selector
