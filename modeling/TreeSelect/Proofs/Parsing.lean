import TreeSelect.Selector.Peg

namespace TreeSelect.Selector

open Text

namespace Cursor

/-- The cursor `c'` stands after the characters `w`, read from `c`. -/
def Reads (c : Cursor) (w : List Char) (c' : Cursor) : Prop :=
  c.rest = w ++ c'.rest ∧ c'.pos = c.pos + byteSize w

/-- The cursor stands in `input`: it holds the input's characters from its byte offset on. -/
def At (input : String) (c : Cursor) : Prop :=
  ∃ pre, input.toList = pre ++ c.rest ∧ c.pos = byteSize pre

variable {input : String} {c c₁ c₂ : Cursor} {w w₁ w₂ : List Char}

theorem Reads.nil (c : Cursor) : c.Reads [] c := ⟨rfl, by simp⟩

theorem Reads.trans (h₁ : c.Reads w₁ c₁) (h₂ : c₁.Reads w₂ c₂) : c.Reads (w₁ ++ w₂) c₂ := by
  obtain ⟨hr₁, hp₁⟩ := h₁
  obtain ⟨hr₂, hp₂⟩ := h₂
  exact ⟨by rw [hr₁, hr₂, List.append_assoc], by rw [hp₂, hp₁, byteSize_append, Nat.add_assoc]⟩

theorem Reads.pos_eq (h : c.Reads w c₁) : c₁.pos - c.pos = byteSize w := by
  rw [h.2]
  omega

theorem Reads.pos_le (h : c.Reads w c₁) : c.pos ≤ c₁.pos := by
  rw [h.2]
  omega

theorem At.reads (hc : c.At input) (h : c.Reads w c₁) : c₁.At input := by
  obtain ⟨pre, hpre, hpos⟩ := hc
  exact ⟨pre ++ w, by rw [hpre, h.1, List.append_assoc], by rw [h.2, hpos, byteSize_append]⟩

theorem At.split (hc : c.At input) (h : c.Reads w c₁) :
    ∃ pre, input.toList = pre ++ w ++ c₁.rest ∧ c.pos = byteSize pre := by
  obtain ⟨pre, hpre, hpos⟩ := hc
  exact ⟨pre, by rw [hpre, h.1, List.append_assoc], hpos⟩

end Cursor

namespace Peg

/-- The expression succeeds from `c`, under some reach, with the nodes `ns`, and stops at `c'`. -/
def Yields (a : Peg) (c : Cursor) (ns : List SyntaxNode) (c' : Cursor) : Prop :=
  ∃ r, (a c r).result = some (ns, c')

variable {a b : Peg} {c c' : Cursor} {ns : List SyntaxNode}

theorem yields_empty (h : empty.Yields c ns c') : ns = [] ∧ c' = c := by
  obtain ⟨r, hr⟩ := h
  simp only [empty, Option.some.injEq, Prod.mk.injEq] at hr
  exact ⟨hr.1.symm, hr.2.symm⟩

theorem not_yields_fail : ¬ fail.Yields c ns c' := by
  rintro ⟨r, hr⟩
  simp [fail] at hr

theorem yields_sat {p : Char → Bool} (h : (sat p).Yields c ns c') :
    ns = [] ∧ ∃ x, p x = true ∧ c.Reads [x] c' := by
  obtain ⟨r, hr⟩ := h
  unfold sat at hr
  split at hr
  · rename_i x xs hrest
    split at hr
    · simp only [Option.some.injEq, Prod.mk.injEq] at hr
      obtain ⟨rfl, rfl⟩ := hr
      exact ⟨rfl, x, ‹_›, by simp [hrest], by simp⟩
    · simp at hr
  · simp at hr

theorem yields_lit (xs : List Char) (h : (lit xs).Yields c ns c') : ns = [] ∧ c.Reads xs c' := by
  induction xs generalizing c with
  | nil =>
    obtain ⟨rfl, rfl⟩ := yields_empty h
    exact ⟨rfl, .nil _⟩
  | cons x xs ih =>
    obtain ⟨r, hr⟩ := h
    simp only [lit] at hr
    split at hr
    · rename_i r₁ ns₁ c₁ hx
      obtain ⟨-, y, hy, hread⟩ := yields_sat ⟨r, by rw [hx]⟩
      obtain ⟨rfl, hrest⟩ := ih ⟨r₁, hr⟩
      obtain rfl : y = x := by simpa using hy
      exact ⟨rfl, hread.trans hrest⟩
    · rename_i o hno
      cases ho : (sat (· == x) c r) with
      | mk r₁ res =>
        rw [ho] at hr
        cases res with
        | none => simp at hr
        | some res => exact absurd ho (hno r₁ res.1 res.2)

theorem yields_seq (h : (seq a b).Yields c ns c') :
    ∃ ns₁ c₁ ns₂, a.Yields c ns₁ c₁ ∧ b.Yields c₁ ns₂ c' ∧ ns = ns₁ ++ ns₂ := by
  obtain ⟨r, hr⟩ := h
  simp only [seq] at hr
  split at hr
  · rename_i r₁ ns₁ c₁ ha
    split at hr
    · rename_i r₂ ns₂ c₂ hb
      simp only [Option.some.injEq, Prod.mk.injEq] at hr
      obtain ⟨rfl, rfl⟩ := hr
      exact ⟨ns₁, c₁, ns₂, ⟨r, by rw [ha]⟩, ⟨r₁, by rw [hb]⟩, rfl⟩
    · simp at hr
  · simp at hr

theorem yields_alt (h : (alt a b).Yields c ns c') : a.Yields c ns c' ∨ b.Yields c ns c' := by
  obtain ⟨r, hr⟩ := h
  simp only [alt] at hr
  split at hr
  · rename_i r₁ x ha
    exact .inl ⟨r, by rw [ha]; exact hr⟩
  · rename_i r₁ _
    exact .inr ⟨r₁, hr⟩

theorem yields_notAhead (h : (notAhead a).Yields c ns c') : ns = [] ∧ c' = c := by
  obtain ⟨r, hr⟩ := h
  simp only [notAhead] at hr
  split at hr
  · simp at hr
  · simp only [Option.some.injEq, Prod.mk.injEq] at hr
    exact ⟨hr.1.symm, hr.2.symm⟩

theorem yields_rule {name : Rule} (h : (rule name a).Yields c ns c') :
    ∃ ms, a.Yields c ms c' ∧ ns = [⟨name, c.pos, c'.pos - c.pos, ms⟩] := by
  obtain ⟨r, hr⟩ := h
  simp only [rule] at hr
  split at hr
  · rename_i r₁ ms c₁ ha
    simp only [Option.some.injEq, Prod.mk.injEq] at hr
    obtain ⟨rfl, rfl⟩ := hr
    exact ⟨ms, ⟨r, by rw [ha]⟩, rfl⟩
  · simp at hr

theorem Yields.many_induction (P : Cursor → List SyntaxNode → Cursor → Prop)
    (nil : ∀ c, P c [] c)
    (cons : ∀ c ns c₁ ms c', a.Yields c ns c₁ → P c₁ ms c' → P c (ns ++ ms) c')
    (h : Yields (many a) c ns c') : P c ns c' := by
  obtain ⟨r, hr⟩ := h
  induction c, r using many.induct a generalizing ns c' with
  | case1 c r r₁ ms₁ c₁ ha hlt r₂ ms₂ c₂ hm ih =>
    rw [many, ha] at hr
    simp only [hlt, dite_true, hm, Option.some.injEq, Prod.mk.injEq] at hr
    obtain ⟨rfl, rfl⟩ := hr
    exact cons c ms₁ c₁ ms₂ c₂ ⟨r, by rw [ha]⟩ (ih (by rw [hm]))
  | case2 c r r₁ ms₁ c₁ ha hlt r₂ hm =>
    rw [many, ha] at hr
    simp [hlt, hm] at hr
  | case3 c r r₁ ms₁ c₁ ha hlt =>
    rw [many, ha] at hr
    simp only [hlt, dite_false, Option.some.injEq, Prod.mk.injEq] at hr
    obtain ⟨rfl, rfl⟩ := hr
    simpa using cons c ms₁ c₁ [] c₁ ⟨r, by rw [ha]⟩ (nil c₁)
  | case4 c r r₁ ha =>
    rw [many, ha] at hr
    simp only [Option.some.injEq, Prod.mk.injEq] at hr
    obtain ⟨rfl, rfl⟩ := hr
    exact nil c

/-- The expression builds no node, and reads the characters between its cursors. -/
def Skips (a : Peg) : Prop := ∀ c ns c', a.Yields c ns c' → ns = [] ∧ ∃ w, c.Reads w c'

theorem Skips.empty : Skips empty := fun _ _ _ h => by
  obtain ⟨rfl, rfl⟩ := yields_empty h
  exact ⟨rfl, [], .nil _⟩

theorem Skips.sat (p : Char → Bool) : Skips (sat p) := fun _ _ _ h => by
  obtain ⟨rfl, x, -, hx⟩ := yields_sat h
  exact ⟨rfl, [x], hx⟩

theorem Skips.lit (xs : List Char) : Skips (lit xs) := fun _ _ _ h => by
  obtain ⟨rfl, hx⟩ := yields_lit xs h
  exact ⟨rfl, xs, hx⟩

theorem Skips.notAhead (a : Peg) : Skips (notAhead a) := fun _ _ _ h => by
  obtain ⟨rfl, rfl⟩ := yields_notAhead h
  exact ⟨rfl, [], .nil _⟩

theorem Skips.seq (ha : Skips a) (hb : Skips b) : Skips (seq a b) := fun _ _ _ h => by
  obtain ⟨ns₁, c₁, ns₂, h₁, h₂, rfl⟩ := yields_seq h
  obtain ⟨rfl, w₁, hw₁⟩ := ha _ _ _ h₁
  obtain ⟨rfl, w₂, hw₂⟩ := hb _ _ _ h₂
  exact ⟨rfl, w₁ ++ w₂, hw₁.trans hw₂⟩

theorem Skips.alt (ha : Skips a) (hb : Skips b) : Skips (alt a b) := fun _ _ _ h =>
  (yields_alt h).elim (ha _ _ _) (hb _ _ _)

theorem Skips.opt (ha : Skips a) : Skips (opt a) := ha.alt .empty

theorem Skips.many (ha : Skips a) : Skips (many a) := fun _ _ _ h => by
  refine Yields.many_induction (fun c ns c' => ns = [] ∧ ∃ w, c.Reads w c') ?_ ?_ h
  · intro c
    exact ⟨rfl, [], .nil c⟩
  · rintro c ns c₁ ms c' h₁ ⟨rfl, w₂, hw₂⟩
    obtain ⟨rfl, w₁, hw₁⟩ := ha _ _ _ h₁
    exact ⟨rfl, w₁ ++ w₂, hw₁.trans hw₂⟩

theorem Skips.many1 (ha : Skips a) : Skips (many1 a) := ha.seq ha.many

theorem yields_seq_of_skips (ha : Skips a) (h : (seq a b).Yields c ns c') :
    ∃ w c₁, c.Reads w c₁ ∧ b.Yields c₁ ns c' := by
  obtain ⟨ns₁, c₁, ns₂, h₁, h₂, rfl⟩ := yields_seq h
  obtain ⟨rfl, w, hw⟩ := ha _ _ _ h₁
  exact ⟨w, c₁, hw, h₂⟩

end Peg

end TreeSelect.Selector
