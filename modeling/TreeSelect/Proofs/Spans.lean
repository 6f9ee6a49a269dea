import TreeSelect.Proofs.Closure
import TreeSelect.Proofs.ParseTree

namespace TreeSelect.Text

theorem byteSize_ofList (cs : List Char) : byteSize cs = (String.ofList cs).utf8ByteSize := by
  induction cs with
  | nil => rfl
  | cons c cs ih =>
    rw [byteSize_cons, ih, ← List.singleton_append, String.ofList_append,
      String.utf8ByteSize_append, ← String.singleton_eq_ofList, String.utf8ByteSize_singleton]

theorem byteSize_toList (s : String) : byteSize s.toList = s.utf8ByteSize := by
  rw [byteSize_ofList, String.ofList_toList]

end TreeSelect.Text

namespace TreeSelect.Selector

open Text Peg

namespace SyntaxNode

/-- The nodes lie between the offsets `lo` and `hi`, in order: each starts at or after the end
of the one before. -/
def InOrder : Nat → List SyntaxNode → Nat → Prop
  | lo, [], hi => lo ≤ hi
  | lo, n :: ns, hi => lo ≤ n.start ∧ InOrder (n.start + n.len) ns hi

/-- The children of a node come in order, each ending before the next one starts, and all of
them lie inside the node's span. -/
def ChildrenInside (n : SyntaxNode) : Prop :=
  n.subs.Pairwise (fun a b => a.start + a.len ≤ b.start) ∧
    ∀ m ∈ n.subs, n.start ≤ m.start ∧ m.start + m.len ≤ n.start + n.len

namespace InOrder

variable {lo mid hi : Nat} {ns ms : List SyntaxNode}

theorem le (h : InOrder lo ns hi) : lo ≤ hi := by
  induction ns generalizing lo with
  | nil => exact h
  | cons n ns ih =>
    have h₁ : lo ≤ n.start := h.1
    have h₂ := ih h.2
    omega

theorem append (h₁ : InOrder lo ns mid) (h₂ : InOrder mid ms hi) : InOrder lo (ns ++ ms) hi := by
  induction ns generalizing lo with
  | nil =>
    simp only [InOrder] at h₁
    cases ms with
    | nil => exact Nat.le_trans h₁ h₂
    | cons m ms => exact ⟨Nat.le_trans h₁ h₂.1, h₂.2⟩
  | cons n ns ih => exact ⟨h₁.1, ih h₁.2⟩

theorem inside (h : InOrder lo ns hi) : ∀ m ∈ ns, lo ≤ m.start ∧ m.start + m.len ≤ hi := by
  induction ns generalizing lo with
  | nil => simp
  | cons n ns ih =>
    intro m hm
    have hle := h.2.le
    have hlo : lo ≤ n.start := h.1
    rcases List.mem_cons.mp hm with rfl | hm
    · exact ⟨hlo, hle⟩
    · have := ih h.2 m hm
      omega

theorem pairwise (h : InOrder lo ns hi) : ns.Pairwise (fun a b => a.start + a.len ≤ b.start) := by
  induction ns generalizing lo with
  | nil => exact .nil
  | cons n ns ih => exact .cons (fun m hm => (h.2.inside m hm).1) (ih h.2)

end InOrder

theorem childrenInside_of_inOrder {n : SyntaxNode} (h : InOrder n.start n.subs (n.start + n.len)) :
    n.ChildrenInside :=
  ⟨h.pairwise, h.inside⟩

end SyntaxNode

open SyntaxNode

/-- The byte offset falls between two characters of the input, or at one of its ends. -/
def OnBoundary (input : String) (p : Nat) : Prop :=
  ∃ pre rest, input.toList = pre ++ rest ∧ p = byteSize pre

section Boundary

variable {input : String} {p q : Nat}

theorem onBoundary_zero : OnBoundary input 0 := ⟨[], input.toList, rfl, rfl⟩

theorem Cursor.At.onBoundary {c : Cursor} (hc : c.At input) : OnBoundary input c.pos :=
  let ⟨pre, hpre, hpos⟩ := hc
  ⟨pre, c.rest, hpre, hpos⟩

theorem OnBoundary.max (hp : OnBoundary input p) (hq : OnBoundary input q) :
    OnBoundary input (max p q) := by
  rcases Nat.le_total p q with hle | hle
  · rwa [Nat.max_eq_right hle]
  · rwa [Nat.max_eq_left hle]

theorem syntaxErrorAt_of_split {pre rest : List Char} (h : input.toList = pre ++ rest) :
    syntaxErrorAt input (byteSize pre) = .unmatched (byteSize pre) (String.ofList rest) := by
  have hle : byteSize pre ≤ input.utf8ByteSize := by
    rw [← byteSize_toList, h, byteSize_append]
    omega
  simp only [syntaxErrorAt, Nat.min_eq_left hle, h, dropBytes_append]

end Boundary

/-- The reach of an outcome falls between characters of the input, and a success stops at a
cursor in the input. -/
def Outcome.Fits (input : String) (o : Outcome) : Prop :=
  OnBoundary input o.reach ∧ ∀ ns c', o.result = some (ns, c') → c'.At input

namespace Outcome

variable {input : String} {r : Nat} {ns : List SyntaxNode} {c : Cursor}

@[simp] theorem fits_none : Fits input ⟨r, none⟩ ↔ OnBoundary input r := by
  simp [Fits]

@[simp] theorem fits_some : Fits input ⟨r, some (ns, c)⟩ ↔ OnBoundary input r ∧ c.At input := by
  simp only [Fits, Option.some.injEq, Prod.mk.injEq, and_imp]
  exact and_congr_right fun _ => ⟨fun h => h ns c rfl rfl, fun h _ _ _ hc => hc ▸ h⟩

end Outcome

namespace Peg

variable {a b : Peg} {c : Cursor} {input : String}

theorem sat_reach (p : Char → Bool) (c : Cursor) (r : Nat) : (sat p c r).reach = r := by
  unfold sat
  split
  · split <;> rfl
  · rfl

theorem lit_reach (xs : List Char) (c : Cursor) (r : Nat) : (lit xs c r).reach = r := by
  induction xs generalizing c r with
  | nil => rfl
  | cons x xs ih =>
    simp only [lit]
    split
    · rename_i r₁ ns c₁ hx
      have hr : r₁ = r := by rw [← sat_reach (· == x) c r, hx]
      exact (ih c₁ r₁).trans hr
    · exact sat_reach _ c r

/-- Every success builds nodes that lie in order between its two cursors, and in the trees of
those nodes the children of every node lie in order inside it. -/
def Ordered (a : Peg) : Prop :=
  ∀ c ns c', a.Yields c ns c' → InOrder c.pos ns c'.pos ∧ ∀ n ∈ ns, n.Every ChildrenInside

/-- From a cursor in the input and a reach between characters, the outcome fits the input. -/
def KeepsBoundary (input : String) (a : Peg) : Prop :=
  ∀ c r, c.At input → OnBoundary input r → (a c r).Fits input

theorem ordered_of_skips (h : Skips a) : Ordered a := fun _ _ _ ha => by
  obtain ⟨rfl, w, hw⟩ := h _ _ _ ha
  exact ⟨hw.pos_le, by simp⟩

theorem closed_ordered : Closed Ordered where
  empty := ordered_of_skips .empty
  fail := fun _ _ _ h => absurd h not_yields_fail
  sat p := ordered_of_skips (.sat p)
  lit xs := ordered_of_skips (.lit xs)
  seq ha hb := fun _ _ _ h => by
    obtain ⟨ns₁, c₁, ns₂, h₁, h₂, rfl⟩ := yields_seq h
    obtain ⟨ho₁, he₁⟩ := ha _ _ _ h₁
    obtain ⟨ho₂, he₂⟩ := hb _ _ _ h₂
    refine ⟨ho₁.append ho₂, fun n hn => ?_⟩
    rcases List.mem_append.mp hn with hn | hn
    · exact he₁ n hn
    · exact he₂ n hn
  alt ha hb := fun _ _ _ h => (yields_alt h).elim (ha _ _ _) (hb _ _ _)
  notAhead _ := ordered_of_skips (.notAhead _)
  many ha := fun _ _ _ h => by
    refine Yields.many_induction (fun c ns c' => InOrder c.pos ns c'.pos ∧
      ∀ n ∈ ns, n.Every ChildrenInside) (fun c => ⟨Nat.le_refl _, by simp⟩) ?_ h
    rintro c ns c₁ ms c' h₁ ⟨ho₂, he₂⟩
    obtain ⟨ho₁, he₁⟩ := ha _ _ _ h₁
    refine ⟨ho₁.append ho₂, fun n hn => ?_⟩
    rcases List.mem_append.mp hn with hn | hn
    · exact he₁ n hn
    · exact he₂ n hn
  rule _ _ ha := fun c _ c' h => by
    obtain ⟨ms, hms, rfl⟩ := yields_rule h
    obtain ⟨ho, he⟩ := ha _ _ _ hms
    have hle := ho.le
    have hspan : c.pos + (c'.pos - c.pos) = c'.pos := by omega
    refine ⟨⟨Nat.le_refl _, by simp only [InOrder]; omega⟩, ?_⟩
    simp only [List.mem_singleton, forall_eq]
    exact .intro (childrenInside_of_inOrder (by simpa only [hspan] using ho)) he

theorem keepsBoundary_of_reach (hreach : ∀ c r, (a c r).reach = r) (hs : Skips a) :
    KeepsBoundary input a := fun c r hc hr =>
  ⟨by rw [hreach]; exact hr, fun _ _ h => by
    obtain ⟨-, w, hw⟩ := hs _ _ _ ⟨r, h⟩
    exact hc.reads hw⟩

theorem closed_keepsBoundary (input : String) : Closed (KeepsBoundary input) where
  empty := keepsBoundary_of_reach (fun _ _ => rfl) .empty
  fail := fun _ _ _ hr => Outcome.fits_none.mpr hr
  sat p := keepsBoundary_of_reach (sat_reach p) (.sat p)
  lit xs := keepsBoundary_of_reach (lit_reach xs) (.lit xs)
  seq ha hb := fun c r hc hr => by
    have h₁ := ha c r hc hr
    simp only [seq]
    split
    · rename_i r₁ ns c₁ heq
      rw [heq, Outcome.fits_some] at h₁
      have h₂ := hb c₁ r₁ h₁.2 h₁.1
      split
      · rename_i r₂ ms c₂ heq₂
        rw [heq₂, Outcome.fits_some] at h₂
        exact Outcome.fits_some.mpr h₂
      · rename_i r₂ heq₂
        rw [heq₂, Outcome.fits_none] at h₂
        exact Outcome.fits_none.mpr h₂
    · rename_i r₁ heq
      rw [heq, Outcome.fits_none] at h₁
      exact Outcome.fits_none.mpr h₁
  alt ha hb := fun c r hc hr => by
    have h₁ := ha c r hc hr
    simp only [alt]
    split
    · rename_i r₁ x heq
      rwa [heq] at h₁
    · rename_i r₁ heq
      rw [heq, Outcome.fits_none] at h₁
      exact hb c r₁ hc h₁
  notAhead _ := fun c r hc hr => by
    simp only [notAhead]
    split
    · exact Outcome.fits_none.mpr hr
    · exact Outcome.fits_some.mpr ⟨hr, hc⟩
  many {a} ha := fun c r hc hr => by
    induction c, r using many.induct a with
    | case1 c r r₁ ms₁ c₁ heq hlt r₂ ms₂ c₂ hm ih =>
      have h₁ := ha c r hc hr
      rw [heq, Outcome.fits_some] at h₁
      have h₂ := ih h₁.2 h₁.1
      rw [hm, Outcome.fits_some] at h₂
      rw [many, heq]
      simp only [hlt, dite_true, hm]
      exact Outcome.fits_some.mpr h₂
    | case2 c r r₁ ms₁ c₁ heq hlt r₂ hm ih =>
      have h₁ := ha c r hc hr
      rw [heq, Outcome.fits_some] at h₁
      have h₂ := ih h₁.2 h₁.1
      rw [hm, Outcome.fits_none] at h₂
      rw [many, heq]
      simp only [hlt, dite_true, hm]
      exact Outcome.fits_none.mpr h₂
    | case3 c r r₁ ms₁ c₁ heq hlt =>
      have h₁ := ha c r hc hr
      rw [heq, Outcome.fits_some] at h₁
      rw [many, heq]
      simp only [hlt, dite_false]
      exact Outcome.fits_some.mpr h₁
    | case4 c r r₁ heq =>
      have h₁ := ha c r hc hr
      rw [heq, Outcome.fits_none] at h₁
      rw [many, heq]
      exact Outcome.fits_some.mpr ⟨h₁, hc⟩
  rule _ _ ha := fun c r hc hr => by
    have h₁ := ha c r hc hr
    simp only [rule]
    split
    · rename_i r₁ ms c₁ heq
      rw [heq, Outcome.fits_some] at h₁
      exact Outcome.fits_some.mpr h₁
    · rename_i r₁ heq
      rw [heq, Outcome.fits_none] at h₁
      exact Outcome.fits_none.mpr (h₁.max hc.onBoundary)

end Peg

section Selector

variable {input : String} {t : SyntaxNode} {e : CompileError}

theorem yields_of_parseRaw (h : parseRaw input = .ok t) :
    ∃ c, (Grammar.expr (input.toList.length + 1)).Yields ⟨input.toList, 0⟩ [t] c ∧ c.rest = [] := by
  unfold parseRaw at h
  simp only [bind, Except.bind] at h
  split at h
  · cases h
  split at h
  · cases h
  rename_i nodes c hexpr
  split at h
  · rename_i hrest
    split at h
    · simp only [pure, Except.pure, Except.ok.injEq] at h
      subst h
      exact ⟨c, ⟨0, by rw [hexpr]⟩, List.isEmpty_iff.mp hrest⟩
    · cases h
  · cases h

theorem error_of_parseRaw (h : parseRaw input = .error e) :
    (∃ p, e = .tooDeep p maxNesting) ∨ ∃ p, OnBoundary input p ∧ e = syntaxErrorAt input p := by
  unfold parseRaw at h
  simp only [bind, Except.bind] at h
  split at h
  · rename_i e' hcheck
    cases h
    unfold checkNesting at hcheck
    split at hcheck
    · cases hcheck
      exact .inl ⟨_, rfl⟩
    · cases hcheck
  have hfits := Grammar.closed_expr (closed_keepsBoundary input) (input.toList.length + 1)
    ⟨input.toList, 0⟩ 0 ⟨[], rfl, rfl⟩ onBoundary_zero
  split at h
  · rename_i reach hexpr
    rw [hexpr, Outcome.fits_none] at hfits
    cases h
    exact .inr ⟨reach, hfits, rfl⟩
  · rename_i nodes c hexpr
    rw [hexpr, Outcome.fits_some] at hfits
    split at h
    · split at h
      · cases h
      · cases h
        exact .inr ⟨0, onBoundary_zero, rfl⟩
    · cases h
      exact .inr ⟨c.pos, hfits.2.onBoundary, rfl⟩

/-- What reading a selector gives is faithful to its text. A tree is an `expr` node spanning
the whole text from byte 0; in every node of it the children come in order, apart, and inside
the node's span; and every node's slices lie in the text between characters. A syntax error
names an offset between characters and the text from there on. -/
theorem parseRaw_fits_input (s : String) :
    (∀ t, parseRaw s = .ok t →
      t.rule = .expr ∧ t.start = 0 ∧ t.len = s.utf8ByteSize ∧
        t.Every ChildrenInside ∧ t.Every (SlicesFit s)) ∧
    (∀ p r, parseRaw s = .error (.unmatched p r) →
      ∃ pre rest, s.toList = pre ++ rest ∧ p = byteSize pre ∧ r = String.ofList rest) := by
  constructor
  · intro t h
    obtain ⟨c, hyield, hend⟩ := yields_of_parseRaw h
    obtain ⟨ms, -, hnode⟩ := yields_rule (by simpa only [Grammar.expr] using hyield)
    obtain rfl := List.singleton_inj.mp hnode
    obtain ⟨w, hrest, hpos⟩ := Grammar.closed_expr closed_readsText _ _ _ _ hyield
    obtain ⟨-, hevery⟩ := Grammar.closed_expr closed_ordered _ _ _ _ hyield
    rw [hend, List.append_nil] at hrest
    refine ⟨rfl, rfl, ?_, hevery _ List.mem_cons_self, (parsed_of_parseRaw h).2⟩
    show c.pos - 0 = s.utf8ByteSize
    have hw : w = s.toList := hrest.symm
    simp only [hpos, hw, byteSize_toList, Nat.zero_add, Nat.sub_zero]
  · intro p r h
    rcases error_of_parseRaw h with ⟨q, hq⟩ | ⟨q, ⟨pre, rest, hsplit, rfl⟩, he⟩
    · cases hq
    · rw [syntaxErrorAt_of_split hsplit] at he
      cases he
      exact ⟨pre, rest, hsplit, rfl, rfl⟩

end Selector

end TreeSelect.Selector
