import Mathlib
import TreeSelect.Proofs.ParseTree

namespace TreeSelect.Selector

open Text

namespace Rule

/-- Whether the rule is a parenthesised group, of selectors or of attribute conditions. -/
def isGroup : Rule → Bool
  | groupExpr | attrGroupExpr => true
  | _ => false

end Rule

namespace SyntaxNode

mutual
/-- The groups of a tree in pre-order, each with its depth and the byte offset where it opens.
The depth of a group is `d` and the number of groups on the chain from the root down to it, the
group itself included. -/
def groups (d : Nat) : SyntaxNode → List (Nat × Nat)
  | ⟨r, s, _, subs⟩ => if r.isGroup then (d + 1, s) :: groupsIn (d + 1) subs else groupsIn d subs

/-- `groups` over a list of trees, one after the other. -/
def groupsIn (d : Nat) : List SyntaxNode → List (Nat × Nat)
  | [] => []
  | n :: ns => groups d n ++ groupsIn d ns
end

end SyntaxNode

/-- The offset of the first group of a list that lies deeper than `maxNesting`. -/
def firstTooDeep (gs : List (Nat × Nat)) : Option Nat :=
  (gs.find? fun g => maxNesting < g.1).map Prod.snd

/-- A character that the scan passes over outside quotes without a change: neither a quote
character nor a parenthesis. -/
def isPlain (x : Char) : Bool := !isQuoteChar x && x != '(' && x != ')'

open SyntaxNode

section Groups

variable {d : Nat} {n : SyntaxNode} {ns ms : List SyntaxNode}

@[simp] theorem groupsIn_nil : groupsIn d [] = [] := by
  simp [groupsIn]

theorem groupsIn_cons : groupsIn d (n :: ns) = groups d n ++ groupsIn d ns := by
  simp [groupsIn]

@[simp] theorem groupsIn_append : groupsIn d (ns ++ ms) = groupsIn d ns ++ groupsIn d ms := by
  induction ns with
  | nil => simp
  | cons n ns ih => simp [groupsIn_cons, ih]

@[simp] theorem groupsIn_singleton : groupsIn d [n] = groups d n := by
  simp [groupsIn_cons]

theorem groups_node {r : Rule} {s l : Nat} :
    groups d ⟨r, s, l, ns⟩ = if r.isGroup then (d + 1, s) :: groupsIn (d + 1) ns
      else groupsIn d ns := by
  simp [groups]

@[simp] theorem firstTooDeep_nil : firstTooDeep [] = none := rfl

@[simp] theorem firstTooDeep_append (gs hs : List (Nat × Nat)) :
    firstTooDeep (gs ++ hs) = (firstTooDeep gs).or (firstTooDeep hs) := by
  simp [firstTooDeep, List.find?_append, Option.map_or]

theorem firstTooDeep_cons (g : Nat × Nat) (gs : List (Nat × Nat)) :
    firstTooDeep (g :: gs) = if maxNesting < g.1 then some g.2 else firstTooDeep gs := by
  by_cases h : maxNesting < g.1 <;> simp [firstTooDeep, h]

end Groups

section Scan

variable {w rest : List Char} {pos d : Nat} {q x : Char}

theorem isPlain_eq_false (h : isPlain x = false) :
    x = '(' ∨ x = ')' ∨ x = '\'' ∨ x = '"' ∨ x = '`' := by
  simp only [isPlain, isQuoteChar, Bool.and_eq_false_iff, Bool.not_eq_false', Bool.or_eq_true,
    beq_iff_eq, bne_eq_false_iff_eq] at h
  rcases h with (((h | h) | h) | h) | h <;> simp [h]

theorem isPlain_of_test {p : Char → Bool}
    (hp : p '(' = false ∧ p ')' = false ∧ p '\'' = false ∧ p '"' = false ∧ p '`' = false)
    (h : p x = true) : isPlain x = true := by
  cases hx : isPlain x
  · obtain ⟨h₁, h₂, h₃, h₄, h₅⟩ := hp
    rcases isPlain_eq_false hx with rfl | rfl | rfl | rfl | rfl
    · exact absurd h (by simp [h₁])
    · exact absurd h (by simp [h₂])
    · exact absurd h (by simp [h₃])
    · exact absurd h (by simp [h₄])
    · exact absurd h (by simp [h₅])
  · rfl

theorem tooDeepAt_plain (hw : ∀ x ∈ w, isPlain x = true) :
    tooDeepAt (w ++ rest) pos d none = tooDeepAt rest (pos + byteSize w) d none := by
  induction w generalizing pos with
  | nil => simp
  | cons x w ih =>
    have hx := hw x List.mem_cons_self
    simp only [isPlain, Bool.and_eq_true, Bool.not_eq_true', bne_iff_ne, ne_eq] at hx
    obtain ⟨⟨hq, hopen⟩, hclose⟩ := hx
    rw [List.cons_append, tooDeepAt, if_neg (by simp [hq]), if_neg (by simpa using hopen),
      if_neg (by simpa using hclose), ih fun y hy => hw y (List.mem_cons_of_mem x hy),
      byteSize_cons, Nat.add_assoc]

theorem tooDeepAt_quoted (hw : q ∉ w) :
    tooDeepAt (w ++ q :: rest) pos d (some q) =
      tooDeepAt rest (pos + byteSize w + q.utf8Size) d none := by
  induction w generalizing pos with
  | nil => simp [tooDeepAt]
  | cons x w ih =>
    have hx : x ≠ q := fun h => hw (h ▸ List.mem_cons_self)
    rw [List.cons_append, tooDeepAt, if_neg (by simpa using hx),
      ih fun h => hw (List.mem_cons_of_mem x h), byteSize_cons]
    simp only [Nat.add_assoc]

theorem tooDeepAt_open :
    tooDeepAt ('(' :: rest) pos d none =
      if maxNesting < d + 1 then some pos else tooDeepAt rest (pos + 1) (d + 1) none :=
  rfl

theorem tooDeepAt_close :
    tooDeepAt (')' :: rest) pos (d + 1) none = tooDeepAt rest (pos + 1) d none :=
  rfl

theorem tooDeepAt_eq_some {p : Nat} {cs : List Char} :
    ∀ {pos d : Nat} {quote : Option Char}, tooDeepAt cs pos d quote = some p →
      ∃ pre rest, cs = pre ++ '(' :: rest ∧ p = pos + byteSize pre := by
  induction cs with
  | nil =>
    intro pos d quote h
    cases quote <;> simp [tooDeepAt] at h
  | cons c cs ih =>
    intro pos d quote h
    have hstep : ∀ {d' : Nat} {quote' : Option Char},
        tooDeepAt cs (pos + c.utf8Size) d' quote' = some p →
          ∃ pre rest, c :: cs = pre ++ '(' :: rest ∧ p = pos + byteSize pre := fun h => by
      obtain ⟨pre, rest, rfl, rfl⟩ := ih h
      exact ⟨c :: pre, rest, rfl, by simp; omega⟩
    cases quote with
    | some q => exact hstep h
    | none =>
      simp only [tooDeepAt] at h
      split at h
      · exact hstep h
      split at h
      · rename_i hc
        obtain rfl : c = '(' := by simpa using hc
        split at h
        · obtain rfl := Option.some.inj h
          exact ⟨[], cs, rfl, by simp⟩
        · exact hstep h
      split at h
      · exact hstep h
      · exact hstep h

end Scan

/-- Where the groups opened by a list of trees stand, between the offsets `lo ≤ hi`: at strictly
rising offsets, from `lo` up to but not including `hi`. -/
def OffsetsWithin (lo hi : Nat) (gs : List (Nat × Nat)) : Prop :=
  lo ≤ hi ∧ (gs.map Prod.snd).Pairwise (· < ·) ∧ ∀ g ∈ gs, lo ≤ g.2 ∧ g.2 < hi

section Offsets

variable {lo mid hi : Nat} {gs hs : List (Nat × Nat)}

theorem offsetsWithin_nil (h : lo ≤ hi) : OffsetsWithin lo hi [] := by
  simp [OffsetsWithin, h]

theorem OffsetsWithin.append (h₁ : OffsetsWithin lo mid gs) (h₂ : OffsetsWithin mid hi hs) :
    OffsetsWithin lo hi (gs ++ hs) := by
  obtain ⟨hle₁, hs₁, hb₁⟩ := h₁
  obtain ⟨hle₂, hs₂, hb₂⟩ := h₂
  refine ⟨Nat.le_trans hle₁ hle₂, ?_, ?_⟩
  · -- every offset of the first part lies below `mid`, every one of the second at or above it
    rw [List.map_append, List.pairwise_append]
    refine ⟨hs₁, hs₂, ?_⟩
    simp only [List.mem_map]
    rintro _ ⟨g, hg, rfl⟩ _ ⟨g', hg', rfl⟩
    exact Nat.lt_of_lt_of_le (hb₁ g hg).2 (hb₂ g' hg').1
  · intro g hg
    rcases List.mem_append.mp hg with hg | hg
    · exact ⟨(hb₁ g hg).1, Nat.lt_of_lt_of_le (hb₁ g hg).2 hle₂⟩
    · exact ⟨Nat.le_trans hle₁ (hb₂ g hg).1, (hb₂ g hg).2⟩

theorem OffsetsWithin.cons (h : OffsetsWithin (lo + 1) hi gs) (k : Nat) :
    OffsetsWithin lo hi ((k, lo) :: gs) := by
  obtain ⟨hle, hs, hb⟩ := h
  refine ⟨by omega, ?_, ?_⟩
  · rw [List.map_cons, List.pairwise_cons]
    refine ⟨?_, hs⟩
    simp only [List.mem_map]
    rintro _ ⟨g, hg, rfl⟩
    exact (hb g hg).1
  · intro g hg
    rcases List.mem_cons.mp hg with rfl | hg
    · exact ⟨le_refl _, by omega⟩
    · exact ⟨by have := (hb g hg).1; omega, (hb g hg).2⟩

theorem OffsetsWithin.mono {lo' hi' : Nat} (h : OffsetsWithin lo hi gs) (hlo : lo' ≤ lo)
    (hhi : hi ≤ hi') : OffsetsWithin lo' hi' gs := by
  obtain ⟨hle, hs, hb⟩ := h
  exact ⟨by omega, hs, fun g hg => ⟨by have := (hb g hg).1; omega, by have := (hb g hg).2; omega⟩⟩

end Offsets

namespace Peg

/-- The text between two cursors agrees with the nodes read over it, scanned from depth `d`: the
groups the nodes open stand in text order within the text; and the scan, from outside quotes,
stops at the first of them that lies too deep, or else passes over the text and comes back to
depth `d`. -/
def Agrees (d : Nat) (c : Cursor) (ns : List SyntaxNode) (c' : Cursor) : Prop :=
  OffsetsWithin c.pos c'.pos (groupsIn d ns) ∧
    tooDeepAt c.rest c.pos d none =
      (firstTooDeep (groupsIn d ns)).or (tooDeepAt c'.rest c'.pos d none)

/-- Every success of the expression agrees with its nodes, from every depth. -/
def ScanAgrees (a : Peg) : Prop := ∀ d c ns c', a.Yields c ns c' → Agrees d c ns c'

variable {a b body : Peg} {name : Rule} {c c₁ c' : Cursor} {ns ms : List SyntaxNode}
  {w : List Char} {d : Nat}

theorem scan_of_reads_plain (h : c.Reads w c') (hw : ∀ x ∈ w, isPlain x = true) (d : Nat) :
    tooDeepAt c.rest c.pos d none = tooDeepAt c'.rest c'.pos d none := by
  rw [h.1, tooDeepAt_plain hw, h.2]

theorem agrees_of_no_groups (hns : groupsIn d ns = []) (hle : c.pos ≤ c'.pos)
    (hscan : tooDeepAt c.rest c.pos d none = tooDeepAt c'.rest c'.pos d none) :
    Agrees d c ns c' := by
  rw [Agrees, hns, hscan]
  exact ⟨offsetsWithin_nil hle, by simp⟩

theorem agrees_nil (c : Cursor) : Agrees d c [] c := agrees_of_no_groups groupsIn_nil le_rfl rfl

theorem Agrees.append (h₁ : Agrees d c ns c₁) (h₂ : Agrees d c₁ ms c') :
    Agrees d c (ns ++ ms) c' := by
  obtain ⟨ho₁, hs₁⟩ := h₁
  obtain ⟨ho₂, hs₂⟩ := h₂
  rw [Agrees, groupsIn_append, hs₁, hs₂, firstTooDeep_append, Option.or_assoc]
  exact ⟨ho₁.append ho₂, rfl⟩

theorem ScanAgrees.empty : ScanAgrees empty := fun _ _ _ _ h => by
  obtain ⟨rfl, rfl⟩ := yields_empty h
  exact agrees_nil _

theorem ScanAgrees.fail : ScanAgrees fail := fun _ _ _ _ h => absurd h not_yields_fail

theorem ScanAgrees.notAhead (a : Peg) : ScanAgrees (notAhead a) := fun _ _ _ _ h => by
  obtain ⟨rfl, rfl⟩ := yields_notAhead h
  exact agrees_nil _

theorem ScanAgrees.sat {p : Char → Bool}
    (hp : p '(' = false ∧ p ')' = false ∧ p '\'' = false ∧ p '"' = false ∧ p '`' = false) :
    ScanAgrees (sat p) := fun d c ns c' h => by
  obtain ⟨rfl, x, hx, hread⟩ := yields_sat h
  exact agrees_of_no_groups groupsIn_nil hread.pos_le
    (scan_of_reads_plain hread (by simpa using isPlain_of_test hp hx) d)

theorem ScanAgrees.lit {xs : List Char} (hxs : ∀ x ∈ xs, isPlain x = true) :
    ScanAgrees (lit xs) := fun d c ns c' h => by
  obtain ⟨rfl, hread⟩ := yields_lit xs h
  exact agrees_of_no_groups groupsIn_nil hread.pos_le (scan_of_reads_plain hread hxs d)

theorem ScanAgrees.seq (ha : ScanAgrees a) (hb : ScanAgrees b) : ScanAgrees (seq a b) :=
  fun d c ns c' h => by
    obtain ⟨ns₁, c₁, ns₂, h₁, h₂, rfl⟩ := yields_seq h
    exact (ha d _ _ _ h₁).append (hb d _ _ _ h₂)

theorem ScanAgrees.alt (ha : ScanAgrees a) (hb : ScanAgrees b) : ScanAgrees (alt a b) :=
  fun d c ns c' h => (yields_alt h).elim (ha d c ns c') (hb d c ns c')

theorem ScanAgrees.opt (ha : ScanAgrees a) : ScanAgrees (opt a) := ha.alt .empty

theorem ScanAgrees.many (ha : ScanAgrees a) : ScanAgrees (many a) := fun d _ _ _ h =>
  Yields.many_induction (Agrees d) agrees_nil
    (fun _ _ _ _ _ h₁ ih => (ha d _ _ _ h₁).append ih) h

theorem ScanAgrees.many1 (ha : ScanAgrees a) : ScanAgrees (many1 a) := ha.seq ha.many

theorem ScanAgrees.rule (hname : name.isGroup = false) (hbody : ScanAgrees body) :
    ScanAgrees (rule name body) := fun d c ns c' h => by
  obtain ⟨ms, hms, rfl⟩ := yields_rule h
  rw [Agrees, groupsIn_singleton, groups_node, if_neg (by simp [hname])]
  exact hbody d _ _ _ hms

theorem alt_isSome_of_left (ha : ∀ r, (a c r).result.isSome) (r : Nat) :
    (alt a b c r).result.isSome := by
  have har := ha r
  unfold alt
  split
  · rfl
  · rename_i hno
    rw [hno] at har
    cases har

theorem alt_isSome_of_right (hb : ∀ r, (b c r).result.isSome) (r : Nat) :
    (alt a b c r).result.isSome := by
  unfold alt
  split
  · rfl
  · exact hb _

theorem alts_isSome_of_mem (a : Peg) : ∀ {as : List Peg}, a ∈ as →
    (∀ r, (a c r).result.isSome) → ∀ r, (alts as c r).result.isSome
  | [], h, _ => absurd h List.not_mem_nil
  | [_], h, ha => by
    obtain rfl := List.mem_singleton.mp h
    exact ha
  | b :: b' :: bs, h, ha => by
    show ∀ r, (alt b (alts (b' :: bs)) c r).result.isSome
    rcases List.mem_cons.mp h with rfl | h
    · exact alt_isSome_of_left ha
    · exact alt_isSome_of_right (alts_isSome_of_mem a h ha)

theorem lit_singleton_isSome {x : Char} {xs : List Char} (hc : c.rest = x :: xs) (r : Nat) :
    (lit [x] c r).result.isSome := by
  simp [lit, sat, empty, hc]

theorem fails_of_yields_notAhead (h : (notAhead a).Yields c ns c') : ∃ r, (a c r).result = none := by
  obtain ⟨r, hr⟩ := h
  simp only [notAhead] at hr
  split at hr
  · simp at hr
  · rename_i hno
    exact ⟨r, by rw [hno]⟩

theorem not_yields_notAhead (ha : ∀ r, (a c r).result.isSome) :
    ¬ (notAhead a).Yields c ns c' := fun h => by
  obtain ⟨r, hr⟩ := fails_of_yields_notAhead h
  have := ha r
  rw [hr] at this
  cases this

end Peg

namespace Grammar

open Peg

variable {name : Rule} {body : Peg} {q x : Char} {c c' : Cursor} {ns : List SyntaxNode}

theorem scanAgrees_str (s : String) (h : s.toList.all isPlain = true) : ScanAgrees (str s) :=
  .lit (List.all_eq_true.mp h)

theorem scanAgrees_gap : ScanAgrees gap := by
  unfold gap
  exact .many1 (.sat (by decide))

theorem scanAgrees_optGap : ScanAgrees optGap := scanAgrees_gap.opt

theorem scanAgrees_identifier : ScanAgrees identifier :=
  .rule rfl (.many1 (.sat (by decide)))

theorem scanAgrees_group (hname : name.isGroup = true) (hbody : ScanAgrees body) :
    ScanAgrees (rule name (seqs [str "(", optGap, body, optGap, str ")"])) := by
  intro d c ns c' h
  obtain ⟨ms, hms, rfl⟩ := yields_rule h
  obtain ⟨ns₀, c₀, ns₁, h₀, h₁, rfl⟩ := yields_seq hms
  obtain ⟨rfl, hopen⟩ := yields_lit _ h₀
  obtain ⟨ns₂, c₁, ns₃, h₂, h₃, rfl⟩ := yields_seq h₁
  obtain ⟨ns₄, c₂, ns₅, h₄, h₅, rfl⟩ := yields_seq h₃
  obtain ⟨ns₆, c₃, ns₇, h₆, h₇, rfl⟩ := yields_seq h₅
  obtain ⟨rfl, hclose⟩ := yields_lit _ h₇
  obtain ⟨rfl, -⟩ := skips_optGap _ _ _ h₂
  obtain ⟨rfl, -⟩ := skips_optGap _ _ _ h₆
  have hc : c.rest = '(' :: c₀.rest ∧ c₀.pos = c.pos + 1 := hopen
  have hc₃ : c₃.rest = ')' :: c'.rest ∧ c'.pos = c₃.pos + 1 := hclose
  obtain ⟨hgap₁, hscan₁⟩ := scanAgrees_optGap (d + 1) _ _ _ h₂
  obtain ⟨hinner, hscan₂⟩ := hbody (d + 1) _ _ _ h₄
  obtain ⟨hgap₂, hscan₃⟩ := scanAgrees_optGap (d + 1) _ _ _ h₆
  have hafter : c.pos + 1 ≤ c₁.pos := by
    rw [← hc.2]
    exact hgap₁.1
  have hbefore : c₂.pos ≤ c'.pos := by
    have := hgap₂.1
    omega
  simp only [Agrees, List.nil_append, List.append_nil, groupsIn_singleton, groups_node,
    if_pos hname]
  refine ⟨(hinner.mono hafter hbefore).cons (d + 1), ?_⟩
  rw [hc.1, tooDeepAt_open, firstTooDeep_cons]
  split
  · rfl
  · rw [← hc.2, hscan₁, hscan₂, hscan₃, hc₃.1, tooDeepAt_close, ← hc₃.2]
    simp

theorem yields_quotedBody (h : Yields (many (seq (notAhead (lit [q])) anyChar)) c ns c') :
    ns = [] ∧ ∃ w, c.Reads w c' ∧ q ∉ w := by
  refine Yields.many_induction (fun c ns c' => ns = [] ∧ ∃ w, c.Reads w c' ∧ q ∉ w)
    ?_ ?_ h
  · intro c
    exact ⟨rfl, [], .nil c, List.not_mem_nil⟩
  · rintro c ns c₁ ms c' h₁ ⟨rfl, w, hw, hq⟩
    obtain ⟨ns₁, c₀, ns₂, hno, hx, rfl⟩ := yields_seq h₁
    obtain ⟨rfl, rfl⟩ := yields_notAhead hno
    obtain ⟨rfl, x, -, hread⟩ := yields_sat hx
    have hxq : x ≠ q := by
      rintro rfl
      exact not_yields_notAhead (lit_singleton_isSome hread.1) hno
    refine ⟨rfl, x :: w, hread.trans hw, ?_⟩
    simpa [hq] using hxq.symm

theorem scanAgrees_quoted (hq : isQuoteChar q = true) (hname : name.isGroup = false) :
    ScanAgrees (quoted name q) := fun d c ns c' h => by
  obtain ⟨ms, hms, rfl⟩ := yields_rule h
  obtain ⟨ns₀, c₁, ns₁, h₀, h₁, rfl⟩ := yields_seq hms
  obtain ⟨rfl, hopen⟩ := yields_lit _ h₀
  obtain ⟨ns₂, c₂, ns₃, h₂, h₃, rfl⟩ := yields_seq h₁
  obtain ⟨rfl, mid, hmid, hq'⟩ := yields_quotedBody h₂
  obtain ⟨rfl, hclose⟩ := yields_lit _ h₃
  have hscan : tooDeepAt c.rest c.pos d none = tooDeepAt c'.rest c'.pos d none := by
    rw [hopen.1, hmid.1, hclose.1, List.singleton_append, List.singleton_append, tooDeepAt,
      if_pos hq, tooDeepAt_quoted hq', hclose.2, hmid.2, hopen.2]
    simp only [byteSize_cons, byteSize_nil, Nat.add_zero]
  refine agrees_of_no_groups ?_ ((hopen.trans hmid).trans hclose).pos_le hscan
  simp [groups_node, hname]

theorem textStop_isSome {xs : List Char} (hc : c.rest = x :: xs) (hx : isPlain x = false)
    (r : Nat) : (textStop c r).result.isSome := by
  have hstr : ∀ s : String, s.toList = [x] → ∀ r, (str s c r).result.isSome := fun s hs r => by
    unfold str
    rw [hs]
    exact lit_singleton_isSome hc r
  unfold textStop
  rcases isPlain_eq_false hx with rfl | rfl | rfl | rfl | rfl
  · exact alts_isSome_of_mem (str "(") (by simp) (hstr _ rfl) r
  · exact alts_isSome_of_mem (str ")") (by simp) (hstr _ rfl) r
  · exact alts_isSome_of_mem (str "'") (by simp) (hstr _ rfl) r
  · exact alts_isSome_of_mem (str "\"") (by simp) (hstr _ rfl) r
  · exact alts_isSome_of_mem (str "`") (by simp) (hstr _ rfl) r

theorem scanAgrees_textChar : ScanAgrees (seq (notAhead textStop) anyChar) :=
  fun d c ns c' h => by
    obtain ⟨ns₁, c₁, ns₂, hno, hx, rfl⟩ := yields_seq h
    obtain ⟨rfl, rfl⟩ := yields_notAhead hno
    obtain ⟨rfl, x, -, hread⟩ := yields_sat hx
    have hplain : isPlain x = true := by
      cases hp : isPlain x
      · exact absurd hno (not_yields_notAhead (textStop_isSome hread.1 hp))
      · rfl
    exact agrees_of_no_groups groupsIn_nil hread.pos_le
      (scan_of_reads_plain hread (by simpa using hplain) d)

theorem scanAgrees_textValue : ScanAgrees textValue := .rule rfl (.many1 scanAgrees_textChar)

theorem scanAgrees_value : ScanAgrees value :=
  .rule rfl (.alt (scanAgrees_quoted (by decide) rfl) (.alt (scanAgrees_quoted (by decide) rfl)
    (.alt (scanAgrees_quoted (by decide) rfl) scanAgrees_textValue)))

theorem scanAgrees_attrOp : ScanAgrees attrOp :=
  .rule rfl (.alt (scanAgrees_str _ (by decide)) (.alt (scanAgrees_str _ (by decide))
    (scanAgrees_str _ (by decide))))

theorem scanAgrees_comparison : ScanAgrees attrElementaryExpr :=
  .rule rfl (.seq scanAgrees_identifier (.seq scanAgrees_optGap (.seq scanAgrees_attrOp
    (.seq scanAgrees_optGap scanAgrees_value))))

theorem scanAgrees_separated {item : Peg} (sep : String) (hsep : sep.toList.all isPlain = true)
    (hitem : ScanAgrees item) :
    ScanAgrees (seq item (many (seqs [optGap, str sep, optGap, item]))) :=
  .seq hitem (.many (.seq scanAgrees_optGap (.seq (scanAgrees_str sep hsep)
    (.seq scanAgrees_optGap hitem))))

theorem scanAgrees_attrExpr (d : Nat) : ScanAgrees (attrExpr d) := by
  induction d with
  | zero => exact .fail
  | succ d ih =>
    simp only [attrExpr]
    exact .rule rfl (.rule rfl (scanAgrees_separated "||" (by decide) (.rule rfl
      (scanAgrees_separated "&&" (by decide) (.rule rfl
        (.alt (scanAgrees_group rfl ih) scanAgrees_comparison))))))

theorem scanAgrees_attrPredict (d : Nat) : ScanAgrees (attrPredict d) :=
  .rule rfl (.seq (scanAgrees_str _ (by decide)) (.seq scanAgrees_optGap
    (.seq (scanAgrees_attrExpr d).opt (.seq scanAgrees_optGap (scanAgrees_str _ (by decide))))))

theorem scanAgrees_predict (d : Nat) : ScanAgrees (predict d) := by
  have hbasic : ScanAgrees basicPredicts := by
    have hsigned : ∀ sign : String, sign.toList.all isPlain = true →
        ScanAgrees (seq (str sign) identifier) := fun sign h =>
      .seq (scanAgrees_str sign h) scanAgrees_identifier
    exact .rule rfl (.many1 (.rule rfl (.alt (.rule rfl (hsigned "#" (by decide)))
      (.alt (.rule rfl (hsigned "." (by decide))) (.rule rfl scanAgrees_identifier)))))
  exact .rule rfl (.alt (.rule rfl (.seq hbasic (scanAgrees_attrPredict d).opt))
    (scanAgrees_attrPredict d))

theorem scanAgrees_expr (d : Nat) : ScanAgrees (expr d) := by
  induction d with
  | zero => exact .fail
  | succ d ih =>
    simp only [expr]
    refine .rule rfl (.rule rfl (scanAgrees_separated "|" (by decide) (.rule rfl
      (.seq ?basic (.many (.seq scanAgrees_gap ?basic))))))
    exact .rule rfl (.seq (.rule rfl (.alt (scanAgrees_group rfl ih) (scanAgrees_predict (d + 1))))
      (.opt (.alt (.rule rfl (scanAgrees_str _ (by decide))) (.alt (.rule rfl (scanAgrees_str _
        (by decide))) (.rule rfl (scanAgrees_str _ (by decide)))))))

end Grammar

section Tree

mutual
theorem find?_groups_deep : ∀ (t : SyntaxNode) (d : Nat), d ≤ maxNesting →
    (t.groups d).find? (fun g => maxNesting < g.1) =
      (t.groups d).find? (fun g => g.1 = maxNesting + 1)
  | ⟨r, s, l, subs⟩, d, hd => by
    rw [groups_node]
    split
    · by_cases hdeep : maxNesting < d + 1
      · have hlevel : d + 1 = maxNesting + 1 := by omega
        simp [hlevel]
      · have hlevel : d + 1 ≠ maxNesting + 1 := by omega
        simp only [List.find?_cons, hdeep, hlevel, decide_false]
        exact find?_groupsIn_deep subs (d + 1) (by omega)
    · exact find?_groupsIn_deep subs d hd

theorem find?_groupsIn_deep : ∀ (ts : List SyntaxNode) (d : Nat), d ≤ maxNesting →
    (groupsIn d ts).find? (fun g => maxNesting < g.1) =
      (groupsIn d ts).find? (fun g => g.1 = maxNesting + 1)
  | [], _, _ => by simp
  | t :: ts, d, hd => by
    rw [groupsIn_cons, List.find?_append, List.find?_append, find?_groups_deep t d hd,
      find?_groupsIn_deep ts d hd]
end

theorem firstTooDeep_groups (t : SyntaxNode) :
    firstTooDeep (t.groups 0) =
      ((t.groups 0).find? fun g => g.1 = maxNesting + 1).map Prod.snd := by
  rw [firstTooDeep, find?_groups_deep t 0 (Nat.zero_le _)]

theorem firstTooDeep_eq_none_iff (gs : List (Nat × Nat)) :
    firstTooDeep gs = none ↔ ∀ g ∈ gs, g.1 ≤ maxNesting := by
  simp [firstTooDeep]

end Tree

theorem scan_of_expr {s : String} {d : Nat} {t : SyntaxNode} {c : Cursor}
    (h : (Grammar.expr d).Yields ⟨s.toList, 0⟩ [t] c) (hend : c.rest = []) :
    ((t.groups 0).map Prod.snd).Pairwise (· < ·) ∧
      tooDeepAt s.toList 0 0 none = firstTooDeep (t.groups 0) := by
  have hagree := Grammar.scanAgrees_expr d 0 _ _ _ h
  rw [Peg.Agrees, groupsIn_singleton, hend] at hagree
  obtain ⟨⟨-, horder, -⟩, hscan⟩ := hagree
  exact ⟨horder, by simpa [tooDeepAt] using hscan⟩

section Check

variable {s : String} {d : Nat} {t : SyntaxNode} {c : Cursor}

theorem checkNesting_eq_ok_iff (h : (Grammar.expr d).Yields ⟨s.toList, 0⟩ [t] c)
    (hend : c.rest = []) : checkNesting s = .ok () ↔ firstTooDeep (t.groups 0) = none := by
  unfold checkNesting
  rw [(scan_of_expr h hend).2]
  cases firstTooDeep (t.groups 0) <;> simp

theorem checkNesting_eq_tooDeep_iff (h : (Grammar.expr d).Yields ⟨s.toList, 0⟩ [t] c)
    (hend : c.rest = []) {p l : Nat} :
    checkNesting s = .error (.tooDeep p l) ↔
      firstTooDeep (t.groups 0) = some p ∧ l = maxNesting := by
  unfold checkNesting
  rw [(scan_of_expr h hend).2]
  cases firstTooDeep (t.groups 0) <;> simp [eq_comm]

end Check

/-- The nesting check over a selector that the grammar reads in full into the tree `t`. The groups
of `t`, of selectors or of attribute conditions, listed in pre-order, open at rising offsets. The
check refuses the selector exactly when `t` has a chain of more than `maxNesting` nested groups.
It then reports the limit and the offset where the first group of `t`, in text order, at depth
`maxNesting + 1` opens, and that offset holds an opening parenthesis. Otherwise it accepts. -/
theorem checkNesting_agrees_with_groups (s : String) (d : Nat) (t : SyntaxNode) (c : Cursor)
    (h : (Grammar.expr d).Yields ⟨s.toList, 0⟩ [t] c) (hend : c.rest = []) :
    ((t.groups 0).map Prod.snd).Pairwise (· < ·) ∧
    ((∃ p, checkNesting s = .error (.tooDeep p maxNesting)) ↔
      ∃ g ∈ t.groups 0, maxNesting < g.1) ∧
    (∀ p l, checkNesting s = .error (.tooDeep p l) ↔ l = maxNesting ∧
      ((t.groups 0).find? fun g => g.1 = maxNesting + 1).map Prod.snd = some p) ∧
    (∀ p l, checkNesting s = .error (.tooDeep p l) →
      ∃ pre rest, s.toList = pre ++ '(' :: rest ∧ p = byteSize pre) ∧
    (checkNesting s = .ok () ↔ ∀ g ∈ t.groups 0, g.1 ≤ maxNesting) := by
  refine ⟨(scan_of_expr h hend).1, ?_, ?_, ?_, ?_⟩
  · -- refused at all exactly when some group lies too deep
    simp only [checkNesting_eq_tooDeep_iff h hend, and_true, ← Option.isSome_iff_exists,
      firstTooDeep, Option.isSome_map, List.find?_isSome, decide_eq_true_eq]
  · intro p l
    rw [checkNesting_eq_tooDeep_iff h hend, firstTooDeep_groups, and_comm]
  · intro p l hp
    rw [checkNesting_eq_tooDeep_iff h hend] at hp
    simpa using tooDeepAt_eq_some ((scan_of_expr h hend).2.trans hp.1)
  · rw [checkNesting_eq_ok_iff h hend, firstTooDeep_eq_none_iff]

theorem checkNesting_quoted_parentheses :
    ∃ t c, (Grammar.expr 3).Yields ⟨"a[(x='(' || y=\")\")] (b)".toList, 0⟩ [t] c ∧ c.rest = [] ∧
      (checkNesting "a[(x='(' || y=\")\")] (b)" = .ok () ↔ ∀ g ∈ t.groups 0, g.1 ≤ maxNesting) := by
  obtain ⟨t, c, ht, hend⟩ : ∃ t c,
      (Grammar.expr 3 ⟨"a[(x='(' || y=\")\")] (b)".toList, 0⟩ 0).result = some ([t], c) ∧
        c.rest = [] :=
    ⟨_, _, by cbv, rfl⟩
  exact ⟨t, c, ⟨0, ht⟩, hend, (checkNesting_agrees_with_groups _ 3 t c ⟨0, ht⟩ hend).2.2.2.2⟩

end TreeSelect.Selector
