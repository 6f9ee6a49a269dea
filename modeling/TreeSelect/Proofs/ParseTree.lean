import TreeSelect.Selector.Parse
import TreeSelect.Proofs.Parsing

namespace TreeSelect.Selector

open Text Peg

namespace SyntaxNode

/-- The `len` bytes from byte `start` of the input are the characters `w`. -/
def SpansText (input : String) (start len : Nat) (w : List Char) : Prop :=
  ∃ pre rest, input.toList = pre ++ w ++ rest ∧ start = byteSize pre ∧ len = byteSize w

/-- The slices the compiler takes of a node lie in the text and fall between characters: the
node's own text and, for a quoted value, the text between its quotes. -/
def SlicesFit (input : String) (n : SyntaxNode) : Prop :=
  spanFits input n.start n.len = true ∧
    (n.rule.isQuoted = true → quotedSpanFits input n.start n.len = true)

/-- Every node of a tree, the root included, satisfies `P`. -/
inductive Every (P : SyntaxNode → Prop) : SyntaxNode → Prop
  | intro {n : SyntaxNode} : P n → (∀ c ∈ n.subs, Every P c) → Every P n

/-- What a tree of the grammar stands for: a selector of paths, a test of one node, an attribute
condition, or the value of a comparison. -/
inductive Kind where
  | selector
  | predict
  | condition
  | value
  deriving DecidableEq

/-- A list of children in which a lone child spans its parent's text. -/
def LoneChildSpans (cs : List SyntaxNode) (s l : Nat) : Prop :=
  ∀ c, cs = [c] → c.start = s ∧ c.len = l

theorem loneChildSpans_singleton (t : SyntaxNode) : LoneChildSpans [t] t.start t.len := by
  intro u hu
  obtain rfl := List.singleton_inj.mp hu
  exact ⟨rfl, rfl⟩

theorem loneChildSpans_pair (t u : SyntaxNode) (s l : Nat) : LoneChildSpans [t, u] s l := by
  intro v hv
  simp at hv

/-- Whether a rule is a repetition marker. -/
def IsMarker (r : Rule) : Prop := r = .star ∨ r = .plus ∨ r = .option

/-- Whether a text is a comparison operator. -/
def IsOperator (op : String) : Prop := op = "=" ∨ op = "!=" ∨ op = "~="

/-- The shapes of the trees that the rules of each kind build over `input`. A wrapper has one
child over its own text; a list has at least one child, and a lone one spans the list's text. -/
inductive Parsed (input : String) : Kind → SyntaxNode → Prop
  | expr {s l c} : c.start = s → c.len = l → Parsed input .selector c →
      Parsed input .selector ⟨.expr, s, l, [c]⟩
  | orExpr {s l cs} : cs ≠ [] → LoneChildSpans cs s l → (∀ c ∈ cs, Parsed input .selector c) →
      Parsed input .selector ⟨.orExpr, s, l, cs⟩
  | concatExpr {s l cs} : cs ≠ [] → LoneChildSpans cs s l →
      (∀ c ∈ cs, Parsed input .selector c) → Parsed input .selector ⟨.concatExpr, s, l, cs⟩
  | basicExpr {s l c} : c.start = s → c.len = l → Parsed input .selector c →
      Parsed input .selector ⟨.basicExpr, s, l, [c]⟩
  | quantified {s l c m} : Parsed input .selector c → m.subs = [] → IsMarker m.rule →
      Parsed input .selector ⟨.basicExpr, s, l, [c, m]⟩
  | elementaryExpr {s l c} : c.start = s → c.len = l → Parsed input .selector c →
      Parsed input .selector ⟨.elementaryExpr, s, l, [c]⟩
  | groupExpr {s l c} : c.start ≠ s → Parsed input .selector c →
      Parsed input .selector ⟨.groupExpr, s, l, [c]⟩
  | predict {s l c} : c.start = s → c.len = l → Parsed input .predict c →
      Parsed input .selector ⟨.predict, s, l, [c]⟩
  | predictWithAttr {s l cs} : LoneChildSpans cs s l → (∀ c ∈ cs, Parsed input .predict c) →
      Parsed input .predict ⟨.predictWithAttr, s, l, cs⟩
  | basicPredicts {s l cs} : LoneChildSpans cs s l → (∀ c ∈ cs, Parsed input .predict c) →
      Parsed input .predict ⟨.basicPredicts, s, l, cs⟩
  | basicPredict {s l c} : c.start = s → c.len = l → Parsed input .predict c →
      Parsed input .predict ⟨.basicPredict, s, l, [c]⟩
  | idPredict {s l is il} : is ≠ s →
      Parsed input .predict ⟨.idPredict, s, l, [⟨.identifier, is, il, []⟩]⟩
  | classPredict {s l is il} : is ≠ s →
      Parsed input .predict ⟨.classPredict, s, l, [⟨.identifier, is, il, []⟩]⟩
  | tagPredict {s l} : Parsed input .predict ⟨.tagPredict, s, l, [⟨.identifier, s, l, []⟩]⟩
  | emptyBlock {s l} : Parsed input .predict ⟨.attrPredict, s, l, []⟩
  | attrPredict {s l c} : c.start ≠ s → Parsed input .condition c →
      Parsed input .predict ⟨.attrPredict, s, l, [c]⟩
  | attrExpr {s l c} : c.start = s → c.len = l → Parsed input .condition c →
      Parsed input .condition ⟨.attrExpr, s, l, [c]⟩
  | attrOrExpr {s l cs} : cs ≠ [] → LoneChildSpans cs s l →
      (∀ c ∈ cs, Parsed input .condition c) → Parsed input .condition ⟨.attrOrExpr, s, l, cs⟩
  | attrAndExpr {s l cs} : cs ≠ [] → LoneChildSpans cs s l →
      (∀ c ∈ cs, Parsed input .condition c) → Parsed input .condition ⟨.attrAndExpr, s, l, cs⟩
  | attrBasicExpr {s l c} : c.start = s → c.len = l → Parsed input .condition c →
      Parsed input .condition ⟨.attrBasicExpr, s, l, [c]⟩
  | attrGroupExpr {s l c} : c.start ≠ s → Parsed input .condition c →
      Parsed input .condition ⟨.attrGroupExpr, s, l, [c]⟩
  | comparison {s l name op v} : IsOperator (op.text input) → Parsed input .value v →
      Parsed input .condition ⟨.attrElementaryExpr, s, l, [name, op, v]⟩
  | value {s l c} : c.start = s → c.len = l → Parsed input .value c →
      Parsed input .value ⟨.value, s, l, [c]⟩
  | quoted {r s l} : r.isQuoted = true →
      (∃ q mid, q.utf8Size = 1 ∧ SpansText input s l (q :: mid ++ [q])) →
      Parsed input .value ⟨r, s, l, []⟩
  | text {s l} : Parsed input .value ⟨.text, s, l, []⟩

section Spans

variable {input : String} {s l : Nat} {w : List Char}

theorem SpansText.fits (h : SpansText input s l w) : spanFits input s l = true := by
  obtain ⟨pre, rest, hin, rfl, rfl⟩ := h
  have hin' : input.toList = pre ++ (w ++ rest) := by rw [hin, List.append_assoc]
  simp only [spanFits, Bool.and_eq_true, decide_eq_true_eq]
  refine ⟨⟨?_, ?_⟩, ?_⟩
  · rw [hin, byteSize_append, byteSize_append]
    omega
  · rw [hin']
    exact isBoundary_append _ _
  · rw [hin, ← byteSize_append]
    exact isBoundary_append _ _

theorem SpansText.slice (h : SpansText input s l w) : sliceBytes input s l = String.ofList w := by
  obtain ⟨pre, rest, hin, rfl, rfl⟩ := h
  exact sliceBytes_eq hin

theorem SpansText.text_eq {n : SyntaxNode} (h : SpansText input n.start n.len w) :
    n.text input = String.ofList w :=
  h.slice

theorem SpansText.inner {q : Char} {mid : List Char} (hq : q.utf8Size = 1)
    (h : SpansText input s l (q :: mid ++ [q])) : SpansText input (s + 1) (l - 2) mid := by
  obtain ⟨pre, rest, hin, rfl, rfl⟩ := h
  refine ⟨pre ++ [q], q :: rest, by rw [hin]; simp, by simp [hq], ?_⟩
  simp only [List.cons_append, byteSize_cons, byteSize_append, byteSize_nil, hq]
  omega

theorem SpansText.quotedFits {q : Char} {mid : List Char} (hq : q.utf8Size = 1)
    (h : SpansText input s l (q :: mid ++ [q])) : quotedSpanFits input s l = true := by
  have hl : 2 ≤ l := by
    obtain ⟨-, -, -, -, rfl⟩ := h
    simp only [List.cons_append, byteSize_cons, byteSize_append, byteSize_nil, hq]
    omega
  simp only [SyntaxNode.quotedSpanFits, Bool.and_eq_true, decide_eq_true_eq]
  exact ⟨hl, (h.inner hq).fits⟩

theorem spansText_of_reads {c c' : Cursor} (hc : c.At input) (h : c.Reads w c') :
    SpansText input c.pos (c'.pos - c.pos) w := by
  obtain ⟨pre, hsplit, hpos⟩ := hc.split h
  exact ⟨pre, c'.rest, hsplit, hpos, h.pos_eq⟩

theorem slicesFit_of_reads {c c' : Cursor} {r : Rule} {ms : List SyntaxNode}
    (hr : r.isQuoted = false) (hc : c.At input) (h : c.Reads w c') :
    SlicesFit input ⟨r, c.pos, c'.pos - c.pos, ms⟩ :=
  ⟨(spansText_of_reads hc h).fits, fun hq => absurd hq (by simp [hr])⟩

end Spans

end SyntaxNode

open SyntaxNode

namespace Peg

variable {input : String} {P Q R : SyntaxNode → Prop} {a b item step body : Peg} {name : Rule}

/-- Every success from a cursor in the input builds one tree that satisfies `P` and whose slices
fit, and reads text. -/
def YieldsOne (input : String) (P : SyntaxNode → Prop) (a : Peg) : Prop :=
  ∀ c ns c', c.At input → a.Yields c ns c' →
    ∃ t, ns = [t] ∧ P t ∧ t.Every (SlicesFit input) ∧ ∃ w, c.Reads w c'

/-- Every success from a cursor in the input builds one tree that satisfies `P`, whose slices
fit, and that spans exactly the text read. -/
def Builds (input : String) (P : SyntaxNode → Prop) (a : Peg) : Prop :=
  ∀ c ns c', c.At input → a.Yields c ns c' →
    ∃ t, ns = [t] ∧ P t ∧ t.Every (SlicesFit input) ∧ (∃ w, c.Reads w c') ∧
      t.start = c.pos ∧ t.len = c'.pos - c.pos

theorem Builds.yieldsOne (h : Builds input P a) : YieldsOne input P a := fun c ns c' hc ha => by
  obtain ⟨t, rfl, ht, hfit, hw, -⟩ := h c ns c' hc ha
  exact ⟨t, rfl, ht, hfit, hw⟩

theorem YieldsOne.skip (hs : Skips a) (h : YieldsOne input P b) : YieldsOne input P (seq a b) :=
  fun c ns c' hc hab => by
    obtain ⟨w, c₁, hw, hb⟩ := yields_seq_of_skips hs hab
    obtain ⟨t, rfl, ht, hfit, w', hw'⟩ := h c₁ ns c' (hc.reads hw) hb
    exact ⟨t, rfl, ht, hfit, w ++ w', hw.trans hw'⟩

theorem Builds.alt (ha : Builds input P a) (hb : Builds input P b) : Builds input P (alt a b) :=
  fun c ns c' hc h => (yields_alt h).elim (ha c ns c' hc) (hb c ns c' hc)

theorem Builds.mono (h : Builds input P a) (hPQ : ∀ t, P t → Q t) : Builds input Q a :=
  fun c ns c' hc ha => by
    obtain ⟨t, rfl, ht, hrest⟩ := h c ns c' hc ha
    exact ⟨t, rfl, hPQ t ht, hrest⟩

theorem builds_rule (hr : name.isQuoted = false)
    (hbody : ∀ c ms c', c.At input → body.Yields c ms c' →
      (∀ t ∈ ms, t.Every (SlicesFit input)) ∧ (∃ w, c.Reads w c') ∧
        Q ⟨name, c.pos, c'.pos - c.pos, ms⟩) :
    Builds input Q (rule name body) := fun c ns c' hc h => by
  obtain ⟨ms, hms, rfl⟩ := yields_rule h
  obtain ⟨hfit, ⟨w, hw⟩, hq⟩ := hbody c ms c' hc hms
  exact ⟨_, rfl, hq, .intro (slicesFit_of_reads hr hc hw) hfit, ⟨w, hw⟩, rfl, rfl⟩

theorem Builds.wrap (hr : name.isQuoted = false) (hbody : Builds input P body)
    (hnode : ∀ t : SyntaxNode, P t → Q ⟨name, t.start, t.len, [t]⟩) :
    Builds input Q (rule name body) := by
  refine builds_rule hr fun c ms c' hc h => ?_
  obtain ⟨t, rfl, ht, hfit, hw, hs, hl⟩ := hbody c ms c' hc h
  refine ⟨by simpa using hfit, hw, ?_⟩
  simpa [hs, hl] using hnode t ht

theorem YieldsOne.many (h : YieldsOne input P a) {c c' : Cursor} {ns : List SyntaxNode}
    (hc : c.At input) (hm : Yields (Peg.many a) c ns c') :
    (∀ t ∈ ns, P t ∧ t.Every (SlicesFit input)) ∧ (∃ w, c.Reads w c') ∧ (ns = [] → c' = c) := by
  refine Yields.many_induction (fun c ns c' => c.At input →
    (∀ t ∈ ns, P t ∧ t.Every (SlicesFit input)) ∧ (∃ w, c.Reads w c') ∧ (ns = [] → c' = c))
    ?_ ?_ hm hc
  · intro c _
    exact ⟨by simp, ⟨[], .nil c⟩, fun _ => rfl⟩
  · intro c ns c₁ ms c' ha ih hc
    obtain ⟨t, rfl, ht, hfit, w, hw⟩ := h c ns c₁ hc ha
    obtain ⟨hall, ⟨w', hw'⟩, -⟩ := ih (hc.reads hw)
    exact ⟨List.forall_mem_cons.mpr ⟨⟨ht, hfit⟩, hall⟩, ⟨w ++ w', hw.trans hw'⟩, by simp⟩

theorem Builds.list (hr : name.isQuoted = false) (hitem : Builds input P item)
    (hstep : YieldsOne input P step)
    (hnode : ∀ s l cs, cs ≠ [] → LoneChildSpans cs s l → (∀ t ∈ cs, P t) →
      Q ⟨name, s, l, cs⟩) :
    Builds input Q (rule name (seq item (Peg.many step))) := by
  refine builds_rule hr fun c ms c' hc h => ?_
  obtain ⟨ns₁, c₁, ns₂, h₁, h₂, rfl⟩ := yields_seq h
  obtain ⟨t, rfl, ht, hfit, ⟨w, hw⟩, hs, hl⟩ := hitem c ns₁ c₁ hc h₁
  obtain ⟨hall, ⟨w', hw'⟩, hnil⟩ := hstep.many (hc.reads hw) h₂
  have hone : LoneChildSpans (t :: ns₂) c.pos (c'.pos - c.pos) := by
    intro u hu
    obtain ⟨rfl, rfl⟩ := List.cons_eq_cons.mp hu
    rw [hnil rfl]
    exact ⟨hs, hl⟩
  refine ⟨List.forall_mem_cons.mpr ⟨hfit, fun u hu => (hall u hu).2⟩, ⟨w ++ w', hw.trans hw'⟩,
    hnode _ _ _ (by simp) hone (List.forall_mem_cons.mpr ⟨ht, fun u hu => (hall u hu).1⟩)⟩

theorem Builds.pair (hr : name.isQuoted = false) (hitem : Builds input P item)
    (hsecond : YieldsOne input R b)
    (hone : ∀ t : SyntaxNode, P t → Q ⟨name, t.start, t.len, [t]⟩)
    (htwo : ∀ s l t u, P t → R u → Q ⟨name, s, l, [t, u]⟩) :
    Builds input Q (rule name (seq item (opt b))) := by
  refine builds_rule hr fun c ms c' hc h => ?_
  obtain ⟨ns₁, c₁, ns₂, h₁, h₂, rfl⟩ := yields_seq h
  obtain ⟨t, rfl, ht, hfit, ⟨w, hw⟩, hs, hl⟩ := hitem c ns₁ c₁ hc h₁
  rcases yields_alt h₂ with h₂ | h₂
  · obtain ⟨u, rfl, hu, hfit', w', hw'⟩ := hsecond c₁ ns₂ c' (hc.reads hw) h₂
    have hboth : ∀ v ∈ [t, u], v.Every (SlicesFit input) :=
      List.forall_mem_cons.mpr ⟨hfit, List.forall_mem_singleton.mpr hfit'⟩
    exact ⟨hboth, ⟨w ++ w', hw.trans hw'⟩, htwo _ _ t u ht hu⟩
  · obtain ⟨rfl, rfl⟩ := yields_empty h₂
    refine ⟨by simpa using hfit, ⟨w, hw⟩, ?_⟩
    simpa [hs, hl] using hone t ht

end Peg

namespace Grammar

variable {input : String} {P Q : SyntaxNode → Prop} {a item : Peg} {name : Rule}
  {c c' : Cursor} {ns : List SyntaxNode}

theorem skips_str (s : String) : Skips (str s) := Skips.lit _

theorem skips_gap : Skips gap := (Skips.sat _).many1

theorem skips_optGap : Skips optGap := skips_gap.opt

theorem yields_bracketed {o e : String} (ho : o.toList ≠ [])
    (h : (seqs [str o, optGap, a, optGap, str e]).Yields c ns c') :
    ∃ w₁ c₁ w₂ c₂, c.Reads w₁ c₁ ∧ c.pos < c₁.pos ∧ a.Yields c₁ ns c₂ ∧ c₂.Reads w₂ c' := by
  obtain ⟨ns₀, c₀, ns', h₀, h₁, rfl⟩ := yields_seq h
  obtain ⟨rfl, hw₀⟩ := yields_lit _ h₀
  obtain ⟨w₁, c₁, hw₁, h₂⟩ := yields_seq_of_skips skips_optGap h₁
  obtain ⟨ns₁, c₂, ns₂, h₃, h₄, rfl⟩ := yields_seq h₂
  obtain ⟨rfl, w₂, hw₂⟩ := skips_optGap.seq (skips_str e) _ _ _ h₄
  have hlt : c.pos < c₁.pos := by
    have h₁ := byteSize_pos ho
    have h₂ := hw₁.pos_le
    rw [hw₀.2] at h₂
    omega
  exact ⟨_, c₁, w₂, c₂, hw₀.trans hw₁, hlt, by simpa using h₃, hw₂⟩

theorem builds_bracketed (o e : String) (ho : o.toList ≠ []) (hr : name.isQuoted = false)
    (hinner : Builds input P a) (hnode : ∀ s l t, t.start ≠ s → P t → Q ⟨name, s, l, [t]⟩) :
    Builds input Q (rule name (seqs [str o, optGap, a, optGap, str e])) := by
  refine builds_rule hr fun c ms c' hc h => ?_
  obtain ⟨w₁, c₁, w₂, c₂, hw₁, hlt, h₁, hw₂⟩ := yields_bracketed ho h
  obtain ⟨t, rfl, ht, hfit, ⟨w, hw⟩, hs, -⟩ := hinner c₁ ms c₂ (hc.reads hw₁) h₁
  refine ⟨by simpa using hfit, ⟨_, (hw₁.trans hw).trans hw₂⟩, ?_⟩
  exact hnode _ _ t (by omega) ht

theorem yieldsOne_afterSeparator (sep : String) (h : YieldsOne input P item) :
    YieldsOne input P (seqs [optGap, str sep, optGap, item]) :=
  .skip skips_optGap (.skip (skips_str sep) (.skip skips_optGap h))

theorem builds_separated (sep : String) (hr : name.isQuoted = false)
    (hitem : Builds input P item)
    (hnode : ∀ s l cs, cs ≠ [] → LoneChildSpans cs s l → (∀ t ∈ cs, P t) →
      Q ⟨name, s, l, cs⟩) :
    Builds input Q (rule name (seq item (many (seqs [optGap, str sep, optGap, item])))) :=
  .list hr hitem (yieldsOne_afterSeparator sep hitem.yieldsOne) hnode

theorem builds_leaf {body : Peg} (hr : name.isQuoted = false) (hbody : Skips body) :
    Builds input (fun t => t.rule = name ∧ t.subs = []) (rule name body) := by
  refine builds_rule hr fun c ms c' _ h => ?_
  obtain ⟨rfl, hw⟩ := hbody c ms c' h
  exact ⟨by simp, hw, rfl, rfl⟩

theorem builds_identifier :
    Builds input (fun t => t.rule = .identifier ∧ t.subs = []) identifier :=
  builds_leaf rfl (Skips.sat _).many1

theorem builds_signed (sign : String) (hsign : sign.toList ≠ []) (hr : name.isQuoted = false)
    (hnode : ∀ s l is il, is ≠ s → Q ⟨name, s, l, [⟨.identifier, is, il, []⟩]⟩) :
    Builds input Q (rule name (seq (str sign) identifier)) := by
  refine builds_rule hr fun c ms c' hc h => ?_
  obtain ⟨ns₀, c₁, ns, h₀, h₁, rfl⟩ := yields_seq h
  obtain ⟨rfl, hw₀⟩ := yields_lit _ h₀
  obtain ⟨⟨r, is, il, subs⟩, rfl, ⟨rfl, rfl⟩, hfit, ⟨w, hw⟩, hs, -⟩ :=
    builds_identifier c₁ ns c' (hc.reads hw₀) h₁
  have hlt : c.pos < is := by
    have := byteSize_pos hsign
    have his : is = c₁.pos := hs
    rw [his, hw₀.2]
    omega
  exact ⟨by simpa using hfit, ⟨_, hw₀.trans hw⟩, hnode _ _ _ _ (by omega)⟩

theorem builds_idPredict : Builds input (Parsed input .predict) idPredict :=
  builds_signed "#" (by decide) rfl fun _ _ _ _ => .idPredict

theorem builds_classPredict : Builds input (Parsed input .predict) classPredict :=
  builds_signed "." (by decide) rfl fun _ _ _ _ => .classPredict

theorem builds_tagPredict : Builds input (Parsed input .predict) tagPredict := by
  refine .wrap rfl builds_identifier fun t ht => ?_
  obtain ⟨r, s, l, subs⟩ := t
  obtain ⟨rfl, rfl⟩ := ht
  exact .tagPredict

theorem builds_basicPredict : Builds input (Parsed input .predict) basicPredict :=
  .wrap rfl (builds_idPredict.alt (builds_classPredict.alt builds_tagPredict))
    fun _ => .basicPredict rfl rfl

theorem builds_basicPredicts : Builds input (Parsed input .predict) basicPredicts :=
  .list rfl builds_basicPredict builds_basicPredict.yieldsOne fun _ _ _ _ => .basicPredicts

theorem builds_quoted {q : Char} (hname : name.isQuoted = true) (hq : q.utf8Size = 1) :
    Builds input (Parsed input .value) (quoted name q) := by
  intro c ns c' hc h
  obtain ⟨ms, hms, rfl⟩ := yields_rule h
  obtain ⟨ns₀, c₁, ns₁, h₀, h₁, rfl⟩ := yields_seq hms
  obtain ⟨rfl, hw₀⟩ := yields_lit _ h₀
  obtain ⟨ns₂, c₂, ns₃, h₂, h₃, rfl⟩ := yields_seq h₁
  obtain ⟨rfl, mid, hw₂⟩ := ((Skips.notAhead _).seq (Skips.sat _)).many _ _ _ h₂
  obtain ⟨rfl, hw₃⟩ := yields_lit _ h₃
  have hspan : SpansText input c.pos (c'.pos - c.pos) (q :: mid ++ [q]) :=
    spansText_of_reads hc ((hw₀.trans hw₂).trans hw₃)
  refine ⟨_, rfl, .quoted hname ⟨q, mid, hq, hspan⟩, ?_, ⟨_, (hw₀.trans hw₂).trans hw₃⟩, rfl, rfl⟩
  exact .intro ⟨hspan.fits, fun _ => hspan.quotedFits hq⟩ (by simp)

theorem builds_textValue : Builds input (Parsed input .value) textValue := by
  refine (builds_leaf rfl ((Skips.notAhead _).seq (Skips.sat _)).many1).mono fun t ht => ?_
  obtain ⟨r, s, l, subs⟩ := t
  obtain ⟨rfl, rfl⟩ := ht
  exact .text

theorem builds_value : Builds input (Parsed input .value) value :=
  .wrap rfl ((builds_quoted rfl (by decide)).alt ((builds_quoted rfl (by decide)).alt
    ((builds_quoted rfl (by decide)).alt builds_textValue))) fun _ => .value rfl rfl

theorem builds_attrOp : Builds input (fun t => IsOperator (t.text input)) attrOp := by
  refine builds_rule rfl fun c ms c' hc h => ?_
  have hread : ∀ o : String, (str o).Yields c ms c' →
      ms = [] ∧ ∃ w, c.Reads w c' ∧ String.ofList w = o := fun o ho => by
    obtain ⟨rfl, hw⟩ := yields_lit _ ho
    exact ⟨rfl, _, hw, String.ofList_toList⟩
  have hop : ms = [] ∧ ∃ w, c.Reads w c' ∧ IsOperator (String.ofList w) := by
    rcases yields_alt h with h | h
    · obtain ⟨rfl, w, hw, hs⟩ := hread _ h
      exact ⟨rfl, w, hw, .inr (.inl hs)⟩
    rcases yields_alt h with h | h
    · obtain ⟨rfl, w, hw, hs⟩ := hread _ h
      exact ⟨rfl, w, hw, .inr (.inr hs)⟩
    · obtain ⟨rfl, w, hw, hs⟩ := hread _ h
      exact ⟨rfl, w, hw, .inl hs⟩
  obtain ⟨rfl, w, hw, hop⟩ := hop
  refine ⟨by simp, ⟨w, hw⟩, ?_⟩
  rw [SpansText.text_eq (spansText_of_reads hc hw)]
  exact hop

theorem builds_comparison : Builds input (Parsed input .condition) attrElementaryExpr := by
  refine builds_rule rfl fun c ms c' hc h => ?_
  obtain ⟨ns₁, c₁, ns, h₁, h₂, rfl⟩ := yields_seq h
  obtain ⟨name, rfl, -, hfit₁, ⟨w₁, hw₁⟩, -⟩ := builds_identifier c ns₁ c₁ hc h₁
  obtain ⟨w₂, c₂, hw₂, h₃⟩ := yields_seq_of_skips skips_optGap h₂
  obtain ⟨ns₃, c₃, ns₄, h₄, h₅, rfl⟩ := yields_seq h₃
  have hc₂ := (hc.reads hw₁).reads hw₂
  obtain ⟨op, rfl, hop, hfit₃, ⟨w₃, hw₃⟩, -⟩ := builds_attrOp c₂ ns₃ c₃ hc₂ h₄
  obtain ⟨w₄, c₄, hw₄, h₆⟩ := yields_seq_of_skips skips_optGap h₅
  obtain ⟨v, rfl, hv, hfit₅, ⟨w₅, hw₅⟩, -⟩ :=
    builds_value c₄ ns₄ c' ((hc₂.reads hw₃).reads hw₄) h₆
  refine ⟨?_, ⟨_, (((hw₁.trans hw₂).trans hw₃).trans hw₄).trans hw₅⟩, .comparison hop hv⟩
  simp [hfit₁, hfit₃, hfit₅]

theorem builds_attrExpr (d : Nat) : Builds input (Parsed input .condition) (attrExpr d) := by
  induction d with
  | zero => exact fun c ns c' _ h => absurd h not_yields_fail
  | succ d ih =>
    simp only [attrExpr]
    refine .wrap rfl (builds_separated "||" rfl (builds_separated "&&" rfl ?_
      fun _ _ _ => .attrAndExpr) fun _ _ _ => .attrOrExpr) fun _ => .attrExpr rfl rfl
    exact .wrap rfl ((builds_bracketed "(" ")" (by decide) rfl ih fun _ _ _ => .attrGroupExpr).alt
      builds_comparison) fun _ => .attrBasicExpr rfl rfl

theorem builds_attrPredict (d : Nat) : Builds input (Parsed input .predict) (attrPredict d) := by
  refine builds_rule rfl fun c ms c' hc h => ?_
  obtain ⟨w₁, c₁, w₂, c₂, hw₁, hlt, h₁, hw₂⟩ := yields_bracketed (by decide) h
  rcases yields_alt h₁ with h₁ | h₁
  · obtain ⟨t, rfl, ht, hfit, ⟨w, hw⟩, hs, -⟩ := builds_attrExpr d c₁ ms c₂ (hc.reads hw₁) h₁
    exact ⟨by simpa using hfit, ⟨_, (hw₁.trans hw).trans hw₂⟩, .attrPredict (by omega) ht⟩
  · obtain ⟨rfl, rfl⟩ := yields_empty h₁
    exact ⟨by simp, ⟨_, hw₁.trans hw₂⟩, .emptyBlock⟩

theorem builds_predict (d : Nat) : Builds input (Parsed input .selector) (predict d) := by
  refine .wrap rfl (Builds.alt ?_ (builds_attrPredict d)) fun _ => .predict rfl rfl
  refine .pair rfl builds_basicPredicts (builds_attrPredict d).yieldsOne (fun t ht => ?_)
    fun s l t u ht hu => .predictWithAttr (loneChildSpans_pair t u s l) (by simp [ht, hu])
  exact .predictWithAttr (loneChildSpans_singleton t) (by simpa using ht)

theorem builds_marker : Builds input (fun m => m.subs = [] ∧ IsMarker m.rule)
    (alts [rule .star (str "*"), rule .plus (str "+"), rule .option (str "?")]) := by
  have hleaf : ∀ r, IsMarker r → ∀ s,
      Builds input (fun m => m.subs = [] ∧ IsMarker m.rule) (rule r (str s)) := by
    intro r hr s
    have hq : r.isQuoted = false := by rcases hr with rfl | rfl | rfl <;> rfl
    exact (builds_leaf hq (skips_str s)).mono fun _ ⟨h₁, h₂⟩ => ⟨h₂, h₁ ▸ hr⟩
  exact (hleaf _ (.inl rfl) "*").alt ((hleaf _ (.inr (.inl rfl)) "+").alt
    (hleaf _ (.inr (.inr rfl)) "?"))

theorem builds_expr (d : Nat) : Builds input (Parsed input .selector) (expr d) := by
  induction d with
  | zero => exact fun c ns c' _ h => absurd h not_yields_fail
  | succ d ih =>
    simp only [expr]
    refine .wrap rfl (builds_separated "|" rfl (.list rfl ?basic (.skip skips_gap
      (Builds.yieldsOne ?basic)) fun _ _ _ => .concatExpr) fun _ _ _ => .orExpr)
      fun _ => .expr rfl rfl
    refine .pair rfl (.wrap rfl ?_ fun _ => .elementaryExpr rfl rfl) builds_marker.yieldsOne
      (fun _ => .basicExpr rfl rfl) fun _ _ _ _ ht hm => .quantified ht hm.1 hm.2
    exact (builds_bracketed "(" ")" (by decide) rfl ih fun _ _ _ => .groupExpr).alt
      (builds_predict (d + 1))

end Grammar

theorem parsed_of_parseRaw {input : String} {t : SyntaxNode} (h : parseRaw input = .ok t) :
    Parsed input .selector t ∧ t.Every (SlicesFit input) := by
  unfold parseRaw at h
  simp only [bind, Except.bind] at h
  split at h
  · cases h
  split at h
  · cases h
  rename_i nodes c hexpr
  split at h
  · split at h
    · rename_i n
      simp only [pure, Except.pure, Except.ok.injEq] at h
      subst h
      obtain ⟨t, ht, hparsed, hfit, -⟩ := Grammar.builds_expr _ ⟨input.toList, 0⟩ [n] c
        ⟨[], rfl, rfl⟩ ⟨0, by rw [hexpr]⟩
      obtain rfl := List.singleton_inj.mp ht
      exact ⟨hparsed, hfit⟩
    · cases h
  · cases h

end TreeSelect.Selector
