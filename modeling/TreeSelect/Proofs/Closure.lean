import Mathlib.Data.List.Defs
import TreeSelect.Proofs.Parsing
import TreeSelect.Selector.Grammar

namespace TreeSelect.Selector

open Text

namespace Peg

/-- A property of parsing expressions that every combinator keeps. -/
structure Closed (Q : Peg → Prop) : Prop where
  empty : Q empty
  fail : Q fail
  sat : ∀ p, Q (sat p)
  lit : ∀ xs, Q (lit xs)
  seq : ∀ {a b}, Q a → Q b → Q (seq a b)
  alt : ∀ {a b}, Q a → Q b → Q (alt a b)
  notAhead : ∀ {a}, Q a → Q (notAhead a)
  many : ∀ {a}, Q a → Q (many a)
  rule : ∀ (name : Rule) {a}, Q a → Q (rule name a)

namespace Closed

variable {Q : Peg → Prop} {a : Peg}

theorem opt (h : Closed Q) (ha : Q a) : Q (opt a) := h.alt ha h.empty

theorem many1 (h : Closed Q) (ha : Q a) : Q (many1 a) := h.seq ha (h.many ha)

theorem seqs (h : Closed Q) : ∀ {as : List Peg}, as.Forall Q → Q (seqs as)
  | [], _ => h.empty
  | [_], ha => ha
  | _ :: _ :: _, ⟨ha, has⟩ => h.seq ha (h.seqs has)

theorem alts (h : Closed Q) : ∀ {as : List Peg}, as.Forall Q → Q (alts as)
  | [], _ => h.fail
  | [_], ha => ha
  | _ :: _ :: _, ⟨ha, has⟩ => h.alt ha (h.alts has)

end Closed

end Peg

namespace Grammar

open Peg

variable {Q : Peg → Prop} (h : Peg.Closed Q)
include h

theorem closed_str (s : String) : Q (str s) := h.lit _

theorem closed_gap : Q gap := h.many1 (h.sat _)

theorem closed_optGap : Q optGap := h.opt (closed_gap h)

theorem closed_identifier : Q identifier := h.rule _ (h.many1 (h.sat _))

theorem closed_basicPredict : Q basicPredict :=
  h.rule _ (h.alts ⟨h.rule _ (h.seq (closed_str h _) (closed_identifier h)),
    h.rule _ (h.seq (closed_str h _) (closed_identifier h)), h.rule _ (closed_identifier h)⟩)

theorem closed_basicPredicts : Q basicPredicts := h.rule _ (h.many1 (closed_basicPredict h))

theorem closed_quoted (name : Rule) (q : Char) : Q (quoted name q) :=
  h.rule _ (h.seqs ⟨h.lit _, h.many (h.seq (h.notAhead (h.lit _)) (h.sat _)), h.lit _⟩)

theorem closed_textStop : Q textStop := by
  refine h.alts ?_
  simp only [List.Forall]
  and_intros <;> exact closed_str h _

theorem closed_value : Q value :=
  h.rule _ (h.alts ⟨closed_quoted h _ _, closed_quoted h _ _, closed_quoted h _ _,
    h.rule _ (h.many1 (h.seq (h.notAhead (closed_textStop h)) (h.sat _)))⟩)

theorem closed_attrOp : Q attrOp := by
  refine h.rule _ (h.alts ?_)
  simp only [List.Forall]
  and_intros <;> exact closed_str h _

theorem closed_attrElementaryExpr : Q attrElementaryExpr :=
  h.rule _ (h.seqs ⟨closed_identifier h, closed_optGap h, closed_attrOp h, closed_optGap h,
    closed_value h⟩)

theorem closed_joins {basic : Peg} (hbasic : Q basic) :
    Q (rule .attrOrExpr (seq (rule .attrAndExpr
      (seq basic (many (seqs [optGap, str "&&", optGap, basic]))))
      (many (seqs [optGap, str "||", optGap, rule .attrAndExpr
        (seq basic (many (seqs [optGap, str "&&", optGap, basic])))])))) := by
  have hsep : ∀ (sep : String) {item : Peg}, Q item → Q (seqs [optGap, str sep, optGap, item]) :=
    fun _ _ hitem => h.seqs ⟨closed_optGap h, closed_str h _, closed_optGap h, hitem⟩
  have hconj := h.rule .attrAndExpr (h.seq hbasic (h.many (hsep "&&" hbasic)))
  exact h.rule _ (h.seq hconj (h.many (hsep "||" hconj)))

theorem closed_attrExpr (d : Nat) : Q (attrExpr d) := by
  induction d with
  | zero => exact h.fail
  | succ d ih =>
    simp only [attrExpr]
    have hgroup : Q (rule .attrGroupExpr (seqs [str "(", optGap, attrExpr d, optGap, str ")"])) :=
      h.rule _ (h.seqs ⟨closed_str h _, closed_optGap h, ih, closed_optGap h, closed_str h _⟩)
    exact h.rule _ (closed_joins h (h.rule _ (h.alt hgroup (closed_attrElementaryExpr h))))

theorem closed_attrPredict (d : Nat) : Q (attrPredict d) :=
  h.rule _ (h.seqs ⟨closed_str h _, closed_optGap h, h.opt (closed_attrExpr h d), closed_optGap h,
    closed_str h _⟩)

theorem closed_predict (d : Nat) : Q (predict d) :=
  h.rule _ (h.alt (h.rule _ (h.seq (closed_basicPredicts h) (h.opt (closed_attrPredict h d))))
    (closed_attrPredict h d))

theorem closed_expr (d : Nat) : Q (expr d) := by
  induction d with
  | zero => exact h.fail
  | succ d ih =>
    simp only [expr]
    have hgroup : Q (rule .groupExpr (seqs [str "(", optGap, expr d, optGap, str ")"])) :=
      h.rule _ (h.seqs ⟨closed_str h _, closed_optGap h, ih, closed_optGap h, closed_str h _⟩)
    have hmarker : Q (alts [rule .star (str "*"), rule .plus (str "+"), rule .option (str "?")]) :=
      h.alts ⟨h.rule _ (closed_str h _), h.rule _ (closed_str h _), h.rule _ (closed_str h _)⟩
    have hbasic := h.rule .basicExpr
      (h.seq (h.rule .elementaryExpr (h.alt hgroup (closed_predict h (d + 1)))) (h.opt hmarker))
    have hconcat := h.rule .concatExpr (h.seq hbasic (h.many (h.seq (closed_gap h) hbasic)))
    exact h.rule _ (h.rule _ (h.seq hconcat
      (h.many (h.seqs ⟨closed_optGap h, closed_str h _, closed_optGap h, hconcat⟩))))

end Grammar

namespace Peg

/-- Every success reads the characters between its two cursors. -/
def ReadsText (a : Peg) : Prop := ∀ c ns c', a.Yields c ns c' → ∃ w, c.Reads w c'

theorem closed_readsText : Closed ReadsText where
  empty := fun _ _ _ h => by
    obtain ⟨-, rfl⟩ := yields_empty h
    exact ⟨[], .nil _⟩
  fail := fun _ _ _ h => absurd h not_yields_fail
  sat _ := fun _ _ _ h => by
    obtain ⟨-, x, -, hx⟩ := yields_sat h
    exact ⟨[x], hx⟩
  lit xs := fun _ _ _ h => ⟨xs, (yields_lit xs h).2⟩
  seq ha hb := fun _ _ _ h => by
    obtain ⟨_, _, _, h₁, h₂, -⟩ := yields_seq h
    obtain ⟨w₁, hw₁⟩ := ha _ _ _ h₁
    obtain ⟨w₂, hw₂⟩ := hb _ _ _ h₂
    exact ⟨w₁ ++ w₂, hw₁.trans hw₂⟩
  alt ha hb := fun _ _ _ h => (yields_alt h).elim (ha _ _ _) (hb _ _ _)
  notAhead _ := fun _ _ _ h => by
    obtain ⟨-, rfl⟩ := yields_notAhead h
    exact ⟨[], .nil _⟩
  many ha := fun _ _ _ h => by
    refine Yields.many_induction (fun c _ c' => ∃ w, c.Reads w c') (fun c => ⟨[], .nil c⟩) ?_ h
    rintro c ns c₁ ms c' h₁ ⟨w₂, hw₂⟩
    obtain ⟨w₁, hw₁⟩ := ha _ _ _ h₁
    exact ⟨w₁ ++ w₂, hw₁.trans hw₂⟩
  rule _ _ ha := fun _ _ _ h => by
    obtain ⟨ms, hms, -⟩ := yields_rule h
    exact ha _ _ _ hms

end Peg

end TreeSelect.Selector
