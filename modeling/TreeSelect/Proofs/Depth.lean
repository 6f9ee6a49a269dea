import TreeSelect.Proofs.Closure

namespace TreeSelect.Selector

open Peg

namespace Peg

/-- The expressions give the same outcome from every cursor with fewer than `n` characters left,
and the first one only reads forward. -/
def AgreeBelow (n : Nat) (a a' : Peg) : Prop :=
  ReadsText a ∧ ∀ c r, c.rest.length < n → a c r = a' c r

namespace AgreeBelow

variable {n : Nat} {a a' b b' : Peg}

theorem refl (h : ReadsText a) : AgreeBelow n a a := ⟨h, fun _ _ _ => rfl⟩

theorem seq (ha : AgreeBelow n a a') (hb : AgreeBelow n b b') :
    AgreeBelow n (Peg.seq a b) (Peg.seq a' b') := by
  refine ⟨closed_readsText.seq ha.1 hb.1, fun c r hc => ?_⟩
  simp only [Peg.seq]
  rw [ha.2 c r hc]
  split
  · rename_i r₁ ns c₁ heq
    obtain ⟨w, hw, -⟩ := ha.1 c ns c₁ ⟨r, by rw [ha.2 c r hc, heq]⟩
    have hlt : c₁.rest.length < n := by
      rw [hw, List.length_append] at hc
      omega
    rw [hb.2 c₁ r₁ hlt]
  · rfl

theorem alt (ha : AgreeBelow n a a') (hb : AgreeBelow n b b') :
    AgreeBelow n (Peg.alt a b) (Peg.alt a' b') := by
  refine ⟨closed_readsText.alt ha.1 hb.1, fun c r hc => ?_⟩
  simp only [Peg.alt]
  rw [ha.2 c r hc]
  split
  · rfl
  · rename_i r₁ _
    exact hb.2 c r₁ hc

theorem opt (ha : AgreeBelow n a a') : AgreeBelow n (Peg.opt a) (Peg.opt a') :=
  ha.alt (refl closed_readsText.empty)

theorem many (ha : AgreeBelow n a a') : AgreeBelow n (Peg.many a) (Peg.many a') := by
  refine ⟨closed_readsText.many ha.1, fun c r hc => ?_⟩
  induction hlen : c.rest.length using Nat.strongRecOn generalizing c r with
  | _ k ih =>
    rw [Peg.many, Peg.many, ha.2 c r hc]
    split
    · rename_i r₁ ns c₁ heq
      split
      · rename_i hlt
        rw [ih c₁.rest.length (hlen ▸ hlt) c₁ r₁ (by omega) rfl]
      · rfl
    · rfl

theorem rule (name : Rule) (ha : AgreeBelow n a a') :
    AgreeBelow n (Peg.rule name a) (Peg.rule name a') := by
  refine ⟨closed_readsText.rule name ha.1, fun c r hc => ?_⟩
  simp only [Peg.rule]
  rw [ha.2 c r hc]

theorem lit_seq {xs : List Char} (hxs : xs ≠ []) (hb : AgreeBelow n b b') :
    AgreeBelow (n + 1) (Peg.seq (lit xs) b) (Peg.seq (lit xs) b') := by
  refine ⟨closed_readsText.seq (closed_readsText.lit xs) hb.1, fun c r hc => ?_⟩
  simp only [Peg.seq]
  split
  · rename_i r₁ ns c₁ heq
    obtain ⟨-, hread⟩ := yields_lit xs ⟨r, by rw [heq]⟩
    have hlt : c₁.rest.length < n := by
      have hpos := List.length_pos_iff.mpr hxs
      rw [hread.1, List.length_append] at hc
      omega
    rw [hb.2 c₁ r₁ hlt]
  · rfl

end AgreeBelow

end Peg

namespace Grammar

open AgreeBelow

variable {n : Nat} {X X' : Peg}

theorem readsText_optGap : ReadsText optGap := closed_optGap closed_readsText

theorem readsText_str (s : String) : ReadsText (str s) := closed_str closed_readsText s

theorem agreeBelow_bracketed (o e : String) (ho : o.toList ≠ []) (h : AgreeBelow n X X') :
    AgreeBelow (n + 1) (seqs [str o, optGap, X, optGap, str e])
      (seqs [str o, optGap, X', optGap, str e]) :=
  lit_seq ho ((refl readsText_optGap).seq (h.seq ((refl readsText_optGap).seq
    (refl (readsText_str e)))))

theorem agreeBelow_separated (sep : String) (h : AgreeBelow n X X') :
    AgreeBelow n (seq X (many (seqs [optGap, str sep, optGap, X])))
      (seq X' (many (seqs [optGap, str sep, optGap, X']))) :=
  h.seq (AgreeBelow.many ((refl readsText_optGap).seq ((refl (readsText_str sep)).seq
    ((refl readsText_optGap).seq h))))

theorem agreeBelow_attrExpr : ∀ n d d', n ≤ d → n ≤ d' → AgreeBelow n (attrExpr d) (attrExpr d')
  | 0, d, _, _, _ => ⟨closed_attrExpr closed_readsText d, fun _ _ h => absurd h (Nat.not_lt_zero _)⟩
  | _ + 1, 0, _, hd, _ => absurd hd (by omega)
  | _ + 1, _, 0, _, hd' => absurd hd' (by omega)
  | n + 1, e + 1, e' + 1, hd, hd' => by
    have ih := agreeBelow_attrExpr n e e' (by omega) (by omega)
    simp only [attrExpr]
    have hbasic := (AgreeBelow.rule .attrGroupExpr (agreeBelow_bracketed "(" ")" (by decide) ih)).alt
      (refl (closed_attrElementaryExpr closed_readsText))
    exact .rule _ (.rule _ (agreeBelow_separated "||" (.rule _ (agreeBelow_separated "&&"
      (.rule _ hbasic)))))

theorem agreeBelow_expr : ∀ n d d', n ≤ d → n ≤ d' → AgreeBelow n (expr d) (expr d')
  | 0, d, _, _, _ => ⟨closed_expr closed_readsText d, fun _ _ h => absurd h (Nat.not_lt_zero _)⟩
  | _ + 1, 0, _, hd, _ => absurd hd (by omega)
  | _ + 1, _, 0, _, hd' => absurd hd' (by omega)
  | n + 1, e + 1, e' + 1, hd, hd' => by
    have ih := agreeBelow_expr n e e' (by omega) (by omega)
    have hattr := agreeBelow_attrExpr n (e + 1) (e' + 1) (by omega) (by omega)
    have hblock := AgreeBelow.rule .attrPredict (agreeBelow_bracketed "[" "]" (by decide) hattr.opt)
    have hpredict : AgreeBelow (n + 1) (predict (e + 1)) (predict (e' + 1)) :=
      .rule _ ((AgreeBelow.rule .predictWithAttr ((refl (closed_basicPredicts closed_readsText)).seq
        hblock.opt)).alt hblock)
    have hmarker : ReadsText (alts [rule .star (str "*"), rule .plus (str "+"),
        rule .option (str "?")]) :=
      closed_readsText.alts ⟨closed_readsText.rule _ (readsText_str _),
        closed_readsText.rule _ (readsText_str _), closed_readsText.rule _ (readsText_str _)⟩
    have hbasic := AgreeBelow.rule .basicExpr ((AgreeBelow.rule .elementaryExpr
      ((AgreeBelow.rule .groupExpr (agreeBelow_bracketed "(" ")" (by decide) ih)).alt hpredict)).seq
      (refl hmarker).opt)
    simp only [expr]
    exact .rule _ (.rule _ (agreeBelow_separated "|" (.rule _ (hbasic.seq
      (AgreeBelow.many ((refl (closed_gap closed_readsText)).seq hbasic))))))

theorem expr_eq_of_rest_lt {c : Cursor} {d d' : Nat} (hd : c.rest.length < d)
    (hd' : c.rest.length < d') (r : Nat) : expr d c r = expr d' c r :=
  (agreeBelow_expr (c.rest.length + 1) d d' hd hd').2 c r (Nat.lt_succ_self _)

end Grammar

end TreeSelect.Selector
