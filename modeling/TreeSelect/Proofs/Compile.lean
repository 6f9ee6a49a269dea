import Mathlib
import TreeSelect.Proofs.ParseTree
import TreeSelect.Proofs.Denotation
import TreeSelect.Proofs.Thompson
import TreeSelect.Proofs.Merge

namespace TreeSelect

open Selector SyntaxNode Computability

namespace Selector.SyntaxNode

variable {input : String}

theorem simplifyAll_eq_map (cs : List SyntaxNode) : simplifyAll cs = cs.map simplify := by
  induction cs with
  | nil => rfl
  | cons c cs ih => rw [simplifyAll, ih, List.map_cons]

theorem span_simplify : ∀ t : SyntaxNode, t.simplify.start = t.start ∧ t.simplify.len = t.len
  | ⟨r, s, l, [c]⟩ => by
    rw [simplify]
    split
    · rename_i h
      rw [(span_simplify c).1, (span_simplify c).2]
      exact h
    · exact ⟨rfl, rfl⟩
  | ⟨_, _, _, []⟩ => ⟨rfl, rfl⟩
  | ⟨_, _, _, _ :: _ :: _⟩ => by simp [simplify]

@[simp] theorem text_simplify (t : SyntaxNode) : t.simplify.text input = t.text input := by
  rw [text, text, (span_simplify t).1, (span_simplify t).2]

variable {r : Rule} {s l : Nat} {c : SyntaxNode} {cs : List SyntaxNode}

theorem simplify_wrap (hs : c.start = s) (hl : c.len = l) :
    simplify ⟨r, s, l, [c]⟩ = simplify c := by
  rw [simplify, if_pos ⟨hs, hl⟩]

theorem simplify_of_start_ne (h : c.start ≠ s) :
    simplify ⟨r, s, l, [c]⟩ = ⟨r, s, l, [simplify c]⟩ := by
  rw [simplify, if_neg fun h' => h h'.1]

@[simp] theorem simplify_leaf : simplify ⟨r, s, l, []⟩ = ⟨r, s, l, []⟩ := by
  simp [simplify, simplifyAll]

theorem simplify_list (r : Rule) (h : LoneChildSpans cs s l) :
    (∃ c, cs = [c] ∧ simplify ⟨r, s, l, cs⟩ = simplify c) ∨
      ((∀ c, cs ≠ [c]) ∧ simplify ⟨r, s, l, cs⟩ = ⟨r, s, l, cs.map simplify⟩) := by
  by_cases hone : ∃ c, cs = [c]
  · obtain ⟨c, rfl⟩ := hone
    obtain ⟨hs, hl⟩ := h c rfl
    exact .inl ⟨c, rfl, simplify_wrap hs hl⟩
  · simp only [not_exists] at hone
    refine .inr ⟨hone, ?_⟩
    rw [simplify.eq_2 _ _ _ _ hone, simplifyAll_eq_map]

end Selector.SyntaxNode

theorem mapM_map_eq_ok {α β γ ε : Type} {f : α → Except ε β} {g : γ → α} {R : β → γ → Prop} :
    ∀ {cs : List γ}, (∀ c ∈ cs, ∃ b, f (g c) = .ok b ∧ R b c) →
      ∃ bs, (cs.map g).mapM f = .ok bs ∧ List.Forall₂ R bs cs
  | [], _ => ⟨[], rfl, .nil⟩
  | c :: cs, h => by
    obtain ⟨b, hb, hR⟩ := h c List.mem_cons_self
    have hrest : ∃ bs, (cs.map g).mapM f = .ok bs ∧ List.Forall₂ R bs cs :=
      mapM_map_eq_ok fun c' hc' => h c' (List.mem_cons_of_mem c hc')
    obtain ⟨bs, hbs, hRs⟩ := hrest
    refine ⟨b :: bs, ?_, .cons hR hRs⟩
    rw [List.map_cons, List.mapM_cons, hb, hbs]
    rfl

namespace Ast

theorem ofSyntaxAll_eq_mapM (input : String) (ns : List SyntaxNode) :
    ofSyntaxAll input ns = ns.mapM (ofSyntax input) := by
  induction ns with
  | nil => rfl
  | cons n ns ih => simp [ofSyntaxAll, List.mapM_cons, ih]

theorem ofSyntax_of_isPredictRule {input : String} {n : SyntaxNode}
    (h : isPredictRule n.rule = true) : ofSyntax input n = pred <$> Predicate.ofSyntax input n := by
  obtain ⟨r, s, l, subs⟩ := n
  simp only [isPredictRule, Bool.or_eq_true, decide_eq_true_eq] at h
  rcases h with (((((rfl | rfl) | rfl) | rfl) | rfl) | rfl) | rfl <;> simp [ofSyntax, isPredictRule]

variable {a b : Ast} {w : List Element}

theorem mem_lang_pred {p : Predicate} : w ∈ (pred p).lang ↔ ∃ e, w = [e] ∧ p.test e = true :=
  Iff.rfl

theorem mem_lang_or : w ∈ (or a b).lang ↔ w ∈ a.lang ∨ w ∈ b.lang := Language.mem_add _ _ _

theorem mem_lang_concat : w ∈ (concat a b).lang ↔ ∃ u v, w = u ++ v ∧ u ∈ a.lang ∧ v ∈ b.lang := by
  rw [lang, Language.mem_mul]
  constructor
  · rintro ⟨u, hu, v, hv, rfl⟩
    exact ⟨u, v, rfl, hu, hv⟩
  · rintro ⟨u, v, rfl, hu, hv⟩
    exact ⟨u, hu, v, hv, rfl⟩

theorem mem_lang_star :
    w ∈ (star a).lang ↔ ∃ ws : List (List Element), w = ws.flatten ∧ ∀ u ∈ ws, u ∈ a.lang :=
  Language.mem_kstar

theorem mem_lang_plus :
    w ∈ (plus a).lang ↔
      ∃ ws : List (List Element), ws ≠ [] ∧ w = ws.flatten ∧ ∀ u ∈ ws, u ∈ a.lang := by
  rw [lang, Language.mem_mul]
  constructor
  · rintro ⟨u, hu, v, hv, rfl⟩
    obtain ⟨vs, rfl, hvs⟩ := Language.mem_kstar.mp hv
    refine ⟨u :: vs, List.cons_ne_nil u vs, by simp, ?_⟩
    intro x hx
    rcases List.mem_cons.mp hx with rfl | hx
    · exact hu
    · exact hvs x hx
  · rintro ⟨ws, hne, rfl, hws⟩
    obtain ⟨u, vs, rfl⟩ := List.exists_cons_of_ne_nil hne
    refine ⟨u, hws u List.mem_cons_self, vs.flatten, ?_, by simp⟩
    exact Language.mem_kstar.mpr ⟨vs, rfl, fun x hx => hws x (List.mem_cons_of_mem u hx)⟩

theorem mem_lang_option : w ∈ (option a).lang ↔ w = [] ∨ w ∈ a.lang := by
  rw [lang, Language.mem_add, Language.mem_one]

variable {input : String} {as : List Ast} {cs : List SyntaxNode}

theorem mem_foldl_or (h : List.Forall₂ (fun a c => ∀ w, w ∈ a.lang ↔ c.Matches input w) as cs)
    (a : Ast) : w ∈ (as.foldl or a).lang ↔ w ∈ a.lang ∨ MatchesSome input cs w := by
  induction h generalizing a with
  | nil => simp [MatchesSome]
  | cons hb _ ih => rw [List.foldl_cons, ih, mem_lang_or, hb, MatchesSome, or_assoc]

theorem mem_foldl_concat (h : List.Forall₂ (fun a c => ∀ w, w ∈ a.lang ↔ c.Matches input w) as cs)
    (a : Ast) :
    w ∈ (as.foldl concat a).lang ↔ ∃ u v, w = u ++ v ∧ u ∈ a.lang ∧ MatchesSeq input cs v := by
  induction h generalizing a w with
  | nil => simp [MatchesSeq]
  | cons hb _ ih =>
    rw [List.foldl_cons, ih]
    constructor
    · rintro ⟨u, v, rfl, hu, hv⟩
      obtain ⟨u₁, u₂, rfl, hu₁, hu₂⟩ := mem_lang_concat.mp hu
      exact ⟨u₁, u₂ ++ v, by simp, hu₁, u₂, v, rfl, (hb u₂).mp hu₂, hv⟩
    · rintro ⟨u, v, rfl, hu, v₁, v₂, rfl, hv₁, hv₂⟩
      exact ⟨u ++ v₁, v₂, by simp, mem_lang_concat.mpr ⟨u, v₁, rfl, hu, (hb v₁).mpr hv₁⟩, hv₂⟩

end Ast

namespace Predicate

theorem ofSyntaxAll_eq_mapM (input : String) (ns : List SyntaxNode) :
    ofSyntaxAll input ns = ns.mapM (ofSyntax input) := by
  induction ns with
  | nil => rfl
  | cons n ns ih => simp [ofSyntaxAll, List.mapM_cons, ih]

theorem ofAttrExprs_eq_mapM (input : String) (ns : List SyntaxNode) :
    ofAttrExprs input ns = ns.mapM (ofAttrExpr input) := by
  induction ns with
  | nil => rfl
  | cons n ns ih => simp [ofAttrExprs, List.mapM_cons, ih]

variable {input : String} {e : Element} {ps : List Predicate} {cs : List SyntaxNode}

theorem test_foldl_and (h : List.Forall₂ (fun p c => ∀ e, p.test e = true ↔ c.Holds input e) ps cs)
    (p : Predicate) : (ps.foldl and p).test e = true ↔ p.test e = true ∧ HoldsAll input cs e := by
  induction h generalizing p with
  | nil => simp [HoldsAll]
  | cons hq _ ih => rw [List.foldl_cons, ih, test_and, Bool.and_eq_true, hq, HoldsAll, and_assoc]

theorem test_foldl_or (h : List.Forall₂ (fun p c => ∀ e, p.test e = true ↔ c.Holds input e) ps cs)
    (p : Predicate) : (ps.foldl or p).test e = true ↔ p.test e = true ∨ HoldsSome input cs e := by
  induction h generalizing p with
  | nil => simp [HoldsSome]
  | cons hq _ ih => rw [List.foldl_cons, ih, test_or, Bool.or_eq_true, hq, HoldsSome, or_assoc]

end Predicate

namespace Selector.SyntaxNode

/-- What compiling a simplified tree of kind `k` gives: an AST that matches the paths the tree
matches; a predicate that lets through the elements the tree lets through (for a predict, also a
node that the AST builder takes for a predict); or the literal the value stands for. -/
def Compiles (input : String) : Kind → SyntaxNode → Prop
  | .selector, t => ∃ a, Ast.ofSyntax input t.simplify = .ok a ∧
      ∀ w, w ∈ a.lang ↔ t.Matches input w
  | .predict, t => Ast.isPredictRule t.simplify.rule = true ∧
      ∃ p, Predicate.ofSyntax input t.simplify = .ok p ∧ ∀ e, p.test e = true ↔ t.Holds input e
  | .condition, t =>
      ∃ p, Predicate.ofAttrExpr input t.simplify = .ok p ∧ ∀ e, p.test e = true ↔ t.Holds input e
  | .value, t => Predicate.literal input t.simplify = .ok (t.literalOf input)

variable {input : String} {r : Rule} {s l : Nat} {c : SyntaxNode} {cs : List SyntaxNode}

theorem Compiles.selectors (h : ∀ c ∈ cs, Compiles input .selector c) :
    ∃ as, Ast.ofSyntaxAll input (cs.map simplify) = .ok as ∧
      List.Forall₂ (fun a c => ∀ w, w ∈ a.lang ↔ c.Matches input w) as cs := by
  rw [Ast.ofSyntaxAll_eq_mapM]
  exact mapM_map_eq_ok h

theorem Compiles.predicts (h : ∀ c ∈ cs, Compiles input .predict c) :
    ∃ ps, Predicate.ofSyntaxAll input (cs.map simplify) = .ok ps ∧
      List.Forall₂ (fun p c => ∀ e, p.test e = true ↔ c.Holds input e) ps cs := by
  rw [Predicate.ofSyntaxAll_eq_mapM]
  exact mapM_map_eq_ok fun c hc => (h c hc).2

theorem Compiles.conditions (h : ∀ c ∈ cs, Compiles input .condition c) :
    ∃ ps, Predicate.ofAttrExprs input (cs.map simplify) = .ok ps ∧
      List.Forall₂ (fun p c => ∀ e, p.test e = true ↔ c.Holds input e) ps cs := by
  rw [Predicate.ofAttrExprs_eq_mapM]
  exact mapM_map_eq_ok h

theorem Compiles.selector_congr {t : SyntaxNode} (hsimp : simplify t = simplify c)
    (hm : ∀ w, Matches input t w ↔ Matches input c w) (h : Compiles input .selector c) :
    Compiles input .selector t := by
  obtain ⟨a, ha, hlang⟩ := h
  exact ⟨a, by rw [hsimp]; exact ha, fun w => (hlang w).trans (hm w).symm⟩

theorem Compiles.test_congr {k : Kind} {t : SyntaxNode} (hk : k = .predict ∨ k = .condition)
    (hsimp : simplify t = simplify c) (hholds : ∀ e, Holds input t e ↔ Holds input c e)
    (h : Compiles input k c) : Compiles input k t := by
  rcases hk with rfl | rfl
  · obtain ⟨hrule, p, hp, htest⟩ := h
    refine ⟨by rwa [hsimp], p, by rw [hsimp]; exact hp, ?_⟩
    exact fun e => (htest e).trans (hholds e).symm
  · obtain ⟨p, hp, htest⟩ := h
    exact ⟨p, by rw [hsimp]; exact hp, fun e => (htest e).trans (hholds e).symm⟩

theorem Compiles.conjunction (hr : r = .predictWithAttr ∨ r = .basicPredicts)
    (hone : LoneChildSpans cs s l) (h : ∀ c ∈ cs, Compiles input .predict c) :
    Compiles input .predict ⟨r, s, l, cs⟩ := by
  have hholds : ∀ e, Holds input ⟨r, s, l, cs⟩ e ↔ HoldsAll input cs e := by
    rcases hr with rfl | rfl <;> simp [Holds]
  rcases simplify_list r hone with ⟨c, rfl, hsimp⟩ | ⟨-, hsimp⟩
  · exact .test_congr (.inl rfl) hsimp (fun e => by simp [hholds, HoldsAll])
      (h c List.mem_cons_self)
  · obtain ⟨ps, hps, hR⟩ := Compiles.predicts h
    refine ⟨?_, ps.foldl .and .any, ?_, fun e => ?_⟩
    · rw [hsimp]
      rcases hr with rfl | rfl <;> rfl
    · rw [hsimp]
      rcases hr with rfl | rfl <;> simp [Predicate.ofSyntax, hps]
    · rw [Predicate.test_foldl_and hR, hholds]
      simp [Predicate.test]

theorem Parsed.compiles {k : Kind} {t : SyntaxNode} (h : Parsed input k t) :
    Compiles input k t := by
  induction h with
  | expr hs hl _ ih =>
    exact .selector_congr (simplify_wrap hs hl) (fun _ => by simp only [Matches, MatchesOnly]) ih
  | orExpr hne hone _ ih =>
    rcases simplify_list .orExpr hone with ⟨c, rfl, hsimp⟩ | ⟨-, hsimp⟩
    · exact .selector_congr hsimp (fun _ => by simp [Matches, MatchesSome])
        (ih c List.mem_cons_self)
    · obtain ⟨as, has, hR⟩ := Compiles.selectors ih
      obtain ⟨c, cs, rfl⟩ := List.exists_cons_of_ne_nil hne
      obtain _ | @⟨a, c, as, cs, ha, hR⟩ := hR
      refine ⟨as.foldl .or a, ?_, fun w => ?_⟩
      · rw [hsimp]
        simp only [Ast.ofSyntax]
        rw [has]
        rfl
      · rw [Ast.mem_foldl_or hR, ha]
        simp only [Matches, MatchesSome]
  | concatExpr hne hone _ ih =>
    rcases simplify_list .concatExpr hone with ⟨c, rfl, hsimp⟩ | ⟨-, hsimp⟩
    · exact .selector_congr hsimp (fun _ => by simp [Matches, MatchesSeq])
        (ih c List.mem_cons_self)
    · obtain ⟨as, has, hR⟩ := Compiles.selectors ih
      obtain ⟨c, cs, rfl⟩ := List.exists_cons_of_ne_nil hne
      obtain _ | @⟨a, c, as, cs, ha, hR⟩ := hR
      refine ⟨as.foldl .concat a, ?_, fun w => ?_⟩
      · rw [hsimp]
        simp only [Ast.ofSyntax]
        rw [has]
        rfl
      · rw [Ast.mem_foldl_concat hR]
        simp only [Matches, MatchesSeq, ha]
  | basicExpr hs hl _ ih =>
    exact .selector_congr (simplify_wrap hs hl)
      (fun _ => by simp only [Matches, MatchesQuantified]) ih
  | @quantified s l c m _ hsubs hm ih =>
    obtain ⟨a, ha, hlang⟩ := ih
    obtain ⟨mr, ms, ml, msubs⟩ := m
    obtain rfl : msubs = [] := hsubs
    have hsimp : simplify ⟨.basicExpr, s, l, [c, ⟨mr, ms, ml, []⟩]⟩ =
        ⟨.basicExpr, s, l, [c.simplify, ⟨mr, ms, ml, []⟩]⟩ := by
      simp [simplify, simplifyAll]
    rcases hm with rfl | rfl | rfl
    · refine ⟨.star a, by rw [hsimp]; simp [Ast.ofSyntax, ha], fun w => ?_⟩
      simp only [Ast.mem_lang_star, hlang, Matches, MatchesQuantified]
    · refine ⟨.plus a, by rw [hsimp]; simp [Ast.ofSyntax, ha], fun w => ?_⟩
      simp only [Ast.mem_lang_plus, hlang, Matches, MatchesQuantified]
    · refine ⟨.option a, by rw [hsimp]; simp [Ast.ofSyntax, ha], fun w => ?_⟩
      simp only [Ast.mem_lang_option, hlang, Matches, MatchesQuantified]
  | elementaryExpr hs hl _ ih =>
    exact .selector_congr (simplify_wrap hs hl) (fun _ => by simp only [Matches, MatchesOnly]) ih
  | groupExpr hne _ ih =>
    obtain ⟨a, ha, hlang⟩ := ih
    refine ⟨a, by rw [simplify_of_start_ne hne]; simpa [Ast.ofSyntax] using ha, fun w => ?_⟩
    simp only [hlang, Matches, MatchesOnly]
  | predict hs hl _ ih =>
    obtain ⟨hrule, p, hp, htest⟩ := ih
    refine ⟨.pred p, ?_, fun w => ?_⟩
    · rw [simplify_wrap hs hl, Ast.ofSyntax_of_isPredictRule hrule, hp]
      rfl
    · simp only [Ast.mem_lang_pred, htest, Matches, HoldsOnly]
  | predictWithAttr hone _ ih => exact Compiles.conjunction (.inl rfl) hone ih
  | basicPredicts hone _ ih => exact Compiles.conjunction (.inr rfl) hone ih
  | basicPredict hs hl _ ih =>
    exact .test_congr (.inl rfl) (simplify_wrap hs hl) (fun _ => by simp only [Holds, HoldsOnly]) ih
  | @idPredict s l is il hne =>
    have hsimp : simplify ⟨.idPredict, s, l, [⟨.identifier, is, il, []⟩]⟩ =
        ⟨.idPredict, s, l, [⟨.identifier, is, il, []⟩]⟩ := by
      rw [simplify_of_start_ne hne, simplify_leaf]
    refine ⟨by rw [hsimp]; rfl, .id (SyntaxNode.text ⟨.identifier, is, il, []⟩ input), ?_,
      fun e => ?_⟩
    · rw [hsimp]
      simp [Predicate.ofSyntax, Predicate.identifierOf]
    · simp [Predicate.test, Holds]
  | @classPredict s l is il hne =>
    have hsimp : simplify ⟨.classPredict, s, l, [⟨.identifier, is, il, []⟩]⟩ =
        ⟨.classPredict, s, l, [⟨.identifier, is, il, []⟩]⟩ := by
      rw [simplify_of_start_ne hne, simplify_leaf]
    refine ⟨by rw [hsimp]; rfl, .cls (SyntaxNode.text ⟨.identifier, is, il, []⟩ input), ?_,
      fun e => ?_⟩
    · rw [hsimp]
      simp [Predicate.ofSyntax, Predicate.identifierOf]
    · simp [Predicate.test, Holds, Element.hasClass]
  | @tagPredict s l =>
    have hsimp : simplify ⟨.tagPredict, s, l, [⟨.identifier, s, l, []⟩]⟩ =
        ⟨.identifier, s, l, []⟩ := by
      rw [simplify, if_pos ⟨rfl, rfl⟩, simplify_leaf]
    refine ⟨by rw [hsimp]; rfl, .tag (SyntaxNode.text ⟨.identifier, s, l, []⟩ input), ?_,
      fun e => ?_⟩
    · rw [hsimp]
      simp [Predicate.ofSyntax]
    · simp [Predicate.test, Holds]
  | emptyBlock =>
    refine ⟨by rw [simplify_leaf]; rfl, .any, by simp [Predicate.ofSyntax], fun e => ?_⟩
    simp [Predicate.test, Holds]
  | attrPredict hne _ ih =>
    obtain ⟨p, hp, htest⟩ := ih
    refine ⟨by rw [simplify_of_start_ne hne]; rfl, p, ?_, fun e => ?_⟩
    · rw [simplify_of_start_ne hne]
      simpa [Predicate.ofSyntax] using hp
    · simp [htest, Holds, HoldsOnly]
  | attrExpr hs hl _ ih =>
    exact .test_congr (.inr rfl) (simplify_wrap hs hl) (fun _ => by simp only [Holds, HoldsOnly]) ih
  | attrOrExpr hne hone _ ih =>
    rcases simplify_list .attrOrExpr hone with ⟨c, rfl, hsimp⟩ | ⟨-, hsimp⟩
    · exact .test_congr (.inr rfl) hsimp (fun _ => by simp [Holds, HoldsSome])
        (ih c List.mem_cons_self)
    · obtain ⟨ps, hps, hR⟩ := Compiles.conditions ih
      obtain ⟨c, cs, rfl⟩ := List.exists_cons_of_ne_nil hne
      obtain _ | @⟨p, c, ps, cs, hp, hR⟩ := hR
      refine ⟨ps.foldl .or p, ?_, fun e => ?_⟩
      · rw [hsimp]
        simp only [Predicate.ofAttrExpr]
        rw [hps]
        rfl
      · rw [Predicate.test_foldl_or hR, hp]
        simp only [Holds, HoldsSome]
  | attrAndExpr hne hone _ ih =>
    rcases simplify_list .attrAndExpr hone with ⟨c, rfl, hsimp⟩ | ⟨-, hsimp⟩
    · exact .test_congr (.inr rfl) hsimp (fun _ => by simp [Holds, HoldsAll])
        (ih c List.mem_cons_self)
    · obtain ⟨ps, hps, hR⟩ := Compiles.conditions ih
      obtain ⟨c, cs, rfl⟩ := List.exists_cons_of_ne_nil hne
      obtain _ | @⟨p, c, ps, cs, hp, hR⟩ := hR
      refine ⟨ps.foldl .and p, ?_, fun e => ?_⟩
      · rw [hsimp]
        simp only [Predicate.ofAttrExpr]
        rw [hps]
        rfl
      · rw [Predicate.test_foldl_and hR, hp]
        simp only [Holds, HoldsAll]
  | attrBasicExpr hs hl _ ih =>
    exact .test_congr (.inr rfl) (simplify_wrap hs hl) (fun _ => by simp only [Holds, HoldsOnly]) ih
  | attrGroupExpr hne _ ih =>
    obtain ⟨p, hp, htest⟩ := ih
    refine ⟨p, ?_, fun e => ?_⟩
    · rw [simplify_of_start_ne hne]
      simpa [Predicate.ofAttrExpr] using hp
    · simp [htest, Holds, HoldsOnly]
  | @comparison s l name op v hop _ ih =>
    have hsimp : simplify ⟨.attrElementaryExpr, s, l, [name, op, v]⟩ =
        ⟨.attrElementaryExpr, s, l, [name.simplify, op.simplify, v.simplify]⟩ := by
      simp [simplify, simplifyAll]
    have hholds : ∀ e, Holds input ⟨.attrElementaryExpr, s, l, [name, op, v]⟩ e ↔
        Compares (op.text input) ((e.attr? (name.text input)).getD "") (literalOf input v) := by
      simp [Holds]
    have hlit : Predicate.literal input v.simplify = .ok (literalOf input v) := ih
    rcases hop with hop | hop | hop
    · refine ⟨.attr (name.text input) .equals (literalOf input v), ?_, fun e => ?_⟩
      · rw [hsimp]
        simp [Predicate.ofAttrExpr, hlit, hop]
      · simp [hholds, Compares, hop, Predicate.test, AttrOp.apply]
    · refine ⟨.not (.attr (name.text input) .equals (literalOf input v)), ?_, fun e => ?_⟩
      · rw [hsimp]
        simp [Predicate.ofAttrExpr, hlit, hop]
      · simp [hholds, Compares, hop, Predicate.test, AttrOp.apply]
    · refine ⟨.attr (name.text input) .includes (literalOf input v), ?_, fun e => ?_⟩
      · rw [hsimp]
        simp [Predicate.ofAttrExpr, hlit, hop]
      · simp [hholds, Compares, hop, Predicate.test, AttrOp.apply]
  | value hs hl _ ih =>
    simp only [Compiles, simplify_wrap hs hl, literalOf, literalOnly]
    exact ih
  | @quoted r s l hr hquote =>
    obtain ⟨q, mid, hq, hspan⟩ := hquote
    have htext : SyntaxNode.text ⟨r, s, l, []⟩ input = String.ofList (q :: mid ++ [q]) :=
      hspan.text_eq
    have hunquote : Predicate.unquote input ⟨r, s, l, []⟩ = String.ofList mid :=
      (hspan.inner hq).slice
    simp only [Compiles, simplify_leaf]
    cases r <;> simp [Rule.isQuoted] at hr <;>
      simp [Predicate.literal, Rule.isQuoted, hunquote, literalOf, htext, stripEnds]
  | text => simp [Compiles, Predicate.literal, literalOf, Rule.isQuoted]

end Selector.SyntaxNode

namespace Ast

/-- Every selector that reads into a tree compiles: building the AST of the simplified tree
succeeds, and the AST matches exactly the paths the tree before simplification denotes; and
every slice the compiler takes of the selector text lies in it and falls between characters, the
text between the quotes of a quoted value included. -/
theorem ofSyntax_simplify_of_parseRaw {s : String} {t : SyntaxNode} (h : parseRaw s = .ok t) :
    (∃ a, ofSyntax s t.simplify = .ok a ∧ a.lang = t.lang s) ∧ t.Every (SlicesFit s) := by
  obtain ⟨hparsed, hfit⟩ := parsed_of_parseRaw h
  obtain ⟨a, ha, hlang⟩ := hparsed.compiles
  exact ⟨⟨a, ha, Language.ext hlang⟩, hfit⟩

set_option maxRecDepth 4000 in
theorem compound_selector_compiles :
    ∃ t, parseRaw "div#x.y[lang='en' && rel~=a] (p|q)* [id!=z || k=v]?" = .ok t ∧
      (∃ a, ofSyntax "div#x.y[lang='en' && rel~=a] (p|q)* [id!=z || k=v]?" t.simplify = .ok a ∧
        a.lang = t.lang "div#x.y[lang='en' && rel~=a] (p|q)* [id!=z || k=v]?") ∧
      t.Every (SlicesFit "div#x.y[lang='en' && rel~=a] (p|q)* [id!=z || k=v]?") := by
  obtain ⟨t, ht⟩ : ∃ t, parseRaw "div#x.y[lang='en' && rel~=a] (p|q)* [id!=z || k=v]?" = .ok t :=
    ⟨_, by cbv⟩
  exact ⟨t, ht, ofSyntax_simplify_of_parseRaw ht⟩

end Ast

end TreeSelect
