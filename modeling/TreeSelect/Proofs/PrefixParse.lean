import TreeSelect.Proofs.Lookahead
import TreeSelect.Proofs.Spans
import TreeSelect.Proofs.Compile

namespace TreeSelect.Selector

open Text Peg

namespace Grammar

/-- The group of `expr (d + 1)`. -/
def group (d : Nat) : Peg := rule .groupExpr (seqs [str "(", optGap, expr d, optGap, str ")"])

/-- A group or a predict. -/
def elementary (d : Nat) : Peg := rule .elementaryExpr (alt (group d) (predict (d + 1)))

def marker : Peg := alts [rule .star (str "*"), rule .plus (str "+"), rule .option (str "?")]

/-- An operand of a concatenation: a group or a predict, and an optional marker. -/
def operand (d : Nat) : Peg := rule .basicExpr (seq (elementary d) (opt marker))

def concat (d : Nat) : Peg := rule .concatExpr (seq (operand d) (many (seq gap (operand d))))

theorem expr_succ (d : Nat) :
    expr (d + 1) = rule .expr
      (rule .orExpr (seq (concat d) (many (seqs [optGap, str "|", optGap, concat d])))) :=
  rfl

/-- The characters that start an operand or continue the last one, besides identifiers. -/
def operandChars : List Char := ['#', '.', '[', '*', '+', '?', '(']

/-- What may follow a predict: no further part of it. -/
def EndsPredict : List Char → Prop := StartsOutside ['#', '.', '[']

/-- What may follow an operand: no further part of it and no marker. -/
def EndsOperand : List Char → Prop := StartsOutside ['#', '.', '[', '*', '+', '?']

/-- What may follow a concatenation: after optional blanks, no operand. -/
def EndsConcat : List Char → Prop :=
  AfterBlanks fun x _ => x ∉ operandChars ∧ isIdentChar x = false

/-- What may follow a selector: after optional blanks, no operand and no `|`. -/
def EndsSelector : List Char → Prop :=
  AfterBlanks fun x _ => x ∉ '|' :: operandChars ∧ isIdentChar x = false

theorem not_mem_of_isBlank {b : Char} {cs : List Char} (hcs : ∀ c ∈ cs, isBlank c = false)
    (hb : isBlank b = true) : b ∉ cs := fun hmem => by
  rw [hcs b hmem] at hb
  cases hb

theorem startsIn_predict (d : Nat) :
    StartsIn (predict d) (fun x => x ∈ ['#', '.', '['] ∨ isIdentChar x = true) := by
  have hwith := (startsIn_basicPredicts.seq_left (closed_readsText.opt
    (closed_attrPredict closed_readsText d))).rule .predictWithAttr
  refine .rule _ ((hwith.mono ?_).alt ((startsIn_attrPredict d).mono ?_))
  · rintro x (rfl | rfl | h)
    · simp
    · simp
    · exact .inr h
  · rintro x rfl
    simp

theorem keeps_predict (d : Nat) : Keeps EndsPredict (predict d) := by
  have hopt : Keeps EndsPredict (opt (attrPredict d)) := by
    refine ((keeps_attrPredict d).mono fun _ _ => trivial).opt
      (refutes_of_failsOn (startsIn_attrPredict d).failsAtEnd (startsIn_attrPredict d).failsOn ?_)
    rintro u ⟨x, t, rfl, hx, -⟩
    exact ⟨x, t, rfl, fun h => hx (by simp [h])⟩
  have hleads : Leads (StartsOutside ['#', '.']) (opt (attrPredict d)) :=
    (Leads.of_startsIn (startsIn_attrPredict d) (by
      rintro x t rfl
      exact ⟨'[', t, rfl, by decide, by decide⟩)).alt leads_empty
  have hwith : Keeps EndsPredict (rule .predictWithAttr (seq basicPredicts (opt (attrPredict d)))) :=
    .rule _ (keeps_basicPredicts.seq hopt
      (.of_leads (extends_startsOutside _) hleads fun _ hu => StartsOutside.mono (by simp) hu))
  refine .rule _ (Keeps.alt_of_startsIn hwith ((keeps_attrPredict d).mono fun _ _ => trivial)
    ((startsIn_basicPredicts.seq_left (closed_readsText.opt
      (closed_attrPredict closed_readsText d))).rule .predictWithAttr).failsOn
    ((startsIn_attrPredict d).mono ?_))
  rintro x rfl
  decide

theorem startsIn_marker : StartsIn marker (· ∈ ['*', '+', '?']) :=
  ((startsIn_lit '*' []).rule _ |>.mono fun _ h => by simp [h]).alt
    (((startsIn_lit '+' []).rule _ |>.mono fun _ h => by simp [h]).alt
      ((startsIn_lit '?' []).rule _ |>.mono fun _ h => by simp [h]))

theorem keeps_marker : Keeps (fun _ => True) marker := by
  refine Keeps.alt_of_startsIn ((keeps_lit _).rule _) (Keeps.alt_of_startsIn ((keeps_lit _).rule _)
    ((keeps_lit _).rule _) ((startsIn_lit '+' []).rule _).failsOn
    (((startsIn_lit '?' []).rule _).mono ?_)) ((startsIn_lit '*' []).rule _).failsOn
    ((((startsIn_lit '+' []).rule _).mono ?_).alt (((startsIn_lit '?' []).rule _).mono ?_))
  all_goals
    rintro x rfl
    decide

theorem startsIn_group (d : Nat) : StartsIn (group d) (· = '(') :=
  .rule _ ((startsIn_lit '(' []).seq_left (closed_readsText.seqs ⟨readsText_optGap,
    closed_expr closed_readsText d, readsText_optGap, readsText_str _⟩))

theorem startsIn_elementary (d : Nat) :
    StartsIn (elementary d) (fun x => x ∈ ['(', '#', '.', '['] ∨ isIdentChar x = true) := by
  refine .rule _ (((startsIn_group d).mono ?_).alt ((startsIn_predict (d + 1)).mono ?_))
  · rintro x rfl
    simp
  · rintro x (h | h)
    · exact .inl (List.mem_cons_of_mem _ h)
    · exact .inr h

theorem readsText_operand (d : Nat) : ReadsText (operand d) :=
  closed_readsText.rule _ (closed_readsText.seq (closed_readsText.rule _ (closed_readsText.alt
    (closed_readsText.rule _ (closed_readsText.seqs ⟨readsText_str _, readsText_optGap,
      closed_expr closed_readsText d, readsText_optGap, readsText_str _⟩))
    (closed_predict closed_readsText _))) (closed_readsText.opt keeps_marker.1))

theorem startsIn_operand (d : Nat) :
    StartsIn (operand d) (fun x => x ∈ ['(', '#', '.', '['] ∨ isIdentChar x = true) :=
  .rule _ ((startsIn_elementary d).seq_left (closed_readsText.opt keeps_marker.1))

theorem startsIn_concat (d : Nat) :
    StartsIn (concat d) (fun x => x ∈ ['(', '#', '.', '['] ∨ isIdentChar x = true) :=
  .rule _ ((startsIn_operand d).seq_left (closed_readsText.many
    (closed_readsText.seq readsText_gap (readsText_operand d))))

theorem startsIn_gap : StartsIn gap (isBlank · = true) := startsIn_many1_sat _

theorem refutes_concatRound (d : Nat) : Refutes EndsConcat (seq gap (operand d)) := by
  refine refutes_of_fails (startsIn_gap.seq_left (readsText_operand d)).failsAtEnd ?_
  rintro u v pos r ⟨bl, x, t, rfl, hbl, hx, hnot, hid⟩
  rw [List.append_assoc, List.cons_append]
  by_cases hne : bl = []
  · subst hne
    exact (startsIn_gap.seq_left (readsText_operand d)).failsOn x (t ++ v) pos r (by simp [hx])
  · rw [seq_eq_of_skip (gap_run hne hbl hx (t ++ v) pos r)]
    refine (startsIn_operand d).failsOn x (t ++ v) _ r ?_
    rintro (h | h)
    · exact hnot ((by simp [operandChars] : ['(', '#', '.', '['] ⊆ operandChars) h)
    · rw [hid] at h
      cases h

theorem endsOperand_of_endsConcat {u : List Char} (hu : EndsConcat u) : EndsOperand u := by
  have hblanks : ∀ c ∈ ['#', '.', '[', '*', '+', '?'], isBlank c = false := by simp [isBlank]
  have hsub : ['#', '.', '[', '*', '+', '?'] ⊆ operandChars := by simp [operandChars]
  exact AfterBlanks.startsOutside (fun x _ h => ⟨fun hm => h.1 (hsub hm), h.2⟩)
    (fun _ hb => not_mem_of_isBlank hblanks hb) hu

section Operands

variable {d : Nat} (hgroup : Keeps (fun _ => True) (group d))
include hgroup

theorem keeps_elementary : Keeps EndsPredict (elementary d) := by
  refine .rule _ (Keeps.alt_of_startsIn (hgroup.mono fun _ _ => trivial) (keeps_predict (d + 1))
    (startsIn_group d).failsOn ((startsIn_predict (d + 1)).mono ?_))
  rintro x (h | h) rfl
  · simp at h
  · exact absurd h (by decide)

theorem keeps_operand : Keeps EndsOperand (operand d) := by
  have hopt : Keeps EndsOperand (opt marker) := by
    refine (keeps_marker.mono fun _ _ => trivial).opt
      (refutes_of_failsOn startsIn_marker.failsAtEnd startsIn_marker.failsOn ?_)
    rintro u ⟨x, t, rfl, hx, -⟩
    exact ⟨x, t, rfl, fun h => hx ((by simp : ['*', '+', '?'] ⊆ ['#', '.', '[', '*', '+', '?']) h)⟩
  have hleads : Leads EndsPredict (opt marker) := by
    refine (Leads.of_startsIn startsIn_marker fun x t hx => ⟨x, t, rfl, ?_⟩).alt leads_empty
    simp only [List.mem_cons, List.not_mem_nil, or_false] at hx
    rcases hx with rfl | rfl | rfl <;> exact ⟨by simp, by decide⟩
  exact .rule _ ((keeps_elementary hgroup).seq hopt
    (.of_leads (extends_startsOutside _) hleads fun _ hu => StartsOutside.mono (by simp) hu))

theorem keeps_concat : Keeps EndsConcat (concat d) := by
  have hop := keeps_operand hgroup
  have hround : Keeps EndsOperand (seq gap (operand d)) :=
    keeps_gap.seq hop (.of_startsIn extends_ne_nil leads_ne_nil (startsIn_operand d))
  have hblanks : ∀ c ∈ ['#', '.', '[', '*', '+', '?'], isBlank c = false := by simp [isBlank]
  have hlead : Leads EndsOperand (seq gap (operand d)) :=
    Leads.of_startsIn (startsIn_gap.seq_left hop.1) fun x t hx =>
      ⟨x, t, rfl, not_mem_of_isBlank hblanks hx, isIdentChar_of_isBlank hx⟩
  have hext := extends_startsOutside ['#', '.', '[', '*', '+', '?']
  exact .rule _ (hop.seq (hround.many hext hlead (fun _ => endsOperand_of_endsConcat)
    (refutes_concatRound d))
    (.of_leads hext (Leads.many hext hlead hround.1) fun _ => endsOperand_of_endsConcat))

end Operands

theorem keeps_expr : ∀ d, Keeps EndsSelector (expr d)
  | 0 => keeps_fail
  | d + 1 => by
    have hgroup : Keeps (fun _ => True) (group d) :=
      (keeps_bracketed _ ')' (by decide) ((keeps_expr d).mono fun _ hu => AfterBlanks.mono
        (fun x _ hx => by subst hx; exact ⟨by simp [operandChars], by decide⟩) hu)).rule _
    have hconcat := keeps_concat hgroup
    rw [expr_succ]
    exact .rule _ (.rule _ (keeps_separated '|' [] hconcat (startsIn_concat d)
      (extends_afterBlanks fun _ _ _ h => h)
      (Leads.optGap_seq (Leads.lit_seq (fun v => ⟨[], '|', v, rfl, by simp, by decide, by simp [operandChars], by decide⟩)
        (closed_readsText.seq readsText_optGap hconcat.1)) (startsIn_separator '|' [] hconcat.1))
      (fun _ hu => AfterBlanks.mono (fun _ _ h => ⟨fun hm => h.1 (List.mem_cons_of_mem _ hm), h.2⟩)
        hu)
      (refutes_optGap_seq (startsIn_separator '|' [] hconcat.1) fun _ _ h hx => h.1 (by
        subst hx
        exact List.mem_cons_self))))

end Grammar

theorem tooDeepAt_eq_none_of_append {post : List Char} :
    ∀ {pre : List Char} {pos d : Nat} {quote : Option Char},
      tooDeepAt (pre ++ post) pos d quote = none → tooDeepAt pre pos d quote = none
  | [], _, _, _, _ => rfl
  | _ :: _, _, _, some _, h => by
    simp only [List.cons_append, tooDeepAt] at h ⊢
    exact tooDeepAt_eq_none_of_append h
  | x :: pre, pos, d, none, h => by
    simp only [List.cons_append, tooDeepAt] at h ⊢
    split_ifs at h ⊢ <;> exact tooDeepAt_eq_none_of_append h

theorem checkNesting_of_append {s : String} {pre post : List Char} (hs : s.toList = pre ++ post)
    (h : checkNesting s = .ok ()) : checkNesting (String.ofList pre) = .ok () := by
  unfold checkNesting at h ⊢
  rw [hs] at h
  rw [String.toList_ofList]
  split at h
  · cases h
  · rename_i hnone
    rw [tooDeepAt_eq_none_of_append hnone]

theorem parseRaw_eq_ok {s : String} {t : SyntaxNode} {c : Cursor}
    (hnest : checkNesting s = .ok ())
    (hexpr : (Grammar.expr (s.toList.length + 1) ⟨s.toList, 0⟩ 0).result = some ([t], c))
    (hc : c.rest = []) : parseRaw s = .ok t := by
  simp only [parseRaw, bind, Except.bind, hnest]
  rw [outcome_eq hexpr]
  simp [hc, pure, Except.pure]

theorem parseRaw_eq_unmatched {s : String} {ns : List SyntaxNode} {c : Cursor}
    (hnest : checkNesting s = .ok ())
    (hexpr : (Grammar.expr (s.toList.length + 1) ⟨s.toList, 0⟩ 0).result = some (ns, c))
    (hc : c.rest ≠ []) : parseRaw s = .error (syntaxErrorAt s c.pos) := by
  simp only [parseRaw, bind, Except.bind, hnest]
  rw [outcome_eq hexpr]
  simp [List.isEmpty_iff, hc]

/-- When the selector rule matches only a proper prefix of a selector that passes the nesting
check, the error reports the rest, and the prefix alone reads into the same tree and compiles. -/
theorem partial_match_prefix_compiles {s : String} {ns : List SyntaxNode} {post : List Char}
    {p : Nat} (hnest : checkNesting s = .ok ())
    (hexpr : (Grammar.expr (s.toList.length + 1) ⟨s.toList, 0⟩ 0).result = some (ns, ⟨post, p⟩))
    (hpost : post ≠ []) :
    ∃ pre t, s.toList = pre ++ post ∧ p = (String.ofList pre).utf8ByteSize ∧ ns = [t] ∧
      parseRaw s = .error (.unmatched p (String.ofList post)) ∧
      parseRaw (String.ofList pre) = .ok t ∧
      ∃ prog, Program.compile (String.ofList pre) = .ok prog := by
  obtain ⟨pre, hsplit, hc⟩ := success_split (Grammar.closed_expr closed_readsText _) hexpr
  dsimp only at hsplit
  simp only [Cursor.mk.injEq, true_and, Nat.zero_add] at hc
  have hwhole : (Grammar.expr (s.toList.length + 1) ⟨pre ++ post, 0⟩ 0).result =
      some (ns, ⟨post, 0 + byteSize pre⟩) := by
    rw [← hsplit, Nat.zero_add, ← hc]
    exact hexpr
  have hlen : pre.length < s.toList.length + 1 := by
    rw [hsplit, List.length_append]
    omega
  have hkeep := (Grammar.keeps_expr (s.toList.length + 1)).2 pre post [] 0 0 0 ns (.inl rfl) hwhole
  rw [List.append_nil, Grammar.expr_eq_of_rest_lt hlen
    (show pre.length < pre.length + 1 from Nat.lt_succ_self _)] at hkeep
  have hy : (Grammar.expr (pre.length + 1)).Yields ⟨pre, 0⟩ ns ⟨[], 0 + byteSize pre⟩ := ⟨0, hkeep⟩
  rw [Grammar.expr_succ] at hy
  obtain ⟨ms, -, rfl⟩ := yields_rule hy
  have hparse : parseRaw (String.ofList pre) = .ok ⟨.expr, 0, 0 + byteSize pre - 0, ms⟩ :=
    parseRaw_eq_ok (checkNesting_of_append hsplit hnest) (by rw [String.toList_ofList]; exact hkeep)
      rfl
  obtain ⟨a, ha, -⟩ := (parsed_of_parseRaw hparse).1.compiles
  refine ⟨pre, _, hsplit, by rw [hc, byteSize_ofList], rfl, ?_, hparse, Program.generate a, ?_⟩
  · rw [parseRaw_eq_unmatched hnest hexpr hpost, hc]
    exact congrArg Except.error (syntaxErrorAt_of_split hsplit)
  · simp only [Program.compile, parse, hparse, Functor.map, Except.map, bind, Except.bind, ha,
      pure, Except.pure]

set_option maxRecDepth 4000 in
theorem trailing_parenthesis_after_selector :
    ∃ ns, checkNesting "a[x=v] )" = .ok () ∧
      (Grammar.expr ("a[x=v] )".toList.length + 1) ⟨"a[x=v] )".toList, 0⟩ 0).result =
        some (ns, ⟨[' ', ')'], 6⟩) ∧
      ∃ pre t, "a[x=v] )".toList = pre ++ [' ', ')'] ∧ 6 = (String.ofList pre).utf8ByteSize ∧
        ns = [t] ∧ parseRaw "a[x=v] )" = .error (.unmatched 6 (String.ofList [' ', ')'])) ∧
        parseRaw (String.ofList pre) = .ok t ∧
        ∃ prog, Program.compile (String.ofList pre) = .ok prog := by
  obtain ⟨ns, hexpr⟩ : ∃ ns, (Grammar.expr ("a[x=v] )".toList.length + 1)
      ⟨"a[x=v] )".toList, 0⟩ 0).result = some (ns, ⟨[' ', ')'], 6⟩) := ⟨_, by cbv⟩
  have hnest : checkNesting "a[x=v] )" = .ok () := by cbv
  exact ⟨ns, hnest, hexpr, partial_match_prefix_compiles hnest hexpr (by simp)⟩

end TreeSelect.Selector
