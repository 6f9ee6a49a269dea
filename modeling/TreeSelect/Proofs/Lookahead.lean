import TreeSelect.Proofs.Depth
import TreeSelect.Proofs.Truncation
import TreeSelect.Proofs.Nesting

namespace TreeSelect.Selector

open Text Peg

namespace Grammar

/-- A blank, as a gap reads it. -/
def isBlank (x : Char) : Bool := x == ' ' || x == '\t' || x == '\r' || x == '\n'

theorem gap_eq : gap = many1 (sat isBlank) := rfl

/-- The literals that end a bare value. -/
def textStops : List (List Char) :=
  [[' '], ['\t'], ['\r'], ['\n'], ['['], [']'], ['('], [')'], ['&', '&'], ['|', '|'], ['\''],
    ['"'], ['`']]

theorem textStop_eq : textStop = alts (textStops.map lit) := rfl

/-- Blanks, then a character that is not one, which `P` accepts with what follows it. -/
def AfterBlanks (P : Char → List Char → Prop) (u : List Char) : Prop :=
  ∃ bl x t, u = bl ++ x :: t ∧ (∀ b ∈ bl, isBlank b = true) ∧ isBlank x = false ∧ P x t

/-- A first character outside `cs` that cannot be part of an identifier. -/
def StartsOutside (cs u : List Char) : Prop :=
  ∃ x t, u = x :: t ∧ x ∉ cs ∧ isIdentChar x = false

/-- The text starts with a literal that ends a bare value. -/
def StopsText (u : List Char) : Prop := ∃ s ∈ textStops, s <+: u

variable {P P' : Char → List Char → Prop} {cs cs' u : List Char}

theorem isIdentChar_of_isBlank {b : Char} (h : isBlank b = true) : isIdentChar b = false := by
  simp only [isBlank, Bool.or_eq_true, beq_iff_eq] at h
  rcases h with ((rfl | rfl) | rfl) | rfl <;> decide

theorem extends_afterBlanks (hP : ∀ x t v, P x t → P x (t ++ v)) : Extends (AfterBlanks P) := by
  rintro u v ⟨bl, x, t, rfl, hbl, hx, hp⟩
  exact ⟨bl, x, t ++ v, by simp, hbl, hx, hP x t v hp⟩

theorem extends_startsOutside (cs : List Char) : Extends (StartsOutside cs) := by
  rintro u v ⟨x, t, rfl, hx, hid⟩
  exact ⟨x, t ++ v, rfl, hx, hid⟩

theorem extends_stopsText : Extends StopsText := by
  rintro u v ⟨s, hs, hpre⟩
  exact ⟨s, hs, hpre.trans (List.prefix_append u v)⟩

theorem AfterBlanks.mono (h : ∀ x t, P x t → P' x t) (hu : AfterBlanks P u) :
    AfterBlanks P' u := by
  obtain ⟨bl, x, t, rfl, hbl, hx, hp⟩ := hu
  exact ⟨bl, x, t, rfl, hbl, hx, h x t hp⟩

theorem StartsOutside.mono (h : ∀ x ∈ cs', x ∈ cs) (hu : StartsOutside cs u) :
    StartsOutside cs' u := by
  obtain ⟨x, t, rfl, hx, hid⟩ := hu
  exact ⟨x, t, rfl, fun hx' => hx (h x hx'), hid⟩

theorem StartsOutside.ne_nil (hu : StartsOutside cs u) : u ≠ [] := by
  obtain ⟨x, t, rfl, -⟩ := hu
  exact List.cons_ne_nil x t

theorem AfterBlanks.head (hu : AfterBlanks P u) :
    ∃ x t, u = x :: t ∧ (isBlank x = true ∨ P x t) := by
  obtain ⟨bl, x, t, rfl, hbl, -, hp⟩ := hu
  cases bl with
  | nil => exact ⟨x, t, rfl, .inr hp⟩
  | cons b bl => exact ⟨b, bl ++ x :: t, rfl, .inl (hbl b List.mem_cons_self)⟩

theorem AfterBlanks.startsOutside (hP : ∀ x t, P x t → x ∉ cs ∧ isIdentChar x = false)
    (hcs : ∀ b, isBlank b = true → b ∉ cs) (hu : AfterBlanks P u) : StartsOutside cs u := by
  obtain ⟨x, t, rfl, hb | hp⟩ := hu.head
  · exact ⟨x, t, rfl, hcs x hb, isIdentChar_of_isBlank hb⟩
  · exact ⟨x, t, rfl, hP x t hp⟩

theorem stopsText_of_isBlank {b : Char} (hb : isBlank b = true) (t : List Char) :
    StopsText (b :: t) := by
  refine ⟨[b], ?_, t, rfl⟩
  simp only [isBlank, Bool.or_eq_true, beq_iff_eq] at hb
  rcases hb with ((rfl | rfl) | rfl) | rfl <;> decide

theorem AfterBlanks.stopsText (hP : ∀ x t, P x t → StopsText (x :: t)) (hu : AfterBlanks P u) :
    StopsText u := by
  obtain ⟨x, t, rfl, hb | hp⟩ := hu.head
  · exact stopsText_of_isBlank hb t
  · exact hP x t hp

theorem StopsText.ne_nil (hu : StopsText u) : u ≠ [] := by
  rintro rfl
  obtain ⟨s, hs, hpre⟩ := hu
  obtain rfl := List.prefix_nil.mp hpre
  exact absurd hs (by decide)

theorem StopsText.of_follows {x : Char} {z z' : List Char} (hf : Follows (· ≠ []) z z')
    (h : StopsText (x :: z')) : StopsText (x :: z) := by
  obtain ⟨s, hs, hpre⟩ := h
  have hstops : ∀ s ∈ textStops, s.length ≤ 2 := by decide
  have hlen := hstops s hs
  refine ⟨s, hs, ?_⟩
  rcases hf with rfl | ⟨u, v, v', hu, rfl, rfl⟩
  · exact hpre.trans ⟨z, rfl⟩
  · obtain ⟨y, u', rfl⟩ := List.exists_cons_of_ne_nil hu
    have h₂ : s <+: [x, y] := List.prefix_of_prefix_length_le hpre ⟨u' ++ v', by simp⟩ hlen
    exact h₂.trans ⟨u' ++ v, by simp⟩

theorem many_sat_run (p : Char → Bool) {bl : List Char} (hbl : ∀ b ∈ bl, p b = true) {x : Char}
    (hx : p x = false) (t : List Char) (pos r : Nat) :
    many (sat p) ⟨bl ++ x :: t, pos⟩ r = ⟨r, some ([], ⟨x :: t, pos + byteSize bl⟩)⟩ := by
  induction bl generalizing pos with
  | nil =>
    rw [many]
    simp [sat, hx]
  | cons b bl ih =>
    rw [many]
    have hb := hbl b List.mem_cons_self
    have hrun := ih (fun b' h' => hbl b' (List.mem_cons_of_mem b h')) (pos + b.utf8Size)
    simp [sat, hb, hrun, byteSize_cons, Nat.add_assoc]

theorem gap_run {bl : List Char} (hne : bl ≠ []) (hbl : ∀ b ∈ bl, isBlank b = true) {x : Char}
    (hx : isBlank x = false) (t : List Char) (pos r : Nat) :
    gap ⟨bl ++ x :: t, pos⟩ r = ⟨r, some ([], ⟨x :: t, pos + byteSize bl⟩)⟩ := by
  obtain ⟨b, bl, rfl⟩ := List.exists_cons_of_ne_nil hne
  have hb := hbl b List.mem_cons_self
  have hrun := many_sat_run isBlank (fun b' h' => hbl b' (List.mem_cons_of_mem b h')) hx t
    (pos + b.utf8Size) r
  simp [gap_eq, many1, Peg.seq, sat, hb, hrun, byteSize_cons, Nat.add_assoc]

theorem optGap_run {bl : List Char} (hbl : ∀ b ∈ bl, isBlank b = true) {x : Char}
    (hx : isBlank x = false) (t : List Char) (pos r : Nat) :
    optGap ⟨bl ++ x :: t, pos⟩ r = ⟨r, some ([], ⟨x :: t, pos + byteSize bl⟩)⟩ := by
  by_cases hne : bl = []
  · subst hne
    simp [optGap, Peg.opt, Peg.alt, gap_eq, many1, Peg.seq, sat, hx, Peg.empty]
  · simp [optGap, Peg.opt, Peg.alt, gap_run hne hbl hx]

theorem readsText_gap : ReadsText gap := closed_gap closed_readsText

theorem blanks_of_yields_optGap {c c' : Cursor} {ms : List SyntaxNode} (h : optGap.Yields c ms c') :
    ∃ bl, c.rest = bl ++ c'.rest ∧ ∀ b ∈ bl, isBlank b = true := by
  rcases yields_alt h with h | h
  · obtain ⟨ns₁, c₁, ns₂, h₁, h₂, -⟩ := yields_seq h
    obtain ⟨-, x, hx, hread⟩ := yields_sat h₁
    obtain ⟨bl, hbl, hblank⟩ := Yields.many_induction (fun c _ c' =>
      ∃ bl, c.rest = bl ++ c'.rest ∧ ∀ b ∈ bl, isBlank b = true) (fun c => ⟨[], rfl, by simp⟩)
      (by
        rintro c ns c₁ ms c' h₁ ⟨bl, hbl, hblank⟩
        obtain ⟨-, y, hy, hread⟩ := yields_sat h₁
        exact ⟨y :: bl, by rw [hread.1, hbl]; rfl, List.forall_mem_cons.mpr ⟨hy, hblank⟩⟩) h₂
    exact ⟨x :: bl, by rw [hread.1, hbl]; rfl, List.forall_mem_cons.mpr ⟨hx, hblank⟩⟩
  · obtain ⟨-, rfl⟩ := yields_empty h
    exact ⟨[], rfl, by simp⟩

theorem keeps_gap : Keeps (· ≠ []) gap := keeps_many1_sat _

theorem keeps_optGap : Keeps (· ≠ []) optGap :=
  keeps_gap.opt (Refutes.seq_many (refutes_sat _))

theorem Leads.optGap_seq {b : Peg} {S : Char → Prop} (hb : Leads (AfterBlanks P) b)
    (hs : StartsIn b S) : Leads (AfterBlanks P) (seq optGap b) := by
  intro c w ms c' hy hw _
  obtain ⟨ns₁, c₁, ns₂, h₁, h₂, -⟩ := yields_seq hy
  obtain ⟨bl, hbl, hblank⟩ := blanks_of_yields_optGap h₁
  obtain ⟨x, t, hxt, -⟩ := hs c₁ ns₂ c' h₂
  obtain ⟨bl', y, t', hyt, hbl', hy, hp⟩ := hb c₁ (x :: t) ns₂ c' h₂ hxt (List.cons_ne_nil x t)
  rw [hbl, hxt, ← List.append_assoc] at hw
  rw [← List.append_cancel_right hw, hyt]
  refine ⟨bl ++ bl', y, t', by simp, fun b hb => ?_, hy, hp⟩
  rcases List.mem_append.mp hb with hb | hb
  · exact hblank b hb
  · exact hbl' b hb

theorem Leads.optGap_seq_stopsText {b : Peg} {S : Char → Prop} (hb : Leads StopsText b)
    (hs : StartsIn b S) : Leads StopsText (seq optGap b) := by
  intro c w ms c' hy hw _
  obtain ⟨ns₁, c₁, ns₂, h₁, h₂, -⟩ := yields_seq hy
  obtain ⟨bl, hbl, hblank⟩ := blanks_of_yields_optGap h₁
  obtain ⟨x, t, hxt, -⟩ := hs c₁ ns₂ c' h₂
  rw [hbl, hxt, ← List.append_assoc] at hw
  rw [← List.append_cancel_right hw]
  cases bl with
  | nil => exact hb c₁ (x :: t) ns₂ c' h₂ hxt (List.cons_ne_nil x t)
  | cons b bl => exact stopsText_of_isBlank (hblank b List.mem_cons_self) _

theorem refutes_optGap_seq {b : Peg} {S : Char → Prop} (hs : StartsIn b S)
    (hP : ∀ x t, P x t → ¬ S x) : Refutes (AfterBlanks P) (seq optGap b) := by
  refine refutes_of_fails (hs.seq_right readsText_optGap).failsAtEnd ?_
  rintro u v pos r ⟨bl, x, t, rfl, hbl, hx, hp⟩
  rw [List.append_assoc, List.cons_append, seq_eq_of_skip (optGap_run hbl hx (t ++ v) pos r)]
  exact hs.failsOn x (t ++ v) _ r (hP x t hp)

theorem blank_ne {b x : Char} (hb : isBlank b = true) (hx : isBlank x = false) : b ≠ x := by
  rintro rfl
  rw [hb] at hx
  cases hx

theorem readsText_identifier : ReadsText identifier := closed_identifier closed_readsText

theorem keeps_identifier : Keeps (· ≠ []) identifier := (keeps_many1_sat _).rule _

theorem startsIn_identifier : StartsIn identifier (isIdentChar · = true) :=
  (startsIn_many1_sat _).rule _

theorem startsIn_idPredict : StartsIn idPredict (· = '#') :=
  .rule _ ((startsIn_lit '#' []).seq_left readsText_identifier)

theorem startsIn_classPredict : StartsIn classPredict (· = '.') :=
  .rule _ ((startsIn_lit '.' []).seq_left readsText_identifier)

theorem startsIn_basicPredict :
    StartsIn basicPredict (fun x => x = '#' ∨ x = '.' ∨ isIdentChar x = true) :=
  .rule _ ((startsIn_idPredict.mono fun _ h => .inl h).alt
    ((startsIn_classPredict.mono fun _ h => .inr (.inl h)).alt
      ((startsIn_identifier.rule _).mono fun _ h => .inr (.inr h))))

theorem keeps_basicPredict : Keeps (· ≠ []) basicPredict := by
  refine .rule _ (Keeps.alt_of_startsIn ((Keeps.lit_seq _ keeps_identifier).rule _)
    (Keeps.alt_of_startsIn ((Keeps.lit_seq _ keeps_identifier).rule _) (keeps_identifier.rule _)
      startsIn_classPredict.failsOn ((startsIn_identifier.rule _).mono ?_))
    startsIn_idPredict.failsOn ((startsIn_classPredict.mono ?_).alt
      ((startsIn_identifier.rule _).mono ?_)))
  · rintro x hx rfl
    exact absurd hx (by decide)
  · rintro x rfl
    decide
  · rintro x hx rfl
    exact absurd hx (by decide)

theorem keeps_basicPredicts : Keeps (StartsOutside ['#', '.']) basicPredicts := by
  refine (Keeps.many1 keeps_basicPredict extends_ne_nil leads_ne_nil (fun _ hu => hu.ne_nil)
    (refutes_of_failsOn startsIn_basicPredict.failsAtEnd startsIn_basicPredict.failsOn ?_)).rule _
  rintro u ⟨x, t, rfl, hx, hid⟩
  refine ⟨x, t, rfl, ?_⟩
  simp only [List.mem_cons, List.not_mem_nil, or_false, not_or] at hx
  simp [hx.1, hx.2, hid]

theorem startsIn_basicPredicts :
    StartsIn basicPredicts (fun x => x = '#' ∨ x = '.' ∨ isIdentChar x = true) :=
  .rule _ (startsIn_basicPredict.seq_left (closed_readsText.many keeps_basicPredict.1))

theorem keeps_quoted (name : Rule) (q : Char) : Keeps (fun _ => True) (quoted name q) := by
  have hchar : Keeps (· ≠ []) (seq (notAhead (lit [q])) anyChar) :=
    (Keeps.notAhead ((refutes_lit [q]).mono fun _ hu => List.length_pos_iff.mpr hu)).seq
      (keeps_sat _) (.of_startsIn extends_ne_nil leads_ne_nil (startsIn_sat _))
  have hstop : Refutes ([q] <+: ·) (seq (notAhead (lit [q])) anyChar) := by
    refine refutes_of_failsOn (S := fun x => x = q)
      ((startsIn_sat _).seq_right (readsText_notAhead _)).failsAtEnd
      (FailsOn.seq_left (failsOn_notAhead fun x t pos r hx => ?_)) ?_
    · subst hx
      rw [Ne, lit_result_eq_none_iff]
      simp
    · rintro _ ⟨v, rfl⟩
      exact ⟨q, v, rfl, rfl⟩
  have hext : Extends ([q] <+: ·) := fun u v hu => hu.trans (List.prefix_append u v)
  have hbody := hchar.many extends_ne_nil leads_ne_nil
    (by rintro _ ⟨v, rfl⟩; exact List.cons_ne_nil q v) hstop
  exact .rule _ (Keeps.lit_seq _ (hbody.seq (keeps_lit _)
    (.of_startsIn hext (leads_lit (List.prefix_refl _)) (startsIn_lit q []))))

theorem startsIn_quoted (name : Rule) (q : Char) : StartsIn (quoted name q) (· = q) :=
  .rule _ ((startsIn_lit q []).seq_left (closed_readsText.seq (closed_readsText.many
    (closed_readsText.seq (readsText_notAhead _) (closed_readsText.sat _))) (closed_readsText.lit _)))

theorem textStop_result_eq_none_iff (y : List Char) (pos r : Nat) :
    (textStop ⟨y, pos⟩ r).result = none ↔ ¬ StopsText y := by
  rw [textStop_eq, alts_lit_result_eq_none_iff]
  simp only [StopsText, not_exists, not_and]

theorem stopsText_singleton {x : Char} (h : [x] ∈ textStops) : StopsText [x] :=
  ⟨[x], h, List.prefix_refl _⟩

/-- One character of a bare value. -/
def textChar : Peg := seq (notAhead textStop) anyChar

theorem readsText_textChar : ReadsText textChar :=
  closed_readsText.seq (readsText_notAhead _) (closed_readsText.sat _)

theorem startsIn_textChar : StartsIn textChar (fun x => ¬ StopsText [x]) := by
  rintro ⟨y, pos⟩ ms c' hy
  obtain ⟨ns₁, c₁, ns₂, h₁, h₂, -⟩ := yields_seq hy
  obtain ⟨-, rfl⟩ := yields_notAhead h₁
  obtain ⟨-, x, -, hread⟩ := yields_sat h₂
  obtain ⟨r, hno⟩ := fails_of_yields_notAhead h₁
  have hy : y = [x] ++ c'.rest := hread.1
  subst hy
  rw [textStop_result_eq_none_iff] at hno
  exact ⟨x, [], rfl, fun hs => hno (extends_stopsText [x] _ hs)⟩

theorem keeps_textChar : Keeps (· ≠ []) textChar := by
  refine ⟨readsText_textChar, fun w z z' pos r r' ns hf h => ?_⟩
  obtain ⟨ns₁, c₁, ns₂, h₁, h₂, rfl⟩ := yields_seq ⟨r, h⟩
  obtain ⟨rfl, rfl⟩ := yields_notAhead h₁
  obtain ⟨rfl, x, -, hread⟩ := yields_sat h₂
  obtain rfl : w = [x] := List.append_cancel_right (hread.1.trans List.singleton_append.symm)
  obtain ⟨r₀, hno⟩ := fails_of_yields_notAhead h₁
  have hno' : (textStop ⟨[x] ++ z', pos⟩ r').result = none := by
    rw [textStop_result_eq_none_iff] at hno ⊢
    exact fun hs => hno (StopsText.of_follows hf hs)
  simp only [textChar, Peg.seq, Peg.notAhead]
  rw [outcome_eq hno']
  simp [anyChar, sat, byteSize_cons, byteSize_nil]

theorem refutes_textChar : Refutes StopsText textChar :=
  refutes_of_fails ((startsIn_sat _).seq_right (readsText_notAhead _)).failsAtEnd
    fun u v pos r hu => seq_result_eq_none (notAhead_result_eq_none (by
      rw [Ne, textStop_result_eq_none_iff, Classical.not_not]
      exact extends_stopsText u v hu))

theorem keeps_textValue : Keeps StopsText textValue :=
  (Keeps.many1 keeps_textChar extends_ne_nil leads_ne_nil (fun _ hu => hu.ne_nil)
    refutes_textChar).rule _

theorem startsIn_textValue : StartsIn textValue (fun x => ¬ StopsText [x]) :=
  .rule _ (startsIn_textChar.seq_left (closed_readsText.many readsText_textChar))

theorem keeps_value : Keeps StopsText value := by
  have hq : ∀ name q, Keeps StopsText (quoted name q) := fun name q =>
    (keeps_quoted name q).mono fun _ _ => trivial
  have htext : ∀ q, [q] ∈ textStops → StartsIn textValue (fun x => ¬ x = q) := fun q hq =>
    startsIn_textValue.mono fun x hx h => hx (by subst h; exact stopsText_singleton hq)
  refine .rule _ (Keeps.alt_of_startsIn (hq _ _) (Keeps.alt_of_startsIn (hq _ _)
    (Keeps.alt_of_startsIn (hq _ _) keeps_textValue (startsIn_quoted _ _).failsOn
      (htext _ (by decide)))
    (startsIn_quoted _ _).failsOn (((startsIn_quoted _ _).mono ?_).alt (htext _ (by decide))))
    (startsIn_quoted _ _).failsOn (((startsIn_quoted _ _).mono ?_).alt
      (((startsIn_quoted _ _).mono ?_).alt (htext _ (by decide)))))
  all_goals
    rintro x rfl
    decide

theorem startsIn_value : StartsIn value (fun _ => True) := by
  have hq : ∀ name q, StartsIn (quoted name q) (fun _ => True) := fun name q =>
    (startsIn_quoted name q).mono fun _ _ => trivial
  exact .rule _ ((hq _ _).alt ((hq _ _).alt ((hq _ _).alt
    (startsIn_textValue.mono fun _ _ => trivial))))

theorem startsIn_attrOp : StartsIn attrOp (fun x => x = '!' ∨ x = '~' ∨ x = '=') :=
  .rule _ (((startsIn_lit '!' ['=']).mono fun _ h => .inl h).alt
    (((startsIn_lit '~' ['=']).mono fun _ h => .inr (.inl h)).alt
      ((startsIn_lit '=' []).mono fun _ h => .inr (.inr h))))

theorem keeps_attrOp : Keeps (fun _ => True) attrOp := by
  refine .rule _ (Keeps.alt_of_startsIn (keeps_lit _) (Keeps.alt_of_startsIn (keeps_lit _)
    (keeps_lit _) (startsIn_lit '~' ['=']).failsOn ((startsIn_lit '=' []).mono ?_))
    (startsIn_lit '!' ['=']).failsOn (((startsIn_lit '~' ['=']).mono ?_).alt
      ((startsIn_lit '=' []).mono ?_)))
  all_goals
    rintro x rfl
    decide

theorem keeps_attrElementaryExpr : Keeps StopsText attrElementaryExpr := by
  have hval : Keeps StopsText (seq optGap value) :=
    keeps_optGap.seq keeps_value (.of_startsIn extends_ne_nil leads_ne_nil startsIn_value)
  have hop : Keeps StopsText (seq attrOp (seq optGap value)) := keeps_attrOp.seq hval passes_true
  have hops : StartsIn (seq attrOp (seq optGap value)) _ := startsIn_attrOp.seq_left hval.1
  have hgap : Keeps StopsText (seq optGap (seq attrOp (seq optGap value))) :=
    keeps_optGap.seq hop (.of_startsIn extends_ne_nil leads_ne_nil hops)
  exact .rule _ (keeps_identifier.seq hgap
    (.of_startsIn extends_ne_nil leads_ne_nil (hops.seq_right readsText_optGap)))

theorem startsIn_attrElementaryExpr : StartsIn attrElementaryExpr (isIdentChar · = true) :=
  .rule _ (startsIn_identifier.seq_left (closed_readsText.seqs ⟨readsText_optGap,
    closed_attrOp closed_readsText, readsText_optGap, closed_value closed_readsText⟩))

/-- Blanks, then the character `e`. -/
def Closes (e : Char) : List Char → Prop := AfterBlanks fun x _ => x = e

theorem keeps_bracketed (o : List Char) (e : Char) (he : isBlank e = false) {X : Peg}
    (hX : Keeps (Closes e) X) :
    Keeps (fun _ => True) (seqs [lit o, optGap, X, optGap, lit [e]]) := by
  have hclose : Keeps (fun _ => True) (seq optGap (lit [e])) :=
    keeps_optGap.seq (keeps_lit _) (.of_startsIn extends_ne_nil leads_ne_nil (startsIn_lit e []))
  have hcloses : StartsIn (seq optGap (lit [e])) (fun _ => True) :=
    (startsIn_lit e []).seq_right readsText_optGap
  have hlead : Leads (Closes e) (seq optGap (lit [e])) :=
    Leads.optGap_seq (leads_lit ⟨[], e, [], rfl, by simp, he, rfl⟩) (startsIn_lit e [])
  have hinner : Keeps (fun _ => True) (seq X (seq optGap (lit [e]))) :=
    hX.seq hclose (.of_startsIn (extends_afterBlanks fun _ _ _ h => h) hlead hcloses)
  exact Keeps.lit_seq _ (keeps_optGap.seq hinner
    (.of_startsIn extends_ne_nil leads_ne_nil (hcloses.seq_right hX.1)))

theorem keeps_separated {Z ZX : List Char → Prop} {X : Peg} {S : Char → Prop} (x : Char)
    (xs : List Char) (hX : Keeps ZX X) (hXs : StartsIn X S) (hext : Extends ZX)
    (hlead : Leads ZX (seqs [optGap, lit (x :: xs), optGap, X])) (hnil : ∀ u, Z u → ZX u)
    (hstop : Refutes Z (seqs [optGap, lit (x :: xs), optGap, X])) :
    Keeps Z (seq X (many (seqs [optGap, lit (x :: xs), optGap, X]))) := by
  have hround : Keeps ZX (seqs [optGap, lit (x :: xs), optGap, X]) :=
    keeps_optGap.seq (Keeps.lit_seq _ (keeps_optGap.seq hX
      (.of_startsIn extends_ne_nil leads_ne_nil hXs)))
      (.of_startsIn extends_ne_nil leads_ne_nil ((startsIn_lit x xs).seq_left
        (closed_readsText.seq readsText_optGap hX.1)))
  exact hX.seq (hround.many hext hlead hnil hstop)
    (.of_leads hext (Leads.many hext hlead hround.1) hnil)

theorem startsIn_separator {X : Peg} (x : Char) (xs : List Char) (hX : ReadsText X) :
    StartsIn (seq (lit (x :: xs)) (seq optGap X)) (· = x) :=
  (startsIn_lit x xs).seq_left (closed_readsText.seq readsText_optGap hX)

/-- The group of `attrExpr (d + 1)`. -/
def attrGroup (d : Nat) : Peg :=
  rule .attrGroupExpr (seqs [str "(", optGap, attrExpr d, optGap, str ")"])

/-- The operand of a conjunction in `attrExpr (d + 1)`. -/
def attrBasic (d : Nat) : Peg := rule .attrBasicExpr (alt (attrGroup d) attrElementaryExpr)

/-- The conjunction of `attrExpr (d + 1)`. -/
def attrConj (d : Nat) : Peg :=
  rule .attrAndExpr (seq (attrBasic d) (many (seqs [optGap, str "&&", optGap, attrBasic d])))

theorem attrExpr_succ (d : Nat) :
    attrExpr (d + 1) = rule .attrExpr
      (rule .attrOrExpr (seq (attrConj d) (many (seqs [optGap, str "||", optGap, attrConj d])))) :=
  rfl

/-- What may follow a conjunction: a bare value stops there, and no `&&` comes next. -/
def EndsConjunction : List Char → Prop := AfterBlanks fun x t => x ≠ '&' ∧ StopsText (x :: t)

/-- What may follow an attribute condition: a conjunction ends there, and no `||` comes next. -/
def EndsCondition : List Char → Prop :=
  AfterBlanks fun x t => x ≠ '&' ∧ x ≠ '|' ∧ StopsText (x :: t)

theorem extends_endsConjunction : Extends EndsConjunction :=
  extends_afterBlanks fun x t v h => ⟨h.1, extends_stopsText (x :: t) v h.2⟩

theorem readsText_attrBasic (d : Nat) : ReadsText (attrBasic d) :=
  closed_readsText.rule _ (closed_readsText.alt (closed_readsText.rule _ (closed_readsText.seqs
    ⟨readsText_str _, readsText_optGap, closed_attrExpr closed_readsText d, readsText_optGap,
      readsText_str _⟩)) (closed_attrElementaryExpr closed_readsText))

theorem readsText_attrConj (d : Nat) : ReadsText (attrConj d) :=
  closed_readsText.rule _ (closed_readsText.seq (readsText_attrBasic d) (closed_readsText.many
    (closed_readsText.seqs ⟨readsText_optGap, readsText_str _, readsText_optGap,
      readsText_attrBasic d⟩)))

theorem startsIn_attrGroup (d : Nat) : StartsIn (attrGroup d) (· = '(') :=
  .rule _ ((startsIn_lit '(' []).seq_left (closed_readsText.seqs ⟨readsText_optGap,
    closed_attrExpr closed_readsText d, readsText_optGap, readsText_str _⟩))

theorem startsIn_attrBasic (d : Nat) :
    StartsIn (attrBasic d) (fun x => x = '(' ∨ isIdentChar x = true) :=
  .rule _ (((startsIn_attrGroup d).mono fun _ h => .inl h).alt
    (startsIn_attrElementaryExpr.mono fun _ h => .inr h))

theorem startsIn_attrConj (d : Nat) :
    StartsIn (attrConj d) (fun x => x = '(' ∨ isIdentChar x = true) :=
  .rule _ ((startsIn_attrBasic d).seq_left (closed_readsText.many (closed_readsText.seqs
    ⟨readsText_optGap, readsText_str _, readsText_optGap, readsText_attrBasic d⟩)))

theorem startsIn_attrExpr :
    ∀ d, StartsIn (attrExpr d) (fun x => x = '(' ∨ isIdentChar x = true)
  | 0 => fun _ _ _ h => absurd h not_yields_fail
  | d + 1 => .rule _ (.rule _ ((startsIn_attrConj d).seq_left (closed_readsText.many
    (closed_readsText.seqs ⟨readsText_optGap, readsText_str _, readsText_optGap,
      readsText_attrConj d⟩))))

theorem keeps_attrExpr : ∀ d, Keeps EndsCondition (attrExpr d)
  | 0 => keeps_fail
  | d + 1 => by
    have hgroup : Keeps (fun _ => True) (attrGroup d) :=
      (keeps_bracketed _ ')' (by decide) ((keeps_attrExpr d).mono fun _ hu => AfterBlanks.mono
        (fun x t hx => by subst hx; exact ⟨by decide, by decide, ⟨[')'], by decide, t, rfl⟩⟩)
        hu)).rule _
    have hbasic : Keeps StopsText (attrBasic d) :=
      .rule _ (Keeps.alt_of_startsIn (hgroup.mono fun _ _ => trivial) keeps_attrElementaryExpr
        (startsIn_attrGroup d).failsOn (startsIn_attrElementaryExpr.mono fun x hx h => by
          subst h
          exact absurd hx (by decide)))
    have hconj : Keeps EndsConjunction (attrConj d) :=
      .rule _ (keeps_separated '&' ['&'] hbasic (startsIn_attrBasic d) extends_stopsText
        (Leads.optGap_seq_stopsText (Leads.lit_seq (fun v => ⟨['&', '&'], by decide, v, rfl⟩)
          (closed_readsText.seq readsText_optGap hbasic.1)) (startsIn_separator '&' ['&'] hbasic.1))
        (fun _ hu => AfterBlanks.stopsText (fun _ _ h => h.2) hu)
        (refutes_optGap_seq (startsIn_separator '&' ['&'] hbasic.1) fun _ _ h => h.1))
    rw [attrExpr_succ]
    exact .rule _ (.rule _ (keeps_separated '|' ['|'] hconj (startsIn_attrConj d)
      extends_endsConjunction
      (Leads.optGap_seq (Leads.lit_seq (fun v => ⟨[], '|', '|' :: v, rfl, by simp, by decide,
        by decide, ⟨['|', '|'], by decide, v, rfl⟩⟩) (closed_readsText.seq readsText_optGap hconj.1))
        (startsIn_separator '|' ['|'] hconj.1))
      (fun _ hu => AfterBlanks.mono (fun _ _ h => ⟨h.1, h.2.2⟩) hu)
      (refutes_optGap_seq (startsIn_separator '|' ['|'] hconj.1) fun _ _ h => h.2.1)))

theorem startsIn_attrPredict (d : Nat) : StartsIn (attrPredict d) (· = '[') :=
  .rule _ ((startsIn_lit '[' []).seq_left (closed_readsText.seqs ⟨readsText_optGap,
    closed_readsText.opt (closed_attrExpr closed_readsText d), readsText_optGap, readsText_str _⟩))

theorem keeps_attrPredict (d : Nat) : Keeps (fun _ => True) (attrPredict d) := by
  have hopt : Keeps (Closes ']') (opt (attrExpr d)) := by
    refine ((keeps_attrExpr d).mono fun _ hu => AfterBlanks.mono (fun x t hx => ?_) hu).opt
      (refutes_of_failsOn (startsIn_attrExpr d).failsAtEnd (startsIn_attrExpr d).failsOn ?_)
    · subst hx
      exact ⟨by decide, by decide, ⟨[']'], by decide, t, rfl⟩⟩
    · intro u hu
      obtain ⟨x, t, rfl, hb | rfl⟩ := AfterBlanks.head hu
      · refine ⟨x, t, rfl, fun h => h.elim (blank_ne hb (by decide)) fun h => ?_⟩
        rw [isIdentChar_of_isBlank hb] at h
        cases h
      · exact ⟨']', t, rfl, by decide⟩
  exact .rule _ (keeps_bracketed _ ']' (by decide) hopt)

end Grammar

end TreeSelect.Selector
