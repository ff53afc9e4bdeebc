import DashboardCompiler.Proofs.Text.Identifiers

/-!
# Ids that come out as one word

Many ids share an identifier. Those that come out as a given word are known exactly: they hold the word as it
is, but for a first letter that may still have to be lowered, and around it only characters of which nothing is
left in a name. A capital or any other character inside of the word would separate it.
-/

namespace DashboardCompiler.Name

open Unicode

/-- A character of which at most a separator is left in a name. -/
def isGap (c : Char) : Bool := (lowerChars c).all fun d => !inWord d

/-- Capitals after one of these are not marked. -/
def separates (c : Char) : Bool := c = '_' || c = '-' || c = ' '

theorem inWord_of_isGap {c : Char} (h : isGap c = true) : ∀ d ∈ lowerChars c, inWord d = false := by
  intro d hd
  simpa using List.all_eq_true.1 h d hd

/-- What leaves something in a name is a name character itself or one of the two that lower into names. -/
theorem isNameChar_of_not_isGap {c : Char} (h : isGap c = false) :
    isNameChar c = true ∨ c = '\u0130' ∨ c = '\u212a' := by
  rw [or_iff_not_imp_left, ← lowersIntoName_iff]
  intro hname
  by_contra hnone
  have hgap : isGap c = true := by
    refine List.all_eq_true.2 fun d hd => ?_
    simp only [lowersIntoName, hname, Bool.not_false, Bool.true_and, Bool.not_eq_true, List.any_eq_false] at hnone
    rw [inWord_of_not_isNameChar (by simpa using hnone d hd)]
    rfl
  rw [hgap] at h
  cases h

theorem inWord_of_not_isGap {c : Char} (hname : isNameChar c = true) (h : isGap c = false) : inWord c = true := by
  have hascii := of_isNameChar (P := fun c => isGap c || inWord c) (by decide +kernel) hname
  simpa [h] using hascii

theorem isNameChar_of_inWord {c : Char} (h : inWord c = true) : isNameChar c = true := by
  rw [inWord, Bool.and_eq_true] at h
  exact h.1

/-- Every such character lowers to one of a word and to nothing else, but for the capital I with a dot. -/
theorem lowerChars_of_not_isGap {c : Char} (h : isGap c = false) (hdotted : c ≠ '\u0130') :
    ∃ x, lowerChars c = [x] ∧ inWord x = true ∧ separates c = false := by
  rcases isNameChar_of_not_isGap h with hname | rfl | rfl
  · obtain ⟨x, hx⟩ : ∃ x, lowerChars c = [x] := by
      by_cases hupper : isUpper c = true
      · exact ⟨_, (lowerChars_of_isUpper hname hupper).1⟩
      · exact ⟨_, lowerChars_of_not_isUpper hname (by simpa using hupper)⟩
    refine ⟨x, hx, ?_, marks_of_inWord (inWord_of_not_isGap hname h)⟩
    simpa [isGap, hx] using h
  · exact absurd rfl hdotted
  · exact ⟨'k', by decide, by decide, by decide⟩

/-- One that is no capital stays as it is. -/
theorem lowerChars_of_lower {c : Char} (h : isGap c = false) (hlower : isUpper c = false) :
    lowerChars c = [c] ∧ inWord c = true := by
  rcases isNameChar_of_not_isGap h with hname | rfl | rfl
  · exact ⟨lowerChars_of_not_isUpper hname hlower, inWord_of_not_isGap hname h⟩
  · have hcapital : isUpper '\u0130' = true := by decide
    rw [hcapital] at hlower
    cases hlower
  · have hcapital : isUpper '\u212a' = true := by decide
    rw [hcapital] at hlower
    cases hlower

/-! ## Cleaning -/

theorem forall_cleanFrom_underscore_iff (inRun : Bool) (cs : List Char) :
    (∀ c ∈ cleanFrom inRun cs, c = '_') ↔ ∀ c ∈ cs, inWord c = false := by
  induction cs generalizing inRun with
  | nil => simp [cleanFrom]
  | cons c cs ih =>
    rw [cleanFrom, List.forall_mem_cons]
    by_cases hname : isNameChar c = true
    · rw [if_pos hname, List.forall_mem_cons, ih]
      simp [inWord, hname]
    · rw [if_neg hname]
      have hout : inWord c = false := inWord_of_not_isNameChar (by simpa using hname)
      split
      · rw [ih, and_iff_right hout]
      · rw [List.forall_mem_cons, ih, and_iff_right rfl, and_iff_right hout]

/-- What stands between words leaves underscores. -/
theorem exists_dropWhile_cleanFrom {gap : List Char} (h : ∀ c ∈ gap, inWord c = false) (inRun : Bool)
    (rest : List Char) :
    ∃ inRun', (cleanFrom inRun (gap ++ rest)).dropWhile (· = '_') = (cleanFrom inRun' rest).dropWhile (· = '_') := by
  induction gap generalizing inRun with
  | nil => exact ⟨inRun, rfl⟩
  | cons c gap ih =>
    obtain ⟨hc, hgap⟩ := List.forall_mem_cons.1 h
    rw [List.cons_append, cleanFrom]
    by_cases hname : isNameChar c = true
    · have hunderscore : c = '_' := by simpa [inWord, hname] using hc
      obtain ⟨inRun', heq⟩ := ih hgap false
      refine ⟨inRun', ?_⟩
      rw [if_pos hname, List.dropWhile_cons_of_pos (by simpa using hunderscore), heq]
    · obtain ⟨inRun', heq⟩ := ih hgap true
      refine ⟨inRun', ?_⟩
      rw [if_neg hname]
      split
      · exact heq
      · rw [List.dropWhile_cons_of_pos (by simp), heq]

theorem cleanFrom_cons_of_inWord {c : Char} (h : inWord c = true) (inRun : Bool) (rest : List Char) :
    cleanFrom inRun (c :: rest) = c :: cleanFrom false rest := by
  rw [cleanFrom, if_pos (isNameChar_of_inWord h)]

/-- The first character of a word ends the underscores. -/
theorem dropWhile_cleanFrom_word {gap : List Char} (hgap : ∀ c ∈ gap, inWord c = false) {c : Char}
    (hc : inWord c = true) (inRun : Bool) (rest : List Char) :
    (cleanFrom inRun (gap ++ c :: rest)).dropWhile (· = '_') = c :: cleanFrom false rest := by
  have hne : c ≠ '_' := by
    rintro rfl
    cases hc
  obtain ⟨inRun', hdrop⟩ := exists_dropWhile_cleanFrom hgap inRun (c :: rest)
  rw [hdrop, cleanFrom_cons_of_inWord hc, List.dropWhile_cons_of_neg (by simpa using hne)]

theorem head?_cleanFrom_of_not_inWord {c : Char} (h : inWord c = false) (rest : List Char) :
    (cleanFrom false (c :: rest)).head? = some '_' := by
  rw [cleanFrom]
  by_cases hname : isNameChar c = true
  · have hunderscore : c = '_' := by simpa [inWord, hname] using h
    rw [if_pos hname, hunderscore]
    rfl
  · rw [if_neg hname]
    rfl

theorem trimUnderscores_eq_iff {x : Char} {cs word : List Char} (hword : ∀ c ∈ x :: word, inWord c = true) :
    trimUnderscores cs = x :: word ↔
      ∃ tail : List Char, (∀ c ∈ tail, c = '_') ∧ cs.dropWhile (· = '_') = x :: (word ++ tail) := by
  unfold trimUnderscores
  generalize cs.dropWhile (· = '_') = kept
  constructor
  · intro h
    refine ⟨(kept.reverse.takeWhile (· = '_')).reverse, fun c hc => ?_, ?_⟩
    · simpa using List.mem_takeWhile_imp (List.mem_reverse.1 hc)
    · rw [← List.cons_append, ← h, ← List.reverse_append, List.takeWhile_append_dropWhile, List.reverse_reverse]
  · rintro ⟨tail, htail, rfl⟩
    have hlast : ((x :: word).reverse).dropWhile (· = '_') = (x :: word).reverse := by
      refine List.dropWhile_eq_self_iff.2 fun hlength => ?_
      have hin := hword _ (List.mem_reverse.1 (List.getElem_mem hlength))
      intro hunderscore
      rw [of_decide_eq_true hunderscore] at hin
      cases hin
    have hrun : ∀ c ∈ tail.reverse, decide (c = '_') = true := by
      intro c hc
      simpa using htail c (List.mem_reverse.1 hc)
    rw [← List.cons_append, List.reverse_append, List.dropWhile_append_of_pos hrun, hlast, List.reverse_reverse]

/-! ## Lowering -/

/-- The mark of a capital that does not open the text or follow a separator. -/
def capitalMark (previous : Option Char) (c : Char) : List Char :=
  if isUpper c && previous.any (fun p => !separates p) then ['_'] else []

theorem splitCapitals_cons (previous : Option Char) (c : Char) (rest : List Char) :
    splitCapitals previous (c :: rest) =
      capitalMark previous c ++ lowerChars c ++ splitCapitals (some c) rest := by
  cases previous <;> rfl

theorem inWord_of_mem_capitalMark {previous : Option Char} {c : Char} :
    ∀ d ∈ capitalMark previous c, inWord d = false := by
  intro d hd
  unfold capitalMark at hd
  split at hd
  · rw [List.mem_singleton.1 hd]
    exact inWord_underscore
  · cases hd

theorem forall_splitCapitals_iff (previous : Option Char) (cs : List Char) :
    (∀ d ∈ splitCapitals previous cs, inWord d = false) ↔ ∀ c ∈ cs, isGap c = true := by
  induction cs generalizing previous with
  | nil => simp [splitCapitals]
  | cons c cs ih =>
    rw [splitCapitals_cons, List.forall_mem_append, List.forall_mem_append, ih, List.forall_mem_cons,
      and_iff_right inWord_of_mem_capitalMark]
    simp [isGap]

/-- Inside of a word the next character comes out as a character of the word only if it is that character. -/
theorem head?_inside {previous d x : Char} (hprevious : separates previous = false) (hx : inWord x = true)
    (hd : d ≠ x) (rest : List Char) :
    (cleanFrom false (splitCapitals (some previous) (d :: rest))).head? ≠ some x := by
  have hunderscore : some '_' ≠ some x := by
    rintro ⟨⟩
    cases hx
  rw [splitCapitals_cons, capitalMark]
  cases hupper : isUpper d with
  | true =>
    simp only [Option.any_some, hprevious, Bool.not_false, Bool.and_true, if_true, List.append_assoc,
      List.cons_append]
    rwa [head?_cleanFrom_of_not_inWord inWord_underscore]
  | false =>
    simp only [Bool.false_and, Bool.false_eq_true, if_false, List.nil_append]
    cases hgap : isGap d with
    | true =>
      obtain ⟨e, lowered, hlower⟩ := List.exists_cons_of_ne_nil (lowerChars_ne_nil d)
      have he : inWord e = false := inWord_of_isGap hgap e (hlower ▸ List.mem_cons_self)
      rw [hlower, List.cons_append, head?_cleanFrom_of_not_inWord he]
      exact hunderscore
    | false =>
      obtain ⟨hlower, hin⟩ := lowerChars_of_lower hgap hupper
      rw [hlower, List.singleton_append, cleanFrom_cons_of_inWord hin]
      rintro ⟨⟩
      exact hd rfl

/-- The rest of a word, after some character that does not separate. -/
theorem cleanFrom_splitCapitals_eq_iff {word cs : List Char} {previous : Char}
    (hprevious : separates previous = false) (hword : ∀ c ∈ word, inWord c = true ∧ isUpper c = false) :
    (∃ tail : List Char, (∀ c ∈ tail, c = '_') ∧ cleanFrom false (splitCapitals (some previous) cs) = word ++ tail) ↔
      ∃ after, cs = word ++ after ∧ ∀ c ∈ after, isGap c = true := by
  induction word generalizing cs previous with
  | nil =>
    simp only [List.nil_append]
    constructor
    · rintro ⟨tail, htail, rfl⟩
      rw [forall_cleanFrom_underscore_iff, forall_splitCapitals_iff] at htail
      exact ⟨cs, rfl, htail⟩
    · rintro ⟨after, rfl, hafter⟩
      refine ⟨_, ?_, rfl⟩
      rwa [forall_cleanFrom_underscore_iff, forall_splitCapitals_iff]
  | cons x word ih =>
    obtain ⟨⟨hx, hlower⟩, hrestWord⟩ := List.forall_mem_cons.1 hword
    cases cs with
    | nil => simp [splitCapitals, cleanFrom]
    | cons d rest =>
      by_cases hd : d = x
      · subst hd
        have hkept : lowerChars d = [d] := lowerChars_of_not_isUpper (isNameChar_of_inWord hx) hlower
        have hmark : capitalMark (some previous) d = [] := by simp [capitalMark, hlower]
        have hrest := @ih rest d (marks_of_inWord hx) hrestWord
        rw [splitCapitals_cons, hmark, hkept, List.nil_append, List.singleton_append, cleanFrom_cons_of_inWord hx]
        simpa only [List.cons_append, List.cons.injEq, true_and] using hrest
      · refine iff_of_false ?_ ?_
        · rintro ⟨tail, -, heq⟩
          have hhead := head?_inside hprevious hx hd rest
          rw [heq] at hhead
          exact hhead rfl
        · rintro ⟨after, heq, -⟩
          exact hd (List.cons.inj heq).1

/-- One word, its first letter maybe still to be lowered, between characters that leave nothing in a name. -/
def IsWordAmongGaps (x : Char) (word cs : List Char) : Prop :=
  ∃ before first after, cs = before ++ first :: (word ++ after) ∧ lowerChars first = [x] ∧
    ∀ c ∈ before ++ after, isGap c = true

theorem isWordAmongGaps_cons_of_isGap {x d : Char} {word rest : List Char} (hx : inWord x = true)
    (hgap : isGap d = true) : IsWordAmongGaps x word (d :: rest) ↔ IsWordAmongGaps x word rest := by
  constructor
  · rintro ⟨before, first, after, heq, hfirst, haround⟩
    cases before with
    | nil =>
      obtain ⟨rfl, -⟩ := List.cons.inj heq
      rw [isGap, hfirst] at hgap
      simp [hx] at hgap
    | cons e before =>
      obtain ⟨rfl, rfl⟩ := List.cons.inj heq
      exact ⟨before, first, after, rfl, hfirst, (List.forall_mem_cons.1 haround).2⟩
  · rintro ⟨before, first, after, rfl, hfirst, haround⟩
    exact ⟨d :: before, first, after, rfl, hfirst, List.forall_mem_cons.2 ⟨hgap, haround⟩⟩

theorem isWordAmongGaps_cons_of_not_isGap {x d : Char} {word rest : List Char} (hgap : isGap d = false) :
    IsWordAmongGaps x word (d :: rest) ↔
      lowerChars d = [x] ∧ ∃ after, rest = word ++ after ∧ ∀ c ∈ after, isGap c = true := by
  constructor
  · rintro ⟨before, first, after, heq, hfirst, haround⟩
    cases before with
    | nil =>
      obtain ⟨rfl, rfl⟩ := List.cons.inj heq
      exact ⟨hfirst, after, rfl, haround⟩
    | cons e before =>
      obtain ⟨rfl, -⟩ := List.cons.inj heq
      rw [(List.forall_mem_cons.1 haround).1] at hgap
      cases hgap
  · rintro ⟨hfirst, after, rfl, hafter⟩
    exact ⟨[], d, after, rfl, hfirst, hafter⟩

/-- A whole word, with whatever is around it. -/
theorem dropWhile_cleanFrom_eq_iff {x : Char} {word : List Char} (hx : inWord x = true) (hdotted : x ≠ 'i')
    (hword : ∀ c ∈ word, inWord c = true ∧ isUpper c = false) (inRun : Bool) (previous : Option Char)
    (cs : List Char) :
    (∃ tail : List Char, (∀ c ∈ tail, c = '_') ∧
      (cleanFrom inRun (splitCapitals previous cs)).dropWhile (· = '_') = x :: (word ++ tail)) ↔
    IsWordAmongGaps x word cs := by
  induction cs generalizing inRun previous with
  | nil => simp [splitCapitals, cleanFrom, IsWordAmongGaps]
  | cons d rest ih =>
    cases hgap : isGap d with
    | true =>
      have hout : ∀ e ∈ capitalMark previous d ++ lowerChars d, inWord e = false :=
        List.forall_mem_append.2 ⟨inWord_of_mem_capitalMark, inWord_of_isGap hgap⟩
      obtain ⟨inRun', hdrop⟩ := exists_dropWhile_cleanFrom hout inRun (splitCapitals (some d) rest)
      rw [splitCapitals_cons, hdrop, ih, isWordAmongGaps_cons_of_isGap hx hgap]
    | false =>
      rw [isWordAmongGaps_cons_of_not_isGap hgap, splitCapitals_cons, List.append_assoc]
      by_cases hcapital : d = '\u0130'
      · subst hcapital
        have hlower : lowerChars '\u0130' = ['i', '\u0307'] := by decide
        have hletter : inWord 'i' = true := by decide
        rw [hlower, List.cons_append, dropWhile_cleanFrom_word inWord_of_mem_capitalMark hletter]
        refine iff_of_false ?_ (by simp)
        rintro ⟨tail, -, heq⟩
        exact hdotted (List.cons.inj heq).1.symm
      · obtain ⟨e, hlower, he, hseparates⟩ := lowerChars_of_not_isGap hgap hcapital
        rw [hlower, List.singleton_append, dropWhile_cleanFrom_word inWord_of_mem_capitalMark he,
          ← cleanFrom_splitCapitals_eq_iff hseparates hword]
        simp only [List.cons.injEq, and_true]
        constructor
        · rintro ⟨tail, htail, rfl, heq⟩
          exact ⟨rfl, tail, htail, heq⟩
        · rintro ⟨rfl, tail, htail, heq⟩
          exact ⟨tail, htail, rfl, heq⟩

/-- **The ids whose words in lower case are one given word.** -/
theorem snakeChars_eq_iff {x : Char} {word cs : List Char} (hx : inWord x = true) (hdotted : x ≠ 'i')
    (hword : ∀ c ∈ word, inWord c = true ∧ isUpper c = false) :
    snakeChars cs = x :: word ↔ IsWordAmongGaps x word cs := by
  have hletters : ∀ c ∈ x :: word, inWord c = true :=
    List.forall_mem_cons.2 ⟨hx, fun c hc => (hword c hc).1⟩
  rw [snakeChars, clean, trimUnderscores_eq_iff hletters, dropWhile_cleanFrom_eq_iff hx hdotted hword]

theorem lowerChars_eq_c_iff (c : Char) : lowerChars c = ['c'] ↔ c = 'c' ∨ c = 'C' := by
  constructor
  · intro h
    have hgap : isGap c = false := by
      rw [isGap, h]
      rfl
    rcases isNameChar_of_not_isGap hgap with hname | rfl | rfl
    · have hascii := of_isNameChar (P := fun c => decide (lowerChars c = ['c'] → c = 'c' ∨ c = 'C'))
        (by decide +kernel) hname
      exact of_decide_eq_true hascii h
    · exact absurd h (by decide)
    · exact absurd h (by decide)
  · rintro (rfl | rfl) <;> decide

/-- The id is the word `canvas`, with or without a capital, between characters that leave nothing in a name. -/
def SpellsCanvas (id : String) : Prop :=
  ∃ before first after, id.toList = before ++ first :: ("anvas".toList ++ after) ∧ (first = 'c' ∨ first = 'C') ∧
    ∀ c ∈ before ++ after, isGap c = true

/-- The ids that are known as `canvas`. -/
theorem identifier_eq_canvas_iff (id : String) : identifier id = "canvas" ↔ SpellsCanvas id := by
  have hall : ("anvas".toList.all fun c => inWord c && !isUpper c) = true := by decide
  have hword : ∀ c ∈ "anvas".toList, inWord c = true ∧ isUpper c = false := by
    intro c hc
    simpa using List.all_eq_true.1 hall c hc
  have hcanvas : "canvas" = String.ofList ('c' :: "anvas".toList) := rfl
  have hchars : identifierChars id.toList = 'c' :: "anvas".toList ↔ snakeChars id.toList = 'c' :: "anvas".toList := by
    unfold identifierChars
    constructor
    · intro h
      cases hsnake : snakeChars id.toList with
      | nil =>
        rw [hsnake] at h
        exact absurd h (by decide)
      | cons c rest =>
        cases hdigit : c.isDigit with
        | true =>
          simp [hsnake, startsWithDigit, hdigit] at h
        | false => simpa [hsnake, startsWithDigit, hdigit] using h
    · intro h
      rw [h]
      rfl
  rw [identifier, hcanvas, String.ofList_inj, hchars, snakeChars_eq_iff (by decide) (by decide) hword]
  simp only [IsWordAmongGaps, lowerChars_eq_c_iff, SpellsCanvas]

end DashboardCompiler.Name
