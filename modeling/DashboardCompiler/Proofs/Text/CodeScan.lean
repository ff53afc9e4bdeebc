import DashboardCompiler.Proofs.Text.Lines
import DashboardCompiler.Text.CodeScan
import Mathlib.Data.List.Forall2

/-!
# Scanning assembled code

The scanner reads a file from the front and looks ahead for the end of each literal. Generated text is put
together from pieces, so what matters of a piece is that the scan ends with it: then the code of the whole is
the code of its pieces one after the other, and a quoted text shows in it as two quotes, whatever it says.
-/

namespace DashboardCompiler.Code

open Text

/-! ## Pieces -/

/-- The three characters that may open a literal. -/
def isQuote (c : Char) : Bool := c = '"' || c = '\'' || c.toNat = 0x60

/-- A text that does not begin with a quote. -/
def Unquoted (cs : List Char) : Prop := ∀ c ∈ cs.head?, isQuote c = false

theorem unquoted_nil : Unquoted [] := nofun

theorem unquoted_cons {c : Char} {cs : List Char} : Unquoted (c :: cs) ↔ isQuote c = false := by
  simp [Unquoted]

theorem Unquoted.append {cs rest : List Char} (hcs : Unquoted cs) (hrest : Unquoted rest) :
    Unquoted (cs ++ rest) := by
  cases cs with
  | nil => exact hrest
  | cons c cs => exact unquoted_cons.2 (unquoted_cons.1 hcs)

/-- The scan ends with the piece: what follows it is scanned as if it stood alone. -/
def Passes (cs : List Char) : Prop :=
  ∀ rest, Unquoted rest → emptyLiterals 0 (cs ++ rest) = emptyLiterals 0 cs ++ emptyLiterals 0 rest

theorem literalTail?_of_not_isQuote {c : Char} (h : isQuote c = false) (rest : List Char) :
    literalTail? c rest = none := by
  simp only [isQuote, Bool.or_eq_false_iff, decide_eq_false_iff_not] at h
  obtain ⟨⟨hdouble, hsingle⟩, hraw⟩ := h
  rw [literalTail?, if_neg (by simp [hdouble, hsingle]), if_neg hraw]

theorem emptyLiterals_cons_of_not_isQuote {c : Char} (h : isQuote c = false) (cs : List Char) :
    emptyLiterals 0 (c :: cs) = c :: emptyLiterals 0 cs := by
  rw [emptyLiterals, literalTail?_of_not_isQuote h]

/-- Characters that are no quotes stay, whatever follows. -/
theorem emptyLiterals_append_of_plain {cs : List Char} (h : ∀ c ∈ cs, isQuote c = false) (rest : List Char) :
    emptyLiterals 0 (cs ++ rest) = cs ++ emptyLiterals 0 rest := by
  induction cs with
  | nil => rfl
  | cons c cs ih =>
    obtain ⟨hc, hcs⟩ := List.forall_mem_cons.1 h
    rw [List.cons_append, emptyLiterals_cons_of_not_isQuote hc, ih hcs, List.cons_append]

theorem emptyLiterals_of_plain {cs : List Char} (h : ∀ c ∈ cs, isQuote c = false) :
    emptyLiterals 0 cs = cs := by
  have happend := emptyLiterals_append_of_plain h []
  rwa [List.append_nil, emptyLiterals, List.append_nil] at happend

theorem passes_of_plain {cs : List Char} (h : ∀ c ∈ cs, isQuote c = false) : Passes cs := by
  intro rest _
  rw [emptyLiterals_append_of_plain h, emptyLiterals_of_plain h]

theorem Passes.append {cs ds : List Char} (hcs : Passes cs) (hds : Passes ds) (h : Unquoted ds) :
    Passes (cs ++ ds) := by
  intro rest hrest
  rw [List.append_assoc, hcs _ (h.append hrest), hds _ hrest, hcs _ h, List.append_assoc]

/-- Before a piece there may be any characters that are no quotes. -/
theorem Passes.prepend_plain {cs ds : List Char} (hcs : ∀ c ∈ cs, isQuote c = false) (hds : Passes ds) :
    Passes (cs ++ ds) := by
  intro rest hrest
  rw [List.append_assoc, emptyLiterals_append_of_plain hcs, hds _ hrest,
    emptyLiterals_append_of_plain hcs, List.append_assoc]

/-- And such characters may be taken away again. -/
theorem Passes.of_prepend_plain {cs ds : List Char} (hcs : ∀ c ∈ cs, isQuote c = false)
    (h : Passes (cs ++ ds)) : Passes ds := by
  intro rest hrest
  have hwhole := h rest hrest
  rw [List.append_assoc, emptyLiterals_append_of_plain hcs, emptyLiterals_append_of_plain hcs,
    List.append_assoc] at hwhole
  exact List.append_cancel_left hwhole

/-! ## Literals -/

theorem ne_backslash_of_isQuote {c : Char} (h : isQuote c = true) : c ≠ '\\' := by
  rintro rfl
  revert h
  decide

/-- A backslash aside, one character decides. -/
theorem closeQuote_cons {quote c : Char} (hc : c ≠ '\\') (cs : List Char) :
    closeQuote quote (c :: cs) =
      if c = quote then some 1 else if c = '\n' then none else (closeQuote quote cs).map (· + 1) := by
  rw [closeQuote.eq_3 quote c cs fun _ _ h => absurd h hc]
  simp only [hc, or_false]

/-- A literal that is closed stays closed, whatever follows. -/
theorem closeQuote_append {quote : Char} (hquote : quote ≠ '\\') {cs : List Char} {n : Nat}
    (h : closeQuote quote cs = some n) (rest : List Char) : closeQuote quote (cs ++ rest) = some n := by
  fun_induction closeQuote quote cs generalizing n with
  | case1 => cases h
  | case2 => cases h
  | case3 c cs hc ih =>
    obtain ⟨m, hm, rfl⟩ := Option.map_eq_some_iff.1 h
    rw [List.cons_append, List.cons_append, closeQuote, if_neg hc, ih hm, Option.map_some]
  | case4 cs _ =>
    rw [List.cons_append, closeQuote_cons hquote, if_pos rfl]
    exact h
  | case5 => cases h
  | case6 c cs _ hc hplain ih =>
    obtain ⟨m, hm, rfl⟩ := Option.map_eq_some_iff.1 h
    obtain ⟨hfeed, hback⟩ := not_or.1 hplain
    rw [List.cons_append, closeQuote_cons hback, if_neg hc, if_neg hfeed, ih hm, Option.map_some]

theorem closeQuote_le {quote : Char} {cs : List Char} {n : Nat} (h : closeQuote quote cs = some n) :
    n ≤ cs.length := by
  fun_induction closeQuote quote cs generalizing n with
  | case1 => cases h
  | case2 => cases h
  | case3 c cs hc ih =>
    obtain ⟨m, hm, rfl⟩ := Option.map_eq_some_iff.1 h
    have hle := ih hm
    simp only [List.length_cons]
    omega
  | case4 cs _ =>
    cases h
    simp
  | case5 => cases h
  | case6 c cs _ hc hplain ih =>
    obtain ⟨m, hm, rfl⟩ := Option.map_eq_some_iff.1 h
    have hle := ih hm
    simp only [List.length_cons]
    omega

theorem closeRaw_append {cs : List Char} {n : Nat} (h : closeRaw cs = some n) (rest : List Char) :
    closeRaw (cs ++ rest) = some n := by
  induction cs generalizing n with
  | nil => cases h
  | cons c cs ih =>
    rw [List.cons_append, closeRaw]
    rw [closeRaw] at h
    split at h
    · rename_i hc
      rw [if_pos hc, h]
    · rename_i hc
      obtain ⟨m, hm, rfl⟩ := Option.map_eq_some_iff.1 h
      rw [if_neg hc, ih hm, Option.map_some]

theorem closeRaw_le {cs : List Char} {n : Nat} (h : closeRaw cs = some n) : n ≤ cs.length := by
  induction cs generalizing n with
  | nil => cases h
  | cons c cs ih =>
    rw [closeRaw] at h
    split at h
    · cases h
      simp
    · obtain ⟨m, hm, rfl⟩ := Option.map_eq_some_iff.1 h
      have hle := ih hm
      simp only [List.length_cons]
      omega

/-- How many characters follow a quote in the literal that it opens, if that literal is closed and is no
long one. -/
def shortTail? (c : Char) (rest : List Char) : Option Nat :=
  if c.toNat = 0x60 then closeRaw rest
  else if [c, c].isPrefixOf rest then none
  else closeQuote c rest

theorem shortTail?_le {c : Char} {rest : List Char} {n : Nat} (h : shortTail? c rest = some n) :
    n ≤ rest.length := by
  unfold shortTail? at h
  split at h
  · exact closeRaw_le h
  · split at h
    · cases h
    · exact closeQuote_le h

/-- A short literal is found as such, whatever follows but another quote. -/
theorem literalTail?_append {c : Char} (hc : isQuote c = true) {cs : List Char} {n : Nat}
    (h : shortTail? c cs = some n) {rest : List Char} (hrest : Unquoted rest) :
    literalTail? c (cs ++ rest) = some n := by
  unfold shortTail? at h
  split at h
  · rename_i hraw
    have hno : ¬(c = '"' ∨ c = '\'') := by
      rintro (rfl | rfl) <;> revert hraw <;> decide
    rw [literalTail?, if_neg hno, if_pos hraw, closeRaw_append h]
  · rename_i hraw
    split at h
    · cases h
    · rename_i hshort
      have hquote : c = '"' ∨ c = '\'' := by
        simp only [isQuote, Bool.or_eq_true, decide_eq_true_eq] at hc
        exact hc.resolve_right hraw
      have hstill : [c, c].isPrefixOf (cs ++ rest) = false := by
        match cs, rest with
        | [], _ => cases h
        | [d], [] => simp [List.isPrefixOf]
        | [d], r :: rest =>
          have hr : c ≠ r := by
            rintro rfl
            rw [unquoted_cons.1 hrest] at hc
            cases hc
          simp [List.isPrefixOf, hr]
        | d :: e :: cs, _ => simpa [List.isPrefixOf] using hshort
      rw [literalTail?, if_pos hquote, hstill, closeQuote_append (ne_backslash_of_isQuote hc) h]
      rfl

theorem emptyLiterals_skip (cs rest : List Char) :
    emptyLiterals cs.length (cs ++ rest) = emptyLiterals 0 rest := by
  induction cs with
  | nil => rfl
  | cons c cs ih => exact ih

theorem emptyLiterals_literal {c : Char} (hc : isQuote c = true) {cs : List Char}
    (h : shortTail? c cs = some cs.length) {rest : List Char} (hrest : Unquoted rest) :
    emptyLiterals 0 (c :: cs ++ rest) = '"' :: '"' :: emptyLiterals 0 rest := by
  rw [List.cons_append, emptyLiterals, literalTail?_append hc h hrest]
  exact congrArg (fun code => '"' :: '"' :: code) (emptyLiterals_skip cs rest)

/-- A whole literal shows as two quotes. -/
theorem code_literal {c : Char} (hc : isQuote c = true) {cs : List Char}
    (h : shortTail? c cs = some cs.length) : emptyLiterals 0 (c :: cs) = ['"', '"'] := by
  have hwhole := emptyLiterals_literal hc h unquoted_nil
  rwa [List.append_nil, emptyLiterals] at hwhole

theorem passes_literal {c : Char} (hc : isQuote c = true) {cs : List Char}
    (h : shortTail? c cs = some cs.length) : Passes (c :: cs) := by
  intro rest hrest
  rw [emptyLiterals_literal hc h hrest, code_literal hc h]
  rfl

/-- Whether every quote of a text opens a literal that the text itself closes; `skip` characters belong to
the literal being passed. -/
def contained : Nat → List Char → Bool
  | _, [] => true
  | skip + 1, _ :: rest => contained skip rest
  | 0, c :: rest =>
    if isQuote c then
      match shortTail? c rest with
      | some n => contained n rest
      | none => false
    else contained 0 rest

theorem emptyLiterals_append_of_contained {skip : Nat} {cs : List Char} (h : contained skip cs = true)
    (hskip : skip ≤ cs.length) {rest : List Char} (hrest : Unquoted rest) :
    emptyLiterals skip (cs ++ rest) = emptyLiterals skip cs ++ emptyLiterals 0 rest := by
  fun_induction contained skip cs with
  | case1 skip =>
    obtain rfl : skip = 0 := by simpa using hskip
    rfl
  | case2 skip c cs ih => exact ih h (by simpa using hskip)
  | case3 c cs hc n hn ih =>
    have hwhole : literalTail? c (cs ++ []) = some n := literalTail?_append hc hn unquoted_nil
    rw [List.append_nil] at hwhole
    rw [List.cons_append, emptyLiterals, emptyLiterals, literalTail?_append hc hn hrest, hwhole]
    simp only [ih h (shortTail?_le hn), List.cons_append]
  | case4 => cases h
  | case5 c cs hc ih =>
    rw [List.cons_append, emptyLiterals_cons_of_not_isQuote (by simpa using hc),
      emptyLiterals_cons_of_not_isQuote (by simpa using hc), ih h (Nat.zero_le _), List.cons_append]

theorem passes_of_contained {cs : List Char} (h : contained 0 cs = true) : Passes cs :=
  fun _ hrest => emptyLiterals_append_of_contained h (Nat.zero_le _) hrest

/-! ## Comments and lines -/

/-- Whether a line that begins with this character, followed by these, is a comment. -/
theorem isCommentLine_cons (c : Char) (cs : List Char) :
    isCommentLine (c :: cs) =
      if c = ' ' ∨ c = '\t' then isCommentLine cs else c = '#' || (c = '/' && cs.head? = some '/') := by
  by_cases hblank : c = ' ' ∨ c = '\t'
  · rw [if_pos hblank, isCommentLine, isCommentLine, List.dropWhile_cons_of_pos (by simpa using hblank)]
  · rw [if_neg hblank, isCommentLine, List.dropWhile_cons_of_neg (by simpa using hblank)]
    split
    · simp_all
    · simp_all
    · rename_i hhash hslashes
      have hno : ¬(c = '#' ∨ c = '/' ∧ cs.head? = some '/') := by
        rintro (rfl | ⟨rfl, hhead⟩)
        · exact hhash cs rfl
        · obtain ⟨rest, rfl⟩ := List.head?_eq_some_iff.1 hhead
          exact hslashes rest rfl
      simpa using hno

/-- Emptying literals keeps every first character that is no quote, and brings no other. -/
theorem head?_emptyLiterals {c : Char} (hc : isQuote c = false) (cs : List Char) :
    (emptyLiterals 0 cs).head? = some c ↔ cs.head? = some c := by
  cases cs with
  | nil => rfl
  | cons d cs =>
    rw [emptyLiterals]
    split
    · rename_i n hn
      have hd : isQuote d = true := by
        by_contra hd
        rw [Bool.not_eq_true] at hd
        rw [literalTail?_of_not_isQuote hd] at hn
        cases hn
      have hquote : '"' ≠ c := by
        rintro rfl
        revert hc
        decide
      have hne : d ≠ c := by
        rintro rfl
        rw [hc] at hd
        cases hd
      simp [hquote, hne]
    · rfl

theorem isCommentLine_of_isQuote {c : Char} (hc : isQuote c = true) (cs : List Char) :
    isCommentLine (c :: cs) = false := by
  have hne {d : Char} (hd : isQuote d = false) : c ≠ d := by
    rintro rfl
    rw [hc] at hd
    cases hd
  have hspace : c ≠ ' ' := hne (by decide)
  have htab : c ≠ '\t' := hne (by decide)
  have hhash : c ≠ '#' := hne (by decide)
  have hslash : c ≠ '/' := hne (by decide)
  simp [isCommentLine_cons, hspace, htab, hhash, hslash]

/-- A comment is one whether or not its literals have been emptied. -/
theorem isCommentLine_emptyLiterals (cs : List Char) :
    isCommentLine (emptyLiterals 0 cs) = isCommentLine cs := by
  induction cs with
  | nil => rfl
  | cons c cs ih =>
    by_cases hc : isQuote c = true
    · have hdouble : isQuote '"' = true := by decide
      rw [isCommentLine_of_isQuote hc, emptyLiterals]
      split
      · exact isCommentLine_of_isQuote hdouble _
      · exact isCommentLine_of_isQuote hc _
    · rw [Bool.not_eq_true] at hc
      have hslash : isQuote '/' = false := by decide
      rw [emptyLiterals_cons_of_not_isQuote hc, isCommentLine_cons, isCommentLine_cons, ih]
      simp only [head?_emptyLiterals hslash]

/-- The code of one line: nothing of a comment, the rest with its literals emptied. -/
def lineCode (line : String) : List Char :=
  if isCommentLine line.toList then [] else emptyLiterals 0 line.toList

/-- A line that is a comment or on which the scan ends. -/
def EndsScan (line : String) : Prop := isCommentLine line.toList = true ∨ Passes line.toList

theorem withoutComments_eq (s : String) :
    withoutComments s.toList =
      joinChars ((lines s).map fun line => if isCommentLine line.toList then [] else line.toList) := by
  rw [withoutComments, lines, List.map_map]
  refine congrArg joinChars (List.map_congr_left fun line _ => ?_)
  simp [Function.comp]

theorem emptyLiterals_joinChars {items : List (List Char)} (h : ∀ cs ∈ items, Passes cs) :
    emptyLiterals 0 (joinChars items) = joinChars (items.map (emptyLiterals 0)) := by
  have hfeed : isQuote '\n' = false := by decide
  induction items with
  | nil => rfl
  | cons cs items ih =>
    obtain ⟨hcs, hitems⟩ := List.forall_mem_cons.1 h
    cases items with
    | nil => rfl
    | cons ds items =>
      have hjoin : joinChars (cs :: ds :: items) = cs ++ '\n' :: joinChars (ds :: items) := rfl
      rw [hjoin, hcs _ (unquoted_cons.2 hfeed), emptyLiterals_cons_of_not_isQuote hfeed, ih hitems]
      rfl

/-- The code of a text is that of its lines, if the scan ends with each of them. -/
theorem codeChars_eq {s : String} (h : ∀ line ∈ lines s, EndsScan line) :
    codeChars s.toList = joinChars ((lines s).map lineCode) := by
  have hempty : Passes [] := passes_of_plain nofun
  rw [codeChars, withoutComments_eq, emptyLiterals_joinChars, List.map_map]
  · refine congrArg joinChars (List.map_congr_left fun line _ => ?_)
    simp only [Function.comp, lineCode]
    split <;> rfl
  · intro cs hcs
    obtain ⟨line, hline, rfl⟩ := List.mem_map.1 hcs
    split
    · exact hempty
    · rename_i hcomment
      exact (h line hline).resolve_left hcomment

/-- A line that can be read by itself: it is one line, and the scan that enters it outside of literals leaves
it so. -/
structure Tidy (line : String) : Prop where
  unbroken : Unbroken line
  ends : EndsScan line

/-! ## Lines that differ in user text only -/

/-- A line of one text beside its counterpart in another: the same line, or two lines without brackets that
differ inside literals, or two comments. -/
inductive Alike : String → String → Prop
  | same {line : String} (hline : Tidy line) : Alike line line
  | literal {a b : String} (ha : Unbroken a) (hb : Unbroken b) (hascan : Passes a.toList)
      (hbscan : Passes b.toList) (hcode : emptyLiterals 0 a.toList = emptyLiterals 0 b.toList)
      (hopen : '(' ∉ emptyLiterals 0 a.toList) : Alike a b
  | comment {a b : String} (ha : Unbroken a) (hb : Unbroken b) (hacomment : isCommentLine a.toList = true)
      (hbcomment : isCommentLine b.toList = true) : Alike a b

namespace Alike

variable {a b : String}

theorem left (h : Alike a b) : Tidy a := by
  cases h with
  | same hline => exact hline
  | literal ha _ hascan => exact ⟨ha, .inr hascan⟩
  | comment ha _ hacomment => exact ⟨ha, .inl hacomment⟩

theorem right (h : Alike a b) : Tidy b := by
  cases h with
  | same hline => exact hline
  | literal _ hb _ hbscan => exact ⟨hb, .inr hbscan⟩
  | comment _ hb _ hbcomment => exact ⟨hb, .inl hbcomment⟩

theorem lineCode_eq (h : Alike a b) : lineCode a = lineCode b := by
  cases h with
  | same => rfl
  | literal ha hb hascan hbscan hcode =>
    have hcomment : isCommentLine a.toList = isCommentLine b.toList := by
      rw [← isCommentLine_emptyLiterals, hcode, isCommentLine_emptyLiterals]
    rw [lineCode, lineCode, hcomment, hcode]
  | comment ha hb hacomment hbcomment => rw [lineCode, lineCode, if_pos hacomment, if_pos hbcomment]

end Alike

/-- Two lists of lines that are alike one by one. -/
def AlikeLines (as bs : List String) : Prop := List.Forall₂ Alike as bs

/-- Two texts whose lines are alike. -/
def AlikeTexts (s t : String) : Prop := AlikeLines (lines s) (lines t)

namespace AlikeLines

variable {as bs : List String}

theorem left (h : AlikeLines as bs) : ∀ a ∈ as, Tidy a := by
  induction h with
  | nil => exact nofun
  | cons hline _ ih => exact List.forall_mem_cons.2 ⟨hline.left, ih⟩

theorem right (h : AlikeLines as bs) : ∀ b ∈ bs, Tidy b := by
  induction h with
  | nil => exact nofun
  | cons hline _ ih => exact List.forall_mem_cons.2 ⟨hline.right, ih⟩

theorem lineCode_eq (h : AlikeLines as bs) : as.map lineCode = bs.map lineCode := by
  induction h with
  | nil => rfl
  | cons hline _ ih => rw [List.map_cons, List.map_cons, hline.lineCode_eq, ih]

theorem append {as' bs' : List String} (h : AlikeLines as bs) (h' : AlikeLines as' bs') :
    AlikeLines (as ++ as') (bs ++ bs') := List.rel_append h h'

theorem refl (h : ∀ a ∈ as, Tidy a) : AlikeLines as as := List.forall₂_same.2 fun a ha => .same (h a ha)

end AlikeLines

/-- Texts that are alike have the same code. -/
theorem AlikeTexts.codeChars_eq {s t : String} (h : AlikeTexts s t) :
    codeChars s.toList = codeChars t.toList := by
  rw [Code.codeChars_eq fun line hline => (h.left line hline).ends,
    Code.codeChars_eq fun line hline => (h.right line hline).ends, h.lineCode_eq]

theorem AlikeTexts.usedModules_eq {s t : String} (h : AlikeTexts s t) (candidates : List String) :
    usedModules s candidates = usedModules t candidates := by
  rw [usedModules, usedModules, h.codeChars_eq]

namespace AlikeTexts

variable {s t s' t' : String}

/-- Texts that follow each other on lines of their own. -/
theorem append (h : AlikeTexts s t) (h' : AlikeTexts s' t') :
    AlikeTexts (s ++ "\n" ++ s') (t ++ "\n" ++ t') := by
  rw [AlikeTexts, lines_append, lines_append]
  exact AlikeLines.append h h'

theorem empty : AlikeTexts "" "" := by
  have hline : Unbroken "" := nofun
  exact .cons (.same ⟨hline, .inr (passes_of_plain nofun)⟩) .nil

theorem joinLines {as bs : List String} (h : AlikeLines as bs) :
    AlikeTexts (joinLines as) (joinLines bs) := by
  by_cases hempty : as = []
  · subst hempty
    cases h
    exact empty
  · have hempty' : bs ≠ [] := by
      rintro rfl
      cases h
      exact hempty rfl
    rw [AlikeTexts, lines_joinLines (fun a ha => (h.left a ha).unbroken.oneLine) hempty,
      lines_joinLines (fun b hb => (h.right b hb).unbroken.oneLine) hempty']
    exact h

theorem blankLine (h : AlikeTexts s t) (h' : AlikeTexts s' t') :
    AlikeTexts (s ++ "\n\n" ++ s') (t ++ "\n\n" ++ t') := by
  rw [AlikeTexts, lines_blankLine, lines_blankLine]
  exact AlikeLines.append h (AlikeLines.append empty h')

/-- Sections with a blank line between them. -/
theorem joinSections {ss ts : List String} (h : List.Forall₂ AlikeTexts ss ts) :
    AlikeTexts (joinWith "\n\n" ss) (joinWith "\n\n" ts) := by
  induction h with
  | nil => exact empty
  | @cons s t ss ts hfirst hrest ih =>
    cases hrest with
    | nil => exact hfirst
    | cons hsecond hrest => exact hfirst.blankLine ih

end AlikeTexts

/-! ## Names in code -/

theorem occurs_append {text cs : List Char} {joined : Bool} (h : occurs text joined cs = true) (rest : List Char) :
    occurs text joined (cs ++ rest) = true := by
  induction cs generalizing joined with
  | nil => cases h
  | cons c cs ih =>
    rw [occurs, Bool.or_eq_true, Bool.and_eq_true] at h
    rw [List.cons_append, occurs, Bool.or_eq_true, Bool.and_eq_true]
    refine h.imp (fun hhere => ⟨hhere.1, ?_⟩) ih
    rw [List.isPrefixOf_iff_prefix] at hhere ⊢
    exact hhere.2.trans (List.prefix_append (c :: cs) rest)

/-- A line feed continues no name. -/
theorem occurs_after_feed {text rest : List Char} (h : occurs text false rest = true) (joined : Bool)
    (before : List Char) : occurs text joined (before ++ '\n' :: rest) = true := by
  have hfeed : (Unicode.isWord '\n' || '\n' = '.') = false := by decide
  induction before generalizing joined with
  | nil =>
    rw [List.nil_append, occurs, hfeed, h, Bool.or_true]
  | cons c before ih => rw [List.cons_append, occurs, ih, Bool.or_true]

/-- What occurs in a line occurs in the whole. -/
theorem occurs_joinChars {text cs : List Char} {items : List (List Char)} (hcs : cs ∈ items)
    (h : occurs text false cs = true) : occurs text false (joinChars items) = true := by
  induction items with
  | nil => cases hcs
  | cons ds items ih =>
    cases items with
    | nil =>
      rw [List.mem_singleton.1 hcs] at h
      exact h
    | cons es items =>
      rcases List.mem_cons.1 hcs with rfl | hcs
      · exact occurs_append h _
      · exact occurs_after_feed (ih hcs) false ds

/-- A text uses what one of its lines mentions. -/
theorem AlikeTexts.mem_usedModules {s t : String} (h : AlikeTexts s t) {line : String} (hline : line ∈ lines s)
    {name : String} (hname : mentions name.toList (lineCode line) = true) {candidates : List String}
    (hcandidate : name ∈ candidates) : name ∈ usedModules s candidates := by
  refine List.mem_filter.2 ⟨hcandidate, ?_⟩
  rw [Code.codeChars_eq fun line hline => (h.left line hline).ends]
  exact occurs_joinChars (List.mem_map_of_mem hline) hname

/-! ## Tabs -/

theorem plain_replicate {c : Char} (hc : isQuote c = false) (n : Nat) :
    ∀ d ∈ List.replicate n c, isQuote d = false := by
  intro d hd
  rw [List.eq_of_mem_replicate hd]
  exact hc

theorem exists_indent (cs : List Char) :
    ∃ n body, cs = List.replicate n ' ' ++ body ∧ body.head? ≠ some ' ' := by
  induction cs with
  | nil => exact ⟨0, [], rfl, nofun⟩
  | cons c cs ih =>
    by_cases hc : c = ' '
    · obtain ⟨n, body, rfl, hbody⟩ := ih
      exact ⟨n + 1, body, by rw [hc]; rfl, hbody⟩
    · exact ⟨0, c :: cs, rfl, by simpa using hc⟩

theorem tabIndentLine_indent (n : Nat) {body : List Char} (h : body.head? ≠ some ' ') :
    tabIndentLine (List.replicate n ' ' ++ body) =
      if body.isEmpty then [] else List.replicate (n / 4) '\t' ++ body := by
  have hbody : body.dropWhile (· = ' ') = body := by
    cases body with
    | nil => rfl
    | cons c body =>
      have hc : c ≠ ' ' := by simpa using h
      simp [hc]
  have hdrop : (List.replicate n ' ' ++ body).dropWhile (· = ' ') = body := by
    rw [List.dropWhile_append_of_pos (by simp), hbody]
  simp only [tabIndentLine, hdrop, List.length_append, List.length_replicate, Nat.add_sub_cancel]

/-- What follows a character that is no space stays as it is. -/
theorem tabIndentLine_append {cs : List Char} (h : cs.any (· ≠ ' ') = true) (rest : List Char) :
    tabIndentLine (cs ++ rest) = tabIndentLine cs ++ rest := by
  obtain ⟨n, body, rfl, hbody⟩ := exists_indent cs
  have hne : body ≠ [] := by
    rintro rfl
    simp at h
  have hmore : (body ++ rest).head? ≠ some ' ' := by rwa [List.head?_append_of_ne_nil _ hne]
  rw [List.append_assoc, tabIndentLine_indent n hmore, tabIndentLine_indent n hbody]
  simp [hne]

/-- A line with a fixed start; `after` is that start with its indent as tabs. -/
theorem ofList_tabIndentLine {before after : List Char} (h : before.any (· ≠ ' ') = true)
    (htabs : tabIndentLine before = after) (rest : String) :
    String.ofList (tabIndentLine (String.ofList before ++ rest).toList) = String.ofList after ++ rest := by
  rw [String.toList_append, String.toList_ofList, tabIndentLine_append h, htabs, String.ofList_append,
    String.ofList_toList]

theorem isEmpty_emptyLiterals (cs : List Char) : (emptyLiterals 0 cs).isEmpty = cs.isEmpty := by
  cases cs with
  | nil => rfl
  | cons c cs =>
    rw [emptyLiterals]
    split <;> rfl

/-- Turning the indent to tabs is no business of the scanner. -/
theorem emptyLiterals_tabIndentLine (cs : List Char) :
    emptyLiterals 0 (tabIndentLine cs) = tabIndentLine (emptyLiterals 0 cs) := by
  have hspace : isQuote ' ' = false := by decide
  have htab : isQuote '\t' = false := by decide
  obtain ⟨n, body, rfl, hbody⟩ := exists_indent cs
  have hcode : (emptyLiterals 0 body).head? ≠ some ' ' := by
    rwa [Ne, head?_emptyLiterals hspace]
  rw [emptyLiterals_append_of_plain (plain_replicate hspace n), tabIndentLine_indent n hbody,
    tabIndentLine_indent n hcode, isEmpty_emptyLiterals]
  split
  · rfl
  · exact emptyLiterals_append_of_plain (plain_replicate htab _) body

theorem passes_tabIndentLine {cs : List Char} (h : Passes cs) : Passes (tabIndentLine cs) := by
  have hspace : isQuote ' ' = false := by decide
  have htab : isQuote '\t' = false := by decide
  obtain ⟨n, body, rfl, hbody⟩ := exists_indent cs
  rw [tabIndentLine_indent n hbody]
  split
  · exact passes_of_plain nofun
  · exact (h.of_prepend_plain (plain_replicate hspace n)).prepend_plain (plain_replicate htab _)

theorem isCommentLine_blanks {c : Char} (hc : c = ' ' ∨ c = '\t') (n : Nat) (cs : List Char) :
    isCommentLine (List.replicate n c ++ cs) = isCommentLine cs := by
  induction n with
  | zero => rfl
  | succ n ih => rw [List.replicate_succ, List.cons_append, isCommentLine_cons, if_pos hc, ih]

theorem isCommentLine_tabIndentLine (cs : List Char) :
    isCommentLine (tabIndentLine cs) = isCommentLine cs := by
  obtain ⟨n, body, rfl, hbody⟩ := exists_indent cs
  rw [tabIndentLine_indent n hbody, isCommentLine_blanks (.inl rfl)]
  split
  · rename_i hempty
    rw [List.isEmpty_iff.1 hempty]
  · exact isCommentLine_blanks (.inr rfl) _ body

theorem mem_tabIndentLine {c : Char} {cs : List Char} (h : c ∈ tabIndentLine cs) : c = '\t' ∨ c ∈ cs := by
  obtain ⟨n, body, rfl, hbody⟩ := exists_indent cs
  rw [tabIndentLine_indent n hbody] at h
  split at h
  · cases h
  · rcases List.mem_append.1 h with h | h
    · exact .inl (List.eq_of_mem_replicate h)
    · exact .inr (List.mem_append_right _ h)

theorem unbroken_tabIndentLine {line : String} (h : Unbroken line) :
    Unbroken (String.ofList (tabIndentLine line.toList)) := by
  intro c hc
  rw [String.toList_ofList] at hc
  rcases mem_tabIndentLine hc with rfl | hc
  · decide
  · exact h c hc

theorem Alike.tabIndentLine {a b : String} (h : Alike a b) :
    Alike (String.ofList (tabIndentLine a.toList)) (String.ofList (tabIndentLine b.toList)) := by
  cases h with
  | same hline =>
    refine .same ⟨unbroken_tabIndentLine hline.unbroken, ?_⟩
    rw [EndsScan, String.toList_ofList, isCommentLine_tabIndentLine]
    exact hline.ends.imp_right passes_tabIndentLine
  | literal ha hb hascan hbscan hcode hopen =>
    refine .literal (unbroken_tabIndentLine ha) (unbroken_tabIndentLine hb) ?_ ?_ ?_ ?_
    · rw [String.toList_ofList]
      exact passes_tabIndentLine hascan
    · rw [String.toList_ofList]
      exact passes_tabIndentLine hbscan
    · rw [String.toList_ofList, String.toList_ofList, emptyLiterals_tabIndentLine, emptyLiterals_tabIndentLine,
        hcode]
    · rw [String.toList_ofList, emptyLiterals_tabIndentLine]
      intro hmem
      exact hopen ((mem_tabIndentLine hmem).resolve_left (by decide))
  | comment ha hb hacomment hbcomment =>
    refine .comment (unbroken_tabIndentLine ha) (unbroken_tabIndentLine hb) ?_ ?_
    · rwa [String.toList_ofList, isCommentLine_tabIndentLine]
    · rwa [String.toList_ofList, isCommentLine_tabIndentLine]

theorem AlikeTexts.tabIndent {s t : String} (h : AlikeTexts s t) : AlikeTexts (tabIndent s) (tabIndent t) := by
  rw [AlikeTexts, lines_tabIndent_of_lines rfl, lines_tabIndent_of_lines rfl, AlikeLines,
    List.forall₂_map_left_iff, List.forall₂_map_right_iff]
  exact h.imp fun a b => Alike.tabIndentLine

end DashboardCompiler.Code
