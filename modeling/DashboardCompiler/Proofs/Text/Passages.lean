import DashboardCompiler.Proofs.Text.LongLiteral
import DashboardCompiler.Proofs.Text.Tidy
import DashboardCompiler.Text.Find

/-!
# Passages of code

A text may be scanned by itself, and so may whatever follows it on the next line, if the scan ends with the text. This
holds of tidy lines and of texts that document a function between triple quotes, and of any such texts one below the
other. Two passages with the same code can therefore stand for each other in a file, even above a text of which
nothing is known. Searching a file for a text on one line is simpler: it is searching the lines.
-/

namespace DashboardCompiler

/-- Two blank lines are two empty texts, each on a line of its own. -/
theorem Text.append_blankLines (s t : String) :
    s ++ "\n\n\n" ++ t = s ++ "\n" ++ ("" ++ "\n" ++ ("" ++ "\n" ++ t)) := by
  have hgap : "\n\n\n" = "\n" ++ "\n" ++ "\n" := rfl
  rw [hgap]
  simp only [String.append_assoc, String.empty_append]

namespace Code

open Text

/-! ## Documentation -/

theorem closeTriple_bounds {quote : Char} {cs : List Char} {n : Nat} (h : closeTriple quote cs = some n) :
    3 ≤ n ∧ n ≤ cs.length := by
  induction cs generalizing n with
  | nil => cases h
  | cons c cs ih =>
    rw [closeTriple] at h
    split at h
    · rename_i hprefix
      have hlength := (List.isPrefixOf_iff_prefix.1 hprefix).length_le
      cases h
      exact ⟨le_rfl, hlength⟩
    · obtain ⟨m, hm, rfl⟩ := Option.map_eq_some_iff.1 h
      obtain ⟨hleast, hmost⟩ := ih hm
      rw [List.length_cons]
      omega

/-- A long literal that is closed stays closed, whatever follows. -/
theorem closeTriple_append {quote : Char} {cs : List Char} {n : Nat} (h : closeTriple quote cs = some n)
    (rest : List Char) : closeTriple quote (cs ++ rest) = some n := by
  induction cs generalizing n with
  | nil => cases h
  | cons c cs ih =>
    rw [List.cons_append, closeTriple]
    rw [closeTriple] at h
    split at h
    · rename_i hprefix
      have hstill : [quote, quote, quote] <+: c :: (cs ++ rest) :=
        (List.isPrefixOf_iff_prefix.1 hprefix).trans (List.prefix_append (c :: cs) rest)
      rw [if_pos (List.isPrefixOf_iff_prefix.2 hstill), h]
    · rename_i hprefix
      obtain ⟨m, hm, rfl⟩ := Option.map_eq_some_iff.1 h
      have hno : ¬[quote, quote, quote].isPrefixOf (c :: (cs ++ rest)) = true := by
        intro hlater
        -- The closing quotes come later, so there are three characters here to compare.
        have hroom : [quote, quote, quote].length ≤ (c :: cs).length := by
          have hbounds := closeTriple_bounds hm
          simp only [List.length_cons, List.length_nil]
          omega
        exact hprefix (List.isPrefixOf_iff_prefix.2 (List.prefix_of_prefix_length_le
          (List.isPrefixOf_iff_prefix.1 hlater) (List.prefix_append (c :: cs) rest) hroom))
      rw [if_neg hno, ih hm, Option.map_some]

/-- Whether a text is one literal in triple double quotes, after some spaces. -/
def isDocumentation (cs : List Char) : Bool :=
  match cs.dropWhile (· = ' ') with
  | '"' :: '"' :: '"' :: body => closeTriple '"' body = some body.length
  | _ => false

theorem passes_longLiteral {body : List Char} (h : closeTriple '"' body = some body.length) :
    Passes ('"' :: '"' :: '"' :: body) := by
  have hcode (rest : List Char) :
      emptyLiterals 0 ('"' :: '"' :: '"' :: (body ++ rest)) = '"' :: '"' :: emptyLiterals 0 rest := by
    have htail : literalTail? '"' ('"' :: '"' :: (body ++ rest)) = some (body.length + 2) := by
      simp [literalTail?, closeTriple_append h]
    rw [emptyLiterals, htail]
    exact congrArg (fun code => '"' :: '"' :: code) (emptyLiterals_skip ('"' :: '"' :: body) rest)
  intro rest _
  have hwhole := hcode []
  rw [List.append_nil, emptyLiterals] at hwhole
  rw [List.cons_append, List.cons_append, List.cons_append, hcode, hwhole]
  rfl

theorem passes_documentation {cs : List Char} (h : isDocumentation cs = true) : Passes cs := by
  have hindent : ∀ c ∈ cs.takeWhile (· = ' '), isQuote c = false := by
    intro c hc
    have hspace : c = ' ' := by simpa using List.mem_takeWhile_imp hc
    subst hspace
    decide
  unfold isDocumentation at h
  split at h
  · rename_i body hbody
    have hpasses := (passes_longLiteral (of_decide_eq_true h)).prepend_plain hindent
    rwa [← hbody, List.takeWhile_append_dropWhile] at hpasses
  · cases h

/-- A line of documentation is no less tidy than a line of code. -/
theorem tidy_documentation {cs : List Char} (hbreak : cs.all (!isBreak ·) = true) (h : isDocumentation cs = true) :
    Tidy (String.ofList cs) := by
  refine ⟨unbroken_ofList hbreak, .inr ?_⟩
  rw [String.toList_ofList]
  exact passes_documentation h

/-- A line of documentation that is written in three parts. -/
theorem tidy_documentation_append {as bs cs : List Char} (hbreak : (as ++ bs ++ cs).all (!isBreak ·) = true)
    (h : isDocumentation (as ++ bs ++ cs) = true) :
    Tidy (String.ofList as ++ String.ofList bs ++ String.ofList cs) := by
  rw [← String.ofList_append, ← String.ofList_append]
  exact tidy_documentation hbreak h

theorem Spelled.tidyLines_documented {items : List String} {css : List (List Char)} (h : Spelled items css)
    (hfixed : css.all (fun cs => isTidy cs || (cs.all (!isBreak ·) && isDocumentation cs)) = true) :
    TidyLines items := by
  induction h with
  | nil => exact .nil
  | fixed _ ih =>
    rw [List.all_cons, Bool.and_eq_true, Bool.or_eq_true, Bool.and_eq_true] at hfixed
    exact .cons (hfixed.1.elim tidy_ofList fun h => tidy_documentation h.1 h.2) (ih hfixed.2)
  | made hline _ ih => exact .cons hline (ih hfixed)

/-! ## Passages -/

/-- The scan ends with the text. -/
def Passage (s : String) : Prop := Passes (withoutComments s.toList)

theorem joinChars_append {before after : List (List Char)} (hbefore : before ≠ []) (hafter : after ≠ []) :
    joinChars (before ++ after) = joinChars before ++ '\n' :: joinChars after := by
  induction before with
  | nil => exact absurd rfl hbefore
  | cons line before ih =>
    cases before with
    | nil =>
      obtain ⟨first, rest, rfl⟩ := List.exists_cons_of_ne_nil hafter
      rfl
    | cons next before =>
      have hfirst (rest : List (List Char)) : joinChars (line :: next :: rest) = line ++ '\n' :: joinChars (next :: rest) := rfl
      have hrest := ih (List.cons_ne_nil _ _)
      rw [List.cons_append] at hrest
      rw [List.cons_append, List.cons_append, hfirst, hfirst, hrest, List.append_assoc, List.cons_append]

theorem withoutComments_append (s t : String) : withoutComments (s ++ "\n" ++ t).toList =
    withoutComments s.toList ++ '\n' :: withoutComments t.toList := by
  have hlines (s : String) : (lines s).map (fun line => if isCommentLine line.toList then [] else line.toList) ≠ [] := by
    simpa [lines] using splitAtFeeds_ne_nil s.toList
  rw [withoutComments_eq, withoutComments_eq, withoutComments_eq, lines_append, List.map_append,
    joinChars_append (hlines s) (hlines t)]

/-- What follows a passage on the next line is scanned by itself. -/
theorem Passage.codeChars_append {s : String} (hs : Passage s) (t : String) :
    codeChars (s ++ "\n" ++ t).toList = codeChars s.toList ++ '\n' :: codeChars t.toList := by
  have hfeed : isQuote '\n' = false := by decide
  rw [codeChars, withoutComments_append, hs _ (unquoted_cons.2 hfeed), emptyLiterals_cons_of_not_isQuote hfeed]
  rfl

theorem Passes.append_feed {cs ds : List Char} (hcs : Passes cs) (hds : Passes ds) : Passes (cs ++ '\n' :: ds) := by
  have hfeed : ∀ c ∈ ['\n'], isQuote c = false := List.forall_mem_singleton.2 (by decide)
  exact hcs.append (Passes.prepend_plain hfeed hds) (unquoted_cons.2 (by decide))

theorem Passage.append {s t : String} (hs : Passage s) (ht : Passage t) : Passage (s ++ "\n" ++ t) := by
  rw [Passage, withoutComments_append]
  exact Passes.append_feed hs ht

theorem passes_joinChars {items : List (List Char)} (h : ∀ cs ∈ items, Passes cs) : Passes (joinChars items) := by
  induction items with
  | nil => exact passes_of_plain nofun
  | cons cs items ih =>
    obtain ⟨hcs, hitems⟩ := List.forall_mem_cons.1 h
    cases items with
    | nil => exact hcs
    | cons ds items => exact hcs.append_feed (ih hitems)

theorem passage_of_lines {s : String} (h : ∀ line ∈ lines s, EndsScan line) : Passage s := by
  rw [Passage, withoutComments_eq]
  refine passes_joinChars fun cs hcs => ?_
  obtain ⟨line, hline, rfl⟩ := List.mem_map.1 hcs
  split
  · exact passes_of_plain nofun
  · rename_i hcomment
    exact (h line hline).resolve_left hcomment

/-- Documentation of several lines, which are read as one literal. -/
theorem passage_documentation {items : List String} {css : List (List Char)}
    (hitems : List.Forall₂ (fun s cs => s = String.ofList cs) items css) (hne : items ≠ [])
    (hlines : css.all (fun cs => cs.all (!isBreak ·) && !isCommentLine cs) = true)
    (h : isDocumentation (joinChars css) = true) : Passage (joinLines items) := by
  have hspelled : items = css.map String.ofList := by
    rwa [← List.forall₂_eq_eq_eq, List.forall₂_map_right_iff]
  have hline {cs : List Char} (hcs : cs ∈ css) : cs.all (!isBreak ·) = true ∧ isCommentLine cs = false := by
    simpa only [Bool.and_eq_true, Bool.not_eq_true'] using List.all_eq_true.1 hlines cs hcs
  have hone : ∀ s ∈ items, OneLine s := by
    rw [hspelled]
    exact List.forall_mem_map.2 fun cs hcs => (unbroken_ofList (hline hcs).1).oneLine
  have hkept : (css.map fun cs => if isCommentLine cs then [] else cs) = css := by
    refine (List.map_congr_left fun cs hcs => ?_).trans (List.map_id css)
    rw [(hline hcs).2]
    rfl
  rw [Passage, withoutComments_eq, lines_joinLines hone hne, hspelled, List.map_map]
  simp only [Function.comp_def, String.toList_ofList, hkept]
  exact passes_documentation h

theorem passage_empty : Passage "" := passes_of_plain nofun

theorem TidyLines.passage {items : List String} (h : TidyLines items) : Passage (joinLines items) :=
  passage_of_lines fun line hline => (h.alikeTexts.left line hline).ends

theorem passage_joinLines_append {before after : List String} (hne : before ≠ []) (hne' : after ≠ [])
    (hbefore : Passage (joinLines before)) (hafter : Passage (joinLines after)) :
    Passage (joinLines (before ++ after)) := by
  rw [joinLines, joinWith_append _ hne hne']
  exact hbefore.append hafter

/-- Sections of which each is a passage. -/
theorem passage_sections {items : List String} (h : ∀ s ∈ items, Passage s) : Passage (joinWith "\n\n\n" items) := by
  refine joinWith_induction passage_empty (fun s t hs ht => ?_) h
  rw [append_blankLines]
  exact hs.append (passage_empty.append (passage_empty.append ht))

/-! ## Passages with the same code -/

/-- Passages that can stand for each other. -/
structure SameCode (s t : String) : Prop where
  left : Passage s
  right : Passage t
  code : codeChars s.toList = codeChars t.toList

theorem SameCode.refl {s : String} (h : Passage s) : SameCode s s := ⟨h, h, rfl⟩

theorem AlikeTexts.sameCode {s t : String} (h : AlikeTexts s t) : SameCode s t :=
  ⟨passage_of_lines fun line hline => (h.left line hline).ends, passage_of_lines fun line hline => (h.right line hline).ends,
    h.codeChars_eq⟩

namespace SameCode

variable {s t s' t' : String}

theorem codeChars_append (h : SameCode s t) (h' : codeChars s'.toList = codeChars t'.toList) :
    codeChars (s ++ "\n" ++ s').toList = codeChars (t ++ "\n" ++ t').toList := by
  rw [h.left.codeChars_append, h.right.codeChars_append, h.code, h']

/-- Files that begin with such passages and are the same from there on. -/
theorem codeChars_sections {ss ts : List String} (h : List.Forall₂ SameCode ss ts) (rest : List String) :
    codeChars (joinWith "\n\n\n" (ss ++ rest) ++ "\n").toList =
      codeChars (joinWith "\n\n\n" (ts ++ rest) ++ "\n").toList := by
  induction h with
  | nil => rfl
  | @cons s t ss ts hfirst hmore ih =>
    by_cases hempty : ss ++ rest = []
    · obtain ⟨rfl, rfl⟩ := List.append_eq_nil_iff.1 hempty
      cases hmore
      have hend := hfirst.codeChars_append (SameCode.refl passage_empty).code
      rwa [String.append_empty, String.append_empty] at hend
    · have hempty' : ts ++ rest ≠ [] := by
        intro hnil
        obtain ⟨rfl, rfl⟩ := List.append_eq_nil_iff.1 hnil
        cases hmore
        exact hempty rfl
      have hblank := SameCode.refl passage_empty
      have hgap := hfirst.codeChars_append (hblank.codeChars_append (hblank.codeChars_append ih))
      have hapart (s t : String) : s ++ "\n\n\n" ++ t ++ "\n" = s ++ "\n" ++ ("" ++ "\n" ++ ("" ++ "\n" ++ (t ++ "\n"))) := by
        rw [String.append_assoc, append_blankLines]
      rw [List.cons_append, List.cons_append, joinWith_cons_of_ne_nil _ _ hempty, joinWith_cons_of_ne_nil _ _ hempty',
        hapart, hapart]
      exact hgap

end SameCode

end Code

namespace Text

/-! ## Searching -/

theorem occursIn_iff {pattern cs : List Char} : occursIn pattern cs = true ↔ pattern <:+: cs := by
  induction cs with
  | nil => rw [occursIn, List.isEmpty_iff, List.infix_nil]
  | cons c cs ih => rw [occursIn, Bool.or_eq_true, List.isPrefixOf_iff_prefix, ih, List.infix_cons_iff]

/-- Whether a text has some text in it. -/
def Has (s pattern : String) : Prop := pattern.toList <:+: s.toList

theorem contains_iff {s pattern : String} : contains s pattern = true ↔ Has s pattern := occursIn_iff

instance (s pattern : String) : Decidable (Has s pattern) := decidable_of_iff _ contains_iff

section Searching

variable {pattern : String}

theorem not_has_empty (hne : pattern ≠ "") : ¬ Has "" pattern := by
  rw [Has, String.toList_empty, List.infix_nil, String.toList_eq_nil_iff]
  exact hne

/-- Nothing begins with a character that is not looked for. -/
theorem has_prepend {before : List Char} (h : ∀ c ∈ before, c ∉ pattern.toList) (s : String) :
    Has (String.ofList before ++ s) pattern ↔ Has s pattern := by
  rw [Has, String.toList_append, String.toList_ofList]
  induction before with
  | nil => rfl
  | cons c before ih =>
    obtain ⟨hc, hbefore⟩ := List.forall_mem_cons.1 h
    have hseam := Code.infix_append_cons_iff hc [] (before ++ s.toList)
    have hempty : pattern.toList <:+: [] → pattern.toList <:+: before ++ s.toList := fun h => h.trans List.nil_infix
    rw [List.nil_append, or_iff_right_of_imp hempty] at hseam
    rw [List.cons_append, hseam]
    exact ih hbefore

/-- What is on one line is found in one of two texts or in the other. -/
theorem has_append (hone : OneLine pattern) (s t : String) : Has (s ++ "\n" ++ t) pattern ↔ Has s pattern ∨ Has t pattern := by
  have hchars : (s ++ "\n" ++ t).toList = s.toList ++ '\n' :: t.toList := by simp
  rw [Has, hchars]
  exact Code.infix_append_cons_iff hone s.toList t.toList

theorem has_joinLines (hone : OneLine pattern) (hne : pattern ≠ "") (items : List String) :
    Has (joinLines items) pattern ↔ ∃ line ∈ items, Has line pattern :=
  joinWith_iff_exists (P := (Has · pattern)) (not_has_empty hne) (has_append hone) items

theorem has_sections (hone : OneLine pattern) (hne : pattern ≠ "") (items : List String) :
    Has (joinWith "\n\n\n" items ++ "\n") pattern ↔ ∃ s ∈ items, Has s pattern := by
  have hend (s : String) : Has (s ++ "\n") pattern ↔ Has s pattern := by
    have happend := has_append hone s ""
    rwa [String.append_empty, or_iff_left (not_has_empty hne)] at happend
  rw [hend]
  refine joinWith_iff_exists (P := (Has · pattern)) (not_has_empty hne) (fun s t => ?_) items
  rw [append_blankLines, has_append hone, has_append hone, has_append hone]
  simp only [not_has_empty hne, false_or]

/-- What has no quote in it is found before a quoted text or within. -/
theorem has_quoted (hquotes : '\'' ∉ pattern.toList ∧ '"' ∉ pattern.toList) (before s : String) :
    Has (before ++ sourceQuoted s) pattern ↔ Has before pattern ∨ Has (sourceQuoted s) pattern := by
  have hquote : preferredQuote s.toList ∉ pattern.toList := by
    unfold preferredQuote
    split
    · exact hquotes.2
    · exact hquotes.1
  obtain ⟨body, hbody⟩ : ∃ body, (sourceQuoted s).toList = preferredQuote s.toList :: body := by
    rw [sourceQuoted, String.toList_ofList]
    exact ⟨_, rfl⟩
  have hwithin : Has (sourceQuoted s) pattern ↔ pattern.toList <:+: [] ∨ pattern.toList <:+: body := by
    rw [Has, hbody]
    exact Code.infix_append_cons_iff hquote [] body
  have hempty : pattern.toList <:+: [] → Has before pattern := fun h => h.trans (List.nil_infix)
  rw [hwithin, Has, String.toList_append, hbody, Code.infix_append_cons_iff hquote, ← or_assoc, or_iff_left_of_imp hempty]
  rfl

end Searching

end Text

end DashboardCompiler
