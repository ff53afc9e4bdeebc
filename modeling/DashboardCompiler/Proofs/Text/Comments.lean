import DashboardCompiler.Proofs.Text.Declarations

/-!
# Code without its comments

Two texts have the same code if they are the same once their empty lines and their line comments are deleted.
Assembly respects that, and so does the scan for the modules that a text uses, which finds nothing in the lines
that go. Optional comments are all written at the margin, so the proofs delete only the comments there.
-/

namespace DashboardCompiler.Code

open Text

/-- Whether a line is empty, or has two slashes before everything else that is not blank. -/
def isNote (line : String) : Bool :=
  line.isEmpty || ['/', '/'].isPrefixOf (line.toList.dropWhile Unicode.isBlank)

/-- The lines of a text that are left once the empty ones and the comments are deleted. -/
def codeLines (s : String) : List String := (lines s).filter (!isNote ·)

/-- Whether a line is empty or a comment at the margin. -/
def isMarginNote (line : List Char) : Bool := line.isEmpty || ['/', '/'].isPrefixOf line

def bareLine? (line : List Char) : Option (List Char) := if isMarginNote line then none else some line

/-- The lines of a text that are neither empty nor comments at the margin. -/
def bareLines (s : String) : List String := declaredNames bareLine? s

/-! ## Single lines -/

theorem isMarginNote_iff {line : List Char} :
    isMarginNote line = true ↔ line = [] ∨ ∃ rest, line = '/' :: '/' :: rest := by
  rw [isMarginNote, Bool.or_eq_true, List.isEmpty_iff, List.isPrefixOf_iff_prefix]
  exact or_congr_right (exists_congr fun rest => eq_comm)

theorem isNote_of_isMarginNote {line : String} (h : isMarginNote line.toList = true) : isNote line = true := by
  have hslash : Unicode.isBlank '/' = false := by decide
  rw [isNote, Bool.or_eq_true]
  rcases isMarginNote_iff.1 h with hempty | ⟨rest, hrest⟩
  · exact .inl (String.isEmpty_iff.2 (String.toList_eq_nil_iff.1 hempty))
  · rw [hrest, List.dropWhile_cons_of_neg (by simp [hslash])]
    exact .inr rfl

theorem lineCode_of_isMarginNote {line : String} (h : isMarginNote line.toList = true) : lineCode line = [] := by
  rcases isMarginNote_iff.1 h with hempty | ⟨rest, hrest⟩
  · rw [lineCode, hempty]
    rfl
  · rw [lineCode, hrest]
    rfl

/-- Tabs for spaces make no code of an empty line or a comment. -/
theorem isMarginNote_tabIndentLine {line : List Char} (h : isMarginNote line = true) :
    isMarginNote (tabIndentLine line) = true := by
  rcases isMarginNote_iff.1 h with rfl | ⟨rest, rfl⟩
  · rfl
  · rw [tabIndentLine_of_ne (by decide)]
    exact h

/-! ## Texts -/

theorem bareLines_eq (s : String) : bareLines s = (lines s).filter fun line => !isMarginNote line.toList := by
  have hread (line : String) : (bareLine? line.toList).map String.ofList =
      Option.guard (fun line => !isMarginNote line.toList) line := by
    rw [bareLine?, Option.guard]
    cases isMarginNote line.toList with
    | true => rfl
    | false => exact congrArg some String.ofList_toList
  rw [bareLines, declaredNames, readNames, funext hread, List.filterMap_eq_filter]

theorem codeLines_eq (s : String) : codeLines s = (bareLines s).filter (!isNote ·) := by
  rw [bareLines_eq, List.filter_filter]
  refine List.filter_congr fun line _ => ?_
  cases hmargin : isMarginNote line.toList with
  | true => rw [isNote_of_isMarginNote hmargin]; rfl
  | false => rw [Bool.not_false, Bool.and_true]

example : codeLines "// a\n\n\t// b\nx := 1 // c" = ["x := 1 // c"] := by decide

theorem bareLines_joinLines (items : List String) : bareLines (joinLines items) = items.flatMap bareLines :=
  declaredNames_joinWith declaredNames_feed rfl items

theorem bareLines_joinWith (sections : List String) :
    bareLines (joinWith "\n\n" sections) = sections.flatMap bareLines :=
  declaredNames_joinWith (separates_blankLine rfl) rfl sections

/-- A first section that has no code if it is blank. -/
theorem bareLines_joinSections_cons {s : String} (hs : isBlankText s = true → bareLines s = [])
    (sections : List String) :
    bareLines (joinSections (s :: sections) "\n\n") = bareLines s ++ bareLines (joinSections sections "\n\n") :=
  declaredNames_joinSections_cons (separates_blankLine rfl) rfl hs sections

theorem bareLines_tabIndent (s : String) :
    bareLines (tabIndent s) = ((bareLines s).map fun line => String.ofList (tabIndentLine line.toList)).filter
      fun line => !isMarginNote line.toList := by
  rw [bareLines_eq, bareLines_eq, lines_tabIndent_of_lines rfl, List.filter_map, List.filter_map, List.filter_filter]
  refine congrArg (List.map _) (List.filter_congr fun line _ => ?_)
  simp only [Function.comp_apply, String.toList_ofList]
  cases hmargin : isMarginNote line.toList with
  | true => rw [isMarginNote_tabIndentLine hmargin]; rfl
  | false => rw [Bool.not_false, Bool.and_true]

/-! ## Optional comments -/

/-- A comment at the margin has no code. -/
theorem bareLines_comment {cs : List Char} {line : String} (h : Unbroken line)
    (hbegins : Begins ('/' :: '/' :: cs) line) : bareLines line = [] := by
  obtain ⟨rest, hrest⟩ := hbegins.exists_append
  have hmargin : isMarginNote line.toList = true := isMarginNote_iff.2 (.inr ⟨cs ++ rest, hrest⟩)
  rw [bareLines_eq, lines_of_oneLine h.oneLine, List.filter_cons_of_neg (by simp [hmargin]), List.filter_nil]

/-- Lines without code may stand between others or be left out. -/
theorem bareLines_optional (before : List String) {comments after : List String}
    (h : ∀ line ∈ comments, bareLines line = []) (shown : Bool) :
    bareLines (joinLines (before ++ ((if shown then comments else []) ++ after))) =
      bareLines (joinLines (before ++ after)) := by
  have hnone : (if shown then comments else []).flatMap bareLines = [] := by
    refine List.flatMap_eq_nil_iff.2 fun line hline => ?_
    cases shown with
    | true => exact h line hline
    | false => cases hline
  rw [bareLines_joinLines, bareLines_joinLines, List.flatMap_append, List.flatMap_append, hnone, List.nil_append,
    List.flatMap_append]

theorem bareLines_leading {comments items : List String} (h : ∀ line ∈ comments, bareLines line = []) (shown : Bool) :
    bareLines (joinLines ((if shown then comments else []) ++ items)) = bareLines (joinLines items) :=
  bareLines_optional [] h shown

/-! ## The scan -/

/-- The scan ends with each line of a text, so that its code is the code of its lines. -/
def Scans (s : String) : Prop := ∀ line ∈ lines s, EndsScan line

theorem AlikeTexts.scans {s t : String} (h : AlikeTexts s t) : Scans s := fun line hline => (h.left line hline).ends

theorem Scans.append {s t : String} (hs : Scans s) (ht : Scans t) : Scans (s ++ "\n" ++ t) := by
  rw [Scans, lines_append]
  exact List.forall_mem_append.2 ⟨hs, ht⟩

/-- A text without line feeds begins with a line if it begins with that line and all that follows it. -/
theorem isPrefixOf_append_feed {text : List Char} (htext : '\n' ∉ text) (cs rest : List Char) :
    text.isPrefixOf (cs ++ '\n' :: rest) = text.isPrefixOf cs := by
  rw [Bool.eq_iff_iff, List.isPrefixOf_iff_prefix, List.isPrefixOf_iff_prefix]
  refine ⟨fun h => ?_, fun h => h.trans (List.prefix_append _ _)⟩
  rcases List.prefix_or_prefix_of_prefix h (List.prefix_append cs ('\n' :: rest)) with hline | ⟨more, rfl⟩
  · exact hline
  · have hmore : more <+: '\n' :: rest := (List.prefix_append_right_inj cs).1 h
    cases more with
    | nil => simp
    | cons c more =>
      obtain ⟨rfl, -⟩ := List.cons_prefix_cons.1 hmore
      exact absurd (List.mem_append_right cs List.mem_cons_self) htext

/-- What occurs in two lines occurs in one of them. -/
theorem occurs_append_feed {text : List Char} (hne : text ≠ []) (htext : '\n' ∉ text) (joined : Bool)
    (cs rest : List Char) :
    occurs text joined (cs ++ '\n' :: rest) = (occurs text joined cs || occurs text false rest) := by
  have hfeed : (Unicode.isWord '\n' || '\n' = '.') = false := by decide
  induction cs generalizing joined with
  | nil =>
    have hhere : text.isPrefixOf ('\n' :: rest) = text.isPrefixOf [] := isPrefixOf_append_feed htext [] rest
    have hnone : text.isPrefixOf [] = false := by
      cases text with
      | nil => exact absurd rfl hne
      | cons => rfl
    have hend : occurs text joined [] = false := rfl
    rw [hend, Bool.false_or, List.nil_append, occurs, hhere, hnone, Bool.and_false, Bool.false_or, hfeed]
  | cons c cs ih =>
    have hhere : text.isPrefixOf (c :: (cs ++ '\n' :: rest)) = text.isPrefixOf (c :: cs) :=
      isPrefixOf_append_feed htext (c :: cs) rest
    rw [List.cons_append, occurs, occurs, hhere, ih, Bool.or_assoc]

theorem occurs_joinChars_eq {text : List Char} (hne : text ≠ []) (htext : '\n' ∉ text) (items : List (List Char)) :
    occurs text false (joinChars items) = items.any (occurs text false) := by
  induction items with
  | nil => rfl
  | cons cs items ih =>
    cases items with
    | nil => rw [List.any_cons, List.any_nil, Bool.or_false]; rfl
    | cons ds items =>
      have hjoin : joinChars (cs :: ds :: items) = cs ++ '\n' :: joinChars (ds :: items) := rfl
      rw [hjoin, occurs_append_feed hne htext, ih]
      rfl

/-- Nothing occurs in the code of a text but what occurs in its bare lines. -/
theorem occurs_codeChars {text : List Char} (hne : text ≠ []) (htext : '\n' ∉ text) {s : String} (h : Scans s) :
    occurs text false (codeChars s.toList) = (bareLines s).any fun line => occurs text false (lineCode line) := by
  rw [codeChars_eq h, occurs_joinChars_eq hne htext, List.any_map, bareLines_eq, List.any_filter]
  refine congrArg (List.any (lines s)) (funext fun line => ?_)
  cases hmargin : isMarginNote line.toList with
  | true => rw [Function.comp_apply, lineCode_of_isMarginNote hmargin]; rfl
  | false => rw [Bool.not_false, Bool.true_and, Function.comp_apply]

theorem occurs_congr {text : List Char} (hne : text ≠ []) (htext : '\n' ∉ text) {s t : String} (hs : Scans s)
    (ht : Scans t) (h : bareLines s = bareLines t) :
    occurs text false (codeChars s.toList) = occurs text false (codeChars t.toList) := by
  rw [occurs_codeChars hne htext hs, occurs_codeChars hne htext ht, h]

/-- Texts with the same bare lines use the same modules. -/
theorem usedModules_congr {s t : String} (hs : Scans s) (ht : Scans t) (h : bareLines s = bareLines t)
    {candidates : List String} (hcandidates : ∀ name ∈ candidates, '\n' ∉ name.toList) :
    usedModules s candidates = usedModules t candidates := by
  refine List.filter_congr fun name hname => ?_
  have hfeed : '\n' ∉ name.toList ++ ['.'] := by simpa using hcandidates name hname
  exact occurs_congr (by simp) hfeed hs ht h

end DashboardCompiler.Code
