import DashboardCompiler.Text.Lines
import Mathlib.Data.List.TakeWhile

/-!
# Lines and sections of assembled text

Generated text is put together by joining: pieces into lines, lines into sections, sections into files.
`lines` reads the joined lines back as long as no piece brings a line feed of its own. `joinSections` drops
and trims its sections in general; for solid ones it does nothing but put the separator between them, so
that nothing of a section is lost.
-/

namespace DashboardCompiler.Text

/-! ## Joining -/

theorem joinWith_cons_of_ne_nil (separator s : String) {rest : List String} (h : rest ≠ []) :
    joinWith separator (s :: rest) = s ++ separator ++ joinWith separator rest := by
  cases rest with
  | nil => exact absurd rfl h
  | cons t rest => rfl

theorem joinWith_append (separator : String) {before after : List String} (hbefore : before ≠ [])
    (hafter : after ≠ []) :
    joinWith separator (before ++ after) =
      joinWith separator before ++ separator ++ joinWith separator after := by
  induction before with
  | nil => exact absurd rfl hbefore
  | cons s before ih =>
    have hmore : before ++ after ≠ [] := List.append_ne_nil_of_right_ne_nil _ hafter
    rw [List.cons_append, joinWith_cons_of_ne_nil _ _ hmore]
    by_cases hempty : before = []
    · subst hempty
      rfl
    · rw [ih hempty, joinWith_cons_of_ne_nil _ _ hempty]
      simp only [String.append_assoc]

/-- What holds of every item, and of two texts with the separator between them, holds of the joined items. -/
theorem joinWith_induction {P : String → Prop} {separator : String} (hempty : P "")
    (hjoin : ∀ a b, P a → P b → P (a ++ separator ++ b)) {items : List String} (h : ∀ s ∈ items, P s) :
    P (joinWith separator items) := by
  induction items with
  | nil => exact hempty
  | cons s items ih =>
    obtain ⟨hs, hitems⟩ := List.forall_mem_cons.1 h
    by_cases hlast : items = []
    · subst hlast
      exact hs
    · rw [joinWith_cons_of_ne_nil _ _ hlast]
      exact hjoin s _ hs (ih hitems)

/-- What two texts with the separator between them have when one of the two has it, some item has. -/
theorem joinWith_iff_exists {P : String → Prop} {separator : String} (hempty : ¬ P "")
    (hjoin : ∀ a b, P (a ++ separator ++ b) ↔ P a ∨ P b) (items : List String) :
    P (joinWith separator items) ↔ ∃ s ∈ items, P s := by
  induction items with
  | nil => exact iff_of_false hempty (by simp)
  | cons s items ih =>
    by_cases hlast : items = []
    · subst hlast
      simp [joinWith]
    · rw [joinWith_cons_of_ne_nil _ _ hlast, hjoin, ih]
      simp only [List.mem_cons, exists_eq_or_imp]

/-- Every item stands in the joined text. -/
theorem infix_joinWith {separator s : String} {items : List String} (h : s ∈ items) :
    s.toList <:+: (joinWith separator items).toList := by
  obtain ⟨before, after, rfl⟩ := List.append_of_mem h
  have hlater : s.toList <+: (joinWith separator (s :: after)).toList := by
    rw [joinWith_cons, String.toList_append]
    exact List.prefix_append _ _
  by_cases hempty : before = []
  · subst hempty
    exact hlater.isInfix
  · rw [joinWith_append _ hempty (List.cons_ne_nil _ _), String.toList_append]
    exact hlater.isInfix.trans (List.suffix_append _ _).isInfix

/-! ## One line -/

/-- A text without a line feed. -/
def OneLine (s : String) : Prop := '\n' ∉ s.toList

instance (s : String) : Decidable (OneLine s) := inferInstanceAs (Decidable (¬ _))

theorem oneLine_append {a b : String} : OneLine (a ++ b) ↔ OneLine a ∧ OneLine b := by
  rw [OneLine, String.toList_append, List.mem_append, not_or]
  rfl

theorem oneLine_joinWith {separator : String} (hseparator : OneLine separator) {items : List String}
    (h : ∀ s ∈ items, OneLine s) : OneLine (joinWith separator items) :=
  joinWith_induction nofun (fun _ _ ha hb => oneLine_append.2 ⟨oneLine_append.2 ⟨ha, hseparator⟩, hb⟩) h

/-- The characters that end a line in one of the output languages. -/
def isBreak (c : Char) : Bool := c = '\n' || c = '\r'

/-- A text without anything that ends a line. -/
def Unbroken (s : String) : Prop := ∀ c ∈ s.toList, isBreak c = false

theorem Unbroken.oneLine {s : String} (h : Unbroken s) : OneLine s := by
  intro hfeed
  have hbreak := h '\n' hfeed
  revert hbreak
  decide

theorem unbroken_ofList {cs : List Char} (h : cs.all (!isBreak ·) = true) : Unbroken (String.ofList cs) := by
  intro c hc
  rw [String.toList_ofList] at hc
  simpa using List.all_eq_true.1 h c hc

theorem Unbroken.append {a b : String} (ha : Unbroken a) (hb : Unbroken b) : Unbroken (a ++ b) := by
  intro c hc
  rw [String.toList_append, List.mem_append] at hc
  exact hc.elim (ha c) (hb c)

theorem unbroken_joinWith {separator : String} (hseparator : Unbroken separator) {items : List String}
    (h : ∀ s ∈ items, Unbroken s) : Unbroken (joinWith separator items) :=
  joinWith_induction nofun (fun _ _ ha hb => (ha.append hseparator).append hb) h

/-! ## Reading lines back -/

theorem splitAtFeeds_ne_nil (cs : List Char) : splitAtFeeds cs ≠ [] := by
  cases cs with
  | nil => exact List.cons_ne_nil _ _
  | cons c cs =>
    rw [splitAtFeeds]
    split
    · exact List.cons_ne_nil _ _
    · split <;> exact List.cons_ne_nil _ _

theorem splitAtFeeds_cons_of_ne {c : Char} (hc : c ≠ '\n') {cs line : List Char} {rest : List (List Char)}
    (h : splitAtFeeds cs = line :: rest) : splitAtFeeds (c :: cs) = (c :: line) :: rest := by
  rw [splitAtFeeds, if_neg hc, h]

theorem splitAtFeeds_of_not_mem {cs : List Char} (h : '\n' ∉ cs) : splitAtFeeds cs = [cs] := by
  induction cs with
  | nil => rfl
  | cons c cs ih =>
    rw [List.mem_cons, not_or] at h
    exact splitAtFeeds_cons_of_ne (Ne.symm h.1) (ih h.2)

theorem splitAtFeeds_append (before after : List Char) :
    splitAtFeeds (before ++ '\n' :: after) = splitAtFeeds before ++ splitAtFeeds after := by
  induction before with
  | nil => rfl
  | cons c before ih =>
    by_cases hc : c = '\n'
    · subst hc
      rw [List.cons_append, splitAtFeeds, splitAtFeeds, if_pos rfl, if_pos rfl, ih, List.cons_append]
    · obtain ⟨line, rest, hsplit⟩ := List.exists_cons_of_ne_nil (splitAtFeeds_ne_nil before)
      rw [hsplit, List.cons_append] at ih
      rw [List.cons_append, splitAtFeeds_cons_of_ne hc ih, splitAtFeeds_cons_of_ne hc hsplit,
        List.cons_append]

theorem splitAtFeeds_append_of_not_mem {cs rest line : List Char} {lines : List (List Char)} (h : '\n' ∉ cs)
    (hsplit : splitAtFeeds rest = line :: lines) : splitAtFeeds (cs ++ rest) = (cs ++ line) :: lines := by
  induction cs with
  | nil => exact hsplit
  | cons c cs ih =>
    rw [List.mem_cons, not_or] at h
    exact splitAtFeeds_cons_of_ne (Ne.symm h.1) (ih h.2)

theorem head?_of_splitAtFeeds {cs line : List Char} {lines : List (List Char)}
    (hsplit : splitAtFeeds cs = line :: lines) {c : Char} (h : line.head? = some c) : cs.head? = some c := by
  cases cs with
  | nil =>
    cases hsplit
    cases h
  | cons d cs =>
    obtain ⟨first, rest, hrest⟩ := List.exists_cons_of_ne_nil (splitAtFeeds_ne_nil cs)
    by_cases hd : d = '\n'
    · rw [splitAtFeeds, if_pos hd] at hsplit
      cases hsplit
      cases h
    · rw [splitAtFeeds_cons_of_ne hd hrest] at hsplit
      cases hsplit
      exact h

theorem not_mem_of_mem_splitAtFeeds {cs line : List Char} (h : line ∈ splitAtFeeds cs) : '\n' ∉ line := by
  induction cs generalizing line with
  | nil =>
    rw [splitAtFeeds, List.mem_singleton] at h
    subst h
    exact List.not_mem_nil
  | cons c cs ih =>
    by_cases hc : c = '\n'
    · rw [splitAtFeeds, if_pos hc] at h
      rcases List.mem_cons.1 h with rfl | h
      · exact List.not_mem_nil
      · exact ih h
    · obtain ⟨first, rest, hsplit⟩ := List.exists_cons_of_ne_nil (splitAtFeeds_ne_nil cs)
      rw [splitAtFeeds_cons_of_ne hc hsplit] at h
      rw [hsplit] at ih
      rcases List.mem_cons.1 h with rfl | h
      · rw [List.mem_cons, not_or]
        exact ⟨Ne.symm hc, ih List.mem_cons_self⟩
      · exact ih (List.mem_cons_of_mem _ h)

theorem mem_of_mem_splitAtFeeds {cs line : List Char} (h : line ∈ splitAtFeeds cs) {c : Char} (hc : c ∈ line) :
    c ∈ cs := by
  induction cs generalizing line with
  | nil =>
    rw [splitAtFeeds, List.mem_singleton] at h
    rwa [h] at hc
  | cons b cs ih =>
    by_cases hb : b = '\n'
    · rw [splitAtFeeds, if_pos hb] at h
      rcases List.mem_cons.1 h with rfl | h
      · exact absurd hc List.not_mem_nil
      · exact List.mem_cons_of_mem _ (ih h hc)
    · obtain ⟨first, rest, hsplit⟩ := List.exists_cons_of_ne_nil (splitAtFeeds_ne_nil cs)
      rw [splitAtFeeds_cons_of_ne hb hsplit] at h
      rw [hsplit] at ih
      rcases List.mem_cons.1 h with rfl | h
      · rcases List.mem_cons.1 hc with rfl | hc
        · exact List.mem_cons_self
        · exact List.mem_cons_of_mem _ (ih List.mem_cons_self hc)
      · exact List.mem_cons_of_mem _ (ih (List.mem_cons_of_mem _ h) hc)

/-- Each line feed opens one more line. -/
theorem length_splitAtFeeds (cs : List Char) : (splitAtFeeds cs).length = cs.count '\n' + 1 := by
  induction cs with
  | nil => rfl
  | cons c cs ih =>
    by_cases hc : c = '\n'
    · subst hc
      rw [splitAtFeeds, if_pos rfl, List.length_cons, ih, List.count_cons_self]
    · obtain ⟨first, rest, hsplit⟩ := List.exists_cons_of_ne_nil (splitAtFeeds_ne_nil cs)
      rw [hsplit] at ih
      rw [splitAtFeeds_cons_of_ne hc hsplit, List.count_cons_of_ne hc, ← ih]
      rfl

theorem length_lines (s : String) : (lines s).length = s.toList.count '\n' + 1 := by
  rw [lines, List.length_map, length_splitAtFeeds]

theorem lines_of_oneLine {s : String} (h : OneLine s) : lines s = [s] := by
  rw [lines, splitAtFeeds_of_not_mem h, List.map_singleton, String.ofList_toList]

theorem lines_append (before after : String) : lines (before ++ "\n" ++ after) = lines before ++ lines after := by
  have hchars : (before ++ "\n" ++ after).toList = before.toList ++ '\n' :: after.toList := by simp
  rw [lines, hchars, splitAtFeeds_append, List.map_append]
  rfl

theorem lines_joinLines_append {before after : List String} (hbefore : before ≠ []) (hafter : after ≠ []) :
    lines (joinLines (before ++ after)) = lines (joinLines before) ++ lines (joinLines after) := by
  rw [joinLines, joinWith_append _ hbefore hafter, lines_append]
  rfl

theorem lines_joinLines {items : List String} (h : ∀ s ∈ items, OneLine s) (hne : items ≠ []) :
    lines (joinLines items) = items := by
  induction items with
  | nil => exact absurd rfl hne
  | cons s items ih =>
    obtain ⟨hs, hitems⟩ := List.forall_mem_cons.1 h
    by_cases hempty : items = []
    · subst hempty
      exact lines_of_oneLine hs
    · have hsplit := lines_joinLines_append (List.cons_ne_nil s []) hempty
      rw [List.singleton_append] at hsplit
      rw [hsplit, ih hitems hempty]
      exact congrArg (· ++ items) (lines_of_oneLine hs)

/-- Lines that are joined again give the text that they were split from. -/
theorem joinLines_lines (s : String) : joinLines (lines s) = s := by
  have hchars (cs : List Char) : joinLines ((splitAtFeeds cs).map String.ofList) = String.ofList cs := by
    induction cs with
    | nil => rfl
    | cons c cs ih =>
      have hcons (line : List Char) : String.ofList (c :: line) = String.ofList [c] ++ String.ofList line := by
        rw [← String.ofList_append, List.singleton_append]
      obtain ⟨line, rest, hsplit⟩ := List.exists_cons_of_ne_nil (splitAtFeeds_ne_nil cs)
      by_cases hc : c = '\n'
      · have hne : (splitAtFeeds cs).map String.ofList ≠ [] := by simp [hsplit]
        rw [splitAtFeeds, if_pos hc, List.map_cons, joinLines, joinWith_cons_of_ne_nil _ _ hne, hcons, hc]
        exact congrArg (String.ofList ['\n'] ++ ·) ih
      · rw [hsplit, List.map_cons, joinLines, joinWith_cons] at ih
        rw [splitAtFeeds_cons_of_ne hc hsplit, List.map_cons, joinLines, joinWith_cons, hcons, hcons cs,
          String.append_assoc, ih]
  rw [lines, hchars, String.ofList_toList]

/-- Lines that stand in a list of lines are lines of the joined text, whatever stands around them. -/
theorem infix_lines_joinLines {run items : List String} (hstands : run <:+: items) (h : ∀ s ∈ run, OneLine s)
    (hne : run ≠ []) : run <:+: lines (joinLines items) := by
  obtain ⟨before, after, rfl⟩ := hstands
  have hrun := lines_joinLines h hne
  have hrest : run ++ after ≠ [] := List.append_ne_nil_of_left_ne_nil hne _
  have hlater : run <:+: lines (joinLines (run ++ after)) := by
    by_cases hafter : after = []
    · subst hafter
      have hwhole : lines (joinLines (run ++ [])) = run := by rw [List.append_nil, hrun]
      exact hwhole.symm ▸ List.infix_rfl
    · rw [lines_joinLines_append hne hafter, hrun]
      exact (List.prefix_append _ _).isInfix
  rw [List.append_assoc]
  by_cases hbefore : before = []
  · subst hbefore
    exact hlater
  · rw [lines_joinLines_append hbefore hrest]
    exact hlater.trans (List.suffix_append _ _).isInfix

theorem mem_lines_joinLines {line : String} {items : List String} (h : line ∈ items) (hline : OneLine line) :
    line ∈ lines (joinLines items) := by
  obtain ⟨before, after, rfl⟩ := List.append_of_mem h
  have hstands : [line] <:+: before ++ line :: after := ⟨before, after, by simp⟩
  have hrun : ∀ s ∈ [line], OneLine s := by simpa using hline
  exact (infix_lines_joinLines hstands hrun (List.cons_ne_nil _ _)).subset (List.mem_singleton_self _)

theorem lines_gap (gap before after : String) :
    lines (before ++ ("\n" ++ gap ++ "\n") ++ after) = lines before ++ (lines gap ++ lines after) := by
  rw [← lines_append, ← lines_append]
  simp only [String.append_assoc]

theorem lines_blankLine (before after : String) :
    lines (before ++ "\n\n" ++ after) = lines before ++ ([""] ++ lines after) :=
  lines_gap "" before after

/-- The first section comes first. -/
theorem prefix_lines_joinWith (gap s : String) (rest : List String) :
    lines s <+: lines (joinWith ("\n" ++ gap ++ "\n") (s :: rest)) := by
  by_cases hempty : rest = []
  · subst hempty
    exact List.prefix_rfl
  · rw [joinWith_cons_of_ne_nil _ _ hempty, lines_gap]
    exact List.prefix_append _ _

/-- The lines of a section are lines of the joined sections. -/
theorem infix_lines_joinWith (gap : String) {s : String} {sections : List String} (h : s ∈ sections) :
    lines s <:+: lines (joinWith ("\n" ++ gap ++ "\n") sections) := by
  induction sections with
  | nil => exact absurd h List.not_mem_nil
  | cons first sections ih =>
    rcases List.mem_cons.1 h with rfl | h
    · exact (prefix_lines_joinWith gap _ sections).isInfix
    · rw [joinWith_cons_of_ne_nil _ _ (List.ne_nil_of_mem h), lines_gap]
      exact (ih h).trans ((List.suffix_append _ _).trans (List.suffix_append _ _)).isInfix

/-! ## Tabs -/

/-- Leading spaces are all that changes in a line. -/
theorem tabIndentLine_of_ne {c : Char} (hc : c ≠ ' ') (line : List Char) :
    tabIndentLine (c :: line) = c :: line := by
  simp [tabIndentLine, hc]

theorem not_mem_tabIndentLine {line : List Char} (h : '\n' ∉ line) : '\n' ∉ tabIndentLine line := by
  have hbody : '\n' ∉ line.dropWhile (· = ' ') := fun hmem => h ((List.dropWhile_sublist _).subset hmem)
  simp only [tabIndentLine]
  split
  · exact List.not_mem_nil
  · rw [List.mem_append, not_or]
    refine ⟨fun hmem => ?_, hbody⟩
    have htab := List.eq_of_mem_replicate hmem
    exact absurd htab (by decide)

theorem lines_tabIndent (s : String) :
    lines (tabIndent s) = (splitAtFeeds s.toList).map fun line => String.ofList (tabIndentLine line) := by
  refine lines_joinLines (fun line hline => ?_) (by simpa using splitAtFeeds_ne_nil s.toList)
  obtain ⟨cs, hcs, rfl⟩ := List.mem_map.1 hline
  rw [OneLine, String.toList_ofList]
  exact not_mem_tabIndentLine (not_mem_of_mem_splitAtFeeds hcs)

theorem lines_tabIndent_of_lines {s : String} {items : List String} (h : lines s = items) :
    lines (tabIndent s) = items.map fun line => String.ofList (tabIndentLine line.toList) := by
  rw [lines_tabIndent, ← h, lines, List.map_map]
  refine List.map_congr_left fun cs _ => ?_
  simp [Function.comp]

/-! ## Solid texts -/

/-- The first character is not blank. -/
def Opens (s : String) : Prop := ∃ c, s.toList.head? = some c ∧ Unicode.isBlank c = false

/-- The last character is not blank. -/
def Closes (s : String) : Prop := ∃ c, s.toList.getLast? = some c ∧ Unicode.isBlank c = false

theorem feed_isBlank : Unicode.isBlank '\n' = true := by decide

theorem isBlankText_eq_false_iff {s : String} :
    isBlankText s = false ↔ ∃ c ∈ s.toList, Unicode.isBlank c = false := by
  simp only [isBlankText, List.all_eq_false, Bool.not_eq_true]

theorem isBlankText_of_mem {s : String} {c : Char} (hmem : c ∈ s.toList) (hc : Unicode.isBlank c = false) :
    isBlankText s = false := isBlankText_eq_false_iff.2 ⟨c, hmem, hc⟩

theorem Opens.inked {s : String} (h : Opens s) : isBlankText s = false := by
  obtain ⟨c, hc, hblank⟩ := h
  exact isBlankText_of_mem (List.mem_of_head? hc) hblank

theorem Closes.inked {s : String} (h : Closes s) : isBlankText s = false := by
  obtain ⟨c, hc, hblank⟩ := h
  exact isBlankText_of_mem (List.mem_of_getLast? hc) hblank

theorem ne_feed_of_not_blank {c : Char} (h : Unicode.isBlank c = false) : c ≠ '\n' := by
  rintro rfl
  rw [feed_isBlank] at h
  cases h

theorem dropWhile_feeds_of_head {cs : List Char} {c : Char} (h : cs.head? = some c) (hc : c ≠ '\n') :
    cs.dropWhile (· = '\n') = cs := by
  obtain ⟨rest, rfl⟩ := List.head?_eq_some_iff.1 h
  simp [hc]

/-- A text with no blank character at either end. -/
structure Solid (s : String) : Prop where
  opens : Opens s
  closes : Closes s

theorem Solid.inked {s : String} (h : Solid s) : isBlankText s = false := h.opens.inked

theorem Solid.ne_empty {s : String} (h : Solid s) : s ≠ "" := by
  rintro rfl
  obtain ⟨c, hc, -⟩ := h.opens
  simp at hc

theorem Solid.trimFeeds {s : String} (h : Solid s) : trimFeeds s = s := by
  obtain ⟨c, hc, hcblank⟩ := h.opens
  obtain ⟨e, he, heblank⟩ := h.closes
  have hreverse : s.toList.reverse.head? = some e := by rw [List.head?_reverse, he]
  rw [Text.trimFeeds, Unicode.trimBy, dropWhile_feeds_of_head hc (ne_feed_of_not_blank hcblank),
    dropWhile_feeds_of_head hreverse (ne_feed_of_not_blank heblank), List.reverse_reverse,
    String.ofList_toList]

theorem opens_ofList {c : Char} {cs : List Char} (h : Unicode.isBlank c = false) :
    Opens (String.ofList (c :: cs)) := ⟨c, by simp, h⟩

theorem closes_ofList {c : Char} {cs : List Char} (hlast : cs.getLast? = some c)
    (h : Unicode.isBlank c = false) : Closes (String.ofList cs) := ⟨c, by simp [hlast], h⟩

theorem Opens.append {a : String} (h : Opens a) (b : String) : Opens (a ++ b) := by
  obtain ⟨c, hc, hblank⟩ := h
  refine ⟨c, ?_, hblank⟩
  rw [String.toList_append, List.head?_append, hc, Option.some_or]

theorem Closes.prepend {b : String} (h : Closes b) (a : String) : Closes (a ++ b) := by
  obtain ⟨c, hc, hblank⟩ := h
  refine ⟨c, ?_, hblank⟩
  rw [String.toList_append, List.getLast?_append, hc, Option.some_or]

theorem opens_joinWith {separator s : String} {items : List String} (hfirst : items.head? = some s)
    (h : Opens s) : Opens (joinWith separator items) := by
  obtain ⟨rest, rfl⟩ := List.head?_eq_some_iff.1 hfirst
  rw [joinWith_cons]
  exact h.append _

theorem closes_joinWith {separator s : String} {items : List String} (hlast : items.getLast? = some s)
    (h : Closes s) : Closes (joinWith separator items) := by
  obtain ⟨before, rfl⟩ := List.getLast?_eq_some_iff.1 hlast
  by_cases hempty : before = []
  · subst hempty
    exact h
  · rw [joinWith_append _ hempty (List.cons_ne_nil _ _)]
    exact h.prepend _

theorem opens_tabIndent {s : String} (h : Opens s) : Opens (tabIndent s) := by
  obtain ⟨c, hc, hblank⟩ := h
  obtain ⟨rest, hchars⟩ := List.head?_eq_some_iff.1 hc
  obtain ⟨line, more, hsplit⟩ := List.exists_cons_of_ne_nil (splitAtFeeds_ne_nil rest)
  have hspace : c ≠ ' ' := by
    rintro rfl
    revert hblank
    decide
  have hlines : splitAtFeeds s.toList = (c :: line) :: more := by
    rw [hchars, splitAtFeeds_cons_of_ne (ne_feed_of_not_blank hblank) hsplit]
  refine opens_joinWith (s := String.ofList (c :: line)) ?_ (opens_ofList hblank)
  rw [hlines, List.map_cons, tabIndentLine_of_ne hspace, List.head?_cons]

theorem getLast?_tabIndentLine {line : List Char} {c : Char} (hlast : line.getLast? = some c)
    (hc : c ≠ ' ') : (tabIndentLine line).getLast? = some c := by
  obtain ⟨before, rfl⟩ := List.getLast?_eq_some_iff.1 hlast
  have hbody : ((before ++ [c]).dropWhile (· = ' ')).getLast? = some c := by
    rw [List.dropWhile_append]
    split <;> simp [hc]
  have hne : ((before ++ [c]).dropWhile (· = ' ')).isEmpty = false := by
    cases h : (before ++ [c]).dropWhile (· = ' ') with
    | nil => simp [h] at hbody
    | cons => rfl
  simp only [tabIndentLine, hne, Bool.false_eq_true, if_false]
  rw [List.getLast?_append, hbody, Option.some_or]

theorem closes_tabIndent {s : String} (h : Closes s) : Closes (tabIndent s) := by
  obtain ⟨c, hc, hblank⟩ := h
  have hspace : c ≠ ' ' := by
    rintro rfl
    revert hblank
    decide
  obtain ⟨before, hchars⟩ := List.getLast?_eq_some_iff.1 hc
  -- The last line is what follows the last feed; it ends with the last character.
  have hsplit : ∃ line more, splitAtFeeds s.toList = more ++ [line] ∧ line.getLast? = some c := by
    rw [hchars]
    clear hc hchars
    induction before with
    | nil => exact ⟨[c], [], splitAtFeeds_of_not_mem (by simpa using (ne_feed_of_not_blank hblank).symm), rfl⟩
    | cons b before ih =>
      obtain ⟨line, more, hmore, hline⟩ := ih
      by_cases hb : b = '\n'
      · refine ⟨line, [] :: more, ?_, hline⟩
        rw [List.cons_append, splitAtFeeds, if_pos hb, hmore, List.cons_append]
      · cases more with
        | nil =>
          refine ⟨b :: line, [], splitAtFeeds_cons_of_ne hb hmore, ?_⟩
          rw [List.getLast?_cons, hline]
          rfl
        | cons first more =>
          exact ⟨line, (b :: first) :: more, splitAtFeeds_cons_of_ne hb hmore, hline⟩
  obtain ⟨line, more, hlines, hline⟩ := hsplit
  refine closes_joinWith (s := String.ofList (tabIndentLine line)) ?_
    (closes_ofList (getLast?_tabIndentLine hline hspace) hblank)
  rw [hlines, List.map_append, List.getLast?_append]
  rfl

/-! ## Sections -/

theorem solid_joinWith {separator : String} {sections : List String} (hne : sections ≠ [])
    (h : ∀ s ∈ sections, Solid s) : Solid (joinWith separator sections) := by
  have hfirst := List.head?_eq_some_head hne
  have hlast := List.getLast?_eq_some_getLast hne
  exact ⟨opens_joinWith hfirst (h _ (List.head_mem hne)).opens,
    closes_joinWith hlast (h _ (List.getLast_mem hne)).closes⟩

theorem trimFeeds_append_feed (s : String) : trimFeeds (s ++ "\n") = trimFeeds s := by
  have hchars : (s ++ "\n").toList = s.toList ++ ['\n'] := by simp
  rw [trimFeeds, trimFeeds, hchars]
  congr 1
  simp only [Unicode.trimBy]
  rw [List.dropWhile_append]
  split
  · rename_i hempty
    rw [List.isEmpty_iff.1 hempty]
    rfl
  · simp

/-- A line feed at the end of a section goes with those around it. -/
theorem joinSections_append_feed (text : String) (rest : List String) (separator : String) :
    joinSections ((text ++ "\n") :: rest) separator = joinSections (text :: rest) separator := by
  have hblank : isBlankText (text ++ "\n") = isBlankText text := by
    simp [isBlankText, feed_isBlank]
  simp only [joinSections, List.filter_cons, hblank]
  cases isBlankText text <;> simp [trimFeeds_append_feed]

/-- Sections that all have ink are all kept, and only line feeds around them go. -/
theorem joinSections_of_inked {sections : List String} (h : ∀ s ∈ sections, isBlankText s = false)
    (separator : String) :
    joinSections sections separator = joinWith separator (sections.map trimFeeds) ++ "\n" := by
  have hfilter : (sections.filter fun s => !isBlankText s) = sections := by
    refine List.filter_eq_self.2 fun s hs => ?_
    rw [h s hs]
    rfl
  rw [joinSections, hfilter]

theorem joinSections_of_solid {sections : List String} (h : ∀ s ∈ sections, Solid s) (separator : String) :
    joinSections sections separator = joinWith separator sections ++ "\n" := by
  have htrim : sections.map trimFeeds = sections :=
    (List.map_congr_left fun s hs => (h s hs).trimFeeds).trans (List.map_id _)
  rw [joinSections_of_inked fun s hs => (h s hs).inked, htrim]

/-- Sections may also be missing; what is left of the joined ones has nothing around it to trim. -/
theorem trimFeeds_joinSections {sections : List String} (h : ∀ s ∈ sections, s = "" ∨ Solid s)
    (hne : sections.filter (· ≠ "") ≠ []) (separator : String) :
    trimFeeds (joinSections sections separator) = joinWith separator (sections.filter (· ≠ "")) := by
  have hfilter : (sections.filter fun s => !isBlankText s) = sections.filter (· ≠ "") := by
    refine List.filter_congr fun s hs => ?_
    rcases h s hs with rfl | hsolid
    · rfl
    · simp [hsolid.inked, hsolid.ne_empty]
  have hsolid : ∀ s ∈ sections.filter (· ≠ ""), Solid s := by
    intro s hs
    obtain ⟨hs, hfilled⟩ := List.mem_filter.1 hs
    exact (h s hs).resolve_left (by simpa using hfilled)
  have hmap : (sections.filter (· ≠ "")).map trimFeeds = sections.filter (· ≠ "") :=
    (List.map_congr_left fun s hs => (hsolid s hs).trimFeeds).trans (List.map_id _)
  rw [joinSections, hfilter, hmap, trimFeeds_append_feed, (solid_joinWith hne hsolid).trimFeeds]

theorem mem_dropWhile {cs : List Char} {p : Char → Bool} {c : Char} (hmem : c ∈ cs) (hc : p c = false) :
    c ∈ cs.dropWhile p := by
  rw [← List.takeWhile_append_dropWhile (p := p) (l := cs), List.mem_append] at hmem
  rcases hmem with hmem | hmem
  · have htaken := List.mem_takeWhile_imp hmem
    rw [hc] at htaken
    cases htaken
  · exact hmem

theorem mem_trimFeeds {s : String} {c : Char} (hmem : c ∈ s.toList) (hc : c ≠ '\n') :
    c ∈ (trimFeeds s).toList := by
  have hkept : decide (c = '\n') = false := decide_eq_false hc
  rw [trimFeeds, String.toList_ofList, Unicode.trimBy, List.mem_reverse]
  exact mem_dropWhile (List.mem_reverse.2 (mem_dropWhile hmem hkept)) hkept

theorem mem_joinWith {separator s : String} {items : List String} {c : Char} (hs : s ∈ items)
    (hc : c ∈ s.toList) : c ∈ (joinWith separator items).toList := (infix_joinWith hs).subset hc

/-- One section with ink is enough for the whole to have ink. -/
theorem inked_joinSections {sections : List String} {s : String} (hmem : s ∈ sections)
    (h : isBlankText s = false) (separator : String) :
    isBlankText (joinSections sections separator) = false := by
  obtain ⟨c, hc, hblank⟩ := isBlankText_eq_false_iff.1 h
  have hkept : trimFeeds s ∈ (sections.filter fun s => !isBlankText s).map trimFeeds :=
    List.mem_map_of_mem (List.mem_filter.2 ⟨hmem, by simp [h]⟩)
  have hjoined : c ∈ (joinWith separator ((sections.filter fun s => !isBlankText s).map trimFeeds)).toList :=
    mem_joinWith hkept (mem_trimFeeds hc (ne_feed_of_not_blank hblank))
  refine isBlankText_of_mem (c := c) ?_ hblank
  rw [joinSections, String.toList_append, List.mem_append]
  exact .inl hjoined

/-- The first of some joined sections shows, up to the line feeds around it. -/
theorem trimFeeds_eq_of_joinSections {a b separator : String} {rest : List String} (ha : isBlankText a = false)
    (hb : isBlankText b = false) (h : joinSections (a :: rest) separator = joinSections (b :: rest) separator) :
    trimFeeds a = trimFeeds b := by
  have hcons {c : String} (hc : isBlankText c = false) : ((c :: rest).filter fun s => !isBlankText s) =
      c :: rest.filter fun s => !isBlankText s := List.filter_cons_of_pos (by simp [hc])
  rwa [joinSections, joinSections, hcons ha, hcons hb, List.map_cons, List.map_cons, joinWith_cons, joinWith_cons,
    String.append_left_inj, String.append_left_inj] at h

end DashboardCompiler.Text
