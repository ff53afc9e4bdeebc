import DashboardCompiler.Proofs.Text.CodeScan
import DashboardCompiler.Text.Naming

/-!
# Declared names

What a file declares at its outermost level is read off the starts of its lines: some opening, and the name
after it. Assembly keeps that reading: a text that is joined from sections declares what the sections declare,
in their order. Most lines are made of fixed text, where the reading is a computation, and of the others the
beginning is enough to see that they declare nothing.
-/

namespace DashboardCompiler.Code

open Text

/-- The name that a line declares, which follows the first of the openings that the line starts with. -/
def declaredName? (openings : List (List Char)) (line : List Char) : Option (List Char) :=
  (openings.find? (·.isPrefixOf line)).map fun opening => (line.drop opening.length).takeWhile Name.isNameChar

/-- What a reader of single lines finds in some lines. -/
def readNames (read : List Char → Option (List Char)) (items : List String) : List String :=
  items.filterMap fun line => (read line.toList).map String.ofList

/-- The names that the lines of a text declare, in their order. -/
def declaredNames (read : List Char → Option (List Char)) (s : String) : List String := readNames read (lines s)

/-! ## Sections -/

/-- Blank lines declare nothing. -/
def SkipsBlank (read : List Char → Option (List Char)) : Prop :=
  ∀ line : List Char, line.all Unicode.isBlank = true → read line = none

section Sections

variable {read : List Char → Option (List Char)}

theorem readNames_append (before after : List String) :
    readNames read (before ++ after) = readNames read before ++ readNames read after :=
  List.filterMap_append

theorem readNames_cons (line : String) (items : List String) :
    readNames read (line :: items) = readNames read [line] ++ readNames read items :=
  readNames_append [line] items

theorem readNames_cons_none {line : String} (h : read line.toList = none) (items : List String) :
    readNames read (line :: items) = readNames read items := by
  rw [readNames, List.filterMap_cons, h]
  rfl

theorem readNames_cons_empty (h : read [] = none) (items : List String) :
    readNames read ("" :: items) = readNames read items := readNames_cons_none h items

theorem declaredNames_empty (h : read [] = none) : declaredNames read "" = [] := by
  have hlines : lines "" = [""] := rfl
  rw [declaredNames, hlines, readNames_cons_empty h]
  rfl

theorem declaredNames_feed (before after : String) :
    declaredNames read (before ++ "\n" ++ after) = declaredNames read before ++ declaredNames read after := by
  rw [declaredNames, lines_append, readNames_append]
  rfl

theorem declaredNames_of_oneLine {s : String} (h : OneLine s) : declaredNames read s = readNames read [s] := by
  rw [declaredNames, lines_of_oneLine h]

/-- A separator that keeps the texts around it on lines of their own and declares nothing. -/
def Separates (read : List Char → Option (List Char)) (separator : String) : Prop :=
  ∀ before after, declaredNames read (before ++ separator ++ after) =
    declaredNames read before ++ declaredNames read after

/-- Two line feeds around a text that declares nothing. -/
theorem separates_feeds {gap : String} (h : declaredNames read gap = []) : Separates read ("\n" ++ gap ++ "\n") := by
  intro before after
  have hsplit : before ++ ("\n" ++ gap ++ "\n") ++ after = before ++ "\n" ++ (gap ++ "\n" ++ after) := by
    simp only [String.append_assoc]
  rw [hsplit, declaredNames_feed, declaredNames_feed, h, List.nil_append]

theorem separates_blankLine (h : read [] = none) : Separates read "\n\n" := by
  have hgap : "\n\n" = "\n" ++ "" ++ "\n" := by decide
  rw [hgap]
  exact separates_feeds (declaredNames_empty h)

theorem separates_blankLines (h : read [] = none) : Separates read "\n\n\n" := by
  have hgap : "\n\n\n" = "\n" ++ ("" ++ "\n" ++ "") ++ "\n" := by decide
  have hblank : declaredNames read ("" ++ "\n" ++ "") = _ := declaredNames_feed "" ""
  rw [declaredNames_empty h] at hblank
  rw [hgap]
  exact separates_feeds hblank

theorem declaredNames_joinWith {separator : String} (hseparator : Separates read separator) (h : read [] = none)
    (sections : List String) :
    declaredNames read (joinWith separator sections) = sections.flatMap (declaredNames read) := by
  induction sections with
  | nil => exact declaredNames_empty h
  | cons s sections ih =>
    by_cases hempty : sections = []
    · subst hempty
      rw [List.flatMap_singleton]
      rfl
    · rw [joinWith_cons_of_ne_nil _ _ hempty, hseparator, ih, List.flatMap_cons]

theorem declaredNames_joinLines (h : read [] = none) {items : List String} (hone : ∀ line ∈ items, OneLine line) :
    declaredNames read (joinLines items) = readNames read items := by
  by_cases hempty : items = []
  · subst hempty
    exact declaredNames_empty h
  · rw [declaredNames, lines_joinLines hone hempty]

theorem declaredNames_append_feed (h : read [] = none) (s : String) :
    declaredNames read (s ++ "\n") = declaredNames read s := by
  have hsplit : declaredNames read (s ++ "\n" ++ "") = _ := declaredNames_feed s ""
  rwa [String.append_empty, declaredNames_empty h, List.append_nil] at hsplit

/-- Line feeds in front of a text open empty lines. -/
theorem declaredNames_feeds_append (h : read [] = none) (n : Nat) (s : String) :
    declaredNames read (String.ofList (List.replicate n '\n') ++ s) = declaredNames read s := by
  induction n with
  | zero => rfl
  | succ n ih =>
    have hfeeds : String.ofList (List.replicate (n + 1) '\n') ++ s =
        "" ++ "\n" ++ (String.ofList (List.replicate n '\n') ++ s) := by
      apply String.toList_injective
      simp [List.replicate_succ]
    rw [hfeeds, declaredNames_feed, declaredNames_empty h, ih, List.nil_append]

theorem declaredNames_append_feeds (h : read [] = none) (n : Nat) (s : String) :
    declaredNames read (s ++ String.ofList (List.replicate n '\n')) = declaredNames read s := by
  induction n with
  | zero => exact congrArg (declaredNames read) (String.append_empty)
  | succ n ih =>
    have hfeeds : s ++ String.ofList (List.replicate (n + 1) '\n') =
        s ++ String.ofList (List.replicate n '\n') ++ "\n" := by
      apply String.toList_injective
      simp [List.replicate_succ']
    rw [hfeeds, declaredNames_append_feed h, ih]

/-- A trimmed text is the text between two runs of line feeds. -/
theorem exists_trimFeeds (s : String) :
    ∃ m n, s = String.ofList (List.replicate m '\n') ++ trimFeeds s ++ String.ofList (List.replicate n '\n') := by
  have hfeeds (cs : List Char) : ∃ n, cs = List.replicate n '\n' ++ cs.dropWhile (· = '\n') := by
    refine ⟨(cs.takeWhile (· = '\n')).length, ?_⟩
    have hrun : cs.takeWhile (· = '\n') = List.replicate (cs.takeWhile (· = '\n')).length '\n' :=
      List.eq_replicate_iff.2 ⟨rfl, fun c hc => by simpa using List.mem_takeWhile_imp hc⟩
    rw [← hrun, List.takeWhile_append_dropWhile]
  obtain ⟨m, hm⟩ := hfeeds s.toList
  obtain ⟨n, hn⟩ := hfeeds (s.toList.dropWhile (· = '\n')).reverse
  refine ⟨m, n, String.toList_injective ?_⟩
  have hback := congrArg List.reverse hn
  rw [List.reverse_reverse, List.reverse_append, List.reverse_replicate] at hback
  rw [String.toList_append, String.toList_append, String.toList_ofList, String.toList_ofList, trimFeeds,
    String.toList_ofList, Unicode.trimBy, List.append_assoc, ← hback]
  exact hm

theorem declaredNames_trimFeeds (h : read [] = none) (s : String) :
    declaredNames read (trimFeeds s) = declaredNames read s := by
  obtain ⟨m, n, hs⟩ := exists_trimFeeds s
  have hwhole := congrArg (declaredNames read) hs
  rw [declaredNames_append_feeds h, declaredNames_feeds_append h] at hwhole
  exact hwhole.symm

theorem declaredNames_of_blank (h : SkipsBlank read) {s : String} (hblank : isBlankText s = true) :
    declaredNames read s = [] := by
  refine List.filterMap_eq_nil_iff.2 fun line hline => ?_
  obtain ⟨cs, hcs, rfl⟩ := List.mem_map.1 hline
  have hchars : cs.all Unicode.isBlank = true :=
    List.all_eq_true.2 fun c hc => List.all_eq_true.1 hblank c (mem_of_mem_splitAtFeeds hcs hc)
  rw [String.toList_ofList, h cs hchars]
  rfl

/-- A first section that declares nothing if it is blank keeps its names, whatever the assembly makes of the others. -/
theorem declaredNames_joinSections_cons {separator : String} (hseparator : Separates read separator)
    (h : read [] = none) {s : String} (hs : isBlankText s = true → declaredNames read s = []) (sections : List String) :
    declaredNames read (joinSections (s :: sections) separator) =
      declaredNames read s ++ declaredNames read (joinSections sections separator) := by
  have hjoin (sections : List String) : declaredNames read (joinSections sections separator) =
      (sections.filter fun s => !isBlankText s).flatMap (declaredNames read) := by
    rw [joinSections, declaredNames_append_feed h, declaredNames_joinWith hseparator h, List.flatMap_map]
    simp only [declaredNames_trimFeeds h]
  rw [hjoin, hjoin]
  cases hblank : isBlankText s with
  | true => rw [List.filter_cons_of_neg (by simp [hblank]), hs hblank, List.nil_append]
  | false => rw [List.filter_cons_of_pos (by simp [hblank]), List.flatMap_cons]

/-- The assembly drops and trims nothing that declares a name. -/
theorem declaredNames_joinSections {separator : String} (hseparator : Separates read separator) (h : SkipsBlank read)
    (sections : List String) :
    declaredNames read (joinSections sections separator) = sections.flatMap (declaredNames read) := by
  have hnil : read [] = none := h [] rfl
  induction sections with
  | nil => exact (declaredNames_append_feed hnil "").trans (declaredNames_empty hnil)
  | cons s sections ih =>
    rw [declaredNames_joinSections_cons hseparator hnil (declaredNames_of_blank h), ih, List.flatMap_cons]

theorem declaredNames_tabIndent (s : String) :
    declaredNames read (tabIndent s) = declaredNames (fun line => read (tabIndentLine line)) s := by
  rw [declaredNames, lines_tabIndent, declaredNames, lines, readNames, readNames, List.filterMap_map,
    List.filterMap_map]
  simp only [Function.comp_def, String.toList_ofList]

end Sections

/-! ## Openings -/

/-- Every opening has a character that is not blank. -/
def Inked (openings : List (List Char)) : Prop := ∀ opening ∈ openings, opening.all Unicode.isBlank = false

instance (openings : List (List Char)) : Decidable (Inked openings) :=
  inferInstanceAs (Decidable (∀ opening ∈ openings, opening.all Unicode.isBlank = false))

theorem declaredName?_skipsBlank {openings : List (List Char)} (h : Inked openings) :
    SkipsBlank (declaredName? openings) := by
  intro line hline
  rw [declaredName?, Option.map_eq_none_iff, List.find?_eq_none]
  intro opening hopening hprefix
  have hblank : opening.all Unicode.isBlank = true :=
    List.all_eq_true.2 fun c hc => List.all_eq_true.1 hline c ((List.isPrefixOf_iff_prefix.1 hprefix).subset hc)
  rw [h opening hopening] at hblank
  cases hblank

/-- The line that opens the declaration of a name. -/
theorem declaredName?_opening {openings : List (List Char)} {line opening name rest : List Char} {c : Char}
    (hline : line = opening ++ (name ++ c :: rest)) (hopening : openings.find? (·.isPrefixOf line) = some opening)
    (hname : ∀ c ∈ name, Name.isNameChar c = true) (hc : Name.isNameChar c = false) :
    declaredName? openings line = some name := by
  have hend : (c :: rest).takeWhile Name.isNameChar = [] := List.takeWhile_cons_of_neg (by simp [hc])
  rw [declaredName?, hopening, Option.map_some, hline, List.drop_left, List.takeWhile_append_of_pos hname, hend,
    List.append_nil]

/-- Whether no line that begins like this declares a name. -/
def isSilent (openings : List (List Char)) (cs : List Char) : Bool :=
  openings.all fun opening => !opening.isPrefixOf cs && !cs.isPrefixOf opening

theorem declaredName?_append {openings : List (List Char)} {cs : List Char} (h : isSilent openings cs = true)
    (rest : List Char) : declaredName? openings (cs ++ rest) = none := by
  rw [declaredName?, Option.map_eq_none_iff, List.find?_eq_none]
  intro opening hopening hprefix
  have hfit := List.prefix_or_prefix_of_prefix (List.isPrefixOf_iff_prefix.1 hprefix) (List.prefix_append cs rest)
  have hnone := List.all_eq_true.1 h opening hopening
  simp only [Bool.and_eq_true, Bool.not_eq_true', ← Bool.not_eq_true, List.isPrefixOf_iff_prefix] at hnone
  exact hfit.elim hnone.1 hnone.2

/-- Whether no line that begins like this declares a name once its indentation is by tabs. -/
def isSilentTabbed (openings : List (List Char)) (cs : List Char) : Bool :=
  isSilent openings (if cs.any (· ≠ ' ') then tabIndentLine cs else List.replicate (cs.length / 4) '\t')

/-- Spaces at the front of a line become tabs, unless the line is blank. -/
theorem tabIndentLine_spaces (n : Nat) (rest : List Char) :
    tabIndentLine (List.replicate n ' ' ++ rest) = [] ∨
      ∃ more, tabIndentLine (List.replicate n ' ' ++ rest) = List.replicate (n / 4) '\t' ++ more := by
  obtain ⟨m, body, rfl, hbody⟩ := exists_indent rest
  have hspaces : List.replicate n ' ' ++ (List.replicate m ' ' ++ body) = List.replicate (n + m) ' ' ++ body := by
    rw [List.replicate_add, List.append_assoc]
  rw [hspaces, tabIndentLine_indent _ hbody]
  split
  · exact .inl rfl
  · have htabs : (n + m) / 4 = n / 4 + ((n + m) / 4 - n / 4) := by omega
    rw [htabs, List.replicate_add, List.append_assoc]
    exact .inr ⟨_, rfl⟩

theorem declaredName?_tabbed {openings : List (List Char)} (hinked : Inked openings) {cs : List Char}
    (h : isSilentTabbed openings cs = true) (rest : List Char) :
    declaredName? openings (tabIndentLine (cs ++ rest)) = none := by
  unfold isSilentTabbed at h
  split at h
  · rename_i hany
    rw [tabIndentLine_append hany]
    exact declaredName?_append h rest
  · rename_i hnone
    have hspaces : cs = List.replicate cs.length ' ' := List.eq_replicate_iff.2 ⟨rfl, by simpa using hnone⟩
    rw [hspaces]
    rcases tabIndentLine_spaces cs.length rest with hblank | ⟨more, hmore⟩
    · rw [hblank]
      exact declaredName?_skipsBlank hinked [] rfl
    · rw [hmore]
      exact declaredName?_append h more

/-! ## Lines -/

/-- A text that begins with fixed characters. -/
inductive Begins (cs : List Char) : String → Prop
  | whole : Begins cs (String.ofList cs)
  | append {s t : String} (h : Begins cs s) : Begins cs (s ++ t)

theorem Begins.exists_append {cs : List Char} {s : String} (h : Begins cs s) : ∃ rest, s.toList = cs ++ rest := by
  induction h with
  | whole => exact ⟨[], by rw [String.toList_ofList, List.append_nil]⟩
  | @append s t _ ih =>
    obtain ⟨rest, hrest⟩ := ih
    exact ⟨rest ++ t.toList, by rw [String.toList_append, hrest, List.append_assoc]⟩

/-- Lines that all begin alike declare nothing, if that is enough to see it. -/
theorem readNames_begun {read : List Char → Option (List Char)} {cs : List Char}
    (hcs : ∀ rest, read (cs ++ rest) = none) {items : List String} (h : ∀ line ∈ items, Begins cs line) :
    readNames read items = [] := by
  refine List.filterMap_eq_nil_iff.2 fun line hline => ?_
  obtain ⟨rest, hchars⟩ := (h line hline).exists_append
  rw [hchars, hcs]
  rfl

/-- Lines of a program, with the characters of the fixed ones among them and the beginnings of others; there may
be runs of lines in between that are known to declare nothing. -/
inductive Outline (read : List Char → Option (List Char)) :
    List String → List (List Char) → List (List Char) → Prop
  | nil : Outline read [] [] []
  | fixed {cs : List Char} {items : List String} {fixed begun : List (List Char)}
    (h : Outline read items fixed begun) : Outline read (String.ofList cs :: items) (cs :: fixed) begun
  | made {line : String} {cs : List Char} {items : List String} {fixed begun : List (List Char)}
    (hline : Begins cs line) (h : Outline read items fixed begun) : Outline read (line :: items) fixed (cs :: begun)
  | silent {run items : List String} {fixed begun : List (List Char)} (hrun : readNames read run = [])
    (h : Outline read items fixed begun) : Outline read (run ++ items) fixed begun

/-- Lines declare what the fixed ones declare, if the others can be seen to declare nothing. -/
theorem Outline.readNames_eq {read : List Char → Option (List Char)} {items : List String}
    {fixed begun : List (List Char)} (h : Outline read items fixed begun)
    (hbegun : ∀ cs ∈ begun, ∀ rest, read (cs ++ rest) = none) :
    readNames read items = (fixed.filterMap read).map String.ofList := by
  induction h with
  | nil => rfl
  | @fixed cs items fixed begun _ ih =>
    rw [readNames, List.filterMap_cons, List.filterMap_cons, String.toList_ofList]
    cases hread : read cs with
    | none => exact ih hbegun
    | some name => exact congrArg (String.ofList name :: ·) (ih hbegun)
  | made hline _ ih =>
    obtain ⟨hfirst, hrest⟩ := List.forall_mem_cons.1 hbegun
    obtain ⟨rest, hchars⟩ := hline.exists_append
    rw [readNames_cons_none (by rw [hchars, hfirst]), ih hrest]
  | silent hrun _ ih => rw [readNames_append, hrun, ih hbegun, List.nil_append]

/-- Lines of a program whose made ones are seen to declare nothing. -/
theorem Outline.names_eq {openings : List (List Char)} {items : List String} {fixed begun : List (List Char)}
    {names : List String} (h : Outline (declaredName? openings) items fixed begun)
    (hbegun : begun.all (isSilent openings) = true)
    (hfixed : (fixed.filterMap (declaredName? openings)).map String.ofList = names) :
    readNames (declaredName? openings) items = names := by
  rw [← hfixed]
  exact h.readNames_eq fun cs hcs rest => declaredName?_append (List.all_eq_true.1 hbegun cs hcs) rest

/-- The reading of a line once its indentation is by tabs. -/
def tabbedName? (openings : List (List Char)) (line : List Char) : Option (List Char) :=
  declaredName? openings (tabIndentLine line)

theorem Outline.tabbedNames_eq {openings : List (List Char)} {items : List String} {fixed begun : List (List Char)}
    {names : List String} (h : Outline (tabbedName? openings) items fixed begun) (hinked : Inked openings)
    (hbegun : begun.all (isSilentTabbed openings) = true)
    (hfixed : (fixed.filterMap (tabbedName? openings)).map String.ofList = names) :
    readNames (tabbedName? openings) items = names := by
  rw [← hfixed]
  exact h.readNames_eq fun cs hcs rest => declaredName?_tabbed hinked (List.all_eq_true.1 hbegun cs hcs) rest

end DashboardCompiler.Code
