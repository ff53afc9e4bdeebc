import DashboardCompiler.Proofs.Generation.Layout

/-!
# Joins within joins

A file is a join of a header, a body and a footer, and its body is a join of sections itself. The inner join puts one
line feed behind its text, and the outer one takes it away again, so nothing is left of the nesting: what counts is the
list of sections with ink, each without the line feeds around it, and an inner join is one text of that list, or none.
A joined text therefore begins with the first of these texts and ends with the last of them and one line feed.
-/

namespace DashboardCompiler

namespace Text

/-- The sections that a join keeps, as it keeps them. -/
def keptSections (sections : List String) : List String :=
  (sections.filter fun s => !isBlankText s).map trimFeeds

theorem joinSections_eq (sections : List String) (separator : String) :
    joinSections sections separator = joinWith separator (keptSections sections) ++ "\n" := rfl

theorem keptSections_append (before after : List String) :
    keptSections (before ++ after) = keptSections before ++ keptSections after := by
  rw [keptSections, List.filter_append, List.map_append]
  rfl

theorem keptSections_eq_nil_iff {sections : List String} :
    keptSections sections = [] ↔ ∀ s ∈ sections, isBlankText s = true := by
  rw [keptSections, List.map_eq_nil_iff, List.filter_eq_nil_iff]
  simp only [Bool.not_eq_true', Bool.not_eq_false]

/-! ## Trimmed texts -/

/-- A text with ink and without a line feed at either end. -/
structure Trimmed (s : String) : Prop where
  inked : isBlankText s = false
  first : s.toList.head? ≠ some '\n'
  last : s.toList.getLast? ≠ some '\n'

theorem Trimmed.ne_nil {s : String} (h : Trimmed s) : s.toList ≠ [] := by
  intro hempty
  have hblank : isBlankText s = true := by rw [isBlankText, hempty]; rfl
  exact absurd (hblank.symm.trans h.inked) (by decide)

theorem head?_dropWhile_feeds (cs : List Char) : (cs.dropWhile (· = '\n')).head? ≠ some '\n' := by
  intro hfirst
  have hstop := List.head?_dropWhile_not (· = '\n') cs
  simp [hfirst] at hstop

theorem dropWhile_feeds {cs : List Char} (h : cs.head? ≠ some '\n') : cs.dropWhile (· = '\n') = cs := by
  cases cs with
  | nil => rfl
  | cons c cs => exact dropWhile_feeds_of_head rfl fun hc => h (congrArg some hc)

theorem trimmed_trimFeeds {s : String} (h : isBlankText s = false) : Trimmed (trimFeeds s) := by
  obtain ⟨c, hc, hblank⟩ := isBlankText_eq_false_iff.1 h
  have hmem := mem_trimFeeds hc (ne_feed_of_not_blank hblank)
  refine ⟨isBlankText_of_mem hmem hblank, fun hfirst => ?_, fun hlast => ?_⟩
  -- What is cut off at the end does not change where the text begins.
  · obtain ⟨tail, htail⟩ := List.reverse_prefix.2 (List.dropWhile_suffix (· = '\n') (l := (s.toList.dropWhile (· = '\n')).reverse))
    rw [List.reverse_reverse] at htail
    refine head?_dropWhile_feeds s.toList ?_
    rw [trimFeeds, String.toList_ofList, Unicode.trimBy] at hmem hfirst
    rw [← htail, List.head?_append_of_ne_nil _ (List.ne_nil_of_mem hmem), hfirst]
  · rw [trimFeeds, String.toList_ofList, Unicode.trimBy, List.getLast?_reverse] at hlast
    exact head?_dropWhile_feeds _ hlast

theorem Trimmed.trimFeeds_eq {s : String} (h : Trimmed s) : trimFeeds s = s := by
  have hend : s.toList.reverse.dropWhile (· = '\n') = s.toList.reverse :=
    dropWhile_feeds (by rw [List.head?_reverse]; exact h.last)
  rw [trimFeeds, Unicode.trimBy, dropWhile_feeds h.first, hend, List.reverse_reverse, String.ofList_toList]

theorem trimmed_of_mem_keptSections {sections : List String} {s : String} (h : s ∈ keptSections sections) :
    Trimmed s := by
  obtain ⟨t, ht, rfl⟩ := List.mem_map.1 h
  exact trimmed_trimFeeds (by simpa using (List.mem_filter.1 ht).2)

theorem Trimmed.joinWith {separator : String} {items : List String} (hne : items ≠ [])
    (h : ∀ s ∈ items, Trimmed s) : Trimmed (joinWith separator items) := by
  obtain ⟨s, rest, rfl⟩ := List.exists_cons_of_ne_nil hne
  have hs := h s List.mem_cons_self
  obtain ⟨c, hc, hblank⟩ := isBlankText_eq_false_iff.1 hs.inked
  refine ⟨isBlankText_of_mem (mem_joinWith List.mem_cons_self hc) hblank, ?_, ?_⟩
  · rw [joinWith_cons, String.toList_append, List.head?_append_of_ne_nil _ hs.ne_nil]
    exact hs.first
  · obtain ⟨before, hlast⟩ := List.getLast?_eq_some_iff.1 (List.getLast?_eq_some_getLast hne)
    have ht := h _ (List.getLast_mem hne)
    generalize (s :: rest).getLast hne = t at hlast ht
    rw [hlast]
    by_cases hempty : before = []
    · subst hempty
      exact ht.last
    · have hend : Text.joinWith separator [t] = t := rfl
      rw [joinWith_append _ hempty (List.cons_ne_nil _ _), hend, String.toList_append,
        List.getLast?_append_of_ne_nil _ ht.ne_nil]
      exact ht.last

/-! ## Nesting -/

/-- Texts that are joined first count as one, or as none if there are none. -/
theorem joinWith_joined (separator : String) (before inner after : List String) :
    joinWith separator (before ++ (if inner = [] then [] else [joinWith separator inner]) ++ after) =
      joinWith separator (before ++ inner ++ after) := by
  by_cases hinner : inner = []
  · rw [if_pos hinner, hinner]
  · rw [if_neg hinner]
    have hfollowed : joinWith separator (joinWith separator inner :: after) = joinWith separator (inner ++ after) := by
      by_cases hafter : after = []
      · rw [hafter, List.append_nil]
        rfl
      · rw [joinWith_cons_of_ne_nil _ _ hafter, joinWith_append _ hinner hafter]
    by_cases hbefore : before = []
    · rw [hbefore]
      exact hfollowed
    · rw [List.append_assoc, List.append_assoc, List.singleton_append, joinWith_append _ hbefore (List.cons_ne_nil _ _),
        joinWith_append _ hbefore (List.append_ne_nil_of_left_ne_nil hinner _)]
      exact congrArg (_ ++ ·) hfollowed

/-- An inner join is kept without the line feed that it ends with. -/
theorem keptSections_joinSections (inner : List String) (separator : String) :
    keptSections [joinSections inner separator] =
      if keptSections inner = [] then [] else [joinWith separator (keptSections inner)] := by
  by_cases hempty : keptSections inner = []
  · have hfeed : joinSections inner separator = "\n" := by rw [joinSections_eq, hempty]; rfl
    rw [if_pos hempty, hfeed]
    rfl
  · have htrimmed := @Trimmed.joinWith separator _ hempty fun s => trimmed_of_mem_keptSections
    have hinked : isBlankText (joinSections inner separator) = false := by
      obtain ⟨c, hc, hblank⟩ := isBlankText_eq_false_iff.1 htrimmed.inked
      refine isBlankText_of_mem ?_ hblank
      rw [joinSections_eq, String.toList_append]
      exact List.mem_append_left _ hc
    rw [if_neg hempty, keptSections, List.filter_cons_of_pos (by rw [hinked]; rfl), List.filter_nil, List.map_singleton,
      joinSections_eq, trimFeeds_append_feed, htrimmed.trimFeeds_eq]

theorem joinSections_nested (before inner after : List String) (separator : String) :
    joinSections (before ++ [joinSections inner separator] ++ after) separator =
      joinSections (before ++ inner ++ after) separator := by
  simp only [joinSections_eq, keptSections_append]
  rw [← joinSections_eq, keptSections_joinSections, joinWith_joined]

/-- A text that begins with something else than a line feed and ends with exactly one. -/
def EndsOnce (s : String) : Prop := ∃ body, Trimmed body ∧ s = body ++ "\n"

theorem endsOnce_joinSections {sections : List String} {s : String} (hmem : s ∈ sections) (h : isBlankText s = false)
    (separator : String) : EndsOnce (joinSections sections separator) := by
  have hne : keptSections sections ≠ [] := by
    rw [Ne, keptSections_eq_nil_iff]
    intro hall
    rw [hall s hmem] at h
    cases h
  exact ⟨_, Trimmed.joinWith hne fun s => trimmed_of_mem_keptSections, rfl⟩

theorem trimmed_ofList {cs : List Char} (h : (cs.any (!Unicode.isBlank ·) && cs.head? != some '\n' &&
    cs.getLast? != some '\n') = true) : Trimmed (String.ofList cs) := by
  rw [Bool.and_eq_true, Bool.and_eq_true, bne_iff_ne, bne_iff_ne] at h
  obtain ⟨⟨hinked, hfirst⟩, hlast⟩ := h
  obtain ⟨c, hc, hblank⟩ := List.any_eq_true.1 hinked
  refine ⟨isBlankText_of_mem (c := c) ?_ (by simpa using hblank), ?_, ?_⟩
  all_goals rwa [String.toList_ofList]

end Text

/-! ## Files -/

open Text

namespace Target

variable {t : Target}

theorem Firm.endsOnce_sourceFile (hfirm : t.Firm) (s : Scene) (role : FileRole) (filename body : String)
    (executable : Bool) : EndsOnce (t.sourceFile s role filename body executable).content :=
  endsOnce_joinSections List.mem_cons_self (hfirm.header s role body) t.separator

theorem endsOnce_moduleIndex (f : Framework) (s : Scene) :
    ∀ entry ∈ (ofFramework f).moduleIndex s, EndsOnce entry.2 := by
  cases f with
  | ratatui =>
    have hwidgets : Trimmed "pub mod widgets;" := trimmed_ofList (by decide)
    have hsources : Trimmed "pub mod data_sources;" := trimmed_ofList (by decide)
    refine List.forall_mem_singleton.2 ⟨_, Trimmed.joinWith (by simp) ?_, rfl⟩
    split
    · exact List.forall_mem_cons.2 ⟨hwidgets, List.forall_mem_singleton.2 hsources⟩
    · exact List.forall_mem_singleton.2 hwidgets
  | _ => exact List.forall_mem_nil _

/-- Every source file of a project is a join, or names the modules of a crate one by one. -/
theorem endsOnce_sources (f : Framework) {d : Design} {o : Options} {p : Project}
    (h : (ofFramework f).generate d o = .ok p) :
    ∃ bs sources, p.files = sources ++ (ofFramework f).furtherFiles ⟨d, o, bs⟩ ∧
      ∀ file ∈ sources, EndsOnce file.content := by
  have hfirm := firm_ofFramework f
  obtain ⟨bs, parts, -, -, hfiles⟩ := generate_ok h
  refine ⟨bs, _, hfiles, ?_⟩
  split
  · refine List.forall_mem_append.2 ⟨List.forall_mem_append.2 ⟨?_, ?_⟩, fun file hfile => ?_⟩
    · exact List.forall_mem_cons.2 ⟨hfirm.endsOnce_sourceFile .., List.forall_mem_singleton.2 (hfirm.endsOnce_sourceFile ..)⟩
    · split
      · exact List.forall_mem_singleton.2 (hfirm.endsOnce_sourceFile ..)
      · exact List.forall_mem_nil _
    · obtain ⟨entry, hentry, rfl⟩ := List.mem_map.1 hfile
      exact endsOnce_moduleIndex f _ entry hentry
  · exact List.forall_mem_singleton.2 (hfirm.endsOnce_sourceFile ..)

end Target

/-- **Joins flatten.** A join within a join leaves what one join of all sections leaves, whatever the separator is.
Unless all sections are blank the text does not begin with a line feed and ends with exactly one, and so does every
source file of every project; the files after them are the manifests and the readme. -/
theorem Text.joinSections_flattens (before inner after : List String) (separator : String) :
    joinSections (before ++ [joinSections inner separator] ++ after) separator =
      joinSections (before ++ inner ++ after) separator ∧
    (if ∀ s ∈ before ++ inner ++ after, isBlankText s = true then
      joinSections (before ++ inner ++ after) separator = "\n"
    else EndsOnce (joinSections (before ++ inner ++ after) separator)) ∧
    ∀ f d o p, (Target.ofFramework f).generate d o = .ok p →
      ∃ bs sources, p.files = sources ++ (Target.ofFramework f).furtherFiles ⟨d, o, bs⟩ ∧
        ∀ file ∈ sources, EndsOnce file.content := by
  refine ⟨joinSections_nested before inner after separator, ?_, fun f d o p => Target.endsOnce_sources f⟩
  split
  · rename_i hblank
    rw [joinSections_eq, keptSections_eq_nil_iff.2 hblank]
    rfl
  · rename_i hinked
    push Not at hinked
    obtain ⟨s, hs, hne⟩ := hinked
    exact endsOnce_joinSections hs (by simpa using hne) separator

/-- A join within a join, and a crate without widgets, which has a file that names its modules. -/
theorem Text.joinSections_flattens_crate :
    joinSections ["a", joinSections ["\n", "b\n\n"] "--", "c"] "--" = "a--b--c\n" ∧
      ∃ d p, (Target.ofFramework .ratatui).generate d ⟨.ratatui, .modular, false, true⟩ = .ok p ∧
        ∃ bs sources, p.files = sources ++
          (Target.ofFramework .ratatui).furtherFiles ⟨d, ⟨.ratatui, .modular, false, true⟩, bs⟩ ∧
            ∀ file ∈ sources, EndsOnce file.content := by
  let d : Design := ⟨"1.0.0", ⟨"crate", none, none, "1.0.0", none, none, .ratatui, []⟩, .default, [], []⟩
  obtain ⟨p, hp⟩ : ∃ p, (Target.ofFramework .ratatui).generate d ⟨.ratatui, .modular, false, true⟩ = .ok p :=
    exists_ok_of_isOk (by rfl)
  obtain ⟨hflat, -, hfiles⟩ := joinSections_flattens ["a"] ["\n", "b\n\n"] ["c"] "--"
  have htext : joinSections ["a", "\n", "b\n\n", "c"] "--" = "a--b--c\n" := by decide
  exact ⟨hflat.trans htext, d, p, hp, hfiles _ d _ p hp⟩

end DashboardCompiler
