import DashboardCompiler.Proofs.Target.Ratatui.UseOrder

/-!
# Merged groups of use declarations

Each part of a program brings a group of the names that it uses, and a file declares those of all its parts. What is
written depends on the groups only through two memberships, of a path in the groups and of a name in what they give for
the path: each path has one line, with all its names, and as long as no names differ in case alone there is one order
for all of them. So groups may be merged beforehand, in any order, in any number of rounds and any number of times.
-/

namespace DashboardCompiler.Ratatui

open Text

/-! ## Merging -/

/-- One group for each path of some lists of groups, with all the names that the lists give for it. -/
def mergeUses (groups : List (List Use)) : List Use :=
  (groups.flatten.map (·.path)).eraseDups.map fun path => ⟨path, merged groups.flatten path⟩

section Merging

variable {uses other : List Use} {groups : List (List Use)} {path name : String}

theorem mem_merged_iff : name ∈ merged uses path ↔ ∃ u ∈ uses, u.path = path ∧ name ∈ u.names :=
  mem_merged.trans mem_namesAt

/-- Sets are told by what is in them. -/
theorem sameSets_of_mem (hpaths : ∀ path, (∃ u ∈ uses, u.path = path) ↔ ∃ u ∈ other, u.path = path)
    (hnames : ∀ path name, (∃ u ∈ uses, u.path = path ∧ name ∈ u.names) ↔ ∃ u ∈ other, u.path = path ∧ name ∈ u.names) :
    SameSets uses other where
  paths path := by
    rw [List.mem_map, List.mem_map]
    exact hpaths path
  names path := by
    rw [List.perm_ext_iff_of_nodup (nodup_merged _ _) (nodup_merged _ _)]
    intro name
    rw [mem_merged_iff, mem_merged_iff]
    exact hnames path name

/-- It only matters which groups there are, not in which order or how often. -/
theorem sameSets_of_mem_iff (h : ∀ u, u ∈ uses ↔ u ∈ other) : SameSets uses other :=
  sameSets_of_mem (fun path => by simp only [h]) (fun path name => by simp only [h])

theorem mem_mergeUses {u : Use} :
    u ∈ mergeUses groups ↔ (∃ v ∈ groups.flatten, v.path = u.path) ∧ u.names = merged groups.flatten u.path := by
  rw [mergeUses, List.mem_map]
  constructor
  · rintro ⟨path, hpath, rfl⟩
    exact ⟨List.mem_map.1 (List.mem_eraseDups.1 hpath), rfl⟩
  · rintro ⟨hpath, hnames⟩
    exact ⟨u.path, List.mem_eraseDups.2 (List.mem_map.2 hpath), by rw [← hnames]⟩

theorem exists_path_mergeUses : (∃ u ∈ mergeUses groups, u.path = path) ↔ ∃ u ∈ groups.flatten, u.path = path := by
  constructor
  · rintro ⟨u, hu, rfl⟩
    exact (mem_mergeUses.1 hu).1
  · intro hpath
    exact ⟨⟨path, merged groups.flatten path⟩, mem_mergeUses.2 ⟨hpath, rfl⟩, rfl⟩

theorem exists_name_mergeUses : (∃ u ∈ mergeUses groups, u.path = path ∧ name ∈ u.names) ↔
    ∃ u ∈ groups.flatten, u.path = path ∧ name ∈ u.names := by
  constructor
  · rintro ⟨u, hu, rfl, hname⟩
    rw [(mem_mergeUses.1 hu).2] at hname
    exact mem_merged_iff.1 hname
  · rintro ⟨u, hu, rfl, hname⟩
    exact ⟨⟨u.path, merged groups.flatten u.path⟩, mem_mergeUses.2 ⟨⟨u, hu, rfl⟩, rfl⟩, rfl,
      mem_merged_iff.2 ⟨u, hu, rfl, hname⟩⟩

theorem sameSets_mergeUses (groups : List (List Use)) : SameSets groups.flatten (mergeUses groups) :=
  sameSets_of_mem (fun _ => exists_path_mergeUses.symm) (fun _ _ => exists_name_mergeUses.symm)

/-- Groups that are merged in parts first are merged all the same. -/
theorem sameSets_mergeUses_parts (parts : List (List (List Use))) :
    SameSets parts.flatten.flatten (parts.map mergeUses).flatten := by
  have hmem (P : Use → Prop) (hmerge : ∀ groups, (∃ u ∈ mergeUses groups, P u) ↔ ∃ u ∈ groups.flatten, P u) :
      (∃ u ∈ parts.flatten.flatten, P u) ↔ ∃ u ∈ (parts.map mergeUses).flatten, P u := by
    constructor
    · rintro ⟨u, hu, hP⟩
      obtain ⟨group, hgroup, hu⟩ := List.mem_flatten.1 hu
      obtain ⟨part, hpart, hgroup⟩ := List.mem_flatten.1 hgroup
      obtain ⟨v, hv, hP⟩ := (hmerge part).2 ⟨u, List.mem_flatten.2 ⟨group, hgroup, hu⟩, hP⟩
      exact ⟨v, List.mem_flatten.2 ⟨_, List.mem_map_of_mem hpart, hv⟩, hP⟩
    · rintro ⟨u, hu, hP⟩
      obtain ⟨_, hmerged, hu⟩ := List.mem_flatten.1 hu
      obtain ⟨part, hpart, rfl⟩ := List.mem_map.1 hmerged
      obtain ⟨v, hv, hP⟩ := (hmerge part).1 ⟨u, hu, hP⟩
      obtain ⟨group, hgroup, hv⟩ := List.mem_flatten.1 hv
      exact ⟨v, List.mem_flatten.2 ⟨group, List.mem_flatten.2 ⟨part, hpart, hgroup⟩, hv⟩, hP⟩
  exact sameSets_of_mem (fun path => hmem _ fun _ => exists_path_mergeUses)
    (fun path name => hmem _ fun _ => exists_name_mergeUses)

end Merging

/-! ## What is written -/

/-- The line for some names of a path. -/
def lineOf (path : String) : List String → String
  | [name] => "use " ++ path ++ "::" ++ name ++ ";"
  | names => "use " ++ path ++ "::\x7b" ++ joinWith ", " names ++ "\x7d;"

/-- The names given for a path, each once and the module itself before its items. -/
structure Listed (uses : List Use) (path : String) (names : List String) : Prop where
  mem_iff : ∀ name, name ∈ names ↔ ∃ u ∈ uses, u.path = path ∧ name ∈ u.names
  nodup : names.Nodup
  self_first : "self" ∈ names → names.head? = some "self"

/-- Two blocks of lines, with an empty line between them if both are there. -/
def twoBlocks (first second : List String) : List String :=
  first ++ (if first = [] ∨ second = [] then [] else [""]) ++ second

/-- The paths of some groups in two sorted blocks, those of the standard library in the first. -/
structure Blocks (uses : List Use) (standard others : List String) : Prop where
  mem_iff : ∀ path, path ∈ standard ++ others ↔ ∃ u ∈ uses, u.path = path
  sorted_standard : standard.Pairwise (· < ·)
  sorted_others : others.Pairwise (· < ·)
  standard_paths : ∀ path ∈ standard, isStandard path = true
  other_paths : ∀ path ∈ others, isStandard path = false

section Writing

variable (uses : List Use)

theorem useLine_eq_lineOf (path : String) : useLine uses path = lineOf path (namesAt uses path) := by
  unfold useLine lineOf
  rfl

theorem listed_namesAt (path : String) : Listed uses path (namesAt uses path) where
  mem_iff name := mem_namesAt
  nodup := (namesAt_perm uses path).nodup_iff.2 (nodup_merged uses path)
  self_first hself := by
    have hsorted := pairwise_namesAt uses path
    -- Only the module itself is before itself.
    have hfirst {name : String} (h : namedBefore name "self" = true) : name = "self" := by
      by_contra hne
      rw [namedBefore_iff, sortKey, sortKey, if_neg hne, if_pos rfl] at h
      exact h
    cases hnames : namesAt uses path with
    | nil => rw [hnames] at hself; cases hself
    | cons name names =>
      rw [hnames] at hself hsorted
      rcases List.mem_cons.1 hself with rfl | hself
      · rfl
      · rw [hfirst ((List.pairwise_cons.1 hsorted).1 "self" hself)]
        rfl

theorem nodup_usePaths : (usePaths uses).Nodup := (List.mergeSort_perm _ _).nodup_iff.2 (nodup_eraseDups _)

theorem pairwise_usePaths : (usePaths uses).Pairwise (· < ·) := by
  have hsorted : (usePaths uses).Pairwise (· ≤ ·) :=
    (List.pairwise_mergeSort (fun a b c => by simpa using String.le_trans) (fun a b => by simpa using String.le_total a b)
      _).imp of_decide_eq_true
  refine (hsorted.and (nodup_usePaths uses)).imp fun h => ?_
  by_contra hlt
  exact h.2 (String.le_antisymm h.1 (String.not_lt.1 hlt))

theorem blocks_usePaths :
    Blocks uses ((usePaths uses).filter isStandard) ((usePaths uses).filter fun p => !isStandard p) where
  mem_iff path := by
    rw [List.mem_append, List.mem_filter, List.mem_filter, mem_usePaths, List.mem_map]
    cases isStandard path <;> simp
  sorted_standard := (pairwise_usePaths uses).filter _
  sorted_others := (pairwise_usePaths uses).filter _
  standard_paths path hpath := (List.mem_filter.1 hpath).2
  other_paths path hpath := by simpa using (List.mem_filter.1 hpath).2

theorem joinLines_twoBlocks (first second : List String) : joinLines (twoBlocks first second) =
    joinWith "\n\n" (([first, second].filter (!·.isEmpty)).map joinLines) := by
  match first, second with
  | [], [] => rfl
  | [], line :: lines => rfl
  | line :: lines, [] => simp [twoBlocks, joinWith]
  | line :: lines, line' :: lines' =>
    have hfirst : line :: lines ≠ [] := List.cons_ne_nil _ _
    have hsecond : line' :: lines' ≠ [] := List.cons_ne_nil _ _
    have hgap : twoBlocks (line :: lines) (line' :: lines') = (line :: lines) ++ ("" :: line' :: lines') := by
      simp [twoBlocks]
    calc joinLines (twoBlocks (line :: lines) (line' :: lines'))
        = joinLines (line :: lines) ++ "\n" ++ ("" ++ "\n" ++ joinLines (line' :: lines')) := by
          rw [hgap, joinLines, joinWith_append _ hfirst (List.cons_ne_nil _ _), joinWith_cons_of_ne_nil _ _ hsecond]
          rfl
      _ = joinLines (line :: lines) ++ ("\n" ++ "\n") ++ joinLines (line' :: lines') := by
          rw [String.empty_append, String.append_assoc, String.append_assoc, String.append_assoc]

/-- The lines of some paths, one for each. -/
def useLines (paths : List String) : List String := paths.map fun path => lineOf path (namesAt uses path)

theorem useDeclarations_eq_joinLines : useDeclarations uses = joinLines
    (twoBlocks (useLines uses ((usePaths uses).filter isStandard))
      (useLines uses ((usePaths uses).filter fun p => !isStandard p))) := by
  have hline : useLine uses = fun path => lineOf path (namesAt uses path) := funext (useLine_eq_lineOf uses)
  have hblocks (first second : List String) :
      (([first, second].filter (!·.isEmpty)).map fun block => joinLines (block.map (useLine uses))) =
        ([useLines uses first, useLines uses second].filter (!·.isEmpty)).map joinLines := by
    rw [hline]
    cases first <;> cases second <;> rfl
  rw [useDeclarations_eq_blocks, useBlocks, hblocks, joinLines_twoBlocks]

end Writing

theorem oneLine_lineOf {path : String} {names : List String} (hpath : OneLine path)
    (hnames : ∀ name ∈ names, OneLine name) : OneLine (lineOf path names) := by
  unfold lineOf
  split
  next name =>
    simp only [oneLine_append]
    exact ⟨⟨⟨⟨by decide, hpath⟩, by decide⟩, hnames name (List.mem_singleton_self _)⟩, by decide⟩
  · simp only [oneLine_append]
    exact ⟨⟨⟨⟨by decide, hpath⟩, by decide⟩, oneLine_joinWith (by decide) hnames⟩, by decide⟩

/-- Paths and names that each fit in a line. -/
def OneLineUses (uses : List Use) : Prop := ∀ u ∈ uses, OneLine u.path ∧ ∀ name ∈ u.names, OneLine name

theorem OneLineUses.useLines {uses : List Use} (h : OneLineUses uses) {paths : List String}
    (hpaths : ∀ path ∈ paths, path ∈ usePaths uses) : ∀ line ∈ useLines uses paths, OneLine line := by
  rw [Ratatui.useLines, List.forall_mem_map]
  intro path hpath
  obtain ⟨u, hu, rfl⟩ := List.mem_map.1 (mem_usePaths.1 (hpaths path hpath))
  refine oneLine_lineOf (h u hu).1 fun name hname => ?_
  obtain ⟨v, hv, -, hname⟩ := mem_namesAt.1 hname
  exact (h v hv).2 name hname

theorem oneLine_twoBlocks {first second : List String} (hfirst : ∀ line ∈ first, OneLine line)
    (hsecond : ∀ line ∈ second, OneLine line) : ∀ line ∈ twoBlocks first second, OneLine line := by
  intro line hline
  rw [twoBlocks, List.mem_append, List.mem_append] at hline
  obtain (hline | hline) | hline := hline
  · exact hfirst line hline
  · split at hline
    · cases hline
    · rw [List.mem_singleton.1 hline]
      decide
  · exact hsecond line hline

/-- **Merged groups.** Declarations of merged groups are those of the groups. Each path has its one line, with its
names each once and the module itself first; the lines come in two sorted blocks, those of the standard library before
the others; and groups in another order, grouped in another way or given again have the same text. -/
theorem useDeclarations_mergeUses {groups : List (List Use)} (hone : OneLineUses groups.flatten)
    (hapart : ∀ path, CaseApart (merged groups.flatten path)) :
    let text := useDeclarations (mergeUses groups)
    (∃ (standard others : List String) (names : String → List String),
      Blocks groups.flatten standard others ∧ (∀ path, Listed groups.flatten path (names path)) ∧
        let written := twoBlocks (standard.map fun path => lineOf path (names path))
          (others.map fun path => lineOf path (names path))
        text = joinLines written ∧ (written ≠ [] → lines text = written)) ∧
      text = useDeclarations groups.flatten ∧
      (∀ other : List (List Use), other.Perm groups → useDeclarations (mergeUses other) = text) ∧
      (∀ parts : List (List (List Use)), parts.flatten = groups →
        useDeclarations (mergeUses (parts.map mergeUses)) = text) ∧
      useDeclarations (mergeUses (groups ++ groups)) = text := by
  have hsame {other : List Use} (h : SameSets groups.flatten other) :
      useDeclarations other = useDeclarations groups.flatten := h.useDeclarations_eq hapart
  have htext : useDeclarations (mergeUses groups) = useDeclarations groups.flatten := hsame (sameSets_mergeUses groups)
  have hmerge {other : List (List Use)} (h : SameSets groups.flatten other.flatten) :
      useDeclarations (mergeUses other) = useDeclarations (mergeUses groups) := by
    rw [htext, hsame (h.trans (sameSets_mergeUses other))]
  refine ⟨⟨_, _, namesAt groups.flatten, blocks_usePaths groups.flatten, listed_namesAt groups.flatten, ?_, ?_⟩,
    htext, ?_, ?_, ?_⟩
  · exact htext.trans (useDeclarations_eq_joinLines groups.flatten)
  · intro hne
    rw [htext, useDeclarations_eq_joinLines]
    exact lines_joinLines (oneLine_twoBlocks (hone.useLines fun _ h => (List.mem_filter.1 h).1)
      (hone.useLines fun _ h => (List.mem_filter.1 h).1)) hne
  · intro other hperm
    exact hmerge (sameSets_of_mem_iff fun u => (hperm.flatten.mem_iff).symm)
  · rintro parts rfl
    exact hmerge (sameSets_mergeUses_parts parts)
  · exact hmerge (sameSets_of_mem_iff fun u => by rw [List.flatten_append, List.mem_append, or_self])

/-- Groups that overlap in their path and in a name, with the module itself last. -/
theorem useDeclarations_mergeUses_overlapping :
    useDeclarations (mergeUses [[⟨"std", ["fs"]⟩], [⟨"std", ["fs"]⟩, ⟨"std", ["self"]⟩]]) = "use std::\x7bself, fs\x7d;" ∧
      useDeclarations (mergeUses [[⟨"std", ["fs"]⟩, ⟨"std", ["self"]⟩], [⟨"std", ["fs"]⟩]]) =
        "use std::\x7bself, fs\x7d;" := by
  let groups : List (List Use) := [[⟨"std", ["fs"]⟩], [⟨"std", ["fs"]⟩, ⟨"std", ["self"]⟩]]
  have hone : OneLineUses groups.flatten := by
    unfold OneLineUses
    decide
  have hname {path name : String} (h : name ∈ merged groups.flatten path) (hself : name ≠ "self") : name = "fs" := by
    obtain ⟨u, hu, -, hname⟩ := mem_merged_iff.1 h
    have hgiven : ∀ u ∈ groups.flatten, ∀ name ∈ u.names, name = "fs" ∨ name = "self" := by decide
    exact (hgiven u hu name hname).resolve_right hself
  have hapart (path : String) : CaseApart (merged groups.flatten path) := by
    intro a ha b hb haself hbself _
    rw [hname ha haself, hname hb hbself]
  obtain ⟨-, hflat, hperm, -⟩ := useDeclarations_mergeUses hone hapart
  have htext : useDeclarations groups.flatten = "use std::\x7bself, fs\x7d;" := by
    have hpaths : usePaths groups.flatten = ["std"] := by simp [groups, usePaths, List.eraseDups_cons]
    have hnames : namesAt groups.flatten "std" = ["self", "fs"] := by
      simp [groups, namesAt, List.eraseDups_cons, List.mergeSort, namedBefore]
    have hstandard : isStandard "std" = true := by decide
    simp only [useDeclarations_eq_joinLines, hpaths, List.filter_cons, hstandard, Bool.not_true, Bool.false_eq_true,
      ↓reduceIte, List.filter_nil, useLines, List.map_cons, List.map_nil, hnames]
    rfl
  exact ⟨hflat.trans htext, (hperm _ (List.Perm.swap _ _ _)).trans (hflat.trans htext)⟩

end DashboardCompiler.Ratatui
