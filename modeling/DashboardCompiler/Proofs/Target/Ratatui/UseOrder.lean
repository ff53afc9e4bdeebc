import DashboardCompiler.Proofs.Target.Ratatui.Links
import DashboardCompiler.Proofs.Text.Joins

/-!
# The order of use declarations

The names that a file uses of a path are a set, and a list that stands for a set gives its names in an order that
means nothing. The declarations sort paths and names, and for names the sorting only looks at their lower case: names
that differ in case alone stay in the order of the list. So the text is determined by the sets exactly if no path has
two such names.
-/

namespace DashboardCompiler.Ratatui

open Text

/-- The names of a path over all groups, each once, in the order in which the groups give them. -/
def merged (uses : List Use) (path : String) : List String :=
  ((uses.filter fun u => u.path = path).flatMap (·.names)).eraseDups

/-- Two lists of groups that merge into the same sets, whatever the order in which either gives them. -/
structure SameSets (uses other : List Use) : Prop where
  paths : ∀ path, path ∈ uses.map (·.path) ↔ path ∈ other.map (·.path)
  names : ∀ path, (merged uses path).Perm (merged other path)

theorem SameSets.refl (uses : List Use) : SameSets uses uses := ⟨fun _ => .rfl, fun _ => .rfl⟩

theorem SameSets.symm {uses other : List Use} (h : SameSets uses other) : SameSets other uses :=
  ⟨fun path => (h.paths path).symm, fun path => (h.names path).symm⟩

theorem SameSets.trans {uses other further : List Use} (h : SameSets uses other) (h' : SameSets other further) :
    SameSets uses further :=
  ⟨fun path => (h.paths path).trans (h'.paths path), fun path => (h.names path).trans (h'.names path)⟩

/-- No two of the names differ in case alone; that of the module itself is compared with none. -/
def CaseApart (names : List String) : Prop :=
  ∀ a ∈ names, ∀ b ∈ names, a ≠ "self" → b ≠ "self" → Unicode.lower a = Unicode.lower b → a = b

/-! ## Sorting -/

/-- What the sorting looks at; the module itself has nothing to be compared. -/
def sortKey (name : String) : Option String := if name = "self" then none else some (Unicode.lower name)

def keyLe : Option String → Option String → Prop
  | none, _ => True
  | some _, none => False
  | some a, some b => a ≤ b

theorem keyLe_antisymm {j k : Option String} (h : keyLe j k) (h' : keyLe k j) : j = k := by
  match j, k with
  | none, none => rfl
  | none, some _ => exact h'.elim
  | some _, none => exact h.elim
  | some a, some b => exact congrArg some (String.le_antisymm h h')

theorem namedBefore_iff {a b : String} : namedBefore a b = true ↔ keyLe (sortKey a) (sortKey b) := by
  unfold namedBefore sortKey
  by_cases ha : a = "self"
  · simp only [ha, ↓reduceIte, keyLe]
  · by_cases hb : b = "self"
    · simp only [ha, hb, ↓reduceIte, keyLe, Bool.false_eq_true]
    · simp only [ha, hb, ↓reduceIte, keyLe, decide_eq_true_eq]

theorem namedBefore_trans (a b c : String) (h : namedBefore a b = true) (h' : namedBefore b c = true) :
    namedBefore a c = true := by
  rw [namedBefore_iff] at h h' ⊢
  generalize sortKey a = j at h ⊢
  generalize sortKey b = k at h h'
  generalize sortKey c = l at h' ⊢
  match j, k, l with
  | none, _, _ => trivial
  | some _, none, _ => exact h.elim
  | some _, some _, none => exact h'.elim
  | some _, some _, some _ => exact String.le_trans h h'

theorem namedBefore_total (a b : String) : (namedBefore a b || namedBefore b a) = true := by
  rw [Bool.or_eq_true, namedBefore_iff, namedBefore_iff]
  generalize sortKey a = j
  generalize sortKey b = k
  match j, k with
  | none, _ => exact .inl trivial
  | some _, none => exact .inr trivial
  | some a, some b => exact String.le_total a b

theorem namedBefore_of_sortKey_eq {a b : String} (h : sortKey a = sortKey b) : namedBefore a b = true := by
  have hself := namedBefore_total b b
  rw [Bool.or_self, namedBefore_iff] at hself
  rw [namedBefore_iff, h]
  exact hself

theorem sortKey_eq_iff {a b : String} (ha : a ≠ "self") (hb : b ≠ "self") :
    sortKey a = sortKey b ↔ Unicode.lower a = Unicode.lower b := by
  rw [sortKey, sortKey, if_neg ha, if_neg hb, Option.some.injEq]

theorem sortKey_eq_of_self {a b : String} (h : sortKey a = sortKey b) (hself : a = "self" ∨ b = "self") : a = b := by
  unfold sortKey at h
  rcases hself with rfl | rfl
  · by_contra hb
    rw [if_pos rfl, if_neg (Ne.symm hb)] at h
    cases h
  · by_contra ha
    rw [if_neg ha, if_pos rfl] at h
    cases h

theorem caseApart_iff {names : List String} :
    CaseApart names ↔ ∀ a ∈ names, ∀ b ∈ names, sortKey a = sortKey b → a = b := by
  constructor
  · intro h a ha b hb hkey
    by_cases haself : a = "self"
    · exact sortKey_eq_of_self hkey (.inl haself)
    · by_cases hbself : b = "self"
      · exact sortKey_eq_of_self hkey (.inr hbself)
      · exact h a ha b hb haself hbself ((sortKey_eq_iff haself hbself).1 hkey)
  · intro h a ha b hb haself hbself hlower
    exact h a ha b hb ((sortKey_eq_iff haself hbself).2 hlower)

theorem namesAt_eq (uses : List Use) (path : String) : namesAt uses path = (merged uses path).mergeSort namedBefore :=
  rfl

theorem pairwise_namesAt (uses : List Use) (path : String) :
    (namesAt uses path).Pairwise fun a b => namedBefore a b = true :=
  List.pairwise_mergeSort namedBefore_trans namedBefore_total _

theorem namesAt_perm (uses : List Use) (path : String) : (namesAt uses path).Perm (merged uses path) :=
  List.mergeSort_perm _ _

theorem mem_merged {uses : List Use} {path name : String} : name ∈ merged uses path ↔ name ∈ namesAt uses path :=
  (namesAt_perm uses path).mem_iff.symm

theorem nodup_eraseDups : ∀ as : List String, as.eraseDups.Nodup
  | [] => List.nodup_nil
  | a :: as => by
    rw [List.eraseDups_cons, List.nodup_cons, List.mem_eraseDups]
    exact ⟨by simp, nodup_eraseDups _⟩
termination_by as => as.length
decreasing_by
  have hfilter := List.length_filter_le (fun b => !b == a) as
  rw [List.length_cons]
  omega

theorem nodup_merged (uses : List Use) (path : String) : (merged uses path).Nodup := nodup_eraseDups _

variable {uses other : List Use}

theorem SameSets.perm_namesAt (h : SameSets uses other) (path : String) :
    (namesAt uses path).Perm (namesAt other path) :=
  ((namesAt_perm uses path).trans (h.names path)).trans (namesAt_perm other path).symm

/-- Sorted, the same sets differ at most in the order of names with one key. -/
theorem SameSets.map_sortKey (h : SameSets uses other) (path : String) :
    (namesAt uses path).map sortKey = (namesAt other path).map sortKey := by
  have hsorted (uses : List Use) : ((namesAt uses path).map sortKey).Pairwise keyLe :=
    List.pairwise_map.2 ((pairwise_namesAt uses path).imp fun hle => namedBefore_iff.1 hle)
  exact ((h.perm_namesAt path).map sortKey).eq_of_pairwise (fun _ _ _ _ => keyLe_antisymm) (hsorted uses) (hsorted other)

theorem SameSets.forall₂_sortKey (h : SameSets uses other) (path : String) :
    List.Forall₂ (fun a b => sortKey a = sortKey b) (namesAt uses path) (namesAt other path) := by
  have heq := h.map_sortKey path
  rw [← List.forall₂_eq_eq_eq, List.forall₂_map_left_iff, List.forall₂_map_right_iff] at heq
  exact heq

theorem SameSets.namesAt_eq (h : SameSets uses other) {path : String} (hapart : CaseApart (merged uses path)) :
    namesAt uses path = namesAt other path := by
  refine (h.perm_namesAt path).eq_of_pairwise (fun a b ha hb hab hba => ?_) (pairwise_namesAt uses path)
    (pairwise_namesAt other path)
  have hmem : b ∈ merged uses path := mem_merged.2 ((h.perm_namesAt path).mem_iff.2 hb)
  exact caseApart_iff.1 hapart a (mem_merged.2 ha) b hmem
    (keyLe_antisymm (namedBefore_iff.1 hab) (namedBefore_iff.1 hba))

theorem unnested_sortKey : Unnested fun a b => sortKey a = sortKey b := by
  rintro a b hkey hbegins
  by_cases hself : a = "self" ∨ b = "self"
  · exact sortKey_eq_of_self hkey hself
  · obtain ⟨ha, hb⟩ := not_or.1 hself
    have hlower := (sortKey_eq_iff ha hb).1 hkey
    rcases hbegins with h | h
    · exact Unicode.eq_of_lower_eq_of_prefix hlower h
    · exact (Unicode.eq_of_lower_eq_of_prefix hlower.symm h).symm

/-! ## Declarations -/

/-- The paths of some groups in their order. -/
def usePaths (uses : List Use) : List String := (uses.map (·.path)).eraseDups.mergeSort fun a b => decide (a ≤ b)

/-- The paths of each block that there is. -/
def useBlocks (uses : List Use) : List (List String) :=
  [(usePaths uses).filter isStandard, (usePaths uses).filter fun p => !isStandard p].filter (!·.isEmpty)

theorem useDeclarations_eq_blocks (uses : List Use) :
    useDeclarations uses = joinWith "\n\n" ((useBlocks uses).map fun block => joinLines (block.map (useLine uses))) :=
  rfl

theorem mem_usePaths {path : String} : path ∈ usePaths uses ↔ path ∈ uses.map (·.path) := by
  rw [usePaths, List.mem_mergeSort, List.mem_eraseDups]

theorem mem_useBlocks {path : String} : (∃ block ∈ useBlocks uses, path ∈ block) ↔ path ∈ uses.map (·.path) := by
  rw [← mem_usePaths, useBlocks]
  constructor
  · rintro ⟨block, hblock, hpath⟩
    rcases List.mem_pair.1 (List.mem_filter.1 hblock).1 with rfl | rfl
    · exact (List.mem_filter.1 hpath).1
    · exact (List.mem_filter.1 hpath).1
  · intro hpath
    have hkept {block : List String} (hin : path ∈ block) : (!block.isEmpty) = true := by
      rw [List.isEmpty_eq_false_iff.2 (List.ne_nil_of_mem hin)]
      rfl
    cases hstandard : isStandard path with
    | true =>
      have hin := List.mem_filter.2 ⟨hpath, hstandard⟩
      exact ⟨_, List.mem_filter.2 ⟨List.mem_cons_self, hkept hin⟩, hin⟩
    | false =>
      have hin : path ∈ (usePaths uses).filter fun p => !isStandard p := List.mem_filter.2 ⟨hpath, by rw [hstandard]; rfl⟩
      exact ⟨_, List.mem_filter.2 ⟨List.mem_cons_of_mem _ List.mem_cons_self, hkept hin⟩, hin⟩

theorem SameSets.usePaths_eq (h : SameSets uses other) : usePaths uses = usePaths other := by
  have hsorted (paths : List String) : (paths.mergeSort fun a b => decide (a ≤ b)).Pairwise fun a b => a ≤ b :=
    (List.pairwise_mergeSort (fun a b c => by simpa using String.le_trans) (fun a b => by simpa using String.le_total a b)
      paths).imp of_decide_eq_true
  have hperm : (usePaths uses).Perm (usePaths other) := by
    refine ((List.mergeSort_perm _ _).trans ?_).trans (List.mergeSort_perm _ _).symm
    rw [List.perm_ext_iff_of_nodup (nodup_eraseDups _) (nodup_eraseDups _)]
    intro path
    rw [List.mem_eraseDups, List.mem_eraseDups, h.paths path]
  exact hperm.eq_of_pairwise (fun _ _ _ _ => String.le_antisymm) (hsorted _) (hsorted _)

theorem useLine_congr {path : String} (h : namesAt uses path = namesAt other path) :
    useLine uses path = useLine other path := by
  rw [useLine, useLine, h]

/-- Sets without names that differ in case alone have one text. -/
theorem SameSets.useDeclarations_eq (h : SameSets uses other) (hapart : ∀ path, CaseApart (merged uses path)) :
    useDeclarations other = useDeclarations uses := by
  have hblocks : useBlocks other = useBlocks uses := by rw [useBlocks, useBlocks, h.usePaths_eq]
  have hline (path : String) : useLine other path = useLine uses path :=
    (useLine_congr (h.namesAt_eq (hapart path))).symm
  rw [useDeclarations_eq_blocks, useDeclarations_eq_blocks, hblocks, funext hline]

/-! ## Ties -/

theorem length_useLine {path : String} (hperm : (namesAt uses path).Perm (namesAt other path)) :
    (useLine uses path).toList.length = (useLine other path).toList.length := by
  have hjoin := length_joinWith_perm ", " (hperm.map fun name => name.toList.length)
  unfold useLine
  generalize namesAt uses path = names at hperm hjoin ⊢
  generalize namesAt other path = names' at hperm hjoin ⊢
  match names, names' with
  | [name], names' => rw [List.singleton_perm.1 hperm]
  | [], names' => rw [List.nil_perm.1 hperm]
  | first :: second :: rest, [] => cases hperm.eq_nil
  | first :: second :: rest, [name] => cases List.perm_singleton.1 hperm
  | first :: second :: rest, first' :: second' :: rest' => simp only [String.toList_append, List.length_append, hjoin]

/-- A line shows its names, as they are ordered up to ties. -/
theorem SameSets.namesAt_eq_of_useLine_eq (h : SameSets uses other) {path : String}
    (hline : useLine uses path = useLine other path) : namesAt uses path = namesAt other path := by
  have hkeys := h.forall₂_sortKey path
  have hlength := (h.perm_namesAt path).length_eq
  rw [useLine_eq, useLine_eq, String.append_left_inj, String.append_right_inj] at hline
  unfold useList at hline
  generalize namesAt uses path = names at hkeys hlength hline ⊢
  generalize namesAt other path = names' at hkeys hlength hline ⊢
  match names, names' with
  | [], [] => rfl
  | [name], [name'] => exact congrArg (fun name => [name]) hline
  | first :: second :: rest, first' :: second' :: rest' =>
    rw [String.append_left_inj, String.append_right_inj] at hline
    exact joinWith_inj unnested_sortKey hkeys hline

/-- The sets have one text only if the names of each path come in one order. -/
theorem SameSets.namesAt_eq_of_useDeclarations_eq (h : SameSets uses other)
    (htext : useDeclarations uses = useDeclarations other) {path : String} (hpath : path ∈ uses.map (·.path)) :
    namesAt uses path = namesAt other path := by
  have hlength (path : String) : (useLine uses path).toList.length = (useLine other path).toList.length :=
    length_useLine (h.perm_namesAt path)
  have hblocks : useBlocks other = useBlocks uses := by rw [useBlocks, useBlocks, h.usePaths_eq]
  rw [useDeclarations_eq_blocks, useDeclarations_eq_blocks, hblocks] at htext
  have hlines (block : List String) : List.Forall₂ (fun a b : String => a.toList.length = b.toList.length)
      (block.map (useLine uses)) (block.map (useLine other)) :=
    List.forall₂_map_left_iff.2 (List.forall₂_map_right_iff.2 (List.forall₂_same.2 fun path _ => hlength path))
  have htexts : List.Forall₂ (fun a b : String => a.toList.length = b.toList.length)
      ((useBlocks uses).map fun block => joinLines (block.map (useLine uses)))
      ((useBlocks uses).map fun block => joinLines (block.map (useLine other))) := by
    refine List.forall₂_map_left_iff.2 (List.forall₂_map_right_iff.2 (List.forall₂_same.2 fun block _ => ?_))
    refine length_joinWith_perm "\n" (List.Perm.of_eq ?_)
    rw [List.map_map, List.map_map]
    exact List.map_congr_left fun path _ => hlength path
  obtain ⟨block, hblock, hin⟩ := mem_useBlocks.2 hpath
  have hjoined := List.map_inj_left.1 (joinWith_inj unnested_length htexts htext) block hblock
  have hline := List.map_inj_left.1 (joinWith_inj unnested_length (hlines block) hjoined) path hin
  exact h.namesAt_eq_of_useLine_eq hline

/-- A group that gives two names of a path in this order, before all other groups. -/
def leading (path a b : String) (uses : List Use) : List Use := ⟨path, [a, b]⟩ :: uses

section Leading

variable {path a b : String}

theorem not_sublist_swapped {names : List String} (hnodup : names.Nodup) (hne : a ≠ b) (h : [a, b].Sublist names) :
    ¬ [b, a].Sublist names := by
  induction names with
  | nil => cases h
  | cons name names ih =>
    obtain ⟨hfresh, hnodup⟩ := List.nodup_cons.1 hnodup
    intro h'
    cases h with
    | cons _ h =>
      cases h' with
      | cons _ h' => exact ih hnodup h h'
      | cons_cons _ h' => exact hfresh (h.subset (by simp))
    | cons_cons _ h =>
      cases h' with
      | cons _ h' => exact hfresh (h'.subset (by simp))
      | cons_cons _ h' => exact hne rfl

theorem pair_sublist_merged (hne : a ≠ b) : [a, b].Sublist (merged (leading path a b uses) path) := by
  have hb : (!b == a) = true := by simpa using Ne.symm hne
  simp only [merged, leading, List.filter_cons, decide_true, ↓reduceIte, List.flatMap_cons, List.cons_append,
    List.nil_append, List.eraseDups_cons, hb]
  exact ((List.nil_sublist _).cons_cons b).cons_cons a

theorem merged_leading_of_ne {other : String} (hne : other ≠ path) :
    merged (leading path a b uses) other = merged uses other := by
  rw [merged, leading, List.filter_cons_of_neg (by simpa using Ne.symm hne), merged]

theorem sameSets_leading (ha : a ∈ merged uses path) (hb : b ∈ merged uses path) :
    SameSets uses (leading path a b uses) where
  paths other := by
    obtain ⟨u, hu, hpath, -⟩ := mem_namesAt.1 (mem_merged.1 ha)
    have hin : path ∈ uses.map (·.path) := hpath ▸ List.mem_map_of_mem hu
    rw [leading, List.map_cons, List.mem_cons]
    exact ⟨.inr, fun h => h.elim (fun h => h ▸ hin) id⟩
  names other := by
    by_cases hother : other = path
    · rw [hother, List.perm_ext_iff_of_nodup (nodup_merged _ _) (nodup_merged _ _)]
      intro name
      have hfirst : name ∈ merged (leading path a b uses) path ↔ (name = a ∨ name = b) ∨ name ∈ merged uses path := by
        simp only [mem_merged, mem_namesAt, leading, List.exists_mem_cons_iff, true_and, List.mem_pair]
      rw [hfirst]
      exact ⟨.inr, fun h => h.elim (fun h => h.elim (fun h => h ▸ ha) fun h => h ▸ hb) id⟩
    · rw [merged_leading_of_ne hother]

/-- Names that tie are written in the order in which they are given. -/
theorem pair_sublist_namesAt (hne : a ≠ b) (hkey : sortKey a = sortKey b) :
    [a, b].Sublist (namesAt (leading path a b uses) path) :=
  List.pair_sublist_mergeSort namedBefore_trans namedBefore_total (namedBefore_of_sortKey_eq hkey)
    (pair_sublist_merged hne)

end Leading

/-- Which of two names that tie comes first is seen in the text. -/
theorem useDeclarations_leading_ne {path a b : String} (ha : a ∈ merged uses path) (hb : b ∈ merged uses path)
    (hne : a ≠ b) (hkey : sortKey a = sortKey b) :
    useDeclarations (leading path a b uses) ≠ useDeclarations (leading path b a uses) := by
  intro htext
  have hsame := (sameSets_leading ha hb).symm.trans (sameSets_leading hb ha)
  have hnames := hsame.namesAt_eq_of_useDeclarations_eq htext List.mem_cons_self
  have hnodup := (namesAt_perm (leading path a b uses) path).nodup_iff.2 (nodup_merged _ _)
  refine not_sublist_swapped hnodup hne (pair_sublist_namesAt hne hkey) ?_
  rw [hnames]
  exact pair_sublist_namesAt hne.symm hkey.symm

/-- **The order of the declarations.** The text of some sets is the same whatever order they are given in exactly if
no path has two names that differ in case alone. -/
theorem useDeclarations_stable_iff : (∀ other, SameSets uses other → useDeclarations other = useDeclarations uses) ↔
    ∀ path, CaseApart (merged uses path) := by
  constructor
  · intro hstable path
    refine caseApart_iff.2 fun a ha b hb hkey => ?_
    by_contra hne
    refine useDeclarations_leading_ne ha hb hne hkey ?_
    rw [hstable _ (sameSets_leading ha hb), hstable _ (sameSets_leading hb ha)]
  · exact fun hapart other h => h.useDeclarations_eq hapart

end DashboardCompiler.Ratatui
