import DashboardCompiler.Proofs.Text.Declarations
import DashboardCompiler.Proofs.Text.Naming
import DashboardCompiler.Proofs.Text.Tidy
import Mathlib.Data.List.Basic

/-!
# Listed names

Import and export lines list names between a fixed opening and a fixed closing. A listing is read line by line
like a declaration; what stands inside is taken apart into names, whatever separates them.
-/

namespace DashboardCompiler.Code

open Text

/-- What a line holds between an opening and a closing. -/
def enclosed? (opening closing line : List Char) : Option (List Char) :=
  (line.dropPrefix? opening).bind (·.dropSuffix? closing)

/-- The names in a text, which are its longest runs of name characters. -/
def nameRuns (cs : List Char) : List (List Char) :=
  (cs.splitOnP fun c => !Name.isNameChar c).filter fun run => !run.isEmpty

/-- The names that the lines of a text list between an opening and a closing. -/
def listedNames (opening closing : List Char) (s : String) : List String :=
  (declaredNames (enclosed? opening closing) s).flatMap fun inner => (nameRuns inner.toList).map String.ofList

/-! ## Lines -/

theorem enclosed?_append (opening inner closing : List Char) :
    enclosed? opening closing (opening ++ (inner ++ closing)) = some inner := by
  have hopening : (opening ++ (inner ++ closing)).dropPrefix? opening = some (inner ++ closing) :=
    List.dropPrefix?_append_of_beq _ (beq_self_eq_true _)
  have hclosing : (inner ++ closing).dropSuffix? closing = some inner :=
    List.dropSuffix?_eq_some_iff.2 ⟨closing, rfl, beq_self_eq_true _⟩
  rw [enclosed?, hopening, Option.bind_some, hclosing]

theorem prefix_of_enclosed? {opening closing line inner : List Char}
    (h : enclosed? opening closing line = some inner) : opening <+: line := by
  obtain ⟨rest, hrest, -⟩ := Option.bind_eq_some_iff.1 h
  obtain ⟨start, hline, hstart⟩ := List.dropPrefix?_eq_some_iff.1 hrest
  rw [hline, ← eq_of_beq hstart]
  exact List.prefix_append _ _

theorem subset_of_enclosed? {opening closing line inner : List Char}
    (h : enclosed? opening closing line = some inner) : closing ⊆ line := by
  obtain ⟨rest, hrest, hinner⟩ := Option.bind_eq_some_iff.1 h
  obtain ⟨start, hline, -⟩ := List.dropPrefix?_eq_some_iff.1 hrest
  obtain ⟨found, hfound, hclosing⟩ := List.dropSuffix?_eq_some_iff.1 hinner
  rw [hline, hfound, ← eq_of_beq hclosing]
  exact List.Subset.trans (List.subset_append_right _ _) (List.subset_append_right _ _)

/-- A line that opens no declaration with an opening lists nothing after it. -/
theorem enclosed?_eq_none {openings : List (List Char)} {opening : List Char} (hmem : opening ∈ openings)
    {line : List Char} (h : declaredName? openings line = none) (closing : List Char) :
    enclosed? opening closing line = none := by
  rw [declaredName?, Option.map_eq_none_iff, List.find?_eq_none] at h
  refine Option.eq_none_iff_forall_ne_some.2 fun inner hinner => h opening hmem ?_
  exact List.isPrefixOf_iff_prefix.2 (prefix_of_enclosed? hinner)

theorem enclosed?_skipsBlank {openings : List (List Char)} (h : Inked openings) {opening : List Char}
    (hmem : opening ∈ openings) (closing : List Char) : SkipsBlank (enclosed? opening closing) :=
  fun line hline => enclosed?_eq_none hmem (declaredName?_skipsBlank h line hline) closing

/-- Two closings of which neither ends the other are told apart. -/
theorem enclosed?_other {closing other : List Char} (h : ¬ closing <:+ other) (h' : ¬ other <:+ closing)
    (opening inner : List Char) : enclosed? opening closing (opening ++ (inner ++ other)) = none := by
  have hopening : (opening ++ (inner ++ other)).dropPrefix? opening = some (inner ++ other) :=
    List.dropPrefix?_append_of_beq _ (beq_self_eq_true _)
  rw [enclosed?, hopening, Option.bind_some]
  refine Option.eq_none_iff_forall_ne_some.2 fun rest hrest => ?_
  obtain ⟨found, hline, hfound⟩ := List.dropSuffix?_eq_some_iff.1 hrest
  rw [eq_of_beq hfound] at hline
  have hclosing : closing <:+ inner ++ other := ⟨rest, hline.symm⟩
  exact (List.suffix_or_suffix_of_suffix hclosing (List.suffix_append inner other)).elim h h'

/-! ## Texts without openings -/

theorem UnbrokenLines.declaredNames {read : List Char → Option (List Char)} (hnil : read [] = none)
    {items : List String} (h : UnbrokenLines items) : declaredNames read (joinLines items) = readNames read items :=
  declaredNames_joinLines hnil h.oneLine

theorem TidyLines.declaredNames {read : List Char → Option (List Char)} (hnil : read [] = none)
    {items : List String} (h : TidyLines items) : Code.declaredNames read (joinLines items) = readNames read items :=
  (UnbrokenLines.of_tidy h).declaredNames hnil

theorem mem_readNames {read : List Char → Option (List Char)} {items : List String} {name : String} :
    name ∈ readNames read items ↔ ∃ line ∈ items, name ∈ readNames read [line] := by
  simp only [readNames, List.mem_filterMap, List.mem_singleton, exists_eq_left]

theorem readNames_eq_nil_iff {read : List Char → Option (List Char)} {items : List String} :
    readNames read items = [] ↔ ∀ line ∈ items, read line.toList = none := by
  simp only [readNames, List.filterMap_eq_nil_iff, Option.map_eq_none_iff]

/-- What declares nothing with some openings declares nothing with fewer. -/
theorem declaredName?_eq_none_of_subset {openings fewer : List (List Char)} (hsubset : fewer ⊆ openings)
    {line : List Char} (h : declaredName? openings line = none) : declaredName? fewer line = none := by
  rw [declaredName?, Option.map_eq_none_iff, List.find?_eq_none] at h ⊢
  exact fun opening hopening => h opening (hsubset hopening)

section Silence

variable {openings : List (List Char)} {items : List String}

/-- What declares nothing gives nothing to a reader that finds no more than the openings. -/
theorem readNames_of_silent {read : List Char → Option (List Char)}
    (hread : ∀ line, declaredName? openings line = none → read line = none)
    (h : readNames (declaredName? openings) items = []) : readNames read items = [] :=
  readNames_eq_nil_iff.2 fun line hline => hread _ (readNames_eq_nil_iff.1 h line hline)

theorem readNames_of_subset {fewer : List (List Char)} (hsubset : fewer ⊆ openings)
    (h : readNames (declaredName? openings) items = []) : readNames (declaredName? fewer) items = [] :=
  readNames_of_silent (fun _ => declaredName?_eq_none_of_subset hsubset) h

theorem readNames_enclosed {opening : List Char} (hmem : opening ∈ openings)
    (h : readNames (declaredName? openings) items = []) (closing : List Char) :
    readNames (enclosed? opening closing) items = [] :=
  readNames_of_silent (fun _ hline => enclosed?_eq_none hmem hline closing) h

end Silence

/-! ## Names -/

/-- A text that is a name. -/
structure IsName (name : String) : Prop where
  inked : name.toList ≠ []
  chars : ∀ c ∈ name.toList, Name.isNameChar c = true

instance (name : String) : Decidable (IsName name) :=
  decidable_of_iff (name.toList ≠ [] ∧ name.toList.all Name.isNameChar = true)
    ⟨fun h => ⟨h.1, List.all_eq_true.1 h.2⟩, fun h => ⟨h.inked, List.all_eq_true.2 h.chars⟩⟩

theorem IsName.plain {name : String} (h : IsName name) : Plain name :=
  fun c hc => Name.isPlain_of_isNameChar (h.chars c hc)

theorem isName_typeName (id : String) : IsName (Name.typeName id) := by
  refine ⟨fun hempty => ?_, fun c hc => ?_⟩
  · have hsuffix := (Name.suffix_typeName id).length_le
    rw [hempty] at hsuffix
    exact absurd hsuffix (by decide)
  · rw [Name.typeName, String.toList_ofList] at hc
    exact Name.isNameChar_of_mem_typeChars hc

theorem IsName.splitOnP {name : String} (h : IsName name) :
    name.toList.splitOnP (fun c => !Name.isNameChar c) = [name.toList] :=
  List.splitOnP_eq_singleton fun c hc => by rw [h.chars c hc]; rfl

theorem nameRuns_cons {c : Char} (hc : Name.isNameChar c = false) (cs : List Char) :
    nameRuns (c :: cs) = nameRuns cs := by
  rw [nameRuns, List.splitOnP_cons_eq_if_modifyHead, hc]
  rfl

/-- A run of names ends where something else begins. -/
theorem nameRuns_append_cons (before : List Char) {c : Char} (hc : Name.isNameChar c = false) (after : List Char) :
    nameRuns (before ++ c :: after) = nameRuns before ++ nameRuns after := by
  have hsplit : (before ++ c :: after).splitOnP (fun c => !Name.isNameChar c) =
      before.splitOnP (fun c => !Name.isNameChar c) ++ after.splitOnP (fun c => !Name.isNameChar c) :=
    List.splitOnP_append_cons before after (by simp [hc])
  rw [nameRuns, hsplit, List.filter_append]
  rfl

theorem nameRuns_name {name : String} (h : IsName name) : nameRuns name.toList = [name.toList] := by
  rw [nameRuns, h.splitOnP]
  exact List.filter_cons_of_pos (by simpa using h.inked)

/-- Names with commas between them are read back. -/
theorem nameRuns_joinWith {names : List String} (h : ∀ name ∈ names, IsName name) :
    nameRuns (joinWith ", " names).toList = names.map String.toList := by
  have hcomma : ", ".toList = [',', ' '] := rfl
  induction names with
  | nil => rfl
  | cons name names ih =>
    obtain ⟨hname, hnames⟩ := List.forall_mem_cons.1 h
    by_cases hempty : names = []
    · subst hempty
      exact nameRuns_name hname
    · rw [joinWith_cons_of_ne_nil _ _ hempty, String.toList_append, String.toList_append, hcomma, List.append_assoc,
        List.cons_append, nameRuns_append_cons _ (by decide), nameRuns_name hname, List.singleton_append,
        List.singleton_append, nameRuns_cons (by decide), ih hnames, List.map_cons]

theorem map_ofList_toList (names : List String) : (names.map String.toList).map String.ofList = names := by
  simp only [List.map_map, Function.comp_def, String.ofList_toList, List.map_id']

/-- What is listed with commas is what is read. -/
theorem listedNames_of_joinWith {opening closing : List Char} {s : String} {names : List String}
    (h : declaredNames (enclosed? opening closing) s = [joinWith ", " names]) (hnames : ∀ name ∈ names, IsName name) :
    listedNames opening closing s = names := by
  rw [listedNames, h, List.flatMap_singleton, nameRuns_joinWith hnames, map_ofList_toList]

/-- A line that lists names. -/
theorem readNames_listing {opening closing : List Char} {line inner : String}
    (hline : line.toList = opening ++ (inner.toList ++ closing)) :
    readNames (enclosed? opening closing) [line] = [inner] := by
  rw [readNames, List.filterMap_cons, hline, enclosed?_append]
  simp only [List.filterMap_nil, Option.map_some, String.ofList_toList]

end DashboardCompiler.Code
