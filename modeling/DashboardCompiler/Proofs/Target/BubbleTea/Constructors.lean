import DashboardCompiler.Proofs.Generation.Wiring
import DashboardCompiler.Proofs.Target.BubbleTea.Types
import Mathlib.Data.List.Perm.Basic

/-!
# Package names of Bubble Tea widgets

A package has one name space for its types, functions, variables and constants; methods belong to their type.
A widget takes two names of the package, its type's and its constructor's, which is the former with `New` in
front. The check of a design keeps the types apart, and with them the constructors, but compares no
constructor with a type.
-/

namespace DashboardCompiler.BubbleTea

open Code Text

/-- What opens a declaration at package level. -/
def packageOpenings : List (List Char) :=
  [['t', 'y', 'p', 'e', ' '], ['f', 'u', 'n', 'c', ' '], ['v', 'a', 'r', ' '], ['c', 'o', 'n', 's', 't', ' ']]

/-- A function with a receiver. -/
def opensMethod (line : List Char) : Bool := ['f', 'u', 'n', 'c', ' ', '('].isPrefixOf line

/-- The name that a line declares for the whole package. -/
def packageName? (line : List Char) : Option (List Char) :=
  if opensMethod line then none else declaredName? packageOpenings line

/-- The same before the indentation is turned to tabs. -/
def templatePackageName? (line : List Char) : Option (List Char) := packageName? (tabIndentLine line)

theorem inked_packageOpenings : Inked packageOpenings := by decide

theorem templatePackageName?_nil : templatePackageName? [] = none := by decide

/-- Whether no line that begins like this declares a name for the package. -/
def isLocal (cs : List Char) : Bool := opensMethod cs || isSilentTabbed packageOpenings cs

theorem templatePackageName?_of_isLocal {cs : List Char} (h : isLocal cs = true) (rest : List Char) :
    templatePackageName? (cs ++ rest) = none := by
  rw [isLocal, Bool.or_eq_true] at h
  rcases h with hmethod | hsilent
  · obtain ⟨more, rfl⟩ := List.isPrefixOf_iff_prefix.1 hmethod
    have htab : tabIndentLine (['f', 'u', 'n', 'c', ' ', '('] ++ more ++ rest) =
        ['f', 'u', 'n', 'c', ' ', '('] ++ more ++ rest := tabIndentLine_of_ne (by decide) _
    rw [templatePackageName?, htab]
    rfl
  · unfold templatePackageName? packageName?
    split
    · rfl
    · exact declaredName?_tabbed inked_packageOpenings hsilent rest

/-! ## Fragments -/

theorem skipsInner_templatePackageName? : SkipsInner templatePackageName? where
  empty := templatePackageName?_nil
  inner opening hopening rest := by
    have hlocal : ∀ opening ∈ innerOpenings, isLocal opening = true := by decide
    exact templatePackageName?_of_isLocal (hlocal opening hopening) rest

/-- A line that opens the declaration of a name, where what follows is no part of the name. -/
theorem packageNames_opening {line : String} {opening name rest : List Char} {c : Char}
    (hline : line.toList = opening ++ (name ++ c :: rest)) (htab : tabIndentLine line.toList = line.toList)
    (hmethod : opensMethod line.toList = false)
    (hopening : packageOpenings.find? (·.isPrefixOf line.toList) = some opening)
    (hname : ∀ c ∈ name, Name.isNameChar c = true) (hc : Name.isNameChar c = false) :
    readNames templatePackageName? [line] = [String.ofList name] := by
  have hread : templatePackageName? line.toList = some name := by
    rw [templatePackageName?, htab, packageName?, hmethod]
    exact declaredName?_opening hline hopening hname hc
  rw [readNames, List.filterMap_cons, hread]
  rfl

theorem packageNames_struct (b : Behavior) :
    readNames templatePackageName? ["type " ++ b.typeName ++ " struct \x7b"] = [b.typeName] := by
  have hline : ("type " ++ b.typeName ++ " struct \x7b").toList =
      ['t', 'y', 'p', 'e', ' '] ++ (b.typeName.toList ++ ' ' :: ['s', 't', 'r', 'u', 'c', 't', ' ', '\x7b']) := by
    rw [String.toList_append, String.toList_append, List.append_assoc, String.toList_ofList, String.toList_ofList]
  have hnames := packageNames_opening hline (by rw [hline]; exact tabIndentLine_of_ne (by decide) _)
    (by rw [hline]; rfl) (by rw [hline]; rfl) isNameChar_of_mem_typeName (by decide)
  rwa [String.ofList_toList] at hnames

theorem packageNames_constructor (b : Behavior) :
    readNames templatePackageName? ["func New" ++ b.typeName ++ "() *" ++ b.typeName ++ " \x7b"] =
      ["New" ++ b.typeName] := by
  have hline : ("func New" ++ b.typeName ++ "() *" ++ b.typeName ++ " \x7b").toList =
      ['f', 'u', 'n', 'c', ' '] ++ (('N' :: 'e' :: 'w' :: b.typeName.toList) ++ '(' ::
        ([')', ' ', '*'] ++ b.typeName.toList ++ [' ', '\x7b'])) := by
    rw [String.toList_append, String.toList_append, String.toList_append, String.toList_append,
      String.toList_ofList, String.toList_ofList, String.toList_ofList]
    simp only [List.append_assoc, List.cons_append, List.nil_append]
  have hfront : ∀ c ∈ ['N', 'e', 'w'], Name.isNameChar c = true := List.all_eq_true.1 (by rfl)
  have hname : ∀ c ∈ 'N' :: 'e' :: 'w' :: b.typeName.toList, Name.isNameChar c = true :=
    List.forall_mem_append.2 ⟨hfront, isNameChar_of_mem_typeName⟩
  have hnew : String.ofList ('N' :: 'e' :: 'w' :: b.typeName.toList) = "New" ++ b.typeName := by
    apply String.toList_injective
    rw [String.toList_ofList, String.toList_append, String.toList_ofList]
    rfl
  have hnames := packageNames_opening hline (by rw [hline]; exact tabIndentLine_of_ne (by decide) _)
    (by rw [hline]; rfl) (by rw [hline]; rfl) hname (by decide)
  rwa [hnew] at hnames

theorem packageNames_widget (b : Behavior) (o : Options) :
    declaredNames packageName? (widget b o) = [b.typeName, "New" ++ b.typeName] := by
  have hone : ∀ line ∈ structLines b o.includeComments (partsOf b), OneLine line := fun line hline =>
    ((alike_structLines b o.includeComments).left line hline).unbroken.oneLine
  rw [widget, declaredNames_tabIndent]
  refine (declaredNames_joinLines templatePackageName?_nil hone).trans ?_
  rw [skipsInner_templatePackageName?.readNames_structLines, packageNames_struct, packageNames_constructor,
    List.singleton_append]

end DashboardCompiler.BubbleTea

namespace DashboardCompiler

open BubbleTea Code

/-- Of the type names, only those that show their id's words as they are can start with `New`. -/
theorem Name.typeName_eq_new_iff (v w : String) :
    typeName w = "New" ++ typeName v ↔ pascalCase w ++ "Widget" = "New" ++ typeName v := by
  have hnew : ("New" ++ typeName v).toList.head? = some 'N' := by
    rw [String.toList_append, String.toList_ofList]
    rfl
  have hdiffers {s : String} (hs : s.toList.head? ≠ some 'N') : s ≠ "New" ++ typeName v := by
    rintro rfl
    exact hs hnew
  have htype : (typeName w).toList = typeChars w.toList := String.toList_ofList
  have hpascal : (pascalCase w ++ "Widget").toList = pascalChars w.toList ++ "Widget".toList := by
    rw [String.toList_append, pascalCase, String.toList_ofList]
  cases hwords : pascalChars w.toList with
  | nil =>
    refine iff_of_false (hdiffers ?_) (hdiffers ?_)
    · rw [htype, typeChars, hwords]
      decide
    · rw [hpascal, hwords]
      decide
  | cons c rest =>
    cases hdigit : c.isDigit with
    | true =>
      have hc : c ≠ 'N' := by
        rintro rfl
        cases hdigit
      refine iff_of_false (hdiffers ?_) (hdiffers ?_)
      · simp [htype, typeChars, hwords, startsWithDigit, hdigit]
      · simp [hpascal, hwords, hc]
    | false =>
      have hshown : typeName w = pascalCase w ++ "Widget" := by
        apply String.toList_injective
        simp [htype, hpascal, typeChars, hwords, startsWithDigit, hdigit]
      rw [hshown]

/-- A name and the constructor's name for each of some types: all differ if no type is named like a
constructor. -/
theorem nodup_constructors {names : List String} (h : names.Nodup) :
    (names.flatMap fun name => [name, "New" ++ name]).Nodup ↔
      ∀ a ∈ names, ∀ b ∈ names, b ≠ "New" ++ a := by
  have hperm : (names ++ names.map ("New" ++ ·)).Perm (names.flatMap fun name => [name, "New" ++ name]) := by
    have hboth := List.map_append_flatMap_perm names id fun name => ["New" ++ name]
    rwa [List.map_id, ← List.map_eq_flatMap] at hboth
  have hconstructors : (names.map ("New" ++ ·)).Nodup := h.map fun a b hab => by
    simpa only [String.append_right_inj] using hab
  rw [← hperm.nodup_iff, List.nodup_append', and_iff_right h, and_iff_right hconstructors]
  constructor
  · rintro hdisjoint a ha b hb rfl
    exact hdisjoint hb (List.mem_map_of_mem ha)
  · intro hapart b hb hconstructor
    obtain ⟨a, ha, rfl⟩ := List.mem_map.1 hconstructor
    exact hapart a ha _ hb rfl

/-- **The widgets of a package take two names each, and all differ unless one id spells `New` before
another.** The fragments that a project is laid out from declare a widget's type and its constructor and
nothing else. -/
theorem Generator.generate_packageNames {d : Design} {o : Options} {p : Project} (hgo : o.framework = .bubbleTea)
    (h : Generator.default.generate d o = .ok p) :
    ∃ bs parts, Target.bubbleTea.sections ⟨d, o, bs⟩ = .ok parts ∧
      p.files = (if Scene.isModular ⟨d, o, bs⟩ then Target.bubbleTea.modularFiles ⟨d, o, bs⟩ parts
        else Target.bubbleTea.singleFiles ⟨d, o, bs⟩ parts) ++ Target.bubbleTea.furtherFiles ⟨d, o, bs⟩ ∧
      parts.widgets.map (declaredNames packageName?) =
        d.widgets.map (fun w => [Name.typeName w.id, "New" ++ Name.typeName w.id]) ∧
      ((parts.widgets.flatMap (declaredNames packageName?)).Nodup ↔
        ∀ v ∈ d.widgets, ∀ w ∈ d.widgets, Name.pascalCase w.id ++ "Widget" ≠ "New" ++ Name.typeName v.id) := by
  obtain ⟨hsuits, h⟩ := default_generate_ok h
  rw [hgo] at h
  change Target.bubbleTea.generate d o = .ok p at h
  obtain ⟨bs, parts, hbs, hparts, hfiles⟩ := Target.generate_ok h
  have hnames : parts.widgets.map (declaredNames packageName?) =
      d.widgets.map fun w => [Name.typeName w.id, "New" ++ Name.typeName w.id] := by
    calc parts.widgets.map (declaredNames packageName?)
        = bs.map fun b => declaredNames packageName? (BubbleTea.widget b o) := by
          rw [(Target.sections_ok hparts).2.1, List.map_map]
          simp only [Target.bubbleTea, Function.comp_def]
      _ = bs.map fun b => [b.typeName, "New" ++ b.typeName] := by simp only [packageNames_widget]
      _ = (bs.map (·.widget)).map fun w => [Name.typeName w.id, "New" ++ Name.typeName w.id] := by
          rw [List.map_map]
          rfl
      _ = _ := by rw [Behavior.widgets_of_accepted hbs]
  refine ⟨bs, parts, hparts, hfiles, hnames, ?_⟩
  have hall : parts.widgets.flatMap (declaredNames packageName?) =
      (d.widgets.map fun w => Name.typeName w.id).flatMap fun name => [name, "New" ++ name] := by
    rw [List.flatMap_def, hnames, ← List.flatMap_def, List.flatMap_map]
  rw [hall, nodup_constructors (Target.nodup_typeNames hsuits), List.forall_mem_map]
  refine forall₂_congr fun v _ => ?_
  rw [List.forall_mem_map]
  refine forall₂_congr fun w _ => ?_
  exact not_congr (Name.typeName_eq_new_iff v.id w.id)

/-- A design of two texts with these ids. -/
def Design.pair (first second : String) : Design where
  version := "1.0.0"
  metadata := ⟨"pair", none, none, "1.0.0", none, none, .textual, []⟩
  settings := .default
  widgets :=
    [⟨first, "text", ⟨0, 0⟩, ⟨10, 3⟩, none, none, none, []⟩,
     ⟨second, "text", ⟨10, 0⟩, ⟨10, 3⟩, none, none, none, []⟩]
  dataSources := []

/-- The type of `new x` is named like the constructor of `x`; `x` and `y` have four names. -/
theorem Generator.generate_packageNames_new :
    (∃ p bs parts, Generator.default.generate (Design.pair "x" "new x") ⟨.bubbleTea, .single, true, true⟩ = .ok p ∧
      Target.bubbleTea.sections ⟨Design.pair "x" "new x", ⟨.bubbleTea, .single, true, true⟩, bs⟩ = .ok parts ∧
      ¬ (parts.widgets.flatMap (declaredNames packageName?)).Nodup) ∧
    ∃ p bs parts, Generator.default.generate (Design.pair "x" "y") ⟨.bubbleTea, .single, true, true⟩ = .ok p ∧
      Target.bubbleTea.sections ⟨Design.pair "x" "y", ⟨.bubbleTea, .single, true, true⟩, bs⟩ = .ok parts ∧
      (parts.widgets.flatMap (declaredNames packageName?)).Nodup := by
  have hsecond : Name.pascalCase "new x" ++ "Widget" = "New" ++ Name.typeName "x" := by decide
  have hapart : ∀ v ∈ (Design.pair "x" "y").widgets, ∀ w ∈ (Design.pair "x" "y").widgets,
      Name.pascalCase w.id ++ "Widget" ≠ "New" ++ Name.typeName v.id := by
    simp only [Design.pair, List.forall_mem_cons]
    decide
  constructor
  · obtain ⟨p, hp⟩ : ∃ p, Generator.default.generate (Design.pair "x" "new x")
        ⟨.bubbleTea, .single, true, true⟩ = .ok p := exists_ok_of_isOk (by rfl)
    obtain ⟨bs, parts, hparts, -, -, hnodup⟩ := generate_packageNames rfl hp
    refine ⟨p, bs, parts, hp, hparts, fun hnames => ?_⟩
    exact hnodup.1 hnames _ List.mem_cons_self _ (List.mem_cons_of_mem _ List.mem_cons_self) hsecond
  · obtain ⟨p, hp⟩ : ∃ p, Generator.default.generate (Design.pair "x" "y")
        ⟨.bubbleTea, .single, true, true⟩ = .ok p := exists_ok_of_isOk (by rfl)
    obtain ⟨bs, parts, hparts, -, -, hnodup⟩ := generate_packageNames rfl hp
    exact ⟨p, bs, parts, hp, hparts, hnodup.2 hapart⟩

end DashboardCompiler
