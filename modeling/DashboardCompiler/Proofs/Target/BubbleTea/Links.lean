import DashboardCompiler.Proofs.Generation.Files
import DashboardCompiler.Proofs.Target.BubbleTea.Types

/-!
# Modules of Bubble Tea programs

The files of a program are one package and see each other's names, so all that has to agree is the collector: the
model is created with one exactly if the section of the sources declares its type.
-/

namespace DashboardCompiler.BubbleTea

open Code Text

/-- The call that constructs a collector for the updater. -/
def collectorOpening : List Char := ['\t', 'm', 'e', 't', 'r', 'i', 'c', 's', ' ', '=', ' ', 'N', 'e', 'w']

/-- The collectors that a text constructs. -/
def constructedNames : String → List String := declaredNames (declaredName? [collectorOpening])

/-- The collectors that a template constructs. -/
def templateCollector? : List Char → Option (List Char) := tabbedName? [collectorOpening]

theorem inked_collectorOpening : Inked [collectorOpening] := by decide

theorem templateCollector?_nil : templateCollector? [] = none := by decide

/-- Lines of a template, of which those that are not fixed begin like no construction of a collector. -/
theorem collectors_eq {items : List String} {fixed begun : List (List Char)} {names : List String}
    (h : Outline templateCollector? items fixed begun) (hbegun : begun.all (isSilentTabbed [collectorOpening]) = true)
    (hfixed : (fixed.filterMap templateCollector?).map String.ofList = names) :
    readNames templateCollector? items = names := h.tabbedNames_eq inked_collectorOpening hbegun hfixed

theorem collectors_modelLines (s : Scene) :
    readNames templateCollector? (modelLines s) =
      if s.hasDataSources ∧ s.design.usesSystemMetrics then ["SystemMetricsCollector"] else [] := by
  have hslots : readNames templateCollector? ((drawingOrder s).map fun b =>
      "            " ++ slot s.design.settings.theme b ++ ",") = [] :=
    readNames_begun (fun rest => declaredName?_tabbed inked_collectorOpening (by decide) rest)
      (List.forall_mem_map.2 fun _ _ => .append (.append .whole))
  unfold modelLines
  generalize (drawingOrder s).map _ = slots at hslots
  cases s.hasDataSources <;> cases s.design.usesSystemMetrics
  all_goals
    simp only [List.append_assoc, List.cons_append, List.nil_append, Bool.false_eq_true, ↓reduceIte, and_self,
      and_false, false_and]
    apply collectors_eq
    · repeat' first | apply Outline.silent hslots | constructor
    · decide
    · decide

/-- Beside the model an application constructs no collector. -/
theorem collectors_functions (s : Scene) :
    readNames templateCollector? ((if s.options.includeComments then ["// Application"] else []) ++
      (styleLines s.design.settings.theme ++ (timerLines s ++ updateLines s ++ viewLines))) = [] := by
  unfold timerLines updateLines
  cases s.hasDataSources <;> cases s.options.includeComments
  all_goals
    apply collectors_eq
    · repeat' constructor
    · decide
    · decide

theorem constructedNames_app (s : Scene) :
    constructedNames (app s) =
      if s.hasDataSources ∧ s.design.usesSystemMetrics then ["SystemMetricsCollector"] else [] := by
  have hfunctions := collectors_functions s
  simp only [readNames_append, List.append_eq_nil_iff] at hfunctions
  obtain ⟨hcomment, hstyle, ⟨htimers, hupdate⟩, hview⟩ := hfunctions
  have htemplate (text : String) : constructedNames (tabIndent text) = declaredNames templateCollector? text :=
    declaredNames_tabIndent text
  rw [app, htemplate, (tidy_app s).declaredNames templateCollector?_nil]
  simp only [readNames_append, hcomment, hstyle, collectors_modelLines, htimers, hupdate, hview, List.nil_append,
    List.append_nil]

/-- **The model is created with a collector exactly if the section of the sources declares its type.** -/
theorem constructed_iff_declared {s : Scene} {parts : Sections} (hparts : Target.bubbleTea.sections s = .ok parts) :
    "SystemMetricsCollector" ∈ constructedNames parts.app ↔
      "SystemMetricsCollector" ∈ declaredNames typeName? parts.dataSources := by
  have hconstructed := constructedNames_app s
  rw [Except.ok.inj (Target.sections_ok hparts).2.2.1] at hconstructed
  refine Target.collector_iff hconstructed (fun hfed => ?_) fun hfed => ?_
  · have hdesign : s.design.hasDataSources = true := hfed
    rw [typeNames_dataSources hdesign (Target.dataSources_of_fed hparts hfed), templateTypes, if_pos hdesign]
    dsimp only
    cases s.design.usesSystemMetrics <;> decide
  · rw [Target.dataSources_of_unfed hparts hfed]
    exact declaredNames_empty (typeName?_skipsBlank [] rfl)

end DashboardCompiler.BubbleTea
