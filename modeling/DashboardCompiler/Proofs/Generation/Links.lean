import DashboardCompiler.Proofs.Generation.Wiring
import DashboardCompiler.Proofs.Target.Blessed.Links
import DashboardCompiler.Proofs.Target.BubbleTea.Links
import DashboardCompiler.Proofs.Target.Ratatui.Links
import DashboardCompiler.Proofs.Target.Textual.Links

/-!
# Modular projects link

What the files of a project take from each other is written by one function, and what they give by others: import
and export lists, declarations and the index of the modules are each read off the design, on conditions of their
own. They agree for every design, with or without widgets, and whether the sources are bound or not.
-/

namespace DashboardCompiler

open Code Text

/-- The files of a modular project take from each other what is there, in the way of its language. -/
def Project.Links (p : Project) (d : Design) (parts : Sections) : Framework → Prop
  | .textual => Textual.Links p d parts
  | .bubbleTea => "SystemMetricsCollector" ∈ BubbleTea.constructedNames parts.app ↔
      "SystemMetricsCollector" ∈ declaredNames BubbleTea.typeName? parts.dataSources
  | .ratatui => Ratatui.Links p d parts
  | .blessed => Blessed.Links p d parts

theorem Target.links {f : Framework} {s : Scene} {parts : Sections} {p : Project}
    (hparts : (ofFramework f).sections s = .ok parts) (hwidgets : s.behaviors.map (·.widget) = s.design.widgets)
    (hfiles : p.files = (ofFramework f).modularFiles s parts ++ (ofFramework f).furtherFiles s) :
    p.Links s.design parts f := by
  cases f with
  | textual => exact Textual.links hparts hwidgets hfiles
  | bubbleTea => exact BubbleTea.constructed_iff_declared hparts
  | ratatui => exact Ratatui.links hparts hwidgets hfiles
  | blessed => exact Blessed.links hparts hwidgets hfiles

/-- **Modular projects link.** Whatever the other options, each file of a modular project declares what the others
take from it, and the application constructs a collector of system metrics exactly if the section of the sources
declares one. Of a Textual application this holds around its style sheet, which no check of the design keeps to its
literal: a colour that ends the literal goes on as code, and may import any name. -/
theorem Generator.generate_links {d : Design} {o : Options} {p : Project} (hmodular : o.outputFormat = .modular)
    (h : Generator.default.generate d o = .ok p) :
    ∃ s parts, Scene.ofDesign d o = .accepted s ∧ (Target.ofFramework o.framework).sections s = .ok parts ∧
      p.Links d parts o.framework := by
  obtain ⟨-, h⟩ := default_generate_ok h
  obtain ⟨bs, parts, hbs, hparts, hfiles⟩ := Target.generate_ok h
  have hformat : Scene.isModular ⟨d, o, bs⟩ = true := by
    rw [Scene.isModular, Options.isModular, hmodular]
    rfl
  rw [if_pos hformat] at hfiles
  exact ⟨⟨d, o, bs⟩, parts, Checked.map_accepted_iff.2 ⟨bs, hbs, rfl⟩, hparts,
    Target.links hparts (Behavior.widgets_of_accepted hbs) hfiles⟩

/-- A design whose one widget shows the load of the processor. -/
def Design.metered : Design where
  version := "1.0.0"
  metadata := ⟨"metered", none, none, "1.0.0", none, none, .textual, []⟩
  settings := .default
  widgets := [⟨"load", "text", ⟨0, 0⟩, ⟨10, 3⟩, none, some "cpu", none, []⟩]
  dataSources := [⟨"cpu", none, .systemMetric .cpuPercent 1000⟩]

/-- The modules of the metered design, with the widget and the collector that all of its applications take. -/
theorem Generator.generate_links_metered :
    (∃ p, Generator.default.generate Design.metered ⟨.textual, .modular, true, true⟩ = .ok p ∧
      p.namesIn "app.py" (Textual.importedNames Textual.widgetsModule) = ["LoadWidget"] ∧
      p.namesIn "app.py" (Textual.importedNames Textual.sourcesModule) =
        ["DATA_SOURCES", "DataSourceUpdater", "SystemMetricsCollector"]) ∧
    (∃ s parts, Scene.ofDesign Design.metered ⟨.bubbleTea, .modular, true, true⟩ = .accepted s ∧
      Target.bubbleTea.sections s = .ok parts ∧
      "SystemMetricsCollector" ∈ BubbleTea.constructedNames parts.app) ∧
    (∃ p, Generator.default.generate Design.metered ⟨.ratatui, .modular, true, true⟩ = .ok p ∧
      "LoadWidget" ∈ p.namesIn "src/widgets.rs" Ratatui.publicNames ∧
      "SystemMetricsCollector" ∈ p.namesIn "src/data_sources.rs" Ratatui.publicNames) ∧
    ∃ p, Generator.default.generate Design.metered ⟨.blessed, .modular, true, true⟩ = .ok p ∧
      p.namesIn "app.js" (Blessed.requiredNames Blessed.widgetsModule) = ["LoadWidget"] ∧
      "SystemMetricsCollector" ∈ p.namesIn "datasources.js" Blessed.topNames := by
  have hgenerated (f : Framework) :
      ∃ p, Generator.default.generate Design.metered ⟨f, .modular, true, true⟩ = .ok p := by
    cases f <;> exact exists_ok_of_isOk (by decide +kernel)
  have hname : Name.typeName "load" = "LoadWidget" := by decide
  refine ⟨?_, ?_, ?_, ?_⟩
  · obtain ⟨p, hp⟩ := hgenerated .textual
    obtain ⟨-, parts, -, -, hlinks⟩ := generate_links rfl hp
    have hlinks : Textual.Links p Design.metered parts := hlinks
    have hkeeps : Design.metered.KeepsSheet := List.forall_mem_nil _
    refine ⟨p, hp, ?_, ?_⟩
    · rw [hlinks.importsWidgets hkeeps, ← hname]
      rfl
    · rw [hlinks.importsSources hkeeps]
      rfl
  · obtain ⟨p, hp⟩ := hgenerated .bubbleTea
    obtain ⟨s, parts, hs, hparts, hlinks⟩ := generate_links rfl hp
    have hlinks : "SystemMetricsCollector" ∈ BubbleTea.constructedNames parts.app ↔
      "SystemMetricsCollector" ∈ declaredNames BubbleTea.typeName? parts.dataSources := hlinks
    have hsection : BubbleTea.dataSources Design.metered true = .ok parts.dataSources := by
      obtain ⟨bs, -, rfl⟩ := Checked.map_accepted_iff.1 hs
      exact (Target.sections_ok hparts).1
    refine ⟨s, parts, hs, hparts, hlinks.2 ?_⟩
    rw [BubbleTea.typeNames_dataSources rfl hsection]
    decide
  · obtain ⟨p, hp⟩ := hgenerated .ratatui
    obtain ⟨-, parts, -, -, hlinks⟩ := generate_links rfl hp
    have hlinks : Ratatui.Links p Design.metered parts := hlinks
    refine ⟨p, hp, hlinks.declaresWidgets _ ((hlinks.usesWidgets _).2 ?_),
      hlinks.declaresSources _ ((hlinks.usesSources _).2 (by decide))⟩
    rw [← hname]
    exact List.mem_cons_of_mem _ List.mem_cons_self
  · obtain ⟨p, hp⟩ := hgenerated .blessed
    obtain ⟨-, parts, -, -, hlinks⟩ := generate_links rfl hp
    have hlinks : Blessed.Links p Design.metered parts := hlinks
    refine ⟨p, hp, ?_, hlinks.declaresSources _ ?_⟩
    · rw [hlinks.requiresWidgets, hlinks.exportsWidgets, ← hname]
      rfl
    · rw [hlinks.exportsSources]
      decide

end DashboardCompiler
