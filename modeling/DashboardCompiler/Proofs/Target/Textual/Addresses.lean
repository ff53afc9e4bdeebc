import DashboardCompiler.Proofs.Generation.Types
import DashboardCompiler.Proofs.Target.Textual.Code
import DashboardCompiler.Proofs.Target.Textual.StyleSheet
import DashboardCompiler.Proofs.Text.Declarations
import DashboardCompiler.Proofs.Text.Spelling

/-!
# What rules and lookups address

A Textual application puts its widgets into a container with an id of its own, gives each widget its identifier
as an id, and addresses both by these ids: the rules of the style sheet by their selectors, the fresh values of
a source by lookups. They reach what they were written for as long as all ids in the DOM differ. No check of a
design compares the identifiers with the id of the container.
-/

namespace DashboardCompiler

open Code Text

namespace Textual

/-- The ids in the DOM: that of the container, and those of the widgets in it. -/
def domIds (s : Scene) : List String := "canvas" :: s.behaviors.map (·.identifier)

/-- The line that opens the container. -/
def containerLine : String := "        with Container(id=\"canvas\"):"

/-- The line by which a widget takes its id. -/
def ownIdLine (b : Behavior) : String := "        super().__init__(id=" ++ text b.identifier ++ ", markup=False)"

/-- The id that a rule of the style sheet selects. -/
def selector? : List Char → Option (List Char) := declaredName? [['#']]

/-! ## Selectors -/

theorem selectors_selector (b : Behavior) : readNames selector? ["#" ++ b.identifier ++ " \x7b"] = [b.identifier] := by
  have hline : ("#" ++ b.identifier ++ " \x7b").toList = ['#'] ++ (b.identifier.toList ++ ' ' :: ['\x7b']) := by
    rw [String.toList_append, String.toList_append, List.append_assoc, String.toList_ofList, String.toList_ofList]
  have hname : ∀ c ∈ b.identifier.toList, Name.isNameChar c = true := by
    intro c hc
    rw [Behavior.identifier, Name.identifier, String.toList_ofList] at hc
    exact Name.isNameChar_of_mem_identifierChars hc
  have hread : selector? ("#" ++ b.identifier ++ " \x7b").toList = some b.identifier.toList :=
    declaredName?_opening hline (by rw [hline]; rfl) hname (by decide)
  rw [readNames, List.filterMap_cons, hread]
  simp only [List.filterMap_nil, Option.map_some, String.ofList_toList]

/-- Lines of a rule that are seen to select nothing. -/
theorem selectors_eq_nil {items : List String} {fixed begun : List (List Char)}
    (h : Outline selector? items fixed begun) (hbegun : begun.all (isSilent [['#']]) = true)
    (hfixed : (fixed.filterMap selector?).map String.ofList = []) : readNames selector? items = [] :=
  h.names_eq hbegun hfixed

theorem selectors_backgroundRules (color : Option String) : readNames selector? (backgroundRules color) = [] := by
  cases color with
  | none => rfl
  | some color =>
    rw [backgroundRules]
    split
    · rfl
    · apply selectors_eq_nil
      · repeat' constructor
      · decide
      · decide

theorem selectors_paddingRules (style : Option WidgetStyle) : readNames selector? (paddingRules style) = [] := by
  cases style with
  | none => rfl
  | some style =>
    rw [paddingRules]
    split
    · rfl
    · apply selectors_eq_nil
      · repeat' constructor
      · decide
      · decide

/-- Whatever the colours of a widget hold, its rules select the widget. -/
theorem selectors_widgetRules (theme : Theme) (b : Behavior) :
    readNames selector? (widgetRules theme b) = [b.identifier] := by
  rw [widgetRules_eq, frameRules]
  simp only [List.cons_append, List.append_assoc, List.nil_append]
  rw [readNames_cons_empty rfl, readNames_cons, selectors_selector]
  refine congrArg (b.identifier :: ·) ?_
  apply selectors_eq_nil
  · repeat' first
      | apply Outline.silent (selectors_backgroundRules _)
      | apply Outline.silent (selectors_paddingRules _)
      | constructor
  · decide
  · decide

theorem selectors_canvasRules (settings : Settings) : readNames selector? (canvasRules settings) = ["canvas"] := by
  unfold canvasRules
  split
  · rfl
  · rw [List.append_assoc, readNames_append]
    refine congrArg ("canvas" :: ·) ?_
    apply selectors_eq_nil
    · repeat' constructor
    · decide
    · decide

theorem selectors_styleSheet (s : Scene) : readNames selector? (styleSheet s) = domIds s := by
  have hrules : readNames selector? (s.behaviors.flatMap (widgetRules s.design.settings.theme)) =
      s.behaviors.map (·.identifier) := by
    calc readNames selector? (s.behaviors.flatMap (widgetRules s.design.settings.theme))
        = s.behaviors.flatMap fun b => readNames selector? (widgetRules s.design.settings.theme b) :=
          List.filterMap_flatMap
      _ = s.behaviors.flatMap fun b => [b.identifier] := by simp only [selectors_widgetRules]
      _ = s.behaviors.map (·.identifier) := List.map_eq_flatMap.symm
  rw [styleSheet_eq, readNames_append, selectors_canvasRules, hrules]
  rfl

/-! ## Ids -/

theorem infix_appLines (s : Scene) : composeLines s <:+: appLines s := ⟨_, _, rfl⟩

theorem mem_lines_app (s : Scene) : containerLine ∈ lines (app s) := by
  have hone : OneLine "        with Container(id=\"canvas\"):" := (tidy_ofList (by decide)).unbroken.oneLine
  have hcompose : ["        with Container(id=\"canvas\"):"] <:+: composeLines s :=
    ⟨["", "    def compose(self) -> ComposeResult:", "        yield Header()"], _, rfl⟩
  have hshown := infix_lines_joinLines (hcompose.trans (infix_appLines s)) (List.forall_mem_singleton.2 hone)
    (List.cons_ne_nil _ _)
  exact hshown.subset List.mem_cons_self

theorem mem_lines_widget (b : Behavior) (o : Options) : ownIdLine b ∈ lines (widget b o) := by
  rw [lines_widget, classLines]
  generalize partsOf b = parts
  simp only [List.append_assoc]
  refine List.mem_append_right _ (List.mem_append_left _ ?_)
  exact .tail _ (.tail _ (.tail _ (.tail _ (.head _))))

/-- The texts of a project give the ids of the DOM and use them: the container and the widgets take theirs, the
rules select all of them in their order, and the lookups for a source are those of the widgets it feeds. -/
structure Addresses (p : Project) (s : Scene) : Prop where
  application : ∃ file ∈ p.files, lines (app s) <:+: lines file.content
  container : containerLine ∈ lines (app s)
  widgets : ∀ b ∈ s.behaviors, ownIdLine b ∈ lines (widget b s.options) ∧
    ∃ file ∈ p.files, lines (widget b s.options) <:+: lines file.content
  rules : readNames selector? (styleSheet s) = domIds s
  lookups : s.hasDataSources → Target.ShowsSubscribers (subscribers s) (app s)
  fed : Feeds (subscribers s) s.behaviors

/-- The ids of the DOM differ if and only if those of the widgets do and none of them spells the container's. -/
theorem nodup_domIds_iff (s : Scene) :
    (domIds s).Nodup ↔ (s.behaviors.map (·.identifier)).Nodup ∧
      ∀ b ∈ s.behaviors, ¬ Name.SpellsCanvas b.widget.id := by
  rw [domIds, List.nodup_cons, and_comm, List.mem_map, not_exists]
  refine and_congr_right fun _ => forall_congr' fun b => ?_
  rw [not_and, ← Name.identifier_eq_canvas_iff]
  rfl

end Textual

/-- **Each rule and each lookup reaches what it was written for, unless an id spells the canvas.** -/
theorem Generator.generate_addresses {d : Design} {o : Options} {p : Project} (htextual : o.framework = .textual)
    (h : Generator.default.generate d o = .ok p) :
    ∃ s, Scene.ofDesign d o = .accepted s ∧ Textual.Addresses p s ∧
      ((Textual.domIds s).Nodup ↔ (d.widgets.map fun w => Name.identifier w.id).Nodup ∧
        ∀ w ∈ d.widgets, ¬ Name.SpellsCanvas w.id) := by
  obtain ⟨-, h⟩ := default_generate_ok h
  rw [htextual] at h
  obtain ⟨gap, hseparator⟩ := Target.separator_ofFramework .textual
  obtain ⟨bs, parts, hbs, hparts, hfiles⟩ := (Target.firm_ofFramework .textual).section_in_file hseparator h
  have hwidgets := Behavior.widgets_of_accepted hbs
  obtain ⟨-, hfragments, happ, -⟩ := Target.sections_ok hparts
  have happText : Textual.app ⟨d, o, bs⟩ = parts.app := Except.ok.inj happ
  refine ⟨⟨d, o, bs⟩, Checked.map_accepted_iff.2 ⟨bs, hbs, rfl⟩, ⟨?_, Textual.mem_lines_app _, fun b hb => ?_,
    Textual.selectors_styleSheet _, Textual.showsSubscribers, Textual.feeds_subscribers _⟩, ?_⟩
  · rw [happText]
    exact hfiles _ (List.mem_append_right _ List.mem_cons_self)
  · refine ⟨Textual.mem_lines_widget b o, hfiles _ ?_⟩
    have hfragment : Textual.widget b o ∈ parts.widgets := by
      rw [hfragments]
      exact List.mem_map_of_mem hb
    exact List.mem_append_left _ (List.mem_append_right _ hfragment)
  · rw [Textual.nodup_domIds_iff, ← hwidgets, List.map_map, List.forall_mem_map]
    rfl

/-- A widget that is called canvas shares the id of the container; one that is called clock does not. -/
theorem Generator.generate_addresses_canvas :
    (∃ p s, Generator.default.generate (Design.lone "canvas") ⟨.textual, .single, true, true⟩ = .ok p ∧
      Scene.ofDesign (Design.lone "canvas") ⟨.textual, .single, true, true⟩ = .accepted s ∧
      Textual.Addresses p s ∧ ¬ (Textual.domIds s).Nodup) ∧
    ∃ p s, Generator.default.generate (Design.lone "clock") ⟨.textual, .single, true, true⟩ = .ok p ∧
      Scene.ofDesign (Design.lone "clock") ⟨.textual, .single, true, true⟩ = .accepted s ∧
      Textual.Addresses p s ∧ (Textual.domIds s).Nodup := by
  have hgenerated (id : String) :
      ∃ p, Generator.default.generate (Design.lone id) ⟨.textual, .single, true, true⟩ = .ok p :=
    exists_ok_of_isOk (by rfl)
  constructor
  · obtain ⟨p, hp⟩ := hgenerated "canvas"
    obtain ⟨s, hs, haddresses, hnodup⟩ := generate_addresses rfl hp
    have hspells : Name.SpellsCanvas "canvas" := (Name.identifier_eq_canvas_iff _).1 (by decide +kernel)
    exact ⟨p, s, hp, hs, haddresses, fun hids => (hnodup.1 hids).2 _ List.mem_cons_self hspells⟩
  · obtain ⟨p, hp⟩ := hgenerated "clock"
    obtain ⟨s, hs, haddresses, hnodup⟩ := generate_addresses rfl hp
    have hspells : ¬ Name.SpellsCanvas "clock" := (Name.identifier_eq_canvas_iff _).not.1 (by decide +kernel)
    exact ⟨p, s, hp, hs, haddresses,
      hnodup.2 ⟨List.nodup_singleton _, List.forall_mem_singleton.2 hspells⟩⟩

example : Name.identifier " -Canvas\u00e9" = "canvas" ∧ Name.identifier "canVas" = "can_vas" := by decide +kernel

end DashboardCompiler
