import DashboardCompiler.Proofs.Generation.Layout

/-!
# Raw properties

The properties of a widget reach a program through their typed record only. A design keeps the raw ones beside it, and
no step of any target looks at them: a scene gives the same project when all of them are taken away.
-/

namespace DashboardCompiler

/-! ## Changed widgets -/

/-- The same design with each widget changed. -/
def Design.mapWidgets (f : Widget → Widget) (d : Design) : Design := { d with widgets := d.widgets.map f }

/-- The same scene with each widget and its behaviour changed. -/
def Scene.mapWidgets (f : Widget → Widget) (g : Behavior → Behavior) (s : Scene) : Scene :=
  ⟨s.design.mapWidgets f, s.options, s.behaviors.map g⟩

/-- A change of behaviours keeps their frames if it reaches nothing that a program reads outside of their fragments. -/
structure Behavior.KeepsFrame (g : Behavior → Behavior) : Prop where
  id : ∀ b, (g b).widget.id = b.widget.id
  dataSource : ∀ b, (g b).widget.dataSource = b.widget.dataSource
  position : ∀ b, (g b).widget.position = b.widget.position
  size : ∀ b, (g b).widget.size = b.widget.size
  style : ∀ b, (g b).widget.style = b.widget.style
  colors : ∀ b theme, (g b).colors theme = b.colors theme

namespace Design

variable {f : Widget → Widget} (hf : ∀ w, (f w).dataSource = w.dataSource) (d : Design)

include hf

theorem referencedSources_mapWidgets : (d.mapWidgets f).referencedSources = d.referencedSources := by
  refine List.filter_congr fun source _ => ?_
  rw [isReferenced, isReferenced, mapWidgets, List.any_map]
  simp only [Function.comp_def, hf]

theorem usesSystemMetrics_mapWidgets : (d.mapWidgets f).usesSystemMetrics = d.usesSystemMetrics := by
  rw [usesSystemMetrics, usesSystemMetrics, d.referencedSources_mapWidgets hf]

end Design

namespace Target

theorem sharedNames_map {f : Widget → Widget} (hid : ∀ w, (f w).id = w.id) (seen : List (String × String))
    (ws : List Widget) : sharedNames seen (ws.map f) = sharedNames seen ws := by
  induction ws generalizing seen with
  | nil => rfl
  | cons w ws ih =>
    rw [List.map_cons, sharedNames, sharedNames]
    simp only [hid, ih]

/-- What stands against a design are types and ids. -/
theorem designFaults_mapWidgets {f : Widget → Widget} (hid : ∀ w, (f w).id = w.id) (htype : ∀ w, (f w).type = w.type)
    (t : Target) (d : Design) : t.designFaults (d.mapWidgets f) = t.designFaults d := by
  have hunsupported : t.unsupported (d.mapWidgets f) = t.unsupported d := by
    rw [unsupported, unsupported, Design.mapWidgets, List.filter_map, List.map_map]
    simp only [Function.comp_def, htype]
  rw [designFaults, designFaults, hunsupported, Design.mapWidgets, sharedNames_map hid]

end Target

/-! ## Widgets without raw properties -/

/-- The same widget without its raw properties. -/
def Widget.bare (w : Widget) : Widget := { w with properties := [] }

def Design.bare (d : Design) : Design := { d with widgets := d.widgets.map Widget.bare }

/-- The same behaviour, of which the state knows the typed properties. -/
def Behavior.bare (b : Behavior) : Behavior := { b with widget := b.widget.bare }

def Scene.bare (s : Scene) : Scene := ⟨s.design.bare, s.options, s.behaviors.map Behavior.bare⟩

namespace Design

variable (d : Design)

@[simp] theorem referencedSources_bare : d.bare.referencedSources = d.referencedSources :=
  d.referencedSources_mapWidgets (f := Widget.bare) fun _ => rfl

@[simp] theorem usesSystemMetrics_bare : d.bare.usesSystemMetrics = d.usesSystemMetrics :=
  d.usesSystemMetrics_mapWidgets (f := Widget.bare) fun _ => rfl

end Design

theorem Behavior.keepsFrame_bare : KeepsFrame bare :=
  ⟨fun _ => rfl, fun _ => rfl, fun _ => rfl, fun _ => rfl, fun _ => rfl, fun _ _ => rfl⟩

@[simp] theorem Scene.design_bare (s : Scene) : s.bare.design = s.design.bare := rfl

/-! ## Textual -/

namespace Textual

section Changed

variable {f : Widget → Widget} {g : Behavior → Behavior} (hf : ∀ w, (f w).dataSource = w.dataSource)
  (hg : Behavior.KeepsFrame g) (s : Scene)

include hf in
theorem dataSources_mapWidgets (d : Design) (comments : Bool) :
    dataSources (d.mapWidgets f) comments = dataSources d comments := by
  rw [dataSources, dataSources, sourceTable, sourceTable, d.referencedSources_mapWidgets hf,
    d.usesSystemMetrics_mapWidgets hf]

include hg in
theorem styleSheet_mapWidgets : styleSheet (s.mapWidgets f g) = styleSheet s := by
  have hrules (b : Behavior) : widgetRules s.design.settings.theme (g b) = widgetRules s.design.settings.theme b := by
    simp only [widgetRules, Behavior.identifier, hg.id, hg.position, hg.size, hg.style, hg.colors]
  rw [styleSheet, styleSheet, Scene.mapWidgets, List.flatMap_map]
  exact congrArg (_ ++ ·) (List.flatMap_congr fun b _ => hrules b)

include hg in
theorem subscribers_mapWidgets : subscribers (s.mapWidgets f g) = subscribers s := by
  have hidentifier (b : Behavior) : (g b).identifier = b.identifier := congrArg Name.identifier (hg.id b)
  rw [subscribers, subscribers, Scene.mapWidgets, List.foldl_map]
  refine congrArg (fun step => s.behaviors.foldl step []) (funext fun table => funext fun b => ?_)
  rw [hg.dataSource, hidentifier]

include hg in
theorem typeNames_mapWidgets : (s.mapWidgets f g).behaviors.map (·.typeName) = s.behaviors.map (·.typeName) := by
  rw [Scene.mapWidgets, List.map_map]
  exact List.map_congr_left fun b _ => congrArg Name.typeName (hg.id b)

include hg in
theorem composeLines_mapWidgets : composeLines (s.mapWidgets f g) = composeLines s := by
  have hyields : s.behaviors.map (fun b => "            yield " ++ (g b).typeName ++ "()") =
      s.behaviors.map fun b => "            yield " ++ b.typeName ++ "()" :=
    List.map_congr_left fun b _ => by rw [Behavior.typeName, Behavior.typeName, hg.id]
  rw [composeLines, composeLines, ← hyields, Scene.mapWidgets, List.isEmpty_map, List.map_map]
  rfl

include hf hg

theorem app_mapWidgets : app (s.mapWidgets f g) = app s := by
  have hwiring : wiringLines (s.mapWidgets f g) = wiringLines s := by
    rw [wiringLines, wiringLines, subscribers_mapWidgets hg, ← s.design.usesSystemMetrics_mapWidgets hf]
    rfl
  rw [app, app, appLines, appLines, styleSheet_mapWidgets hg, hwiring, composeLines_mapWidgets hg]
  rfl

theorem header_mapWidgets (role : FileRole) : header (s.mapWidgets f g) role = header s role := by
  have himports : moduleImports (s.mapWidgets f g) role = moduleImports s role := by
    rw [moduleImports, moduleImports, typeNames_mapWidgets hg, ← s.design.usesSystemMetrics_mapWidgets hf,
      Scene.mapWidgets, List.isEmpty_map]
    rfl
  funext body
  simp only [header, himports]
  rfl

end Changed

theorem seesAlike_bare (s : Scene) : Target.textual.SeesAlike s.bare s := by
  have hf (w : Widget) : w.bare.dataSource = w.dataSource := rfl
  have hg : Behavior.KeepsFrame Behavior.bare := Behavior.keepsFrame_bare
  unfold Target.textual
  exact
    { modular := rfl
      fed := rfl
      widgets := List.map_map
      dataSources := congrArg Except.ok (dataSources_mapWidgets hf s.design s.options.includeComments)
      app := congrArg Except.ok (app_mapWidgets hf hg s)
      entryPoint := rfl
      header := funext (header_mapWidgets hf hg s)
      footer := rfl
      manifests := rfl
      moduleIndex := rfl
      instructions := rfl }

end Textual

/-! ## Bubble Tea -/

namespace BubbleTea

theorem dataSources_bare (d : Design) (comments : Bool) : dataSources d.bare comments = dataSources d comments := by
  simp only [dataSources, sourceTable, d.referencedSources_bare, d.usesSystemMetrics_bare]

theorem drawingOrder_bare (s : Scene) : drawingOrder s.bare = (drawingOrder s).map Behavior.bare := by
  have hsame (a b : Behavior) : drawnBefore a b = drawnBefore a.bare b.bare := rfl
  rw [drawingOrder, drawingOrder, List.map_mergeSort fun a _ b _ => hsame a b]
  rfl

theorem app_bare (s : Scene) : app s.bare = app s := by
  have hmodel : modelLines s.bare = modelLines s := by
    rw [modelLines, modelLines, drawingOrder_bare, List.map_map, s.design_bare, Design.usesSystemMetrics_bare]
    rfl
  rw [app, app, hmodel]
  rfl

theorem seesAlike_bare (s : Scene) : Target.bubbleTea.SeesAlike s.bare s := by
  unfold Target.bubbleTea
  exact
    { modular := rfl
      fed := rfl
      widgets := List.map_map
      dataSources := dataSources_bare s.design s.options.includeComments
      app := congrArg Except.ok (app_bare s)
      entryPoint := rfl
      header := rfl
      footer := rfl
      manifests := rfl
      moduleIndex := rfl
      instructions := rfl }

end BubbleTea

/-! ## Ratatui -/

namespace Ratatui

theorem dataSources_bare (d : Design) (comments : Bool) : dataSources d.bare comments = dataSources d comments := by
  simp only [dataSources, sourceTable, d.referencedSources_bare, d.usesSystemMetrics_bare]

theorem app_bare (s : Scene) : app s.bare = app s := by
  have hlines : appLines s.bare = appLines s := by
    rw [appLines, appLines, metricsArgument, metricsArgument, s.design_bare, Design.usesSystemMetrics_bare, Scene.bare,
      List.flatMap_map]
    rfl
  rw [app, app, hlines]
  rfl

theorem header_bare (s : Scene) : header s.bare = header s := by
  have hcrate : crateUses s.bare = crateUses s := by
    rw [crateUses, crateUses, s.design_bare, Design.usesSystemMetrics_bare, Scene.bare, List.map_map]
    rfl
  have hsources : sourceUses s.bare.design = sourceUses s.design := by
    rw [sourceUses, sourceUses, s.design_bare, Design.usesSystemMetrics_bare]
  have huses : fileUses s.bare = fileUses s := by
    funext role
    cases role with
    | single => rw [fileUses, fileUses, hsources]; rfl
    | app => rw [fileUses, fileUses, hcrate]; rfl
    | widgets => rfl
    | dataSources => rw [fileUses, fileUses, hsources]
  funext role
  rw [header, header, huses]
  rfl

theorem seesAlike_bare (s : Scene) : Target.ratatui.SeesAlike s.bare s := by
  unfold Target.ratatui
  exact
    { modular := rfl
      fed := rfl
      widgets := List.map_map
      dataSources := congrArg Except.ok (dataSources_bare s.design s.options.includeComments)
      app := congrArg Except.ok (app_bare s)
      entryPoint := rfl
      header := funext fun role => funext fun _ => congrFun (header_bare s) role
      footer := rfl
      manifests := rfl
      moduleIndex := rfl
      instructions := rfl }

end Ratatui

/-! ## Blessed -/

namespace Blessed

theorem dataSources_bare (d : Design) (comments : Bool) : dataSources d.bare comments = dataSources d comments := by
  simp only [dataSources, sourceTable, d.referencedSources_bare, d.usesSystemMetrics_bare]

theorem app_bare (s : Scene) : app s.bare = app s := by
  have hupdater : updaterLine s.bare = updaterLine s := by
    rw [updaterLine, updaterLine, s.design_bare, Design.usesSystemMetrics_bare]
    rfl
  rw [app, app, hupdater, Scene.bare, List.mapM_map]
  rfl

theorem widgetExports_bare (s : Scene) : widgetExports s.bare = widgetExports s := by
  rw [widgetExports, widgetExports, Scene.bare, List.map_map]
  rfl

theorem sourceExports_bare (d : Design) : sourceExports d.bare = sourceExports d := by
  rw [sourceExports, sourceExports, d.usesSystemMetrics_bare]

theorem header_bare (s : Scene) : header s.bare = header s := by
  have hrequires : localRequires s.bare = localRequires s := by
    rw [localRequires, localRequires, widgetExports_bare, s.design_bare, sourceExports_bare, Scene.bare,
      List.isEmpty_map]
    rfl
  funext role body
  rw [header, header, hrequires]
  rfl

theorem footer_bare (s : Scene) : footer s.bare = footer s := by
  funext role
  cases role with
  | widgets =>
    unfold footer
    rw [widgetExports_bare]
  | dataSources =>
    unfold footer
    rw [s.design_bare, sourceExports_bare]
  | _ => rfl

theorem seesAlike_bare (s : Scene) : Target.blessed.SeesAlike s.bare s := by
  unfold Target.blessed
  exact
    { modular := rfl
      fed := rfl
      widgets := List.map_map
      dataSources := congrArg Except.ok (dataSources_bare s.design s.options.includeComments)
      app := app_bare s
      entryPoint := rfl
      header := header_bare s
      footer := footer_bare s
      manifests := rfl
      moduleIndex := rfl
      instructions := rfl }

end Blessed

theorem Target.seesAlike_bare (f : Framework) (s : Scene) : (ofFramework f).SeesAlike s.bare s := by
  cases f with
  | textual => exact Textual.seesAlike_bare s
  | bubbleTea => exact BubbleTea.seesAlike_bare s
  | ratatui => exact Ratatui.seesAlike_bare s
  | blessed => exact Blessed.seesAlike_bare s

end DashboardCompiler
