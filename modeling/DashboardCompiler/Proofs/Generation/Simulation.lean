import DashboardCompiler.Proofs.Generation.Layout
import DashboardCompiler.Proofs.Generation.Totality

/-!
# Simulated data

Whether a widget simulates data shows in its timer only, and only widgets of three kinds have a timer that depends on
it. A widget that is bound to a source never simulates. So in a design that binds all widgets of these kinds, whether
data is to be simulated leaves no trace: each target generates the same project, or meets the same fault.
-/

namespace DashboardCompiler

/-- The same options with data to be simulated or not. -/
def Options.mocked (o : Options) (mock : Bool) : Options := { o with useMockData := mock }

/-- The same behaviour without a simulation. -/
def Behavior.calm (b : Behavior) : Behavior := { b with simulate := false }

/-- The same scene without simulations. -/
def Scene.calm (s : Scene) : Scene := ⟨s.design, s.options.mocked false, s.behaviors.map Behavior.calm⟩

@[simp] theorem Scene.design_calm (s : Scene) : s.calm.design = s.design := rfl

@[simp] theorem Scene.includeComments_calm (s : Scene) : s.calm.options.includeComments = s.options.includeComments := rfl

/-- The kinds of widgets that could simulate are all bound to sources. -/
def Design.BindsSimulated (d : Design) : Prop :=
  ∀ w ∈ d.widgets, ∀ kind, w.kind? = some kind → Behavior.isSimulated kind = true → w.isBound = true

/-! ## Behaviours -/

theorem WidgetState.kind_initial {kind : WidgetKind} {fields : Schema.Fields} {p : Properties}
    (h : Properties.read kind fields = .accepted p) (bound : Bool) : (initial bound p).kind? = some kind := by
  cases kind with
  | metricCard =>
    obtain ⟨q, -, rfl⟩ := Checked.map_accepted_iff.1 h
    cases bound <;> rfl
  | _ =>
    obtain ⟨q, -, rfl⟩ := Checked.map_accepted_iff.1 h
    rfl

namespace Behavior

variable {w : Widget} {o : Options} {b : Behavior}

theorem ofWidget_calm (w : Widget) (o : Options) : ofWidget w (o.mocked false) = (ofWidget w o).map calm := by
  unfold ofWidget
  split
  · rfl
  · rename_i kind _
    cases Properties.read kind w.properties with
    | accepted p => rfl
    | rejected problems => rfl

theorem ofWidgets_calm (o : Options) (ws : List Widget) :
    ofWidgets (o.mocked false) ws = (ofWidgets o ws).map (List.map calm) := by
  induction ws with
  | nil => rfl
  | cons w ws ih =>
    rw [ofWidgets, ofWidgets, ofWidget_calm, ih]
    cases ofWidget w o with
    | rejected problems => rfl
    | accepted b =>
      cases ofWidgets o ws with
      | rejected problems => rfl
      | accepted bs => rfl

theorem simulate_of_bound (h : ofWidget w o = .accepted b) (hbound : w.isBound = true) : b.simulate = false := by
  unfold ofWidget at h
  split at h
  · cases h
    rfl
  · obtain ⟨p, -, rfl⟩ := Checked.map_accepted_iff.1 h
    rw [hbound, Bool.not_true, Bool.and_false]

/-- Only a widget that simulates and an animated one without a source have a timer. -/
theorem tickMs_of_bound (hbound : b.isBound = true) (hsimulate : b.simulate = false) : b.tickMs = none := by
  unfold tickMs
  split
  · rw [hbound, Bool.not_true, Bool.and_false]
    rfl
  · rw [hsimulate]
    rfl
  · rw [hsimulate]
    rfl
  · rw [hsimulate]
    rfl
  · rfl

/-- The timers of the other kinds do not ask for the simulation. -/
theorem tickMs_calm_of_kind (h : ∀ kind, b.kind? = some kind → isSimulated kind = false) :
    b.calm.tickMs = b.tickMs := by
  obtain ⟨widget, simulate, state⟩ := b
  cases state with
  | sparkline => cases h .sparkline rfl
  | metricCard => cases h .metricCard rfl
  | logViewer => cases h .logViewer rfl
  | _ => rfl

theorem kind_of_accepted (h : ofWidget w o = .accepted b) {kind : WidgetKind} (hkind : b.kind? = some kind) :
    w.kind? = some kind := by
  unfold ofWidget at h
  split at h
  · cases h
    cases hkind
  · rename_i other hother
    obtain ⟨p, hp, rfl⟩ := Checked.map_accepted_iff.1 h
    have hread : (WidgetState.initial w.isBound p).kind? = some other := WidgetState.kind_initial hp _
    rw [hother, ← hread]
    exact hkind

/-- Each behaviour is the one of its widget. -/
theorem ofWidget_of_mem {ws : List Widget} {bs : List Behavior} (h : ofWidgets o ws = .accepted bs) :
    ∀ b ∈ bs, b.widget ∈ ws ∧ ofWidget b.widget o = .accepted b := by
  have hread := forall_right_of_forall₂ (forall₂_ofWidgets.1 h) fun w b hb =>
    (congrArg (ofWidget · o) (widget_of_accepted hb)).trans hb
  refine fun b hb => ⟨?_, hread b hb⟩
  rw [← widgets_of_accepted h]
  exact List.mem_map_of_mem hb

end Behavior

/-- No timer of the design asks for the simulation. -/
theorem Design.BindsSimulated.tickMs_calm {d : Design} (h : d.BindsSimulated) {o : Options} {bs : List Behavior}
    (hbs : Behavior.ofWidgets o d.widgets = .accepted bs) : ∀ b ∈ bs, b.calm.tickMs = b.tickMs := by
  intro b hb
  obtain ⟨hw, hread⟩ := Behavior.ofWidget_of_mem hbs b hb
  cases hbound : b.widget.isBound with
  | true =>
    have hcalm : b.calm = b := by
      obtain ⟨widget, simulate, state⟩ := b
      cases Behavior.simulate_of_bound hread hbound
      rfl
    rw [hcalm]
  | false =>
    refine Behavior.tickMs_calm_of_kind fun kind hkind => Bool.eq_false_iff.2 fun hsimulated => ?_
    rw [h b.widget hw kind (Behavior.kind_of_accepted hread hkind) hsimulated] at hbound
    cases hbound

/-! ## Targets -/

/-- A target that looks at a simulation for the timer of its widget only. -/
structure Target.Unmoved (t : Target) : Prop where
  widget : ∀ b o, b.calm.tickMs = b.tickMs → t.widget b.calm (o.mocked false) = t.widget b o
  dataSources : ∀ s, t.dataSources s.calm = t.dataSources s
  app : ∀ s, t.app s.calm = t.app s
  entryPoint : ∀ s, t.entryPoint s.calm = t.entryPoint s
  header : ∀ s, t.header s.calm = t.header s
  footer : ∀ s, t.footer s.calm = t.footer s
  manifests : ∀ s, t.manifests s.calm = t.manifests s
  moduleIndex : ∀ s, t.moduleIndex s.calm = t.moduleIndex s
  instructions : ∀ s, t.instructions s.calm = t.instructions s

section Steps

variable {b : Behavior} {s : Scene}

namespace Textual

theorem widget_calm (b : Behavior) (o : Options) (h : b.calm.tickMs = b.tickMs) :
    widget b.calm (o.mocked false) = widget b o := by
  have hlines (comments : Bool) : classLines b.calm comments (partsOf b.calm) = classLines b comments (partsOf b) := by
    rw [classLines, classLines, h]
    rfl
  exact congrArg Text.joinLines (hlines o.includeComments)

theorem app_calm (s : Scene) : app s.calm = app s := by
  have hsheet : styleSheet s.calm = styleSheet s := by
    rw [styleSheet, styleSheet, Scene.calm, List.flatMap_map]
    rfl
  have hsubscribers : subscribers s.calm = subscribers s := by
    rw [subscribers, subscribers, Scene.calm, List.foldl_map]
    rfl
  have hwiring : wiringLines s.calm = wiringLines s := by
    rw [wiringLines, wiringLines, hsubscribers]
    rfl
  have hcompose : composeLines s.calm = composeLines s := by
    rw [composeLines, composeLines, Scene.calm, List.isEmpty_map, List.map_map]
    rfl
  rw [app, app, appLines, appLines, hsheet, hwiring, hcompose]
  rfl

theorem header_calm (s : Scene) : header s.calm = header s := by
  have himports (role : FileRole) : moduleImports s.calm role = moduleImports s role := by
    rw [moduleImports, moduleImports, Scene.calm, List.isEmpty_map, List.map_map]
    rfl
  funext role body
  simp only [header, himports]
  rfl

theorem unmoved : Target.textual.Unmoved := by
  unfold Target.textual
  exact
    { widget := widget_calm
      dataSources := fun _ => rfl
      app := fun s => congrArg Except.ok (app_calm s)
      entryPoint := fun _ => rfl
      header := header_calm
      footer := fun _ => rfl
      manifests := fun _ => rfl
      moduleIndex := fun _ => rfl
      instructions := fun _ => rfl }

end Textual

namespace BubbleTea

theorem widget_calm (b : Behavior) (o : Options) (h : b.calm.tickMs = b.tickMs) :
    widget b.calm (o.mocked false) = widget b o := by
  have hfields (parts : StructParts) : allFields b.calm parts = allFields b parts := by
    rw [allFields, allFields, StructParts.period?, StructParts.period?, h]
    rfl
  have htick (name : String) (parts : StructParts) : tickLines name parts b.calm = tickLines name parts b := by
    rw [tickLines, tickLines, h]
  have hlines (comments : Bool) : structLines b.calm comments (partsOf b.calm) = structLines b comments (partsOf b) := by
    rw [structLines, structLines, hfields, htick]
    rfl
  exact congrArg (fun lines => Text.tabIndent (Text.joinLines lines)) (hlines o.includeComments)

theorem dataSources_calm (s : Scene) :
    dataSources s.calm.design s.calm.options.includeComments = dataSources s.design s.options.includeComments := by
  rw [s.design_calm, s.includeComments_calm]

theorem drawingOrder_calm (s : Scene) : drawingOrder s.calm = (drawingOrder s).map Behavior.calm := by
  have hsame (a b : Behavior) : drawnBefore a b = drawnBefore a.calm b.calm := rfl
  rw [drawingOrder, drawingOrder, List.map_mergeSort fun a _ b _ => hsame a b]
  rfl

theorem app_calm (s : Scene) : app s.calm = app s := by
  have hmodel : modelLines s.calm = modelLines s := by
    rw [modelLines, modelLines, drawingOrder_calm, List.map_map]
    rfl
  rw [app, app, hmodel]
  rfl

theorem unmoved : Target.bubbleTea.Unmoved := by
  unfold Target.bubbleTea
  refine
    { widget := ?_
      dataSources := ?_
      app := fun s => congrArg Except.ok (app_calm s)
      entryPoint := fun _ => rfl
      header := fun _ => rfl
      footer := fun _ => rfl
      manifests := fun _ => rfl
      moduleIndex := fun _ => rfl
      instructions := fun _ => rfl }
  · dsimp only
    exact widget_calm
  · dsimp only
    exact dataSources_calm

end BubbleTea

namespace Ratatui

theorem timer_calm (h : b.calm.tickMs = b.tickMs) (parts : StructParts) : parts.timer? b.calm = parts.timer? b := by
  rw [StructParts.timer?, StructParts.timer?, h]

theorem widget_calm (b : Behavior) (o : Options) (h : b.calm.tickMs = b.tickMs) :
    widget b.calm (o.mocked false) = widget b o := by
  have hfields (parts : StructParts) : allFields b.calm parts = allFields b parts := by
    rw [allFields, allFields, timer_calm h]
    rfl
  have hlines (comments : Bool) : structLines b.calm comments (partsOf b.calm) = structLines b comments (partsOf b) := by
    rw [structLines, structLines, hfields, timer_calm h]
    rfl
  exact congrArg Text.joinLines (hlines o.includeComments)

theorem app_calm (s : Scene) : app s.calm = app s := by
  have hlines : appLines s.calm = appLines s := by
    rw [appLines, appLines, Scene.calm, List.flatMap_map]
    rfl
  rw [app, app, hlines]
  rfl

theorem header_calm (s : Scene) : header s.calm = header s := by
  have hcrate : crateUses s.calm = crateUses s := by
    rw [crateUses, crateUses, Scene.calm, List.map_map]
    rfl
  have huses : fileUses s.calm = fileUses s := by
    funext role
    cases role with
    | app => rw [fileUses, fileUses, hcrate]; rfl
    | _ => rfl
  funext role
  rw [header, header, huses]
  rfl

theorem unmoved : Target.ratatui.Unmoved := by
  unfold Target.ratatui
  exact
    { widget := widget_calm
      dataSources := fun _ => rfl
      app := fun s => congrArg Except.ok (app_calm s)
      entryPoint := fun _ => rfl
      header := fun s => funext fun role => funext fun _ => congrFun (header_calm s) role
      footer := fun _ => rfl
      manifests := fun _ => rfl
      moduleIndex := fun _ => rfl
      instructions := fun _ => rfl }

end Ratatui

namespace Blessed

theorem timer_calm (h : b.calm.tickMs = b.tickMs) (parts : ClassParts) : parts.timer? b.calm = parts.timer? b := by
  rw [ClassParts.timer?, ClassParts.timer?, h]

theorem widget_calm (b : Behavior) (o : Options) (h : b.calm.tickMs = b.tickMs) :
    widget b.calm (o.mocked false) = widget b o := by
  have hfields (parts : ClassParts) : allFields b.calm parts = allFields b parts := by
    rw [allFields, allFields, timer_calm h]
    rfl
  have hlines (comments : Bool) : classLines b.calm comments (partsOf b.calm) = classLines b comments (partsOf b) := by
    rw [classLines, classLines, hfields, timer_calm h]
    rfl
  exact congrArg Text.joinLines (hlines o.includeComments)

theorem app_calm (s : Scene) : app s.calm = app s := by
  rw [app, app, Scene.calm, List.mapM_map]
  rfl

theorem widgetExports_calm (s : Scene) : widgetExports s.calm = widgetExports s := by
  rw [widgetExports, widgetExports, Scene.calm, List.map_map]
  rfl

theorem header_calm (s : Scene) : header s.calm = header s := by
  have hrequires : localRequires s.calm = localRequires s := by
    rw [localRequires, localRequires, widgetExports_calm, Scene.calm, List.isEmpty_map]
    rfl
  funext role body
  rw [header, header, hrequires]
  rfl

theorem footer_calm (s : Scene) : footer s.calm = footer s := by
  funext role
  cases role with
  | widgets =>
    unfold footer
    rw [widgetExports_calm]
  | dataSources =>
    unfold footer
    rw [s.design_calm]
  | _ => rfl

theorem unmoved : Target.blessed.Unmoved := by
  unfold Target.blessed
  exact
    { widget := widget_calm
      dataSources := fun _ => rfl
      app := app_calm
      entryPoint := fun _ => rfl
      header := header_calm
      footer := footer_calm
      manifests := fun _ => rfl
      moduleIndex := fun _ => rfl
      instructions := fun _ => rfl }

end Blessed

end Steps

/-! ## Projects -/

namespace Target

theorem unmoved_ofFramework (f : Framework) : (ofFramework f).Unmoved := by
  cases f with
  | textual => exact Textual.unmoved
  | bubbleTea => exact BubbleTea.unmoved
  | ratatui => exact Ratatui.unmoved
  | blessed => exact Blessed.unmoved

variable {t : Target}

theorem Unmoved.generateScene (hunmoved : t.Unmoved) {s : Scene} (h : ∀ b ∈ s.behaviors, b.calm.tickMs = b.tickMs) :
    t.generateScene s.calm = t.generateScene s := by
  have hwidgets : s.calm.behaviors.map (t.widget · s.calm.options) = s.behaviors.map (t.widget · s.options) := by
    rw [Scene.calm, List.map_map]
    exact List.map_congr_left fun b hb => hunmoved.widget b s.options (h b hb)
  have halike : t.SeesAlike s.calm s :=
    { modular := rfl
      fed := rfl
      widgets := hwidgets
      dataSources := hunmoved.dataSources s
      app := hunmoved.app s
      entryPoint := hunmoved.entryPoint s
      header := hunmoved.header s
      footer := hunmoved.footer s
      manifests := hunmoved.manifests s
      moduleIndex := hunmoved.moduleIndex s
      instructions := hunmoved.instructions s }
  exact halike.generateScene

theorem Unmoved.generate (hunmoved : t.Unmoved) {d : Design} (h : d.BindsSimulated) (o : Options) :
    t.generate d (o.mocked false) = t.generate d o := by
  have hcalm := Behavior.ofWidgets_calm o d.widgets
  cases hbs : Behavior.ofWidgets o d.widgets with
  | rejected problems =>
    rw [hbs] at hcalm
    rw [Target.generate, Target.generate, Scene.ofDesign, Scene.ofDesign, hcalm, hbs]
    rfl
  | accepted bs =>
    rw [hbs] at hcalm
    have hscenes := hunmoved.generateScene (s := ⟨d, o, bs⟩) (h.tickMs_calm hbs)
    rw [generate_eq hcalm, generate_eq hbs, ← hscenes]
    rfl

end Target

/-- **Whether data is simulated shows in nothing but the simulated widgets without a source.** If there are none, every
target and the generator give the same project or the same fault; and a widget with a source never simulates and has no
timer. -/
theorem Generator.generate_mocked (o : Options) :
    (∀ d : Design, d.BindsSimulated →
      (∀ f, (Target.ofFramework f).generate d (o.mocked true) = (Target.ofFramework f).generate d (o.mocked false)) ∧
      Generator.default.generate d (o.mocked true) = Generator.default.generate d (o.mocked false)) ∧
    ∀ w b, Behavior.ofWidget w o = .accepted b → w.isBound = true → b.simulate = false ∧ b.tickMs = none := by
  refine ⟨fun d hbinds => ?_, fun w b hb hbound => ?_⟩
  · have htargets (f : Framework) : (Target.ofFramework f).generate d (o.mocked true) =
        (Target.ofFramework f).generate d (o.mocked false) :=
      ((Target.unmoved_ofFramework f).generate hbinds (o.mocked true)).symm
    refine ⟨htargets, ?_⟩
    rw [Generator.generate, Generator.generate, find_default, find_default]
    simp only [bind, Except.bind, htargets]
    rfl
  · have hsimulate := Behavior.simulate_of_bound hb hbound
    rw [← Behavior.widget_of_accepted hb] at hbound
    exact ⟨hsimulate, Behavior.tickMs_of_bound hbound hsimulate⟩

/-- A sparkline that is fed by a source. -/
def Widget.fedSparkline : Widget := ⟨"load", "sparkline", ⟨0, 0⟩, ⟨20, 3⟩, none, some "cpu", none, []⟩

/-- The sparkline beside a progress bar without a source. -/
def Design.fedSparkline : Design where
  version := "1.0.0"
  metadata := ⟨"load", none, none, "1.0.0", none, none, .ratatui, []⟩
  settings := .default
  widgets :=
    [.fedSparkline, ⟨"build", "progress_bar", ⟨0, 3⟩, ⟨20, 3⟩, none, none, none, [("animated", .bool true)]⟩]
  dataSources := [⟨"cpu", none, .systemMetric .cpuPercent 1000⟩]

/-- The one that is fed has no timer, and the other one is not asked whether it simulates. -/
theorem Generator.generate_mocked_fedSparkline :
    Generator.default.generate .fedSparkline (Options.default.mocked true) =
        Generator.default.generate .fedSparkline (Options.default.mocked false) ∧
      ∃ b, Behavior.ofWidget .fedSparkline .default = .accepted b ∧ b.simulate = false ∧ b.tickMs = none := by
  have hbinds : Design.fedSparkline.BindsSimulated := by
    intro w hw kind hkind hsimulated
    rcases List.mem_pair.1 hw with rfl | rfl
    · rfl
    · cases hkind
      cases hsimulated
  obtain ⟨hsame, hquiet⟩ := generate_mocked .default
  exact ⟨(hsame .fedSparkline hbinds).2, _, rfl, hquiet .fedSparkline _ rfl rfl⟩

end DashboardCompiler
