import DashboardCompiler.Proofs.Design.Spellings
import DashboardCompiler.Proofs.Generation.Totality

/-!
# Projects of respelled documents

Two designs that differ in the raw properties of their widgets, but read them as the same records, give scenes that
are the same without raw properties. No target tells such scenes apart, so that neither the spelling of a field nor a
key that names none reaches a project.
-/

namespace DashboardCompiler

open Schema Checked

theorem Behavior.ofWidget_follows {w v : Widget} (h : w.Alike v) (o : Options) :
    (ofWidget w o).Follows (fun b c => b.bare = c.bare) (ofWidget v o) := by
  have hkind : v.kind? = w.kind? := (congrArg Widget.kind? h.bare.symm :)
  have hbound : v.isBound = w.isBound := (congrArg Widget.isBound h.bare.symm :)
  unfold ofWidget
  rw [hkind, hbound]
  cases hw : w.kind? with
  | none =>
    rintro _ ⟨⟩
    exact ⟨_, rfl, congrArg (Behavior.mk · false .unknown) h.bare⟩
  | some kind =>
    refine (h.properties kind hw).map ?_
    rintro p _ rfl
    exact congrArg (Behavior.mk · _ _) h.bare

theorem Behavior.ofWidgets_follows {ws vs : List Widget} (h : List.Forall₂ Widget.Alike ws vs) (o : Options) :
    (ofWidgets o ws).Follows (fun bs cs => bs.map Behavior.bare = cs.map Behavior.bare) (ofWidgets o vs) := by
  induction h with
  | nil => exact fun bs hbs => ⟨bs, hbs, rfl⟩
  | cons hhead _ ih =>
    refine (ofWidget_follows hhead o).andThen fun b c hbc => ih.map fun bs cs hrest => ?_
    rw [List.map_cons, List.map_cons, hbc, hrest]

namespace Target

theorem generate_alike (f : Framework) {d e : Design} (h : d.Alike e) (hd : d.WellFormed) (o : Options) :
    (ofFramework f).generate d o = (ofFramework f).generate e o := by
  obtain ⟨bs, hbs, -⟩ := Behavior.ofWidgets_accepted o hd.types
  obtain ⟨cs, hcs, hsame⟩ := Behavior.ofWidgets_follows h.widgets o bs hbs
  have hbare : Scene.bare ⟨d, o, bs⟩ = Scene.bare ⟨e, o, cs⟩ := by rw [Scene.bare, Scene.bare, h.bare, hsame]
  have hscenes : (ofFramework f).generateScene ⟨d, o, bs⟩ = (ofFramework f).generateScene ⟨e, o, cs⟩ := by
    rw [← (seesAlike_bare f _).generateScene, hbare, (seesAlike_bare f _).generateScene]
  rw [generate_eq hbs, generate_eq hcs, hscenes]

theorem designFaults_bare (t : Target) (d : Design) : t.designFaults d.bare = t.designFaults d :=
  t.designFaults_mapWidgets (f := Widget.bare) (fun _ => rfl) (fun _ => rfl) d

end Target

/-- **Only the fields of a document matter, in whatever spelling.** If no record of a document holds two spellings of
one field, a document that differs from it in spellings and in unknown keys only is accepted or refused like it, and
every target and the generator give the same project for both, or the same fault. -/
theorem Generator.generate_respelled {document other : Json} (hsingle : Design.shape.single document)
    (hrespelled : Design.shape.Respelled document other) :
    ((∃ d, Design.validate document = .ok d) ↔ ∃ e, Design.validate other = .ok e) ∧
    ∀ d e, Design.validate document = .ok d → Design.validate other = .ok e → ∀ o,
      (∀ f, (Target.ofFramework f).generate d o = (Target.ofFramework f).generate e o) ∧
      Generator.default.generate d o = Generator.default.generate e o := by
  have hback : Design.shape.Respelled other document := Design.shape.equivalence.symm hrespelled
  refine ⟨⟨?_, ?_⟩, ?_⟩
  · rintro ⟨d, hd⟩
    obtain ⟨e, he, -⟩ := Design.validate_respelled hsingle hrespelled hd
    exact ⟨e, he⟩
  · rintro ⟨e, he⟩
    obtain ⟨d, hd, -⟩ := Design.validate_respelled (Design.shape.single_congr hrespelled ▸ hsingle) hback he
    exact ⟨d, hd⟩
  · intro d e hd he o
    obtain ⟨accepted, haccepted, halike⟩ := Design.validate_respelled hsingle hrespelled hd
    rw [Except.ok.inj (haccepted.symm.trans he)] at halike
    have hwell := (Design.validate_ok_iff.1 hd).2
    have htargets (f : Framework) := Target.generate_alike f halike hwell o
    have hfaults (t : Target) : t.designFaults d = t.designFaults e := by
      rw [← t.designFaults_bare d, halike.bare, t.designFaults_bare]
    refine ⟨htargets, ?_⟩
    rw [generate, generate, find_default]
    simp only [bind, Except.bind, hfaults, htargets]

/-! A bound sparkline and its source, once in snake case and once in camel case beside keys that spell nothing. -/

namespace Json

def snakeMetadata : Json := .object [("name", .text "load"), ("target_framework", .text "ratatui")]

def camelMetadata : Json := .object [("grid", .null), ("name", .text "load"), ("targetRuntime", .text "ratatui")]

def snakeSparkline : Json :=
  .object
    [("id", .text "load"),
     ("type", .text "sparkline"),
     ("position", .object [("x", .ofInt 0), ("y", .ofInt 0)]),
     ("size", .object [("width", .ofInt 20), ("height", .ofInt 3)]),
     ("data_source", .text "cpu"),
     ("properties", .object [("show_min_max", .bool false)])]

def camelSparkline : Json :=
  .object
    [("id", .text "load"),
     ("type", .text "sparkline"),
     ("position", .object [("x", .ofInt 0), ("y", .ofInt 0), ("z", .text "top")]),
     ("size", .object [("width", .ofInt 20), ("height", .ofInt 3)]),
     ("dataSource", .text "cpu"),
     ("properties", .object [("maxLines", .text "many"), ("showMinMax", .bool false)])]

def snakeSource : Json :=
  .object
    [("id", .text "cpu"), ("config", .object [("type", .text "system_metric"), ("metric", .text "cpu_percent")])]

def camelSource : Json :=
  .object
    [("id", .text "cpu"),
     ("config", .object [("type", .text "system_metric"), ("metric", .text "cpu_percent"), ("path", .ofInt 1)])]

def snakeDashboard : Json :=
  .object [("metadata", snakeMetadata), ("widgets", .list [snakeSparkline]), ("data_sources", .list [snakeSource])]

def camelDashboard : Json :=
  .object [("metadata", camelMetadata), ("widgets", .list [camelSparkline]), ("dataSources", .list [camelSource])]

theorem respelled_metadata : (Shape.record Metadata.schema).Respelled snakeMetadata camelMetadata := by
  have hspelled : RespelledFields Metadata.schema [("name", .text "load"), ("target_framework", .text "ratatui")]
      [("name", .text "load"), ("targetRuntime", .text "ratatui")] :=
    respelledFields_entry [("name", .text "load")] [] (by decide) fun p _ _ => p.2.equivalence.refl _
  have hadded := respelledFields_unknown [] [("name", .text "load"), ("targetRuntime", .text "ratatui")] .null
    (show ∀ p ∈ Metadata.schema, ¬ p.1.spells "grid" by decide)
  exact Shape.record_respelled ((respelledFields_equivalence _).trans hspelled hadded)

theorem respelled_sparkline : Widget.shape.Respelled snakeSparkline camelSparkline := by
  have hposition : (Shape.record Widget.positionSchema).Respelled (.object [("x", .ofInt 0), ("y", .ofInt 0)])
      (.object [("x", .ofInt 0), ("y", .ofInt 0), ("z", .text "top")]) :=
    Shape.record_respelled (respelledFields_unknown [("x", .ofInt 0), ("y", .ofInt 0)] [] (.text "top") (by decide))
  have hproperties : (Properties.shape (some "sparkline")).Respelled (.object [("show_min_max", .bool false)])
      (.object [("maxLines", .text "many"), ("showMinMax", .bool false)]) := by
    have hspelled : RespelledFields (Properties.schema .sparkline) [("show_min_max", .bool false)]
        [("showMinMax", .bool false)] :=
      respelledFields_entry [] [] (by decide) fun p _ _ => p.2.equivalence.refl _
    have hadded := respelledFields_unknown [] [("showMinMax", .bool false)] (.text "many")
      (show ∀ p ∈ Properties.schema .sparkline, ¬ p.1.spells "maxLines" by decide)
    exact Shape.record_respelled ((respelledFields_equivalence _).trans hspelled hadded)
  refine ⟨rfl, Shape.record_respelled ?_⟩
  simp only [RespelledFields, Widget.schema, List.forall_mem_cons]
  exact ⟨.cons rfl .nil, .cons rfl .nil, .cons hposition .nil, .cons (.inl rfl) .nil, .nil, .cons rfl .nil, .nil,
    .cons hproperties .nil, List.forall_mem_nil _⟩

theorem respelled_source : (Shape.record DataSource.schema).Respelled snakeSource camelSource := by
  have hconfig : RespelledFields
      [(⟨"type", []⟩, .plain), (⟨"metric", []⟩, .plain), (⟨"interval", []⟩, .plain)]
      [("type", .text "system_metric"), ("metric", .text "cpu_percent")]
      [("type", .text "system_metric"), ("metric", .text "cpu_percent"), ("path", .ofInt 1)] :=
    respelledFields_unknown [("type", .text "system_metric"), ("metric", .text "cpu_percent")] [] (.ofInt 1) (by decide)
  refine Shape.record_respelled ?_
  simp only [RespelledFields, DataSource.schema, List.forall_mem_cons]
  exact ⟨.cons rfl .nil, .nil, .cons ⟨rfl, Shape.record_respelled hconfig⟩ .nil, List.forall_mem_nil _⟩

theorem respelled_dashboard : Design.shape.Respelled snakeDashboard camelDashboard := by
  refine Shape.record_respelled ?_
  simp only [RespelledFields, Design.schema, List.forall_mem_cons]
  exact ⟨.nil, .cons respelled_metadata .nil, .nil, .cons (Shape.list_respelled (.cons respelled_sparkline .nil)) .nil,
    .cons (Shape.list_respelled (.cons respelled_source .nil)) .nil, List.forall_mem_nil _⟩

end Json

/-- The design of the dashboard in snake case. -/
def Design.snakeDashboard : Design where
  version := "1.0.0"
  metadata := ⟨"load", none, none, "1.0.0", none, none, .ratatui, []⟩
  settings := .default
  widgets := [⟨"load", "sparkline", ⟨0, 0⟩, ⟨20, 3⟩, none, some "cpu", none, [("show_min_max", .bool false)]⟩]
  dataSources := [⟨"cpu", none, .systemMetric .cpuPercent 1000⟩]

/-- Both dashboards are accepted, and nothing tells their projects apart. -/
theorem Generator.generate_respelled_dashboard :
    Design.validate .snakeDashboard = .ok .snakeDashboard ∧ ∃ e, Design.validate .camelDashboard = .ok e ∧
      ∀ o, Generator.default.generate .snakeDashboard o = Generator.default.generate e o := by
  have hread : Design.read .snakeDashboard = .accepted .snakeDashboard := by rfl
  have hwell : Design.snakeDashboard.WellFormed := (Design.faults_eq_nil_iff _).1 (by rfl)
  have hsnake := Design.validate_ok_iff.2 ⟨hread, hwell⟩
  obtain ⟨hiff, hsame⟩ := generate_respelled (by decide) Json.respelled_dashboard
  obtain ⟨e, hcamel⟩ := hiff.1 ⟨_, hsnake⟩
  exact ⟨hsnake, e, hcamel, fun o => (hsame _ e hsnake hcamel o).2⟩

end DashboardCompiler
