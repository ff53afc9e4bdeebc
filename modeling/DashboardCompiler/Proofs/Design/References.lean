import DashboardCompiler.Proofs.Design.Acceptance

/-!
# Sources and the widgets that name them

In an accepted design the sources that widgets name and the declared sources that count as referenced are
the same: every name is that of one declared source, and no name is empty. The queries of a design take
different ways through its lists, by the first match, by a filter, by the names that widgets give; these two
facts are why they agree.
-/

namespace DashboardCompiler

open Schema Checked

theorem Checked.all_accepted {α β : Type} {read : α → Checked β} {position : Nat} {as : List α} {bs : List β}
    (h : Checked.all read position as = .accepted bs) : ∀ b ∈ bs, ∃ a, read a = .accepted b := by
  induction as generalizing position bs with
  | nil =>
    cases h
    exact nofun
  | cons a as ih =>
    simp only [Checked.all, apply_accepted_iff, map_accepted_iff, under_accepted_iff] at h
    obtain ⟨_, ⟨b, hb, rfl⟩, rest, hrest, rfl⟩ := h
    exact List.forall_mem_cons.2 ⟨⟨a, hb⟩, ih hrest⟩

theorem Schema.readList_accepted {α : Type} {read : Json → Checked α} {v : Json} {items : List α}
    (h : readList read v = .accepted items) : ∀ a ∈ items, ∃ v, read v = .accepted a := by
  cases v with
  | list values => exact Checked.all_accepted h
  | _ => cases h

theorem Schema.required_accepted {α : Type} {read : Json → Checked α} {fields : Fields} {f : FieldName} {a : α}
    (h : required fields f read = .accepted a) : ∃ v, read v = .accepted a := by
  unfold required at h
  split at h
  · exact ⟨_, under_accepted_iff.1 h⟩
  · cases h

theorem Schema.readFilledText_ne_empty {v : Json} {s : String} (h : readFilledText v = .accepted s) : s ≠ "" := by
  obtain ⟨t, -, h⟩ := andThen_accepted_iff.1 h
  split at h
  · cases h
  · rename_i hfilled
    cases h
    rintro rfl
    exact hfilled rfl

theorem DataSource.read_id {v : Json} {s : DataSource} (h : DataSource.read v = .accepted s) : s.id ≠ "" := by
  obtain ⟨fields, h⟩ := readRecord_accepted h
  simp only [↓seq_accepted_iff, ↓exists_seq_accepted, ↓exists_map_accepted] at h
  obtain ⟨id, hid, name, -, config, -, rfl⟩ := h
  obtain ⟨v, hv⟩ := required_accepted hid
  exact readFilledText_ne_empty hv

namespace Design

theorem read_sourceIds {document : Json} {d : Design} (h : Design.read document = .accepted d) :
    ∀ s ∈ d.dataSources, s.id ≠ "" := by
  obtain ⟨fields, h⟩ := readRecord_accepted h
  simp only [↓seq_accepted_iff, ↓exists_seq_accepted, ↓exists_map_accepted] at h
  obtain ⟨version, -, metadata, -, settings, -, widgets, -, sources, hsources, rfl⟩ := h
  intro s hs
  rcases defaulted_accepted hsources with rfl | ⟨v, hv⟩
  · cases hs
  · obtain ⟨w, hw⟩ := readList_accepted hv s hs
    exact DataSource.read_id hw

variable {d : Design}

theorem isReferenced_iff {id : String} :
    d.isReferenced id = true ↔ id ≠ "" ∧ ∃ w ∈ d.widgets, w.dataSource = some id := by
  rw [isReferenced, List.any_eq_true]
  constructor
  · rintro ⟨w, hw, hnamed⟩
    obtain ⟨hnamed, hfilled⟩ := Bool.and_eq_true_iff.1 hnamed
    exact ⟨by simpa using hfilled, w, hw, by simpa using hnamed⟩
  · rintro ⟨hfilled, w, hw, hnamed⟩
    exact ⟨w, hw, by simpa [hnamed] using hfilled⟩

theorem nodup_referencedIds (hwell : d.WellFormed) : (d.referencedSources.map (·.id)).Nodup :=
  hwell.sourceIds.sublist (List.filter_sublist.map _)

/-- The names that widgets give are the ids of the referenced sources. -/
theorem mem_referencedIds (hwell : d.WellFormed) (hfilled : ∀ s ∈ d.dataSources, s.id ≠ "") {id : String} :
    id ∈ d.referencedSources.map (·.id) ↔ ∃ w ∈ d.widgets, w.dataSource = some id := by
  constructor
  · intro h
    obtain ⟨s, hs, rfl⟩ := List.mem_map.1 h
    exact (isReferenced_iff.1 (List.mem_filter.1 hs).2).2
  · rintro ⟨w, hw, hnamed⟩
    obtain ⟨s, hs, rfl⟩ := hwell.references w hw id hnamed
    exact List.mem_map_of_mem (List.mem_filter.2 ⟨hs, isReferenced_iff.2 ⟨hfilled s hs, w, hw, hnamed⟩⟩)

end Design

/-! ## Bindings -/

/-- What the queries of a design say of its bindings, whichever list each of them walks along. -/
structure Design.Bound (d : Design) : Prop where
  /-- the referenced sources are those that feed a widget, as they are declared -/
  referenced : d.referencedSources = d.dataSources.filter fun s => !(d.widgetsBoundTo s.id).isEmpty
  nodup : (d.referencedSources.map (·.id)).Nodup
  /-- the name that a widget gives leads to one source, and to no other -/
  source : ∀ w ∈ d.widgets, ∀ id, w.dataSource = some id → ∃ s ∈ d.referencedSources, d.source? id = some s ∧
    ∀ t ∈ d.dataSources, w ∈ d.widgetsBoundTo t.id ↔ t = s
  /-- the sources share the bound widgets out -/
  shared : (d.referencedSources.flatMap fun s => d.widgetsBoundTo s.id).Perm (d.widgets.filter (·.isBound))
  once : ((d.referencedSources.flatMap fun s => d.widgetsBoundTo s.id).map (·.id)).Nodup
  metrics : d.usesSystemMetrics = true ↔
    ∃ w ∈ d.widgets, ∃ id s, w.dataSource = some id ∧ d.source? id = some s ∧ s.config.isSystemMetric = true

namespace Design

variable {d : Design}

theorem mem_widgetsBoundTo {w : Widget} {id : String} :
    w ∈ d.widgetsBoundTo id ↔ w ∈ d.widgets ∧ w.dataSource = some id := by
  rw [widgetsBoundTo, List.mem_filter, decide_eq_true_eq]

theorem isReferenced_iff_bound {id : String} (hfilled : id ≠ "") :
    d.isReferenced id = true ↔ d.widgetsBoundTo id ≠ [] := by
  rw [isReferenced_iff, and_iff_right hfilled, Ne, List.eq_nil_iff_forall_not_mem, not_forall_not]
  simp only [mem_widgetsBoundTo]

theorem referencedSources_eq (hfilled : ∀ s ∈ d.dataSources, s.id ≠ "") :
    d.referencedSources = d.dataSources.filter fun s => !(d.widgetsBoundTo s.id).isEmpty := by
  refine List.filter_congr fun s hs => ?_
  rw [Bool.eq_iff_iff, isReferenced_iff_bound (hfilled s hs), Bool.not_eq_true', List.isEmpty_eq_false_iff]

/-- With distinct ids the first source with an id is the only one. -/
theorem source?_eq_some_iff (hids : (d.dataSources.map (·.id)).Nodup) {id : String} {s : DataSource} :
    d.source? id = some s ↔ s ∈ d.dataSources ∧ s.id = id := by
  constructor
  · intro h
    have hid := List.find?_some h
    exact ⟨List.mem_of_find?_eq_some h, of_decide_eq_true hid⟩
  · rintro ⟨hs, rfl⟩
    cases hfound : d.source? s.id with
    | none => exact absurd (decide_eq_true rfl) (List.find?_eq_none.1 hfound s hs)
    | some t =>
      have hid := List.find?_some hfound
      rw [List.inj_on_of_nodup_map hids (List.mem_of_find?_eq_some hfound) hs (of_decide_eq_true hid)]

end Design

/-- Items that are looked up by distinct keys, key after key, are the items that have one of the keys. -/
theorem perm_flatMap_filter {α κ : Type} [DecidableEq κ] {key : α → κ} {items : List α} {keys : List κ} {p : α → Bool}
    (h : keys.Nodup) (hp : ∀ a ∈ items, p a = true ↔ key a ∈ keys) :
    (keys.flatMap fun k => items.filter fun a => key a = k).Perm (items.filter p) := by
  induction keys generalizing p with
  | nil =>
    have hnone : items.filter p = [] := List.filter_eq_nil_iff.2 fun a ha => by simp [hp a ha]
    rw [List.flatMap_nil, hnone]
  | cons k keys ih =>
    obtain ⟨hfresh, hrest⟩ := List.nodup_cons.1 h
    have hfirst : (items.filter p).filter (fun a => key a = k) = items.filter fun a => key a = k := by
      rw [List.filter_filter]
      refine List.filter_congr fun a ha => ?_
      rw [Bool.eq_iff_iff, Bool.and_eq_true, decide_eq_true_eq, hp a ha, and_iff_left_iff_imp]
      rintro rfl
      exact List.mem_cons_self
    have hothers := ih (p := fun a => !decide (key a = k) && p a) hrest fun a ha => by
      rw [Bool.and_eq_true, Bool.not_eq_true', decide_eq_false_iff_not, hp a ha, List.mem_cons]
      constructor
      · rintro ⟨hne, heq | hmem⟩
        · exact absurd heq hne
        · exact hmem
      · intro hmem
        refine ⟨?_, .inr hmem⟩
        rintro rfl
        exact hfresh hmem
    have hsplit := List.filter_append_perm (fun a => decide (key a = k)) (items.filter p)
    rw [hfirst, List.filter_filter] at hsplit
    rw [List.flatMap_cons]
    exact (hothers.append_left _).trans hsplit

namespace Design

variable {d : Design}

theorem perm_boundWidgets (hwell : d.WellFormed) (hfilled : ∀ s ∈ d.dataSources, s.id ≠ "") :
    (d.referencedSources.flatMap fun s => d.widgetsBoundTo s.id).Perm (d.widgets.filter (·.isBound)) := by
  have hkeys : (d.referencedSources.map fun s => some s.id).Nodup := by
    have hids := (nodup_referencedIds hwell).map fun _ _ => Option.some.inj
    rwa [List.map_map] at hids
  have hnamed (w : Widget) (hw : w ∈ d.widgets) :
      w.isBound = true ↔ w.dataSource ∈ d.referencedSources.map fun s => some s.id := by
    rw [Widget.isBound, Option.isSome_iff_exists]
    constructor
    · rintro ⟨id, hid⟩
      obtain ⟨s, hs, rfl⟩ := List.mem_map.1 ((mem_referencedIds hwell hfilled).2 ⟨w, hw, hid⟩)
      rw [hid]
      exact List.mem_map_of_mem hs
    · intro hmem
      obtain ⟨s, -, hs⟩ := List.mem_map.1 hmem
      exact ⟨s.id, hs.symm⟩
  have hshared := perm_flatMap_filter hkeys hnamed
  rwa [List.flatMap_map] at hshared

theorem exists_source (hwell : d.WellFormed) (hfilled : ∀ s ∈ d.dataSources, s.id ≠ "") {w : Widget}
    (hw : w ∈ d.widgets) {id : String} (hid : w.dataSource = some id) :
    ∃ s ∈ d.referencedSources, d.source? id = some s ∧ ∀ t ∈ d.dataSources, w ∈ d.widgetsBoundTo t.id ↔ t = s := by
  obtain ⟨s, hs, rfl⟩ := List.mem_map.1 ((mem_referencedIds hwell hfilled).2 ⟨w, hw, hid⟩)
  have hdeclared : s ∈ d.dataSources := (List.mem_filter.1 hs).1
  refine ⟨s, hs, (source?_eq_some_iff hwell.sourceIds).2 ⟨hdeclared, rfl⟩, fun t ht => ?_⟩
  rw [mem_widgetsBoundTo, hid, Option.some_inj, and_iff_right hw]
  constructor
  · intro hsame
    exact List.inj_on_of_nodup_map hwell.sourceIds ht hdeclared hsame.symm
  · rintro rfl
    rfl

theorem usesSystemMetrics_iff (hwell : d.WellFormed) (hfilled : ∀ s ∈ d.dataSources, s.id ≠ "") :
    d.usesSystemMetrics = true ↔
      ∃ w ∈ d.widgets, ∃ id s, w.dataSource = some id ∧ d.source? id = some s ∧ s.config.isSystemMetric = true := by
  rw [usesSystemMetrics, List.any_eq_true]
  constructor
  · rintro ⟨s, hs, hmetric⟩
    obtain ⟨w, hw, hid⟩ := (mem_referencedIds hwell hfilled).1 (List.mem_map_of_mem hs)
    exact ⟨w, hw, s.id, s, hid,
      (source?_eq_some_iff hwell.sourceIds).2 ⟨(List.mem_filter.1 hs).1, rfl⟩, hmetric⟩
  · rintro ⟨w, hw, id, s, hid, hfound, hmetric⟩
    obtain ⟨t, ht, hsource, -⟩ := exists_source hwell hfilled hw hid
    obtain rfl : t = s := Option.some_inj.1 (hsource.symm.trans hfound)
    exact ⟨t, ht, hmetric⟩

/-- **The queries of an accepted design agree on its bindings.** -/
theorem bound_of_validate {document : Json} (h : Design.validate document = .ok d) : d.Bound := by
  obtain ⟨hread, hwell⟩ := validate_ok_iff.1 h
  have hfilled := read_sourceIds hread
  have hshared := perm_boundWidgets hwell hfilled
  have honce : ((d.widgets.filter (·.isBound)).map (·.id)).Nodup := hwell.widgetIds.sublist (List.filter_sublist.map _)
  exact
    { referenced := referencedSources_eq hfilled
      nodup := nodup_referencedIds hwell
      source := fun w hw id hid => exists_source hwell hfilled hw hid
      shared := hshared
      once := (hshared.map _).nodup_iff.2 honce
      metrics := usesSystemMetrics_iff hwell hfilled }

/-- Two widgets share a source, one has none, and a second source is never named. -/
def sharedFeedDocument : Json :=
  .object
    [("metadata", .object [("name", .text "shared feed")]),
     ("widgets", .list ([("a", .text "load"), ("b", .null), ("c", .text "load")].map fun (id, source) =>
       .object
         [("id", .text id),
          ("type", .text "sparkline"),
          ("position", .object [("x", .ofInt 0), ("y", .ofInt 0)]),
          ("size", .object [("width", .ofInt 10), ("height", .ofInt 3)]),
          ("dataSource", source)])),
     ("dataSources", .list
       [.object [("id", .text "spare"), ("config", .object [("type", .text "static")])],
        .object
          [("id", .text "load"),
           ("config", .object [("type", .text "system_metric"), ("metric", .text "load_average")])]])]

/-- The design of `sharedFeedDocument`. -/
def sharedFeed : Design where
  version := "1.0.0"
  metadata := ⟨"shared feed", none, none, "1.0.0", none, none, .textual, []⟩
  settings := .default
  widgets := [("a", some "load"), ("b", none), ("c", some "load")].map fun (id, source) =>
    ⟨id, "sparkline", ⟨0, 0⟩, ⟨10, 3⟩, none, source, none, []⟩
  dataSources := [⟨"spare", none, .static .null⟩, ⟨"load", none, .systemMetric .loadAverage 1000⟩]

theorem bound_of_validate_sharedFeed :
    validate sharedFeedDocument = .ok sharedFeed ∧ sharedFeed.Bound ∧
      sharedFeed.referencedSources.map (·.id) = ["load"] ∧
      (sharedFeed.widgetsBoundTo "load").map (·.id) = ["a", "c"] ∧ sharedFeed.usesSystemMetrics = true := by
  have hvalid : validate sharedFeedDocument = .ok sharedFeed := by rfl
  exact ⟨hvalid, bound_of_validate hvalid, by decide, by decide, by decide⟩

end Design

end DashboardCompiler
