import DashboardCompiler.Proofs.Design.Acceptance
import Mathlib.Algebra.Group.Int.Defs
import Mathlib.Algebra.Group.Nat.Defs

/-!
# Documents of designs

A design that was read is written with all its fields, each under its main spelling and as the value that
the reading made of it. The theorems say record by record that this document is read as the same design:
every field is found again, no coerced value leaves the bounds of its field, and no default is one that the
field itself would refuse. Properties and static values are not looked into on either way.
-/

namespace DashboardCompiler

open Schema Checked

theorem readOptionalText_readsBack : ReadsBack (readOptional readText) (.ofOptional .text) :=
  readOptional_readsBack readText_readsBack fun _ => nofun

theorem Settings.readDimensions_readsBack : ReadsBack Settings.readDimensions Extent.toJson := by
  refine readRecord_readsBack fun fields e h => ?_
  simp only [↓seq_accepted_iff, ↓exists_map_accepted] at h ⊢
  obtain ⟨width, hwidth, height, hheight, rfl⟩ := h
  exact ⟨width, defaulted_again (readInteger_readsBack _ _) rfl hwidth rfl,
    height, defaulted_again (readInteger_readsBack _ _) rfl hheight rfl, rfl⟩

theorem Settings.read_readsBack : ReadsBack Settings.read Settings.toJson := by
  refine readRecord_readsBack fun fields s h => ?_
  simp only [↓seq_accepted_iff, ↓exists_seq_accepted, ↓exists_map_accepted] at h ⊢
  obtain ⟨dimensions, hdimensions, gridSize, hgridSize, theme, htheme, rate, hrate, resize, hresize,
    rfl⟩ := h
  exact ⟨dimensions, defaulted_again readDimensions_readsBack rfl hdimensions rfl,
    gridSize, defaulted_again (readInteger_readsBack _ _) rfl hgridSize rfl,
    theme, defaulted_again readChoice_readsBack rfl htheme rfl,
    rate, defaulted_again (readInteger_readsBack _ _) rfl hrate rfl,
    resize, defaulted_again readFlag_readsBack rfl hresize rfl, rfl⟩

theorem Metadata.read_readsBack : ReadsBack Metadata.read Metadata.toJson := by
  refine readRecord_readsBack fun fields m h => ?_
  simp only [↓seq_accepted_iff, ↓exists_seq_accepted, ↓exists_map_accepted] at h ⊢
  obtain ⟨name, hname, description, hdescription, author, hauthor, version, hversion, created, hcreated,
    modified, hmodified, framework, hframework, tags, htags, rfl⟩ := h
  exact ⟨name, required_again readFilledText_readsBack hname rfl,
    description, defaulted_again readOptionalText_readsBack rfl hdescription rfl,
    author, defaulted_again readOptionalText_readsBack rfl hauthor rfl,
    version, defaulted_again readText_readsBack rfl hversion rfl,
    created, defaulted_again readOptionalText_readsBack rfl hcreated rfl,
    modified, defaulted_again readOptionalText_readsBack rfl hmodified rfl,
    framework, defaulted_again readChoice_readsBack rfl hframework rfl,
    tags, defaulted_again (readList_readsBack readText_readsBack) rfl htags rfl, rfl⟩

/-! ## Widgets -/

theorem WidgetStyle.read_readsBack : ReadsBack WidgetStyle.read WidgetStyle.toJson := by
  refine readRecord_readsBack fun fields s h => ?_
  simp only [↓seq_accepted_iff, ↓exists_seq_accepted, ↓exists_map_accepted] at h ⊢
  obtain ⟨border, hborder, borderColor, hborderColor, background, hbackground, text, htext, padding,
    hpadding, rfl⟩ := h
  exact ⟨border, defaulted_again readChoice_readsBack rfl hborder rfl,
    borderColor, defaulted_again readOptionalText_readsBack rfl hborderColor rfl,
    background, defaulted_again readOptionalText_readsBack rfl hbackground rfl,
    text, defaulted_again readOptionalText_readsBack rfl htext rfl,
    padding, defaulted_again (readInteger_readsBack _ _) rfl hpadding rfl, rfl⟩

namespace Widget

theorem readPosition_readsBack : ReadsBack readPosition Point.toJson := by
  refine readRecord_readsBack fun fields p h => ?_
  simp only [↓seq_accepted_iff, ↓exists_map_accepted] at h ⊢
  obtain ⟨x, hx, y, hy, rfl⟩ := h
  exact ⟨x, required_again (readInteger_readsBack _ _) hx rfl,
    y, required_again (readInteger_readsBack _ _) hy rfl, rfl⟩

theorem readSize_readsBack : ReadsBack readSize Extent.toJson := by
  refine readRecord_readsBack fun fields e h => ?_
  simp only [↓seq_accepted_iff, ↓exists_map_accepted] at h ⊢
  obtain ⟨width, hwidth, height, hheight, rfl⟩ := h
  exact ⟨width, required_again (readInteger_readsBack _ _) hwidth rfl,
    height, required_again (readInteger_readsBack _ _) hheight rfl, rfl⟩

theorem read_readsBack : ReadsBack Widget.read Widget.toJson := by
  refine readRecord_readsBack fun fields w h => ?_
  simp only [↓seq_accepted_iff, ↓exists_seq_accepted, ↓exists_map_accepted] at h ⊢
  obtain ⟨id, hid, type, htype, position, hposition, size, hsize, title, htitle, source, hsource, style,
    hstyle, properties, hproperties, rfl⟩ := h
  have hstyles : ReadsBack (readOptional WidgetStyle.read) (.ofOptional WidgetStyle.toJson) :=
    readOptional_readsBack WidgetStyle.read_readsBack fun _ => nofun
  exact ⟨id, required_again readFilledText_readsBack hid rfl,
    type, required_again readText_readsBack htype rfl,
    position, required_again readPosition_readsBack hposition rfl,
    size, required_again readSize_readsBack hsize rfl,
    title, defaulted_again readOptionalText_readsBack rfl htitle rfl,
    source, defaulted_again readOptionalText_readsBack rfl hsource rfl,
    style, defaulted_again hstyles rfl hstyle rfl,
    properties, defaulted_again readMapping_readsBack rfl hproperties rfl, rfl⟩

end Widget

/-! ## Data sources -/

namespace SourceConfig

theorem readAddress_readsBack : ReadsBack readAddress .text := by
  refine andThen_readsBack (fun _ => rfl) fun s t h => ?_
  split at h
  · cases h
    rfl
  · cases h

theorem readHeaders_readsBack :
    ReadsBack (readOptional fun v => (readMapping v).andThen (readValues readText))
      (.ofOptional fun headers => .object (headers.map fun (key, s) => (key, .text s))) := by
  refine readOptional_readsBack ?_ fun _ => nofun
  intro v headers h
  obtain ⟨fields, -, hfields⟩ := andThen_accepted_iff.1 h
  exact andThen_accepted_iff.2 ⟨_, rfl, readValues_readsBack readText_readsBack fields headers hfields⟩

theorem readApi_again {fields written : Fields} {config : ApiConfig}
    (h : readApi fields = .accepted config)
    (hwritten : (api config).toJson = .object written) :
    readApi written = .accepted config := by
  cases hwritten
  simp only [readApi, ↓seq_accepted_iff, ↓exists_seq_accepted, ↓exists_map_accepted] at h ⊢
  obtain ⟨url, hurl, method, hmethod, headers, hheaders, interval, hinterval, rfl⟩ := h
  exact ⟨url, required_again readAddress_readsBack hurl rfl,
    method, defaulted_again readChoice_readsBack rfl hmethod rfl,
    headers, defaulted_again readHeaders_readsBack rfl hheaders rfl,
    interval, defaulted_again (readInteger_readsBack _ _) rfl hinterval rfl, rfl⟩

/-- A source is read from the fields of the kind that its tag names. -/
theorem read_accepted_iff {v : Json} {config : SourceConfig} :
    SourceConfig.read v = .accepted config ↔ ∃ fields tag, v = .object fields ∧
      Json.lookup "type" fields = some (.text tag) ∧
      readTagged? fields tag = some (.accepted config) := by
  constructor
  · intro h
    unfold SourceConfig.read at h
    split at h
    · rename_i fields
      split at h
      · cases h
      · rename_i tag htag
        cases tag with
        | text s =>
          cases hkind : readTagged? fields s with
          | none =>
            simp only [hkind] at h
            cases h
          | some result =>
            simp only [hkind, Option.map_some, Option.getD_some, under_accepted_iff] at h
            exact ⟨fields, s, rfl, htag, by rw [hkind, h]⟩
        | _ => cases h
    · cases h
  · rintro ⟨fields, tag, rfl, htag, hkind⟩
    simp only [SourceConfig.read, htag, hkind]
    rfl

/-- The written tag is the one that the fields were read under. -/
theorem read_readsBack : ReadsBack SourceConfig.read SourceConfig.toJson := by
  intro v config h
  obtain ⟨fields, tag, -, -, htagged⟩ := read_accepted_iff.1 h
  unfold readTagged? at htagged
  split at htagged
  · have hread := Option.some.inj htagged
    obtain ⟨value, hvalue, rfl⟩ := map_accepted_iff.1 hread
    refine read_accepted_iff.2 ⟨_, "static", rfl, rfl, congrArg some (map_accepted_iff.2 ⟨value, ?_, rfl⟩)⟩
    exact defaulted_again (readsBack_of_inverse fun _ => rfl) rfl hvalue rfl
  · have hread := Option.some.inj htagged
    simp only [↓seq_accepted_iff, ↓exists_map_accepted] at hread
    obtain ⟨metric, hmetric, interval, hinterval, rfl⟩ := hread
    refine read_accepted_iff.2 ⟨_, "system_metric", rfl, rfl, congrArg some ?_⟩
    simp only [↓seq_accepted_iff, ↓exists_map_accepted]
    exact ⟨metric, required_again readChoice_readsBack hmetric rfl,
      interval, defaulted_again (readInteger_readsBack _ _) rfl hinterval rfl, rfl⟩
  · have hread := Option.some.inj htagged
    obtain ⟨config, hconfig, rfl⟩ := map_accepted_iff.1 hread
    refine read_accepted_iff.2 ⟨_, "api", rfl, rfl, congrArg some (map_accepted_iff.2 ⟨config, ?_, rfl⟩)⟩
    exact readApi_again hconfig rfl
  · have hread := Option.some.inj htagged
    simp only [↓seq_accepted_iff, ↓exists_map_accepted] at hread
    obtain ⟨path, hpath, watch, hwatch, rfl⟩ := hread
    refine read_accepted_iff.2 ⟨_, "file", rfl, rfl, congrArg some ?_⟩
    simp only [↓seq_accepted_iff, ↓exists_map_accepted]
    exact ⟨path, required_again readFilledText_readsBack hpath rfl,
      watch, defaulted_again readFlag_readsBack rfl hwatch rfl, rfl⟩
  · have hread := Option.some.inj htagged
    simp only [↓seq_accepted_iff, ↓exists_map_accepted] at hread
    obtain ⟨line, hline, interval, hinterval, rfl⟩ := hread
    refine read_accepted_iff.2 ⟨_, "command", rfl, rfl, congrArg some ?_⟩
    simp only [↓seq_accepted_iff, ↓exists_map_accepted]
    exact ⟨line, required_again readFilledText_readsBack hline rfl,
      interval, defaulted_again (readInteger_readsBack _ _) rfl hinterval rfl, rfl⟩
  · cases htagged

end SourceConfig

theorem DataSource.read_readsBack : ReadsBack DataSource.read DataSource.toJson := by
  refine readRecord_readsBack fun fields s h => ?_
  simp only [↓seq_accepted_iff, ↓exists_seq_accepted, ↓exists_map_accepted] at h ⊢
  obtain ⟨id, hid, name, hname, config, hconfig, rfl⟩ := h
  exact ⟨id, required_again readFilledText_readsBack hid rfl,
    name, defaulted_again readOptionalText_readsBack rfl hname rfl,
    config, required_again SourceConfig.read_readsBack hconfig rfl, rfl⟩

/-! ## Designs -/

namespace Design

theorem read_readsBack : ReadsBack Design.read Design.toJson := by
  refine readRecord_readsBack fun fields d h => ?_
  simp only [↓seq_accepted_iff, ↓exists_seq_accepted, ↓exists_map_accepted] at h ⊢
  obtain ⟨version, hversion, metadata, hmetadata, settings, hsettings, widgets, hwidgets, sources,
    hsources, rfl⟩ := h
  exact ⟨version, defaulted_again readText_readsBack rfl hversion rfl,
    metadata, required_again Metadata.read_readsBack hmetadata rfl,
    settings, defaulted_again Settings.read_readsBack rfl hsettings rfl,
    widgets, defaulted_again (readList_readsBack Widget.read_readsBack) rfl hwidgets rfl,
    sources, defaulted_again (readList_readsBack DataSource.read_readsBack) rfl hsources rfl, rfl⟩

/-- **The document of an accepted design is accepted and is that design.** -/
theorem validate_toJson {document : Json} {d : Design} (h : validate document = .ok d) :
    validate d.toJson = .ok d := by
  obtain ⟨hread, hwell⟩ := validate_ok_iff.1 h
  exact validate_ok_iff.2 ⟨read_readsBack document d hread, hwell⟩

/-- Fields left out, further spellings, and values that have to be coerced. -/
def looseDocument : Json :=
  .object
    [("metadata", .object [("name", .text "loose"), ("targetRuntime", .text "bubble_tea"), ("author", .null)]),
     ("settings", .object
       [("dimensions", .object [("width", .text " +0_200.00 ")]),
        ("grid_size", .bool true),
        ("refreshRate", .text "250"),
        ("auto_resize", .text "OFF")]),
     ("widgets", .list
       [.object
         [("id", .text "load"),
          ("type", .text "gauge"),
          ("position", .object [("x", .text "-0"), ("y", .ofInt 3)]),
          ("size", .object [("width", .ofInt (10 ^ 30)), ("height", .ofInt 1)]),
          ("data_source", .text "cpu"),
          ("style", .object [("border_style", .text "rounded")]),
          ("properties", .object [("max", .text "inf"), ("other", .list [.null])])]]),
     ("data_sources", .list
       [.object
         [("id", .text "cpu"),
          ("config", .object [("type", .text "system_metric"), ("metric", .text "cpu_percent")])],
        .object
         [("id", .text "feed"),
          ("config", .object
            [("type", .text "api"),
             ("url", .text "https://example.org"),
             ("headers", .object [("Accept", .text "*/*")]),
             ("interval", .text "1_000")])]])]

/-- The design of `looseDocument`. -/
def looseDesign : Design where
  version := "1.0.0"
  metadata := ⟨"loose", none, none, "1.0.0", none, none, .bubbleTea, []⟩
  settings := ⟨⟨200, 40⟩, 1, .dark, 250, false⟩
  widgets :=
    [⟨"load", "gauge", ⟨0, 3⟩, ⟨10 ^ 30, 1⟩, none, some "cpu", some ⟨.rounded, none, none, none, 0⟩,
      [("max", .text "inf"), ("other", .list [.null])]⟩]
  dataSources :=
    [⟨"cpu", none, .systemMetric .cpuPercent 1000⟩,
     ⟨"feed", none, .api ⟨"https://example.org", .get, some [("Accept", "*/*")], 1000⟩⟩]

theorem validate_toJson_loose :
    validate looseDocument = .ok looseDesign ∧ validate looseDesign.toJson = .ok looseDesign := by
  have hread : Design.read looseDocument = .accepted looseDesign := by rfl
  have hwell : looseDesign.WellFormed := looseDesign.faults_eq_nil_iff.1 (by rfl)
  have h : validate looseDocument = .ok looseDesign := validate_ok_iff.2 ⟨hread, hwell⟩
  exact ⟨h, validate_toJson h⟩

end Design

end DashboardCompiler
