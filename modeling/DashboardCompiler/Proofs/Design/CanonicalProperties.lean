import DashboardCompiler.Design.Catalogue
import DashboardCompiler.Proofs.Design.Ranges
import DashboardCompiler.Proofs.Design.Spellings
import DashboardCompiler.Proofs.Double.Overflow

/-!
# The canonical form of properties

A field that is absent means its default, and the catalogue writes the defaults out. Whether a default is left out or
written, the record is the same: each field is found under one key, either in the given properties or among the written
defaults, and what is written for a value is read as that value. Only the bounds of a range change their form. They are
the integers of the record where they are left out and doubles where they are written, with the same value, so the
check of the range sees no difference, whichever of the two bounds was given.
-/

namespace DashboardCompiler

open Schema Checked

/-! ## Mappings laid over each other -/

namespace Json

theorem lookup_cons (key other : String) (value : Json) (fields : Fields) :
    lookup other ((key, value) :: fields) = if other = key then some value else lookup other fields := by
  unfold lookup
  split
  · rename_i heq
    rw [List.lookup_cons, beq_iff_eq.2 heq]
  · rename_i hne
    rw [List.lookup_cons, beq_false_of_ne hne]

theorem lookup_setField (key other : String) (value : Json) (fields : Fields) :
    lookup other (setField key value fields) = if other = key then some value else lookup other fields := by
  induction fields with
  | nil => exact lookup_cons key other value []
  | cons entry rest ih =>
    obtain ⟨first, old⟩ := entry
    unfold setField
    split
    · rename_i hfirst
      rw [lookup_cons, lookup_cons, hfirst]
      split <;> rfl
    · rename_i hfirst
      rw [lookup_cons, lookup_cons, ih]
      split
      · rename_i hother
        rw [if_neg (hother ▸ hfirst)]
      · rfl

end Json

namespace Schema

/-- A mapping laid over another one: the keys of the upper one have their values from there. -/
def layOver (upper lower : Fields) : Fields :=
  upper.foldl (fun done entry => Json.setField entry.1 entry.2 done) lower

theorem lookup_eq_none {fields : Fields} {key : String} (h : key ∉ fields.map Prod.fst) :
    Json.lookup key fields = none := by
  induction fields with
  | nil => rfl
  | cons entry rest ih =>
    rw [List.map_cons, List.mem_cons, not_or] at h
    rw [Json.lookup_cons, if_neg h.1, ih h.2]

theorem lookup_layOver {upper : Fields} (hdistinct : (upper.map Prod.fst).Nodup) (lower : Fields) (key : String) :
    Json.lookup key (layOver upper lower) = (Json.lookup key upper).or (Json.lookup key lower) := by
  induction upper generalizing lower with
  | nil => rfl
  | cons entry rest ih =>
    obtain ⟨hfirst, hrest⟩ := List.nodup_cons.1 hdistinct
    rw [layOver, List.foldl_cons, ← layOver, ih hrest, Json.lookup_setField, Json.lookup_cons]
    split
    · rename_i heq
      rw [heq, lookup_eq_none hfirst]
      rfl
    · rfl

variable {α : Type} {fields upper lower : Fields} {f : FieldName} {read : Json → Checked α} {default : α}

theorem defaulted_of_absent (hmain : Json.lookup f.main fields = none)
    (h : ∀ other ∈ f.others, Json.lookup other fields = none) :
    defaulted fields f default read = .accepted default := by
  rw [defaulted, FieldName.spellings, present?_eq_none (List.forall_mem_cons.2 ⟨hmain, h⟩)]

theorem defaulted_of_given {v : Json} (hmain : Json.lookup f.main fields = some v) :
    defaulted fields f default read = (read v).under [f.main] := by
  rw [defaulted, present?_main hmain]

/-- A default that is written out below stands for the default of what is above. -/
theorem defaulted_layOver {convert : α → α} (hdistinct : (upper.map Prod.fst).Nodup)
    (hothers : ∀ other ∈ f.others, Json.lookup other upper = none) (hwritten : (Json.lookup f.main lower).isSome)
    (hread : defaulted lower f default read = .accepted (convert default))
    (hkept : ∀ v a, read v = .accepted a → convert a = a) :
    defaulted (layOver upper lower) f default read = (defaulted upper f default read).map convert := by
  have hfound := lookup_layOver hdistinct lower f.main
  cases hgiven : Json.lookup f.main upper with
  | none =>
    obtain ⟨w, hw⟩ := Option.isSome_iff_exists.1 hwritten
    rw [hgiven, Option.none_or, hw] at hfound
    rw [defaulted_of_absent hgiven hothers, defaulted_of_given hfound, ← defaulted_of_given hw, hread]
    rfl
  | some v =>
    rw [hgiven, Option.some_or] at hfound
    rw [defaulted_of_given hgiven, defaulted_of_given hfound]
    cases hv : read v with
    | accepted a => exact congrArg accepted (hkept v a hv).symm
    | rejected ps => rfl

end Schema

/-! ## Bounds as doubles -/

open WidgetKind (boundsAsDoubles)
open WidgetKind.boundsAsDoubles (asDouble)

theorem Number.Held.asDouble {n : Number} (h : n.Held) : (WidgetKind.boundsAsDoubles.asDouble n).place? = n.place? := by
  cases n with
  | int n => exact h
  | double x => rfl

theorem readBound_asDouble {n : Number} (h : ∀ i, n = .int i → i.natAbs ≤ twoPower 53) :
    readBound (.number n) = .accepted (asDouble n) := by
  cases n with
  | int i =>
    have hfinite : Double.ofInt? i = .ok (Double.ofInt i) := (Double.below_ofInt (h i rfl) (by decide)).inRange
    rw [readBound, readDouble, hfinite]
    rfl
  | double x => rfl

theorem asDouble_of_readBound {v : Json} {n : Number} (h : readBound v = .accepted n) : asDouble n = n := by
  obtain ⟨x, -, rfl⟩ := map_accepted_iff.1 h
  rfl

theorem checkRange_map {α : Type} {least greatest : Number} (hleast : least.Held) (hgreatest : greatest.Held)
    (convert : α → α) (record : α) :
    checkRange (asDouble least) (asDouble greatest) (convert record) =
      (checkRange least greatest record).map convert := by
  have hle : (asDouble greatest).le (asDouble least) = greatest.le least := by
    simp only [Number.le, Number.lt, Number.eqValue, hleast.asDouble, hgreatest.asDouble]
  rw [checkRange, checkRange, hle]
  split <;> rfl

theorem checkRange_default {α : Type} (record : α) : checkRange (.int 0) (.int 100) record = .accepted record :=
  if_neg (by decide +kernel)

def GaugeProperties.inDoubles (p : GaugeProperties) : GaugeProperties :=
  { p with min := asDouble p.min, max := asDouble p.max }

def ProgressBarProperties.inDoubles (p : ProgressBarProperties) : ProgressBarProperties :=
  { p with min := asDouble p.min, max := asDouble p.max }

theorem GaugeProperties.map_inDoubles (least greatest : Checked Number) (shown : Checked Bool)
    (units : Checked String) :
    GaugeProperties.mk <$> least.map asDouble <*> greatest.map asDouble <*> shown <*> units =
      (GaugeProperties.mk <$> least <*> greatest <*> shown <*> units).map inDoubles := by
  simp only [functorMap_eq, seq_eq, map_apply, apply_map, map_map]
  rfl

theorem ProgressBarProperties.map_inDoubles (shown : Checked Bool) (color : Checked ProgressColor)
    (animated : Checked Bool) (least greatest : Checked Number) :
    ProgressBarProperties.mk <$> shown <*> color <*> animated <*> least.map asDouble <*> greatest.map asDouble =
      (ProgressBarProperties.mk <$> shown <*> color <*> animated <*> least <*> greatest).map inDoubles := by
  simp only [functorMap_eq, seq_eq, map_apply, apply_map, map_map]
  rfl

/-! ## Records written out -/

section Again

open Properties

variable {fields written : Fields}

theorem readBound_again {f : FieldName} {default : Int} {n m : Number}
    (hdefault : default.natAbs ≤ twoPower 53) (h : defaulted fields f (.int default) readBound = .accepted n)
    (hm : m = n ∨ m = asDouble n) (hwritten : Json.lookup f.main written = some (.number m)) :
    defaulted written f (.int default) readBound = .accepted (asDouble n) := by
  refine defaulted_of_lookup hwritten ?_
  rcases defaulted_accepted h with rfl | ⟨v, hv⟩
  · rcases hm with rfl | rfl
    · exact readBound_asDouble fun _ hi => Number.int.inj hi ▸ hdefault
    · rfl
  · have hn := asDouble_of_readBound hv
    obtain ⟨x, -, rfl⟩ := map_accepted_iff.1 hv
    obtain rfl : m = .double x := hm.elim id id
    rfl

theorem TextProperties.read_again {p : TextProperties} (h : TextProperties.read fields = .accepted p)
    (hwritten : (text p).toJson = .object written) : TextProperties.read written = .accepted p := by
  cases hwritten
  simp only [TextProperties.read, ↓seq_accepted_iff, ↓exists_seq_accepted, ↓exists_map_accepted] at h ⊢
  obtain ⟨content, hcontent, align, halign, wrap, hwrap, rfl⟩ := h
  exact ⟨content, defaulted_again readText_readsBack rfl hcontent rfl,
    align, defaulted_again readChoice_readsBack rfl halign rfl,
    wrap, defaulted_again readFlag_readsBack rfl hwrap rfl, rfl⟩

theorem LineChartProperties.read_again {p : LineChartProperties} (h : LineChartProperties.read fields = .accepted p)
    (hwritten : (lineChart p).toJson = .object written) : LineChartProperties.read written = .accepted p := by
  cases hwritten
  simp only [LineChartProperties.read, ↓seq_accepted_iff, ↓exists_seq_accepted, ↓exists_map_accepted] at h ⊢
  obtain ⟨xLabel, hxLabel, yLabel, hyLabel, grid, hgrid, legend, hlegend, points, hpoints, rfl⟩ := h
  exact ⟨xLabel, defaulted_again readText_readsBack rfl hxLabel rfl,
    yLabel, defaulted_again readText_readsBack rfl hyLabel rfl,
    grid, defaulted_again readFlag_readsBack rfl hgrid rfl,
    legend, defaulted_again readFlag_readsBack rfl hlegend rfl,
    points, defaulted_again (readInteger_readsBack _ _) rfl hpoints rfl, rfl⟩

theorem BarChartProperties.read_again {p : BarChartProperties} (h : BarChartProperties.read fields = .accepted p)
    (hwritten : (barChart p).toJson = .object written) : BarChartProperties.read written = .accepted p := by
  cases hwritten
  simp only [BarChartProperties.read, ↓seq_accepted_iff, ↓exists_seq_accepted, ↓exists_map_accepted] at h ⊢
  obtain ⟨orientation, horientation, values, hvalues, legend, hlegend, bars, hbars, rfl⟩ := h
  exact ⟨orientation, defaulted_again readChoice_readsBack rfl horientation rfl,
    values, defaulted_again readFlag_readsBack rfl hvalues rfl,
    legend, defaulted_again readFlag_readsBack rfl hlegend rfl,
    bars, defaulted_again (readInteger_readsBack _ _) rfl hbars rfl, rfl⟩

theorem TableProperties.read_again {p : TableProperties} (h : TableProperties.read fields = .accepted p)
    (hwritten : (table p).toJson = .object written) : TableProperties.read written = .accepted p := by
  cases hwritten
  simp only [TableProperties.read, ↓seq_accepted_iff, ↓exists_seq_accepted, ↓exists_map_accepted] at h ⊢
  obtain ⟨headers, hheaders, sortable, hsortable, filterable, hfilterable, rows, hrows, rfl⟩ := h
  exact ⟨headers, defaulted_again readFlag_readsBack rfl hheaders rfl,
    sortable, defaulted_again readFlag_readsBack rfl hsortable rfl,
    filterable, defaulted_again readFlag_readsBack rfl hfilterable rfl,
    rows, defaulted_again (readInteger_readsBack _ _) rfl hrows rfl, rfl⟩

theorem ProgressBarProperties.read_again {p : ProgressBarProperties} {q : Properties}
    (h : ProgressBarProperties.read fields = .accepted p) (hq : q = progressBar p ∨ q = progressBar p.inDoubles)
    (hwritten : q.toJson = .object written) : ProgressBarProperties.read written = .accepted p.inDoubles := by
  obtain ⟨record, hrecord, hcheck⟩ := andThen_accepted_iff.1 h
  obtain ⟨-, rfl⟩ := checkRange_accepted hcheck
  simp only [functorMap_eq, seq_eq, apply_accepted_iff, map_accepted_iff] at hrecord
  obtain ⟨_, ⟨_, ⟨_, ⟨_, ⟨shown, hshown, rfl⟩, color, hcolor, rfl⟩, animated, hanimated, rfl⟩, least, hleast, rfl⟩,
    greatest, hgreatest, rfl⟩ := hrecord
  have hrange := checkRange_map (held_of_defaulted (by decide) hleast) (held_of_defaulted (by decide) hgreatest)
    inDoubles ⟨shown, color, animated, least, greatest⟩
  rw [hcheck] at hrange
  obtain ⟨m, n, hm, hn, rfl⟩ : ∃ m n, (m = least ∨ m = asDouble least) ∧ (n = greatest ∨ n = asDouble greatest) ∧
      q = progressBar ⟨shown, color, animated, m, n⟩ := by
    rcases hq with rfl | rfl
    · exact ⟨_, _, .inl rfl, .inl rfl, rfl⟩
    · exact ⟨_, _, .inr rfl, .inr rfl, rfl⟩
  cases hwritten
  refine andThen_accepted_iff.2 ⟨inDoubles ⟨shown, color, animated, least, greatest⟩, ?_, hrange⟩
  simp only [↓seq_accepted_iff, ↓exists_seq_accepted, ↓exists_map_accepted]
  exact ⟨shown, defaulted_again readFlag_readsBack rfl hshown rfl,
    color, defaulted_again readChoice_readsBack rfl hcolor rfl,
    animated, defaulted_again readFlag_readsBack rfl hanimated rfl,
    asDouble least, readBound_again (by decide) hleast hm rfl,
    asDouble greatest, readBound_again (by decide) hgreatest hn rfl, rfl⟩

theorem SparklineProperties.read_again {p : SparklineProperties} (h : SparklineProperties.read fields = .accepted p)
    (hwritten : (sparkline p).toJson = .object written) : SparklineProperties.read written = .accepted p := by
  cases hwritten
  simp only [SparklineProperties.read, ↓seq_accepted_iff, ↓exists_seq_accepted, ↓exists_map_accepted] at h ⊢
  obtain ⟨style, hstyle, extremes, hextremes, current, hcurrent, rfl⟩ := h
  exact ⟨style, defaulted_again readChoice_readsBack rfl hstyle rfl,
    extremes, defaulted_again readFlag_readsBack rfl hextremes rfl,
    current, defaulted_again readFlag_readsBack rfl hcurrent rfl, rfl⟩

theorem GaugeProperties.read_again {p : GaugeProperties} {q : Properties}
    (h : GaugeProperties.read fields = .accepted p) (hq : q = gauge p ∨ q = gauge p.inDoubles)
    (hwritten : q.toJson = .object written) : GaugeProperties.read written = .accepted p.inDoubles := by
  obtain ⟨record, hrecord, hcheck⟩ := andThen_accepted_iff.1 h
  obtain ⟨-, rfl⟩ := checkRange_accepted hcheck
  simp only [functorMap_eq, seq_eq, apply_accepted_iff, map_accepted_iff] at hrecord
  obtain ⟨_, ⟨_, ⟨_, ⟨least, hleast, rfl⟩, greatest, hgreatest, rfl⟩, shown, hshown, rfl⟩, units, hunits, rfl⟩ :=
    hrecord
  have hrange := checkRange_map (held_of_defaulted (by decide) hleast) (held_of_defaulted (by decide) hgreatest)
    inDoubles ⟨least, greatest, shown, units⟩
  rw [hcheck] at hrange
  obtain ⟨m, n, hm, hn, rfl⟩ : ∃ m n, (m = least ∨ m = asDouble least) ∧ (n = greatest ∨ n = asDouble greatest) ∧
      q = gauge ⟨m, n, shown, units⟩ := by
    rcases hq with rfl | rfl
    · exact ⟨_, _, .inl rfl, .inl rfl, rfl⟩
    · exact ⟨_, _, .inr rfl, .inr rfl, rfl⟩
  cases hwritten
  refine andThen_accepted_iff.2 ⟨inDoubles ⟨least, greatest, shown, units⟩, ?_, hrange⟩
  simp only [↓seq_accepted_iff, ↓exists_seq_accepted, ↓exists_map_accepted]
  exact ⟨asDouble least, readBound_again (by decide) hleast hm rfl,
    asDouble greatest, readBound_again (by decide) hgreatest hn rfl,
    shown, defaulted_again readFlag_readsBack rfl hshown rfl,
    units, defaulted_again readText_readsBack rfl hunits rfl, rfl⟩

theorem LogViewerProperties.read_again {p : LogViewerProperties} (h : LogViewerProperties.read fields = .accepted p)
    (hwritten : (logViewer p).toJson = .object written) : LogViewerProperties.read written = .accepted p := by
  cases hwritten
  simp only [LogViewerProperties.read, ↓seq_accepted_iff, ↓exists_seq_accepted, ↓exists_map_accepted] at h ⊢
  obtain ⟨lines, hlines, scroll, hscroll, timestamp, htimestamp, filter, hfilter, rfl⟩ := h
  exact ⟨lines, defaulted_again (readInteger_readsBack _ _) rfl hlines rfl,
    scroll, defaulted_again readFlag_readsBack rfl hscroll rfl,
    timestamp, defaulted_again readFlag_readsBack rfl htimestamp rfl,
    filter, defaulted_again readText_readsBack rfl hfilter rfl, rfl⟩

theorem MetricCardProperties.read_again {p : MetricCardProperties} (h : MetricCardProperties.read fields = .accepted p)
    (hwritten : (metricCard p).toJson = .object written) : MetricCardProperties.read written = .accepted p := by
  cases hwritten
  simp only [MetricCardProperties.read, ↓seq_accepted_iff, ↓exists_seq_accepted, ↓exists_map_accepted] at h ⊢
  obtain ⟨label, hlabel, format, hformat, trend, htrend, spark, hspark, rfl⟩ := h
  exact ⟨label, defaulted_again readText_readsBack rfl hlabel rfl,
    format, defaulted_again readChoice_readsBack rfl hformat rfl,
    trend, defaulted_again readFlag_readsBack rfl htrend rfl,
    spark, defaulted_again readFlag_readsBack rfl hspark rfl, rfl⟩

end Again

/-! ## Defaults written out -/

namespace Properties

/-- Properties with each key once, in which no field of the kind has another than its main spelling. -/
structure MainSpelled (kind : WidgetKind) (fields : Fields) : Prop where
  distinct : (fields.map Prod.fst).Nodup
  main : ∀ f ∈ fieldNames kind, ∀ other ∈ f.others, Json.lookup other fields = none

variable {α : Type} {kind : WidgetKind} {upper lower : Fields} {f : FieldName}

theorem MainSpelled.field (h : MainSpelled kind upper) (hf : f ∈ fieldNames kind) {read : Json → Checked α}
    {default : α} (hwritten : (Json.lookup f.main lower).isSome)
    (hread : defaulted lower f default read = .accepted default) :
    defaulted (layOver upper lower) f default read = defaulted upper f default read := by
  rw [defaulted_layOver h.distinct (h.main f hf) hwritten hread fun _ _ _ => rfl]
  cases defaulted upper f default read <;> rfl

theorem MainSpelled.bound (h : MainSpelled kind upper) (hf : f ∈ fieldNames kind) {n : Int}
    (hwritten : Json.lookup f.main lower = some (.number (asDouble (.int n)))) :
    defaulted (layOver upper lower) f (.int n) readBound = (defaulted upper f (.int n) readBound).map asDouble :=
  defaulted_layOver h.distinct (h.main f hf) (hwritten ▸ rfl) (defaulted_of_lookup hwritten rfl)
    fun _ _ => asDouble_of_readBound

/-- A record that is checked after its fields were read keeps its conversion if the check does. -/
theorem andThen_convert (convert : α → α) {x y : Checked α} {check : α → Checked α} {wrap : α → Properties}
    (hfields : x = y.map convert) (hcheck : ∀ a, y = .accepted a → check (convert a) = (check a).map convert)
    (hwrap : ∀ a, boundsAsDoubles (wrap a) = wrap (convert a)) :
    (x.andThen check).map wrap = ((y.andThen check).map wrap).map boundsAsDoubles := by
  subst hfields
  cases y with
  | rejected ps => rfl
  | accepted a =>
    have hchecked : (accepted (convert a)).andThen check = (check a).map convert := hcheck a rfl
    rw [map, hchecked]
    change _ = ((check a).map wrap).map boundsAsDoubles
    cases check a with
    | rejected ps => rfl
    | accepted b => exact congrArg accepted (hwrap b).symm

theorem map_boundsAsDoubles {x y : Checked α} {wrap : α → Properties} (hfields : x = y)
    (hwrap : ∀ a, boundsAsDoubles (wrap a) = wrap a) : x.map wrap = (y.map wrap).map boundsAsDoubles := by
  subst hfields
  cases x with
  | accepted a => exact congrArg accepted (hwrap a).symm
  | rejected ps => rfl

theorem defaultProperties_gauge :
    WidgetKind.gauge.defaultProperties =
      .accepted (boundsAsDoubles (gauge ⟨.int 0, .int 100, true, "%"⟩)).toJson := by
  have hread : GaugeProperties.read [] = .accepted ⟨.int 0, .int 100, true, "%"⟩ := by
    rw [GaugeProperties.read, andThen_accepted_iff]
    exact ⟨⟨.int 0, .int 100, true, "%"⟩, rfl, checkRange_default _⟩
  rw [WidgetKind.defaultProperties, read, hread]
  rfl

theorem defaultProperties_progressBar :
    WidgetKind.progressBar.defaultProperties =
      .accepted (boundsAsDoubles (progressBar ⟨true, .blue, false, .int 0, .int 100⟩)).toJson := by
  have hread : ProgressBarProperties.read [] = .accepted ⟨true, .blue, false, .int 0, .int 100⟩ := by
    rw [ProgressBarProperties.read, andThen_accepted_iff]
    exact ⟨⟨true, .blue, false, .int 0, .int 100⟩, rfl, checkRange_default _⟩
  rw [WidgetKind.defaultProperties, read, hread]
  rfl

/-- Over the written defaults every mapping is read as on its own, with the bounds as doubles. -/
theorem read_layOver (kind : WidgetKind) :
    ∃ defaults, kind.defaultProperties = .accepted (.object defaults) ∧
      ∀ fields, MainSpelled kind fields →
        read kind (layOver fields defaults) = (read kind fields).map boundsAsDoubles := by
  cases kind with
  | text =>
    refine ⟨_, rfl, fun fields h => map_boundsAsDoubles ?_ fun _ => rfl⟩
    refine congrArg₂ apply (congrArg₂ apply (congrArg (map _) ?_) ?_) ?_ <;>
      exact h.field (by simp [fieldNames]) rfl rfl
  | lineChart =>
    refine ⟨_, rfl, fun fields h => map_boundsAsDoubles ?_ fun _ => rfl⟩
    refine congrArg₂ apply (congrArg₂ apply (congrArg₂ apply (congrArg₂ apply (congrArg (map _) ?_) ?_) ?_) ?_) ?_ <;>
      exact h.field (by simp [fieldNames]) rfl rfl
  | barChart =>
    refine ⟨_, rfl, fun fields h => map_boundsAsDoubles ?_ fun _ => rfl⟩
    refine congrArg₂ apply (congrArg₂ apply (congrArg₂ apply (congrArg (map _) ?_) ?_) ?_) ?_ <;>
      exact h.field (by simp [fieldNames]) rfl rfl
  | table =>
    refine ⟨_, rfl, fun fields h => map_boundsAsDoubles ?_ fun _ => rfl⟩
    refine congrArg₂ apply (congrArg₂ apply (congrArg₂ apply (congrArg (map _) ?_) ?_) ?_) ?_ <;>
      exact h.field (by simp [fieldNames]) rfl rfl
  | progressBar =>
    refine ⟨_, defaultProperties_progressBar, fun fields h =>
      andThen_convert ProgressBarProperties.inDoubles ?_ (fun p hp => ?_) fun _ => rfl⟩
    · refine .trans (congrArg₂ apply (congrArg₂ apply (congrArg₂ apply (congrArg₂ apply (congrArg (map _) ?_)
        ?_) ?_) ?_) ?_) (ProgressBarProperties.map_inDoubles _ _ _ _ _)
      · exact h.field (by simp [fieldNames]) rfl rfl
      · exact h.field (by simp [fieldNames]) rfl rfl
      · exact h.field (by simp [fieldNames]) rfl rfl
      · exact h.bound (by simp [fieldNames]) rfl
      · exact h.bound (by simp [fieldNames]) rfl
    · simp only [functorMap_eq, seq_eq, apply_accepted_iff, map_accepted_iff] at hp
      obtain ⟨_, ⟨_, ⟨_, ⟨_, ⟨_, -, rfl⟩, _, -, rfl⟩, _, -, rfl⟩, least, hleast, rfl⟩, greatest, hgreatest, rfl⟩ := hp
      exact checkRange_map (held_of_defaulted (by decide) hleast) (held_of_defaulted (by decide) hgreatest) _ _
  | sparkline =>
    refine ⟨_, rfl, fun fields h => map_boundsAsDoubles ?_ fun _ => rfl⟩
    refine congrArg₂ apply (congrArg₂ apply (congrArg (map _) ?_) ?_) ?_ <;>
      exact h.field (by simp [fieldNames]) rfl rfl
  | gauge =>
    refine ⟨_, defaultProperties_gauge, fun fields h =>
      andThen_convert GaugeProperties.inDoubles ?_ (fun p hp => ?_) fun _ => rfl⟩
    · refine .trans (congrArg₂ apply (congrArg₂ apply (congrArg₂ apply (congrArg (map _) ?_) ?_) ?_) ?_)
        (GaugeProperties.map_inDoubles _ _ _ _)
      · exact h.bound (by simp [fieldNames]) rfl
      · exact h.bound (by simp [fieldNames]) rfl
      · exact h.field (by simp [fieldNames]) rfl rfl
      · exact h.field (by simp [fieldNames]) rfl rfl
    · simp only [functorMap_eq, seq_eq, apply_accepted_iff, map_accepted_iff] at hp
      obtain ⟨_, ⟨_, ⟨_, ⟨least, hleast, rfl⟩, greatest, hgreatest, rfl⟩, _, -, rfl⟩, _, -, rfl⟩ := hp
      exact checkRange_map (held_of_defaulted (by decide) hleast) (held_of_defaulted (by decide) hgreatest) _ _
  | logViewer =>
    refine ⟨_, rfl, fun fields h => map_boundsAsDoubles ?_ fun _ => rfl⟩
    refine congrArg₂ apply (congrArg₂ apply (congrArg₂ apply (congrArg (map _) ?_) ?_) ?_) ?_ <;>
      exact h.field (by simp [fieldNames]) rfl rfl
  | metricCard =>
    refine ⟨_, rfl, fun fields h => map_boundsAsDoubles ?_ fun _ => rfl⟩
    refine congrArg₂ apply (congrArg₂ apply (congrArg₂ apply (congrArg (map _) ?_) ?_) ?_) ?_ <;>
      exact h.field (by simp [fieldNames]) rfl rfl

/-- Properties are dumped as an object. -/
theorem exists_toJson (p : Properties) : ∃ dump, p.toJson = .object dump := by
  cases p <;> exact ⟨_, rfl⟩

/-- A record without bounds, which comes out of its own dump. -/
theorem read_toJson_of_again {wrap : α → Properties} {record : Fields → Checked α} {fields : Fields} {p q : Properties}
    (hagain : ∀ r written, record fields = .accepted r → (wrap r).toJson = .object written →
      record written = .accepted r) (hwrap : ∀ r, boundsAsDoubles (wrap r) = wrap r)
    (hp : (record fields).map wrap = .accepted p) (hq : q = p ∨ q = boundsAsDoubles p) :
    ∃ dump, q.toJson = .object dump ∧ (record dump).map wrap = .accepted (boundsAsDoubles p) := by
  obtain ⟨r, hr, rfl⟩ := map_accepted_iff.1 hp
  rw [hwrap, or_self] at hq
  subst hq
  obtain ⟨dump, hwritten⟩ := exists_toJson (wrap r)
  rw [hwrap]
  exact ⟨dump, hwritten, map_accepted_iff.2 ⟨r, hagain r dump hr hwritten, rfl⟩⟩

theorem read_toJson {kind : WidgetKind} {fields : Fields} {p q : Properties} (hp : read kind fields = .accepted p)
    (hq : q = p ∨ q = boundsAsDoubles p) :
    ∃ dump, q.toJson = .object dump ∧ read kind dump = .accepted (boundsAsDoubles p) := by
  cases kind with
  | text =>
    exact read_toJson_of_again (fun _ _ => TextProperties.read_again) (fun _ => rfl) hp hq
  | lineChart =>
    exact read_toJson_of_again (fun _ _ => LineChartProperties.read_again) (fun _ => rfl) hp hq
  | barChart =>
    exact read_toJson_of_again (fun _ _ => BarChartProperties.read_again) (fun _ => rfl) hp hq
  | table =>
    exact read_toJson_of_again (fun _ _ => TableProperties.read_again) (fun _ => rfl) hp hq
  | progressBar =>
    obtain ⟨r, hr, rfl⟩ := map_accepted_iff.1 hp
    obtain ⟨dump, hdump⟩ := exists_toJson q
    exact ⟨dump, hdump, map_accepted_iff.2 ⟨r.inDoubles, ProgressBarProperties.read_again hr hq hdump, rfl⟩⟩
  | sparkline =>
    exact read_toJson_of_again (fun _ _ => SparklineProperties.read_again) (fun _ => rfl) hp hq
  | gauge =>
    obtain ⟨r, hr, rfl⟩ := map_accepted_iff.1 hp
    obtain ⟨dump, hdump⟩ := exists_toJson q
    exact ⟨dump, hdump, map_accepted_iff.2 ⟨r.inDoubles, GaugeProperties.read_again hr hq hdump, rfl⟩⟩
  | logViewer =>
    exact read_toJson_of_again (fun _ _ => LogViewerProperties.read_again) (fun _ => rfl) hp hq
  | metricCard =>
    exact read_toJson_of_again (fun _ _ => MetricCardProperties.read_again) (fun _ => rfl) hp hq

/-- The same record, where bounds count by their values; nan is the same as itself. -/
inductive Same : Properties → Properties → Prop where
  | refl (p : Properties) : Same p p
  | progressBar (p : ProgressBarProperties) {least greatest : Number} (hleast : least.place? = p.min.place?)
      (hgreatest : greatest.place? = p.max.place?) :
      Same (.progressBar p) (.progressBar { p with min := least, max := greatest })
  | gauge (p : GaugeProperties) {least greatest : Number} (hleast : least.place? = p.min.place?)
      (hgreatest : greatest.place? = p.max.place?) :
      Same (.gauge p) (.gauge { p with min := least, max := greatest })

theorem same_boundsAsDoubles {kind : WidgetKind} {fields : Fields} {p : Properties}
    (hp : read kind fields = .accepted p) : p.Same (boundsAsDoubles p) := by
  cases kind with
  | progressBar =>
    obtain ⟨least, greatest, hrange, -, hleast, hgreatest⟩ := range_of_accepted (.inr rfl) hp
    obtain ⟨r, -, rfl⟩ := map_accepted_iff.1 hp
    obtain ⟨rfl, rfl⟩ := Prod.mk.inj (Option.some.inj hrange)
    exact .progressBar r hleast.asDouble hgreatest.asDouble
  | gauge =>
    obtain ⟨least, greatest, hrange, -, hleast, hgreatest⟩ := range_of_accepted (.inl rfl) hp
    obtain ⟨r, -, rfl⟩ := map_accepted_iff.1 hp
    obtain ⟨rfl, rfl⟩ := Prod.mk.inj (Option.some.inj hrange)
    exact .gauge r hleast.asDouble hgreatest.asDouble
  | _ =>
    obtain ⟨r, -, rfl⟩ := map_accepted_iff.1 hp
    exact .refl _

/-- **Properties mean the same over the written defaults, and the dump of their record is that record.** Laying a
mapping over the defaults leaves its problems as they are and its record too, but for the form of the bounds; the same
record comes out of its own dump, whether the dump has the bounds as they are or as doubles. -/
theorem read_canonical (kind : WidgetKind) :
    (∃ defaults, kind.defaultProperties = .accepted (.object defaults) ∧
      ∀ fields, MainSpelled kind fields →
        read kind (layOver fields defaults) = (read kind fields).map boundsAsDoubles) ∧
    ∀ fields p, read kind fields = .accepted p → p.Same (boundsAsDoubles p) ∧
      ∀ q, q = p ∨ q = boundsAsDoubles p →
        ∃ dump, q.toJson = .object dump ∧ read kind dump = .accepted (boundsAsDoubles p) :=
  ⟨read_layOver kind, fun _ _ hp => ⟨same_boundsAsDoubles hp, fun _ hq => read_toJson hp hq⟩⟩

/-- A gauge that is given its least value only, and a key of its own. -/
theorem read_canonical_gauge :
    ∃ p : Properties,
      read .gauge [("min", .ofInt 5), ("note", .null)] = .accepted p ∧ p.Same (boundsAsDoubles p) ∧
      (∃ defaults, WidgetKind.gauge.defaultProperties = .accepted (.object defaults) ∧
        read .gauge (layOver [("min", .ofInt 5), ("note", .null)] defaults) = .accepted (boundsAsDoubles p)) ∧
      ∃ dump, p.toJson = .object dump ∧ read .gauge dump = .accepted (boundsAsDoubles p) := by
  obtain ⟨⟨defaults, hdefaults, hover⟩, hrest⟩ := read_canonical .gauge
  have hfive : readBound (.ofInt 5) = .accepted (.double (.ofInt 5)) :=
    readBound_asDouble fun _ hi => Number.int.inj hi ▸ by decide
  have hrange : (Number.int 100).le (.double (.ofInt 5)) = false := by decide +kernel
  have hread : read .gauge [("min", .ofInt 5), ("note", .null)] =
      .accepted (gauge ⟨.double (.ofInt 5), .int 100, true, "%"⟩) := by
    refine map_accepted_iff.2 ⟨_, andThen_accepted_iff.2 ⟨⟨.double (.ofInt 5), .int 100, true, "%"⟩, ?_, ?_⟩, rfl⟩
    · simp only [↓seq_accepted_iff, ↓exists_seq_accepted, ↓exists_map_accepted]
      exact ⟨_, defaulted_of_lookup rfl hfive, _, rfl, _, rfl, _, rfl, rfl⟩
    · exact if_neg (by rw [hrange]; decide)
  have hmain : MainSpelled .gauge [("min", .ofInt 5), ("note", .null)] :=
    ⟨by decide, by simp [fieldNames, Json.lookup]⟩
  obtain ⟨hsame, hdump⟩ := hrest _ _ hread
  exact ⟨_, hread, hsame, ⟨defaults, hdefaults, by rw [hover _ hmain, hread]; rfl⟩, hdump _ (.inl rfl)⟩

end Properties

end DashboardCompiler
