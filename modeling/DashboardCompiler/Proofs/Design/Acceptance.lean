import DashboardCompiler.Design.Validation
import DashboardCompiler.Proofs.Schema.Readers
import Mathlib.Data.List.Basic

/-!
# What validation accepts and what it reports

`Design.WellFormed` says without any running state when the parts of a design fit together, and
`Design.report` lists the expected texts by position: a widget is a repetition when its id stands before
it, whatever was seen before. `Design.check` runs four passes, two of them with a growing list of ids; the
theorems say that it accepts exactly the well-formed designs and reports exactly those texts.

Which property bags fit a record is `Properties.read`; nothing here looks into it beyond that a bag that is
refused has a problem to show.
-/

namespace DashboardCompiler

open Schema Checked

/-! ## Property records explain what they refuse -/

theorem readBound_explained (v : Json) : (readBound v).Explained :=
  explained_map (readDouble_explained v)

theorem checkRange_explained {α : Type} (least greatest : Number) (record : α) :
    (checkRange least greatest record).Explained := by
  unfold checkRange
  split
  · exact explained_fail _
  · exact explained_accepted record

theorem Properties.read_explained (kind : WidgetKind) (fields : Fields) :
    (Properties.read kind fields).Explained := by
  -- Every record is put together from field readers by the same few combinators.
  cases kind <;>
    simp only [Properties.read, TextProperties.read, LineChartProperties.read,
      BarChartProperties.read, TableProperties.read, ProgressBarProperties.read,
      SparklineProperties.read, GaugeProperties.read, LogViewerProperties.read,
      MetricCardProperties.read, functorMap_eq, seq_eq] <;>
    apply_rules [explained_map, explained_apply, explained_andThen, defaulted_explained,
      readText_explained, readFlag_explained, readChoice_explained, readInteger_explained,
      readBound_explained]
  · intro p
    exact checkRange_explained _ _ p
  · intro p
    exact checkRange_explained _ _ p

/-! ## The conditions and the expected texts -/

/-- The type is one of the nine, and the properties fit the record of that type. -/
def Widget.Fits (w : Widget) : Prop :=
  ∃ kind : WidgetKind, w.type = Named.name kind ∧ ∃ p, Properties.read kind w.properties = .accepted p

namespace Design

/-- The parts of a design fit together. -/
structure WellFormed (d : Design) : Prop where
  types : ∀ w ∈ d.widgets, w.Fits
  widgetIds : (d.widgets.map (·.id)).Nodup
  sourceIds : (d.dataSources.map (·.id)).Nodup
  references : ∀ w ∈ d.widgets, ∀ id, w.dataSource = some id → ∃ s ∈ d.dataSources, s.id = id

/-- The ids that stand at an earlier position as well, in their order. -/
def repetitions (ids : List String) : List String :=
  ids.zipIdx.filterMap fun (id, i) => if id ∈ ids.take i then some id else none

/-- The texts about the type and the properties of the widget at a position. -/
def typeReport (w : Widget) (i : Nat) : List String :=
  match w.kind? with
  | none =>
    ["widgets." ++ toString i ++ ".type: Widget type '" ++ w.type ++
      "' is not supported (expected one of: " ++
      "text, line_chart, bar_chart, table, progress_bar, sparkline, gauge, log_viewer, metric_card" ++ ")"]
  | some kind =>
    (Properties.read kind w.properties).problems.map fun p =>
      "widgets." ++ toString i ++ ".properties" ++ String.join (p.path.map ("." ++ ·)) ++ ": " ++
        p.cause.message

/-- The text about the data source that a widget names, if no such source is declared. -/
def referenceReport (d : Design) (w : Widget) : Option String :=
  match w.dataSource with
  | none => none
  | some id =>
    if id ∈ d.dataSources.map (·.id) then none
    else some ("Widget " ++ w.id ++ " references unknown data source '" ++ id ++ "'")

/-- Everything that is to be reported about a design, in order. -/
def report (d : Design) : List String :=
  (d.widgets.zipIdx.flatMap fun (w, i) => typeReport w i) ++
    (repetitions (d.widgets.map (·.id))).map (fun id => "Duplicate widget id '" ++ id ++ "'") ++
    (repetitions (d.dataSources.map (·.id))).map (fun id => "Duplicate data source id '" ++ id ++ "'") ++
    d.widgets.filterMap d.referenceReport

/-- The result is the design itself if its parts fit together, and else the whole report. -/
structure Judged (d : Design) (result : Except (List DesignFault) Design) : Prop where
  accepted_iff : result = .ok d ↔ d.WellFormed
  reported : ¬ d.WellFormed → ∃ faults, result = .error faults ∧ faults.map (·.message) = d.report

/-! ## The passes against the conditions -/

theorem typeFaults_eq_nil_iff (w : Widget) (i : Nat) : w.typeFaults i = [] ↔ w.Fits := by
  unfold Widget.typeFaults Widget.Fits
  cases hk : w.kind? with
  | none =>
    have hne := Named.ofName?_eq_none_iff.1 hk
    constructor
    · nofun
    · rintro ⟨kind, hw, -⟩
      exact absurd hw.symm (hne kind)
  | some kind =>
    have hw : Named.name kind = w.type := Named.name_of_ofName? hk
    simp only [List.map_eq_nil_iff]
    rw [problems_eq_nil_iff (Properties.read_explained kind w.properties)]
    constructor
    · intro h
      exact ⟨kind, hw.symm, h⟩
    · rintro ⟨other, ho, h⟩
      obtain rfl := Named.name_injective (hw.trans ho)
      exact h

theorem typeFaultsFrom_eq_nil_iff (k : Nat) (ws : List Widget) :
    typeFaultsFrom k ws = [] ↔ ∀ w ∈ ws, w.Fits := by
  induction ws generalizing k with
  | nil => simp [typeFaultsFrom]
  | cons w ws ih =>
    rw [typeFaultsFrom, List.append_eq_nil_iff, typeFaults_eq_nil_iff, ih, List.forall_mem_cons]

theorem repeated_eq_nil_iff (seen ids : List String) :
    repeated seen ids = [] ↔ ids.Nodup ∧ ∀ id ∈ ids, id ∉ seen := by
  induction ids generalizing seen with
  | nil => simp [repeated]
  | cons id ids ih =>
    by_cases hid : id ∈ seen
    · simp [repeated, hid]
    · have hstep : repeated seen (id :: ids) = repeated (id :: seen) ids := by simp [repeated, hid]
      rw [hstep, ih, List.nodup_cons, List.forall_mem_cons]
      simp only [List.mem_cons, not_or]
      constructor
      · rintro ⟨hnodup, hfresh⟩
        exact ⟨⟨fun hmem => (hfresh id hmem).1 rfl, hnodup⟩, hid, fun other h => (hfresh other h).2⟩
      · rintro ⟨⟨hnot, hnodup⟩, -, hfresh⟩
        refine ⟨hnodup, fun other h => ⟨?_, hfresh other h⟩⟩
        rintro rfl
        exact hnot h

theorem idFaults_eq_nil_iff (d : Design) :
    d.idFaults = [] ↔ (d.widgets.map (·.id)).Nodup ∧ (d.dataSources.map (·.id)).Nodup := by
  rw [idFaults, List.append_eq_nil_iff, List.map_eq_nil_iff, List.map_eq_nil_iff,
    repeated_eq_nil_iff, repeated_eq_nil_iff]
  simp

theorem referenceFault?_eq_none_iff (d : Design) (w : Widget) :
    d.referenceFault? w = none ↔ ∀ id, w.dataSource = some id → ∃ s ∈ d.dataSources, s.id = id := by
  unfold referenceFault?
  cases w.dataSource with
  | none => simp
  | some id => simp

theorem faults_eq_nil_iff (d : Design) : d.faults = [] ↔ d.WellFormed := by
  rw [faults, List.append_eq_nil_iff, List.append_eq_nil_iff, typeFaults,
    typeFaultsFrom_eq_nil_iff, idFaults_eq_nil_iff, referenceFaults, List.filterMap_eq_nil_iff]
  simp only [referenceFault?_eq_none_iff]
  constructor
  · rintro ⟨⟨htypes, hwidgets, hsources⟩, hrefs⟩
    exact ⟨htypes, hwidgets, hsources, hrefs⟩
  · rintro ⟨htypes, hwidgets, hsources, hrefs⟩
    exact ⟨⟨htypes, hwidgets, hsources⟩, hrefs⟩

/-- A document is accepted when its schema reads a design whose parts fit together. -/
theorem validate_ok_iff {document : Json} {d : Design} :
    validate document = .ok d ↔ Design.read document = .accepted d ∧ d.WellFormed := by
  unfold validate
  cases Design.read document with
  | rejected problems => simp
  | accepted other =>
    rw [accepted.injEq, ← faults_eq_nil_iff]
    simp only [check, List.isEmpty_iff]
    by_cases hfaults : other.faults = []
    · rw [if_pos hfaults, Except.ok.injEq]
      constructor
      · rintro rfl
        exact ⟨rfl, hfaults⟩
      · exact And.left
    · rw [if_neg hfaults]
      constructor
      · nofun
      · rintro ⟨rfl, hnone⟩
        exact absurd hnone hfaults

/-! ## The passes against the report -/

theorem supportedTypes :
    Text.joinWith ", " (Named.names WidgetKind) =
      "text, line_chart, bar_chart, table, progress_bar, sparkline, gauge, log_viewer, metric_card" := by
  decide

/-- A problem of the properties is shown under the position of its widget, with or without a field. -/
theorem misfit_message (p : Problem) (i : Nat) :
    (DesignFault.misfit (p.under ["widgets", toString i, "properties"])).message =
      "widgets." ++ toString i ++ ".properties" ++ String.join (p.path.map ("." ++ ·)) ++ ": " ++
        p.cause.message := by
  have hjoin : Text.joinWith "." ("widgets" :: toString i :: "properties" :: p.path) =
      "widgets." ++ toString i ++ ".properties" ++ String.join (p.path.map ("." ++ ·)) := by
    have hhead : "widgets" ++ "." = "widgets." := by decide
    have hlast : "." ++ "properties" = ".properties" := by decide
    rw [Text.joinWith_cons, List.map_cons, List.map_cons, String.join_cons, String.join_cons, hlast,
      ← hhead]
    simp only [String.append_assoc]
  have hmessage : (DesignFault.misfit (p.under ["widgets", toString i, "properties"])).message =
      Text.joinWith "." ("widgets" :: toString i :: "properties" :: p.path) ++ ": " ++ p.cause.message := rfl
  rw [hmessage, hjoin]

theorem typeFaults_message (w : Widget) (i : Nat) :
    (w.typeFaults i).map (·.message) = typeReport w i := by
  unfold Widget.typeFaults typeReport
  cases w.kind? with
  | none =>
    have hmessage : (DesignFault.unknownType i w.type).message = "widgets." ++ toString i ++
        ".type: Widget type '" ++ w.type ++ "' is not supported (expected one of: " ++
        Text.joinWith ", " (Named.names WidgetKind) ++ ")" := rfl
    simp only [List.map_cons, List.map_nil, hmessage, supportedTypes]
  | some kind =>
    simp only [List.map_map]
    exact List.map_congr_left fun p _ => misfit_message p i

theorem typeFaultsFrom_message (k : Nat) (ws : List Widget) :
    (typeFaultsFrom k ws).map (·.message) = (ws.zipIdx k).flatMap fun (w, i) => typeReport w i := by
  induction ws generalizing k with
  | nil => rfl
  | cons w ws ih =>
    rw [typeFaultsFrom, List.map_append, typeFaults_message, ih, List.zipIdx_cons, List.flatMap_cons]

/-- A growing list of ids that were seen finds the same repetitions as a look back at each position. -/
theorem repeated_eq (before seen ids : List String) (h : ∀ id, id ∈ seen ↔ id ∈ before) :
    repeated seen ids = (ids.zipIdx before.length).filterMap fun (id, i) =>
      if id ∈ (before ++ ids).take i then some id else none := by
  induction ids generalizing before seen with
  | nil => rfl
  | cons id ids ih =>
    have htake : (before ++ id :: ids).take before.length = before := List.take_left' rfl
    have hmore : before ++ id :: ids = (before ++ [id]) ++ ids := by simp
    rw [List.zipIdx_cons, List.filterMap_cons]
    dsimp only
    rw [htake]
    have hcontains : seen.contains id = true ↔ id ∈ before := by rw [List.contains_iff_mem, h id]
    by_cases hid : id ∈ before
    · have hnext : ∀ other, other ∈ seen ↔ other ∈ before ++ [id] := by
        intro other
        rw [h other, List.mem_append, List.mem_singleton, iff_self_or]
        rintro rfl
        exact hid
      have hrest := ih (before ++ [id]) seen hnext
      rw [List.length_append, List.length_singleton, ← hmore] at hrest
      rw [if_pos hid, repeated, if_pos (hcontains.2 hid), hrest]
    · have hnext : ∀ other, other ∈ id :: seen ↔ other ∈ before ++ [id] := by
        intro other
        rw [List.mem_cons, h other, List.mem_append, List.mem_singleton, or_comm]
      have hrest := ih (before ++ [id]) (id :: seen) hnext
      rw [List.length_append, List.length_singleton, ← hmore] at hrest
      rw [if_neg hid, repeated, if_neg (fun hc => hid (hcontains.1 hc)), hrest]

theorem repeated_nil_eq (ids : List String) : repeated [] ids = repetitions ids :=
  repeated_eq [] [] ids fun _ => Iff.rfl

theorem referenceFault?_message (d : Design) (w : Widget) :
    (d.referenceFault? w).map (·.message) = d.referenceReport w := by
  unfold referenceFault? referenceReport
  cases w.dataSource with
  | none => rfl
  | some id =>
    by_cases hid : id ∈ d.dataSources.map (·.id)
    · have hany : (d.dataSources.any fun s => s.id = id) = true := by simpa using hid
      simp only [hid, hany, ↓reduceIte, Option.map_none]
    · have hany : ¬ (d.dataSources.any fun s => s.id = id) = true := by simpa using hid
      simp only [hid, hany, ↓reduceIte]
      rfl

theorem faults_message (d : Design) : d.faults.map (·.message) = d.report := by
  rw [faults, List.map_append, List.map_append, typeFaults, typeFaultsFrom_message, idFaults,
    List.map_append, List.map_map, List.map_map, referenceFaults, List.map_filterMap, report,
    repeated_nil_eq, repeated_nil_eq]
  simp only [referenceFault?_message, List.append_assoc]
  rfl

theorem judged_check (d : Design) : d.Judged d.check := by
  by_cases hd : d.faults = []
  · have hcheck : d.check = .ok d := by simp [check, hd]
    have hwell := d.faults_eq_nil_iff.1 hd
    exact ⟨⟨fun _ => hwell, fun _ => hcheck⟩, fun hnot => absurd hwell hnot⟩
  · have hcheck : d.check = .error d.faults := by simp [check, hd]
    have hbad : ¬ d.WellFormed := fun hwell => hd (d.faults_eq_nil_iff.2 hwell)
    refine ⟨⟨fun h => ?_, fun hwell => absurd hwell hbad⟩, fun _ => ⟨d.faults, hcheck, faults_message d⟩⟩
    rw [hcheck] at h
    cases h

/-- **A design is returned exactly if its parts fit together**, and else the whole report is given. A
document is judged as the design that its schema reads; without one, the problems of the schema are all
that is reported. -/
theorem validation_exact :
    (∀ d : Design, d.Judged d.check) ∧
    ∀ document : Json,
      match Design.read document with
      | .accepted d => d.Judged (validate document)
      | .rejected problems => ∃ faults, validate document = .error faults ∧
          faults.map (·.message) = problems.map (·.message) := by
  refine ⟨judged_check, fun document => ?_⟩
  cases h : Design.read document with
  | accepted d =>
    have hvalidate : validate document = d.check := by simp only [validate, h]
    rw [hvalidate]
    exact judged_check d
  | rejected problems =>
    refine ⟨problems.map .misfit, by simp only [validate, h], ?_⟩
    rw [List.map_map]
    rfl

end Design

end DashboardCompiler
