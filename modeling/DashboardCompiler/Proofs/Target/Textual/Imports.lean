import DashboardCompiler.Proofs.Generation.Layout
import DashboardCompiler.Proofs.Target.Textual.Links

/-!
# The imports of Textual programs

The widgets of a program show the texts of the design, each as a literal at the end of a line. The scan for modules
empties literals, so it does not see what the texts say. The search for the call of the clock reads the file as it
stands: it finds the call in a widget if it is in what the widget has without its texts, or in one of the literals.
-/

namespace DashboardCompiler

/-! ## Texts -/

/-- The texts that a widget shows beside its title. -/
def WidgetState.texts : WidgetState → List String
  | .text p => [p.content]
  | .lineChart p _ _ => [p.xLabel, p.yLabel]
  | .gauge p _ => [p.units]
  | .logViewer p _ => [p.filter]
  | .metricCard p _ _ _ => [p.label]
  | _ => []

/-- The texts that a widget shows. -/
def Behavior.texts (b : Behavior) : List String := b.widget.displayTitle :: b.state.texts

namespace Textual

open Code Text

/-- What calls for the import of the clock. -/
def clockCall : String := "datetime.now"

/-- Whether a text has the call of the clock in its literal. -/
def TellsTime (s : String) : Prop := Has (text s) clockCall

instance (s : String) : Decidable (TellsTime s) := inferInstanceAs (Decidable (Has _ _))

theorem oneLine_clockCall : OneLine clockCall := by decide

theorem clockCall_ne_empty : clockCall ≠ "" := by decide

/-- No text that a widget shows by default tells the time. -/
theorem not_tellsTime_default : ∀ s ∈ ["Text content", "Time", "Value", "%", "", "Metric"], ¬ TellsTime s := by
  decide +kernel

/-- Nor does the title that a widget has by its kind. -/
theorem not_tellsTime_kind (kind : WidgetKind) : ¬ TellsTime (Unicode.title (replaceAll (Named.name kind) "_" " ")) := by
  cases kind <;> decide +kernel

/-! ## Lines that show texts -/

/-- Whether a fixed text may stand before a literal: it has no quote, no bracket and no call of the clock. -/
def isOpening (before : List Char) : Bool :=
  before.all isPlain && !before.contains '(' && !occursIn clockCall.toList before

/-- Lines beside the same lines with other texts, of which none tells the time, and the texts of the former. -/
inductive Shows : List String → List String → List String → Prop
  | nil : Shows [] [] []
  | same {line : String} {xs ys ts : List String} (h : Shows xs ys ts) : Shows (line :: xs) (line :: ys) ts
  | shown {before : List Char} {s t : String} {xs ys ts : List String} (hbefore : isOpening before = true)
    (ht : ¬ TellsTime t) (h : Shows xs ys ts) :
    Shows ((String.ofList before ++ text s) :: xs) ((String.ofList before ++ text t) :: ys) (s :: ts)

theorem isOpening_iff {before : List Char} : isOpening before = true ↔
    Plain (String.ofList before) ∧ '(' ∉ before ∧ ¬ Has (String.ofList before) clockCall := by
  have hfound : occursIn clockCall.toList before = true ↔ Has (String.ofList before) clockCall := by
    rw [occursIn_iff, Has, String.toList_ofList]
  simp only [isOpening, Bool.and_eq_true, Bool.not_eq_true', ← Bool.not_eq_true, hfound, List.contains_iff_mem, Plain,
    String.toList_ofList, List.all_eq_true, and_assoc]

theorem has_indented (s : String) : Has (String.ofList (List.replicate 8 ' ') ++ s) clockCall ↔ Has s clockCall :=
  has_prepend (List.forall_mem_replicate.2 (.inr (by decide))) s

theorem isOpening_indent {before : List Char} (h : isOpening before = true) :
    isOpening (List.replicate 8 ' ' ++ before) = true := by
  have hindent : Plain (String.ofList (List.replicate 8 ' ')) := plain_ofList (by decide)
  obtain ⟨hplain, hopen, hnone⟩ := isOpening_iff.1 h
  rw [isOpening_iff, String.ofList_append, has_indented, List.mem_append, not_or]
  exact ⟨hindent.append hplain, ⟨by decide, hopen⟩, hnone⟩

theorem has_shown {before : List Char} (hbefore : isOpening before = true) (s : String) :
    Has (String.ofList before ++ text s) clockCall ↔ TellsTime s := by
  have hquotes : '\'' ∉ clockCall.toList ∧ '"' ∉ clockCall.toList := by decide
  exact (has_quoted hquotes (String.ofList before) s).trans (or_iff_right (isOpening_iff.1 hbefore).2.2)

theorem alike_shown {before : List Char} (hbefore : isOpening before = true) (s t : String) :
    Alike (String.ofList before ++ text s) (String.ofList before ++ text t) := by
  obtain ⟨hplain, hopen, -⟩ := isOpening_iff.1 hbefore
  have hend : '(' ∉ (String.ofList before).toList ++ "".toList := by simpa using hopen
  have hquoted := Alike.quoted (quotation_sourceQuoted s) (quotation_sourceQuoted t) hplain plain_empty hend
  rwa [String.append_empty, String.append_empty] at hquoted

theorem bodyLine_shown (before : List Char) (s : String) :
    bodyLine (String.ofList before ++ text s) = String.ofList (List.replicate 8 ' ' ++ before) ++ text s := by
  have hindent : String.ofList (List.replicate 8 ' ') = "        " := by decide
  have hfilled : (String.ofList before ++ text s).isEmpty = false := by
    rw [← Bool.not_eq_true, String.isEmpty_iff, ← String.toList_eq_nil_iff, text, sourceQuoted]
    simp [sourceQuotedChars]
  rw [bodyLine, hfilled, if_neg Bool.false_ne_true, String.ofList_append, hindent, String.append_assoc]

namespace Shows

variable {xs ys ts xs' ys' ts' : List String}

theorem refl (xs : List String) : Shows xs xs [] := by
  induction xs with
  | nil => exact .nil
  | cons line xs ih => exact .same ih

theorem append (h : Shows xs ys ts) (h' : Shows xs' ys' ts') : Shows (xs ++ xs') (ys ++ ys') (ts ++ ts') := by
  induction h with
  | nil => exact h'
  | same _ ih => exact .same ih
  | shown hbefore ht _ ih => exact .shown hbefore ht ih

theorem bodyLines (h : Shows xs ys ts) : Shows (bodyLines xs) (bodyLines ys) ts := by
  rw [bodyLines_eq, bodyLines_eq]
  induction h with
  | nil => exact .nil
  | same _ ih => exact .same ih
  | shown hbefore ht _ ih =>
    rw [List.map_cons, List.map_cons, bodyLine_shown, bodyLine_shown]
    exact .shown (isOpening_indent hbefore) ht ih

/-- The scan for modules does not tell them apart. -/
theorem alikeLines (h : Shows xs ys ts) (htidy : TidyLines xs) : AlikeLines xs ys := by
  induction h with
  | nil => exact .nil
  | same _ ih =>
    obtain ⟨hline, hrest⟩ := List.forall_mem_cons.1 htidy
    exact .cons (.same hline) (ih hrest)
  | shown hbefore _ _ ih => exact .cons (alike_shown hbefore _ _) (ih (List.forall_mem_cons.1 htidy).2)

/-- The search for the call of the clock does. -/
theorem has_iff (h : Shows xs ys ts) : (∃ line ∈ xs, Has line clockCall) ↔
    (∃ line ∈ ys, Has line clockCall) ∨ ∃ s ∈ ts, TellsTime s := by
  induction h with
  | nil => simp
  | same _ ih => rw [List.exists_mem_cons_iff, List.exists_mem_cons_iff, ih, or_assoc]
  | shown hbefore ht _ ih =>
    rw [List.exists_mem_cons_iff, List.exists_mem_cons_iff, List.exists_mem_cons_iff, has_shown hbefore,
      has_shown hbefore, ih, or_iff_right ht]
    exact or_left_comm

end Shows

/-! ## Widgets -/

section Widgets

variable (b : Behavior)

/-- Of what a kind of widget puts into its class only the attributes depend on the texts. -/
theorem exists_partsOf_withoutTexts : ∃ state, partsOf b.withoutTexts = { partsOf b with state := state } := by
  obtain ⟨w, simulate, state⟩ := b
  cases state <;> exact ⟨_, rfl⟩

theorem shows_state : Shows (partsOf b).state (partsOf b.withoutTexts).state b.state.texts := by
  have hdefault := not_tellsTime_default
  simp only [List.forall_mem_cons] at hdefault
  obtain ⟨hcontent, hx, hy, hunits, hfilter, hlabel, -⟩ := hdefault
  obtain ⟨w, simulate, state⟩ := b
  cases state with
  | text p => exact .shown (by decide) hcontent (.refl _)
  | lineChart p labels values =>
    exact .same (.same (.shown (by decide) hx (.shown (by decide) hy (.refl _))))
  | gauge p value => exact .same (.same (.same (.same (.shown (by decide) hunits .nil))))
  | logViewer p seed => exact .same (.same (.same (.shown (by decide) hfilter (.refl _))))
  | metricCard p value previous history => exact .shown (by decide) hlabel (.refl _)
  | _ => exact .refl _

theorem classLines_withoutTexts (comments : Bool) :
    classLines b.withoutTexts comments (partsOf b.withoutTexts) = widgetHead b comments (partsOf b) ++
      (constructorStart b ++ titleLine b.withoutTexts :: commonAttributes b ++
        bodyLines (partsOf b.withoutTexts).state) ++ methodLines b (partsOf b) := by
  obtain ⟨state, hparts⟩ := exists_partsOf_withoutTexts b
  rw [classLines_eq, hparts]
  unfold methodLines
  rw [b.tickMs_withoutTexts]
  rfl

variable {b} {kind : WidgetKind}

theorem shows_classLines (hkind : b.widget.type = Named.name kind) (comments : Bool) :
    Shows (classLines b comments (partsOf b)) (classLines b.withoutTexts comments (partsOf b.withoutTexts)) b.texts := by
  have hplain : ¬ TellsTime b.withoutTexts.widget.displayTitle := by
    have htitle : b.withoutTexts.widget.displayTitle = Unicode.title (replaceAll b.widget.type "_" " ") := rfl
    rw [htitle, hkind]
    exact not_tellsTime_kind kind
  have htitle : Shows (titleLine b :: commonAttributes b) (titleLine b.withoutTexts :: commonAttributes b)
      [b.widget.displayTitle] := .shown (by decide) hplain (.refl _)
  have hlines := ((Shows.refl (widgetHead b comments (partsOf b))).append (((Shows.refl (constructorStart b)).append
    htitle).append (shows_state b).bodyLines)).append (.refl (methodLines b (partsOf b)))
  rw [List.append_nil] at hlines
  rw [classLines_eq, classLines_withoutTexts]
  exact hlines

theorem alike_widget (hkind : b.widget.type = Named.name kind) (o : Options) :
    AlikeTexts (widget b o) (widget b.withoutTexts o) :=
  .joinLines ((shows_classLines hkind o.includeComments).alikeLines (tidy_classLines b _))

theorem has_widget (hkind : b.widget.type = Named.name kind) (o : Options) : Has (widget b o) clockCall ↔
    Has (widget b.withoutTexts o) clockCall ∨ ∃ s ∈ b.texts, TellsTime s := by
  rw [widget, widget, has_joinLines oneLine_clockCall clockCall_ne_empty,
    has_joinLines oneLine_clockCall clockCall_ne_empty]
  exact (shows_classLines hkind o.includeComments).has_iff

end Widgets

/-! ## Shared code -/

theorem tidy_helperConstants : TidyLines helperConstants := by
  iterate 8 refine .cons (tidy_valued (by decide) (piece_source _)) ?_
  refine .cons (tidy_valued (by decide) (plain_toString _).piece) ?_
  refine .cons (tidy_valued (by decide) (plain_toString _).piece) ?_
  exact .cons (tidy_valued (by decide) (plain_toString _).piece) .nil

theorem tidy_helperFunctions : TidyLines helperFunctions := by
  have hflat : Tidy ("        return \"" ++ Display.trendFlat ++ " No change\"") := tidy_ofList_append (by decide)
  have hup : Tidy ("        return f\"" ++ Display.trendUp ++ " +\x7bdiff:.1f\x7d\"") := tidy_ofList_append (by decide)
  have hdown : Tidy ("    return f\"" ++ Display.trendDown ++ " \x7bdiff:.1f\x7d\"") := tidy_ofList_append (by decide)
  apply Spelled.tidyLines_documented
  · repeat' first
      | with_reducible exact hflat
      | with_reducible exact hup
      | with_reducible exact hdown
      | constructor
  · decide +kernel

/-- Lines without the call of the clock, and the characters of the fixed ones among them. -/
inductive Silent : List String → List (List Char) → Prop
  | nil : Silent [] []
  | fixed {cs : List Char} {items : List String} {css : List (List Char)} (h : Silent items css) :
    Silent (String.ofList cs :: items) (cs :: css)
  | made {line : String} {items : List String} {css : List (List Char)} (hline : ¬ Has line clockCall)
    (h : Silent items css) : Silent (line :: items) css

theorem Silent.not_has {items : List String} {css : List (List Char)} (h : Silent items css)
    (hfixed : css.all (!occursIn clockCall.toList ·) = true) : ∀ line ∈ items, ¬ Has line clockCall := by
  induction h with
  | nil => exact List.forall_mem_nil _
  | @fixed cs items css _ ih =>
    rw [List.all_cons, Bool.and_eq_true, Bool.not_eq_true', ← Bool.not_eq_true, occursIn_iff] at hfixed
    refine List.forall_mem_cons.2 ⟨?_, ih hfixed.2⟩
    rw [Has, String.toList_ofList]
    exact hfixed.1
  | made hline _ ih => exact List.forall_mem_cons.2 ⟨hline, ih hfixed⟩

theorem not_has_bodyLines {items : List String} (h : ∀ line ∈ items, ¬ Has line clockCall) :
    ∀ line ∈ bodyLines items, ¬ Has line clockCall := by
  have hindent : "        " = String.ofList (List.replicate 8 ' ') := by decide
  rw [bodyLines_eq]
  refine List.forall_mem_map.2 fun line hline => ?_
  rw [bodyLine]
  split
  · exact not_has_empty clockCall_ne_empty
  · rw [hindent, has_indented]
    exact h line hline

theorem not_has_helpers : ¬ Has helpers clockCall := by
  have hflat : ¬ Has ("        return \"" ++ Display.trendFlat ++ " No change\"") clockCall := by decide +kernel
  have hup : ¬ Has ("        return f\"" ++ Display.trendUp ++ " +\x7bdiff:.1f\x7d\"") clockCall := by decide +kernel
  have hdown : ¬ Has ("    return f\"" ++ Display.trendDown ++ " \x7bdiff:.1f\x7d\"") clockCall := by decide +kernel
  have hconstants : ∀ line ∈ helperConstants, ¬ Has line clockCall := by decide +kernel
  have hfunctions : ∀ line ∈ helperFunctions, ¬ Has line clockCall := by
    apply Silent.not_has
    · repeat' first
        | with_reducible exact hflat
        | with_reducible exact hup
        | with_reducible exact hdown
        | constructor
    · decide +kernel
  rw [helpers, has_joinLines oneLine_clockCall clockCall_ne_empty]
  rintro ⟨line, hline, hhas⟩
  exact (List.mem_append.1 hline).elim (hconstants line) (hfunctions line) hhas

theorem passage_helpers : Passage helpers := (tidy_helperConstants.append tidy_helperFunctions).passage

theorem tidy_constants (comments : Bool) : TidyLines (constants comments) := by
  have hkeys : Piece (joinWith ", " (Display.valueKeys.map text)) :=
    piece_list (List.forall_mem_map.2 fun key _ => piece_source key)
  have hcomment : TidyLines (if comments then ["# Data sources"] else []) :=
    .optional (.cons (tidy_ofList (by decide)) .nil)
  refine hcomment.append (.cons (tidy_ofList (by decide)) (.cons (tidy_ofList (by decide)) ?_))
  refine .cons (tidy_valued (by decide) (plain_toString _).piece) ?_
  refine .cons (tidy_valued (by decide) (plain_toString _).piece) ?_
  exact .cons (tidy_around (by decide) (by decide) (by decide) hkeys) .nil

theorem passage_sourceTable (d : Design) : Passage (sourceTable d) := by
  have hrows : TidyLines (d.referencedSources.map sourceRow) :=
    List.forall_mem_map.2 fun source _ => (piece_sourceRow source).tidy
  have hopening : TidyLines ["DATA_SOURCES = \x7b"] := .cons (tidy_ofList (by decide)) .nil
  exact ((hopening.append hrows).append (.cons (tidy_ofList (by decide)) .nil)).passage

theorem tidy_collector : TidyLines collector := by
  apply Spelled.tidyLines_documented
  · repeat constructor
  · decide +kernel

/-- The documentation of the updater has more than one line, so it is a passage as a whole only. -/
theorem passage_updater : Passage (joinLines updater) := by
  have hbefore : TidyLines (updater.take 11) := by
    apply Spelled.tidyLines_documented
    · repeat constructor
    · decide +kernel
  have hdocumentation : Passage (joinLines ((updater.drop 11).take 7)) := by
    apply passage_documentation
    · repeat constructor
    · exact List.cons_ne_nil _ _
    · decide +kernel
    · decide +kernel
  have hafter : TidyLines (updater.drop 18) := by
    apply Spelled.tidyLines_documented
    · repeat constructor
    · decide +kernel
  have hsplit : updater = updater.take 11 ++ ((updater.drop 11).take 7 ++ updater.drop 18) := rfl
  rw [hsplit]
  exact passage_joinLines_append (List.cons_ne_nil _ _) (List.cons_ne_nil _ _) hbefore.passage
    (passage_joinLines_append (List.cons_ne_nil _ _) (List.cons_ne_nil _ _) hdocumentation hafter.passage)

theorem passage_dataSources (d : Design) (comments : Bool) : Passage (dataSources d comments) := by
  refine passage_sections fun s hs => ?_
  simp only [List.mem_append, List.mem_cons, List.not_mem_nil, or_false] at hs
  obtain ((rfl | rfl) | hs) | rfl := hs
  · exact (tidy_constants comments).passage
  · exact passage_sourceTable d
  · split at hs
    · rw [List.mem_singleton.1 hs]
      exact tidy_collector.passage
    · cases hs
  · exact passage_updater

end Textual

end DashboardCompiler

/-!
## Import blocks

A file that holds widgets begins with a banner, the imports that a scan of the file calls for, and the helpers. What is
imported follows from the modules that the code uses and from whether the call of the clock is found in the file.
-/

namespace DashboardCompiler

open Text Code

/-- Whether a line imports something. -/
def isImport (line : String) : Bool :=
  "import ".toList.isPrefixOf line.toList || "from ".toList.isPrefixOf line.toList

/-- The import block of a Python file: from the first import on all imports, and the blank lines around them. -/
def pythonImportBlock (content : String) : List String :=
  ((lines content).dropWhile fun line => !isImport line).takeWhile fun line => isImport line || line.isEmpty

/-- The block ends where it is known to end, whatever stands above it and below. -/
theorem pythonImportBlock_of_lines {content first below : String} {above block rest : List String}
    (hlines : lines content = above ++ (first :: block ++ below :: rest)) (habove : ∀ line ∈ above, isImport line = false)
    (hfirst : isImport first = true) (hblock : ∀ line ∈ block, isImport line = true ∨ line = "")
    (hbelow : isImport below = false ∧ below ≠ "") : pythonImportBlock content = first :: block := by
  have hkept : ∀ line ∈ first :: block, (isImport line || line.isEmpty) = true := by
    rw [List.forall_mem_cons]
    refine ⟨by rw [hfirst, Bool.true_or], fun line hline => ?_⟩
    rw [Bool.or_eq_true, String.isEmpty_iff]
    exact hblock line hline
  have hended : (isImport below || below.isEmpty) = false := by
    rw [hbelow.1, Bool.false_or, ← Bool.not_eq_true, String.isEmpty_iff]
    exact hbelow.2
  have hskipped : (lines content).dropWhile (fun line => !isImport line) = first :: block ++ below :: rest := by
    rw [hlines, List.dropWhile_append_of_pos fun line hline => by rw [habove line hline]; rfl]
    exact List.dropWhile_cons_of_neg (by simp [hfirst])
  rw [pythonImportBlock, hskipped, List.takeWhile_append_of_pos hkept, List.takeWhile_cons_of_neg (by simp [hended]),
    List.append_nil]

namespace Textual

/-- The import of the clock. -/
def clockImport : String := "from datetime import datetime"

/-- What is imported from the standard library, the clock last. -/
def standardLines (standard : List String) (clock : Bool) : List String :=
  standard.map ("import " ++ ·) ++ if clock then [clockImport] else []

/-- Lines with a blank one after them, unless there are none. -/
def setOff (items : List String) : List String := if items = [] then [] else items ++ [""]

/-- The lines of an import block without local modules. -/
def blockLines (standard foreign toolkit : List String) (clock : Bool) : List String :=
  setOff (standardLines standard clock) ++ (foreign.map ("import " ++ ·) ++ toolkit)

/-- The imports of a block, except that of the clock. -/
def besideClock (block : List String) : List String := block.filter fun line => isImport line && line ≠ clockImport

section Blocks

variable {standard foreign toolkit : List String}

theorem not_isImport_append {c : Char} {cs : List Char} (hc : c ≠ 'i' ∧ c ≠ 'f') (rest : String) :
    isImport (String.ofList (c :: cs) ++ rest) = false := by
  have himport : "import ".toList = ['i', 'm', 'p', 'o', 'r', 't', ' '] := by decide
  have hfrom : "from ".toList = ['f', 'r', 'o', 'm', ' '] := by decide
  simp [isImport, himport, hfrom, List.isPrefixOf, hc.1.symm, hc.2.symm]

theorem isImport_module (name : String) : isImport ("import " ++ name) = true := by
  rw [isImport, String.toList_append, Bool.or_eq_true, List.isPrefixOf_iff_prefix]
  exact .inl (List.prefix_append _ _)

theorem isImport_of_mem_modules {names : List String} {line : String} (h : line ∈ names.map ("import " ++ ·)) :
    isImport line = true := by
  obtain ⟨name, -, rfl⟩ := List.mem_map.1 h
  exact isImport_module name

theorem clockImport_not_mem_modules (names : List String) : clockImport ∉ names.map ("import " ++ ·) := by
  have hfrom : ¬ "import ".toList <+: clockImport.toList := by decide
  intro hmem
  obtain ⟨name, -, hname⟩ := List.mem_map.1 hmem
  exact hfrom ⟨name.toList, by rw [← String.toList_append, hname]⟩

theorem mem_setOff {items : List String} {line : String} : line ∈ setOff items ↔ line ∈ items ∨ items ≠ [] ∧ line = "" := by
  unfold setOff
  split
  · rename_i hempty
    simp [hempty]
  · rename_i hfilled
    simp [hfilled]

/-- The clock is the one thing that a flag decides. -/
theorem clockImport_mem_blockLines (htoolkit : clockImport ∉ toolkit) (clock : Bool) :
    clockImport ∈ blockLines standard foreign toolkit clock ↔ clock = true := by
  have hblank : clockImport ≠ "" := by decide
  have hflag : clockImport ∈ (if clock then [clockImport] else []) ↔ clock = true := by cases clock <;> simp
  simp only [blockLines, List.mem_append, mem_setOff, standardLines, clockImport_not_mem_modules, htoolkit, hblank, hflag,
    false_or, and_false, or_false]

theorem besideClock_append (xs ys : List String) : besideClock (xs ++ ys) = besideClock xs ++ besideClock ys :=
  List.filter_append ..

theorem besideClock_setOff (items : List String) : besideClock (setOff items) = besideClock items := by
  have hblank : besideClock [""] = [] := by decide
  unfold setOff
  split
  · rename_i hempty
    rw [hempty]
  · rw [besideClock_append, hblank, List.append_nil]

theorem besideClock_blockLines (clock : Bool) : besideClock (blockLines standard foreign toolkit clock) =
    besideClock (standard.map ("import " ++ ·)) ++ besideClock (foreign.map ("import " ++ ·) ++ toolkit) := by
  have hclock : besideClock (if clock then [clockImport] else []) = [] := by cases clock <;> decide
  rw [blockLines, besideClock_append, besideClock_setOff, standardLines, besideClock_append, hclock, List.append_nil]

theorem isImport_of_mem_standardLines {clock : Bool} {line : String} (h : line ∈ standardLines standard clock) :
    isImport line = true := by
  have hclock : ∀ line ∈ (if clock then [clockImport] else []), isImport line = true := by cases clock <;> decide
  exact (List.mem_append.1 h).elim isImport_of_mem_modules (hclock line)

theorem mem_blockLines (htoolkit : ∀ line ∈ toolkit, isImport line = true) {clock : Bool} {line : String}
    (hline : line ∈ blockLines standard foreign toolkit clock) : isImport line = true ∨ line = "" := by
  rw [blockLines, List.mem_append, List.mem_append, mem_setOff] at hline
  rcases hline with (hline | ⟨-, hline⟩) | hline | hline
  · exact .inl (isImport_of_mem_standardLines hline)
  · exact .inr hline
  · exact .inl (isImport_of_mem_modules hline)
  · exact .inl (htoolkit line hline)

/-- A block begins with an import. -/
theorem blockLines_eq_cons (htoolkit : ∀ line ∈ toolkit, isImport line = true) (hne : toolkit ≠ []) (clock : Bool) :
    ∃ first rest, blockLines standard foreign toolkit clock = first :: rest ∧ isImport first = true := by
  rw [blockLines, setOff]
  split
  · obtain ⟨first, rest, hrest⟩ := List.exists_cons_of_ne_nil
      (List.append_ne_nil_of_right_ne_nil (foreign.map ("import " ++ ·)) hne)
    have hfirst : first ∈ foreign.map ("import " ++ ·) ++ toolkit := by simp [hrest]
    exact ⟨first, rest, hrest, (List.mem_append.1 hfirst).elim isImport_of_mem_modules (htoolkit first)⟩
  · rename_i hfilled
    obtain ⟨first, rest, hrest⟩ := List.exists_cons_of_ne_nil hfilled
    have hfirst : first ∈ standardLines standard clock := by simp [hrest]
    refine ⟨first, rest ++ [""] ++ (foreign.map ("import " ++ ·) ++ toolkit), ?_, isImport_of_mem_standardLines hfirst⟩
    rw [hrest, List.cons_append, List.cons_append]

end Blocks

/-! ## Files -/

/-- The roles of the files that hold widgets. -/
def HoldsWidgets (role : FileRole) : Prop := role = .single ∨ role = .widgets

/-- What is scanned for the imports of such a file. -/
def scanned (text : String) : String := helpers ++ "\n" ++ text

/-- The import block of such a file, given whether it imports the clock. -/
def fileBlock (s : Scene) (role : FileRole) (text : String) (clock : Bool) : List String :=
  blockLines (usedModules (scanned text) standardModules) (usedModules (scanned text) foreignModules)
    (toolkitImports s role) clock

section Files

variable {s : Scene} {role : FileRole}

/-- What a file with widgets imports from the toolkit, whether or not there are sources. -/
theorem toolkitImports_holds (hrole : HoldsWidgets role) :
    (∀ line ∈ toolkitImports s role, isImport line = true ∧ line ≠ clockImport) ∧
      ClosesLast (toolkitImports s role) := by
  have hclasses : Closes "from textual.widgets import Footer, Header, Static" := closes_ofList rfl (by decide)
  have hclass : Closes "from textual.widgets import Static" := closes_ofList rfl (by decide)
  rcases hrole with rfl | rfl
  · unfold toolkitImports
    cases s.hasDataSources with
    | true => exact ⟨by decide, _, rfl, hclasses⟩
    | false => exact ⟨by decide, _, rfl, hclasses⟩
  · have hline : ∀ line ∈ ["from textual.widgets import Static"], isImport line = true ∧ line ≠ clockImport := by decide
    exact ⟨hline, _, rfl, hclass⟩

/-- Without local modules there are at most two blocks. -/
theorem imports_eq (code : String) {toolkit : List String} (hne : toolkit ≠ []) : imports code toolkit [] =
    if standardImports code = [] then joinLines (foreignImports code toolkit)
    else joinLines (standardImports code) ++ "\n\n" ++ joinLines (foreignImports code toolkit) := by
  have hforeign : (foreignImports code toolkit).isEmpty = false :=
    List.isEmpty_eq_false_iff.2 (List.append_ne_nil_of_right_ne_nil _ hne)
  have hblocks : imports code toolkit [] =
      joinWith "\n\n" (([standardImports code, foreignImports code toolkit, []].filter (!·.isEmpty)).map
        joinLines) := rfl
  rw [hblocks]
  split
  · rename_i hstandard
    rw [hstandard]
    simp [hforeign, joinWith]
  · rename_i hstandard
    simp [List.isEmpty_eq_false_iff.2 hstandard, hforeign, joinWith]

/-- The flag of the clock is whether its call is found. -/
theorem lines_imports (code : String) {toolkit : List String} (hunbroken : UnbrokenLines toolkit) (hne : toolkit ≠ []) :
    lines (imports code toolkit []) =
      blockLines (usedModules code standardModules) (usedModules code foreignModules) toolkit (contains code clockCall) := by
  have hforeign := lines_joinLines (unbroken_foreignImports code hunbroken).oneLine
    (List.append_ne_nil_of_right_ne_nil _ hne)
  have hblock : blockLines (usedModules code standardModules) (usedModules code foreignModules) toolkit
      (contains code clockCall) = setOff (standardImports code) ++ foreignImports code toolkit := rfl
  rw [imports_eq code hne, hblock, setOff]
  split
  · exact hforeign
  · rename_i hstandard
    rw [lines_blankLine, lines_joinLines (unbroken_standardImports code).oneLine hstandard, hforeign, List.append_assoc]

theorem closes_imports (code : String) {toolkit : List String} (htoolkit : ClosesLast toolkit) :
    Closes (imports code toolkit []) := by
  have hforeign : Closes (joinLines (foreignImports code toolkit)) := (htoolkit.prepend _).closes
  rw [imports_eq code htoolkit.ne_nil]
  split
  · exact hforeign
  · exact hforeign.prepend _

theorem lines_helpers : lines helpers = helperConstants ++ helperFunctions :=
  lines_joinLines (UnbrokenLines.of_tidy (tidy_helperConstants.append tidy_helperFunctions)).oneLine (List.cons_ne_nil _ _)

theorem solid_helpers : Solid helpers := by
  have hlast : Closes "    return \"\\n\".join(lines)" := closes_ofList rfl (by decide)
  exact ⟨opens_joinWith rfl ((opens_ofList (by decide)).append _), closes_joinWith rfl hlast⟩

theorem not_isImport_bannerLines (s : Scene) (role : FileRole) : ∀ line ∈ bannerLines s role, isImport line = false := by
  have hscript : ∀ line ∈ ["#!/usr/bin/env python3"], isImport line = false := by decide
  have hcomment : ∀ line ∈ (if s.options.includeComments then
      ["# Generated by tuidesigner. Edit the design and regenerate instead."] else []), isImport line = false := by
    cases s.options.includeComments <;> decide
  intro line hline
  rcases List.mem_append.1 hline with hline | hline
  · rcases List.mem_append.1 hline with hline | hline
    · cases role with
      | single => exact hscript line hline
      | app => exact hscript line hline
      | widgets => cases hline
      | dataSources => cases hline
    · rw [List.mem_singleton.1 hline, String.append_assoc, String.append_assoc, String.append_assoc]
      exact not_isImport_append (by decide) _
  · exact hcomment line hline

/-- What is above the sections of a file with widgets. -/
theorem lines_header (hrole : HoldsWidgets role) (text : String) :
    lines (trimFeeds (header s role text)) = bannerLines s role ++
      ("" :: fileBlock s role text (contains (scanned text) clockCall) ++ (["", ""] ++ lines helpers)) := by
  have hcloses := (toolkitImports_holds (s := s) hrole).2
  have hheader : header s role text = joinSections
      [banner s role ++ "\n\n" ++ imports (scanned text) (toolkitImports s role) [], helpers] "\n\n\n" := by
    rcases hrole with rfl | rfl <;> rfl
  have htop : Solid (banner s role ++ "\n\n" ++ imports (scanned text) (toolkitImports s role) []) :=
    ⟨((opens_banner s role).append _).append _, (closes_imports (scanned text) hcloses).prepend _⟩
  have hbanner : lines (banner s role) = bannerLines s role :=
    lines_joinLines (unbroken_bannerLines s role).oneLine (by simp)
  have hempty : lines "" = [""] := by decide
  have hsolid : ∀ part ∈ [banner s role ++ "\n\n" ++ imports (scanned text) (toolkitImports s role) [], helpers],
      Solid part := by
    simpa using ⟨htop, solid_helpers⟩
  have htrimmed : trimFeeds (header s role text) =
      banner s role ++ "\n\n" ++ imports (scanned text) (toolkitImports s role) [] ++ "\n\n\n" ++ helpers := by
    rw [hheader, joinSections_of_solid hsolid, trimFeeds_append_feed]
    exact (solid_joinWith (List.cons_ne_nil _ _) hsolid).trimFeeds
  have hblock : lines (imports (scanned text) (toolkitImports s role) []) =
      fileBlock s role text (contains (scanned text) clockCall) :=
    lines_imports (scanned text) (unbroken_toolkitImports s role) hcloses.ne_nil
  -- What a scan finds does not matter to where the lines stand, and it is long to compute.
  have hshape (above block below : List String) : above ++ ([""] ++ block) ++ ([""] ++ ([""] ++ below)) =
      above ++ ("" :: block ++ (["", ""] ++ below)) := by
    simp only [List.append_assoc, List.cons_append, List.nil_append]
  rw [htrimmed, append_blankLines, lines_append, lines_append, lines_append, lines_blankLine, hbanner, hblock, hempty,
    hshape]

/-- The import block of a file with widgets has blank lines after it, since the helpers follow. -/
theorem pythonImportBlock_file (hrole : HoldsWidgets role) (text : String) (body : List String) (footer : String) :
    pythonImportBlock (Target.textual.plainFile (header s role text) body footer) =
      fileBlock s role text (contains (scanned text) clockCall) ++ ["", ""] := by
  have hseparator : Target.textual.separator = "\n" ++ "\n" ++ "\n" := by decide
  obtain ⟨after, hafter⟩ := Target.prefix_lines_plainFile hseparator (header s role text) body footer
  obtain ⟨hclasses, hcloses⟩ := toolkitImports_holds (s := s) hrole
  have htoolkit : ∀ line ∈ toolkitImports s role, isImport line = true := fun line hline => (hclasses line hline).1
  obtain ⟨first, rest, hblock, hfirst⟩ : ∃ first rest, fileBlock s role text (contains (scanned text) clockCall) =
      first :: rest ∧ isImport first = true :=
    blockLines_eq_cons htoolkit hcloses.ne_nil _
  have hrest : ∀ line ∈ rest ++ ["", ""], isImport line = true ∨ line = "" := by
    intro line hline
    rcases List.mem_append.1 hline with hline | hline
    · have hmem : line ∈ fileBlock s role text (contains (scanned text) clockCall) := by
        rw [hblock]
        exact List.mem_cons_of_mem first hline
      exact mem_blockLines htoolkit hmem
    · right
      simpa using hline
  have habove : ∀ line ∈ bannerLines s role ++ [""], isImport line = false := by
    rw [List.forall_mem_append]
    exact ⟨not_isImport_bannerLines s role, by decide⟩
  have hbelow : ∃ below more, helperConstants ++ helperFunctions = below :: more ∧ isImport below = false ∧ below ≠ "" :=
    ⟨_, _, rfl, not_isImport_append (by decide) _, by simp⟩
  obtain ⟨below, more, hhelpers, hbelow⟩ := hbelow
  rw [lines_header hrole, hblock, lines_helpers, hhelpers] at hafter
  have hlines : lines (Target.textual.plainFile (header s role text) body footer) =
      bannerLines s role ++ [""] ++ (first :: (rest ++ ["", ""]) ++ below :: (more ++ after)) := by
    rw [← hafter]
    simp
  rw [hblock, List.cons_append]
  exact pythonImportBlock_of_lines hlines habove hfirst hrest hbelow

end Files

end Textual

end DashboardCompiler
