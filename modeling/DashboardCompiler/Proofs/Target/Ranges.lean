import DashboardCompiler.Proofs.Design.Ranges
import DashboardCompiler.Proofs.Double.Numeral
import DashboardCompiler.Proofs.Generation.LineCount

/-!
# Ranges in generated widgets

Every target sets the bounds of a range in lines of their own, each in its own spelling of numbers. For finite bounds
all four spellings are numerals for the bounds themselves. The other bounds have no numeral: two targets write the
words of their notation, and the other two put zero in their place.
-/

namespace DashboardCompiler

open Schema Checked Text

namespace Framework

/-- The spelling of a bound. -/
def boundLiteral : Framework → Number → String
  | .textual, n => n.text
  | .bubbleTea, n => Literal.float n
  | .ratatui, n => Literal.float n
  | .blessed, n => Blessed.number n

/-- The names of the two bounds. -/
def boundNames : Framework → String × String
  | .textual | .ratatui => ("min_value", "max_value")
  | .bubbleTea | .blessed => ("minValue", "maxValue")

/-- A line that sets a property of a widget when it is made. -/
def SetsField (f : Framework) (name literal line : String) : Prop :=
  match f with
  | .textual => line = "        self." ++ name ++ " = " ++ literal
  | .bubbleTea => ∃ columns, line = "\t\t" ++ name ++ ": " ++ spaces columns ++ literal ++ ","
  | .ratatui => line = "            " ++ name ++ ": " ++ literal ++ ","
  | .blessed => line = "    this." ++ name ++ " = " ++ literal ++ ";"

/-- The text of a widget sets both bounds of its range. -/
structure WritesRange (f : Framework) (text : String) (least greatest : Number) : Prop where
  least : ∃ line ∈ lines text, f.SetsField f.boundNames.1 (f.boundLiteral least) line
  greatest : ∃ line ∈ lines text, f.SetsField f.boundNames.2 (f.boundLiteral greatest) line

end Framework

/-! ## Lines -/

theorem Textual.exists_line {b : Behavior} {name literal : String}
    (h : "self." ++ name ++ " = " ++ literal ∈ (partsOf b).state) (o : Options) :
    ∃ line ∈ lines (widget b o), Framework.textual.SetsField name literal line := by
  have hbody : "        self." ++ name ++ " = " ++ literal ∈ bodyLines (partsOf b).state := by
    refine List.mem_map.2 ⟨_, h, ?_⟩
    rw [if_neg (by simp)]
    simp [String.ext_iff]
  refine ⟨_, ?_, rfl⟩
  rw [lines_widget, classLines]
  simp only [List.mem_append, hbody, true_or, or_true]

theorem Ratatui.exists_line {b : Behavior} {name type literal : String}
    (h : ⟨name, type, literal⟩ ∈ (partsOf b).fields) (o : Options) :
    ∃ line ∈ lines (widget b o), Framework.ratatui.SetsField name literal line := by
  have hfield : (⟨name, type, literal⟩ : Field) ∈ allFields b (partsOf b) := List.mem_append_right _ h
  have hinitial : "            " ++ name ++ ": " ++ literal ++ "," ∈ (allFields b (partsOf b)).map fun f =>
      "            " ++ f.name ++ ": " ++ f.initial ++ "," := List.mem_map.2 ⟨_, hfield, rfl⟩
  have hconstructor : "            " ++ name ++ ": " ++ literal ++ "," ∈
      constructorLines (allFields b (partsOf b)) (partsOf b).init := by
    simp only [constructorLines, List.mem_append]
    split
    · simp only [List.mem_append, hinitial, true_or, or_true]
    · simp only [List.mem_append, hinitial, true_or, or_true]
  refine ⟨_, ?_, rfl⟩
  rw [lines_widget, structLines]
  simp only [List.mem_append, hconstructor, true_or, or_true]

theorem Blessed.exists_line {b : Behavior} {name literal : String} (h : ⟨name, literal⟩ ∈ (partsOf b).fields)
    (o : Options) : ∃ line ∈ lines (widget b o), Framework.blessed.SetsField name literal line := by
  have hfield : (⟨name, literal⟩ : Field) ∈ allFields b (partsOf b) := List.mem_append_right _ h
  have hinitial : "    this." ++ name ++ " = " ++ literal ++ ";" ∈ (allFields b (partsOf b)).map fun f =>
      "    this." ++ f.name ++ " = " ++ f.initial ++ ";" := List.mem_map.2 ⟨_, hfield, rfl⟩
  refine ⟨_, ?_, rfl⟩
  rw [lines_widget, classLines]
  simp only [List.mem_append, hinitial, true_or, or_true]

theorem BubbleTea.exists_row {rows : List (String × String)} {name value : String} (h : (name, value) ∈ rows) :
    ∃ columns, name ++ " " ++ spaces columns ++ value ∈ aligned rows :=
  ⟨_, List.mem_map.2 ⟨_, h, rfl⟩⟩

theorem BubbleTea.exists_line {b : Behavior} {name type literal : String}
    (h : ⟨name, type, some literal⟩ ∈ (partsOf b).fields) (hname : ∃ c ∈ name.toList.head?, c ≠ ' ') (o : Options) :
    ∃ line ∈ lines (widget b o), Framework.bubbleTea.SetsField name literal line := by
  have hfield : (⟨name, type, some literal⟩ : Field) ∈ allFields b (partsOf b) := List.mem_append_right _ h
  have hinitial : (name ++ ":", literal) ∈ (allFields b (partsOf b)).filterMap fun f =>
      f.initial.map fun v => (f.name ++ ":", v) := List.mem_filterMap.2 ⟨_, hfield, rfl⟩
  obtain ⟨columns, hrow⟩ := exists_row hinitial
  have hline : "        " ++ (name ++ ":" ++ " " ++ spaces columns ++ literal) ++ "," ∈
      structLines b o.includeComments (partsOf b) := by
    have hmap := List.mem_map_of_mem (f := fun line => "        " ++ line ++ ",") hrow
    rw [structLines]
    simp only [List.mem_append, hmap, true_or, or_true]
  refine ⟨_, ?_, columns, rfl⟩
  rw [lines_widget]
  refine List.mem_map.2 ⟨_, hline, ?_⟩
  obtain ⟨c, hc, hspace⟩ := hname
  obtain ⟨cs, hcs⟩ := List.head?_eq_some_iff.1 hc
  have hbody : (c :: cs ++ (": " ++ spaces columns ++ literal ++ ",").toList).head? ≠ some ' ' := by simpa using hspace
  have hindent := Code.tabIndentLine_indent 8 hbody
  have hchars : ("        " ++ (name ++ ":" ++ " " ++ spaces columns ++ literal) ++ ",").toList =
      List.replicate 8 ' ' ++ (c :: cs ++ (": " ++ spaces columns ++ literal ++ ",").toList) := by
    simp [hcs]
  rw [hchars, hindent]
  simp [String.ext_iff, hcs]

/-- The kinds that have a range. -/
theorem Properties.range_cases {p : Properties} {least greatest : Number} (h : p.range? = some (least, greatest)) :
    (∃ q, p = .gauge q ∧ least = q.min ∧ greatest = q.max) ∨
      ∃ q, p = .progressBar q ∧ least = q.min ∧ greatest = q.max := by
  cases p with
  | gauge q =>
    cases h
    exact .inl ⟨q, rfl, rfl, rfl⟩
  | progressBar q =>
    cases h
    exact .inr ⟨q, rfl, rfl, rfl⟩
  | _ => cases h

section Bounds

variable {b : Behavior} {bound : Bool} {p : Properties} {least greatest : Number}
  (hstate : b.state = .initial bound p) (hrange : p.range? = some (least, greatest))

include hstate hrange

theorem Textual.bounds_mem_state : "self.min_value = " ++ least.text ∈ (partsOf b).state ∧
    "self.max_value = " ++ greatest.text ∈ (partsOf b).state := by
  obtain ⟨q, rfl, rfl, rfl⟩ | ⟨q, rfl, rfl, rfl⟩ := Properties.range_cases hrange
  · simp [partsOf, hstate, WidgetState.initial, gaugeParts]
  · simp [partsOf, hstate, WidgetState.initial, progressBarParts]

theorem BubbleTea.bounds_mem_fields : ⟨"minValue", "float64", some (Literal.float least)⟩ ∈ (partsOf b).fields ∧
    ⟨"maxValue", "float64", some (Literal.float greatest)⟩ ∈ (partsOf b).fields := by
  obtain ⟨q, rfl, rfl, rfl⟩ | ⟨q, rfl, rfl, rfl⟩ := Properties.range_cases hrange
  · simp [partsOf, hstate, WidgetState.initial, gaugeParts]
  · simp [partsOf, hstate, WidgetState.initial, progressBarParts]

theorem Ratatui.bounds_mem_fields : ⟨"min_value", "f64", Literal.float least⟩ ∈ (partsOf b).fields ∧
    ⟨"max_value", "f64", Literal.float greatest⟩ ∈ (partsOf b).fields := by
  obtain ⟨q, rfl, rfl, rfl⟩ | ⟨q, rfl, rfl, rfl⟩ := Properties.range_cases hrange
  · simp [partsOf, hstate, WidgetState.initial, gaugeParts]
  · simp [partsOf, hstate, WidgetState.initial, progressBarParts]

theorem Blessed.bounds_mem_fields : ⟨"minValue", number least⟩ ∈ (partsOf b).fields ∧
    ⟨"maxValue", number greatest⟩ ∈ (partsOf b).fields := by
  obtain ⟨q, rfl, rfl, rfl⟩ | ⟨q, rfl, rfl, rfl⟩ := Properties.range_cases hrange
  · simp [partsOf, hstate, WidgetState.initial, gaugeParts]
  · simp [partsOf, hstate, WidgetState.initial, progressBarParts]

/-- Every target writes both bounds of the range that a widget starts with. -/
theorem Framework.writesRange (f : Framework) (o : Options) :
    f.WritesRange ((Target.ofFramework f).widget b o) least greatest := by
  cases f with
  | textual =>
    have hmin : "self.min_value = " = "self." ++ "min_value" ++ " = " := by decide
    have hmax : "self.max_value = " = "self." ++ "max_value" ++ " = " := by decide
    obtain ⟨hleast, hgreatest⟩ := Textual.bounds_mem_state hstate hrange
    rw [hmin] at hleast
    rw [hmax] at hgreatest
    simp only [Target.ofFramework, Target.textual]
    exact ⟨Textual.exists_line hleast o, Textual.exists_line hgreatest o⟩
  | bubbleTea =>
    obtain ⟨hleast, hgreatest⟩ := BubbleTea.bounds_mem_fields hstate hrange
    simp only [Target.ofFramework, Target.bubbleTea]
    exact ⟨BubbleTea.exists_line hleast ⟨'m', rfl, by decide⟩ o,
      BubbleTea.exists_line hgreatest ⟨'m', rfl, by decide⟩ o⟩
  | ratatui =>
    obtain ⟨hleast, hgreatest⟩ := Ratatui.bounds_mem_fields hstate hrange
    simp only [Target.ofFramework, Target.ratatui]
    exact ⟨Ratatui.exists_line hleast o, Ratatui.exists_line hgreatest o⟩
  | blessed =>
    obtain ⟨hleast, hgreatest⟩ := Blessed.bounds_mem_fields hstate hrange
    simp only [Target.ofFramework, Target.blessed]
    exact ⟨Blessed.exists_line hleast o, Blessed.exists_line hgreatest o⟩

end Bounds

/-! ## Literals -/

theorem Number.isFinite_asDouble {n : Number} (hheld : n.Held) (h : n.isFinite = true) :
    n.asDouble.isFinite = true := by
  obtain ⟨units, hplace⟩ := Number.exists_place_of_isFinite h
  rw [Number.Held, hplace] at hheld
  cases hx : n.asDouble with
  | finite => rfl
  | nan => simp [hx, Number.place?] at hheld
  | infinite negative => cases negative <;> simp [hx, Number.place?] at hheld

theorem numeral?_text {x : Double} (hx : x.isFinite = true) : Literal.numeral? x.text = some x :=
  numeral?_render rfl (by decide) hx

/-- What a target writes for a finite bound is a numeral for it. -/
theorem Framework.numeral?_boundLiteral (f : Framework) {n : Number} (hheld : n.Held) (h : n.isFinite = true) :
    Literal.numeral? (f.boundLiteral n) = some n.asDouble := by
  have hdouble := Number.isFinite_asDouble hheld h
  cases n with
  | int n =>
    have hfloat : Literal.float (.int n) = (Double.ofInt n).text := if_pos hdouble
    cases f with
    | textual => exact numeral?_intText n
    | bubbleTea => exact (congrArg _ hfloat).trans (numeral?_text hdouble)
    | ratatui => exact (congrArg _ hfloat).trans (numeral?_text hdouble)
    | blessed => exact numeral?_intText n
  | double x =>
    have hfloat : Literal.float (.double x) = x.text := if_pos hdouble
    cases f with
    | textual => exact numeral?_text hdouble
    | bubbleTea => exact (congrArg _ hfloat).trans (numeral?_text hdouble)
    | ratatui => exact (congrArg _ hfloat).trans (numeral?_text hdouble)
    | blessed => exact numeral?_render rfl (by decide) hdouble

/-- Two targets write a word for a bound that is not finite, the others a zero. -/
theorem Framework.boundLiteral_of_not_finite {n : Number} (h : n.isFinite = false) :
    Literal.numeral? (textual.boundLiteral n) = none ∧ Literal.numeral? (blessed.boundLiteral n) = none ∧
      bubbleTea.boundLiteral n = "0.0" ∧ ratatui.boundLiteral n = "0.0" := by
  cases n with
  | int n => cases h
  | double x =>
    cases x with
    | finite => cases h
    | nan => exact ⟨rfl, rfl, rfl, rfl⟩
    | infinite negative => cases negative <;> exact ⟨rfl, rfl, rfl, rfl⟩

/-! ## The range of accepted properties -/

/-- The spelling of a bound is a numeral for the bound itself. -/
def Framework.Denotes (f : Framework) (n : Number) : Prop :=
  ∃ x, Literal.numeral? (f.boundLiteral n) = some x ∧ (Number.double x).place? = n.place?

/-- The spellings of the bounds are numerals, and the least is below the greatest. -/
def Framework.Orders (f : Framework) (least greatest : Number) : Prop :=
  ∃ low high, Literal.numeral? (f.boundLiteral least) = some low ∧
    Literal.numeral? (f.boundLiteral greatest) = some high ∧ low.lt high = true

/-- What becomes of a range that passed the check, in the widgets that have it. -/
structure Properties.RangeExact (kind : WidgetKind) (fields : Fields) (least greatest : Number) : Prop where
  checked : greatest.le least = false
  written : ∀ (w : Widget) (o : Options), w.kind? = some kind → w.properties = fields →
    ∃ b, Behavior.ofWidget w o = .accepted b ∧
      ∀ f : Framework, f.WritesRange ((Target.ofFramework f).widget b o) least greatest
  ordered : least.isFinite = true → greatest.isFinite = true → least.lt greatest = true
  denoted : ∀ n ∈ [least, greatest], n.isFinite = true → ∀ f : Framework, f.Denotes n
  replaced : ∀ n ∈ [least, greatest], n.isFinite = false →
    Literal.numeral? (Framework.textual.boundLiteral n) = none ∧
    Literal.numeral? (Framework.blessed.boundLiteral n) = none ∧
    Framework.bubbleTea.boundLiteral n = "0.0" ∧ Framework.ratatui.boundLiteral n = "0.0"
  usable_iff : (∀ f : Framework, f.Orders least greatest) ↔ least.isFinite = true ∧ greatest.isFinite = true

/-- Literals of finite bounds are in the order of the bounds. -/
theorem Framework.orders_of_lt (f : Framework) {least greatest : Number} (hleast : least.Held)
    (hgreatest : greatest.Held) (hlow : least.isFinite = true) (hhigh : greatest.isFinite = true)
    (h : least.lt greatest = true) : f.Orders least greatest := by
  refine ⟨_, _, f.numeral?_boundLiteral hleast hlow, f.numeral?_boundLiteral hgreatest hhigh, ?_⟩
  rw [← Number.lt_double, Number.lt_congr hleast hgreatest, h]

/-- **A range is usable exactly if both of its bounds are finite.** The check leaves a greatest value that is not at
or below the least, and every target writes both bounds. Finite ones are in order, and what all four targets write for
them are numerals for the same two numbers. A bound that is nan or infinite passes the check, but two targets have no
numeral for it and the others put zero in its place. -/
theorem Properties.range_exact {kind : WidgetKind} (hkind : kind = .gauge ∨ kind = .progressBar) {fields : Fields}
    {p : Properties} (hp : Properties.read kind fields = .accepted p) :
    ∃ least greatest, p.range? = some (least, greatest) ∧ RangeExact kind fields least greatest := by
  obtain ⟨least, greatest, hrange, hcheck, hleast, hgreatest⟩ := Properties.range_of_accepted hkind hp
  have hheld : ∀ n ∈ [least, greatest], n.Held := by
    simp only [List.mem_cons, List.not_mem_nil, or_false]
    rintro n (rfl | rfl)
    · exact hleast
    · exact hgreatest
  have hordered (hlow : least.isFinite = true) (hhigh : greatest.isFinite = true) : least.lt greatest = true :=
    Number.lt_of_not_le hlow hhigh hcheck
  have hnumeral {n : Number} (h : (Literal.numeral? (Framework.textual.boundLiteral n)).isSome = true) :
      n.isFinite = true := by
    cases hfinite : n.isFinite with
    | true => rfl
    | false =>
      rw [(Framework.boundLiteral_of_not_finite hfinite).1] at h
      cases h
  refine ⟨least, greatest, hrange, hcheck, ?_, hordered, ?_, fun n _ => Framework.boundLiteral_of_not_finite, ?_⟩
  · intro w o hw hfields
    subst hfields
    refine ⟨⟨w, o.useMockData && !w.isBound, .initial w.isBound p⟩, ?_, fun f => f.writesRange rfl hrange o⟩
    rw [Behavior.ofWidget, hw]
    exact map_accepted_iff.2 ⟨p, hp, rfl⟩
  · intro n hn hfinite f
    exact ⟨_, f.numeral?_boundLiteral (hheld n hn) hfinite, hheld n hn⟩
  · constructor
    · intro h
      obtain ⟨low, high, hlow, hhigh, -⟩ := h .textual
      exact ⟨hnumeral (by rw [hlow]; rfl), hnumeral (by rw [hhigh]; rfl)⟩
    · rintro ⟨hlow, hhigh⟩ f
      exact f.orders_of_lt hleast hgreatest hlow hhigh (hordered hlow hhigh)

/-- A gauge up to infinity is accepted. -/
theorem Properties.range_exact_unbounded :
    let fields : Fields := [("max", .number (.double (.infinite false)))]
    ∃ p, Properties.read .gauge fields = .accepted p ∧
      ∃ least greatest, p.range? = some (least, greatest) ∧ RangeExact .gauge fields least greatest :=
  ⟨_, rfl, Properties.range_exact (.inl rfl) rfl⟩

end DashboardCompiler
