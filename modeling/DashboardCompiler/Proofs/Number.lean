import DashboardCompiler.Number
import DashboardCompiler.Proofs.Double.Shares

/-!
# The order of numbers

Integers and finite doubles stand at places on one line, and between them the comparisons are those of their places.
The search for the least or the greatest number of a list keeps a number of the list that no other one passes.
-/

namespace DashboardCompiler.Number

variable {a b : Number} {p q : Int}

theorem lt_at (ha : a.place? = some (.at p)) (hb : b.place? = some (.at q)) : a.lt b = decide (p < q) := by
  simp only [lt, ha, hb, Place.lt]

theorem eqValue_at (ha : a.place? = some (.at p)) (hb : b.place? = some (.at q)) : a.eqValue b = decide (p = q) := by
  simp only [eqValue, ha, hb, Place.same]

theorem le_at (ha : a.place? = some (.at p)) (hb : b.place? = some (.at q)) : a.le b = decide (p ≤ q) := by
  rw [le, lt_at ha hb, eqValue_at ha hb, ← Bool.decide_or]
  exact decide_eq_decide.2 (by omega)

theorem place?_int (n : Int) : (Number.int n).place? = some (.at (n * unitsPerOne)) := rfl

theorem place?_double {x : Double} {m : Int} (hx : x.units? = some m) : (Number.double x).place? = some (.at m) := by
  cases x with
  | finite => exact congrArg (some ∘ Place.at) (Option.some.inj hx)
  | _ => cases hx

theorem units_le_iff {m n : Int} : m * unitsPerOne ≤ n * unitsPerOne ↔ m ≤ n :=
  Int.mul_le_mul_right (by exact_mod_cast unitsPerOne_pos)

theorem le_int (m n : Int) : (Number.int m).le (.int n) = decide (m ≤ n) := by
  rw [le_at (place?_int m) (place?_int n)]
  exact decide_eq_decide.2 units_le_iff

/-- A whole number that is a double has its quotient by a positive one in the finite range. -/
theorem div_natCast {n den : Nat} (hn : n ≤ twoPower 53) (hden : 0 < den) :
    ∃ hfits, Number.div (.int n) (.int den) = .ok (.finite false (roundedUnits (n * unitsPerOne) den) hfits) := by
  have hle : roundedUnits (n * unitsPerOne) den ≤ n * unitsPerOne :=
    (whole_representable hn).roundedUnits_le hden (Nat.le_mul_of_pos_right _ hden)
  have hfits : Representable (roundedUnits (n * unitsPerOne) den) :=
    roundedUnits_representable (Nat.lt_of_le_of_lt hle (whole_representable hn).2)
  exact ⟨hfits, Double.ofQuotient_natCast hden rfl hfits⟩

/-! ## Extremes -/

/-- A number of a list that stands in a relation to all others. -/
structure Extreme (R : Int → Int → Prop) (best : Number) (ns : List Number) : Prop where
  mem : best ∈ ns
  bound : ∀ n ∈ ns, ∀ p q, best.place? = some (.at p) → n.place? = some (.at q) → R p q

/-- A search that replaces its best number exactly where the relation to the next one fails keeps an extreme. -/
theorem extreme_foldl {R : Int → Int → Prop} (hrefl : ∀ p, R p p) (htrans : ∀ p q r, R p q → R q r → R p r)
    {replaces : Number → Number → Bool}
    (hreplaces : ∀ a b p q, a.place? = some (.at p) → b.place? = some (.at q) →
      (replaces a b = true → R q p) ∧ (replaces a b = false → R p q))
    (rest : List Number) (first : Number) (hplaces : ∀ n ∈ first :: rest, ∃ p, n.place? = some (.at p)) :
    Extreme R (rest.foldl (fun best n => if replaces best n then n else best) first) (first :: rest) := by
  induction rest generalizing first with
  | nil =>
    refine ⟨List.mem_singleton_self first, ?_⟩
    rintro n hn p q hp hq
    obtain rfl := List.mem_singleton.1 hn
    obtain rfl : p = q := by simpa using hp.symm.trans hq
    exact hrefl p
  | cons second rest ih =>
    obtain ⟨p, hp⟩ := hplaces first (by simp)
    obtain ⟨q, hq⟩ := hplaces second (by simp)
    have hstep := hreplaces first second p q hp hq
    have hrest : ∀ n ∈ rest, ∃ p, n.place? = some (.at p) := fun n hn => hplaces n (by simp [hn])
    rw [List.foldl_cons]
    cases hswap : replaces first second with
    | true =>
      have hbest := ih second (List.forall_mem_cons.2 ⟨⟨q, hq⟩, hrest⟩)
      refine ⟨List.mem_cons_of_mem first hbest.mem, List.forall_mem_cons.2 ⟨?_, hbest.bound⟩⟩
      intro s p' hs hp'
      obtain rfl : p = p' := by simpa [hp] using hp'
      exact htrans s q p (hbest.bound second (by simp) s q hs hq) (hstep.1 hswap)
    | false =>
      have hbest := ih first (List.forall_mem_cons.2 ⟨⟨p, hp⟩, hrest⟩)
      have hfirst := hbest.bound first (by simp)
      refine ⟨?_, List.forall_mem_cons.2 ⟨hfirst, List.forall_mem_cons.2 ⟨?_, fun n hn => ?_⟩⟩⟩
      · rcases List.mem_cons.1 hbest.mem with hfirst | hlater
        · exact List.mem_cons.2 (.inl hfirst)
        · exact List.mem_cons_of_mem first (List.mem_cons_of_mem second hlater)
      · intro s q' hs hq'
        obtain rfl : q = q' := by simpa [hq] using hq'
        exact htrans s p q (hfirst s p hs hp) (hstep.2 hswap)
      · exact hbest.bound n (List.mem_cons_of_mem first hn)

variable {first : Number} {rest : List Number}

theorem extreme_greatest (hplaces : ∀ n ∈ first :: rest, ∃ p, n.place? = some (.at p)) :
    Extreme (· ≥ ·) (greatest first rest) (first :: rest) := by
  refine @extreme_foldl (· ≥ ·) le_refl (fun _ _ _ => ge_trans) (fun best n => best.lt n) ?_ rest first hplaces
  intro a b p q ha hb
  rw [lt_at ha hb, decide_eq_true_eq, decide_eq_false_iff_not]
  omega

theorem extreme_least (hplaces : ∀ n ∈ first :: rest, ∃ p, n.place? = some (.at p)) :
    Extreme (· ≤ ·) (least first rest) (first :: rest) := by
  refine @extreme_foldl (· ≤ ·) le_refl (fun _ _ _ => le_trans) (fun best n => n.lt best) ?_ rest first hplaces
  intro a b p q ha hb
  rw [lt_at hb ha, decide_eq_true_eq, decide_eq_false_iff_not]
  omega

/-- An extreme of integers is an integer. -/
theorem Extreme.int {R : Int → Int → Prop} {best : Number} {ns : List Int} (h : Extreme R best (ns.map .int)) :
    ∃ g ∈ ns, best = .int g ∧ ∀ n ∈ ns, R (g * unitsPerOne) (n * unitsPerOne) := by
  obtain ⟨g, hg, rfl⟩ := List.mem_map.1 h.mem
  exact ⟨g, hg, rfl, fun n hn => h.bound (.int n) (List.mem_map_of_mem hn) _ _ rfl rfl⟩

/-- An extreme of finite doubles is a finite double. -/
theorem Extreme.double {R : Int → Int → Prop} {best : Number} {xs : List Double} (h : Extreme R best (xs.map .double)) :
    ∃ x ∈ xs, best = .double x ∧ ∀ y ∈ xs, ∀ m n, x.units? = some m → y.units? = some n → R m n := by
  obtain ⟨x, hx, rfl⟩ := List.mem_map.1 h.mem
  exact ⟨x, hx, rfl, fun y hy m n hm hn =>
    h.bound (.double y) (List.mem_map_of_mem hy) m n (place?_double hm) (place?_double hn)⟩

/-- The least and the greatest integer of a list. -/
theorem exists_bounds (first : Int) (rest : List Int) : ∃ l ∈ first :: rest, ∃ g ∈ first :: rest,
    least (.int first) (rest.map .int) = .int l ∧ greatest (.int first) (rest.map .int) = .int g ∧
      ∀ v ∈ first :: rest, l ≤ v ∧ v ≤ g := by
  have hplaces : ∀ n ∈ (first :: rest).map Number.int, ∃ p, n.place? = some (.at p) := by
    intro n hn
    obtain ⟨v, -, rfl⟩ := List.mem_map.1 hn
    exact ⟨_, rfl⟩
  obtain ⟨l, hl, hleast, hlow⟩ := @Extreme.int _ _ (first :: rest) (extreme_least hplaces)
  obtain ⟨g, hg, hgreatest, hhigh⟩ := @Extreme.int _ _ (first :: rest) (extreme_greatest hplaces)
  exact ⟨l, hl, g, hg, hleast, hgreatest, fun v hv =>
    ⟨units_le_iff.1 (hlow v hv), units_le_iff.1 (hhigh v hv)⟩⟩

/-- The least and the greatest of finite doubles. -/
theorem exists_finite_bounds (first : Double) (rest : List Double) (hfinite : ∀ x ∈ first :: rest, x.isFinite = true) :
    ∃ lo ∈ first :: rest, ∃ hi ∈ first :: rest, least (.double first) (rest.map .double) = .double lo ∧
      greatest (.double first) (rest.map .double) = .double hi ∧
      ∃ l g, lo.units? = some l ∧ hi.units? = some g ∧ ∀ x ∈ first :: rest, ∃ m, x.units? = some m ∧ l ≤ m ∧ m ≤ g := by
  have hplaces : ∀ n ∈ (first :: rest).map Number.double, ∃ p, n.place? = some (.at p) := by
    intro n hn
    obtain ⟨x, hx, rfl⟩ := List.mem_map.1 hn
    obtain ⟨m, hm⟩ := Double.exists_units (hfinite x hx)
    exact ⟨m, place?_double hm⟩
  obtain ⟨lo, hlo, hleast, hlow⟩ := @Extreme.double _ _ (first :: rest) (extreme_least hplaces)
  obtain ⟨hi, hhi, hgreatest, hhigh⟩ := @Extreme.double _ _ (first :: rest) (extreme_greatest hplaces)
  obtain ⟨l, hl⟩ := Double.exists_units (hfinite lo hlo)
  obtain ⟨g, hg⟩ := Double.exists_units (hfinite hi hhi)
  refine ⟨lo, hlo, hi, hhi, hleast, hgreatest, l, g, hl, hg, fun x hx => ?_⟩
  obtain ⟨m, hm⟩ := Double.exists_units (hfinite x hx)
  exact ⟨m, hm, hlow x hx l m hl hm, hhigh x hx g m hg hm⟩

end DashboardCompiler.Number
