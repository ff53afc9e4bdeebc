import DashboardCompiler.Placement.Search
import DashboardCompiler.Proofs.Double.Overflow

/-!
# The order of the search

The search is a walk along one list of candidates, the wanted corner and then ring after ring, that stops at the first
one where the box can be placed. The rings are computed in doubles; as long as the canvas and the wanted corner stay
within `2 ^ 53`, no step of that computation leaves the finite range, so every ring has its eight points and the search
always ends with an answer.
-/

namespace DashboardCompiler

/-- Both coordinates are whole numbers that doubles hold exactly. -/
def Point.Exact (p : Point) : Prop := p.x.natAbs ≤ twoPower 53 ∧ p.y.natAbs ≤ twoPower 53

def Extent.Exact (e : Extent) : Prop := e.width.natAbs ≤ twoPower 53 ∧ e.height.natAbs ≤ twoPower 53

namespace Search

/-- The points of a ring along some directions, in their order; none that cannot be computed. -/
def pointsAlong (center : Point) (radius : Nat) (ds : List Direction) : List Point :=
  ds.filterMap fun d => (ringPoint center radius d).toOption

def ring (center : Point) (radius : Nat) : List Point := pointsAlong center radius directions

/-- The number of rings that stay below the larger side of the canvas. -/
def ringCount (bounds : Extent) : Nat := (max bounds.width bounds.height).toNat - 1

/-- Every spot that the search may try, in its order. -/
def candidates (wanted : Point) (bounds : Extent) : List Point :=
  wanted :: (List.range' 1 (ringCount bounds)).flatMap (ring wanted)

variable {existing : List Box} {extent bounds : Extent} {center wanted p : Point} {radius : Nat}

/-! ## Rings are computed without a fault -/

theorem below_directions : ∀ d ∈ directions, d.cos.Below 1075 ∧ d.sin.Below 1075 := by decide +kernel

theorem below_half : Grid.half.Below 1075 := by decide +kernel

theorem offset_ok {start : Int} {along : Double} (hstart : start.natAbs ≤ twoPower 53) (hradius : radius ≤ twoPower 53)
    (halong : along.Below 1075) : ∃ i, offset start radius along = .ok i := by
  have horigin : (Double.ofInt start).Below (53 + 1076) := Double.below_ofInt hstart (by decide)
  have hlength : (Double.ofInt radius).Below (53 + 1076) := Double.below_ofInt (by simpa using hradius) (by decide)
  have hdistance := Double.Below.mul (n := 1) hlength halong (by decide)
  have hplace := Double.Below.add (n := 53 + 1076 + 1 + 1) (horigin.mono (by omega)) hdistance (by decide)
  have hraised := Double.Below.add (n := 53 + 1076 + 1 + 1 + 2) hplace (below_half.mono (by omega)) (by decide)
  obtain ⟨i, hi⟩ := hraised.floor
  have hround : Grid.roundHalfUp ((Double.ofInt start).add ((Double.ofInt radius).mul along)) = .ok i := hi
  exact ⟨i, bind_ok_iff.2 ⟨_, hlength.inRange, bind_ok_iff.2 ⟨_, horigin.inRange, hround⟩⟩⟩

theorem ringPoint_ok (hcenter : center.Exact) (hradius : radius ≤ twoPower 53) :
    ∀ d ∈ directions, ∃ p, ringPoint center radius d = .ok p := by
  intro d hd
  obtain ⟨hcos, hsin⟩ := below_directions d hd
  obtain ⟨x, hx⟩ := offset_ok hcenter.1 hradius hcos
  obtain ⟨y, hy⟩ := offset_ok hcenter.2 hradius hsin
  refine ⟨⟨x, y⟩, ?_⟩
  rw [ringPoint, hx, hy]
  rfl

theorem pointsAlong_cons {d : Direction} (h : ringPoint center radius d = .ok p) (ds : List Direction) :
    pointsAlong center radius (d :: ds) = p :: pointsAlong center radius ds := by
  have hoption : (ringPoint center radius d).toOption = some p := by rw [h, Except.toOption]
  unfold pointsAlong
  exact List.filterMap_cons_some hoption

theorem map_ringPoint_pointsAlong {ds : List Direction} (h : ∀ d ∈ ds, ∃ p, ringPoint center radius d = .ok p) :
    ds.map (ringPoint center radius) = (pointsAlong center radius ds).map .ok := by
  induction ds with
  | nil => rfl
  | cons d ds ih =>
    obtain ⟨⟨p, hp⟩, hrest⟩ := List.forall_mem_cons.1 h
    rw [List.map_cons, hp, pointsAlong_cons hp, List.map_cons, ih hrest]

/-- The eight points of a ring, none of them left out. -/
theorem map_ringPoint (hcenter : center.Exact) (hradius : radius ≤ twoPower 53) :
    directions.map (ringPoint center radius) = (ring center radius).map .ok :=
  map_ringPoint_pointsAlong (ringPoint_ok hcenter hradius)

theorem le_of_mem_rings (hbounds : bounds.Exact) (h : radius ∈ List.range' 1 (ringCount bounds)) :
    radius ≤ twoPower 53 := by
  obtain ⟨hwidth, hheight⟩ := hbounds
  rw [ringCount, List.mem_range'_1] at h
  omega

/-! ## The search stops at the first candidate -/

theorem firstOnRing_eq {ds : List Direction} (h : ∀ d ∈ ds, ∃ p, ringPoint center radius d = .ok p) :
    firstOnRing existing extent bounds center radius ds =
      .ok ((pointsAlong center radius ds).find? fun p => Box.canPlace existing ⟨p, extent⟩ bounds) := by
  induction ds with
  | nil => rfl
  | cons d ds ih =>
    obtain ⟨⟨p, hp⟩, hrest⟩ := List.forall_mem_cons.1 h
    have hstep : firstOnRing existing extent bounds center radius (d :: ds) =
        if Box.canPlace existing ⟨p, extent⟩ bounds then .ok (some p)
        else firstOnRing existing extent bounds center radius ds := by
      rw [firstOnRing, hp]
      rfl
    rw [hstep, ih hrest, pointsAlong_cons hp, List.find?_cons]
    cases Box.canPlace existing ⟨p, extent⟩ bounds <;> rfl

theorem firstOnRings_eq {rings : Nat} (hcenter : center.Exact)
    (h : ∀ r ∈ List.range' radius rings, r ≤ twoPower 53) :
    firstOnRings existing extent bounds center rings radius =
      .ok (((List.range' radius rings).flatMap (ring center)).find? fun p =>
        Box.canPlace existing ⟨p, extent⟩ bounds) := by
  induction rings generalizing radius with
  | zero => rfl
  | succ rings ih =>
    obtain ⟨hradius, hrest⟩ := List.forall_mem_cons.1 h
    have hring : firstOnRing existing extent bounds center radius directions =
        .ok ((ring center radius).find? fun p => Box.canPlace existing ⟨p, extent⟩ bounds) :=
      firstOnRing_eq (ringPoint_ok hcenter hradius)
    rw [firstOnRings, hring, List.range'_succ, List.flatMap_cons, List.find?_append]
    cases (ring center radius).find? fun p => Box.canPlace existing ⟨p, extent⟩ bounds with
    | some p => rfl
    | none => exact ih hrest

theorem findFree_eq (hwanted : wanted.Exact) (hbounds : bounds.Exact) :
    findFree existing extent wanted bounds =
      .ok ((candidates wanted bounds).find? fun p => Box.canPlace existing ⟨p, extent⟩ bounds) := by
  rw [findFree, candidates, List.find?_cons]
  cases Box.canPlace existing ⟨wanted, extent⟩ bounds with
  | true => rfl
  | false => exact firstOnRings_eq hwanted fun r hr => le_of_mem_rings hbounds hr

/-! ## Answers -/

/-- A spot that the search must answer with: the box can be placed there, and at no candidate before it. -/
structure First (existing : List Box) (extent : Extent) (wanted : Point) (bounds : Extent) (p : Point) : Prop where
  room : Box.canPlace existing ⟨p, extent⟩ bounds = true
  nonnegative : 0 ≤ p.x ∧ 0 ≤ p.y
  candidate : ∃ before rest, candidates wanted bounds = before ++ p :: rest ∧
    ∀ q ∈ before, Box.canPlace existing ⟨q, extent⟩ bounds = false
  nearest : p = wanted ∨ ∃ radius ∈ List.range' 1 (ringCount bounds), p ∈ ring wanted radius ∧
    Box.canPlace existing ⟨wanted, extent⟩ bounds = false ∧
    ∀ smaller ∈ List.range' 1 (ringCount bounds), smaller < radius →
      ∀ q ∈ ring wanted smaller, Box.canPlace existing ⟨q, extent⟩ bounds = false

/-- The first hit on a row of rings lies on one of them, and there is none on those before it. -/
theorem exists_ring_of_find? {α : Type} {test : α → Bool} {points : Nat → List α} {start count : Nat} {a : α}
    (h : ((List.range' start count).flatMap points).find? test = some a) :
    ∃ r ∈ List.range' start count, a ∈ points r ∧
      ∀ s ∈ List.range' start count, s < r → ∀ b ∈ points s, test b = false := by
  induction count generalizing start with
  | zero => cases h
  | succ count ih =>
    rw [List.range'_succ, List.flatMap_cons, List.find?_append] at h
    cases hfirst : (points start).find? test with
    | some b =>
      rw [hfirst] at h
      cases h
      refine ⟨start, List.mem_cons_self, List.mem_of_find?_eq_some hfirst, fun s hs hlt => ?_⟩
      exact absurd (List.mem_range'_1.1 hs).1 (by omega)
    | none =>
      rw [hfirst] at h
      obtain ⟨r, hr, ha, hbefore⟩ := ih h
      refine ⟨r, List.mem_cons_of_mem _ hr, ha, fun s hs hlt => ?_⟩
      rcases List.mem_cons.1 hs with rfl | hs
      · simpa using List.find?_eq_none.1 hfirst
      · exact hbefore s hs hlt

theorem nonnegative_of_canPlace (h : Box.canPlace existing ⟨p, extent⟩ bounds = true) : 0 ≤ p.x ∧ 0 ≤ p.y := by
  simp only [Box.canPlace, Box.fits, Bool.and_eq_true, decide_eq_true_eq] at h
  exact h.1.1.1

theorem first_of_find?
    (h : ((candidates wanted bounds).find? fun p => Box.canPlace existing ⟨p, extent⟩ bounds) = some p) :
    First existing extent wanted bounds p := by
  obtain ⟨hroom, before, rest, hsplit, hbefore⟩ := List.find?_eq_some_iff_append.1 h
  refine ⟨hroom, nonnegative_of_canPlace hroom, ⟨before, rest, hsplit, by simpa using hbefore⟩, ?_⟩
  rw [candidates, List.find?_cons] at h
  cases hwanted : Box.canPlace existing ⟨wanted, extent⟩ bounds with
  | true =>
    rw [hwanted] at h
    cases h
    exact .inl rfl
  | false =>
    rw [hwanted] at h
    obtain ⟨radius, hradius, hp, hsmaller⟩ := exists_ring_of_find? h
    exact .inr ⟨radius, hradius, hp, rfl, hsmaller⟩

/-- **The search is exactly its order.** On a canvas and for a corner that doubles hold exactly every ring has its eight
points, and the search ends without a fault: with the first candidate where the box can be placed, or with none if it
can be placed at no candidate. -/
theorem findFree_first (existing : List Box) (extent : Extent) (hwanted : wanted.Exact) (hbounds : bounds.Exact) :
    (∀ radius ∈ List.range' 1 (ringCount bounds),
      directions.map (ringPoint wanted radius) = (ring wanted radius).map .ok) ∧
    ((∃ p, findFree existing extent wanted bounds = .ok (some p) ∧ First existing extent wanted bounds p) ∨
      findFree existing extent wanted bounds = .ok none ∧
        ∀ p ∈ candidates wanted bounds, Box.canPlace existing ⟨p, extent⟩ bounds = false) := by
  refine ⟨fun radius hradius => map_ringPoint hwanted (le_of_mem_rings hbounds hradius), ?_⟩
  rw [findFree_eq hwanted hbounds]
  cases hfound : (candidates wanted bounds).find? fun p => Box.canPlace existing ⟨p, extent⟩ bounds with
  | some p => exact .inl ⟨p, rfl, first_of_find? hfound⟩
  | none =>
    refine .inr ⟨rfl, ?_⟩
    simpa using List.find?_eq_none.1 hfound

/-- The wanted corner is taken, and so is the first ring; the spot east on the second ring is free. A box as large as
the canvas finds nothing. -/
theorem findFree_first_beside :
    Point.Exact ⟨0, 0⟩ ∧ Extent.Exact ⟨4, 2⟩ ∧
      findFree [⟨⟨0, 0⟩, ⟨2, 2⟩⟩] ⟨2, 2⟩ ⟨0, 0⟩ ⟨4, 2⟩ = .ok (some ⟨2, 0⟩) ∧
      First [⟨⟨0, 0⟩, ⟨2, 2⟩⟩] ⟨2, 2⟩ ⟨0, 0⟩ ⟨4, 2⟩ ⟨2, 0⟩ ∧
      ∀ p ∈ candidates ⟨0, 0⟩ ⟨4, 2⟩, Box.canPlace [⟨⟨0, 0⟩, ⟨2, 2⟩⟩] ⟨p, ⟨4, 2⟩⟩ ⟨4, 2⟩ = false := by
  have hwanted : Point.Exact ⟨0, 0⟩ := ⟨by decide, by decide⟩
  have hbounds : Extent.Exact ⟨4, 2⟩ := ⟨by decide, by decide⟩
  have hfound : findFree [⟨⟨0, 0⟩, ⟨2, 2⟩⟩] ⟨2, 2⟩ ⟨0, 0⟩ ⟨4, 2⟩ = .ok (some ⟨2, 0⟩) := by decide +kernel
  have hnone : findFree [⟨⟨0, 0⟩, ⟨2, 2⟩⟩] ⟨4, 2⟩ ⟨0, 0⟩ ⟨4, 2⟩ = .ok none := by decide +kernel
  refine ⟨hwanted, hbounds, hfound, ?_, ?_⟩
  · rcases (findFree_first [⟨⟨0, 0⟩, ⟨2, 2⟩⟩] ⟨2, 2⟩ hwanted hbounds).2 with ⟨p, hp, hfirst⟩ | ⟨hno, -⟩
    · rw [hfound] at hp
      cases hp
      exact hfirst
    · rw [hfound] at hno
      cases hno
  · rcases (findFree_first [⟨⟨0, 0⟩, ⟨2, 2⟩⟩] ⟨4, 2⟩ hwanted hbounds).2 with ⟨p, hp, -⟩ | ⟨-, hall⟩
    · rw [hnone] at hp
      cases hp
    · exact hall

end Search

end DashboardCompiler
