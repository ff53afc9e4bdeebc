import DashboardCompiler.Proofs.Placement.Search
import DashboardCompiler.Proofs.Placement.Session
import Mathlib.Data.List.Infix

/-!
# The search where there is more room

Of the boxes that are there the search asks only whether one of them is in the way, so neither their order nor their
number matters. With fewer boxes and on a larger canvas every spot keeps the room it had, and a larger canvas only adds
rings behind those of the smaller one. Both runs therefore walk along the same places, and the one with more room stops
no later.
-/

namespace DashboardCompiler

/-- One canvas reaches at least as far as another in both directions. -/
structure Extent.Within (small large : Extent) : Prop where
  width : small.width ≤ large.width
  height : small.height ≤ large.height

namespace Box

variable {existing others fewer : List Box} {b : Box} {bounds larger : Extent}

theorem canPlace_congr (h : ∀ b, b ∈ others ↔ b ∈ existing) : canPlace others = canPlace existing := by
  funext b bounds
  rw [Bool.eq_iff_iff, canPlace_iff, canPlace_iff]
  simp only [h]

theorem canPlace_mono (hfewer : fewer ⊆ existing) (hlarger : bounds.Within larger)
    (h : canPlace existing b bounds = true) : canPlace fewer b larger = true := by
  obtain ⟨hfits, hclear⟩ := canPlace_iff.1 h
  exact canPlace_iff.2 ⟨Canvas.fits_mono hlarger.width hlarger.height hfits, fun e he => hclear e (hfewer he)⟩

end Box

namespace Search

variable {existing others fewer : List Box} {extent bounds larger : Extent} {center wanted p : Point} {radius : Nat}

/-! ## Other boxes count once, in any order -/

theorem firstOnRing_congr (h : Box.canPlace others = Box.canPlace existing) (ds : List Direction) :
    firstOnRing others extent bounds center radius ds = firstOnRing existing extent bounds center radius ds := by
  induction ds with
  | nil => rfl
  | cons d ds ih => simp only [firstOnRing, h, ih]

theorem firstOnRings_congr (h : Box.canPlace others = Box.canPlace existing) (rings : Nat) :
    firstOnRings others extent bounds center rings radius =
      firstOnRings existing extent bounds center rings radius := by
  induction rings generalizing radius with
  | zero => rfl
  | succ rings ih => simp only [firstOnRings, firstOnRing_congr h, ih]

theorem findFree_congr (h : Box.canPlace others = Box.canPlace existing) :
    findFree others extent wanted bounds = findFree existing extent wanted bounds := by
  simp only [findFree, h, firstOnRings_congr h]

/-! ## The first hit of a list and its place -/

/-- The first element of a list that passes a test, with its place. -/
structure FirstAt {α : Type} (test : α → Bool) (items : List α) (place : Nat) (a : α) : Prop where
  stands : items[place]? = some a
  passes : test a = true
  earliest : ∀ i < place, ∀ b, items[i]? = some b → test b = false

section FirstAt

variable {α : Type} {test weaker : α → Bool} {items longer : List α} {place : Nat} {a : α}

theorem firstAt_iff_find? : (∃ place, FirstAt test items place a) ↔ items.find? test = some a := by
  rw [List.find?_eq_some_iff_getElem]
  constructor
  · rintro ⟨place, hstands, hpasses, hearliest⟩
    obtain ⟨hlt, ha⟩ := List.getElem?_eq_some_iff.1 hstands
    refine ⟨hpasses, place, hlt, ha, fun i hi => ?_⟩
    rw [hearliest i hi _ (List.getElem?_eq_getElem (hi.trans hlt))]
    rfl
  · rintro ⟨hpasses, place, hlt, ha, hearliest⟩
    refine ⟨place, List.getElem?_eq_some_iff.2 ⟨hlt, ha⟩, hpasses, fun i hi b hb => ?_⟩
    obtain ⟨hib, rfl⟩ := List.getElem?_eq_some_iff.1 hb
    simpa using hearliest i hi

/-- A weaker test is passed no later. -/
theorem FirstAt.weaken (h : FirstAt test items place a) (hweaker : ∀ b, test b = true → weaker b = true) :
    ∃ earlier ≤ place, ∃ b, FirstAt weaker items earlier b := by
  obtain ⟨b, hfound⟩ : ∃ b, items.find? weaker = some b := by
    rw [← Option.isSome_iff_exists, List.find?_isSome]
    exact ⟨a, List.mem_of_getElem? h.stands, hweaker a h.passes⟩
  obtain ⟨earlier, hb⟩ := firstAt_iff_find?.2 hfound
  refine ⟨earlier, ?_, b, hb⟩
  by_contra hlater
  have hmissed := hb.earliest place (by omega) a h.stands
  rw [hweaker a h.passes] at hmissed
  cases hmissed

/-- What comes behind the first hit does not matter. -/
theorem FirstAt.extend (h : FirstAt test items place a) (hgrow : items <+: longer) :
    FirstAt test longer place a := by
  obtain ⟨rest, rfl⟩ := hgrow
  obtain ⟨hlt, -⟩ := List.getElem?_eq_some_iff.1 h.stands
  refine ⟨by rw [List.getElem?_append_left hlt, h.stands], h.passes, fun i hi b hb => h.earliest i hi b ?_⟩
  rwa [List.getElem?_append_left (hi.trans hlt)] at hb

end FirstAt

/-! ## The rings of a larger canvas -/

theorem ringCount_mono (h : bounds.Within larger) : ringCount bounds ≤ ringCount larger := by
  obtain ⟨hwidth, hheight⟩ := h
  unfold ringCount
  omega

/-- A larger canvas has the same candidates first. -/
theorem candidates_grow (wanted : Point) (h : bounds.Within larger) :
    candidates wanted bounds <+: candidates wanted larger := by
  obtain ⟨more, hmore⟩ := Nat.exists_eq_add_of_le (ringCount_mono h)
  unfold candidates
  rw [hmore, ← List.range'_append_1, List.flatMap_append]
  exact List.cons_prefix_cons.2 ⟨rfl, List.prefix_append _ _⟩

/-- A search over many rings is one over the first of them, followed by one over the others. -/
theorem firstOnRings_add (rings more : Nat) :
    firstOnRings existing extent bounds center (rings + more) radius =
      (do match ← firstOnRings existing extent bounds center rings radius with
        | some p => return some p
        | none => firstOnRings existing extent bounds center more (radius + rings)) := by
  induction rings generalizing radius with
  | zero =>
    rw [Nat.zero_add]
    rfl
  | succ rings ih =>
    rw [Nat.add_right_comm, firstOnRings, firstOnRings]
    cases firstOnRing existing extent bounds center radius directions with
    | error fault => rfl
    | ok found =>
      cases found with
      | some p => rfl
      | none =>
        have hstart : radius + (rings + 1) = radius + 1 + rings := by omega
        rw [hstart]
        exact ih

/-- The search on a larger canvas answers with the first hit among the candidates of a smaller one, if there is one. -/
theorem findFree_of_find? (hwanted : wanted.Exact) (hbounds : bounds.Exact) (hlarger : bounds.Within larger)
    (h : ((candidates wanted bounds).find? fun p => Box.canPlace existing ⟨p, extent⟩ larger) = some p) :
    findFree existing extent wanted larger = .ok (some p) := by
  rw [candidates, List.find?_cons] at h
  rw [findFree]
  cases hroom : Box.canPlace existing ⟨wanted, extent⟩ larger with
  | true =>
    simp only [hroom] at h
    rw [if_pos rfl, ← h]
  | false =>
    simp only [hroom] at h
    obtain ⟨more, hmore⟩ := Nat.exists_eq_add_of_le (ringCount_mono hlarger)
    have hcount : (max larger.width larger.height).toNat - 1 = ringCount bounds + more := hmore
    have hrings : firstOnRings existing extent larger wanted (ringCount bounds) 1 = .ok (some p) := by
      rw [firstOnRings_eq hwanted fun r hr => le_of_mem_rings hbounds hr, h]
    rw [if_neg Bool.false_ne_true, hcount, firstOnRings_add, hrings]
    rfl

/-! ## Places and rings -/

/-- The radius of the ring that a place lies on: the wanted corner has place 0, and each ring after it eight places. -/
def radiusAt (place : Nat) : Nat := (place + 7) / 8

theorem radiusAt_mono {i j : Nat} (h : i ≤ j) : radiusAt i ≤ radiusAt j :=
  Nat.div_le_div_right (Nat.add_le_add_right h 7)

theorem length_ring (hcenter : center.Exact) (hradius : radius ≤ twoPower 53) : (ring center radius).length = 8 := by
  have hlength := congrArg List.length (map_ringPoint hcenter hradius)
  rw [List.length_map, List.length_map] at hlength
  exact hlength.symm

/-- A place in a row of blocks of one size. -/
theorem mem_block_of_getElem? {α : Type} {block : Nat → List α} {size start count place : Nat} {a : α}
    (hblock : ∀ r ∈ List.range' start count, (block r).length = size)
    (h : ((List.range' start count).flatMap block)[place]? = some a) :
    start + place / size ∈ List.range' start count ∧ a ∈ block (start + place / size) := by
  induction count generalizing start place with
  | zero => cases h
  | succ count ih =>
    rw [List.range'_succ, List.flatMap_cons] at h
    rw [List.range'_succ] at hblock ⊢
    obtain ⟨hfirst, hrest⟩ := List.forall_mem_cons.1 hblock
    rcases Nat.lt_or_ge place size with hlt | hge
    · rw [List.getElem?_append_left (by omega)] at h
      rw [Nat.div_eq_of_lt hlt, Nat.add_zero]
      exact ⟨List.mem_cons_self, List.mem_of_getElem? h⟩
    · rw [List.getElem?_append_right (by omega), hfirst] at h
      obtain ⟨hradius, ha⟩ := ih hrest h
      have hsize : 0 < size := by
        rcases Nat.eq_zero_or_pos size with rfl | hpos
        · have hempty : (List.range' (start + 1) count).flatMap block = [] :=
            List.flatMap_eq_nil_iff.2 fun r hr => List.eq_nil_of_length_eq_zero (hrest r hr)
          rw [hempty] at h
          cases h
        · exact hpos
      have hplace : start + place / size = start + 1 + (place - size) / size := by
        rw [Nat.div_eq_sub_div hsize hge]
        omega
      rw [hplace]
      exact ⟨List.mem_cons_of_mem _ hradius, ha⟩

theorem ring_of_place {place : Nat} (hwanted : wanted.Exact) (hbounds : bounds.Exact)
    (h : (candidates wanted bounds)[place]? = some p) :
    place = 0 ∧ p = wanted ∨ radiusAt place ∈ List.range' 1 (ringCount bounds) ∧ p ∈ ring wanted (radiusAt place) := by
  cases place with
  | zero =>
    cases h
    exact .inl ⟨rfl, rfl⟩
  | succ place =>
    rw [candidates, List.getElem?_cons_succ] at h
    have hradius : radiusAt (place + 1) = 1 + place / 8 := by
      unfold radiusAt
      omega
    rw [hradius]
    exact .inr (mem_block_of_getElem? (fun r hr => length_ring hwanted (le_of_mem_rings hbounds hr)) h)

/-! ## Two runs -/

/-- The search answers with a point, which it meets at a place of its order and on the ring of that place. -/
structure StopsAt (existing : List Box) (extent : Extent) (wanted : Point) (bounds : Extent) (place : Nat) (p : Point) :
    Prop where
  answer : findFree existing extent wanted bounds = .ok (some p)
  first : FirstAt (fun q => Box.canPlace existing ⟨q, extent⟩ bounds) (candidates wanted bounds) place p
  ring : place = 0 ∧ p = wanted ∨
    radiusAt place ∈ List.range' 1 (ringCount bounds) ∧ p ∈ ring wanted (radiusAt place)

theorem exists_stopsAt (hwanted : wanted.Exact) (hbounds : bounds.Exact)
    (h : findFree existing extent wanted bounds = .ok (some p)) :
    ∃ place, StopsAt existing extent wanted bounds place p := by
  have hfound := h
  rw [findFree_eq hwanted hbounds] at hfound
  obtain ⟨place, hfirst⟩ := firstAt_iff_find?.2 (Except.ok.inj hfound)
  exact ⟨place, h, hfirst, ring_of_place hwanted hbounds hfirst.stands⟩

/-- With more room the search stops at the same place or at an earlier one. -/
theorem StopsAt.roomier {place : Nat} (hwanted : wanted.Exact) (hbounds : bounds.Exact)
    (h : StopsAt existing extent wanted bounds place p) (hfewer : fewer ⊆ existing) (hlarger : bounds.Within larger) :
    ∃ earlier ≤ place, ∃ q, StopsAt fewer extent wanted larger earlier q := by
  -- The stop lies among the candidates of the smaller canvas, whose rings are all known to have eight points.
  obtain ⟨earlier, hle, q, hfirst⟩ := h.first.weaken fun _ hroom => Box.canPlace_mono hfewer hlarger hroom
  have hanswer := findFree_of_find? hwanted hbounds hlarger (firstAt_iff_find?.1 ⟨earlier, hfirst⟩)
  have hring := ring_of_place hwanted hbounds hfirst.stands
  refine ⟨earlier, hle, q, hanswer, hfirst.extend (candidates_grow wanted hlarger), hring.imp_right ?_⟩
  refine And.imp_left fun hradius => ?_
  have hcount := ringCount_mono hlarger
  rw [List.mem_range'_1] at hradius ⊢
  omega

/-- **More room never sends a box further away.** The answer depends on the set of the other boxes alone. And if there
is a spot, then with any of them taken away and on a canvas that is larger in either direction there is one too, at the
same place of the order or at an earlier one, and so on no larger ring; the order of the larger canvas begins with that
of the smaller one. -/
theorem findFree_monotone (existing : List Box) (extent : Extent) (hwanted : wanted.Exact) (hbounds : bounds.Exact) :
    (∀ others : List Box, (∀ b, b ∈ others ↔ b ∈ existing) →
      findFree others extent wanted bounds = findFree existing extent wanted bounds) ∧
    ∀ p, findFree existing extent wanted bounds = .ok (some p) →
      ∀ (fewer : List Box) (larger : Extent), fewer ⊆ existing → bounds.Within larger →
        candidates wanted bounds <+: candidates wanted larger ∧
        ∃ place earlier q, StopsAt existing extent wanted bounds place p ∧
          StopsAt fewer extent wanted larger earlier q ∧ earlier ≤ place ∧ radiusAt earlier ≤ radiusAt place := by
  refine ⟨fun others h => findFree_congr (Box.canPlace_congr h), fun p h fewer larger hfewer hlarger => ?_⟩
  obtain ⟨place, hstop⟩ := exists_stopsAt hwanted hbounds h
  obtain ⟨earlier, hle, q, hroomier⟩ := hstop.roomier hwanted hbounds hfewer hlarger
  exact ⟨candidates_grow wanted hlarger, place, earlier, q, hstop, hroomier, hle, radiusAt_mono hle⟩

/-- Two boxes side by side push the third to the fourth ring, in either order; without the second it goes to the second
ring, also on a canvas that is twice as high. -/
theorem findFree_monotone_row :
    let left : Box := ⟨⟨0, 0⟩, ⟨2, 2⟩⟩
    let right : Box := ⟨⟨2, 0⟩, ⟨2, 2⟩⟩
    Point.Exact ⟨0, 0⟩ ∧ Extent.Exact ⟨6, 2⟩ ∧ [left] ⊆ [left, right] ∧ Extent.Within ⟨6, 2⟩ ⟨6, 4⟩ ∧
      findFree [left, right] ⟨2, 2⟩ ⟨0, 0⟩ ⟨6, 2⟩ = .ok (some ⟨4, 0⟩) ∧
      findFree [right, left, right] ⟨2, 2⟩ ⟨0, 0⟩ ⟨6, 2⟩ = .ok (some ⟨4, 0⟩) ∧
      findFree [left] ⟨2, 2⟩ ⟨0, 0⟩ ⟨6, 4⟩ = .ok (some ⟨2, 0⟩) ∧
      ∃ place earlier, StopsAt [left, right] ⟨2, 2⟩ ⟨0, 0⟩ ⟨6, 2⟩ place ⟨4, 0⟩ ∧
        StopsAt [left] ⟨2, 2⟩ ⟨0, 0⟩ ⟨6, 4⟩ earlier ⟨2, 0⟩ ∧ earlier ≤ place ∧ radiusAt earlier ≤ radiusAt place := by
  intro left right
  have hwanted : Point.Exact ⟨0, 0⟩ := ⟨by decide, by decide⟩
  have hbounds : Extent.Exact ⟨6, 2⟩ := ⟨by decide, by decide⟩
  have hfewer : [left] ⊆ [left, right] := by simp
  have hlarger : Extent.Within ⟨6, 2⟩ ⟨6, 4⟩ := ⟨by decide, by decide⟩
  have hboth : findFree [left, right] ⟨2, 2⟩ ⟨0, 0⟩ ⟨6, 2⟩ = .ok (some ⟨4, 0⟩) := by decide +kernel
  have hone : findFree [left] ⟨2, 2⟩ ⟨0, 0⟩ ⟨6, 4⟩ = .ok (some ⟨2, 0⟩) := by decide +kernel
  obtain ⟨hset, hroom⟩ := findFree_monotone [left, right] ⟨2, 2⟩ hwanted hbounds
  have hagain := hset [right, left, right] (by simp [or_comm])
  obtain ⟨-, place, earlier, q, hstop, hroomier, hle, hradius⟩ := hroom _ hboth [left] ⟨6, 4⟩ hfewer hlarger
  have hq := hroomier.answer
  rw [hone] at hq
  cases hq
  exact ⟨hwanted, hbounds, hfewer, hlarger, hboth, hagain.trans hboth, hone, place, earlier, hstop, hroomier, hle,
    hradius⟩

end Search

end DashboardCompiler
