import DashboardCompiler.Placement.Session
import DashboardCompiler.Proofs.Except
import Mathlib.Data.List.Nodup

/-!
# Editor sessions keep the canvas clean

An editor puts boxes down only where the search found room, moves them only where there is room, and never
gives an id twice. `Clean` is what every such step keeps, whatever the sizes of the boxes: ids stay apart
and so do boxes. `Inside` is kept as well while no change of bounds takes cells away.

The search and the move test a new box against the boxes that are there; the lint tests an earlier box
against a later one. `Box.overlaps_comm` is what makes the two agree.
-/

namespace DashboardCompiler

namespace Box

theorem canPlace_iff {existing : List Box} {b : Box} {bounds : Extent} :
    canPlace existing b bounds = true ↔
      b.fits bounds = true ∧ ∀ e ∈ existing, b.overlaps e = false := by
  simp [canPlace]

end Box

namespace Search

variable {existing : List Box} {extent bounds : Extent} {center p : Point}

theorem firstOnRing_canPlace {radius : Nat} {ds : List Direction}
    (h : firstOnRing existing extent bounds center radius ds = .ok (some p)) :
    Box.canPlace existing ⟨p, extent⟩ bounds = true := by
  induction ds with
  | nil => cases h
  | cons d ds ih =>
    rw [firstOnRing] at h
    obtain ⟨q, -, h⟩ := bind_ok_iff.1 h
    by_cases hq : Box.canPlace existing ⟨q, extent⟩ bounds = true
    · rw [if_pos hq] at h
      cases h
      exact hq
    · rw [if_neg hq] at h
      exact ih h

theorem firstOnRings_canPlace {rings radius : Nat}
    (h : firstOnRings existing extent bounds center rings radius = .ok (some p)) :
    Box.canPlace existing ⟨p, extent⟩ bounds = true := by
  induction rings generalizing radius with
  | zero => cases h
  | succ rings ih =>
    rw [firstOnRings] at h
    obtain ⟨found, hring, h⟩ := bind_ok_iff.1 h
    cases found with
    | some q =>
      cases h
      exact firstOnRing_canPlace hring
    | none => exact ih h

/-- Whatever the search answers, the box can be placed there. -/
theorem findFree_canPlace {wanted : Point} (h : findFree existing extent wanted bounds = .ok (some p)) :
    Box.canPlace existing ⟨p, extent⟩ bounds = true := by
  unfold findFree at h
  by_cases hw : Box.canPlace existing ⟨wanted, extent⟩ bounds = true
  · rw [if_pos hw] at h
    cases h
    exact hw
  · rw [if_neg hw] at h
    exact firstOnRings_canPlace h

end Search

namespace Placed

theorem boundsWarnings_eq_nil_iff (bounds : Extent) (p : Placed) :
    boundsWarnings bounds p = [] ↔ p.box.fits bounds = true := by
  simp only [boundsWarnings, Box.fits, List.append_eq_nil_iff, ite_eq_right_iff, List.cons_ne_nil,
    imp_false, not_or, Int.not_lt, Bool.and_eq_true, decide_eq_true_eq, and_assoc]

theorem allBoundsWarnings_eq_nil_iff (ps : List Placed) (bounds : Extent) :
    allBoundsWarnings ps bounds = [] ↔ ∀ p ∈ ps, p.box.fits bounds = true := by
  rw [allBoundsWarnings, List.flatMap_eq_nil_iff]
  simp only [boundsWarnings_eq_nil_iff]

/-- Two boxes are apart when they share no cell. -/
def Apart (p q : Placed) : Prop := p.box.overlaps q.box = false

theorem Apart.symm {p q : Placed} (h : p.Apart q) : q.Apart p := (Box.overlaps_comm _ _).trans h

theorem collisions_eq_nil_iff (ps : List Placed) : collisions ps = [] ↔ ps.Pairwise Apart := by
  induction ps with
  | nil => simp [collisions]
  | cons p ps ih =>
    rw [collisions, List.append_eq_nil_iff, List.map_eq_nil_iff, List.filter_eq_nil_iff, ih,
      List.pairwise_cons]
    simp only [Apart, Bool.not_eq_true]

end Placed

namespace Canvas

def empty (bounds : Extent) : Canvas := ⟨bounds, []⟩

/-- Ids are given once, and boxes share no cells. -/
structure Clean (c : Canvas) : Prop where
  ids : (c.boxes.map (·.id)).Nodup
  apart : c.boxes.Pairwise Placed.Apart

def Inside (c : Canvas) : Prop := ∀ p ∈ c.boxes, p.box.fits c.bounds = true

/-- The canvas after a step; one that fails leaves it as it was. -/
def after (c : Canvas) (step : Step) : Canvas :=
  match c.apply step with
  | .ok (_, next) => next
  | .error _ => c

/-- What an editor does: a new box gets an id that no box has, and nothing is put down unchecked. -/
def Edits (c : Canvas) : Step → Prop
  | .place id _ _ _ => ∀ p ∈ c.boxes, p.id ≠ id
  | .force _ => False
  | .move .. | .remove _ | .resize _ | .lint => True

/-- Every step is one of an editor on the canvas that it finds. -/
def EditorSession (c : Canvas) : List Step → Prop
  | [] => True
  | step :: rest => c.Edits step ∧ (c.after step).EditorSession rest

instance (c : Canvas) : (step : Step) → Decidable (c.Edits step)
  | .place id _ _ _ => inferInstanceAs (Decidable (∀ p ∈ c.boxes, p.id ≠ id))
  | .force _ => isFalse id
  | .move .. | .remove _ | .resize _ | .lint => isTrue trivial

instance decidableEditorSession (c : Canvas) : (steps : List Step) → Decidable (c.EditorSession steps)
  | [] => isTrue trivial
  | step :: rest =>
    have := decidableEditorSession (c.after step) rest
    inferInstanceAs (Decidable (c.Edits step ∧ (c.after step).EditorSession rest))

/-- The new bounds are smaller in a dimension. -/
def Shrinks (c : Canvas) : Step → Prop
  | .resize bounds => bounds.width < c.bounds.width ∨ bounds.height < c.bounds.height
  | _ => False

def NeverShrinks (c : Canvas) : List Step → Prop
  | [] => True
  | step :: rest => ¬ c.Shrinks step ∧ (c.after step).NeverShrinks rest

/-- The answers of steps that fail, find no spot or are turned down. -/
def Refused : Except ArithmeticFault Answer → Prop
  | .error _ | .ok (.spot none) | .ok (.moved false) => True
  | _ => False

instance (c : Canvas) : (step : Step) → Decidable (c.Shrinks step)
  | .resize bounds =>
    inferInstanceAs (Decidable (bounds.width < c.bounds.width ∨ bounds.height < c.bounds.height))
  | .place .. | .force _ | .move .. | .remove _ | .lint => isFalse id

instance decidableNeverShrinks (c : Canvas) : (steps : List Step) → Decidable (c.NeverShrinks steps)
  | [] => isTrue trivial
  | step :: rest =>
    have := decidableNeverShrinks (c.after step) rest
    inferInstanceAs (Decidable (¬ c.Shrinks step ∧ (c.after step).NeverShrinks rest))

/-- All that a step of an editor can make of a canvas, with the room that was found for a box. -/
inductive Change (c : Canvas) : Step → Canvas → Prop
  | unchanged (step : Step) : Change c step c
  | added {id : String} {corner : Point} {extent : Extent} (wanted : Point) (grid : Option Int)
      (fresh : ∀ p ∈ c.boxes, p.id ≠ id)
      (room : Box.canPlace (c.boxes.map (·.box)) ⟨corner, extent⟩ c.bounds = true) :
      Change c (.place id wanted extent grid) { c with boxes := c.boxes ++ [⟨id, corner, extent⟩] }
  | moved {before rest : List Placed} {p : Placed} {corner : Point}
      (boxes : c.boxes = before ++ p :: rest)
      (room : Box.canPlace ((c.boxes.filter (·.id ≠ p.id)).map (·.box)) ⟨corner, p.box.extent⟩
        c.bounds = true) :
      Change c (.move p.id corner)
        { c with boxes := before ++ { p with box := { p.box with corner } } :: rest }
  | removed (id : String) : Change c (.remove id) { c with boxes := c.boxes.filter (·.id ≠ id) }
  | resized (bounds : Extent) : Change c (.resize bounds) { c with bounds }

/-! ## What a step can do -/

theorem place_cases {c next : Canvas} {id : String} {wanted : Point} {extent : Extent}
    {grid : Option Int} {answer : Answer} (h : c.place id wanted extent grid = .ok (answer, next)) :
    (answer = .spot none ∧ next = c) ∨
    ∃ p, answer = .spot (some p) ∧ next = { c with boxes := c.boxes ++ [⟨id, p, extent⟩] } ∧
      Box.canPlace (c.boxes.map (·.box)) ⟨p, extent⟩ c.bounds = true := by
  unfold place at h
  obtain ⟨corner, -, h⟩ := bind_ok_iff.1 h
  obtain ⟨found, hfind, h⟩ := bind_ok_iff.1 h
  cases found with
  | none =>
    cases h
    exact .inl ⟨rfl, rfl⟩
  | some p =>
    cases h
    exact .inr ⟨p, rfl, rfl, Search.findFree_canPlace hfind⟩

theorem moveFirst_append {before rest : List Placed} {p : Placed} {id : String} {corner : Point}
    (hp : p.id = id) (hbefore : ∀ q ∈ before, q.id ≠ id) :
    moveFirst id corner (before ++ p :: rest) =
      before ++ { p with box := { p.box with corner } } :: rest := by
  induction before with
  | nil => rw [List.nil_append, moveFirst, if_pos hp, List.nil_append]
  | cons q before ih =>
    rw [List.forall_mem_cons] at hbefore
    rw [List.cons_append, moveFirst, if_neg hbefore.1, ih hbefore.2, List.cons_append]

theorem move_change (c : Canvas) (id : String) (corner : Point) :
    Change c (.move id corner) (c.move id corner).2 := by
  unfold move
  cases hfind : c.boxes.find? (·.id = id) with
  | none => exact .unchanged _
  | some p =>
    obtain ⟨hp, before, rest, hboxes, hbefore⟩ := List.find?_eq_some_iff_append.1 hfind
    obtain rfl : p.id = id := of_decide_eq_true hp
    have hmove : moveFirst p.id corner c.boxes =
        before ++ { p with box := { p.box with corner } } :: rest := by
      rw [hboxes]
      refine moveFirst_append rfl fun q hq => ?_
      simpa using hbefore q hq
    dsimp only
    split
    · next room =>
      rw [hmove]
      exact .moved hboxes room
    · exact .unchanged _

theorem apply_change {c next : Canvas} {step : Step} {answer : Answer} (hs : c.Edits step)
    (h : c.apply step = .ok (answer, next)) : Change c step next := by
  cases step with
  | place id wanted extent grid =>
    obtain ⟨-, rfl⟩ | ⟨p, -, rfl, room⟩ := place_cases h
    · exact .unchanged _
    · exact .added wanted grid hs room
  | force p => exact hs.elim
  | move id corner =>
    have hmove : c.move id corner = (answer, next) := Except.ok.inj h
    have hchange := move_change c id corner
    rwa [hmove] at hchange
  | remove id =>
    cases h
    exact .removed id
  | resize bounds =>
    cases h
    exact .resized bounds
  | lint =>
    cases h
    exact .unchanged _

theorem after_change {c : Canvas} {step : Step} (hs : c.Edits step) :
    Change c step (c.after step) := by
  unfold after
  cases h : c.apply step with
  | error fault => exact .unchanged step
  | ok result => exact apply_change hs h

/-! ## What a step keeps -/

theorem clean_append {c : Canvas} {id : String} {corner : Point} {extent : Extent} (hc : c.Clean)
    (hid : ∀ p ∈ c.boxes, p.id ≠ id)
    (hplace : Box.canPlace (c.boxes.map (·.box)) ⟨corner, extent⟩ c.bounds = true) :
    ({ c with boxes := c.boxes ++ [⟨id, corner, extent⟩] } : Canvas).Clean := by
  have hfree := (Box.canPlace_iff.1 hplace).2
  constructor
  · rw [List.map_append, List.nodup_append']
    refine ⟨hc.ids, by simp, ?_⟩
    intro other hmem hlast
    obtain ⟨p, hp, rfl⟩ := List.mem_map.1 hmem
    exact hid p hp (by simpa using hlast)
  · rw [List.pairwise_append]
    refine ⟨hc.apart, by simp, ?_⟩
    intro p hp q hq
    obtain rfl := List.mem_singleton.1 hq
    exact Placed.Apart.symm (hfree p.box (List.mem_map_of_mem hp))

/-- A box that is moved still shares no cells with the boxes before it and after it. -/
theorem clean_move {c : Canvas} {before rest : List Placed} {p : Placed} {corner : Point}
    (hc : c.Clean) (hboxes : c.boxes = before ++ p :: rest)
    (hplace : Box.canPlace ((c.boxes.filter (·.id ≠ p.id)).map (·.box)) ⟨corner, p.box.extent⟩
      c.bounds = true) :
    ({ c with boxes := before ++ { p with box := { p.box with corner } } :: rest } : Canvas).Clean := by
  have hids := hc.ids
  have hapart := hc.apart
  rw [hboxes, List.map_append, List.map_cons] at hids
  rw [hboxes, List.pairwise_append, List.pairwise_cons] at hapart
  obtain ⟨hbefore, ⟨-, hrest⟩, hacross⟩ := hapart
  have hother : ∀ q, q ∈ before ∨ q ∈ rest → q.id ≠ p.id := by
    intro q hq he
    rw [List.nodup_middle, List.nodup_cons, ← he, ← List.map_append] at hids
    exact hids.1 (List.mem_map_of_mem (List.mem_append.2 hq))
  have hfree : ∀ q, q ∈ before ∨ q ∈ rest →
      (⟨corner, p.box.extent⟩ : Box).overlaps q.box = false := by
    intro q hq
    refine (Box.canPlace_iff.1 hplace).2 q.box (List.mem_map_of_mem (List.mem_filter.2 ⟨?_, ?_⟩))
    · rw [hboxes]
      rcases hq with hq | hq
      · exact List.mem_append_left _ hq
      · exact List.mem_append_right _ (List.mem_cons_of_mem _ hq)
    · simpa using hother q hq
  constructor
  · rw [List.map_append, List.map_cons]
    exact hids
  · rw [List.pairwise_append, List.pairwise_cons]
    refine ⟨hbefore, ⟨fun q hq => hfree q (.inr hq), hrest⟩, ?_⟩
    intro q hq r hr
    rcases List.mem_cons.1 hr with rfl | hr
    · exact Placed.Apart.symm (hfree q (.inl hq))
    · exact hacross q hq r (List.mem_cons_of_mem _ hr)

theorem Clean.change {c next : Canvas} {step : Step} (hc : c.Clean) (h : Change c step next) :
    next.Clean := by
  cases h with
  | unchanged => exact hc
  | added wanted grid fresh room => exact clean_append hc fresh room
  | moved boxes room => exact clean_move hc boxes room
  | removed id =>
    have hsub := List.filter_sublist (p := fun p : Placed => p.id ≠ id) (l := c.boxes)
    exact ⟨hc.ids.sublist (hsub.map _), hc.apart.sublist hsub⟩
  | resized bounds => exact ⟨hc.ids, hc.apart⟩

theorem fits_mono {b : Box} {small large : Extent} (hw : small.width ≤ large.width)
    (hh : small.height ≤ large.height) (h : b.fits small = true) : b.fits large = true := by
  simp only [Box.fits, Bool.and_eq_true, decide_eq_true_eq] at h ⊢
  omega

theorem Inside.change {c next : Canvas} {step : Step} (hc : c.Inside) (h : Change c step next)
    (hgrow : ¬ c.Shrinks step) : next.Inside := by
  cases h with
  | unchanged => exact hc
  | added wanted grid fresh room =>
    intro q hq
    rcases List.mem_append.1 hq with hq | hq
    · exact hc q hq
    · obtain rfl := List.mem_singleton.1 hq
      exact (Box.canPlace_iff.1 room).1
  | @moved before rest p corner boxes room =>
    intro q hq
    have hold : q ∈ before ∨ q ∈ rest → q ∈ c.boxes := by
      rw [boxes]
      rintro (hq | hq)
      · exact List.mem_append_left _ hq
      · exact List.mem_append_right _ (List.mem_cons_of_mem _ hq)
    rcases List.mem_append.1 hq with hq | hq
    · exact hc q (hold (.inl hq))
    · rcases List.mem_cons.1 hq with rfl | hq
      · exact (Box.canPlace_iff.1 room).1
      · exact hc q (hold (.inr hq))
  | removed id =>
    intro q hq
    exact hc q (List.mem_filter.1 hq).1
  | resized bounds =>
    intro q hq
    simp only [Shrinks, not_or, Int.not_lt] at hgrow
    exact fits_mono hgrow.1 hgrow.2 (hc q hq)

theorem move_of_refused (c : Canvas) (id : String) (corner : Point)
    (h : Refused (.ok (c.move id corner).1)) : (c.move id corner).2 = c := by
  unfold move at h ⊢
  cases hfind : c.boxes.find? (·.id = id) with
  | none => rfl
  | some p =>
    rw [hfind] at h
    dsimp only at h ⊢
    split
    · next room =>
      rw [if_pos room] at h
      exact h.elim
    · rfl

/-- A step that is refused changes nothing, whoever takes it. -/
theorem after_of_refused {c : Canvas} {step : Step}
    (h : Refused ((c.apply step).map Prod.fst)) : c.after step = c := by
  unfold after
  cases happly : c.apply step with
  | error fault => rfl
  | ok result =>
    obtain ⟨answer, next⟩ := result
    rw [happly] at h
    cases step with
    | place id wanted extent grid =>
      obtain ⟨-, hnext⟩ | ⟨p, hanswer, -, -⟩ := place_cases happly
      · exact hnext
      · rw [hanswer] at h
        exact h.elim
    | move id corner =>
      have hmove : c.move id corner = (answer, next) := Except.ok.inj happly
      have hsame := move_of_refused c id corner
      rw [hmove] at hsame
      exact hsame h
    | lint =>
      cases happly
      rfl
    | force p =>
      cases happly
      exact h.elim
    | remove id =>
      cases happly
      exact h.elim
    | resize bounds =>
      cases happly
      exact h.elim

/-! ## Sessions -/

theorem run_cons (c : Canvas) (step : Step) (rest : List Step) :
    c.run (step :: rest) = ((c.apply step).map Prod.fst, c.after step) :: (c.after step).run rest := by
  unfold after
  rw [run]
  cases c.apply step with
  | error fault => rfl
  | ok result => rfl

theorem clean_run {c : Canvas} {steps : List Step} (hc : c.Clean) (h : c.EditorSession steps) :
    ∀ entry ∈ c.run steps, entry.2.Clean := by
  induction steps generalizing c with
  | nil => nofun
  | cons step rest ih =>
    have hnext := hc.change (after_change h.1)
    rw [run_cons, List.forall_mem_cons]
    exact ⟨hnext, ih hnext h.2⟩

theorem inside_run {c : Canvas} {steps : List Step} (hc : c.Inside) (h : c.EditorSession steps)
    (n : Nat) (hgrow : c.NeverShrinks (steps.take n)) :
    ∀ entry ∈ (c.run steps).take n, entry.2.Inside := by
  induction steps generalizing c n with
  | nil => simp [run]
  | cons step rest ih =>
    cases n with
    | zero => simp
    | succ n =>
      have hnext := hc.change (after_change h.1) hgrow.1
      rw [run_cons, List.take_succ_cons, List.forall_mem_cons]
      exact ⟨hnext, ih hnext h.2 n hgrow.2⟩

theorem refused_run (c : Canvas) (steps : List Step) (i : Nat) (answer : Except ArithmeticFault Answer)
    (next : Canvas) (h : (c.run steps)[i]? = some (answer, next)) (hr : Refused answer) :
    (c :: (c.run steps).map Prod.snd)[i]? = some next := by
  induction steps generalizing c i with
  | nil => simp [run] at h
  | cons step rest ih =>
    rw [run_cons] at h ⊢
    cases i with
    | zero =>
      simp only [List.getElem?_cons_zero, Option.some.injEq, Prod.mk.injEq] at h
      obtain ⟨rfl, rfl⟩ := h
      rw [List.getElem?_cons_zero, after_of_refused hr]
    | succ i =>
      rw [List.getElem?_cons_succ] at h
      rw [List.map_cons, List.getElem?_cons_succ]
      exact ih (c.after step) i h

theorem clean_empty (bounds : Extent) : (empty bounds).Clean := ⟨List.nodup_nil, .nil⟩

theorem inside_empty (bounds : Extent) : (empty bounds).Inside := nofun

/-- **Editor sessions keep the canvas clean.** From an empty canvas on, no step of a session leaves two
boxes that share a cell; up to the first change of bounds that takes cells away no box leaves the canvas
either; and what is refused leaves the canvas as the step found it. -/
theorem session_clean (bounds : Extent) (steps : List Step) (h : (empty bounds).EditorSession steps) :
    (∀ entry ∈ (empty bounds).run steps, Placed.collisions entry.2.boxes = []) ∧
    (∀ n, (empty bounds).NeverShrinks (steps.take n) → ∀ entry ∈ ((empty bounds).run steps).take n,
      Placed.allBoundsWarnings entry.2.boxes entry.2.bounds = [] ∧
      Placed.lint entry.2.boxes entry.2.bounds = []) ∧
    ∀ (i : Nat) (answer : Except ArithmeticFault Answer) (next : Canvas),
      ((empty bounds).run steps)[i]? = some (answer, next) → Refused answer →
      (empty bounds :: ((empty bounds).run steps).map Prod.snd)[i]? = some next := by
  have hclean : ∀ entry ∈ (empty bounds).run steps, Placed.collisions entry.2.boxes = [] := by
    intro entry hentry
    exact (Placed.collisions_eq_nil_iff _).2 (clean_run (clean_empty bounds) h entry hentry).apart
  refine ⟨hclean, ?_, refused_run _ steps⟩
  intro n hgrow entry hentry
  have hbounds : Placed.allBoundsWarnings entry.2.boxes entry.2.bounds = [] :=
    (Placed.allBoundsWarnings_eq_nil_iff _ _).2 (inside_run (inside_empty bounds) h n hgrow entry hentry)
  refine ⟨hbounds, ?_⟩
  rw [Placed.lint, hbounds, hclean entry (List.mem_of_mem_take hentry), List.nil_append]

/-- The second box is dropped onto the first and finds room beside it; the third finds none, and the last
move but one is turned down. -/
def crowdedSession : List Step :=
  [.place "a" ⟨1, 1⟩ ⟨2, 2⟩ (some 4), .place "b" ⟨1, 0⟩ ⟨2, 2⟩ none, .place "c" ⟨0, 0⟩ ⟨3, 2⟩ none,
   .move "b" ⟨1, 0⟩, .resize ⟨9, 3⟩, .move "b" ⟨6, 1⟩, .remove "a", .resize ⟨4, 2⟩]

theorem session_clean_crowded :
    (empty ⟨4, 2⟩).EditorSession crowdedSession ∧
    (empty ⟨4, 2⟩).NeverShrinks (crowdedSession.take 7) ∧
    (∀ entry ∈ (empty ⟨4, 2⟩).run crowdedSession, Placed.collisions entry.2.boxes = []) ∧
    ∀ entry ∈ ((empty ⟨4, 2⟩).run crowdedSession).take 7,
      Placed.lint entry.2.boxes entry.2.bounds = [] := by
  have hsession : (empty ⟨4, 2⟩).EditorSession crowdedSession := by decide +kernel
  have hgrow : (empty ⟨4, 2⟩).NeverShrinks (crowdedSession.take 7) := by decide +kernel
  obtain ⟨hclean, hlint, -⟩ := session_clean ⟨4, 2⟩ crowdedSession hsession
  exact ⟨hsession, hgrow, hclean, fun entry hentry => (hlint 7 hgrow entry hentry).2⟩

end Canvas

end DashboardCompiler
