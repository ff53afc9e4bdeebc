import DashboardCompiler.Display.Plot
import DashboardCompiler.Proofs.Except
import DashboardCompiler.Proofs.Number

/-!
# The progress animation

Each tick adds two, and a value past a hundred starts again at zero; a hundred itself is still shown. The start is an
integer, and so is everything up to the first turn, odd after an odd start. The zero of a turn is a double, and from it
on the values are the even ones, whatever the start was. So a run is an opening that belongs to its start, and after it
rounds of 51 ticks that are the same for all starts.
-/

namespace DashboardCompiler

/-- Whole numbers whose sum is a double add exactly. -/
theorem Double.ofInt_add {m n : Nat} (h : m + n ≤ twoPower 53) : (ofInt m).add (ofInt n) = ofInt (m + n : Nat) := by
  rw [ofInt_natCast (show m ≤ twoPower 53 by omega), ofInt_natCast (show n ≤ twoPower 53 by omega), ofInt_natCast h]
  have hsum : ((m * unitsPerOne : Nat) : Int) + (n * unitsPerOne : Nat) = ((m + n) * unitsPerOne : Nat) := by
    rw [Nat.add_mul, Nat.cast_add]
  have hadd (hm hn) : (finite false (m * unitsPerOne) hm).add (.finite false (n * unitsPerOne) hn) =
      if ((m * unitsPerOne : Nat) : Int) + (n * unitsPerOne : Nat) = 0 then zero false else
        round (decide (((m * unitsPerOne : Nat) : Int) + (n * unitsPerOne : Nat) < 0))
          (((m * unitsPerOne : Nat) : Int) + (n * unitsPerOne : Nat)).natAbs 1 := rfl
  rw [hadd, hsum, Int.natAbs_natCast, decide_eq_false (by omega), round_of_eq (whole_representable h).roundedUnits]
  split
  · rename_i hzero
    have hunits : (m + n) * unitsPerOne = 0 := by exact_mod_cast hzero
    simp only [zero, hunits]
  · rfl

/-- A small whole number stands in one place, as an integer and as a double. -/
theorem Number.place?_ofInt {n : Nat} (hn : n ≤ twoPower 53) :
    (Number.double (Double.ofInt n)).place? = some (.at (n * unitsPerOne)) :=
  place?_double (Double.units?_ofInt (by rwa [Int.natAbs_natCast]))

namespace Display

/-! ## One tick -/

/-- A tick goes on to the sum as long as that is not past a hundred. -/
theorem advanceProgress_of_add {percent next : Number} {m : Int} (hadd : percent.add (.int progressStep) = .ok next)
    (hplace : next.place? = some (.at (m * unitsPerOne))) :
    advanceProgress percent = .ok (if m ≤ 100 then next else .double (Double.ofInt (0 : Nat))) := by
  have hturn : advanceProgress percent =
      .ok (if (Number.int 100).lt next then .double (Double.ofInt (0 : Nat)) else next) := bind_ok_iff.2 ⟨next, hadd, rfl⟩
  have hpast : (Number.int 100).lt next = !decide (m ≤ 100) := by
    rw [Number.lt_at (Number.place?_int 100) hplace, ← decide_not]
    exact decide_eq_decide.2 (by rw [← not_le, Number.units_le_iff])
  rw [hturn, hpast]
  by_cases hgoes : m ≤ 100
  · simp [hgoes]
  · simp [hgoes]

theorem advanceProgress_int (n : Int) :
    advanceProgress (.int n) = .ok (if n + 2 ≤ 100 then .int (n + 2) else .double (Double.ofInt (0 : Nat))) :=
  advanceProgress_of_add rfl (Number.place?_int _)

theorem advanceProgress_double {n : Nat} (hn : n ≤ 100) :
    advanceProgress (.double (Double.ofInt n)) =
      .ok (.double (Double.ofInt (if n + 2 ≤ 100 then n + 2 else 0 : Nat))) := by
  have hlimit : twoPower 53 = 9007199254740992 := rfl
  have hstep : Number.toDouble (.int progressStep) = .ok (Double.ofInt (2 : Nat)) := by decide +kernel
  have hsum := @Double.ofInt_add n 2 (by omega)
  have hadd : (Number.double (Double.ofInt n)).add (.int progressStep) = .ok (.double (Double.ofInt (n + 2 : Nat))) :=
    bind_ok_iff.2 ⟨_, rfl, bind_ok_iff.2 ⟨_, hstep, congrArg (fun x => Except.ok (Number.double x)) hsum⟩⟩
  rw [advanceProgress_of_add hadd (Number.place?_ofInt (by omega))]
  by_cases hgoes : n + 2 ≤ 100
  · rw [if_pos (by exact_mod_cast hgoes), if_pos hgoes]
  · rw [if_neg (by exact_mod_cast hgoes), if_neg hgoes]

/-! ## Runs -/

/-- What is shown after a number of ticks. -/
def afterTicks : Nat → Number → Except ArithmeticFault Number
  | 0, percent => .ok percent
  | ticks + 1, percent => advanceProgress percent >>= afterTicks ticks

theorem afterTicks_succ (ticks : Nat) (percent : Number) :
    afterTicks (ticks + 1) percent = afterTicks ticks percent >>= advanceProgress := by
  induction ticks generalizing percent with
  | zero =>
    show advanceProgress percent >>= Except.ok = advanceProgress percent
    cases advanceProgress percent <;> rfl
  | succ ticks ih =>
    show advanceProgress percent >>= afterTicks (ticks + 1) = (advanceProgress percent >>= afterTicks ticks) >>= _
    rw [funext ih]
    cases advanceProgress percent <;> rfl

/-- The tick of the first turn. -/
def firstTurn (start : Nat) : Nat := (100 - start) / 2 + 1

/-- The percentage that a run has reached after some ticks. -/
def percentAt (start ticks : Nat) : Nat :=
  if ticks < firstTurn start then start + 2 * ticks else 2 * ((ticks - firstTurn start) % 51)

/-- And how it is shown. -/
def shownAt (start ticks : Nat) : Number :=
  if ticks < firstTurn start then .int (percentAt start ticks) else .double (Double.ofInt (percentAt start ticks))

theorem percentAt_le {start : Nat} (hstart : start ≤ 100) (ticks : Nat) : percentAt start ticks ≤ 100 := by
  unfold percentAt firstTurn
  split <;> omega

theorem percentAt_opening {start ticks : Nat} (h : ticks < firstTurn start) :
    percentAt start ticks = start + 2 * ticks := if_pos h

theorem percentAt_rounds {start ticks : Nat} (h : firstTurn start ≤ ticks) :
    percentAt start ticks = 2 * ((ticks - firstTurn start) % 51) := if_neg (Nat.not_lt.2 h)

theorem percentAt_succ {start ticks : Nat} (hstart : start ≤ 100) :
    percentAt start (ticks + 1) = if percentAt start ticks + 2 ≤ 100 then percentAt start ticks + 2 else 0 := by
  rcases lt_trichotomy (ticks + 1) (firstTurn start) with hopening | hturn | hrounds
  · rw [percentAt_opening hopening, percentAt_opening (Nat.lt_of_succ_lt hopening)]
    rw [firstTurn] at hopening
    rw [if_pos (by omega)]
    omega
  · rw [percentAt_rounds hturn.ge, percentAt_opening (Nat.lt_of_succ_le hturn.le), hturn, Nat.sub_self]
    rw [firstTurn] at hturn
    rw [if_neg (by omega)]
  · rw [percentAt_rounds hrounds.le, percentAt_rounds (Nat.le_of_lt_succ hrounds), Nat.sub_add_comm]
    · split <;> omega
    · exact Nat.le_of_lt_succ hrounds

theorem place?_shownAt {start : Nat} (hstart : start ≤ 100) (ticks : Nat) :
    (shownAt start ticks).place? = some (.at (percentAt start ticks * unitsPerOne)) := by
  have hlimit : twoPower 53 = 9007199254740992 := rfl
  have hle := percentAt_le hstart ticks
  unfold shownAt
  split
  · exact Number.place?_int _
  · exact Number.place?_ofInt (by omega)

/-- One tick goes from what is shown to what is shown next. -/
theorem advanceProgress_shownAt {start : Nat} (hstart : start ≤ 100) (ticks : Nat) :
    advanceProgress (shownAt start ticks) = .ok (shownAt start (ticks + 1)) := by
  have hnext := @percentAt_succ start ticks hstart
  by_cases hopening : ticks < firstTurn start
  · have hshown : shownAt start ticks = .int (percentAt start ticks) := if_pos hopening
    have hpercent : percentAt start ticks = start + 2 * ticks := percentAt_opening hopening
    rw [hshown, advanceProgress_int]
    by_cases hgoes : percentAt start ticks + 2 ≤ 100
    · have hstill : ticks + 1 < firstTurn start := by
        rw [firstTurn]
        omega
      rw [if_pos hgoes] at hnext
      rw [if_pos (by exact_mod_cast hgoes), shownAt, if_pos hstill, hnext]
      rfl
    · have hturn : ¬ ticks + 1 < firstTurn start := by
        rw [firstTurn]
        omega
      rw [if_neg hgoes] at hnext
      rw [if_neg (by exact_mod_cast hgoes), shownAt, if_neg hturn, hnext]
  · have hshown : shownAt start ticks = .double (Double.ofInt (percentAt start ticks)) := if_neg hopening
    have hstill : ¬ ticks + 1 < firstTurn start := by omega
    rw [hshown, advanceProgress_double (percentAt_le hstart ticks), shownAt, if_neg hstill, hnext]

theorem afterTicks_eq {start : Nat} (hstart : start ≤ 100) (ticks : Nat) :
    afterTicks ticks (.int start) = .ok (shownAt start ticks) := by
  induction ticks with
  | zero =>
    have hopening : 0 < firstTurn start := by
      rw [firstTurn]
      omega
    rw [shownAt, if_pos hopening, percentAt_opening hopening]
    rfl
  | succ ticks ih => rw [afterTicks_succ, ih, ← advanceProgress_shownAt hstart]; rfl

/-- After the first turn every 51st tick shows the same. -/
theorem shownAt_period {start ticks : Nat} (h : firstTurn start ≤ ticks) :
    shownAt start (ticks + 51) = shownAt start ticks := by
  have hpercent : percentAt start (ticks + 51) = percentAt start ticks := by
    rw [percentAt_rounds (by omega), percentAt_rounds h]
    omega
  rw [shownAt, shownAt, if_neg (by omega), if_neg (by omega), hpercent]

/-- **The animation in closed form.** From every start within the range it never ends and never leaves the range; it
counts up to its first turn and then goes through the even percentages for ever. -/
theorem afterTicks_exact {start : Int} (hlow : 0 ≤ start) (hhigh : start ≤ 100) (ticks : Nat) :
    ∃ shown, afterTicks ticks (.int start) = .ok shown ∧
      (Number.int 0).le shown = true ∧ shown.le (.int 100) = true ∧
      let turn := ((100 - start) / 2 + 1).toNat
      shown.eqValue (.int (if ticks < turn then start + 2 * ticks else 2 * (((ticks - turn) % 51 : Nat) : Int))) = true ∧
        (turn ≤ ticks → afterTicks (ticks + 51) (.int start) = .ok shown) := by
  obtain ⟨start, rfl⟩ := Int.eq_ofNat_of_zero_le hlow
  have hstart : start ≤ 100 := by omega
  have hplace := place?_shownAt hstart ticks
  have hle := percentAt_le hstart ticks
  have hturn : ((100 - (start : Int)) / 2 + 1).toNat = firstTurn start := by
    rw [firstTurn]
    omega
  refine ⟨shownAt start ticks, afterTicks_eq hstart ticks, ?_, ?_, ?_, fun hlater => ?_⟩
  · rw [Number.le_at (Number.place?_int 0) hplace, decide_eq_true_eq, Number.units_le_iff]
    omega
  · rw [Number.le_at hplace (Number.place?_int 100), decide_eq_true_eq, Number.units_le_iff]
    omega
  · rw [Number.eqValue_at hplace (Number.place?_int _), decide_eq_true_eq, hturn, percentAt]
    congr 1
    split <;> push_cast <;> rfl
  · rw [hturn] at hlater
    rw [afterTicks_eq hstart, shownAt_period hlater]

/-- An odd start turns at its second tick, after 99; 52 ticks later it has gone round once and is at two again. -/
theorem afterTicks_exact_odd : ∃ shown, afterTicks 54 (.int 97) = .ok shown ∧
    (Number.int 0).le shown = true ∧ shown.le (.int 100) = true ∧ shown.eqValue (.int 2) = true := by
  obtain ⟨shown, hshown, hlow, hhigh, hvalue, -⟩ := @afterTicks_exact 97 (by decide) (by decide) 54
  exact ⟨shown, hshown, hlow, hhigh, hvalue⟩

end Display

end DashboardCompiler
