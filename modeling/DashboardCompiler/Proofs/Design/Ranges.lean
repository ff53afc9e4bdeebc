import DashboardCompiler.Design.Properties
import DashboardCompiler.Proofs.Number
import DashboardCompiler.Proofs.Schema.Readers

/-!
# Value ranges

Progress bars and gauges have a range of values. Its bounds are the integers of the defaults or the doubles that were
given, and the check of the range refuses a greatest value at or below the least one. Between finite bounds that is
the same as requiring the greatest above the least; nan is neither above nor below anything and passes.
-/

namespace DashboardCompiler

open Schema Checked

namespace Number

def isFinite : Number → Bool
  | .int _ => true
  | .double x => x.isFinite

/-- The double that stands for a number in a program. -/
def asDouble : Number → Double
  | .int n => .ofInt n
  | .double x => x

/-- A number that loses nothing as a double. -/
def Held (n : Number) : Prop := (Number.double n.asDouble).place? = n.place?

theorem held_double (x : Double) : Held (.double x) := rfl

theorem held_int {n : Int} (hn : n.natAbs ≤ twoPower 53) : Held (.int n) := place?_double (Double.units?_ofInt hn)

theorem exists_place_of_isFinite {n : Number} (h : n.isFinite = true) : ∃ units, n.place? = some (.at units) := by
  cases n with
  | int n => exact ⟨_, rfl⟩
  | double x =>
    obtain ⟨m, hm⟩ := Double.exists_units h
    exact ⟨m, place?_double hm⟩

theorem lt_of_not_le {a b : Number} (ha : a.isFinite = true) (hb : b.isFinite = true) (h : b.le a = false) :
    a.lt b = true := by
  obtain ⟨m, hm⟩ := exists_place_of_isFinite ha
  obtain ⟨n, hn⟩ := exists_place_of_isFinite hb
  rw [le_at hn hm, decide_eq_false_iff_not] at h
  rw [lt_at hm hn]
  exact decide_eq_true (by omega)

theorem lt_congr {a a' b b' : Number} (ha : a.place? = a'.place?) (hb : b.place? = b'.place?) : a.lt b = a'.lt b' := by
  rw [lt, lt, ha, hb]

theorem lt_double (x y : Double) : (Number.double x).lt (.double y) = x.lt y := by
  rcases x with _ | (_ | _) | _ <;> rcases y with _ | (_ | _) | _ <;> rfl

end Number

/-- The bounds of the value range of widgets that have one. -/
def Properties.range? : Properties → Option (Number × Number)
  | .progressBar p => some (p.min, p.max)
  | .gauge p => some (p.min, p.max)
  | _ => none

theorem held_of_defaulted {fields : Fields} {f : FieldName} {default : Int} (hdefault : default.natAbs ≤ twoPower 53)
    {n : Number} (h : defaulted fields f (.int default) readBound = .accepted n) : n.Held := by
  rcases defaulted_accepted h with rfl | ⟨v, hv⟩
  · exact Number.held_int hdefault
  · obtain ⟨x, -, rfl⟩ := map_accepted_iff.1 hv
    exact Number.held_double x

theorem checkRange_accepted {α : Type} {least greatest : Number} {record a : α}
    (h : checkRange least greatest record = .accepted a) : greatest.le least = false ∧ record = a := by
  unfold checkRange at h
  split at h
  · cases h
  · rename_i hle
    exact ⟨by simpa using hle, Checked.accepted.inj h⟩

/-- What the check of the range leaves. -/
theorem Properties.range_of_accepted {kind : WidgetKind} (hkind : kind = .gauge ∨ kind = .progressBar)
    {fields : Fields} {p : Properties} (hp : Properties.read kind fields = .accepted p) :
    ∃ least greatest, p.range? = some (least, greatest) ∧ greatest.le least = false ∧ least.Held ∧ greatest.Held := by
  rcases hkind with rfl | rfl
  · obtain ⟨q, hq, rfl⟩ := map_accepted_iff.1 hp
    obtain ⟨record, hrecord, hcheck⟩ := andThen_accepted_iff.1 hq
    obtain ⟨hrange, rfl⟩ := checkRange_accepted hcheck
    simp only [functorMap_eq, seq_eq, apply_accepted_iff, map_accepted_iff] at hrecord
    obtain ⟨_, ⟨_, ⟨_, ⟨least, hleast, rfl⟩, greatest, hgreatest, rfl⟩, _, -, rfl⟩, _, -, rfl⟩ := hrecord
    exact ⟨least, greatest, rfl, hrange, held_of_defaulted (by decide) hleast, held_of_defaulted (by decide) hgreatest⟩
  · obtain ⟨q, hq, rfl⟩ := map_accepted_iff.1 hp
    obtain ⟨record, hrecord, hcheck⟩ := andThen_accepted_iff.1 hq
    obtain ⟨hrange, rfl⟩ := checkRange_accepted hcheck
    simp only [functorMap_eq, seq_eq, apply_accepted_iff, map_accepted_iff] at hrecord
    obtain ⟨_, ⟨_, ⟨_, ⟨_, ⟨_, -, rfl⟩, _, -, rfl⟩, _, -, rfl⟩, least, hleast, rfl⟩, greatest, hgreatest, rfl⟩ :=
      hrecord
    exact ⟨least, greatest, rfl, hrange, held_of_defaulted (by decide) hleast, held_of_defaulted (by decide) hgreatest⟩

end DashboardCompiler
