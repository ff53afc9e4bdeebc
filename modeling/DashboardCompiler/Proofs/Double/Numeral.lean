import DashboardCompiler.Display.Literal
import DashboardCompiler.Proofs.Double.Shortest
import DashboardCompiler.Schema.Scalar
import Mathlib.Data.List.TakeWhile

/-!
# Numerals

`Literal.numeral?` reads a numeral: digits with an optional sign, point and exponent, as all of the targets' languages
write them, rounded to the nearest double. The words for nan and the infinities are no numerals.

Every written form of a finite double reads back to that double. The layout moves the point, and in one of its five
cases writes zeros that the shortest digits do not have; a decimal does not change its value by either.
-/

namespace DashboardCompiler

open Schema

namespace Literal

/-- The double that a numeral denotes. -/
def numeral? (s : String) : Option Double :=
  let (negative, body) := splitSign s.toList
  decimalText? negative body

end Literal

/-! ## Digits -/

theorem natOfDigits_eq (cs : List Char) : Json.natOfDigits cs = Nat.ofDigitChars 10 cs 0 := by
  rw [Json.natOfDigits, Nat.ofDigitChars_eq_foldl]
  congr 1
  funext n c
  rw [Nat.mul_comm]
  rfl

theorem natOfDigits_toDigits (n : Nat) : Json.natOfDigits (Nat.toDigits 10 n) = n := by
  rw [natOfDigits_eq, Nat.ofDigitChars_toDigits (by decide) (by decide)]

def Digits (cs : List Char) : Prop := ∀ c ∈ cs, c.isDigit = true

theorem digits_toDigits (n : Nat) : Digits (Nat.toDigits 10 n) := fun _ hc =>
  Nat.isDigit_of_mem_toDigits (by decide) (by decide) hc

theorem digits_zeros (n : Nat) : Digits (List.replicate n '0') := fun c hc => by
  rw [List.eq_of_mem_replicate hc]
  rfl

theorem Digits.sublist {cs ds : List Char} (hd : Digits ds) (h : cs.Sublist ds) : Digits cs := fun c hc =>
  hd c (h.subset hc)

theorem Digits.append {cs ds : List Char} (hc : Digits cs) (hd : Digits ds) : Digits (cs ++ ds) := fun c h =>
  (List.mem_append.1 h).elim (hc c) (hd c)

theorem natOfDigits_zeros_append (n : Nat) (cs : List Char) :
    Json.natOfDigits (List.replicate n '0' ++ cs) = Json.natOfDigits cs := by
  induction n with
  | zero => rfl
  | succ n ih => exact ih

theorem natOfDigits_append_zeros (n : Nat) (cs : List Char) :
    Json.natOfDigits (cs ++ List.replicate n '0') = Json.natOfDigits cs * Nat.pow 10 n := by
  induction n with
  | zero => simp [Json.natOfDigits]
  | succ n ih =>
    have hlast : Json.natOfDigits (cs ++ List.replicate (n + 1) '0') =
        Json.natOfDigits (cs ++ List.replicate n '0') * 10 := by
      rw [List.replicate_succ', ← List.append_assoc]
      exact List.foldl_concat ..
    have hpower : Nat.pow 10 (n + 1) = Nat.pow 10 n * 10 := rfl
    rw [hlast, ih, hpower, Nat.mul_assoc]

/-! ## Reading the parts of a numeral -/

def isMark (c : Char) : Bool := c = 'e' || c = 'E'

/-- What may follow the digits of a numeral: nothing, or an exponent. -/
def Tail (cs : List Char) : Prop := ∀ c ∈ cs.head?, isMark c = true

theorem isMark_of_isDigit {c : Char} (h : c.isDigit = true) : isMark c = false := by
  have hlower : c ≠ 'e' := by
    rintro rfl
    exact absurd h (by decide)
  have hupper : c ≠ 'E' := by
    rintro rfl
    exact absurd h (by decide)
  simp [isMark, hlower, hupper]

theorem ne_point_of_isDigit {c : Char} (h : c.isDigit = true) : c ≠ '.' := by
  rintro rfl
  exact absurd h (by decide)

theorem span_mark {mantissa tail : List Char} (hmantissa : ∀ c ∈ mantissa, isMark c = false) (htail : Tail tail) :
    (mantissa ++ tail).takeWhile (!isMark ·) = mantissa ∧ (mantissa ++ tail).dropWhile (!isMark ·) = tail := by
  have hpass : ∀ c ∈ mantissa, (!isMark c) = true := fun c hc => by rw [hmantissa c hc]; rfl
  rw [List.takeWhile_append_of_pos hpass, List.dropWhile_append_of_pos hpass]
  cases tail with
  | nil => simp
  | cons c rest =>
    have hc : isMark c = true := htail c (by simp)
    simp [hc]

/-- The exponent ends the mantissa; the point divides it. -/
theorem decimalText?_append {mantissa tail : List Char} {power : Int} (hmantissa : ∀ c ∈ mantissa, isMark c = false)
    (htail : Tail tail) (hpower : exponent? tail = some power) {whole places : List Char}
    (hwhole : mantissa.takeWhile (· ≠ '.') = whole) (hplaces : (mantissa.dropWhile (· ≠ '.')).drop 1 = places)
    (hdigits : Digits (whole ++ places)) (hsome : whole ++ places ≠ []) (negative : Bool) :
    decimalText? negative (mantissa ++ tail) =
      some (.ofDecimal negative (Json.natOfDigits (whole ++ places)) (power - places.length)) := by
  obtain ⟨htake, hdrop⟩ := span_mark hmantissa htail
  have hall : (whole ++ places).all Char.isDigit = true := List.all_eq_true.2 hdigits
  have hfull : (whole ++ places).isEmpty = false := by simpa using hsome
  unfold decimalText?
  simp only [isMark] at htake hdrop
  simp only [htake, hdrop, hwhole, hplaces, hpower, hall, hfull]
  rfl

theorem decimalText?_point {whole places tail : List Char} {power : Int} (hwhole : Digits whole)
    (hplaces : Digits places) (hsome : whole ++ places ≠ []) (htail : Tail tail) (hpower : exponent? tail = some power)
    (negative : Bool) :
    decimalText? negative (whole ++ '.' :: places ++ tail) =
      some (.ofDecimal negative (Json.natOfDigits (whole ++ places)) (power - places.length)) := by
  have hpass : ∀ c ∈ whole, decide (c ≠ '.') = true := fun c hc => by simpa using ne_point_of_isDigit (hwhole c hc)
  refine decimalText?_append ?_ htail hpower ?_ ?_ (hwhole.append hplaces) hsome negative
  · intro c hc
    rcases List.mem_append.1 hc with hc | hc
    · exact isMark_of_isDigit (hwhole c hc)
    · rcases List.mem_cons.1 hc with rfl | hc
      · rfl
      · exact isMark_of_isDigit (hplaces c hc)
  · rw [List.takeWhile_append_of_pos hpass]
    simp
  · rw [List.dropWhile_append_of_pos hpass]
    simp

theorem decimalText?_whole {whole tail : List Char} {power : Int} (hwhole : Digits whole) (hsome : whole ≠ [])
    (htail : Tail tail) (hpower : exponent? tail = some power) (negative : Bool) :
    decimalText? negative (whole ++ tail) = some (.ofDecimal negative (Json.natOfDigits whole) power) := by
  have hpass : ∀ c ∈ whole, decide (c ≠ '.') = true := fun c hc => by simpa using ne_point_of_isDigit (hwhole c hc)
  have htake : whole.takeWhile (· ≠ '.') = whole := List.takeWhile_eq_self_iff.2 hpass
  have hdrop : (whole.dropWhile (· ≠ '.')).drop 1 = [] := by rw [List.dropWhile_eq_nil_iff.2 hpass, List.drop_nil]
  have hread := decimalText?_append (fun c hc => isMark_of_isDigit (hwhole c hc)) htail hpower htake hdrop
    (by rwa [List.append_nil]) (by rwa [List.append_nil]) negative
  rwa [List.append_nil, List.length_nil, Nat.cast_zero, sub_zero] at hread

theorem exponent?_signed {digits : List Char} (hdigits : Digits digits) (hsome : digits ≠ []) (negative : Bool) :
    exponent? ('e' :: (if negative then '-' else '+') :: digits) =
      some (if negative then -(Json.natOfDigits digits : Int) else Json.natOfDigits digits) := by
  have hall : digits.all Char.isDigit = true := List.all_eq_true.2 hdigits
  have hfull : digits.isEmpty = false := by simpa using hsome
  cases negative
  · simp [exponent?, splitSign, hall, hfull]
  · simp [exponent?, splitSign, hall, hfull]

/-- An exponent is padded with a zero to two digits. -/
theorem exists_exponentText (power : Int) : ∃ digits, Digits digits ∧ digits ≠ [] ∧
    Json.natOfDigits digits = power.natAbs ∧
    (Notation.exponentText power).toList = 'e' :: (if power < 0 then '-' else '+') :: digits := by
  have hsign : (if power < 0 then "e-" else "e+" : String).toList = ['e', if power < 0 then '-' else '+'] := by
    split <;> rfl
  have hplain := digits_toDigits power.natAbs
  rw [Notation.exponentText, String.toList_append, hsign]
  by_cases hshort : (Notation.digitText power.natAbs).length < 2
  · rw [if_pos hshort]
    refine ⟨'0' :: Nat.toDigits 10 power.natAbs, ?_, by simp, ?_, ?_⟩
    · exact (digits_zeros 1).append hplain
    · exact natOfDigits_toDigits power.natAbs
    · simp [Notation.digitText]
  · rw [if_neg hshort]
    exact ⟨_, hplain, Nat.toDigits_ne_nil, natOfDigits_toDigits _, by simp [Notation.digitText]⟩

theorem exponent?_exponentText (power : Int) : exponent? (Notation.exponentText power).toList = some power := by
  obtain ⟨digits, hdigits, hsome, hvalue, htext⟩ := exists_exponentText power
  have hread := exponent?_signed hdigits hsome (decide (power < 0))
  simp only [decide_eq_true_eq, hvalue] at hread
  rw [htext, hread]
  congr 1
  split <;> omega

theorem tail_exponentText (power : Int) : Tail (Notation.exponentText power).toList := by
  obtain ⟨digits, -, -, -, htext⟩ := exists_exponentText power
  rw [htext]
  intro c hc
  cases hc
  rfl

theorem decimalText?_sign (negative : Bool) {c : Char} (hc : c = '+' ∨ c = '-') (rest : List Char) :
    decimalText? negative (c :: rest) = none := by
  rcases hc with rfl | rfl
  · simp [decimalText?]
  · simp [decimalText?]

/-- A numeral that is read without a sign has none. -/
theorem splitSign_of_decimalText {negative : Bool} {cs : List Char} {x : Double}
    (h : decimalText? negative cs = some x) : splitSign cs = (false, cs) := by
  unfold splitSign
  split
  · exact absurd h (by rw [decimalText?_sign negative (.inl rfl)]; simp)
  · exact absurd h (by rw [decimalText?_sign negative (.inr rfl)]; simp)
  · rfl

theorem numeral?_signText {negative : Bool} {body : String} {x : Double}
    (h : decimalText? negative body.toList = some x) :
    Literal.numeral? (Notation.signText negative ++ body) = some x := by
  rw [Literal.numeral?, Notation.signText, String.toList_append]
  cases negative with
  | false =>
    have hsign := splitSign_of_decimalText h
    simpa [hsign] using h
  | true => simpa [splitSign] using h

/-! ## Layouts -/

section Layout

variable {digits : List Char} (hdigits : Digits digits)

include hdigits

/-- A point between the digits counts the ones behind it. -/
theorem decimalText?_split (n : Nat) (hn : 0 < n) (hlength : n ≤ digits.length) {tail : List Char} {power : Int}
    (htail : Tail tail) (hpower : exponent? tail = some power) (negative : Bool) :
    decimalText? negative (digits.take n ++ '.' :: digits.drop n ++ tail) =
      some (.ofDecimal negative (Json.natOfDigits digits) (power + n - digits.length)) := by
  have hjoin : digits.take n ++ digits.drop n = digits := List.take_append_drop n digits
  have hsome : digits ≠ [] := List.ne_nil_of_length_pos (by omega)
  have hread := decimalText?_point (hdigits.sublist (List.take_sublist n digits))
    (hdigits.sublist (List.drop_sublist n digits)) (by rwa [hjoin]) htail hpower negative
  rw [hread, hjoin, List.length_drop]
  congr 2
  omega

theorem decimalText?_scientific (hsome : digits ≠ []) (first : Int) (negative : Bool) :
    decimalText? negative (digits.take 1 ++ (if digits.drop 1 = [] then [] else '.' :: digits.drop 1) ++
      (Notation.exponentText first).toList) =
      some (.ofDecimal negative (Json.natOfDigits digits) (first + 1 - digits.length)) := by
  have htail := tail_exponentText first
  have hpower := exponent?_exponentText first
  have hlength : 1 ≤ digits.length := List.length_pos_of_ne_nil hsome
  by_cases hone : digits.drop 1 = []
  · have hsize : digits.length = 1 := Nat.le_antisymm (List.drop_eq_nil_iff.1 hone) hlength
    have hwhole : digits.take 1 = digits := List.take_of_length_le hsize.le
    rw [if_pos hone, hwhole, List.append_nil, decimalText?_whole hdigits hsome htail hpower, hsize]
    congr 2
    omega
  · rw [if_neg hone]
    exact decimalText?_split hdigits 1 Nat.one_pos hlength htail hpower negative

/-- Zeros behind the point move the digits down. -/
theorem decimalText?_small (n : Nat) (negative : Bool) :
    decimalText? negative ('0' :: '.' :: (List.replicate n '0' ++ digits)) =
      some (.ofDecimal negative (Json.natOfDigits digits) (-(n + digits.length : Nat))) := by
  have hread := decimalText?_point (digits_zeros 1) ((digits_zeros n).append hdigits) (by simp)
    (show Tail [] from nofun) rfl negative
  rw [List.append_nil, ← List.append_assoc, List.replicate_append_replicate, natOfDigits_zeros_append] at hread
  simpa using hread

/-- Zeros in front of the point and the one behind it count as powers of ten. -/
theorem decimalText?_large (hvalue : Json.natOfDigits digits ≠ 0) {n : Nat} (hn : n ≤ 400) (negative : Bool) :
    decimalText? negative (digits ++ List.replicate n '0' ++ ['.', '0']) =
      some (.ofDecimal negative (Json.natOfDigits digits) n) := by
  have hread := decimalText?_point (hdigits.append (digits_zeros n)) (digits_zeros 1) (by simp)
    (show Tail [] from nofun) rfl negative
  have hzeros : digits ++ List.replicate n '0' ++ List.replicate 1 '0' = digits ++ List.replicate (n + 1) '0' := by
    rw [List.append_assoc, List.replicate_append_replicate]
  have hshift := Double.ofDecimal_shift (k := n + 1) (e := -1) hvalue (by omega) (by omega) negative
  have hpower : (-1 : Int) + (n + 1 : Nat) = n := by omega
  rw [hzeros, natOfDigits_append_zeros, List.length_replicate, List.append_nil,
    show (0 : Int) - (1 : Nat) = -1 from rfl, hshift, hpower] at hread
  exact hread

end Layout

/-- The point, the exponent and the zeros of a layout leave the value as it is. -/
theorem decimalText?_layout {form : Notation} {d : Decimal} (hsuffix : form.wholeSuffix = ".0")
    (hbelow : form.positionalBelow ≤ 400) (hd : d.digits ≠ 0) (negative : Bool) :
    decimalText? negative (form.layout d).toList = some (.ofDecimal negative d.digits d.exponent) := by
  have hdigits := digits_toDigits d.digits
  have hvalue := natOfDigits_toDigits d.digits
  have hsome : Nat.toDigits 10 d.digits ≠ [] := Nat.toDigits_ne_nil
  simp only [Notation.layout]
  generalize Nat.toDigits 10 d.digits = digits at *
  have hsize : 0 < digits.length := List.length_pos_of_ne_nil hsome
  have hzeros (n : Nat) : (Notation.zeros n).toList = List.replicate n '0' := String.toList_ofList
  rw [← hvalue] at hd ⊢
  split
  · have hread := decimalText?_scientific hdigits hsome (digits.length + d.exponent - 1) negative
    have hfraction : (if (digits.drop 1).isEmpty = true then "" else "." ++ String.ofList (digits.drop 1)).toList =
        if digits.drop 1 = [] then [] else '.' :: digits.drop 1 := by
      simp only [List.isEmpty_iff]
      split
      · rfl
      · simp
    rw [String.toList_append, String.toList_append, String.toList_ofList, hfraction, hread]
    congr 2
    omega
  · split
    · have hread := decimalText?_small hdigits (-(digits.length + d.exponent - 1) - 1).toNat negative
      simp only [String.toList_append, String.toList_ofList, hzeros]
      refine hread.trans ?_
      congr 2
      omega
    · split
      · have hread := decimalText?_large hdigits hd (n := d.exponent.toNat) (by omega) negative
        rw [String.toList_append, String.toList_append, String.toList_ofList, hzeros, hsuffix]
        refine hread.trans ?_
        congr 2
        omega
      · have hread := decimalText?_split hdigits (digits.length + d.exponent - 1 + 1).toNat (by omega) (by omega)
          (show Tail [] from nofun) rfl negative
        rw [List.append_nil] at hread
        simp only [String.toList_append, String.toList_ofList, List.append_assoc]
        refine hread.trans ?_
        congr 2
        omega

/-- **What is written for a finite double is a numeral for it.** -/
theorem numeral?_render {form : Notation} (hsuffix : form.wholeSuffix = ".0")
    (hbelow : form.positionalBelow ≤ 400) {x : Double} (hx : x.isFinite = true) :
    Literal.numeral? (form.render Double.shortest x) = some x := by
  cases x with
  | nan => exact absurd hx (by simp [Double.isFinite])
  | infinite => exact absurd hx (by simp [Double.isFinite])
  | finite negative u hu =>
    refine numeral?_signText ?_
    rcases Nat.eq_zero_or_pos u with rfl | hpos
    · rw [if_pos rfl, hsuffix]
      rfl
    · have hread := Double.shortest_readsAs hu hpos
      rw [if_neg hpos.ne', decimalText?_layout hsuffix hbelow hread.digits_ne, Double.ofDecimal_shortest hu hpos]

theorem numeral?_intText (n : Int) : Literal.numeral? (Number.intText n) = some (.ofInt n) := by
  have hdigits := digits_toDigits n.natAbs
  have hread := decimalText?_whole hdigits Nat.toDigits_ne_nil (show Tail [] from nofun) rfl (decide (n < 0))
  rw [List.append_nil, natOfDigits_toDigits, Double.ofDecimal_whole] at hread
  refine numeral?_signText ?_
  rw [Notation.digitText, String.toList_ofList]
  exact hread

/-! ## The characters of a numeral -/

/-- What a numeral is made of. -/
def isNumeral (c : Char) : Bool := c.isDigit || c = '+' || c = '-' || c = '.' || isMark c

theorem Digits.isNumeral {cs : List Char} (h : Digits cs) : ∀ c ∈ cs, isNumeral c = true := by
  intro c hc
  simp [DashboardCompiler.isNumeral, h c hc]

theorem digits_of_all {cs : List Char} {p : Prop} (h : ¬ (p ∨ (!cs.all Char.isDigit) = true)) : Digits cs := by
  rw [not_or, Bool.not_eq_true, Bool.not_eq_false'] at h
  exact List.all_eq_true.1 h.2

theorem isNumeral_of_splitSign {cs : List Char} (h : ∀ c ∈ (splitSign cs).2, isNumeral c = true) :
    ∀ c ∈ cs, isNumeral c = true := by
  unfold splitSign at h
  split at h
  · exact List.forall_mem_cons.2 ⟨rfl, h⟩
  · exact List.forall_mem_cons.2 ⟨rfl, h⟩
  · exact h

theorem isNumeral_of_exponent? {tail : List Char} {power : Int} (htail : Tail tail) (h : exponent? tail = some power) :
    ∀ c ∈ tail, isNumeral c = true := by
  cases tail with
  | nil => exact List.forall_mem_nil _
  | cons mark rest =>
    have hmark : isMark mark = true := htail mark rfl
    simp only [exponent?] at h
    split at h
    · cases h
    · rename_i hall
      have hrest := isNumeral_of_splitSign (digits_of_all hall).isNumeral
      exact List.forall_mem_cons.2 ⟨by simp [isNumeral, hmark], hrest⟩

/-- A mantissa is digits around a point. -/
theorem isNumeral_of_mantissa {mantissa : List Char}
    (h : Digits (mantissa.takeWhile (· ≠ '.') ++ (mantissa.dropWhile (· ≠ '.')).drop 1)) :
    ∀ c ∈ mantissa, isNumeral c = true := by
  have hnumeral := List.forall_mem_append.1 h.isNumeral
  have hpoint := List.head?_dropWhile_not (· ≠ '.') mantissa
  rw [← List.takeWhile_append_dropWhile (p := (· ≠ '.')) (l := mantissa)]
  refine List.forall_mem_append.2 ⟨hnumeral.1, ?_⟩
  cases hplaces : mantissa.dropWhile (· ≠ '.') with
  | nil => exact List.forall_mem_nil _
  | cons point places =>
    simp only [hplaces] at hpoint hnumeral
    obtain rfl : point = '.' := by simpa using hpoint
    exact List.forall_mem_cons.2 ⟨rfl, hnumeral.2⟩

theorem isNumeral_of_decimalText? {negative : Bool} {cs : List Char} {x : Double}
    (h : decimalText? negative cs = some x) : ∀ c ∈ cs, isNumeral c = true := by
  obtain ⟨power, hpower, hdigits⟩ := Option.bind_eq_some_iff.1 h
  split at hdigits
  · cases hdigits
  · rename_i hall
    have hmantissa := isNumeral_of_mantissa (digits_of_all hall)
    have htail : Tail (cs.dropWhile (!isMark ·)) := by
      have hhead := List.head?_dropWhile_not (!isMark ·) cs
      intro c hc
      rw [hc] at hhead
      simpa using hhead
    rw [← List.takeWhile_append_dropWhile (p := (!isMark ·)) (l := cs)]
    exact List.forall_mem_append.2 ⟨hmantissa, isNumeral_of_exponent? htail hpower⟩

/-- Nothing else than digits, signs, a point and a mark stands in a numeral. -/
theorem isNumeral_of_numeral? {s : String} {x : Double} (h : Literal.numeral? s = some x) :
    ∀ c ∈ s.toList, isNumeral c = true := isNumeral_of_splitSign (isNumeral_of_decimalText? h)

end DashboardCompiler
