import DashboardCompiler.Proofs.Double.Numeral
import DashboardCompiler.Proofs.Text.Naming
import DashboardCompiler.Target.Ratatui.Color

/-!
# Colours given by number

`#rrggbb` is a colour given by three pairs of hexadecimal digits. The reader of the pairs takes more than that: digits
of other scripts, and one digit with a sign before it or white space beside it. So the names it takes as numbers are
the hexadecimal triples and some loose ones, and these two are told apart here.

A loose triple gets a colour where a name without a colour should get white. The colour is still a valid one unless a
minus sign has made a part negative.
-/

namespace DashboardCompiler

/-! ## Texts of numbers -/

theorem Number.digit_of_mem_digitText {n : Nat} {c : Char} (hc : c ∈ (Notation.digitText n).toList) :
    c.isDigit = true := by
  rw [Notation.digitText, String.toList_ofList] at hc
  exact digits_toDigits n c hc

theorem Number.intText_injective : Function.Injective intText := by
  intro m n h
  have hdigits {k l : Nat} (hkl : Notation.digitText k = Notation.digitText l) : k = l := by
    rw [Notation.digitText, Notation.digitText, String.ofList_inj] at hkl
    rw [← natOfDigits_toDigits k, hkl, natOfDigits_toDigits]
  -- A sign is no digit, so both texts have one or neither has.
  have hsigned (k l : Nat) : "-" ++ Notation.digitText k ≠ "" ++ Notation.digitText l := by
    intro hkl
    have hminus : '-' ∈ ("" ++ Notation.digitText l).toList := by
      rw [← hkl, String.toList_append]
      exact List.mem_append_left _ List.mem_cons_self
    rw [String.toList_append, String.toList_empty, List.nil_append] at hminus
    cases digit_of_mem_digitText hminus
  unfold intText Notation.signText at h
  by_cases hm : m < 0 <;> by_cases hn : n < 0
  · have heq : m.natAbs = n.natAbs := hdigits (by simpa [hm, hn, String.ext_iff] using h)
    omega
  · exact absurd (by simpa [hm, hn] using h) (hsigned m.natAbs n.natAbs)
  · exact absurd (by simpa [hm, hn] using h.symm) (hsigned n.natAbs m.natAbs)
  · have heq : m.natAbs = n.natAbs := hdigits (by simpa [hm, hn] using h)
    omega

theorem Number.comma_not_mem_intText (n : Int) : ',' ∉ (intText n).toList := by
  rw [intText, Notation.signText, String.toList_append, List.mem_append]
  rintro (h | h)
  · split at h <;> simp at h
  · cases digit_of_mem_digitText h

namespace Ratatui

open Unicode

/-! ## The expression of three parts -/

def rgb (red green blue : Int) : String :=
  "Color::Rgb(" ++ Number.intText red ++ ", " ++ Number.intText green ++ ", " ++ Number.intText blue ++ ")"

/-- What stands before the first separator, and after it. -/
theorem eq_and_eq_of_append_cons {separator : Char} {xs ys as bs : List Char} (hx : separator ∉ xs)
    (hy : separator ∉ ys) (h : xs ++ separator :: as = ys ++ separator :: bs) : xs = ys ∧ as = bs := by
  have hstop {zs cs : List Char} (hz : separator ∉ zs) :
      (zs ++ separator :: cs).takeWhile (fun c => c ≠ separator) = zs := by
    have hbefore : ∀ c ∈ zs, decide (c ≠ separator) = true := fun c hc =>
      decide_eq_true (ne_of_mem_of_not_mem hc hz)
    rw [List.takeWhile_append_of_pos hbefore, List.takeWhile_cons_of_neg (by simp), List.append_nil]
  have hsame : xs = ys := by rw [← hstop hx, h, hstop hy]
  subst hsame
  exact ⟨rfl, (List.cons.inj (List.append_cancel_left h)).2⟩

theorem toList_rgb (r g b : Int) :
    (rgb r g b).toList = "Color::Rgb(".toList ++ ((Number.intText r).toList ++ ',' :: ' ' ::
      ((Number.intText g).toList ++ ',' :: ' ' :: ((Number.intText b).toList ++ [')']))) := by
  unfold rgb
  simp only [String.toList_append, List.append_assoc]
  rfl

theorem rgb_inj {r g b r' g' b' : Int} (h : rgb r g b = rgb r' g' b') : r = r' ∧ g = g' ∧ b = b' := by
  have hchars := congrArg String.toList h
  rw [toList_rgb, toList_rgb] at hchars
  have hno := Number.comma_not_mem_intText
  obtain ⟨hred, hrest⟩ := eq_and_eq_of_append_cons (hno r) (hno r') (List.append_cancel_left hchars)
  obtain ⟨hgreen, hlast⟩ := eq_and_eq_of_append_cons (hno g) (hno g') (List.cons.inj hrest).2
  have hblue := List.append_cancel_right (List.cons.inj hlast).2
  exact ⟨Number.intText_injective (String.ext hred), Number.intText_injective (String.ext hgreen),
    Number.intText_injective (String.ext hblue)⟩

/-- The expressions of the named colours. -/
def palette : List String := namedColors.map (·.2)

theorem mem_palette (name : String) : (namedColors.lookup name).getD white ∈ palette := by
  have hfound {table : List (String × String)} {text : String} (h : table.lookup name = some text) :
      text ∈ table.map (·.2) := by
    obtain ⟨before, after, rfl, -⟩ := List.lookup_eq_some_iff.1 h
    simp
  cases h : namedColors.lookup name with
  | none => decide
  | some text => exact hfound h

theorem rgb_not_mem_palette (r g b : Int) : rgb r g b ∉ palette := by
  intro h
  have hother : ∀ text ∈ palette, ¬ "Color::Rgb(".toList <+: text.toList := by decide
  refine hother _ h ?_
  rw [toList_rgb]
  exact List.prefix_append _ _

/-- A colour of the palette, or one of three parts of eight bits. -/
def IsColor (text : String) : Prop :=
  text ∈ palette ∨ ∃ r g b : Nat, r < 256 ∧ g < 256 ∧ b < 256 ∧ text = rgb r g b

/-! ## Pairs -/

/-- Two ASCII hexadecimal digits and their value. -/
def HexPair (a b : Char) (n : Int) : Prop :=
  ∃ high low : Nat, Json.hexValue? a = some high ∧ Json.hexValue? b = some low ∧ n = high * 16 + low

/-- Two other characters that are read as a number. -/
inductive LoosePair : Char → Char → Int → Prop where
  | digits {a b : Char} {high low : Nat} (ha : hexDigit? a = some high) (hb : hexDigit? b = some low)
      (hother : Json.hexValue? a = none ∨ Json.hexValue? b = none) : LoosePair a b (high * 16 + low)
  | minus {b : Char} {n : Nat} (hb : hexDigit? b = some n) : LoosePair '-' b (-n)
  | plus {b : Char} {n : Nat} (hb : hexDigit? b = some n) : LoosePair '+' b n
  | blankFirst {a b : Char} {n : Nat} (ha : isWhiteSpace a = true) (hb : hexDigit? b = some n) : LoosePair a b n
  | blankLast {a b : Char} {n : Nat} (ha : hexDigit? a = some n) (hb : isWhiteSpace b = true) : LoosePair a b n

theorem isNameChar_of_hexValue? {c : Char} {n : Nat} (h : Json.hexValue? c = some n) : Name.isNameChar c = true := by
  have hlower : 'f' ≤ 'z' := by decide
  have hupper : 'F' ≤ 'Z' := by decide
  simp only [Name.isNameChar, Bool.or_eq_true, Bool.and_eq_true, decide_eq_true_eq]
  unfold Json.hexValue? at h
  split at h
  · exact .inl (.inl (.inl ‹_›))
  · split at h
    · rename_i hc
      exact .inl (.inr ⟨hc.1, Char.le_trans hc.2 hlower⟩)
    · split at h
      · rename_i hc
        exact .inl (.inl (.inr ⟨hc.1, Char.le_trans hc.2 hupper⟩))
      · cases h

/-- The readers of ASCII digits and of all digits agree. -/
theorem hexDigit?_of_hexValue? {c : Char} {n : Nat} (h : Json.hexValue? c = some n) :
    hexDigit? c = some n ∧ n < 16 := by
  have hall := Name.of_isNameChar (P := fun c => (Json.hexValue? c).all fun n => decide (hexDigit? c = some n ∧ n < 16))
    (by decide +kernel) (isNameChar_of_hexValue? h)
  rw [h] at hall
  exact of_decide_eq_true hall

theorem hexDigit?_lt {c : Char} {n : Nat} (h : hexDigit? c = some n) : n < 16 := by
  rw [hexDigit?, Option.orElse_eq_orElse, Option.orElse_eq_or, Option.or_eq_some_iff] at h
  rcases h with h | ⟨-, h⟩
  · obtain ⟨first, hfirst, rfl⟩ := Option.map_eq_some_iff.1 h
    have hbounds := List.find?_some hfirst
    rw [Bool.and_eq_true, decide_eq_true_eq, decide_eq_true_eq] at hbounds
    omega
  · exact (hexDigit?_of_hexValue? h).2

theorem mem_of_inRanges {n : Nat} {ranges : List (Nat × Nat)} (h : inRanges n ranges = true) :
    n ∈ ranges.flatMap fun (low, high) => List.range' low (high + 1 - low) := by
  induction ranges with
  | nil => cases h
  | cons range ranges ih =>
    rw [inRanges] at h
    rw [List.flatMap_cons, List.mem_append]
    split at h
    · have hlow := of_decide_eq_true h
      refine .inl (List.mem_range'_1.2 ?_)
      omega
    · exact .inr (ih h)

theorem hexDigit?_of_isWhiteSpace {c : Char} (h : isWhiteSpace c = true) : hexDigit? c = none := by
  rw [isWhiteSpace, Bool.and_eq_true] at h
  -- White space is a small table, so its characters can be tried one by one.
  have hnone : ∀ n ∈ blankRanges.flatMap fun (low, high) => List.range' low (high + 1 - low),
      hexDigit? (Char.ofNat n) = none := by decide +kernel
  have hcode := hnone c.toNat (mem_of_inRanges h.1)
  rwa [Char.ofNat_toNat] at hcode

theorem colorPart?_of_hexPair {a b : Char} {n : Int} (h : HexPair a b n) : colorPart? a b = some n := by
  obtain ⟨high, low, ha, hb, rfl⟩ := h
  rw [colorPart?, (hexDigit?_of_hexValue? ha).1, (hexDigit?_of_hexValue? hb).1]

theorem colorPart?_of_loosePair {a b : Char} {n : Int} (h : LoosePair a b n) : colorPart? a b = some n := by
  have hminus : hexDigit? '-' = none := by decide +kernel
  have hplus : hexDigit? '+' = none := by decide +kernel
  cases h with
  | digits ha hb => rw [colorPart?, ha, hb]
  | minus hb => simp [colorPart?, hminus, hb]
  | plus hb => simp [colorPart?, hplus, hb]
  | blankFirst ha hb =>
    have hne : a ≠ '-' := by
      rintro rfl
      cases ha
    simp [colorPart?, hexDigit?_of_isWhiteSpace ha, hb, ha, hne]
  | blankLast ha hb => simp [colorPart?, hexDigit?_of_isWhiteSpace hb, ha, hb]

/-- **What is read as a part**: a pair of hexadecimal digits, or a loose pair. -/
theorem colorPart?_eq_some_iff {a b : Char} {n : Int} :
    colorPart? a b = some n ↔ HexPair a b n ∨ LoosePair a b n := by
  refine ⟨fun h => ?_, fun h => h.elim colorPart?_of_hexPair colorPart?_of_loosePair⟩
  unfold colorPart? at h
  -- Which of the two are digits decides how they are read.
  cases ha : hexDigit? a with
  | none =>
    cases hb : hexDigit? b with
    | none => simp [ha, hb] at h
    | some low =>
      simp only [ha, hb] at h
      split at h
      · rename_i hsign
        cases h
        exact hsign ▸ .inr (.minus hb)
      · split at h
        · rename_i hsign
          cases h
          rw [Bool.or_eq_true, decide_eq_true_eq] at hsign
          rcases hsign with rfl | hblank
          · exact .inr (.plus hb)
          · exact .inr (.blankFirst hblank hb)
        · cases h
  | some high =>
    cases hb : hexDigit? b with
    | none =>
      simp only [ha, hb] at h
      split at h
      · cases h
        exact .inr (.blankLast ha ‹_›)
      · cases h
    | some low =>
      simp only [ha, hb] at h
      cases h
      cases hhexA : Json.hexValue? a with
      | none => exact .inr (.digits ha hb (.inl hhexA))
      | some m =>
        cases hhexB : Json.hexValue? b with
        | none => exact .inr (.digits ha hb (.inr hhexB))
        | some k =>
          obtain rfl := Option.some.inj (ha.symm.trans (hexDigit?_of_hexValue? hhexA).1)
          obtain rfl := Option.some.inj (hb.symm.trans (hexDigit?_of_hexValue? hhexB).1)
          exact .inl ⟨_, _, hhexA, hhexB, rfl⟩

/-- A loose pair is no pair of hexadecimal digits, whatever their value. -/
theorem LoosePair.not_hexPair {a b : Char} {m n : Int} (h : LoosePair a b m) : ¬ HexPair a b n := by
  rintro ⟨high, low, ha, hb, -⟩
  have hspace {c : Char} {k : Nat} (hc : isWhiteSpace c = true) : Json.hexValue? c ≠ some k := by
    intro hhex
    have hdigit := (hexDigit?_of_hexValue? hhex).1
    rw [hexDigit?_of_isWhiteSpace hc] at hdigit
    cases hdigit
  cases h with
  | digits _ _ hother =>
    rw [ha, hb] at hother
    rcases hother with hother | hother <;> cases hother
  | minus => cases ha
  | plus => cases ha
  | blankFirst hblank => exact hspace hblank ha
  | blankLast _ hblank => exact hspace hblank hb

theorem pair_lt {a b : Char} {n : Int} (h : HexPair a b n ∨ LoosePair a b n) : n < 256 := by
  rcases h with ⟨high, low, ha, hb, rfl⟩ | h
  · have hhigh := (hexDigit?_of_hexValue? ha).2
    have hlow := (hexDigit?_of_hexValue? hb).2
    omega
  · cases h with
    | digits ha hb =>
      have hhigh := hexDigit?_lt ha
      have hlow := hexDigit?_lt hb
      omega
    | minus hb => omega
    | plus hb =>
      have hlow := hexDigit?_lt hb
      omega
    | blankFirst _ hb =>
      have hlow := hexDigit?_lt hb
      omega
    | blankLast ha _ =>
      have hhigh := hexDigit?_lt ha
      omega

/-! ## Triples -/

/-- `#rrggbb` and the values of its three pairs. -/
def HexTriple (name : String) (red green blue : Int) : Prop :=
  ∃ a b c d e f, name.toList = ['#', a, b, c, d, e, f] ∧ HexPair a b red ∧ HexPair c d green ∧ HexPair e f blue

/-- Three pairs that are read as numbers, at least one of them loose. -/
def LooseTriple (name : String) (red green blue : Int) : Prop :=
  ∃ a b c d e f, name.toList = ['#', a, b, c, d, e, f] ∧ (HexPair a b red ∨ LoosePair a b red) ∧
    (HexPair c d green ∨ LoosePair c d green) ∧ (HexPair e f blue ∨ LoosePair e f blue) ∧
    (LoosePair a b red ∨ LoosePair c d green ∨ LoosePair e f blue)

/-- The expression of a name if nothing but `#rrggbb` counts as a number. -/
structure StrictColor (name text : String) : Prop where
  numbered : ∀ red green blue : Int, text = rgb red green blue ↔ HexTriple name red green blue
  named : (∀ red green blue, ¬ HexTriple name red green blue) →
    text = (namedColors.lookup (Unicode.lower name)).getD white
  valid : IsColor text

theorem LooseTriple.not_hexTriple {name : String} {r g b r' g' b' : Int} (h : LooseTriple name r g b) :
    ¬ HexTriple name r' g' b' := by
  obtain ⟨_, _, _, _, _, _, hname, -, -, -, hloose⟩ := h
  rintro ⟨_, _, _, _, _, _, hname', hred, hgreen, hblue⟩
  rw [hname] at hname'
  cases hname'
  rcases hloose with hloose | hloose | hloose
  · exact hloose.not_hexPair hred
  · exact hloose.not_hexPair hgreen
  · exact hloose.not_hexPair hblue

theorem triple?_eq_some_iff {cs : List Char} {r g b : Int} :
    triple? cs = some (r, g, b) ↔ ∃ u v w x y z, cs = [u, v, w, x, y, z] ∧ colorPart? u v = some r ∧
      colorPart? w x = some g ∧ colorPart? y z = some b := by
  constructor
  · intro h
    unfold triple? at h
    split at h
    · rename_i u v w x y z
      obtain ⟨red, hred, h⟩ := Option.bind_eq_some_iff.1 h
      obtain ⟨green, hgreen, h⟩ := Option.bind_eq_some_iff.1 h
      obtain ⟨blue, hblue, h⟩ := Option.bind_eq_some_iff.1 h
      cases h
      exact ⟨u, v, w, x, y, z, rfl, hred, hgreen, hblue⟩
    · cases h
  · rintro ⟨u, v, w, x, y, z, rfl, hred, hgreen, hblue⟩
    simp [triple?, hred, hgreen, hblue]

/-- The parts of a name that is read as a number. -/
def numbers? (name : String) : Option (Int × Int × Int) :=
  match name.toList with
  | '#' :: digits => triple? digits
  | _ => none

theorem color_eq (name : String) :
    color name = match numbers? name with
      | some (red, green, blue) => rgb red green blue
      | none => (namedColors.lookup (Unicode.lower name)).getD white := rfl

theorem numbers?_eq_some_iff {name : String} {r g b : Int} :
    numbers? name = some (r, g, b) ↔ HexTriple name r g b ∨ LooseTriple name r g b := by
  constructor
  · intro h
    unfold numbers? at h
    split at h
    · rename_i digits hname
      obtain ⟨u, v, w, x, y, z, rfl, hred, hgreen, hblue⟩ := triple?_eq_some_iff.1 h
      rw [colorPart?_eq_some_iff] at hred hgreen hblue
      by_cases hloose : LoosePair u v r ∨ LoosePair w x g ∨ LoosePair y z b
      · exact .inr ⟨u, v, w, x, y, z, hname, hred, hgreen, hblue, hloose⟩
      · rw [not_or, not_or] at hloose
        exact .inl ⟨u, v, w, x, y, z, hname, hred.resolve_right hloose.1, hgreen.resolve_right hloose.2.1,
          hblue.resolve_right hloose.2.2⟩
    · cases h
  · intro h
    obtain ⟨u, v, w, x, y, z, hname, hred, hgreen, hblue⟩ : ∃ u v w x y z, name.toList = ['#', u, v, w, x, y, z] ∧
        (HexPair u v r ∨ LoosePair u v r) ∧ (HexPair w x g ∨ LoosePair w x g) ∧ (HexPair y z b ∨ LoosePair y z b) := by
      rcases h with ⟨u, v, w, x, y, z, hname, hred, hgreen, hblue⟩ | ⟨u, v, w, x, y, z, hname, hred, hgreen, hblue, -⟩
      · exact ⟨u, v, w, x, y, z, hname, .inl hred, .inl hgreen, .inl hblue⟩
      · exact ⟨u, v, w, x, y, z, hname, hred, hgreen, hblue⟩
    rw [← colorPart?_eq_some_iff] at hred hgreen hblue
    rw [numbers?, hname]
    exact triple?_eq_some_iff.2 ⟨u, v, w, x, y, z, rfl, hred, hgreen, hblue⟩

theorem HexTriple.exists_nat {name : String} {r g b : Int} (h : HexTriple name r g b) :
    ∃ red green blue : Nat, red < 256 ∧ green < 256 ∧ blue < 256 ∧ r = red ∧ g = green ∧ b = blue := by
  have hnat {u v : Char} {n : Int} (hpair : HexPair u v n) : ∃ k : Nat, k < 256 ∧ n = k := by
    have hlt := pair_lt (.inl hpair)
    obtain ⟨high, low, -, -, rfl⟩ := hpair
    exact ⟨high * 16 + low, by omega, rfl⟩
  obtain ⟨_, _, _, _, _, _, -, hred, hgreen, hblue⟩ := h
  obtain ⟨red, hredLt, hredEq⟩ := hnat hred
  obtain ⟨green, hgreenLt, hgreenEq⟩ := hnat hgreen
  obtain ⟨blue, hblueLt, hblueEq⟩ := hnat hblue
  exact ⟨red, green, blue, hredLt, hgreenLt, hblueLt, hredEq, hgreenEq, hblueEq⟩

theorem LooseTriple.lt {name : String} {r g b : Int} (h : LooseTriple name r g b) : r < 256 ∧ g < 256 ∧ b < 256 := by
  obtain ⟨_, _, _, _, _, _, -, hred, hgreen, hblue, -⟩ := h
  exact ⟨pair_lt hred, pair_lt hgreen, pair_lt hblue⟩

/-- A name is a hexadecimal triple, a loose one, or no number. -/
theorem color_cases (name : String) :
    (∃ r g b, HexTriple name r g b ∧ color name = rgb r g b) ∨
      (∃ r g b, LooseTriple name r g b ∧ color name = rgb r g b) ∨
      ((∀ r g b, ¬ HexTriple name r g b) ∧ (∀ r g b, ¬ LooseTriple name r g b) ∧
        color name = (namedColors.lookup (Unicode.lower name)).getD white) := by
  rw [color_eq]
  cases hnumbers : numbers? name with
  | none =>
    have hno {r g b : Int} : ¬ (HexTriple name r g b ∨ LooseTriple name r g b) := by
      rw [← numbers?_eq_some_iff, hnumbers]
      exact nofun
    exact .inr (.inr ⟨fun _ _ _ h => hno (.inl h), fun _ _ _ h => hno (.inr h), rfl⟩)
  | some parts =>
    obtain ⟨r, g, b⟩ := parts
    rcases numbers?_eq_some_iff.1 hnumbers with h | h
    · exact .inl ⟨r, g, b, h, rfl⟩
    · exact .inr (.inl ⟨r, g, b, h, rfl⟩)

theorem HexTriple.unique {name : String} {r g b r' g' b' : Int} (h : HexTriple name r g b)
    (h' : HexTriple name r' g' b') : r = r' ∧ g = g' ∧ b = b' := by
  have hsame := (numbers?_eq_some_iff.2 (.inl h)).symm.trans (numbers?_eq_some_iff.2 (.inl h'))
  cases hsame
  exact ⟨rfl, rfl, rfl⟩

theorem strictColor_of_hexTriple {name : String} {r g b : Int} (h : HexTriple name r g b) :
    StrictColor name (rgb r g b) := by
  obtain ⟨red, green, blue, hred, hgreen, hblue, rfl, rfl, rfl⟩ := h.exists_nat
  refine ⟨fun r' g' b' => ⟨fun heq => ?_, fun h' => ?_⟩, fun hno => absurd h (hno _ _ _),
    .inr ⟨red, green, blue, hred, hgreen, hblue, rfl⟩⟩
  · obtain ⟨rfl, rfl, rfl⟩ := rgb_inj heq
    exact h
  · obtain ⟨rfl, rfl, rfl⟩ := h.unique h'
    rfl

theorem strictColor_of_named {name : String} (h : ∀ r g b, ¬ HexTriple name r g b) :
    StrictColor name ((namedColors.lookup (Unicode.lower name)).getD white) := by
  refine ⟨fun r g b => ⟨fun heq => ?_, fun h' => absurd h' (h r g b)⟩, fun _ => rfl, .inl (mem_palette _)⟩
  exact absurd (heq ▸ mem_palette _) (rgb_not_mem_palette r g b)

/-- **Nothing but `#rrggbb` is a number, loose triples apart.** The expression of a name is the strict one exactly if
the name is no loose triple, which gets its own three parts instead of white. It is a valid colour unless the name is
a loose triple with a negative part. -/
theorem color_exact (name : String) :
    (StrictColor name (color name) ↔ ∀ r g b, ¬ LooseTriple name r g b) ∧
      (∀ r g b, LooseTriple name r g b → color name = rgb r g b) ∧
      (IsColor (color name) ↔ ∀ r g b, LooseTriple name r g b → 0 ≤ r ∧ 0 ≤ g ∧ 0 ≤ b) := by
  have hloose {r g b : Int} (h : LooseTriple name r g b) : color name = rgb r g b := by
    rw [color_eq, numbers?_eq_some_iff.2 (.inr h)]
  refine ⟨⟨fun hstrict r g b h => ?_, fun hno => ?_⟩, fun _ _ _ => hloose, ⟨fun hvalid r g b h => ?_, fun hsigns => ?_⟩⟩
  · exact h.not_hexTriple ((hstrict.numbered r g b).1 (hloose h))
  · rcases color_cases name with ⟨r, g, b, h, heq⟩ | ⟨r, g, b, h, -⟩ | ⟨h, -, heq⟩
    · rw [heq]
      exact strictColor_of_hexTriple h
    · exact absurd h (hno r g b)
    · rw [heq]
      exact strictColor_of_named h
  · rw [hloose h] at hvalid
    rcases hvalid with hnamed | ⟨red, green, blue, -, -, -, heq⟩
    · exact absurd hnamed (rgb_not_mem_palette r g b)
    · obtain ⟨rfl, rfl, rfl⟩ := rgb_inj heq
      exact ⟨Int.natCast_nonneg _, Int.natCast_nonneg _, Int.natCast_nonneg _⟩
  · rcases color_cases name with ⟨r, g, b, h, heq⟩ | ⟨r, g, b, h, heq⟩ | ⟨h, -, heq⟩
    · rw [heq]
      exact (strictColor_of_hexTriple h).valid
    · obtain ⟨hred, hgreen, hblue⟩ := hsigns r g b h
      obtain ⟨hredLt, hgreenLt, hblueLt⟩ := h.lt
      refine .inr ⟨r.toNat, g.toNat, b.toNat, by omega, by omega, by omega, ?_⟩
      rw [heq, Int.toNat_of_nonneg hred, Int.toNat_of_nonneg hgreen, Int.toNat_of_nonneg hblue]
    · rw [heq]
      exact (strictColor_of_named h).valid

/-- Three digits with signs are a loose triple, and its parts are no colour. -/
theorem color_exact_signs :
    LooseTriple "#-1-1-1" (-1) (-1) (-1) ∧ color "#-1-1-1" = "Color::Rgb(-1, -1, -1)" ∧
      ¬ StrictColor "#-1-1-1" (color "#-1-1-1") ∧ ¬ IsColor (color "#-1-1-1") := by
  have hpair : LoosePair '-' '1' (-1) := .minus (n := 1) (by decide +kernel)
  have hloose : LooseTriple "#-1-1-1" (-1) (-1) (-1) :=
    ⟨_, _, _, _, _, _, rfl, .inr hpair, .inr hpair, .inr hpair, .inl hpair⟩
  obtain ⟨hstrict, hparts, hvalid⟩ := color_exact "#-1-1-1"
  refine ⟨hloose, hparts _ _ _ hloose, fun h => hstrict.1 h _ _ _ hloose, fun h => ?_⟩
  exact absurd (hvalid.1 h _ _ _ hloose).1 (by decide)

example : color "#ff7F00" = "Color::Rgb(255, 127, 0)" ∧ color "#ff7F0g" = white ∧ color "GREY" = "Color::Gray" := by
  decide +kernel

end Ratatui

end DashboardCompiler
