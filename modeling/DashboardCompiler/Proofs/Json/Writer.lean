import DashboardCompiler.Json.Writer
import DashboardCompiler.Proofs.Text.Quoted

/-!
# Written values are pieces

Numbers are written without quotes, strings between quotes, and brackets, commas and colons stand outside of
them. A written value can therefore stand in a line of code, whatever strings it holds.
-/

namespace DashboardCompiler

open Code Text

/-! ## Numbers -/

theorem plain_of_digits {cs : List Char} (h : ∀ c ∈ cs, ∃ m, c = Nat.digitChar m) : Plain (String.ofList cs) := by
  intro c hc
  rw [String.toList_ofList] at hc
  obtain ⟨m, rfl⟩ := h c hc
  exact isPlain_digitChar m

theorem exists_of_mem_decimal {n : Nat} : ∀ c ∈ Nat.toDigits 10 n, ∃ m, c = Nat.digitChar m :=
  fun _ => exists_of_mem_toDigits (by decide)

namespace Notation

theorem plain_digitText (n : Nat) : Plain (digitText n) := plain_of_digits exists_of_mem_decimal

theorem plain_zeros (n : Nat) : Plain (zeros n) :=
  plain_of_digits fun _ hc => ⟨0, List.eq_of_mem_replicate hc⟩

theorem plain_signText (negative : Bool) : Plain (signText negative) := by
  cases negative
  · exact plain_empty
  · exact plain_ofList (by decide)

theorem plain_exponentText (power : Int) : Plain (exponentText power) := by
  have hsize := plain_digitText power.natAbs
  have hzero : Plain "0" := plain_ofList (by decide)
  have hnegative : Plain "e-" := plain_ofList (by decide)
  have hpositive : Plain "e+" := plain_ofList (by decide)
  unfold exponentText
  refine .append ?_ ?_
  · split
    · exact hnegative
    · exact hpositive
  · split
    · exact hzero.append hsize
    · exact hsize

variable {form : Notation}

theorem plain_layout (hsuffix : Plain form.wholeSuffix) (d : Decimal) : Plain (form.layout d) := by
  have hpart {cs : List Char} (h : cs.Sublist (Nat.toDigits 10 d.digits)) : Plain (String.ofList cs) :=
    plain_of_digits fun c hc => exists_of_mem_decimal c (h.subset hc)
  have hdigits : Plain (String.ofList (Nat.toDigits 10 d.digits)) := hpart (List.Sublist.refl _)
  have hpoint : Plain "." := plain_ofList (by decide)
  have hzeroPoint : Plain "0." := plain_ofList (by decide)
  unfold layout
  dsimp only
  split_ifs
  · exact ((hpart (List.take_sublist _ _)).append plain_empty).append (plain_exponentText _)
  · exact ((hpart (List.take_sublist _ _)).append (hpoint.append (hpart (List.drop_sublist _ _)))).append
      (plain_exponentText _)
  · exact (hzeroPoint.append (plain_zeros _)).append hdigits
  · exact (hdigits.append (plain_zeros _)).append hsuffix
  · exact ((hpart (List.take_sublist _ _)).append hpoint).append (hpart (List.drop_sublist _ _))

theorem plain_render (hsuffix : Plain form.wholeSuffix) (hinfinity : Plain form.infinity)
    (hnan : Plain form.notANumber) (select : Nat → Decimal) (x : Double) : Plain (form.render select x) := by
  cases x with
  | nan => exact hnan
  | infinite negative => exact (plain_signText negative).append hinfinity
  | finite negative units _ =>
    refine (plain_signText negative).append ?_
    split
    · exact (plain_ofList (by decide) : Plain "0").append hsuffix
    · exact plain_layout hsuffix _

end Notation

namespace Double

theorem plain_wholeSuffix : Plain ".0" := plain_ofList (by decide)

theorem plain_text (x : Double) : Plain x.text := by
  have hinfinity : Plain "inf" := plain_ofList (by decide)
  have hnan : Plain "nan" := plain_ofList (by decide)
  exact Notation.plain_render (plain_wholeSuffix : Plain identifying.wholeSuffix) hinfinity hnan _ x

theorem plain_documentText (x : Double) : Plain x.documentText := by
  have hinfinity : Plain "Infinity" := plain_ofList (by decide)
  have hnan : Plain "NaN" := plain_ofList (by decide)
  exact Notation.plain_render (plain_wholeSuffix : Plain documentForm.wholeSuffix) hinfinity hnan _ x

end Double

theorem Number.plain_intText (n : Int) : Plain (intText n) :=
  (Notation.plain_signText _).append (Notation.plain_digitText _)

/-! ## Values -/

namespace Json

/-- A spelling whose words and numbers are plain and whose strings are quoted. -/
structure Spelling.Tame (how : Spelling) : Prop where
  null : Plain how.null
  yes : Plain how.yes
  no : Plain how.no
  double : ∀ x, Plain (how.double x)
  quote : ∀ s, Quotation (how.quote s).toList

theorem plain_null : Plain "null" := plain_ofList (by decide)

theorem plain_true : Plain "true" := plain_ofList (by decide)

theorem plain_false : Plain "false" := plain_ofList (by decide)

theorem tame_documentSpelling : documentSpelling.Tame :=
  ⟨plain_null, plain_true, plain_false, Double.plain_documentText, quotation_documentQuoted⟩

theorem tame_asciiSpelling : asciiSpelling.Tame :=
  ⟨plain_null, plain_true, plain_false, Double.plain_documentText, quotation_asciiQuoted⟩

theorem tame_sourceSpelling : sourceSpelling.Tame := by
  have hnone : Plain "None" := plain_ofList (by decide)
  have htrue : Plain "True" := plain_ofList (by decide)
  have hfalse : Plain "False" := plain_ofList (by decide)
  exact ⟨hnone, htrue, hfalse, Double.plain_text, quotation_sourceQuoted⟩

/-- Pieces between brackets. -/
theorem piece_bracketed {opening closing : String} (hopening : Plain opening) (hclosing : Plain closing)
    {items : List String} (h : ∀ s ∈ items, Piece s) : Piece (opening ++ joinWith ", " items ++ closing) := by
  have hcomma : Plain ", " := plain_ofList (by decide)
  have hitems : Piece (joinWith ", " items) := piece_joinWith hcomma (by simp) h
  exact (hopening.appendPiece hitems).appendPlain hclosing

variable {how : Spelling}

mutual

theorem piece_write (h : how.Tame) : ∀ v : Json, Piece (v.write how)
  | .null => by
    rw [write]
    exact h.null.piece
  | .bool b => by
    rw [write]
    split
    · exact h.yes.piece
    · exact h.no.piece
  | .number (.int n) => by
    rw [write]
    exact (Number.plain_intText n).piece
  | .number (.double x) => by
    rw [write]
    exact (h.double x).piece
  | .text s => by
    rw [write]
    exact (h.quote s).piece
  | .list items => by
    rw [write]
    exact piece_bracketed (plain_ofList (by decide)) (plain_ofList (by decide)) (pieces_writeItems h items)
  | .object fields => by
    rw [write]
    exact piece_bracketed (plain_ofList (by decide)) (plain_ofList (by decide)) (pieces_writeFields h fields)

theorem pieces_writeItems (h : how.Tame) : ∀ (items : List Json), ∀ s ∈ writeItems how items, Piece s
  | [] => by
    rw [writeItems]
    exact nofun
  | item :: rest => by
    rw [writeItems]
    exact List.forall_mem_cons.2 ⟨piece_write h item, pieces_writeItems h rest⟩

theorem pieces_writeFields (h : how.Tame) :
    ∀ (fields : List (String × Json)), ∀ s ∈ writeFields how fields, Piece s
  | [] => by
    rw [writeFields]
    exact nofun
  | (key, value) :: rest => by
    have hcolon : Plain ": " := plain_ofList (by decide)
    rw [writeFields]
    exact List.forall_mem_cons.2
      ⟨(h.quote key).piece.separated hcolon (by simp) (piece_write h value), pieces_writeFields h rest⟩

end

theorem piece_documentLine (v : Json) : Piece v.documentLine := piece_write tame_documentSpelling v

theorem piece_asciiLine (v : Json) : Piece v.asciiLine := piece_write tame_asciiSpelling v

theorem piece_sourceLine (v : Json) : Piece v.sourceLine := piece_write tame_sourceSpelling v

end Json

end DashboardCompiler
