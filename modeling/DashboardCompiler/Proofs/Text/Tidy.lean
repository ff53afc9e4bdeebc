import DashboardCompiler.Proofs.Text.Quoted
import DashboardCompiler.Text.Comment

/-!
# Tidy lines

Most of a generated program is fixed text, which one computation finds tidy. The lines that are put together
are tidy as pieces or as comments, and a comment is one line whatever text went into it.
-/

namespace DashboardCompiler.Code

open Text

theorem Piece.tidy {s : String} (h : Piece s) : Tidy s := ⟨h.unbroken, .inr h.passes⟩

theorem Tidy.alikeTexts {line : String} (h : Tidy line) : AlikeTexts line line := by
  rw [AlikeTexts, lines_of_oneLine h.unbroken.oneLine]
  exact .cons (.same h) .nil

/-- A line that mentions a name in between fixed text. -/
theorem tidy_named {before name after : String} (hbefore : Plain before) (hname : Plain name) (hafter : Plain after) :
    Tidy (before ++ name ++ after) := ((hbefore.append hname).append hafter).piece.tidy

/-! ## Lists of lines -/

def TidyLines (items : List String) : Prop := ∀ line ∈ items, Tidy line

namespace TidyLines

variable {before after items : List String}

theorem nil : TidyLines [] := List.forall_mem_nil _

theorem cons {line : String} (hline : Tidy line) (h : TidyLines items) : TidyLines (line :: items) :=
  List.forall_mem_cons.2 ⟨hline, h⟩

theorem append (hbefore : TidyLines before) (hafter : TidyLines after) : TidyLines (before ++ after) :=
  List.forall_mem_append.2 ⟨hbefore, hafter⟩

/-- Lines that are only there under some condition. -/
theorem optional {c : Prop} [Decidable c] (h : TidyLines items) : TidyLines (if c then items else []) := by
  split
  · exact h
  · exact nil

theorem alikeLines (h : TidyLines items) : AlikeLines items items := AlikeLines.refl h

theorem alikeTexts (h : TidyLines items) : AlikeTexts (joinLines items) (joinLines items) :=
  .joinLines h.alikeLines

end TidyLines

/-- Whether a fixed line is tidy. -/
def isTidy (cs : List Char) : Bool := cs.all (!isBreak ·) && (isCommentLine cs || contained 0 cs)

theorem tidy_ofList {cs : List Char} (h : isTidy cs = true) : Tidy (String.ofList cs) := by
  rw [isTidy, Bool.and_eq_true, Bool.or_eq_true] at h
  refine ⟨unbroken_ofList h.1, ?_⟩
  rw [EndsScan, String.toList_ofList]
  exact h.2.imp_right passes_of_contained

/-- A fixed line that is written in three parts. -/
theorem tidy_ofList_append {as bs cs : List Char} (h : isTidy (as ++ bs ++ cs) = true) :
    Tidy (String.ofList as ++ String.ofList bs ++ String.ofList cs) := by
  rw [← String.ofList_append, ← String.ofList_append]
  exact tidy_ofList h

/-- A fixed line around a piece. -/
theorem tidy_around {before after : List Char} (hbefore : before.all isPlain = true)
    (hafter : isPiece after = true) (hquote : after.head?.all (!isQuote ·) = true) {middle : String}
    (hmiddle : Piece middle) : Tidy (String.ofList before ++ middle ++ String.ofList after) := by
  refine (((plain_ofList hbefore).appendPiece hmiddle).append (piece_ofList hafter) ?_).tidy
  intro c hc
  rw [String.toList_ofList] at hc
  simpa [Option.mem_def.1 hc] using hquote

/-- Lines of a program together with the characters of the fixed ones among them; the others are known to be
tidy. -/
inductive Spelled : List String → List (List Char) → Prop
  | nil : Spelled [] []
  | fixed {cs : List Char} {items : List String} {css : List (List Char)} (h : Spelled items css) :
    Spelled (String.ofList cs :: items) (cs :: css)
  | made {line : String} {items : List String} {css : List (List Char)} (hline : Tidy line)
    (h : Spelled items css) : Spelled (line :: items) css

theorem Spelled.tidyLines {items : List String} {css : List (List Char)} (h : Spelled items css)
    (hfixed : css.all isTidy = true) : TidyLines items := by
  induction h with
  | nil => exact .nil
  | fixed _ ih =>
    rw [List.all_cons, Bool.and_eq_true] at hfixed
    exact .cons (tidy_ofList hfixed.1) (ih hfixed.2)
  | made hline _ ih => exact .cons hline (ih hfixed)

/-! ## Unbroken lines -/

/-- Lines of a program, none of which holds anything that ends a line. Not all of them are tidy: some open a
literal of three quotes, or have a quote that belongs to no literal. -/
def UnbrokenLines (items : List String) : Prop := ∀ line ∈ items, Unbroken line

namespace UnbrokenLines

variable {before after items : List String}

theorem nil : UnbrokenLines [] := nofun

theorem cons {line : String} (hline : Unbroken line) (h : UnbrokenLines items) : UnbrokenLines (line :: items) :=
  List.forall_mem_cons.2 ⟨hline, h⟩

theorem append (hbefore : UnbrokenLines before) (hafter : UnbrokenLines after) :
    UnbrokenLines (before ++ after) := List.forall_mem_append.2 ⟨hbefore, hafter⟩

theorem optional {c : Prop} [Decidable c] (h : UnbrokenLines items) : UnbrokenLines (if c then items else []) := by
  split
  · exact h
  · exact nil

theorem of_tidy (h : TidyLines items) : UnbrokenLines items := fun line hline => (h line hline).unbroken

theorem oneLine (h : UnbrokenLines items) : ∀ line ∈ items, OneLine line := fun line hline => (h line hline).oneLine

end UnbrokenLines

theorem Spelled.unbrokenLines {items : List String} {css : List (List Char)} (h : Spelled items css)
    (hfixed : css.all (·.all (!isBreak ·)) = true) : UnbrokenLines items := by
  induction h with
  | nil => exact .nil
  | @fixed cs items css _ ih =>
    rw [List.all_cons, Bool.and_eq_true] at hfixed
    refine .cons (fun c hc => ?_) (ih hfixed.2)
    rw [String.toList_ofList] at hc
    simpa using List.all_eq_true.1 hfixed.1 c hc
  | made hline _ ih => exact .cons hline.unbroken (ih hfixed)

/-! ## Comments -/

theorem not_isBlank_of_mem_wordsFrom {reading cs word : List Char}
    (hreading : ∀ c ∈ reading, Unicode.isBlank c = false) (hword : word ∈ wordsFrom reading cs) :
    ∀ c ∈ word, Unicode.isBlank c = false := by
  fun_induction wordsFrom reading cs with
  | case1 => cases hword
  | case2 reading _ =>
    rw [List.mem_singleton.1 hword]
    exact hreading
  | case3 c rest reading _ _ ih => exact ih nofun hword
  | case4 c rest reading _ _ ih =>
    rcases List.mem_cons.1 hword with rfl | hword
    · exact hreading
    · exact ih nofun hword
  | case5 c rest reading hc ih =>
    refine ih (fun d hd => ?_) hword
    rcases List.mem_append.1 hd with hd | hd
    · exact hreading d hd
    · rw [List.mem_singleton.1 hd]
      simpa using hc

theorem mem_joinWords {words : List (List Char)} {c : Char} (hc : c ∈ joinWords words) :
    c = ' ' ∨ ∃ word ∈ words, c ∈ word := by
  fun_induction joinWords words with
  | case1 => cases hc
  | case2 word => exact .inr ⟨word, List.mem_singleton_self _, hc⟩
  | case3 word rest _ ih =>
    rcases List.mem_append.1 hc with hc | hc
    · exact .inr ⟨word, List.mem_cons_self, hc⟩
    · rcases List.mem_cons.1 hc with rfl | hc
      · exact .inl rfl
      · exact (ih hc).imp_right fun ⟨other, hother, hmem⟩ => ⟨other, List.mem_cons_of_mem _ hother, hmem⟩

/-- Whatever ends a line is blank, and between the words of a comment there are single spaces only. -/
theorem unbroken_commentText (s : String) : Unbroken (commentText s) := by
  have hspace : isBreak ' ' = false := by decide
  have hfeed : Unicode.isBlank '\n' = true := by decide
  have hreturn : Unicode.isBlank '\r' = true := by decide
  intro c hc
  rw [commentText, String.toList_ofList] at hc
  rcases mem_joinWords hc with rfl | ⟨word, hword, hc⟩
  · exact hspace
  · have hblank := not_isBlank_of_mem_wordsFrom (List.forall_mem_nil _) hword c hc
    by_contra hbreak
    simp only [isBreak, Bool.or_eq_false_iff, decide_eq_false_iff_not, not_and_or, Decidable.not_not]
      at hbreak
    rcases hbreak with rfl | rfl
    · rw [hfeed] at hblank
      cases hblank
    · rw [hreturn] at hblank
      cases hblank

theorem isCommentLine_slashes (rest : String) : isCommentLine ("// " ++ rest).toList = true := by
  rw [String.toList_append]
  rfl

theorem unbroken_slashes {rest : String} (h : Unbroken rest) : Unbroken ("// " ++ rest) := by
  have hslashes : Plain "// " := plain_ofList (by decide)
  exact hslashes.piece.unbroken.append h

theorem tidy_comment {rest : String} (h : Unbroken rest) : Tidy ("// " ++ rest) :=
  ⟨unbroken_slashes h, .inl (isCommentLine_slashes rest)⟩

theorem Alike.comments {a b : String} (ha : Unbroken a) (hb : Unbroken b) : Alike ("// " ++ a) ("// " ++ b) :=
  .comment (unbroken_slashes ha) (unbroken_slashes hb) (isCommentLine_slashes a) (isCommentLine_slashes b)

end DashboardCompiler.Code
