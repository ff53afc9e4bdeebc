import DashboardCompiler.Proofs.Text.Quoted
import DashboardCompiler.Target.BubbleTea.Literal
import DashboardCompiler.Target.Blessed.Literal
import DashboardCompiler.Target.Ratatui.Literal
import DashboardCompiler.Target.Textual.Literal
import Mathlib.Data.List.Infix

/-!
# Quoted texts in code

Generated code holds user text as string literals and is then scanned for the modules it uses. The scan first drops
the lines that are comments: a literal holds no line feed, so every line begins with code or with the quote of a
literal, and code that holds no comment mark makes no comment of a line. It then empties the literals: it enters each of
them at its quote and leaves it at the quote that ends it, because what follows is code and no further quote. What it
sees in the end is the code alone, whatever the texts say.
-/

namespace DashboardCompiler

/-- A text as a string literal of a target's language. -/
def Framework.quoted : Framework → String → String
  | .textual => Textual.text
  | .bubbleTea => BubbleTea.text
  | .ratatui => Ratatui.text
  | .blessed => Blessed.text

namespace Code

open Text

/-- Code that opens neither a literal nor a comment. -/
structure Bare (code : String) : Prop where
  unquoted : ∀ c ∈ code.toList, isQuote c = false
  noHash : '#' ∉ code.toList
  noSlashes : ¬ ['/', '/'] <:+: code.toList

instance : DecidablePred Bare := fun code =>
  decidable_of_iff
    (code.toList.all (!isQuote ·) = true ∧ '#' ∉ code.toList ∧ ¬ ['/', '/'] <:+: code.toList)
    ⟨fun ⟨hquote, hhash, hslashes⟩ => ⟨by simpa using hquote, hhash, hslashes⟩,
      fun ⟨hquote, hhash, hslashes⟩ => ⟨by simpa using hquote, hhash, hslashes⟩⟩

/-- A text as a literal of the language that it is written in. -/
def literalOf (text : Framework × String) : String := text.1.quoted text.2

variable {α β : Type}

/-- Code and texts in turn: after each text, as a literal, the code that follows it. -/
def interleaved (quote : α → String) (code : String) : List (α × String) → String
  | [] => code
  | (text, next) :: rest => code ++ quote text ++ interleaved quote next rest

variable {quote : α → String} {code : String} {items : List (α × String)} {cs rest : List Char}

theorem quotation_literalOf (text : Framework × String) : Quotation (literalOf text).toList := by
  obtain ⟨f, s⟩ := text
  cases f with
  | textual => exact quotation_sourceQuoted s
  | bubbleTea => exact quotation_documentQuoted s
  | ratatui => exact quotation_rustQuoted s
  | blessed => exact quotation_documentQuoted s

theorem Quotation.exists_quote (h : Quotation cs) : ∃ c tail, cs = c :: tail ∧ isQuote c = true := by
  have hcode := h.code
  cases cs with
  | nil => cases hcode
  | cons c tail =>
    refine ⟨c, tail, rfl, ?_⟩
    by_contra hc
    rw [Bool.not_eq_true] at hc
    rw [emptyLiterals_cons_of_not_isQuote hc] at hcode
    obtain ⟨rfl, -⟩ := List.cons.inj hcode
    revert hc
    decide

/-! ## No line is a comment -/

/-- No line of the text is a comment. -/
def Uncommented (cs : List Char) : Prop := ∀ line ∈ splitAtFeeds cs, isCommentLine line = false

theorem joinChars_splitAtFeeds (cs : List Char) : joinChars (splitAtFeeds cs) = cs := by
  induction cs with
  | nil => rfl
  | cons c cs ih =>
    obtain ⟨line, lines, hsplit⟩ := List.exists_cons_of_ne_nil (splitAtFeeds_ne_nil cs)
    rw [hsplit] at ih
    by_cases hc : c = '\n'
    · have hjoin : joinChars ([] :: line :: lines) = '\n' :: joinChars (line :: lines) := rfl
      rw [splitAtFeeds, if_pos hc, hsplit, hjoin, ih, hc]
    · have hjoin : joinChars ((c :: line) :: lines) = c :: joinChars (line :: lines) := by cases lines <;> rfl
      rw [splitAtFeeds_cons_of_ne hc hsplit, hjoin, ih]

theorem Uncommented.withoutComments (h : Uncommented cs) : Code.withoutComments cs = cs := by
  have hkept : ((splitAtFeeds cs).map fun line => if isCommentLine line then [] else line) = splitAtFeeds cs := by
    refine (List.map_congr_left fun line hline => ?_).trans (List.map_id _)
    rw [h line hline]
    rfl
  rw [Code.withoutComments, hkept, joinChars_splitAtFeeds]

/-- A line that begins with a literal is no comment. -/
theorem Uncommented.prepend_quotation (hrest : Uncommented rest) (hcs : Quotation cs) : Uncommented (cs ++ rest) := by
  obtain ⟨line, lines, hsplit⟩ := List.exists_cons_of_ne_nil (splitAtFeeds_ne_nil rest)
  have hfeed : '\n' ∉ cs := fun hmem => absurd (hcs.unbroken _ hmem) (by decide)
  rw [Uncommented, hsplit] at hrest
  rw [Uncommented, splitAtFeeds_append_of_not_mem hfeed hsplit]
  obtain ⟨-, hlines⟩ := List.forall_mem_cons.1 hrest
  obtain ⟨c, tail, rfl, hc⟩ := hcs.exists_quote
  exact List.forall_mem_cons.2 ⟨isCommentLine_of_isQuote hc _, hlines⟩

/-- Nor is one that begins with bare code: a mark would have to stand in the code, or begin at its end. -/
theorem Uncommented.prepend_bare (hrest : Uncommented rest) (hhash : '#' ∉ cs) (hslashes : ¬ ['/', '/'] <:+: cs)
    (hhead : rest.head? ≠ some '/') : Uncommented (cs ++ rest) := by
  induction cs with
  | nil => exact hrest
  | cons c cs ih =>
    rw [List.mem_cons, not_or] at hhash
    rw [List.infix_cons_iff, not_or] at hslashes
    have htail := ih hhash.2 hslashes.2
    rw [List.cons_append]
    by_cases hc : c = '\n'
    · rw [Uncommented, splitAtFeeds, if_pos hc]
      exact List.forall_mem_cons.2 ⟨rfl, htail⟩
    · obtain ⟨line, lines, hsplit⟩ := List.exists_cons_of_ne_nil (splitAtFeeds_ne_nil (cs ++ rest))
      rw [Uncommented, hsplit] at htail
      obtain ⟨hline, hlines⟩ := List.forall_mem_cons.1 htail
      rw [Uncommented, splitAtFeeds_cons_of_ne hc hsplit]
      -- Two slashes would have to lie side by side in the code: what follows it begins with a quote.
      have hsecond : line.head? ≠ some '/' ∨ c ≠ '/' := by
        by_contra hboth
        rw [not_or, not_not, not_not] at hboth
        obtain ⟨hfirst, rfl⟩ := hboth
        have hnext := head?_of_splitAtFeeds hsplit hfirst
        cases cs with
        | nil => exact hhead hnext
        | cons d cs =>
          obtain rfl : d = '/' := Option.some.inj hnext
          exact hslashes.1 ⟨cs, rfl⟩
      refine List.forall_mem_cons.2 ⟨?_, hlines⟩
      rw [isCommentLine_cons, hline]
      rcases hsecond with hsecond | hsecond
      · simp [Ne.symm hhash.1, hsecond]
      · simp [Ne.symm hhash.1, hsecond]

theorem uncommented_interleaved (hquote : ∀ text, Quotation (quote text).toList) (hcode : Bare code)
    (hitems : ∀ item ∈ items, Bare item.2) : Uncommented (interleaved quote code items).toList := by
  induction items generalizing code with
  | nil =>
    have hempty : Uncommented [] := by
      rw [Uncommented, splitAtFeeds, List.forall_mem_singleton]
      rfl
    have hwhole := hempty.prepend_bare hcode.noHash hcode.noSlashes (by simp)
    rwa [List.append_nil] at hwhole
  | cons item items ih =>
    obtain ⟨text, next⟩ := item
    obtain ⟨hnext, hrest⟩ := List.forall_mem_cons.1 hitems
    have hliteral := (ih hnext hrest).prepend_quotation (hquote text)
    obtain ⟨c, tail, hchars, hc⟩ := (hquote text).exists_quote
    have hhead : ((quote text).toList ++ (interleaved quote next items).toList).head? ≠ some '/' := by
      rw [hchars]
      rintro ⟨⟩
      exact absurd hc (by decide)
    rw [interleaved, String.toList_append, String.toList_append, List.append_assoc]
    exact hliteral.prepend_bare hcode.noHash hcode.noSlashes hhead

/-! ## The scan -/

theorem unquoted_interleaved (hcode : Bare code) (hne : code ≠ "") :
    Unquoted (interleaved quote code items).toList := by
  obtain ⟨c, tail, hchars⟩ := List.exists_cons_of_ne_nil fun hnil => hne (String.toList_eq_nil_iff.1 hnil)
  have hc : isQuote c = false := hcode.unquoted c (by rw [hchars]; exact List.mem_cons_self)
  cases items with
  | nil =>
    rw [interleaved, hchars, unquoted_cons]
    exact hc
  | cons item items =>
    rw [interleaved, String.toList_append, String.toList_append, hchars, List.cons_append, List.cons_append,
      unquoted_cons]
    exact hc

theorem emptyLiterals_interleaved (hquote : ∀ text, Quotation (quote text).toList) (hcode : Bare code)
    (hitems : ∀ item ∈ items, Bare item.2 ∧ item.2 ≠ "") :
    emptyLiterals 0 (interleaved quote code items).toList =
      (interleaved (fun _ => "\"\"") code items).toList := by
  induction items generalizing code with
  | nil => exact emptyLiterals_of_plain hcode.unquoted
  | cons item items ih =>
    obtain ⟨text, next⟩ := item
    obtain ⟨⟨hnext, hne⟩, hrest⟩ := List.forall_mem_cons.1 hitems
    rw [interleaved, interleaved, String.toList_append, String.toList_append, String.toList_append,
      String.toList_append, List.append_assoc, List.append_assoc, emptyLiterals_append_of_plain hcode.unquoted,
      (hquote text).passes _ (unquoted_interleaved hnext hne), (hquote text).code, ih hnext hrest]
    rfl

theorem interleaved_const {mark : String} {others : List (β × String)}
    (h : others.map Prod.snd = items.map Prod.snd) :
    interleaved (fun _ => mark) code others = interleaved (fun _ => mark) code items := by
  induction items generalizing code others with
  | nil =>
    obtain rfl := List.map_eq_nil_iff.1 h
    rfl
  | cons item items ih =>
    obtain ⟨⟨text, next⟩, others, rfl, hnext, hrest⟩ := List.map_eq_cons_iff.1 h
    obtain rfl : next = item.2 := hnext
    rw [interleaved, interleaved, ih hrest]

theorem codeOnly_eq (hquote : ∀ text, Quotation (quote text).toList) (hcode : Bare code)
    (hitems : ∀ item ∈ items, Bare item.2 ∧ item.2 ≠ "") :
    codeOnly (interleaved quote code items) = interleaved (fun _ => "\"\"") code items := by
  have hkept := (uncommented_interleaved hquote hcode fun item hitem => (hitems item hitem).1).withoutComments
  rw [codeOnly, codeChars, hkept, emptyLiterals_interleaved hquote hcode hitems, String.ofList_toList]

theorem usedModules_eq_of_codeOnly_eq {s t : String} (h : codeOnly s = codeOnly t) (names : List String) :
    usedModules s names = usedModules t names := by
  have hchars : codeChars s.toList = codeChars t.toList := String.ofList_inj.1 h
  rw [usedModules, usedModules, hchars]

/-- **Quoted texts are invisible to the scan.** In code with texts in it, each of them as a literal of any target, the
scan sees each text as two quotes and all code as it is; so which modules the code uses does not depend on the texts, nor
on whose literals they are. -/
theorem codeOnly_interleaved {items : List ((Framework × String) × String)} (hcode : Bare code)
    (hitems : ∀ item ∈ items, Bare item.2 ∧ item.2 ≠ "") :
    codeOnly (interleaved literalOf code items) = interleaved (fun _ => "\"\"") code items ∧
      ∀ others : List ((Framework × String) × String), others.map Prod.snd = items.map Prod.snd →
        ∀ names, usedModules (interleaved literalOf code others) names =
          usedModules (interleaved literalOf code items) names := by
  refine ⟨codeOnly_eq quotation_literalOf hcode hitems, fun others hcodes names => ?_⟩
  have hothers : ∀ item ∈ others, Bare item.2 ∧ item.2 ≠ "" := by
    intro item hitem
    obtain ⟨twin, htwin, hsame⟩ := List.mem_map.1 (hcodes ▸ List.mem_map_of_mem hitem)
    rw [← hsame]
    exact hitems twin htwin
  refine usedModules_eq_of_codeOnly_eq ?_ names
  rw [codeOnly_eq quotation_literalOf hcode hothers, codeOnly_eq quotation_literalOf hcode hitems,
    interleaved_const hcodes]

/-- Quotes, comment marks and line feeds in the texts, an empty text between two slashes, and texts that name a module,
the last of them as a literal of another target: the code uses none but its own, as it does with other texts. -/
theorem codeOnly_interleaved_marks :
    let items : List ((Framework × String) × String) :=
      [((.textual, "it's \"\"\" os.x"), "\n  + http.Get / "), ((.textual, ""), "/ "),
       ((.blessed, "a\n# b // `c` '"), "\n")]
    let others : List ((Framework × String) × String) :=
      [((.bubbleTea, ""), "\n  + http.Get / "), ((.bubbleTea, "# os.y"), "/ "), ((.bubbleTea, "\\"), "\n")]
    (Bare "x = " ∧ ∀ item ∈ items, Bare item.2 ∧ item.2 ≠ "") ∧ others.map Prod.snd = items.map Prod.snd ∧
      interleaved literalOf "x = " items =
        "x = 'it\\'s \"\"\" os.x'\n  + http.Get / ''/ \"a\\n# b // `c` '\"\n" ∧
      codeOnly (interleaved literalOf "x = " items) = "x = \"\"\n  + http.Get / \"\"/ \"\"\n" ∧
      usedModules (interleaved literalOf "x = " items) ["os", "http"] = ["http"] ∧
      usedModules (interleaved literalOf "x = " others) ["os", "http"] = ["http"] := by
  intro items others
  have hcode : Bare "x = " := by decide
  have hitems : ∀ item ∈ items, Bare item.2 ∧ item.2 ≠ "" := by decide
  obtain ⟨hscan, hmodules⟩ := codeOnly_interleaved hcode hitems
  have hused : usedModules (interleaved literalOf "x = " items) ["os", "http"] = ["http"] := by
    decide +kernel
  exact ⟨⟨hcode, hitems⟩, rfl, by decide +kernel, hscan.trans (by decide +kernel), hused,
    (hmodules others rfl _).trans hused⟩

end Code

end DashboardCompiler
