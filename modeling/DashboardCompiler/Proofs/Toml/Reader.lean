import DashboardCompiler.Proofs.Json.Reader
import DashboardCompiler.Toml.Reader

/-!
# What the reader of settings does with a text

Like the reader of documents it takes something off the front of a text, so that what is left is an end of it. Of its
faults two are limits of the reader, and each of them is only met by a text that has the size for it: a run of more
digits than the one, or more opening brackets than the other.
-/

namespace DashboardCompiler.Toml

/-- The digits of an integer with the underscores that may stand between them. -/
def isDigitMark (c : Char) : Bool := c.isDigit || c = '_'

/-- A fault at a limit is about the text, of which lists and tables may be `depth` deep. -/
def Fault.Founded (depth : Nat) (text : List Char) : Fault → Prop
  | .malformed => True
  | .longInteger => ∃ run, run <:+: text ∧ (∀ c ∈ run, isDigitMark c = true) ∧ Json.digitLimit < run.countP Char.isDigit
  | .tooDeep => depth < text.countP Json.isOpening

variable {α β : Type}

/-- What is left of the text, as `left` finds it in the result, is an end of it; or the fault is about the text. -/
def SoundBy (left : α → List Char) (depth : Nat) (text : List Char) : Except Fault α → Prop
  | .ok a => left a <:+ text
  | .error fault => fault.Founded depth text

variable {left : α → List Char} {depth : Nat} {text rest : List Char}

theorem Fault.Founded.mono {fault : Fault} (h : fault.Founded depth rest) (hrest : rest <:+ text) :
    fault.Founded depth text := by
  cases fault with
  | malformed => trivial
  | longInteger =>
    obtain ⟨run, hrun, hmarks⟩ := h
    exact ⟨run, hrun.trans hrest.isInfix, hmarks⟩
  | tooDeep => exact Nat.lt_of_lt_of_le h (hrest.sublist.countP_le)

/-- One bracket more gives room for one list or table more. -/
theorem Fault.Founded.deeper {fault : Fault} {c : Char} (hc : Json.isOpening c = true)
    (h : fault.Founded depth rest) : fault.Founded (depth + 1) (c :: rest) := by
  cases fault with
  | malformed => trivial
  | longInteger => exact h.mono (List.suffix_cons c rest)
  | tooDeep =>
    rw [Founded, List.countP_cons_of_pos hc]
    exact Nat.succ_lt_succ h

namespace SoundBy

theorem mono {x : Except Fault α} (h : SoundBy left depth rest x) (hrest : rest <:+ text) :
    SoundBy left depth text x := by
  match x with
  | .ok _ => exact List.IsSuffix.trans h hrest
  | .error fault => exact Fault.Founded.mono h hrest

theorem deeper {x : Except Fault α} {c : Char} (hc : Json.isOpening c = true) (h : SoundBy left depth rest x) :
    SoundBy left (depth + 1) (c :: rest) x := by
  match x with
  | .ok _ => exact List.IsSuffix.trans h (List.suffix_cons c rest)
  | .error fault => exact Fault.Founded.deeper hc h

theorem bind {x : Except Fault α} {f : α → Except Fault β} {left' : β → List Char} (hx : SoundBy left depth text x)
    (hf : ∀ a, left a <:+ text → SoundBy left' depth text (f a)) : SoundBy left' depth text (x >>= f) := by
  match x with
  | .ok a => exact hf a hx
  | .error fault => exact hx

end SoundBy

theorem orMalformed_sound (a : Option α) : SoundBy (fun _ => []) depth text (orMalformed a) := by
  cases a with
  | none => trivial
  | some a => exact List.nil_suffix

/-! ## Blanks -/

theorem skipSpaces_suffix (cs : List Char) : skipSpaces cs <:+ cs := List.dropWhile_suffix _

theorem skipComment_sound (cs : List Char) : SoundBy id depth cs (skipComment cs) := by
  unfold skipComment
  split
  · rename_i rest
    split
    · trivial
    · exact (List.dropWhile_suffix _).trans (List.suffix_cons '#' rest)
  · exact List.suffix_rfl

theorem skipBetween_sound (fuel : Nat) (cs : List Char) : SoundBy id depth cs (skipBetween fuel cs) := by
  induction fuel generalizing cs with
  | zero =>
    unfold skipBetween
    exact List.suffix_rfl
  | succ fuel ih =>
    have hblanks : (cs.dropWhile fun c => isSpace c || c = '\n') <:+ cs := List.dropWhile_suffix _
    unfold skipBetween
    split
    · rename_i rest hrest
      rw [hrest] at hblanks
      refine SoundBy.bind ((skipComment_sound ('#' :: rest)).mono hblanks) fun after hafter => ?_
      exact (ih after).mono hafter
    · exact hblanks

/-! ## Texts and keys -/

theorem numbered_sound (count : Nat) (cs : List Char) : SoundBy Prod.snd depth cs (numbered count cs) := by
  unfold numbered
  dsimp only
  split
  · split
    · exact List.drop_suffix _ _
    · trivial
  · trivial

theorem joinedLines_sound (cs : List Char) : SoundBy id depth cs (joinedLines cs) := by
  have hspaces := skipSpaces_suffix cs
  unfold joinedLines
  split
  · exact List.nil_suffix
  · rename_i rest hrest
    rw [hrest] at hspaces
    exact ((List.dropWhile_suffix _).trans (List.suffix_cons '\n' rest)).trans hspaces
  · trivial

theorem basicText_sound (manyLines : Bool) (fuel : Nat) (done cs : List Char) :
    SoundBy Prod.snd depth cs (basicText manyLines fuel done cs) := by
  induction fuel generalizing done cs with
  | zero =>
    unfold basicText
    trivial
  | succ fuel ih =>
    match cs with
    | [] =>
      unfold basicText
      trivial
    | c :: rest =>
      have hrest : rest <:+ c :: rest := List.suffix_cons c rest
      unfold basicText
      split
      · split
        · exact hrest
        · split
          · rename_i after
            exact List.IsSuffix.trans ⟨['"', '"'], rfl⟩ hrest
          · exact (ih _ _).mono hrest
      · split
        · split
          · trivial
          · rename_i after
            have hafter := (List.suffix_cons 'u' after).trans hrest
            refine SoundBy.bind ((numbered_sound 4 after).mono hafter) fun found hfound => ?_
            exact (ih _ _).mono hfound
          · rename_i after
            have hafter := (List.suffix_cons 'U' after).trans hrest
            refine SoundBy.bind ((numbered_sound 8 after).mono hafter) fun found hfound => ?_
            exact (ih _ _).mono hfound
          · rename_i e after _ _
            split
            · refine SoundBy.bind ((joinedLines_sound (e :: after)).mono hrest) fun found hfound => ?_
              exact (ih _ _).mono hfound
            · split
              · exact (ih _ _).mono ((List.suffix_cons e after).trans hrest)
              · trivial
        · split <;> split
          · trivial
          · exact (ih _ _).mono hrest
          · trivial
          · exact (ih _ _).mono hrest

theorem literalLine_sound (cs : List Char) : SoundBy Prod.snd depth cs (literalLine cs) := by
  have hend : (cs.dropWhile (· ≠ '\'')) <:+ cs := List.dropWhile_suffix _
  unfold literalLine
  dsimp only
  split
  · rename_i quote rest hrest
    rw [hrest] at hend
    split
    · trivial
    · exact (List.suffix_cons quote rest).trans hend
  · trivial

theorem literalLines_sound (cs : List Char) : SoundBy Prod.snd depth cs (literalLines cs) := by
  fun_induction literalLines cs with
  | case1 => trivial
  | case2 rest => exact ⟨['\'', '\'', '\''], rfl⟩
  | case3 => trivial
  | case4 c rest _ _ ih => exact SoundBy.bind (ih.mono (List.suffix_cons c rest)) fun _ hafter => hafter

theorem withLastQuotes_suffix (quote : Char) (body cs : List Char) : (withLastQuotes quote body cs).2 <:+ cs :=
  List.drop_suffix _ _

theorem skipFeed_suffix (cs : List Char) : skipFeed cs <:+ cs := by
  unfold skipFeed
  split
  · exact List.suffix_cons _ _
  · exact List.suffix_rfl

theorem quotedText?_sound {cs : List Char} {scan : Except Fault (String × List Char)} (h : quotedText? cs = some scan) :
    SoundBy Prod.snd depth cs scan := by
  unfold quotedText? at h
  split at h
  · rename_i rest
    cases h
    have hrest : skipFeed rest <:+ '"' :: '"' :: '"' :: rest := (skipFeed_suffix rest).trans ⟨['"', '"', '"'], rfl⟩
    refine SoundBy.bind ((basicText_sound true _ [] _).mono hrest) fun found hfound => ?_
    exact (withLastQuotes_suffix '"' found.1 found.2).trans hfound
  · rename_i rest _
    cases h
    exact SoundBy.bind ((basicText_sound false _ [] rest).mono (List.suffix_cons '"' rest)) fun _ hfound => hfound
  · rename_i rest
    cases h
    have hrest : skipFeed rest <:+ '\'' :: '\'' :: '\'' :: rest := (skipFeed_suffix rest).trans ⟨['\'', '\'', '\''], rfl⟩
    refine SoundBy.bind ((literalLines_sound _).mono hrest) fun found hfound => ?_
    exact (withLastQuotes_suffix '\'' found.1 found.2).trans hfound
  · rename_i rest _
    cases h
    exact SoundBy.bind ((literalLine_sound rest).mono (List.suffix_cons '\'' rest)) fun _ hfound => hfound
  · cases h

theorem keyPart_sound (cs : List Char) : SoundBy Prod.snd depth cs (keyPart cs) := by
  unfold keyPart
  split
  · rename_i rest
    exact SoundBy.bind ((basicText_sound false _ [] rest).mono (List.suffix_cons '"' rest)) fun _ hfound => hfound
  · rename_i rest
    exact SoundBy.bind ((literalLine_sound rest).mono (List.suffix_cons '\'' rest)) fun _ hfound => hfound
  · dsimp only
    split
    · trivial
    · exact List.dropWhile_suffix _

theorem key_sound (fuel : Nat) (cs : List Char) : SoundBy Prod.snd depth cs (key fuel cs) := by
  induction fuel generalizing cs with
  | zero =>
    unfold key
    trivial
  | succ fuel ih =>
    unfold key
    refine SoundBy.bind (keyPart_sound cs) fun ⟨part, rest⟩ hrest => ?_
    have hspaces := (skipSpaces_suffix rest).trans hrest
    dsimp only
    split
    · rename_i more hmore
      rw [hmore] at hspaces
      have hnext := ((skipSpaces_suffix more).trans (List.suffix_cons '.' more)).trans hspaces
      exact SoundBy.bind ((ih _).mono hnext) fun _ hfound => hfound
    · exact hspaces

/-! ## Numbers and moments -/

/-- A run of digits is what was passed over without the underscores in it. -/
theorem moreDigits_run {digit : Char → Bool} (hmark : digit '_' = false) (cs : List Char) :
    ∃ run, run ++ (moreDigits digit cs).2 = cs ∧ (∀ c ∈ run, digit c = true ∨ c = '_') ∧
      run.filter digit = (moreDigits digit cs).1 := by
  fun_induction moreDigits digit cs with
  | case1 => exact ⟨[], rfl, nofun, rfl⟩
  | case2 c hc => exact ⟨[c], rfl, by simp [hc], by simp [hc]⟩
  | case3 c hc => exact ⟨[], rfl, nofun, rfl⟩
  | case4 c d rest hc digits after hmore ih =>
    obtain ⟨run, hrun, hmarks, hdigits⟩ := ih
    rw [hmore] at hrun hdigits
    exact ⟨c :: run, congrArg (c :: ·) hrun, List.forall_mem_cons.2 ⟨.inl hc, hmarks⟩,
      (List.filter_cons_of_pos hc).trans (congrArg (c :: ·) hdigits)⟩
  | case5 c d rest hc hd ih =>
    obtain ⟨run, hrun, hmarks, hdigits⟩ := ih
    have hc : c = '_' := by simpa using (Bool.and_eq_true_iff.1 hd).1
    subst hc
    exact ⟨'_' :: run, congrArg ('_' :: ·) hrun, List.forall_mem_cons.2 ⟨.inr rfl, hmarks⟩,
      (List.filter_cons_of_neg (by simp [hmark])).trans hdigits⟩
  | case6 => exact ⟨[], rfl, nofun, rfl⟩

theorem digitRun?_run {digit : Char → Bool} (hmark : digit '_' = false) {cs digits after : List Char}
    (h : digitRun? digit cs = some (digits, after)) :
    ∃ run, run ++ after = cs ∧ (∀ c ∈ run, digit c = true ∨ c = '_') ∧ run.filter digit = digits := by
  unfold digitRun? at h
  split at h
  · cases h
  · rename_i c rest
    split at h
    · rename_i hc
      cases h
      obtain ⟨run, hrun, hmarks, hdigits⟩ := moreDigits_run hmark rest
      exact ⟨c :: run, congrArg (c :: ·) hrun, List.forall_mem_cons.2 ⟨.inl hc, hmarks⟩,
        (List.filter_cons_of_pos hc).trans (congrArg (c :: ·) hdigits)⟩
    · cases h

theorem digitRun?_suffix {digit : Char → Bool} (hmark : digit '_' = false) {cs digits after : List Char}
    (h : digitRun? digit cs = some (digits, after)) : after <:+ cs := by
  obtain ⟨run, hrun, -⟩ := digitRun?_run hmark h
  exact ⟨run, hrun⟩

theorem basedInteger?_suffix {cs : List Char} {v : Toml} (h : basedInteger? cs = some (v, rest)) : rest <:+ cs := by
  have hmark (base : Nat) : isDigitBelow base '_' = false := rfl
  have hdigits {base : Nat} {after : List Char}
      (h : ((digitRun? (isDigitBelow base) after).bind fun run => some (integer (natInBase base run.1), run.2)) =
        some (v, rest)) : rest <:+ after := by
    obtain ⟨run, hdigits, h⟩ := Option.bind_eq_some_iff.1 h
    cases h
    exact digitRun?_suffix (hmark base) hdigits
  unfold basedInteger? at h
  split at h
  · exact (hdigits h).trans ⟨['0', 'x'], rfl⟩
  · exact (hdigits h).trans ⟨['0', 'o'], rfl⟩
  · exact (hdigits h).trans ⟨['0', 'b'], rfl⟩
  · cases h

theorem splitSign_suffix (cs : List Char) : (splitSign cs).2 <:+ cs := by
  unfold splitSign
  split
  · exact List.suffix_cons _ _
  · exact List.suffix_cons _ _
  · exact List.suffix_rfl

theorem isDigit_mark : Char.isDigit '_' = false := rfl

/-- Digits before the point that are too many stand in a run. -/
theorem wholePart?_run {cs whole after : List Char} (h : wholePart? cs = some (whole, after)) :
    ∃ run, run ++ after = cs ∧ (∀ c ∈ run, isDigitMark c = true) ∧ run.countP Char.isDigit = whole.length := by
  unfold wholePart? at h
  split at h
  · cases h
    exact ⟨['0'], rfl, List.forall_mem_singleton.2 rfl, rfl⟩
  · obtain ⟨run, hrun, hmarks, hdigits⟩ := digitRun?_run isDigit_mark h
    refine ⟨run, hrun, fun c hc => ?_, by rw [List.countP_eq_length_filter, hdigits]⟩
    rw [isDigitMark, Bool.or_eq_true, decide_eq_true_eq]
    exact hmarks c hc

theorem places_suffix (cs : List Char) : (places cs).2 <:+ cs := by
  unfold places
  split
  · rename_i rest
    cases hdigits : digitRun? Char.isDigit rest with
    | none => exact List.suffix_rfl
    | some found => exact (digitRun?_suffix isDigit_mark hdigits).trans (List.suffix_cons '.' rest)
  · exact List.suffix_rfl

theorem power?_suffix {cs : List Char} {n : Int} (h : power? cs = some (n, rest)) : rest <:+ cs := by
  unfold power? at h
  split at h
  · rename_i e after
    split at h
    · obtain ⟨⟨digits, more⟩, hdigits, h⟩ := Option.bind_eq_some_iff.1 h
      cases h
      exact ((digitRun?_suffix isDigit_mark hdigits).trans (splitSign_suffix after)).trans (List.suffix_cons e after)
    · cases h
  · cases h

theorem decimal?_sound {cs : List Char} {scan : Except Fault (Toml × List Char)} (h : decimal? cs = some scan) :
    SoundBy Prod.snd depth cs scan := by
  unfold decimal? at h
  obtain ⟨⟨whole, after⟩, hwhole, h⟩ := Option.bind_eq_some_iff.1 h
  obtain ⟨run, hrun, hmarks, hmany⟩ := wholePart?_run hwhole
  have hafter : after <:+ cs := List.IsSuffix.trans ⟨run, hrun⟩ (splitSign_suffix cs)
  have hplaces := (places_suffix after).trans hafter
  dsimp only at h
  split at h
  · rw [← Option.some.inj h]
    split
    · rename_i hlong
      have hinfix : run <:+: cs :=
        List.IsInfix.trans (List.IsPrefix.isInfix ⟨after, hrun⟩) (splitSign_suffix cs).isInfix
      exact ⟨run, hinfix, hmarks, hmany ▸ hlong⟩
    · exact hplaces
  · rw [← Option.some.inj h]
    refine List.IsSuffix.trans ?_ hplaces
    cases hpower : power? (places after).2 with
    | none => exact List.suffix_rfl
    | some found => exact power?_suffix hpower

theorem doubleWord?_suffix {cs : List Char} {v : Toml} (h : doubleWord? cs = some (v, rest)) : rest <:+ cs := by
  have hsign := splitSign_suffix cs
  unfold doubleWord? at h
  dsimp only at h
  split at h
  · rename_i after hword
    cases h
    rw [hword] at hsign
    exact List.IsSuffix.trans ⟨['i', 'n', 'f'], rfl⟩ hsign
  · rename_i after hword
    cases h
    rw [hword] at hsign
    exact List.IsSuffix.trans ⟨['n', 'a', 'n'], rfl⟩ hsign
  · cases h

theorem skipFraction_suffix (cs : List Char) : skipFraction cs <:+ cs := by
  unfold skipFraction
  split
  · rename_i d after
    split
    · exact (List.dropWhile_suffix _).trans ⟨['.', d], rfl⟩
    · exact List.suffix_rfl
  · exact List.suffix_rfl

theorem afterClock?_suffix {cs : List Char} (h : afterClock? cs = some rest) : rest <:+ cs := by
  unfold afterClock? at h
  split at h
  · rename_i a b c d e f after
    split at h
    · cases h
      exact (skipFraction_suffix after).trans ⟨[a, b, ':', c, d, ':', e, f], rfl⟩
    · cases h
  · cases h

theorem skipOffset_suffix (cs : List Char) : skipOffset cs <:+ cs := by
  unfold skipOffset
  split
  · exact List.suffix_cons _ _
  · exact List.suffix_cons _ _
  · rename_i sign a b c d after _ _
    split
    · exact ⟨[sign, a, b, ':', c, d], rfl⟩
    · exact List.suffix_rfl
  · exact List.suffix_rfl

theorem date?_suffix {cs : List Char} {day : Nat × Nat × Nat} (h : date? cs = some (day, rest)) : rest <:+ cs := by
  unfold date? at h
  split at h
  · rename_i a b c d e f g i after
    simp only [Option.bind_eq_bind, Option.bind_eq_some_iff] at h
    obtain ⟨_, -, _, -, _, -, _, -, h⟩ := h
    split at h
    · cases h
      exact ⟨[a, b, c, d, '-', e, f, '-', g, i], rfl⟩
    · cases h
  · cases h

theorem skipClock_suffix (cs : List Char) : skipClock cs <:+ cs := by
  unfold skipClock
  split
  · rename_i mark rest
    split
    · split
      · rename_i after hclock
        exact ((skipOffset_suffix after).trans (afterClock?_suffix hclock)).trans (List.suffix_cons mark rest)
      · exact List.suffix_rfl
    · exact List.suffix_rfl
  · exact List.suffix_rfl

theorem moment?_sound {cs : List Char} {scan : Except Fault (Toml × List Char)} (h : moment? cs = some scan) :
    SoundBy Prod.snd depth cs scan := by
  unfold moment? at h
  split at h
  · rename_i year month day after hdate
    cases h
    split
    · trivial
    · exact (skipClock_suffix after).trans (date?_suffix hdate)
  · obtain ⟨after, hclock, rfl⟩ := Option.map_eq_some_iff.1 h
    exact afterClock?_suffix hclock

theorem scalar_sound (cs : List Char) : SoundBy Prod.snd depth cs (scalar cs) := by
  have hword {word : String} {after : List Char}
      (h : (if word.toList.isPrefixOf cs then some (cs.drop word.length) else none) = some after) : after <:+ cs := by
    split at h
    · cases h
      exact List.drop_suffix _ _
    · cases h
  unfold scalar
  dsimp only
  split
  · rename_i after htrue
    exact hword htrue
  · rename_i after _ hfalse
    exact hword hfalse
  · cases hmoment : moment? cs with
    | some scan => exact moment?_sound hmoment
    | none =>
      cases hbased : basedInteger? cs with
      | some found => exact basedInteger?_suffix hbased
      | none =>
        cases hdecimal : decimal? cs with
        | some scan => exact decimal?_sound hdecimal
        | none =>
          cases hdouble : doubleWord? cs with
          | some found => exact doubleWord?_suffix hdouble
          | none => trivial

/-! ## Values -/

theorem sound_tooDeep {c : Char} (hc : Json.isOpening c = true) :
    SoundBy left 0 (c :: rest) (.error .tooDeep) := by
  rw [SoundBy, Fault.Founded, List.countP_cons_of_pos hc]
  exact Nat.succ_pos _

/-- What the three readers that share their fuel make of a text. -/
structure ReadsSound (fuel : Nat) : Prop where
  value : ∀ depth cs, SoundBy Prod.snd depth cs (readValue fuel depth cs)
  items : ∀ depth done cs, SoundBy Prod.snd depth cs (readItems fuel depth done cs)
  fields : ∀ depth done cs, SoundBy Prod.snd depth cs (readFields fuel depth done cs)

namespace ReadsSound

variable {fuel : Nat}

/-- Only a bracket takes from the depth. -/
theorem readValue_succ (h : ReadsSound fuel) (depth : Nat) (cs : List Char) :
    SoundBy Prod.snd depth cs (readValue (fuel + 1) depth cs) := by
  unfold readValue
  split
  · rename_i scan hquoted
    exact SoundBy.bind (quotedText?_sound hquoted) fun _ hfound => hfound
  · split
    · exact sound_tooDeep rfl
    · exact sound_tooDeep rfl
    · rename_i inner rest _
      refine SoundBy.deeper rfl ?_
      exact SoundBy.bind (skipBetween_sound _ rest) fun after hafter => (h.items _ _ after).mono hafter
    · rename_i inner rest _
      have hspaces := skipSpaces_suffix rest
      split
      · rename_i after hafter
        rw [hafter] at hspaces
        exact ((List.suffix_cons _ after).trans hspaces).trans (List.suffix_cons _ rest)
      · exact ((h.fields _ [] _).mono hspaces).deeper rfl
    · exact scalar_sound cs

theorem readItems_succ (h : ReadsSound fuel) (depth : Nat) (done : List Toml) (cs : List Char) :
    SoundBy Prod.snd depth cs (readItems (fuel + 1) depth done cs) := by
  by_cases hend : ∃ rest, cs = ']' :: rest
  · obtain ⟨rest, rfl⟩ := hend
    rw [readItems]
    exact List.suffix_cons ']' rest
  · rw [readItems]
    swap
    · exact fun rest hcs => hend ⟨rest, hcs⟩
    refine SoundBy.bind (h.value depth cs) fun ⟨item, rest⟩ hrest => ?_
    refine SoundBy.bind ((skipBetween_sound _ rest).mono hrest) fun after hafter => ?_
    split
    · rename_i last
      exact (List.suffix_cons ']' last).trans hafter
    · rename_i more
      have hmore := (List.suffix_cons ',' more).trans hafter
      refine SoundBy.bind ((skipBetween_sound _ more).mono hmore) fun next hnext => ?_
      exact (h.items _ _ next).mono hnext
    · trivial

theorem readFields_succ (h : ReadsSound fuel) (depth : Nat) (done : Nodes) (cs : List Char) :
    SoundBy Prod.snd depth cs (readFields (fuel + 1) depth done cs) := by
  unfold readFields
  refine SoundBy.bind (key_sound _ cs) fun ⟨path, rest⟩ hrest => ?_
  dsimp only
  split
  · rename_i after
    have hafter := (skipSpaces_suffix after).trans ((List.suffix_cons '=' after).trans hrest)
    refine SoundBy.bind ((h.value depth _).mono hafter) fun ⟨v, rest⟩ hrest => ?_
    refine SoundBy.bind (orMalformed_sound _) fun fields _ => ?_
    have hspaces := (skipSpaces_suffix rest).trans hrest
    dsimp only
    split
    · rename_i last hlast
      rw [hlast] at hspaces
      exact (List.suffix_cons '\x7d' last).trans hspaces
    · rename_i more hmore
      rw [hmore] at hspaces
      exact (h.fields _ _ _).mono ((skipSpaces_suffix more).trans ((List.suffix_cons ',' more).trans hspaces))
    · trivial
  · trivial

end ReadsSound

theorem reads_sound (fuel : Nat) : ReadsSound fuel := by
  induction fuel with
  | zero =>
    refine ⟨fun depth cs => ?_, fun depth done cs => ?_, fun depth done cs => ?_⟩
    · unfold readValue
      trivial
    · unfold readItems
      trivial
    · unfold readFields
      trivial
  | succ fuel ih => exact ⟨ih.readValue_succ, ih.readItems_succ, ih.readFields_succ⟩

/-! ## Documents -/

theorem readAssignment_sound (p : Progress) (cs : List Char) :
    SoundBy Prod.snd depthLimit cs (readAssignment p cs) := by
  unfold readAssignment
  refine SoundBy.bind (key_sound _ cs) fun ⟨path, rest⟩ hrest => ?_
  dsimp only
  split
  · rename_i after
    have hafter := (skipSpaces_suffix after).trans ((List.suffix_cons '=' after).trans hrest)
    refine SoundBy.bind (((reads_sound _).value depthLimit _).mono hafter) fun ⟨v, rest⟩ hrest => ?_
    exact SoundBy.bind (orMalformed_sound _) fun _ _ => hrest
  · trivial

theorem readHeader_sound (p : Progress) (cs : List Char) : SoundBy Prod.snd depth cs (readHeader p cs) := by
  unfold readHeader
  refine SoundBy.bind ((key_sound _ _).mono (skipSpaces_suffix cs)) fun ⟨path, rest⟩ hrest => ?_
  refine SoundBy.bind (orMalformed_sound _) fun nodes _ => ?_
  split
  · rename_i after
    exact (List.suffix_cons ']' after).trans hrest
  · trivial

theorem readArrayHeader_sound (p : Progress) (cs : List Char) : SoundBy Prod.snd depth cs (readArrayHeader p cs) := by
  unfold readArrayHeader
  refine SoundBy.bind ((key_sound _ _).mono (skipSpaces_suffix cs)) fun ⟨path, rest⟩ hrest => ?_
  refine SoundBy.bind (orMalformed_sound _) fun nodes _ => ?_
  split
  · rename_i after
    exact List.IsSuffix.trans ⟨[']', ']'], rfl⟩ hrest
  · trivial

theorem readStatement_sound (p : Progress) (cs : List Char) : SoundBy Prod.snd depthLimit cs (readStatement p cs) := by
  unfold readStatement
  split
  · exact List.suffix_rfl
  · exact List.suffix_rfl
  · exact List.suffix_rfl
  · rename_i rest
    exact (readArrayHeader_sound p rest).mono ⟨['[', '['], rfl⟩
  · rename_i rest _
    exact (readHeader_sound p rest).mono (List.suffix_cons '[' rest)
  · exact readAssignment_sound p cs

theorem readStatements_sound (fuel : Nat) (p : Progress) (cs : List Char) :
    SoundBy (fun _ => []) depthLimit cs (readStatements fuel p cs) := by
  induction fuel generalizing p cs with
  | zero =>
    unfold readStatements
    trivial
  | succ fuel ih =>
    unfold readStatements
    have hstatement := (readStatement_sound p (skipSpaces cs)).mono (skipSpaces_suffix cs)
    refine SoundBy.bind hstatement fun ⟨next, rest⟩ hrest => ?_
    have hspaces := (skipSpaces_suffix rest).trans hrest
    refine SoundBy.bind ((skipComment_sound _).mono hspaces) fun after hafter => ?_
    split
    · exact List.nil_suffix
    · rename_i more
      exact (ih next more).mono ((List.suffix_cons '\n' more).trans hafter)
    · trivial

/-- **A text that is too much for the reader has the size for it.** -/
theorem read_founded {s : String} {fault : Fault} (h : read s = .error fault) : fault.Founded depthLimit s.toList := by
  have hsound : SoundBy (fun _ => []) depthLimit s.toList (read s) :=
    SoundBy.bind (readStatements_sound _ _ _) fun _ _ => List.nil_suffix
  rw [h] at hsound
  exact hsound

end DashboardCompiler.Toml
