import DashboardCompiler.Json.Reader
import Mathlib.Data.List.Infix
import Mathlib.Data.List.TakeWhile

/-!
# What a reader does with a text

A reader takes something off the front of a text, so what is left is an end of it, and a fault is about a place in it.
The two limits are only met by a text that holds a run of digits longer than the one, or more opening brackets than
the other.
-/

namespace DashboardCompiler.Json

/-- The brackets that open a list or an object. -/
def isOpening (c : Char) : Bool := c = '[' || c = '\x7b'

/-- A failure is about the text, of which lists and objects may be `depth` deep. -/
def Failure.Founded (depth : Nat) (text : List Char) : Failure → Prop
  | .malformed _ rest => rest <:+ text
  | .longInteger => ∃ run, run <:+: text ∧ (∀ c ∈ run, c.isDigit = true) ∧ digitLimit < run.length
  | .tooDeep => depth < text.countP isOpening

/-- What is left is an end of the text, or the failure is about it. -/
def Sound {α : Type} (depth : Nat) (text : List Char) : Except Failure (α × List Char) → Prop
  | .ok (_, rest) => rest <:+ text
  | .error failure => failure.Founded depth text

variable {α β : Type} {depth : Nat} {text rest : List Char}

theorem Failure.Founded.mono {failure : Failure} (h : failure.Founded depth rest) (hrest : rest <:+ text) :
    failure.Founded depth text := by
  cases failure with
  | malformed fault place => exact List.IsSuffix.trans h hrest
  | longInteger =>
    obtain ⟨run, hrun, hdigits⟩ := h
    exact ⟨run, hrun.trans hrest.isInfix, hdigits⟩
  | tooDeep => exact Nat.lt_of_lt_of_le h (hrest.sublist.countP_le)

/-- One bracket more gives room for one list or object more. -/
theorem Failure.Founded.deeper {failure : Failure} {c : Char} (hc : isOpening c = true)
    (h : failure.Founded depth rest) : failure.Founded (depth + 1) (c :: rest) := by
  have hlonger : rest <:+ c :: rest := List.suffix_cons c rest
  cases failure with
  | malformed fault place => exact h.mono hlonger
  | longInteger => exact h.mono hlonger
  | tooDeep =>
    rw [Founded, List.countP_cons_of_pos hc]
    exact Nat.succ_lt_succ h

theorem Sound.mono {x : Except Failure (α × List Char)} (h : Sound depth rest x) (hrest : rest <:+ text) :
    Sound depth text x := by
  match x with
  | .ok (_, _) => exact List.IsSuffix.trans h hrest
  | .error failure => exact Failure.Founded.mono h hrest

theorem Sound.deeper {x : Except Failure (α × List Char)} {c : Char} (hc : isOpening c = true)
    (h : Sound depth rest x) : Sound (depth + 1) (c :: rest) x := by
  match x with
  | .ok (_, _) => exact List.IsSuffix.trans h (List.suffix_cons c rest)
  | .error failure => exact Failure.Founded.deeper hc h

theorem Sound.bind {x : Except Failure (α × List Char)} {f : α × List Char → Except Failure (β × List Char)}
    (hx : Sound depth text x) (hf : ∀ a rest, rest <:+ text → Sound depth text (f (a, rest))) :
    Sound depth text (x >>= f) := by
  match x with
  | .ok (a, rest) => exact hf a rest hx
  | .error failure => exact hx

theorem skipBlanks_suffix (cs : List Char) : skipBlanks cs <:+ cs := List.dropWhile_suffix _

/-! ## Texts -/

theorem unit?_suffix {cs : List Char} {n : Nat} (h : unit? cs = some (n, rest)) : rest <:+ cs := by
  unfold unit? at h
  split at h
  · rename_i a b c d next after
    simp only [Option.bind_eq_bind, Option.bind_eq_some_iff, Option.pure_def, Option.some.injEq, Prod.mk.injEq] at h
    obtain ⟨_, _, _, _, _, _, _, _, -, rfl⟩ := h
    exact ⟨[a, b, c, d], rfl⟩
  · cases h

theorem readUnits_suffix {cs : List Char} {u : Char} (h : readUnits cs = some (u, rest)) : rest <:+ cs := by
  have hrest {u' : Char} {rest' : List Char} (h : (pure (u', rest') : Option (Char × List Char)) = some (u, rest)) :
      rest' = rest := (Prod.mk.inj (Option.some.inj h)).2
  unfold readUnits at h
  obtain ⟨⟨first, after⟩, hfirst, h⟩ := Option.bind_eq_some_iff.1 h
  have hafter := unit?_suffix hfirst
  dsimp only at h
  split at h
  · split at h
    · rename_i more
      obtain ⟨⟨second, last⟩, hsecond, h⟩ := Option.bind_eq_some_iff.1 h
      have hmore : more <:+ '\\' :: 'u' :: more := ⟨['\\', 'u'], rfl⟩
      dsimp only at h
      split at h
      · rw [← hrest h]
        exact ((unit?_suffix hsecond).trans hmore).trans hafter
      · rwa [← hrest h]
    · rwa [← hrest h]
  · rwa [← hrest h]

/-- A text ends inside of what follows its opening quote. -/
theorem readText_sound {opening : List Char} (fuel : Nat) (done : List Char) {cs : List Char} (hcs : cs <:+ opening) :
    Sound depth opening (readText opening fuel done cs) := by
  induction fuel generalizing done cs with
  | zero =>
    unfold readText
    exact List.suffix_rfl
  | succ fuel ih =>
    match cs with
    | [] =>
      unfold readText
      exact List.suffix_rfl
    | c :: rest =>
      have hrest : rest <:+ opening := (List.suffix_cons c rest).trans hcs
      unfold readText
      split
      · exact hrest
      · split
        · split
          · exact List.suffix_rfl
          · rename_i units
            split
            · rename_i u after hunits
              exact ih _ ((readUnits_suffix hunits).trans ((List.suffix_cons 'u' units).trans hrest))
            · exact hcs
          · rename_i e after _
            split
            · exact ih _ ((List.suffix_cons e after).trans hrest)
            · exact hcs
        · split
          · exact hcs
          · exact ih _ hrest

/-! ## Numbers and words -/

theorem fraction_suffix (cs : List Char) : (fraction cs).2 <:+ cs := by
  unfold fraction
  split
  · rename_i after
    dsimp only
    split
    · exact List.suffix_rfl
    · exact (List.dropWhile_suffix _).trans (List.suffix_cons '.' after)
  · exact List.suffix_rfl

theorem exponent?_suffix {cs : List Char} {n : Int} (h : exponent? cs = some (n, rest)) : rest <:+ cs := by
  unfold exponent? at h
  split at h
  · rename_i e after
    split at h
    · -- The sign, if there is one, is passed over.
      obtain ⟨unsigned, hunsigned, hrest⟩ : ∃ unsigned, unsigned <:+ after ∧ unsigned.dropWhile Char.isDigit = rest := by
        dsimp only at h
        split at h
        · exact ⟨_, List.suffix_cons _ _, by split at h <;> simp_all⟩
        · exact ⟨_, List.suffix_cons _ _, by split at h <;> simp_all⟩
        · exact ⟨_, List.suffix_rfl, by split at h <;> simp_all⟩
      rw [← hrest]
      exact ((List.dropWhile_suffix _).trans hunsigned).trans (List.suffix_cons e after)
    · cases h
  · cases h

theorem wholeDigits_append (cs : List Char) : (wholeDigits cs).1 ++ (wholeDigits cs).2 = cs := by
  unfold wholeDigits
  split
  · rfl
  · exact List.takeWhile_append_dropWhile

/-- Digits that are too many are a run of digits. -/
theorem wholeDigits_run {cs : List Char} (h : 1 < (wholeDigits cs).1.length) :
    ∀ c ∈ (wholeDigits cs).1, c.isDigit = true := by
  unfold wholeDigits at h ⊢
  split at h
  · exact absurd h (Nat.lt_irrefl 1)
  · exact fun c hc => List.mem_takeWhile_imp hc

theorem readNumber_sound {opening : List Char} (negative : Bool) {cs : List Char} (hcs : cs <:+ opening) :
    Sound depth opening (readNumber opening negative cs) := by
  have hwhole : (wholeDigits cs).2 <:+ cs := ⟨_, wholeDigits_append cs⟩
  have hfraction := fraction_suffix (wholeDigits cs).2
  unfold readNumber
  dsimp only
  split
  · exact List.suffix_rfl
  · split
    · split
      · rename_i hlong
        have hmany : 1 < (wholeDigits cs).1.length := Nat.lt_trans (by decide) hlong
        have hrun : (wholeDigits cs).1 <+: cs := ⟨_, wholeDigits_append cs⟩
        exact ⟨_, hrun.isInfix.trans hcs.isInfix, wholeDigits_run hmany, hlong⟩
      · exact (hfraction.trans hwhole).trans hcs
    · refine List.IsSuffix.trans ?_ ((hfraction.trans hwhole).trans hcs)
      cases hexponent : exponent? (fraction (wholeDigits cs).2).2 with
      | none => exact List.suffix_rfl
      | some found => exact exponent?_suffix hexponent

theorem word?_suffix {word : String} {cs : List Char} (h : word? word cs = some rest) : rest <:+ cs := by
  unfold word? at h
  split at h
  · cases h
    exact List.drop_suffix _ _
  · cases h

theorem readWord_sound (word : String) (value : Json) (cs : List Char) : Sound depth cs (readWord word value cs) := by
  unfold readWord
  split
  · rename_i rest hword
    exact word?_suffix hword
  · exact List.suffix_rfl

/-! ## Values -/

/-- What follows a character after some blanks is an end of the text. -/
theorem suffix_of_skipBlanks {cs : List Char} {c : Char} (h : skipBlanks cs = c :: rest) : rest <:+ cs :=
  (List.suffix_cons c rest).trans (h ▸ skipBlanks_suffix cs)

theorem sound_tooDeep {c : Char} (hc : isOpening c = true) :
    Sound (α := α) 0 (c :: rest) (.error .tooDeep) := by
  rw [Sound, Failure.Founded, List.countP_cons_of_pos hc]
  exact Nat.succ_pos _

/-- What the three readers that share their fuel make of a text. -/
structure ReadsSound (fuel : Nat) : Prop where
  value : ∀ depth cs, Sound depth cs (readValue fuel depth cs)
  items : ∀ depth done cs, Sound depth cs (readItems fuel depth done cs)
  fields : ∀ depth done cs, Sound depth cs (readFields fuel depth done cs)

namespace ReadsSound

variable {fuel : Nat}

/-- Only a bracket takes from the depth. -/
theorem readValue_succ (h : ReadsSound fuel) (depth : Nat) (cs : List Char) :
    Sound depth cs (readValue (fuel + 1) depth cs) := by
  unfold readValue
  split
  · rename_i rest
    exact (readText_sound _ _ (List.suffix_cons '"' rest)).bind fun _ _ h => h
  · rename_i rest
    split
    · exact sound_tooDeep rfl
    · rename_i hrest
      exact (suffix_of_skipBlanks hrest).trans (List.suffix_cons _ rest)
    · exact ((h.fields _ [] _).mono (skipBlanks_suffix rest)).deeper rfl
  · rename_i rest
    split
    · exact sound_tooDeep rfl
    · rename_i hrest
      exact (suffix_of_skipBlanks hrest).trans (List.suffix_cons _ rest)
    · exact ((h.items _ [] _).mono (skipBlanks_suffix rest)).deeper rfl
  · exact readWord_sound _ _ _
  · exact readWord_sound _ _ _
  · exact readWord_sound _ _ _
  · exact readWord_sound _ _ _
  · exact readWord_sound _ _ _
  · rename_i rest
    split
    · rename_i after hword
      exact (word?_suffix hword).trans (List.suffix_cons '-' rest)
    · exact readNumber_sound true (List.suffix_cons '-' rest)
  · exact readNumber_sound false List.suffix_rfl

theorem readItems_succ (h : ReadsSound fuel) (depth : Nat) (done : List Json) (cs : List Char) :
    Sound depth cs (readItems (fuel + 1) depth done cs) := by
  unfold readItems
  refine (h.value depth cs).bind fun item rest hrest => ?_
  dsimp only
  split
  · rename_i hafter
    exact (suffix_of_skipBlanks hafter).trans hrest
  · rename_i after hafter
    exact (h.items _ _ _).mono ((skipBlanks_suffix after).trans ((suffix_of_skipBlanks hafter).trans hrest))
  · exact (skipBlanks_suffix rest).trans hrest

theorem readFields_succ (h : ReadsSound fuel) (depth : Nat) (done : List (String × Json)) (cs : List Char) :
    Sound depth cs (readFields (fuel + 1) depth done cs) := by
  unfold readFields
  split
  · rename_i rest
    refine (readText_sound _ _ (List.suffix_cons '"' rest)).bind fun key rest hrest => ?_
    dsimp only
    split
    · rename_i after hafter
      have hcolon := (skipBlanks_suffix after).trans ((suffix_of_skipBlanks hafter).trans hrest)
      refine ((h.value depth _).mono hcolon).bind fun value rest hrest => ?_
      dsimp only
      split
      · rename_i hafter
        exact (suffix_of_skipBlanks hafter).trans hrest
      · rename_i after hafter
        exact (h.fields _ _ _).mono ((skipBlanks_suffix after).trans ((suffix_of_skipBlanks hafter).trans hrest))
      · exact (skipBlanks_suffix rest).trans hrest
    · exact (skipBlanks_suffix rest).trans hrest
  · exact List.suffix_rfl

end ReadsSound

/-- The induction is on the shared fuel: each reader calls the three with one less. -/
theorem reads_sound (fuel : Nat) : ReadsSound fuel := by
  induction fuel with
  | zero =>
    refine ⟨fun depth cs => ?_, fun depth done cs => ?_, fun depth done cs => ?_⟩
    · unfold readValue
      exact List.suffix_rfl
    · unfold readItems
      exact List.suffix_rfl
    · unfold readFields
      exact List.suffix_rfl
  | succ fuel ih => exact ⟨ih.readValue_succ, ih.readItems_succ, ih.readFields_succ⟩

/-- **A text that is no document is so for a reason in it.** -/
theorem read_founded {s : String} {failure : Failure} (h : read s = .error failure) :
    failure.Founded depthLimit s.toList := by
  unfold read at h
  dsimp only at h
  split at h
  · cases h
    exact List.suffix_rfl
  · have hvalue := ((reads_sound (s.toList.length + 1)).value depthLimit _).mono (skipBlanks_suffix s.toList)
    split at h
    · rename_i failure' hread
      rw [hread] at hvalue
      cases h
      exact hvalue
    · rename_i value rest hread
      rw [hread] at hvalue
      split at h
      · cases h
      · cases h
        exact (skipBlanks_suffix rest).trans hvalue

/-- The line of a fault is counted up to its place. -/
theorem read_line {s : String} {fault : SyntaxFault} (h : read s = .error (.malformed fault rest)) :
    ∃ before, s.toList = before ++ rest ∧ lineAt s rest = before.count '\n' + 1 := by
  obtain ⟨before, hbefore⟩ : rest <:+ s.toList := read_founded h
  refine ⟨before, hbefore.symm, ?_⟩
  rw [lineAt, ← hbefore, List.count_append, Nat.add_sub_cancel]

end DashboardCompiler.Json
