import DashboardCompiler.Json.Reader
import DashboardCompiler.Text.Quoted
import Mathlib.Logic.Function.Basic
import Mathlib.Tactic.SplitIfs

/-!
# Reading literals back

A literal of Rust is read from its opening quote on, one character at a time, up to the first double quote that no backslash
escapes. What is written for a character is read as that character whatever follows, so a written literal is read back
whole and the text after it is left alone.
-/

namespace DashboardCompiler.Text

/-! ## The reader -/

/-- Where in a literal its reader stands. -/
inductive LiteralPlace where
  /-- between two characters -/
  | between
  /-- after a backslash -/
  | escape
  /-- after a backslash and a `u` -/
  | brace
  /-- among the digits of a code, with their number and their value so far -/
  | code (count value : Nat)

/-- The escapes of one character. A null character, bytes and continued lines have escapes of their own, which are left
out: nothing here writes them. -/
def rustShortEscape? (c : Char) : Option Char :=
  if c = '\\' ∨ c = '"' then some c
  else if c = 'n' then some '\n'
  else if c = 'r' then some '\r'
  else if c = 't' then some '\t'
  else none

def charOfCode? (n : Nat) : Option Char := if n.isValidChar then some (Char.ofNat n) else none

def withChar (c : Char) (read : Option (List Char × List Char)) : Option (List Char × List Char) :=
  read.map fun (text, after) => (c :: text, after)

/-- The text up to the closing quote, and what follows that quote. A code has one to six digits between braces. -/
def readRustBody : LiteralPlace → List Char → Option (List Char × List Char)
  | _, [] => none
  | .between, c :: rest =>
    if c = '"' then some ([], rest)
    else if c = '\\' then readRustBody .escape rest
    else withChar c (readRustBody .between rest)
  | .escape, c :: rest =>
    if c = 'u' then readRustBody .brace rest
    else (rustShortEscape? c).bind fun d => withChar d (readRustBody .between rest)
  | .brace, c :: rest => if c = '\x7b' then readRustBody (.code 0 0) rest else none
  | .code count value, c :: rest =>
    if c = '\x7d' then
      if count = 0 then none
      else (charOfCode? value).bind fun d => withChar d (readRustBody .between rest)
    else if count < 6 then
      (Json.hexValue? c).bind fun d => readRustBody (.code (count + 1) (value * 16 + d)) rest
    else none

/-- The text of the literal that a text begins with, and what follows the literal. -/
def readRust? (s : String) : Option (String × String) :=
  match s.toList with
  | '"' :: rest =>
    (readRustBody .between rest).map fun (text, after) => (String.ofList text, String.ofList after)
  | _ => none

/-! ## Codes -/

theorem hexValue?_digitChar : ∀ d < 16, Json.hexValue? (Nat.digitChar d) = some d := by decide

theorem readRustBody_digit {count value d : Nat} (hd : d < 16) (hcount : count < 6) (rest : List Char) :
    readRustBody (.code count value) (Nat.digitChar d :: rest) =
      readRustBody (.code (count + 1) (value * 16 + d)) rest := by
  have hclose : Nat.digitChar d ≠ '\x7d' := Nat.digitChar_ne _ (by decide)
  rw [readRustBody, if_neg hclose, if_pos hcount, hexValue?_digitChar d hd, Option.bind_some]

theorem toDigits_sixteen_cases {n : Nat} (h : n < 0x100) :
    Nat.toDigits 16 n = [Nat.digitChar n] ∧ n < 16 ∨
      Nat.toDigits 16 n = [Nat.digitChar (n / 16), Nat.digitChar (n % 16)] := by
  by_cases hsmall : n < 16
  · exact .inl ⟨Nat.toDigits_of_lt_base hsmall, hsmall⟩
  · have hhigh : n / 16 < 16 := by omega
    rw [Nat.toDigits_eq_if (by decide), if_neg hsmall, Nat.toDigits_of_lt_base hhigh]
    exact .inr rfl

/-- A code of one or two digits is read as the number that it was written from. -/
theorem readRustBody_code {n : Nat} (h : n < 0x100) (rest : List Char) :
    readRustBody (.code 0 0) (Nat.toDigits 16 n ++ '\x7d' :: rest) =
      (charOfCode? n).bind fun d => withChar d (readRustBody .between rest) := by
  rcases toDigits_sixteen_cases h with ⟨hdigits, hsmall⟩ | hdigits
  · have hvalue : 0 * 16 + n = n := by omega
    rw [hdigits, List.singleton_append, readRustBody_digit hsmall (by decide), hvalue]
    rfl
  · have hhigh : n / 16 < 16 := by omega
    have hlow : n % 16 < 16 := by omega
    have hvalue : (0 * 16 + n / 16) * 16 + n % 16 = n := by omega
    rw [hdigits, List.cons_append, List.singleton_append, readRustBody_digit hhigh (by decide),
      readRustBody_digit hlow (by decide), hvalue]
    rfl

theorem charOfCode?_toNat (c : Char) : charOfCode? c.toNat = some c := by
  have hvalid : c.toNat.isValidChar := c.valid
  rw [charOfCode?, if_pos hvalid, Char.ofNat_toNat]

/-! ## What is written is read back -/

/-- The step: the escape of a character is read as the character, whatever follows. -/
theorem readRustBody_rustEscape (c : Char) (rest : List Char) :
    readRustBody .between (rustEscape c ++ rest) = withChar c (readRustBody .between rest) := by
  unfold rustEscape
  split_ifs with hback hquote hfeed hreturn htab hcontrol
  · subst hback
    rfl
  · subst hquote
    rfl
  · subst hfeed
    rfl
  · subst hreturn
    rfl
  · subst htab
    rfl
  · have hopening : ['\\', 'u', '\x7b'] ++ Nat.toDigits 16 c.toNat ++ ['\x7d'] ++ rest =
        '\\' :: 'u' :: '\x7b' :: (Nat.toDigits 16 c.toNat ++ '\x7d' :: rest) := by simp
    have hread : readRustBody .between ('\\' :: 'u' :: '\x7b' :: (Nat.toDigits 16 c.toNat ++ '\x7d' :: rest)) =
        readRustBody (.code 0 0) (Nat.toDigits 16 c.toNat ++ '\x7d' :: rest) := rfl
    rw [hopening, hread, readRustBody_code (by omega), charOfCode?_toNat, Option.bind_some]
  · rw [List.singleton_append, readRustBody, if_neg hquote, if_neg hback]

/-- The run: the escapes of a text are read as the text, up to the quote that ends it. -/
theorem readRustBody_escapes (cs rest : List Char) :
    readRustBody .between (cs.flatMap rustEscape ++ '"' :: rest) = some (cs, rest) := by
  induction cs with
  | nil => rfl
  | cons c cs ih =>
    rw [List.flatMap_cons, List.append_assoc, readRustBody_rustEscape, ih]
    rfl

theorem readRust?_cons (rest : List Char) :
    readRust? (String.ofList ('"' :: rest)) =
      (readRustBody .between rest).map fun (text, after) => (String.ofList text, String.ofList after) := by
  rw [readRust?, String.toList_ofList]
  rfl

/-- A text between quotes, followed by another text. -/
theorem ofList_quoted_append (body : List Char) (t : String) :
    String.ofList ('"' :: body ++ ['"']) ++ t = String.ofList ('"' :: (body ++ '"' :: t.toList)) := by
  rw [← String.toList_inj]
  simp

theorem readRust?_quoted (s t : String) : readRust? (rustQuoted s ++ t) = some (s, t) := by
  rw [rustQuoted, rustQuotedChars, ofList_quoted_append, readRust?_cons, readRustBody_escapes]
  simp

theorem toNat_digitChar_ge : ∀ d < 16, 0x20 ≤ (Nat.digitChar d).toNat := by decide

theorem not_control_of_mem_code {n : Nat} (h : n < 0x100) : ∀ c ∈ Nat.toDigits 16 n, 0x20 ≤ c.toNat := by
  rcases toDigits_sixteen_cases h with ⟨hdigits, hsmall⟩ | hdigits
  · rw [hdigits, List.forall_mem_singleton]
    exact toNat_digitChar_ge n hsmall
  · rw [hdigits, List.forall_mem_cons, List.forall_mem_singleton]
    exact ⟨toNat_digitChar_ge _ (by omega), toNat_digitChar_ge _ (by omega)⟩

theorem not_control_of_all {cs : List Char} (h : cs.all (0x20 ≤ ·.toNat) = true) : ∀ c ∈ cs, 0x20 ≤ c.toNat := by
  simpa using h

theorem not_control_of_mem_rustEscape (c : Char) : ∀ d ∈ rustEscape c, 0x20 ≤ d.toNat := by
  unfold rustEscape
  split_ifs with hback hquote hfeed hreturn htab hcontrol
  · exact not_control_of_all (by decide)
  · exact not_control_of_all (by decide)
  · exact not_control_of_all (by decide)
  · exact not_control_of_all (by decide)
  · exact not_control_of_all (by decide)
  · rw [List.forall_mem_append, List.forall_mem_append]
    exact ⟨⟨not_control_of_all (by decide), not_control_of_mem_code (by omega)⟩, not_control_of_all (by decide)⟩
  · rw [List.forall_mem_singleton]
    omega

theorem not_control_of_mem_rustQuoted (s : String) : ∀ c ∈ (rustQuoted s).toList, 0x20 ≤ c.toNat := by
  rw [rustQuoted, String.toList_ofList, rustQuotedChars, List.forall_mem_append, List.forall_mem_cons]
  refine ⟨⟨by decide, fun d hd => ?_⟩, not_control_of_all (by decide)⟩
  obtain ⟨c, -, hd⟩ := List.mem_flatMap.1 hd
  exact not_control_of_mem_rustEscape c d hd

/-- **A written literal is read back, and nothing beyond it.** Whatever follows the literal of a text, reading takes the
literal and gives the text; no control character stands in it as it is; and no two texts have the same literal. -/
theorem rustQuoted_reads_back (s t : String) :
    readRust? (rustQuoted s ++ t) = some (s, t) ∧ (∀ c ∈ (rustQuoted s).toList, 0x20 ≤ c.toNat) ∧
      Function.Injective rustQuoted := by
  refine ⟨readRust?_quoted s t, not_control_of_mem_rustQuoted s, fun a b hab => ?_⟩
  have ha := readRust?_quoted a ""
  rw [hab, readRust?_quoted b ""] at ha
  exact congrArg Prod.fst (Option.some.inj ha.symm)

/-- Neither a backslash before a quote nor a digit after a code is taken for part of an escape. -/
example : readRust? (rustQuoted "\\\"\x01f" ++ "\"") = some ("\\\"\x01f", "\"") := by cbv

/-!
## Literals of documents

The literals of Go and of JavaScript are the quoted texts of JSON documents, so the reader of documents reads them. The
escape of a character is taken for the character, whatever follows it in the literal, and the reader stops behind the
first quote that is not escaped. Escaped characters lie below the surrogates, so no two of their codes make a pair.
-/

section Documents

open Json

variable {c : Char} {fuel : Nat} {opening done : List Char}

theorem hexDigits_control : ∀ n < 0x20, hexDigits 4 n = ['0', '0', Nat.digitChar (n / 16), Nat.digitChar (n % 16)] := by
  decide

/-- The code of a control character, in front of any text that goes on. -/
theorem readUnits_control (hcontrol : c.toNat < 0x20) (next : Char) (rest : List Char) :
    readUnits (hexDigits 4 c.toNat ++ next :: rest) = some (c, next :: rest) := by
  have hhigh := hexValue?_digitChar (c.toNat / 16) (by omega)
  have hlow := hexValue?_digitChar (c.toNat % 16) (by omega)
  have hzero : hexValue? '0' = some 0 := rfl
  have hvalue : ((0 * 16 + 0) * 16 + c.toNat / 16) * 16 + c.toNat % 16 = c.toNat := by omega
  have hunit : unit? (hexDigits 4 c.toNat ++ next :: rest) = some (c.toNat, next :: rest) := by
    rw [hexDigits_control _ hcontrol]
    simp only [List.cons_append, List.nil_append, unit?, hzero, hhigh, hlow, Option.bind_eq_bind, Option.bind_some,
      hvalue]
    rfl
  have hsingle : isHighUnit c.toNat = false := by
    simp only [isHighUnit, Bool.and_eq_false_iff, decide_eq_false_iff_not]
    omega
  have hlone : isLowUnit c.toNat = false := by
    simp only [isLowUnit, Bool.and_eq_false_iff, decide_eq_false_iff_not]
    omega
  simp only [readUnits, hunit, Option.bind_eq_bind, Option.bind_some, hsingle, charOfUnit, hlone]
  simp [Char.ofNat_toNat]

/-- The step: the escape of a character is read as the character, whatever follows. -/
theorem readText_documentEscape (c next : Char) (rest : List Char) :
    readText opening (fuel + 1) done (documentEscape c ++ next :: rest) =
      readText opening fuel (c :: done) (next :: rest) := by
  unfold documentEscape
  split_ifs with hquote hback hfeed hreturn htab hbackspace hpage hcontrol
  · subst hquote
    rfl
  · subst hback
    rfl
  · subst hfeed
    rfl
  · subst hreturn
    rfl
  · subst htab
    rfl
  · obtain rfl : c = '\x08' := Char.toNat_inj.1 hbackspace
    rfl
  · obtain rfl : c = '\x0c' := Char.toNat_inj.1 hpage
    rfl
  · have hunits := readUnits_control hcontrol next rest
    rw [List.cons_append, List.cons_append, readText, if_neg (by decide), if_pos rfl]
    simp only [hunits]
  · rw [List.singleton_append, readText.eq_def]
    exact (if_neg hquote).trans ((if_neg hback).trans (if_neg hcontrol))

/-- The run: the escapes of a text are read as the text, up to the quote that ends it. -/
theorem readText_escapes {cs : List Char} (hfuel : cs.length < fuel) (rest : List Char) :
    readText opening fuel done (cs.flatMap documentEscape ++ '"' :: rest) =
      .ok (String.ofList (done.reverse ++ cs), rest) := by
  induction cs generalizing fuel done with
  | nil =>
    obtain ⟨fuel, rfl⟩ : ∃ n, fuel = n + 1 := ⟨fuel - 1, by simp at hfuel; omega⟩
    rw [List.append_nil]
    rfl
  | cons c cs ih =>
    rw [List.length_cons] at hfuel
    obtain ⟨fuel, rfl⟩ : ∃ n, fuel = n + 1 := ⟨fuel - 1, by omega⟩
    obtain ⟨next, more, hmore⟩ : ∃ next more, cs.flatMap documentEscape ++ '"' :: rest = next :: more :=
      List.exists_cons_of_ne_nil (by simp)
    rw [List.flatMap_cons, List.append_assoc, hmore, readText_documentEscape, ← hmore, ih (by omega)]
    simp

/-- The text of the literal that a text begins with, behind its opening quote, and what follows the literal. -/
def readQuoted? (cs : List Char) : Option (String × List Char) := (readText cs (cs.length + 1) [] cs).toOption

theorem length_le_flatMap_documentEscape (cs : List Char) : cs.length ≤ (cs.flatMap documentEscape).length := by
  induction cs with
  | nil => exact Nat.le_refl 0
  | cons c cs ih =>
    have hc : 1 ≤ (documentEscape c).length := by
      unfold documentEscape
      split_ifs <;> simp
    rw [List.flatMap_cons, List.length_append, List.length_cons]
    omega

/-- A literal is read back, and nothing beyond it. -/
theorem readQuoted?_documentQuoted (s : String) (rest : List Char) :
    ∃ body, (documentQuoted s).toList ++ rest = '"' :: body ∧ readQuoted? body = some (s, rest) := by
  refine ⟨s.toList.flatMap documentEscape ++ '"' :: rest, ?_, ?_⟩
  · rw [documentQuoted, documentQuotedChars, String.toList_ofList]
    simp
  · have hlength := length_le_flatMap_documentEscape s.toList
    rw [readQuoted?, readText_escapes (by rw [List.length_append]; omega), List.reverse_nil, List.nil_append,
      String.ofList_toList]
    rfl

end Documents

end DashboardCompiler.Text
