import DashboardCompiler.Proofs.Schema.Readers
import DashboardCompiler.Design.Reading
import Mathlib.Data.List.TakeWhile

/-!
# The addresses of sources

An address is judged after leading controls and blanks and all tabs and line breaks have been left out, and kept as it
stands. What is judged is an absolute web address: `http` or `https` in any case, and an authority that is not empty.
What is kept need not be one; it is exactly if nothing was left out.
-/

namespace DashboardCompiler

open Schema Checked

namespace Address

/-- The characters that end an authority. -/
def isDelimiter (c : Char) : Bool := c = '/' || c = '?' || c = '#'

/-- `http://` or `https://` in any case, and the authority up to the next delimiter. -/
structure HasAuthority (cs host : List Char) : Prop where
  parts : ∃ scheme path, cs = scheme ++ ':' :: '/' :: '/' :: (host ++ path) ∧
    scheme.map Char.toLower ∈ ["http".toList, "https".toList] ∧ ∀ c ∈ path.head?, isDelimiter c = true
  bare : ∀ c ∈ host, isDelimiter c = false

/-- An absolute web address. -/
def IsAbsolute (cs : List Char) : Prop := ∃ host, host ≠ [] ∧ HasAuthority cs host

/-- A character that is left out wherever it stands. -/
def isLeftOut (c : Char) : Bool := c = '\t' || c = '\r' || c = '\n'

/-- An absolute web address as it stands, on one line and without tabs. -/
structure IsLiteral (url : String) : Prop where
  absolute : IsAbsolute url.toList
  kept : ∀ c ∈ url.toList, isLeftOut c = false

/-- No control or space in front, and no tab or line break anywhere. -/
structure Untouched (cs : List Char) : Prop where
  opens : ∀ c ∈ cs.head?, 0x20 < c.toNat
  kept : ∀ c ∈ cs, isLeftOut c = false

/-! ## Cleaning -/

theorem Untouched.cleaned_eq {cs : List Char} (h : Untouched cs) : cleaned cs = cs := by
  have hdrop : (cs.dropWhile fun c => c.toNat ≤ 0x20) = cs := by
    cases cs with
    | nil => rfl
    | cons c rest =>
      have hc := h.opens c rfl
      exact List.dropWhile_cons_of_neg (by simpa using hc)
  rw [cleaned, hdrop, List.filter_eq_self]
  intro c hc
  have hkept := h.kept c hc
  rwa [isLeftOut, ← Bool.not_eq_true'] at hkept

/-! ## Schemes -/

theorem isAsciiLetter_of_toLower {c : Char} (h : c.toLower.isLower = true) : isAsciiLetter c = true := by
  rw [isAsciiLetter, Bool.or_eq_true, Bool.and_eq_true, Bool.and_eq_true]
  simp only [decide_eq_true_eq]
  unfold Char.toLower at h
  split at h
  · exact .inr ‹_›
  · unfold Char.isLower at h
    rw [Bool.and_eq_true, decide_eq_true_eq, decide_eq_true_eq] at h
    exact .inl h

/-- The letters of a web scheme, in any case. -/
theorem isAsciiLetter_of_scheme {scheme : List Char}
    (h : scheme.map Char.toLower ∈ ["http".toList, "https".toList]) : ∀ c ∈ scheme, isAsciiLetter c = true := by
  intro c hc
  have hlower : ∀ word ∈ ["http".toList, "https".toList], (word.all Char.isLower) = true := by decide
  exact isAsciiLetter_of_toLower (List.all_eq_true.1 (hlower _ h) _ (List.mem_map_of_mem hc))

theorem ne_nil_of_scheme {scheme : List Char} (h : scheme.map Char.toLower ∈ ["http".toList, "https".toList]) :
    scheme ≠ [] := by
  rintro rfl
  exact absurd h (by decide)

theorem splitScheme_of_append {scheme : List Char}
    (h : scheme.map Char.toLower ∈ ["http".toList, "https".toList]) (rest : List Char) :
    splitScheme (scheme ++ ':' :: rest) = (scheme.map Char.toLower, rest) := by
  have hletters := isAsciiLetter_of_scheme h
  have hbefore : ∀ c ∈ scheme, decide (c ≠ ':') = true := by
    intro c hc
    refine decide_eq_true ?_
    rintro rfl
    exact absurd (hletters _ hc) (by decide)
  have hhead : (scheme ++ ':' :: rest).takeWhile (· ≠ ':') = scheme := by
    rw [List.takeWhile_append_of_pos hbefore, List.takeWhile_cons_of_neg (by simp), List.append_nil]
  have htail : (scheme ++ ':' :: rest).dropWhile (· ≠ ':') = ':' :: rest := by
    rw [List.dropWhile_append_of_pos hbefore, List.dropWhile_cons_of_neg (by simp)]
  have hscheme : (scheme.all isSchemeChar) = true := by
    refine List.all_eq_true.2 fun c hc => ?_
    simp [isSchemeChar, hletters c hc]
  rw [splitScheme, hhead, htail]
  cases scheme with
  | nil => exact absurd rfl (ne_nil_of_scheme h)
  | cons first scheme => simp only [hletters first List.mem_cons_self, hscheme, Bool.and_self, if_true]

theorem exists_of_splitScheme {cs scheme rest : List Char} (h : splitScheme cs = (scheme, rest))
    (hne : scheme ≠ []) : ∃ head, cs = head ++ ':' :: rest ∧ head.map Char.toLower = scheme := by
  unfold splitScheme at h
  dsimp only at h
  -- All but one of the ways out give the empty scheme.
  split at h
  · rename_i first more colon after hhead htail
    split at h
    · obtain ⟨rfl, rfl⟩ := Prod.mk.inj h
      have hcolon : colon = ':' := by
        have hstop := List.head?_dropWhile_not (· ≠ ':') cs
        rw [htail] at hstop
        simpa using hstop
      subst hcolon
      refine ⟨_, ?_, rfl⟩
      rw [← htail, List.takeWhile_append_dropWhile]
    · obtain ⟨rfl, -⟩ := Prod.mk.inj h
      exact absurd rfl hne
  · obtain ⟨rfl, -⟩ := Prod.mk.inj h
    exact absurd rfl hne

/-! ## Authorities -/

theorem authority_slashes (rest : List Char) :
    authority ('/' :: '/' :: rest) = rest.takeWhile fun c => !isDelimiter c := rfl

theorem exists_of_authority {rest : List Char} (h : authority rest ≠ []) :
    ∃ path, rest = '/' :: '/' :: (authority rest ++ path) ∧ (∀ c ∈ path.head?, isDelimiter c = true) ∧
      ∀ c ∈ authority rest, isDelimiter c = false := by
  obtain ⟨after, rfl⟩ : ∃ after, rest = '/' :: '/' :: after := by
    unfold authority at h
    split at h
    · exact ⟨_, rfl⟩
    · exact absurd rfl h
  rw [authority_slashes]
  refine ⟨after.dropWhile fun c => !isDelimiter c, ?_, fun c hc => ?_, fun c hc => ?_⟩
  · rw [List.takeWhile_append_dropWhile]
  · have hstop := List.head?_dropWhile_not (fun c => !isDelimiter c) after
    rw [Option.mem_def.1 hc] at hstop
    simpa using hstop
  · simpa using List.mem_takeWhile_imp hc

theorem authority_of_append {host path : List Char} (hhost : ∀ c ∈ host, isDelimiter c = false)
    (hpath : ∀ c ∈ path.head?, isDelimiter c = true) : authority ('/' :: '/' :: (host ++ path)) = host := by
  have hbefore : ∀ c ∈ host, (!isDelimiter c) = true := fun c hc => by rw [hhost c hc, Bool.not_false]
  rw [authority_slashes, List.takeWhile_append_of_pos hbefore]
  cases path with
  | nil => rw [List.takeWhile_nil, List.append_nil]
  | cons c path =>
    have hc := hpath c rfl
    rw [List.takeWhile_cons_of_neg (by simp [hc]), List.append_nil]

/-! ## Accepted addresses -/

/-- The four questions, about the parts of the cleaned text. -/
theorem fault?_eq_none {address : String} {scheme rest : List Char}
    (hsplit : splitScheme (cleaned address.toList) = (scheme, rest)) :
    fault? address = none ↔ bracketFault? (authority rest) = none ∧
      (∀ c ∈ authority rest, c.toNat ∉ delimiterLookalikes) ∧ scheme ∈ ["http".toList, "https".toList] ∧
        authority rest ≠ [] := by
  unfold fault?
  simp only [hsplit]
  -- The questions are asked in this order, and the first fault is the answer.
  cases bracketFault? (authority rest) with
  | some fault => simp
  | none =>
    have hlookalike : ((authority rest).any fun c => delimiterLookalikes.contains c.toNat) = false ↔
        ∀ c ∈ authority rest, c.toNat ∉ delimiterLookalikes := by
      simp only [List.any_eq_false, List.contains_iff_mem]
    cases hany : (authority rest).any fun c => delimiterLookalikes.contains c.toNat with
    | true =>
      rw [hany] at hlookalike
      simp only [if_true, reduceCtorEq, false_iff]
      exact fun h => Bool.false_ne_true (hlookalike.2 h.2.1).symm
    | false =>
      have hnone := hlookalike.1 hany
      simp only [Bool.false_eq_true, if_false]
      rw [true_and, and_iff_right hnone]
      split
      · rename_i hfine
        simpa using hfine
      · rename_i hfault
        simpa using hfault

/-- **What is accepted**: absolute web addresses, after cleaning, whose authority has its brackets in order and no
character that looks like a delimiter. -/
theorem fault?_eq_none_iff (address : String) :
    fault? address = none ↔ ∃ host, host ≠ [] ∧ HasAuthority (cleaned address.toList) host ∧
      bracketFault? host = none ∧ ∀ c ∈ host, c.toNat ∉ delimiterLookalikes := by
  constructor
  · intro h
    cases hsplit : splitScheme (cleaned address.toList) with
    | mk scheme rest =>
      obtain ⟨hbrackets, hlookalike, hscheme, hhost⟩ := (fault?_eq_none hsplit).1 h
      have hne : scheme ≠ [] := by
        rintro rfl
        exact absurd hscheme (by decide)
      obtain ⟨head, hcs, rfl⟩ := exists_of_splitScheme hsplit hne
      obtain ⟨path, hrest, hpath, hbare⟩ := exists_of_authority hhost
      exact ⟨authority rest, hhost, ⟨⟨head, path, hrest ▸ hcs, hscheme, hpath⟩, hbare⟩, hbrackets, hlookalike⟩
  · rintro ⟨host, hne, ⟨⟨scheme, path, hcs, hscheme, hpath⟩, hbare⟩, hbrackets, hlookalike⟩
    have hsplit : splitScheme (cleaned address.toList) = (scheme.map Char.toLower, '/' :: '/' :: (host ++ path)) := by
      rw [hcs, splitScheme_of_append hscheme]
    rw [fault?_eq_none hsplit, authority_of_append hbare hpath]
    exact ⟨hbrackets, hlookalike, hscheme, hne⟩

/-! ## Kept addresses -/

theorem lt_toNat_of_isAsciiLetter {c : Char} (h : isAsciiLetter c = true) : 0x20 < c.toNat := by
  simp only [isAsciiLetter, Bool.or_eq_true, Bool.and_eq_true, decide_eq_true_eq] at h
  rcases h with ⟨hc, -⟩ | ⟨hc, -⟩
  · exact lt_of_lt_of_le (by decide) (UInt32.le_iff_toNat_le.1 hc)
  · exact lt_of_lt_of_le (by decide) (UInt32.le_iff_toNat_le.1 hc)

/-- A web address starts with a letter. -/
theorem IsAbsolute.opens {cs : List Char} (h : IsAbsolute cs) : ∀ c ∈ cs.head?, 0x20 < c.toNat := by
  obtain ⟨host, -, ⟨⟨scheme, path, rfl, hscheme, -⟩, -⟩⟩ := h
  obtain ⟨first, scheme, rfl⟩ := List.exists_cons_of_ne_nil (ne_nil_of_scheme hscheme)
  rintro c ⟨⟩
  exact lt_toNat_of_isAsciiLetter (isAsciiLetter_of_scheme hscheme first List.mem_cons_self)

theorem isLiteral_iff {url : String} (h : fault? url = none) : IsLiteral url ↔ Untouched url.toList := by
  refine ⟨fun hliteral => ⟨hliteral.absolute.opens, hliteral.kept⟩, fun huntouched => ⟨?_, huntouched.kept⟩⟩
  obtain ⟨host, hne, hhost, -⟩ := (fault?_eq_none_iff url).1 h
  exact ⟨host, hne, huntouched.cleaned_eq ▸ hhost⟩

end Address

namespace SourceConfig

theorem readAddress_accepted_iff {v url : String} :
    readAddress (.text v) = .accepted url ↔ Address.fault? v = none ∧ v = url := by
  rw [readAddress, readText, andThen]
  cases Address.fault? v with
  | none => simp
  | some fault => simp

/-- **An accepted address is an absolute one once it is cleaned, and it is stored uncleaned.** So the stored text is an
absolute address as it stands exactly if it has no control or space in front and no tab or line break anywhere. -/
theorem readAddress_exact {v url : String} (h : readAddress (.text v) = .accepted url) :
    url = v ∧ Address.IsAbsolute (Address.cleaned v.toList) ∧
      (Address.IsLiteral url ↔ Address.Untouched v.toList) := by
  obtain ⟨hfault, rfl⟩ := readAddress_accepted_iff.1 h
  obtain ⟨host, hne, hhost, -⟩ := (Address.fault?_eq_none_iff v).1 hfault
  exact ⟨rfl, ⟨host, hne, hhost⟩, Address.isLiteral_iff hfault⟩

/-- A line break inside of the scheme is passed over and kept. -/
theorem readAddress_exact_broken :
    readAddress (.text "ht\ntp://x") = .accepted "ht\ntp://x" ∧
      Address.IsAbsolute (Address.cleaned "ht\ntp://x".toList) ∧ ¬ Address.IsLiteral "ht\ntp://x" := by
  have haccepted : readAddress (.text "ht\ntp://x") = .accepted "ht\ntp://x" := by rfl
  obtain ⟨-, habsolute, hliteral⟩ := readAddress_exact haccepted
  refine ⟨haccepted, habsolute, fun h => ?_⟩
  exact absurd ((hliteral.1 h).kept '\n' (by decide)) (by decide)

end SourceConfig

end DashboardCompiler
