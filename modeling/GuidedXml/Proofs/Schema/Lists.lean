/-
# Values that are lists

The types whose values are lists of words: lists of name tokens, lists of owned names, and tokens. A
list value is cut at every space, the empty parts at its end are dropped, and each part that is left
has to be a word.

The main statement says that the lists are one or more words with single spaces between them and any
number of spaces behind them, and that a token is such a list of name tokens with nothing behind it.
-/
import GuidedXml.Proofs.Schema.Inclusion
import Mathlib.Data.List.DropRight

namespace GuidedXml.Schema

open Text

variable {cs w : List Char} {ps parts : List (List Char)} {isWord : List Char → Bool}

/-! ## Parts -/

/-- Dropping empty parts from the end leaves the first one in any case. -/
theorem dropEmptyEnd_eq (parts : List (List Char)) :
    dropEmptyEnd parts =
      if parts.rdropWhile List.isEmpty = [] then parts.take 1
      else parts.rdropWhile List.isEmpty := by
  unfold dropEmptyEnd
  rw [← List.rdropWhile]
  split
  · next h => rw [if_pos h]
  · next h => rw [if_neg h]

/-- What is dropped are empty parts, and one part is left at least. -/
theorem exists_eq_dropEmptyEnd_append (hparts : parts ≠ []) :
    dropEmptyEnd parts ≠ [] ∧ ∃ n, parts = dropEmptyEnd parts ++ List.replicate n [] := by
  have hsplit := List.rdropWhile_append_rtakeWhile (p := List.isEmpty) (l := parts)
  have hempty : parts.rtakeWhile List.isEmpty =
      List.replicate (parts.rtakeWhile List.isEmpty).length [] := by
    refine List.eq_replicate_of_mem fun p hp => ?_
    exact List.isEmpty_iff.mp (List.mem_rtakeWhile_imp hp)
  rw [dropEmptyEnd_eq]
  split_ifs with hnone
  · -- all parts are empty, and the first one is kept
    rw [hnone, List.nil_append] at hsplit
    rw [hsplit] at hempty
    obtain ⟨n, hn⟩ := Nat.exists_eq_succ_of_ne_zero fun h => hparts (List.length_eq_zero_iff.mp h)
    rw [hn, List.replicate_succ] at hempty
    rw [hempty]
    exact ⟨by simp, n, rfl⟩
  · exact ⟨hnone, _, by rw [← hempty, hsplit]⟩

/-- Parts that do not end with an empty one are all left. -/
theorem dropEmptyEnd_append_replicate (hps : ps ≠ []) (hne : ∀ p ∈ ps, p ≠ []) (n : Nat) :
    dropEmptyEnd (ps ++ List.replicate n []) = ps := by
  have hkept : (ps ++ List.replicate n []).rdropWhile List.isEmpty = ps := by
    rw [List.rdropWhile, List.reverse_append, List.dropWhile_append_of_pos]
    · rw [← List.rdropWhile, List.rdropWhile_eq_self_iff]
      intro _ hlast
      exact hne _ (List.getLast_mem hps) (List.isEmpty_iff.mp hlast)
    · intro p hp
      rw [List.mem_reverse, List.mem_replicate] at hp
      rw [hp.2]
      rfl
  rw [dropEmptyEnd_eq, hkept, if_neg hps]

/-! ## Words -/

/-- A text is a list of words if it is words with single spaces between them and spaces behind. -/
theorem all_listParts_iff (hword : ∀ w, isWord w = true → w ≠ [] ∧ ' ' ∉ w) :
    (listParts cs).all isWord = true ↔ ∃ w ws n, (∀ v ∈ w :: ws, isWord v = true) ∧
      cs = joined ' ' w ws ++ List.replicate n ' ' := by
  constructor
  · intro hall
    obtain ⟨hne, n, hparts⟩ := exists_eq_dropEmptyEnd_append (splitAt_ne_nil ' ' cs)
    obtain ⟨w, ws, hws⟩ := List.exists_cons_of_ne_nil hne
    refine ⟨w, ws, n, ?_, ?_⟩
    · rw [listParts, hws] at hall
      exact List.all_eq_true.mp hall
    · have hcs := intercalate_splitAt ' ' cs
      rw [hparts, hws, List.cons_append, ← joined_eq_intercalate, joined_append_replicate] at hcs
      exact hcs.symm
  · rintro ⟨w, ws, n, hws, rfl⟩
    have hspaces : ∀ q ∈ ws ++ List.replicate n [], ' ' ∉ q := by
      intro q hq
      rcases List.mem_append.mp hq with hq | hq
      · exact (hword q (hws q (List.mem_cons_of_mem _ hq))).2
      · rw [(List.mem_replicate.mp hq).2]
        exact List.not_mem_nil
    have hsplit := splitAt_joined (hword w (hws w List.mem_cons_self)).2 hspaces
    rw [joined_append_replicate] at hsplit
    rw [listParts, hsplit, ← List.cons_append,
      dropEmptyEnd_append_replicate (by simp) fun v hv => (hword v (hws v hv)).1]
    exact List.all_eq_true.mpr hws

/-- A name token is not empty, and no character of it is white space. -/
theorem solid_of_isNameToken (h : isNameToken w = true) :
    w ≠ [] ∧ ∀ c ∈ w, isBlank c = false := by
  rw [isNameToken, Bool.and_eq_true, List.all_eq_true] at h
  refine ⟨by simpa using h.1, fun c hc => ?_⟩
  have := (Bool.and_eq_true_iff.mp (h.2 c hc)).1
  simpa using this

/-- A name token is a word. -/
theorem isWord_of_isNameToken (h : isNameToken w = true) : w ≠ [] ∧ ' ' ∉ w := by
  obtain ⟨hne, hsolid⟩ := solid_of_isNameToken h
  exact ⟨hne, fun hc => absurd (hsolid _ hc) (by decide)⟩

/-- A name with an owner is a word. -/
theorem isWord_of_isOwnedName {owners : Owners} (h : isOwnedName owners w = true) :
    w ≠ [] ∧ ' ' ∉ w :=
  isWord_of_isNameToken (isNameToken_of_isLocalName (Bool.and_eq_true_iff.mp h).1)

/-! ## Tokens -/

/-- Words without white space and single spaces between them: no breaks, and no blanks at the
ends. -/
theorem isTokenText_joined {ws : List (List Char)} (hws : ∀ v ∈ w :: ws, isNameToken v = true) :
    hasBreak (joined ' ' w ws) = false ∧ trim (joined ' ' w ws) = joined ' ' w ws := by
  have hne : ∀ v ∈ w :: ws, v ≠ [] := fun v hv => (solid_of_isNameToken (hws v hv)).1
  have hsolid : ∀ v ∈ w :: ws, ∀ c ∈ v, isBlank c = false := fun v hv =>
    (solid_of_isNameToken (hws v hv)).2
  constructor
  · rw [hasBreak, List.any_eq_false]
    intro c hc
    simp only [Bool.or_eq_true, decide_eq_true_eq]
    rcases mem_joined hc with rfl | ⟨v, hv, hcv⟩
    · decide
    · rintro ((rfl | rfl) | rfl) <;> exact absurd (hsolid v hv _ hcv) (by decide)
  · refine trim_eq_self_of_ends (fun c hc => ?_) fun c hc => ?_
    · rw [head?_joined (hne w List.mem_cons_self)] at hc
      exact hsolid w List.mem_cons_self c (List.mem_of_head? hc)
    · obtain ⟨v, hv, hlast⟩ := exists_getLast?_joined hne
      exact hsolid v hv c (List.mem_of_getLast? (hlast ▸ hc))

/-- A token is name tokens with single spaces between them. -/
theorem isTokenText_iff :
    isTokenText cs = true ↔
      ∃ w ws, (∀ v ∈ w :: ws, isNameToken v = true) ∧ cs = joined ' ' w ws := by
  rw [isTokenText, Bool.and_eq_true, Bool.and_eq_true, Bool.not_eq_true', decide_eq_true_eq,
    all_listParts_iff fun _ => isWord_of_isNameToken]
  constructor
  · rintro ⟨⟨-, htrim⟩, w, ws, n, hws, hcs⟩
    refine ⟨w, ws, hws, ?_⟩
    cases n with
    | zero => simpa using hcs
    | succ n =>
      -- a space at the end would have been trimmed
      have hlast : (trimEnd (trimStart cs)).getLast? = some ' ' := by
        rw [← trim, htrim, hcs, List.replicate_succ', ← List.append_assoc, List.getLast?_concat]
      exact absurd (getLast?_trimEnd hlast) (by decide)
  · rintro ⟨w, ws, hws, rfl⟩
    exact ⟨isTokenText_joined hws, w, ws, 0, hws, by simp⟩

/-! ## The list types -/

/-- The value is one or more words with single spaces between them, and then as many spaces as
`trailing` says. -/
def IsWordList (isWord : String → Bool) (trailing : Nat) (value : String) : Prop :=
  ∃ words : List String, words ≠ [] ∧ (∀ v ∈ words, isWord v = true) ∧
    value = String.intercalate " " words ++ String.ofList (List.replicate trailing ' ')

/-- A text is a list of words exactly if it is some words with a blank between each two, and any
number of blanks allowed behind. -/
theorem isWordList_iff {isWord : String → Bool} {n : Nat} {value : String} :
    IsWordList isWord n value ↔ ∃ w ws, (∀ v ∈ w :: ws, isWord (String.ofList v) = true) ∧
      value.toList = joined ' ' w ws ++ List.replicate n ' ' := by
  constructor
  · rintro ⟨words, hne, hwords, rfl⟩
    obtain ⟨w, ws, rfl⟩ := List.exists_cons_of_ne_nil hne
    refine ⟨w.toList, ws.map String.toList, ?_, ?_⟩
    · rw [← List.map_cons, List.forall_mem_map]
      intro v hv
      rw [String.ofList_toList]
      exact hwords v hv
    · rw [joined_eq_intercalate]
      simp
  · rintro ⟨w, ws, hws, hvalue⟩
    refine ⟨(w :: ws).map String.ofList, by simp, List.forall_mem_map.mpr hws, ?_⟩
    rw [← String.toList_inj, hvalue, joined_eq_intercalate, String.toList_append,
      String.toList_intercalate, List.map_map]
    simp [Function.comp_def]

/-- The name of a built-in type stands for that type. -/
theorem acceptsType_name (t : Builtin) (owners : Owners) (node : Handle) (value : String) :
    acceptsType t.name owners node value = t.accepts owners node value.toList := by
  rw [acceptsType, Builtin.named?_name, Option.any_some]

/-- A list type takes lists of the words that the type of its parts takes. -/
theorem all_listParts_toList_iff {t : Builtin} {owners : Owners} {node : Handle} {value : String}
    (hword : ∀ w, t.accepts owners node w = true → w ≠ [] ∧ ' ' ∉ w) :
    (listParts value.toList).all (t.accepts owners node) = true ↔
      ∃ n, IsWordList (acceptsType t.name owners node) n value := by
  simp only [all_listParts_iff hword, isWordList_iff, acceptsType_name, String.toList_ofList]
  constructor
  · rintro ⟨w, ws, n, hws⟩
    exact ⟨n, w, ws, hws⟩
  · rintro ⟨n, w, ws, hws⟩
    exact ⟨w, ws, n, hws⟩

/-- The types of lists take one or more words with single spaces between them and any number of
spaces behind them, where the words are what the type of their parts takes; and a token is one or
more name tokens with single spaces between them and nothing else. -/
theorem acceptsType_list_iff (owners : Owners) (node : Handle) (value : String) :
    (acceptsType "NMTOKENS" owners node value = true ↔
      ∃ n, IsWordList (acceptsType "NMTOKEN" owners node) n value) ∧
    (acceptsType "IDREFS" owners node value = true ↔
      ∃ n, IsWordList (acceptsType "IDREF" owners node) n value) ∧
    (acceptsType "token" owners node value = true ↔
      IsWordList (acceptsType "NMTOKEN" owners node) 0 value) := by
  refine ⟨?_, ?_, ?_⟩
  · rw [show "NMTOKENS" = Builtin.nameTokens.name from rfl, acceptsType_name]
    exact all_listParts_toList_iff (t := .nameToken) fun _ => isWord_of_isNameToken
  · rw [show "IDREFS" = Builtin.idRefs.name from rfl, acceptsType_name]
    exact all_listParts_toList_iff (t := .idRef) fun _ => isWord_of_isOwnedName
  · rw [show "token" = Builtin.token.name from rfl, acceptsType_name,
      show "NMTOKEN" = Builtin.nameToken.name from rfl, isWordList_iff]
    simp only [acceptsType_name, String.toList_ofList, List.replicate_zero, List.append_nil]
    exact isTokenText_iff

end GuidedXml.Schema
