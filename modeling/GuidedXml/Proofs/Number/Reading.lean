/-
# Numerals

Texts of digits with an optional sign, and the integers that they denote.

The main statements say which numerals the reading of integers takes, that the reading of floating
point numbers takes a numeral without a minus sign for the number nearest to what it denotes, and
that written natural numbers are read back.
-/
import GuidedXml.Number.Reading
import Mathlib.Data.List.Induction
import Mathlib.Data.List.TakeWhile

namespace GuidedXml.Number

variable {cs : List Char} {i j : Int}

/-! ## Digits -/

/-- Digits are one or more characters each of which is a digit. -/
theorem isDigits_iff : isDigits cs = true ↔ cs ≠ [] ∧ ∀ c ∈ cs, c.isDigit = true := by
  simp [isDigits]

/-- One digit and any more are digits. -/
theorem isDigits_cons_iff {c : Char} :
    isDigits (c :: cs) = true ↔ c.isDigit = true ∧ ∀ d ∈ cs, d.isDigit = true := by
  simp [isDigits]

/-- Digits begin with nothing else. -/
theorem head?_ne_of_isDigits (h : isDigits cs = true) {c : Char} (hc : c.isDigit = false) :
    cs.head? ≠ some c := by
  intro hhead
  obtain ⟨ds, rfl⟩ := List.head?_eq_some_iff.mp hhead
  rw [(isDigits_cons_iff.mp h).1] at hc
  cases hc

/-- Zeros in front do not change what digits denote. -/
theorem digitsValue_dropWhile (cs : List Char) :
    digitsValue (cs.dropWhile (· = '0')) = digitsValue cs := by
  induction cs with
  | nil => rfl
  | cons c cs ih =>
    by_cases hc : c = '0'
    · subst hc
      simpa [digitsValue] using ih
    · simp [hc]

/-- Digits denote zero exactly if all of them are zeros. -/
theorem digitsValue_eq_zero_iff (h : ∀ c ∈ cs, c.isDigit = true) :
    digitsValue cs = 0 ↔ ∀ c ∈ cs, c = '0' := by
  induction cs using List.reverseRecOn with
  | nil => simp
  | append_singleton cs c ih =>
    simp only [List.mem_append, List.mem_singleton, or_imp, forall_and, forall_eq] at h ⊢
    rw [digitsValue_concat, ← ih h.1]
    have hc : c.toNat - '0'.toNat = 0 ↔ c = '0' := by
      have hle : 48 ≤ c.toNat := by
        have := h.2
        simp only [Char.isDigit, ge_iff_le, Bool.and_eq_true, decide_eq_true_eq] at this
        exact this.1
      constructor
      · intro heq
        apply Char.toNat_inj.mp
        have : '0'.toNat = 48 := rfl
        omega
      · rintro rfl
        rfl
    rw [← hc]
    omega

/-- One or more digits are read as the number nearest to what they denote. -/
theorem readUnsigned?_of_isDigits (h : isDigits cs = true) :
    readUnsigned? cs = some (Float.ofNat (digitsValue cs)) := by
  obtain ⟨hne, hall⟩ := isDigits_iff.mp h
  have htake : cs.takeWhile Char.isDigit = cs := List.takeWhile_eq_self_iff.mpr hall
  have hdrop : cs.dropWhile Char.isDigit = [] := List.dropWhile_eq_nil_iff.mpr hall
  have hnearest : nearestFloat (digitsValue (cs.dropWhile (· = '0')))
      (cs.dropWhile (· = '0')).length 0 = Float.ofNat (digitsValue cs) := by
    rw [digitsValue_dropWhile, nearestFloat]
    split
    · next h0 =>
      rw [h0]
      rfl
    · rw [if_neg (by omega), if_pos (by decide), if_neg (by decide)]
      rfl
  rw [readUnsigned?, htake, hdrop]
  simpa [hne, readExponent?] using hnearest

/-- A digit has no case. -/
theorem toLower_of_isDigit {c : Char} (h : c.isDigit = true) : c.toLower = c := by
  simp only [Char.isDigit, ge_iff_le, Bool.and_eq_true, decide_eq_true_eq] at h
  unfold Char.toLower
  rw [dif_neg]
  rintro ⟨h', -⟩
  have := UInt32.le_trans h' h.2
  exact absurd this (by decide)

/-- Digits are no word. -/
theorem readWord?_of_isDigits (h : isDigits cs = true) : readWord? cs = none := by
  obtain ⟨hne, hall⟩ := isDigits_iff.mp h
  obtain ⟨c, cs, rfl⟩ := List.exists_cons_of_ne_nil hne
  have hc : c.isDigit = true := hall c List.mem_cons_self
  have hword : ∀ (d : Char) (ds : List Char), d.isDigit = false →
      String.ofList ((c :: cs).map Char.toLower) ≠ String.ofList (d :: ds) := by
    intro d ds hd heq
    rw [String.ofList_inj, List.map_cons, List.cons.injEq, toLower_of_isDigit hc] at heq
    rw [heq.1, hd] at hc
    cases hc
  rw [readWord?, if_neg, if_neg (hword 'n' ['a', 'n'] rfl)]
  rw [Bool.or_eq_true, decide_eq_true_eq, decide_eq_true_eq]
  rintro (h | h)
  · exact hword 'i' ['n', 'f'] rfl h
  · exact hword 'i' ['n', 'f', 'i', 'n', 'i', 't', 'y'] rfl h

/-! ## Numerals -/

/-- The text is one or more digits, perhaps after a sign, and denotes an integer. -/
inductive Denotes : List Char → Int → Prop
  | plain {ds : List Char} : isDigits ds = true → Denotes ds (digitsValue ds)
  | plus {ds : List Char} : isDigits ds = true → Denotes ('+' :: ds) (digitsValue ds)
  | minus {ds : List Char} : isDigits ds = true → Denotes ('-' :: ds) (-(digitsValue ds : Int))

/-- Digits have no sign. -/
theorem splitSign_of_isDigits (h : isDigits cs = true) : splitSign cs = (false, cs) := by
  unfold splitSign
  split
  · exact absurd rfl (head?_ne_of_isDigits h (c := '-') rfl)
  · exact absurd rfl (head?_ne_of_isDigits h (c := '+') rfl)
  · rfl

/-- The sign of a numeral and its digits. -/
theorem denotes_iff : Denotes cs i ↔ isDigits (splitSign cs).2 = true ∧
    i = if (splitSign cs).1 then -(digitsValue (splitSign cs).2 : Int)
      else digitsValue (splitSign cs).2 := by
  constructor
  · intro h
    cases h with
    | plain hd =>
      rw [splitSign_of_isDigits hd]
      exact ⟨hd, rfl⟩
    | plus hd => exact ⟨hd, rfl⟩
    | minus hd => exact ⟨hd, rfl⟩
  · rintro ⟨hd, rfl⟩
    unfold splitSign at hd ⊢
    split at hd
    · exact .minus hd
    · exact .plus hd
    · exact .plain hd

/-- A text denotes one integer at most. -/
theorem Denotes.unique (hi : Denotes cs i) (hj : Denotes cs j) : i = j := by
  rw [denotes_iff] at hi hj
  rw [hi.2, hj.2]

/-- An integer within bounds is read from the numerals that denote one of these. -/
theorem readInt?_eq_some_iff {min max : Int} :
    readInt? min max cs = some i ↔ Denotes cs i ∧ min ≤ i ∧ i ≤ max := by
  rw [denotes_iff, readInt?, Option.filter_eq_some_iff, readDigits?]
  cases isDigits (splitSign cs).2 with
  | false => simp
  | true =>
    simp only [if_true, Option.bind_eq_bind, Option.bind_some, Option.pure_def, Option.map_some,
      Option.some.injEq, true_and, Bool.and_eq_true, decide_eq_true_eq]
    exact and_congr_left' eq_comm

/-- A numeral without a minus sign is read as the number nearest to what it denotes. -/
theorem readFloat?_of_denotes (h : Denotes cs i) (hsign : cs.head? ≠ some '-') :
    readFloat? cs = some (Float.ofNat i.toNat) := by
  obtain ⟨ds, hd, hsplit, rfl⟩ : ∃ ds, isDigits ds = true ∧ splitSign cs = (false, ds) ∧
      i = digitsValue ds := by
    cases h with
    | plain hd => exact ⟨cs, hd, splitSign_of_isDigits hd, rfl⟩
    | plus hd => exact ⟨_, hd, rfl, rfl⟩
    | minus hd => simp at hsign
  rw [readFloat?, hsplit]
  simp only [readWord?_of_isDigits hd, readUnsigned?_of_isDigits hd]
  rfl

/-! ## Written numbers -/

/-- A number is written in digits. -/
theorem isDigits_toString (n : Nat) : isDigits (toString n).toList = true := by
  rw [Nat.toString_eq_repr, Nat.toList_repr, isDigits_iff]
  exact ⟨Nat.toDigits_ne_nil, fun c hc => Nat.isDigit_of_mem_toDigits (by decide) (by decide) hc⟩

/-- The digits of a number have it as their value. -/
theorem digitsValue_toString (n : Nat) : digitsValue (toString n).toList = n := by
  rw [Nat.toString_eq_repr, Nat.toList_repr, digitsValue, ← Nat.ofDigitChars_eq_foldl,
    Nat.ofDigitChars_ten_toDigits]

/-- A natural number is read from its decimal digits, unless it is too great. -/
theorem readNat?_toString (max n : Nat) :
    readNat? max (toString n).toList = if n ≤ max then some n else none := by
  have hdigits := isDigits_toString n
  have hplus : (toString n).toList.head? ≠ some '+' := head?_ne_of_isDigits hdigits rfl
  unfold readNat?
  split
  · next r heq =>
    rw [heq] at hplus
    exact absurd rfl hplus
  · simp only [readDigits?, if_pos hdigits, digitsValue_toString, Option.filter_some,
      decide_eq_true_eq]

end GuidedXml.Number
