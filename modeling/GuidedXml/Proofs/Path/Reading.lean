/-
# Reading written paths

Steps are written as their names, with brackets around a position. Names are made of characters that
mean nothing else in a path, so what is written can be taken apart again.

The main statements say that segments that are written steps are read as these steps exactly if their
positions fit into a word, and that a path that was read has steps whose positions count from one.
-/
import GuidedXml.Proofs.Markup.Tags
import GuidedXml.Proofs.Number.Reading
import GuidedXml.Proofs.Text.Classes
import GuidedXml.Proofs.Text.Joining

namespace GuidedXml.Path

open Markup (IsPlainName)

variable {cs q : List Char} {segments qs : List (List Char)} {s t : Step} {steps : List Step}
  {p : Path}

/-- A mapped result is one exactly if the result is. -/
theorem map_eq_ok_iff {ε α β : Type} {f : α → β} {e : Except ε α} {b : β} :
    e.map f = .ok b ↔ ∃ a, e = .ok a ∧ b = f a := by
  cases e <;> simp [Except.map, eq_comm]

/-! ## Names -/

/-- A plain name has characters of names only. -/
theorem not_mem_of_isPlainName {name : String} (h : IsPlainName name) {c : Char}
    (hc : isNameChar c = false) : c ∉ name.toList := by
  intro hmem
  rw [h.all c hmem] at hc
  cases hc

/-- No character of names is blank. -/
theorem isBlank_of_isNameChar {c : Char} (hc : isNameChar c = true) : Text.isBlank c = false := by
  simp only [isNameChar, Bool.or_eq_true, decide_eq_true_eq] at hc
  rcases hc with (((hc | rfl) | rfl) | rfl) | rfl
  · exact Text.isBlank_of_isAlphanumeric hc
  all_goals decide

/-- A letter or digit of ASCII, an underscore or a hyphen. -/
def isSimpleChar (c : Char) : Bool :=
  c.isAlphanum || c = '_' || c = '-'

/-- Simple characters are characters of names. -/
theorem isNameChar_of_isSimpleChar {c : Char} (hc : isSimpleChar c = true) : isNameChar c = true := by
  simp only [isSimpleChar, Bool.or_eq_true, decide_eq_true_eq] at hc
  rcases hc with (hc | rfl) | rfl
  · simp [isNameChar, Text.isAlphanumeric_of_isAlphanum hc]
  · simp [isNameChar]
  · simp [isNameChar]

/-- A digit is a character of names. -/
theorem isNameChar_of_isDigit {c : Char} (hc : c.isDigit = true) : isNameChar c = true := by
  apply isNameChar_of_isSimpleChar
  rw [isSimpleChar, Char.isAlphanum, hc, Bool.or_true]
  rfl

/-- A plain name is read as it is. -/
theorem readName_of_isPlainName {name : String} (h : IsPlainName name) :
    readName name.toList = .ok name := by
  rw [readName, if_pos, String.ofList_toList]
  simpa [h.nonempty] using h.all

/-! ## Steps -/

/-- A step with brackets of some kind around its position. -/
def Step.written (opening closing : Char) (s : Step) : List Char :=
  s.name.toList ++ match s.position with
    | none => []
    | some n => opening :: (toString n).toList ++ [closing]

/-- The step has a name, and its position counts from one. -/
structure Step.Proper (s : Step) : Prop where
  name : IsPlainName s.name
  position : s.position ≠ some 0

/-- The position of the step fits into a word. -/
def Step.Fits (s : Step) : Prop :=
  ∀ n, s.position = some n → n ≤ Number.maxWord64

instance (s : Step) : Decidable s.Fits :=
  decidable_of_iff (s.position.all (· ≤ Number.maxWord64) = true) <| by
    cases hs : s.position <;> simp [Step.Fits, hs]

/-- A step without position is written as its name. -/
theorem Step.written_of_none (hs : s.position = none) (opening closing : Char) :
    s.written opening closing = s.name.toList := by
  rw [written, hs, List.append_nil]

/-- A step with a position is written as its name and the position in brackets. -/
theorem Step.written_of_some {n : Nat} (hs : s.position = some n) (opening closing : Char) :
    s.written opening closing =
      s.name.toList ++ opening :: ((toString n).toList ++ [closing]) := by
  rw [written, hs]
  rfl

/-- The characters of a written step are those of its name, digits and the brackets. -/
theorem Step.of_mem_written {opening closing c : Char} (hc : c ∈ s.written opening closing) :
    c ∈ s.name.toList ∨ c.isDigit = true ∨ c = opening ∨ c = closing := by
  cases hs : s.position with
  | none =>
    rw [written_of_none hs] at hc
    exact Or.inl hc
  | some n =>
    rw [written_of_some hs] at hc
    rcases List.mem_append.mp hc with hc | hc
    · exact Or.inl hc
    · rcases List.mem_cons.mp hc with hc | hc
      · exact Or.inr (Or.inr (Or.inl hc))
      · rcases List.mem_append.mp hc with hc | hc
        · exact Or.inr (Or.inl ((Number.isDigits_iff.mp (Number.isDigits_toString n)).2 c hc))
        · exact Or.inr (Or.inr (Or.inr (List.mem_singleton.mp hc)))

/-- A character that is neither in names nor a digit is in a written step only as a bracket. -/
theorem Step.Proper.not_mem_written (hs : s.Proper) {opening closing c : Char}
    (hname : isNameChar c = false) (hdigit : c.isDigit = false) (hopening : c ≠ opening)
    (hclosing : c ≠ closing) : c ∉ s.written opening closing := by
  intro hc
  rcases of_mem_written hc with h | h | h | h
  · exact not_mem_of_isPlainName hs.name hname h
  · rw [hdigit] at h
    cases h
  · exact hopening h
  · exact hclosing h

/-- A proper step is not written as nothing. -/
theorem Step.Proper.written_ne_nil (hs : s.Proper) (opening closing : Char) :
    s.written opening closing ≠ [] := by
  rw [written]
  exact List.append_ne_nil_of_left_ne_nil hs.name.nonempty _

/-- A position is read back unless it is too great. -/
theorem readPosition_toString {n m : Nat} (hn : n ≠ 0) :
    readPosition (toString n).toList = .ok m ↔ n ≤ Number.maxWord64 ∧ m = n := by
  have hblank : ∀ c ∈ (toString n).toList, Text.isBlank c = false := fun c hc =>
    isBlank_of_isNameChar (isNameChar_of_isDigit
      ((Number.isDigits_iff.mp (Number.isDigits_toString n)).2 c hc))
  rw [readPosition, Text.trim_eq_self hblank, Number.readNat?_toString]
  by_cases hle : n ≤ Number.maxWord64
  · rw [if_pos hle]
    split
    · next h => cases h
    · next h => exact absurd (Option.some.inj h) hn
    · next h =>
      obtain rfl := Option.some.inj h
      simp [hle, eq_comm]
  · rw [if_neg hle]
    simp [hle]

/-- A written step is read back unless its position is too great. -/
theorem readStep_written (hs : s.Proper) :
    readStep (s.written '[' ']') = .ok t ↔ s.Fits ∧ t = s := by
  have hbracket : '[' ∉ s.name.toList := not_mem_of_isPlainName hs.name (by decide +kernel)
  have hname := readName_of_isPlainName hs.name
  cases hposition : s.position with
  | none =>
    have heq : (⟨s.name, none⟩ : Step) = s := by rw [← hposition]
    rw [Step.written_of_none hposition, readStep, Text.cutAt_of_not_mem hbracket]
    simp [map_eq_ok_iff, hname, Step.Fits, hposition, heq]
  | some n =>
    have hn : n ≠ 0 := fun h => hs.position (by rw [hposition, h])
    have heq : (⟨s.name, some n⟩ : Step) = s := by rw [← hposition]
    have hcut : Text.cutAt '[' (s.written '[' ']') =
        some (s.name.toList, (toString n).toList ++ [']']) := by
      rw [Step.written_of_some hposition]
      exact Markup.cutAt_append hbracket _
    have hclosing : dropClosing? ((toString n).toList ++ [']']) = some (toString n).toList := by
      simp [dropClosing?]
    rw [readStep, hcut]
    simp only [hclosing]
    cases hread : readPosition (toString n).toList with
    | error cause =>
      have : ¬ n ≤ Number.maxWord64 := by
        intro hle
        rw [(readPosition_toString hn).mpr ⟨hle, rfl⟩] at hread
        cases hread
      simp [Step.Fits, hposition, this]
    | ok m =>
      obtain ⟨hle, rfl⟩ := (readPosition_toString hn).mp hread
      simp [map_eq_ok_iff, hname, Step.Fits, hposition, heq, hle]

/-- A position that was read counts from one. -/
theorem readPosition_ne_zero {n : Nat} (hn : readPosition cs = .ok n) : n ≠ 0 := by
  unfold readPosition at hn
  split at hn
  · cases hn
  · cases hn
  · next hzero _ =>
    rintro rfl
    obtain rfl := Except.ok.inj hn
    exact hzero rfl

/-- No step that is read has position zero. -/
theorem readStep_position_ne_zero (hs : readStep cs = .ok s) : s.position ≠ some 0 := by
  unfold readStep at hs
  split at hs
  · obtain ⟨name, -, rfl⟩ := map_eq_ok_iff.mp hs
    simp
  · split at hs
    · cases hs
    · split at hs
      · cases hs
      · next n hposition =>
        obtain ⟨name, -, rfl⟩ := map_eq_ok_iff.mp hs
        simpa using readPosition_ne_zero hposition

/-! ## Segments -/

/-- A last segment with the sign of attributes is the attribute. -/
theorem readSegments_attribute {name : String} (h : IsPlainName name) :
    readSegments ['@' :: name.toList] = .ok ⟨[], some name⟩ := by
  simp [readSegments, map_eq_ok_iff, readName_of_isPlainName h]

/-- Any other segment is a step, and the rest is read behind it. -/
theorem readSegments_cons (hq : q.head? ≠ some '@') :
    readSegments (q :: segments) = .ok p ↔
      ∃ s p', readStep q = .ok s ∧ readSegments segments = .ok p' ∧
        p = { p' with steps := s :: p'.steps } := by
  have hat : ∀ name, q = '@' :: name → False := by
    rintro name rfl
    exact hq rfl
  rw [readSegments.eq_3 _ _ hat]
  cases readStep q with
  | error cause => simp
  | ok s => simp [map_eq_ok_iff]

/-- Behind a segment for an attribute there is no step. -/
theorem steps_of_readSegments_attribute (hp : readSegments (('@' :: q) :: segments) = .ok p) :
    p.steps = [] := by
  rw [readSegments] at hp
  split at hp
  · obtain ⟨name, -, rfl⟩ := map_eq_ok_iff.mp hp
    rfl
  · cases hp

/-- Segments that start with written steps are read exactly if these fit and the rest is read. -/
theorem readSegments_written (hs : ∀ s ∈ steps, s.Proper) :
    readSegments (steps.map (Step.written '[' ']') ++ segments) = .ok p ↔
      (∀ s ∈ steps, s.Fits) ∧
        ∃ p', readSegments segments = .ok p' ∧ p = { p' with steps := steps ++ p'.steps } := by
  induction steps generalizing p with
  | nil => simp
  | cons s steps ih =>
    obtain ⟨hfirst, hrest⟩ := List.forall_mem_cons.mp hs
    -- a step does not start like an attribute
    have hat : (s.written '[' ']').head? ≠ some '@' := fun hhead =>
      hfirst.not_mem_written (by decide +kernel) (by decide) (by decide) (by decide)
        (List.mem_of_mem_head? hhead)
    rw [List.map_cons, List.cons_append, readSegments_cons hat, List.forall_mem_cons]
    constructor
    · rintro ⟨t, p', hread, hreads, rfl⟩
      obtain ⟨hfits, rfl⟩ := (readStep_written hfirst).mp hread
      obtain ⟨hall, p'', hp'', rfl⟩ := (ih hrest).mp hreads
      exact ⟨⟨hfits, hall⟩, p'', hp'', rfl⟩
    · rintro ⟨⟨hfits, hall⟩, p'', hp'', rfl⟩
      have hreads := (ih hrest).mpr ⟨hall, p'', hp'', rfl⟩
      exact ⟨s, _, (readStep_written hfirst).mpr ⟨hfits, rfl⟩, hreads, rfl⟩

/-- A path that is read has no more steps than segments. -/
theorem length_steps_le_of_readSegments (hp : readSegments segments = .ok p) :
    p.steps.length ≤ segments.length := by
  induction segments generalizing p with
  | nil =>
    cases hp
    exact Nat.le_refl _
  | cons q segments ih =>
    by_cases hq : q.head? = some '@'
    · obtain ⟨name, rfl⟩ := List.head?_eq_some_iff.mp hq
      rw [steps_of_readSegments_attribute hp]
      exact Nat.zero_le _
    · obtain ⟨s, p', -, hrest, rfl⟩ := (readSegments_cons hq).mp hp
      exact Nat.succ_le_succ (ih hrest)

/-- No step of segments that are read has position zero. -/
theorem readSegments_position_ne_zero (hp : readSegments segments = .ok p) :
    ∀ s ∈ p.steps, s.position ≠ some 0 := by
  induction segments generalizing p with
  | nil =>
    cases hp
    exact fun s hs => absurd hs List.not_mem_nil
  | cons q segments ih =>
    by_cases hq : q.head? = some '@'
    · obtain ⟨name, rfl⟩ := List.head?_eq_some_iff.mp hq
      rw [steps_of_readSegments_attribute hp]
      exact fun s hs => absurd hs List.not_mem_nil
    · obtain ⟨s, p', hs, hrest, rfl⟩ := (readSegments_cons hq).mp hp
      exact List.forall_mem_cons.mpr ⟨readStep_position_ne_zero hs, ih hrest⟩

/-! ## Texts -/

/-- A text is read as its characters are. -/
theorem read_eq_ok_iff {text : String} : read text = .ok p ↔ readChars text.toList = .ok p := by
  rw [read]
  cases readChars text.toList with
  | error cause => simp [Except.mapError]
  | ok p' => simp [Except.mapError]

/-- Characters are read as the segments between their slashes, one of which is a step. -/
theorem readChars_eq_ok_iff :
    readChars cs = .ok p ↔ body cs ≠ [] ∧ readSegments (Text.splitAt '/' (body cs)) = .ok p ∧
      p.steps ≠ [] := by
  simp only [readChars, List.isEmpty_iff]
  split
  · simp [*]
  · next hbody =>
    cases readSegments (Text.splitAt '/' (body cs)) with
    | error cause => simp
    | ok p' =>
      simp only [Except.ok.injEq]
      split
      · next hsteps =>
        refine iff_of_false (by simp) ?_
        rintro ⟨-, rfl, hne⟩
        exact hne hsteps
      · next hsteps =>
        rw [Except.ok.injEq]
        refine ⟨?_, fun h => h.2.1⟩
        rintro rfl
        exact ⟨hbody, rfl, hsteps⟩

/-- A path that was read has steps, and their positions count from one. -/
theorem steps_of_read {text : String} (hp : read text = .ok p) :
    p.steps ≠ [] ∧ ∀ s ∈ p.steps, s.position ≠ some 0 := by
  obtain ⟨-, hsegments, hsteps⟩ := readChars_eq_ok_iff.mp (read_eq_ok_iff.mp hp)
  exact ⟨hsteps, readSegments_position_ne_zero hsegments⟩

/-- A text of segments with slashes between them is read by its segments. -/
theorem readChars_joined (hq : q ≠ []) (hslash : '/' ∉ q) (hslashes : ∀ r ∈ qs, '/' ∉ r)
    (hblank : ∀ c ∈ Text.joined '/' q qs, Text.isBlank c = false) :
    readChars (Text.joined '/' q qs) = .ok p ↔ readSegments (q :: qs) = .ok p ∧ p.steps ≠ [] := by
  obtain ⟨c, q, rfl⟩ := List.exists_cons_of_ne_nil hq
  -- there is no slash at the start that would be left out
  have hbody : body (Text.joined '/' (c :: q) qs) = Text.joined '/' (c :: q) qs := by
    rw [body, Text.trim_eq_self hblank]
    split
    · next r heq =>
      obtain ⟨rfl, -⟩ := List.cons.inj heq
      simp at hslash
    · rfl
  rw [readChars_eq_ok_iff, hbody, Text.splitAt_joined hslash hslashes]
  simp [Text.joined]

/-- A path that is read has no more steps than slashes, and one more. -/
theorem length_steps_le_of_readChars (hp : readChars cs = .ok p) :
    p.steps.length ≤ cs.count '/' + 1 := by
  obtain ⟨-, hread, -⟩ := readChars_eq_ok_iff.mp hp
  have hsub : (body cs).Sublist cs := by
    have htrim := Text.trim_sublist cs
    rw [body]
    split
    · next r heq =>
      rw [heq] at htrim
      exact (List.sublist_cons_self _ _).trans htrim
    · exact htrim
  calc p.steps.length ≤ (Text.splitAt '/' (body cs)).length := length_steps_le_of_readSegments hread
    _ = (body cs).count '/' + 1 := Text.length_splitAt ..
    _ ≤ cs.count '/' + 1 := Nat.succ_le_succ (hsub.count_le _)

end GuidedXml.Path
