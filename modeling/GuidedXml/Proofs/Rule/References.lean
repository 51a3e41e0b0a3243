/-
# References

A reference is written from steps with dots between them and perhaps a mark at the end. The mark for
the content is taken out wherever it starts a part of the reference, also at the start of a longer
name; the mark for an attribute is found between two dots alone.

The main statement says which references stand for the steps that they are written from.
-/
import GuidedXml.Proofs.Path.Reading
import GuidedXml.Rule.Parameter

namespace GuidedXml.Parameter

open GuidedXml.Path (Step isSimpleChar)
open Text (joined remade)

/-- What stands behind the steps of a reference. -/
inductive Reference.Ending where
  /-- The attribute of that name. -/
  | atAttribute (name : String)
  /-- The content of the element. -/
  | atContent
  deriving DecidableEq, Repr

/-- A reference by its parts. -/
structure Reference where
  /-- The steps from the document on. -/
  steps : List Step
  /-- What stands behind the steps. -/
  ending : Option Reference.Ending := none
  deriving DecidableEq, Repr

namespace Reference

variable {r : Reference} {s : Step} {steps : List Step} {name : String} {cs : List Char}

/-! ## Writing -/

/-- The written form of what stands behind the steps. -/
def Ending.written : Option Ending → List Char
  | none => []
  | some (.atAttribute name) => ".ATTRIBUTE.".toList ++ name.toList
  | some .atContent => ".CONTENT".toList

/-- The written form of a reference, with dots between the steps and braces around positions. -/
def written (r : Reference) : String :=
  String.ofList (List.intercalate ['.'] (r.steps.map (Step.written '{' '}')) ++
    Ending.written r.ending)

/-- The attribute that the reference asks for, if it asks for one. -/
def attribute? (r : Reference) : Option String :=
  match r.ending with
  | some (.atAttribute name) => some name
  | _ => none

/-- The parameter leads along the steps of the reference to its attribute, and stands for a value if
there is anything behind the steps. -/
def KeptBy (r : Reference) (p : Parameter) : Prop :=
  p.path = .ok ⟨r.steps, r.attribute?⟩ ∧
    p.kind = if r.ending.isSome then .value else .presence

/-- A name of one or more letters and digits of ASCII, underscores and hyphens. -/
structure IsSimpleName (name : String) : Prop where
  nonempty : name.toList ≠ []
  all : ∀ c ∈ name.toList, isSimpleChar c = true

instance (name : String) : Decidable (IsSimpleName name) :=
  decidable_of_iff (name.toList ≠ [] ∧ name.toList.all isSimpleChar = true)
    ⟨fun h => ⟨h.1, List.all_eq_true.mp h.2⟩, fun h => ⟨h.nonempty, List.all_eq_true.mpr h.all⟩⟩

/-- A reference of such names, none of them a mark, and of positions that count from one. -/
structure Simple (r : Reference) : Prop where
  steps : r.steps ≠ []
  names : ∀ s ∈ r.steps, IsSimpleName s.name ∧ s.name ≠ "CONTENT" ∧ s.name ≠ "ATTRIBUTE"
  positions : ∀ s ∈ r.steps, s.position ≠ some 0
  ending : ∀ name, r.ending = some (.atAttribute name) → IsSimpleName name

instance (ending : Option Ending) :
    Decidable (∀ name, ending = some (.atAttribute name) → IsSimpleName name) :=
  match ending with
  | none => isTrue (by simp)
  | some (.atAttribute name) => decidable_of_iff (IsSimpleName name) (by simp)
  | some .atContent => isTrue (by simp)

instance (r : Reference) : Decidable r.Simple :=
  decidable_of_iff (r.steps ≠ [] ∧
      (∀ s ∈ r.steps, IsSimpleName s.name ∧ s.name ≠ "CONTENT" ∧ s.name ≠ "ATTRIBUTE") ∧
      (∀ s ∈ r.steps, s.position ≠ some 0) ∧
      ∀ name, r.ending = some (.atAttribute name) → IsSimpleName name)
    ⟨fun h => ⟨h.1, h.2.1, h.2.2.1, h.2.2.2⟩, fun h => ⟨h.steps, h.names, h.positions, h.ending⟩⟩

/-! ## Parts -/

/-- The parts that stand behind the steps. -/
def Ending.parts : Option Ending → List (List Char)
  | none => []
  | some (.atAttribute name) => ["ATTRIBUTE".toList, name.toList]
  | some .atContent => ["CONTENT".toList]

/-- Whether the character may be in a part once braces are brackets. -/
def isPartChar (c : Char) : Bool :=
  isSimpleChar c || c = '[' || c = ']'

/-- Parts have no other characters than parts may have. -/
theorem not_mem_of_isPartChar (hcs : ∀ c ∈ cs, isPartChar c = true) {c : Char}
    (hc : isPartChar c = false) : c ∉ cs := by
  intro hmem
  rw [hcs c hmem] at hc
  cases hc

/-- No character of parts is blank. -/
theorem isBlank_of_isPartChar {c : Char} (hc : isPartChar c = true) : Text.isBlank c = false := by
  simp only [isPartChar, Bool.or_eq_true, decide_eq_true_eq] at hc
  rcases hc with (hc | rfl) | rfl
  · exact Path.isBlank_of_isNameChar (Path.isNameChar_of_isSimpleChar hc)
  · decide
  · decide

/-- A simple name is a plain one. -/
theorem IsSimpleName.isPlainName (h : IsSimpleName name) : Markup.IsPlainName name where
  nonempty := h.nonempty
  all := fun c hc => Path.isNameChar_of_isSimpleChar (h.all c hc)

/-- Simple names are made of characters of parts. -/
theorem IsSimpleName.isPartChar (h : IsSimpleName name) : ∀ c ∈ name.toList, isPartChar c = true := by
  intro c hc
  rw [Reference.isPartChar, h.all c hc]
  rfl

/-- A digit is a character of parts. -/
theorem isPartChar_of_isDigit {c : Char} (hc : c.isDigit = true) : isPartChar c = true := by
  simp [isPartChar, isSimpleChar, Char.isAlphanum, hc]

/-- A step is written in characters of parts. -/
theorem isPartChar_of_mem_written (h : IsSimpleName s.name) :
    ∀ c ∈ s.written '[' ']', isPartChar c = true := by
  intro c hc
  rcases Step.of_mem_written hc with hc | hc | rfl | rfl
  · exact h.isPartChar c hc
  · exact isPartChar_of_isDigit hc
  · rfl
  · rfl

/-- An ending is written in characters of parts. -/
theorem isPartChar_of_mem_parts {ending : Option Ending}
    (h : ∀ name, ending = some (.atAttribute name) → IsSimpleName name) :
    ∀ q ∈ Ending.parts ending, ∀ c ∈ q, isPartChar c = true := by
  intro q hq
  rcases ending with _ | name | _
  · cases hq
  · simp only [Ending.parts, List.mem_cons, List.not_mem_nil, or_false] at hq
    rcases hq with rfl | rfl
    · exact List.all_eq_true.mp (by decide)
    · exact (h name rfl).isPartChar
  · rw [List.mem_singleton.mp hq]
    exact List.all_eq_true.mp (by decide)

/-- The parts of a reference once braces are brackets. -/
def parts (steps : List Step) (ending : Option Ending) : List (List Char) :=
  steps.map (Step.written '[' ']') ++ Ending.parts ending

/-- A brace is exchanged for a bracket. -/
def bracket (c : Char) : Char :=
  if c = '{' then '[' else if c = '}' then ']' else c

/-- Changing brackets makes nothing blank and leaves nothing blank. -/
theorem isBlank_bracket (c : Char) : Text.isBlank (bracket c) = Text.isBlank c := by
  unfold bracket
  split_ifs with h h
  · rw [h]
    rfl
  · rw [h]
    rfl
  · rfl

/-- Characters of parts are no brackets to be changed. -/
theorem map_bracket_of_isPartChar (hcs : ∀ c ∈ cs, isPartChar c = true) : cs.map bracket = cs := by
  apply Text.map_eq_self
  intro c hc
  have hopening : c ≠ '{' := fun h => not_mem_of_isPartChar hcs (by decide) (h ▸ hc)
  have hclosing : c ≠ '}' := fun h => not_mem_of_isPartChar hcs (by decide) (h ▸ hc)
  rw [bracket, if_neg hopening, if_neg hclosing]

/-- Changing its brackets turns a step written with braces into one written with brackets. -/
theorem map_bracket_written (h : IsSimpleName s.name) :
    (s.written '{' '}').map bracket = s.written '[' ']' := by
  have hname := map_bracket_of_isPartChar h.isPartChar
  cases hs : s.position with
  | none => rw [Step.written_of_none hs, Step.written_of_none hs, hname]
  | some n =>
    have hdigits : (toString n).toList.map bracket = (toString n).toList := by
      apply map_bracket_of_isPartChar
      intro c hc
      exact isPartChar_of_isDigit ((Number.isDigits_iff.mp (Number.isDigits_toString n)).2 c hc)
    rw [Step.written_of_some hs, Step.written_of_some hs, List.map_append, hname, List.map_cons,
      List.map_append, hdigits]
    rfl

/-- The mark of attributes is a word between dots. -/
theorem attributeMark_eq : attributeMark = '.' :: ("ATTRIBUTE".toList ++ ['.']) := by
  decide

/-- The mark of contents is a word after a dot. -/
theorem contentMark_eq : contentMark = '.' :: "CONTENT".toList := by
  decide

/-- An ending is written as its parts, each after a dot. -/
theorem written_eq_flatMap_parts (ending : Option Ending) :
    Ending.written ending = (Ending.parts ending).flatMap ('.' :: ·) := by
  have hone : ∀ mark : List Char, [mark].flatMap ('.' :: ·) = '.' :: mark := by simp
  have htwo : ∀ mark a : List Char, [mark, a].flatMap ('.' :: ·) = '.' :: (mark ++ ['.']) ++ a := by
    simp
  rcases ending with _ | name | _
  · rfl
  · rw [Ending.parts, htwo, ← attributeMark_eq]
    rfl
  · rw [Ending.parts, hone, ← contentMark_eq]
    rfl

/-- A reference is written as its steps and the parts of its ending with dots between them. -/
theorem toList_written (hsteps : r.steps = s :: steps) :
    r.written.toList = joined '.' (s.written '{' '}')
      (steps.map (Step.written '{' '}') ++ Ending.parts r.ending) := by
  rw [written, String.toList_ofList, hsteps, List.map_cons, ← Text.joined_eq_intercalate,
    written_eq_flatMap_parts, Text.joined_append]

/-- The parts of a simple reference have characters of parts only. -/
theorem isPartChar_of_mem (hr : r.Simple) (hsteps : r.steps = s :: steps) :
    ∀ q ∈ s.written '[' ']' :: parts steps r.ending, ∀ c ∈ q, isPartChar c = true := by
  have hstep : ∀ t ∈ s :: steps, ∀ c ∈ t.written '[' ']', isPartChar c = true := fun t ht =>
    isPartChar_of_mem_written (hr.names t (hsteps ▸ ht)).1
  intro q hq
  rcases List.mem_cons.mp hq with rfl | hq
  · exact hstep s List.mem_cons_self
  · rcases List.mem_append.mp hq with hq | hq
    · obtain ⟨t, ht, rfl⟩ := List.mem_map.mp hq
      exact hstep t (List.mem_cons_of_mem s ht)
    · exact isPartChar_of_mem_parts hr.ending q hq

/-- Braces become brackets, and nothing else changes. -/
theorem bracketed_written (hr : r.Simple) (hsteps : r.steps = s :: steps) (id name : String) :
    (⟨id, name, r.written⟩ : Parameter).bracketed =
      joined '.' (s.written '[' ']') (parts steps r.ending) := by
  have hmap : r.written.toList.map bracket = joined '.' (s.written '[' ']') (parts steps r.ending) := by
    have hmapsteps : (steps.map (Step.written '{' '}')).map (List.map bracket) =
        steps.map (Step.written '[' ']') := by
      rw [List.map_map]
      exact List.map_congr_left fun t ht => map_bracket_written
        (hr.names t (by rw [hsteps]; exact List.mem_cons_of_mem s ht)).1
    have hmapparts : (Ending.parts r.ending).map (List.map bracket) = Ending.parts r.ending :=
      Text.map_eq_self fun q hq =>
        map_bracket_of_isPartChar (isPartChar_of_mem_parts hr.ending q hq)
    have hfirst := map_bracket_written (hr.names s (by rw [hsteps]; exact List.mem_cons_self)).1
    rw [toList_written hsteps, Text.map_joined, List.map_append, hfirst, hmapsteps, hmapparts]
    rfl
  -- neither braces nor brackets are blank, so there is nothing to trim
  have hblank : ∀ c ∈ r.written.toList, Text.isBlank c = false := by
    intro c hc
    have hmem : bracket c ∈ joined '.' (s.written '[' ']') (parts steps r.ending) :=
      hmap ▸ List.mem_map_of_mem hc
    rw [← isBlank_bracket]
    rcases Text.mem_joined hmem with h | ⟨q, hq, h⟩
    · rw [h]
      rfl
    · exact isBlank_of_isPartChar (isPartChar_of_mem hr hsteps q hq _ h)
  calc (⟨id, name, r.written⟩ : Parameter).bracketed
      = (Text.trim r.written.toList).map bracket := rfl
    _ = r.written.toList.map bracket := by rw [Text.trim_eq_self hblank]
    _ = joined '.' (s.written '[' ']') (parts steps r.ending) := hmap

/-! ## Marks -/

section Marks

variable (hr : r.Simple) (hsteps : r.steps = s :: steps)
include hr hsteps

/-- No part of a simple reference has another character. -/
theorem not_mem_parts {c : Char} (hc : isPartChar c = false) :
    c ∉ s.written '[' ']' ∧ ∀ q ∈ parts steps r.ending, c ∉ q := by
  have hchars := isPartChar_of_mem hr hsteps
  exact ⟨not_mem_of_isPartChar (hchars _ List.mem_cons_self) hc,
    fun q hq => not_mem_of_isPartChar (hchars q (List.mem_cons_of_mem _ hq)) hc⟩

/-- No step is written as the mark for an attribute. -/
theorem written_ne_attribute {t : Step} (ht : t ∈ steps) :
    t.written '[' ']' ≠ "ATTRIBUTE".toList := by
  intro heq
  cases hposition : t.position with
  | none =>
    rw [Step.written_of_none hposition, String.toList_inj] at heq
    exact (hr.names t (by rw [hsteps]; exact List.mem_cons_of_mem s ht)).2.2 heq
  | some n =>
    -- the bracket before a position is not in the mark
    have hbracket : '[' ∈ t.written '[' ']' := by
      rw [Step.written_of_some hposition]
      exact List.mem_append_right _ List.mem_cons_self
    rw [heq] at hbracket
    exact absurd hbracket (by decide)

/-- Steps with slashes between them are read as these steps if their positions fit. -/
theorem readChars_steps {tail : List (List Char)} {ending : Option String}
    (htail : Path.readSegments tail = .ok ⟨[], ending⟩)
    (hchars : ∀ q ∈ tail, '/' ∉ q ∧ ∀ c ∈ q, Text.isBlank c = false) :
    Path.readChars (joined '/' (s.written '[' ']') (steps.map (Step.written '[' ']') ++ tail)) =
      .ok ⟨r.steps, ending⟩ ↔ ∀ t ∈ r.steps, t.Fits := by
  have hproper : ∀ t ∈ s :: steps, t.Proper := by
    intro t ht
    rw [← hsteps] at ht
    exact ⟨(hr.names t ht).1.isPlainName, hr.positions t ht⟩
  have hsegment : ∀ q ∈ (s :: steps).map (Step.written '[' ']') ++ tail,
      '/' ∉ q ∧ ∀ c ∈ q, Text.isBlank c = false := by
    intro q hq
    rcases List.mem_append.mp hq with hq | hq
    · obtain ⟨t, ht, rfl⟩ := List.mem_map.mp hq
      rw [← hsteps] at ht
      have hpart := isPartChar_of_mem_written (hr.names t ht).1
      exact ⟨not_mem_of_isPartChar hpart (by decide), fun c hc => isBlank_of_isPartChar (hpart c hc)⟩
    · exact hchars q hq
  rw [List.map_cons, List.cons_append, List.forall_mem_cons] at hsegment
  have hblank : ∀ c ∈ joined '/' (s.written '[' ']') (steps.map (Step.written '[' ']') ++ tail),
      Text.isBlank c = false := by
    intro c hc
    rcases Text.mem_joined hc with rfl | ⟨q, hq, hc⟩
    · decide
    · rcases List.mem_cons.mp hq with rfl | hq
      · exact hsegment.1.2 c hc
      · exact (hsegment.2 q hq).2 c hc
  rw [Path.readChars_joined ((hproper s List.mem_cons_self).written_ne_nil _ _) hsegment.1.1
    (fun q hq => (hsegment.2 q hq).1) hblank, ← List.cons_append, ← List.map_cons,
    Path.readSegments_written hproper, hsteps]
  simp [htail]

end Marks

/-- A step is written with the word of contents in front exactly if its name begins with it. -/
theorem content_prefix_written_iff {t : Step} :
    "CONTENT".toList <+: t.written '[' ']' ↔ "CONTENT".toList <+: t.name.toList := by
  cases hposition : t.position with
  | none => rw [Step.written_of_none hposition]
  | some n =>
    have hjoined : t.written '[' ']' = joined '[' t.name.toList [(toString n).toList ++ [']']] := by
      rw [Step.written_of_some hposition, Text.joined_cons, Text.joined_nil]
    rw [hjoined, Text.prefix_joined_iff (by decide)]

/-! ## Reading -/

/-- A dot is exchanged for a slash. -/
def slash (c : Char) : Char :=
  if c = '.' then '/' else c

/-- Without dots nothing becomes a slash. -/
theorem map_slash_of_not_mem (hcs : '.' ∉ cs) : cs.map slash = cs := by
  apply Text.map_eq_self
  intro c hc
  have hne : c ≠ '.' := fun h => hcs (h ▸ hc)
  rw [slash, if_neg hne]

/-- What was joined by dots is joined by slashes then. -/
theorem map_slash_joined {q : List Char} {qs : List (List Char)} (hq : '.' ∉ q)
    (hqs : ∀ p ∈ qs, '.' ∉ p) : (joined '.' q qs).map slash = joined '/' q qs := by
  rw [Text.map_joined, map_slash_of_not_mem hq,
    Text.map_eq_self fun p hp => map_slash_of_not_mem (hqs p hp)]
  rfl

/-- Taking a mark out leaves a slash for each part that does not start with it. -/
theorem count_slash_remade {mark : List Char} {qs : List (List Char)}
    (hqs : ∀ q ∈ qs, '.' ∉ q ∧ '/' ∉ q) :
    ((qs.flatMap (remade '.' mark [])).map slash).count '/' = qs.countP fun q => ¬ mark <+: q := by
  induction qs with
  | nil => rfl
  | cons q qs ih =>
    obtain ⟨⟨hdot, hslash⟩, hqs⟩ := List.forall_mem_cons.mp hqs
    rw [List.flatMap_cons, List.map_append, List.count_append, ih hqs, List.countP_cons,
      Nat.add_comm]
    congr 1
    -- only a part that starts with the mark loses the dot in front of it
    by_cases h : mark <+: q
    · obtain ⟨ds, rfl⟩ := h
      have hds : '.' ∉ ds := fun hmem => hdot (List.mem_append_right _ hmem)
      have hds' : '/' ∉ ds := fun hmem => hslash (List.mem_append_right _ hmem)
      simp [remade, map_slash_of_not_mem hds, List.count_eq_zero.mpr hds']
    · simp [Text.remade_of_not_starts h, map_slash_of_not_mem hdot, slash, h,
        List.count_eq_zero.mpr hslash]

/-- Where a mark is taken out, a slash is missing. -/
theorem count_slash_remade_lt {mark q : List Char} {qs : List (List Char)}
    (hqs : ∀ q ∈ qs ++ [mark], '.' ∉ q ∧ '/' ∉ q) (hq : q ∈ qs) (hmark : mark <+: q) :
    (((qs ++ [mark]).flatMap (remade '.' mark [])).map slash).count '/' < qs.length := by
  have hlast : [mark].countP (fun q => ¬ mark <+: q) = 0 := by simp
  rw [count_slash_remade hqs, List.countP_append, hlast, Nat.add_zero]
  refine Nat.lt_of_le_of_ne List.countP_le_length fun hall => ?_
  rw [List.countP_eq_length] at hall
  exact of_decide_eq_true (hall q hq) hmark

/-- With a mark of attributes that mark becomes the sign of attributes. -/
theorem pathText_of_attribute {p : Parameter} (h : Text.hasPiece attributeMark p.bracketed = true) :
    p.pathText = (Text.replaceAll attributeMark ['/', '@'] p.bracketed).map slash := by
  simp only [pathText, h, if_true]
  rfl

/-- Without a mark of attributes the mark of contents is taken out. -/
theorem pathText_of_no_attribute {p : Parameter}
    (h : Text.hasPiece attributeMark p.bracketed = false) :
    p.pathText = (Text.replaceAll contentMark [] p.bracketed).map slash := by
  simp only [pathText, h, Bool.false_eq_true, if_false]
  rfl

/-- A parameter has the path that its text is read as. -/
theorem path_eq_ok_iff {p : Parameter} {path : Path} :
    p.path = .ok path ↔ Path.readChars p.pathText = .ok path := by
  rw [Parameter.path, Path.read_eq_ok_iff, String.toList_ofList]

section Kinds

variable (hr : r.Simple) (hsteps : r.steps = s :: steps) (id : String)
include hr hsteps

/-- A reference that ends at an attribute is kept if its positions fit. -/
theorem keptBy_iff_of_attribute {a : String} (he : r.ending = some (.atAttribute a)) :
    r.KeptBy ⟨id, name, r.written⟩ ↔ ∀ t ∈ r.steps, t.Fits := by
  obtain ⟨hfirst, hall⟩ := not_mem_parts hr hsteps (c := '.') (by decide)
  have hbracketed := bracketed_written hr hsteps id name
  rw [parts, he, Ending.parts] at hbracketed hall
  have hwritten : ∀ q ∈ steps.map (Step.written '[' ']'), '.' ∉ q ∧ q ≠ "ATTRIBUTE".toList := by
    intro q hq
    refine ⟨hall q (List.mem_append_left _ hq), ?_⟩
    obtain ⟨t, ht, rfl⟩ := List.mem_map.mp hq
    exact written_ne_attribute hr hsteps ht
  have ha : '.' ∉ a.toList := hall _ (by simp)
  -- no step is written as the mark, so it is found behind all of them
  have hhas : Text.hasPiece attributeMark (⟨id, name, r.written⟩ : Parameter).bracketed = true := by
    rw [hbracketed, attributeMark_eq, Text.hasPiece,
      Text.cutAtPiece_enclosed (by decide) hfirst hwritten]
    rfl
  have hpath : (⟨id, name, r.written⟩ : Parameter).pathText =
      joined '/' (s.written '[' ']') (steps.map (Step.written '[' ']') ++ ['@' :: a.toList]) := by
    rw [pathText_of_attribute hhas, hbracketed, attributeMark_eq,
      Text.replaceAll_enclosed (by decide) hfirst hwritten ha, List.map_append, List.map_append,
      map_slash_joined hfirst fun q hq => (hwritten q hq).1, map_slash_of_not_mem ha,
      Text.joined_append, List.append_assoc, List.flatMap_singleton]
    rfl
  have hkind : (⟨id, name, r.written⟩ : Parameter).kind = .value := by
    rw [kind, hhas, Bool.true_or, if_pos rfl]
  have hattribute : r.attribute? = some a := by rw [attribute?, he]
  have hsimple := hr.ending a he
  have hchars : ∀ q ∈ ['@' :: a.toList], '/' ∉ q ∧ ∀ c ∈ q, Text.isBlank c = false := by
    intro q hq
    obtain rfl := List.mem_singleton.mp hq
    refine ⟨?_, ?_⟩
    · rw [List.mem_cons, not_or]
      exact ⟨by decide, not_mem_of_isPartChar hsimple.isPartChar (by decide)⟩
    · rw [List.forall_mem_cons]
      exact ⟨by decide, fun c hc => isBlank_of_isPartChar (hsimple.isPartChar c hc)⟩
  rw [KeptBy, path_eq_ok_iff, hpath, hkind, he, hattribute, readChars_steps hr hsteps
    (Path.readSegments_attribute hsimple.isPlainName) hchars]
  exact and_iff_left rfl

/-- The mark for an attribute is in the reference only if it ends at one. -/
theorem hasPiece_attributeMark_of_ne (he : ∀ a, r.ending ≠ some (.atAttribute a)) :
    Text.hasPiece attributeMark (⟨id, name, r.written⟩ : Parameter).bracketed = false := by
  obtain ⟨hfirst, hall⟩ := not_mem_parts hr hsteps (c := '.') (by decide)
  have hne : ∀ q ∈ parts steps r.ending, '.' ∉ q ∧ q ≠ "ATTRIBUTE".toList := by
    intro q hq
    refine ⟨hall q hq, ?_⟩
    rcases List.mem_append.mp hq with hq | hq
    · obtain ⟨t, ht, rfl⟩ := List.mem_map.mp hq
      exact written_ne_attribute hr hsteps ht
    · rcases hending : r.ending with _ | a | _
      · rw [hending] at hq
        cases hq
      · exact absurd hending (he a)
      · rw [hending] at hq
        rw [List.mem_singleton.mp hq]
        decide
  rw [bracketed_written hr hsteps, attributeMark_eq, Text.hasPiece,
    Text.cutAtPiece_enclosed_eq_none (by decide) hfirst hne]
  rfl

/-- A reference that does not end at an attribute asks for a value if a part starts with the mark for
the content. -/
theorem kind_eq_value_iff (he : ∀ a, r.ending ≠ some (.atAttribute a)) :
    (⟨id, name, r.written⟩ : Parameter).kind = .value ↔
      ∃ q ∈ parts steps r.ending, "CONTENT".toList <+: q := by
  obtain ⟨hfirst, hall⟩ := not_mem_parts hr hsteps (c := '.') (by decide)
  rw [kind, hasPiece_attributeMark_of_ne hr hsteps id he, Bool.false_or,
    bracketed_written hr hsteps, contentMark_eq,
    ← Text.hasPiece_joined_iff (by decide) hfirst hall]
  cases Text.hasPiece ('.' :: "CONTENT".toList) (joined '.' (s.written '[' ']')
    (parts steps r.ending)) <;> simp

/-- Then the mark is taken out of all these parts. -/
theorem pathText_written (he : ∀ a, r.ending ≠ some (.atAttribute a)) :
    (⟨id, name, r.written⟩ : Parameter).pathText = (s.written '[' ']' ++
      (parts steps r.ending).flatMap (remade '.' "CONTENT".toList [])).map slash := by
  obtain ⟨hfirst, hall⟩ := not_mem_parts hr hsteps (c := '.') (by decide)
  rw [pathText_of_no_attribute (hasPiece_attributeMark_of_ne hr hsteps id he),
    bracketed_written hr hsteps, contentMark_eq, Text.replaceAll_joined (by decide) hfirst hall]

/-- Where no step behind the first starts with the mark, the steps stay as they are. -/
theorem pathText_of_unmarked (he : ∀ a, r.ending ≠ some (.atAttribute a))
    (hmark : ∀ t ∈ steps, ¬ "CONTENT".toList <+: t.name.toList) :
    (⟨id, name, r.written⟩ : Parameter).pathText =
      joined '/' (s.written '[' ']') (steps.map (Step.written '[' ']')) := by
  obtain ⟨hfirst, hall⟩ := not_mem_parts hr hsteps (c := '.') (by decide)
  have hwritten : ∀ q ∈ steps.map (Step.written '[' ']'), ¬ "CONTENT".toList <+: q := by
    intro q hq
    obtain ⟨t, ht, rfl⟩ := List.mem_map.mp hq
    rw [content_prefix_written_iff]
    exact hmark t ht
  have hending : (Ending.parts r.ending).flatMap (remade '.' "CONTENT".toList []) = [] := by
    rcases hending : r.ending with _ | a | _
    · rfl
    · exact absurd hending (he a)
    · rw [Ending.parts, List.flatMap_singleton, Text.remade_self]
  rw [pathText_written hr hsteps id he, parts, List.flatMap_append, hending, List.append_nil,
    Text.flatMap_remade_of_not_starts hwritten]
  exact map_slash_joined hfirst fun q hq => hall q (List.mem_append_left _ hq)

/-- Where a step behind the first starts with the mark, there is one slash too few. -/
theorem count_pathText_lt (he : r.ending = some .atContent) {t : Step} (ht : t ∈ steps)
    (hmark : "CONTENT".toList <+: t.name.toList) :
    (⟨id, name, r.written⟩ : Parameter).pathText.count '/' < steps.length := by
  obtain ⟨hdot, hdots⟩ := not_mem_parts hr hsteps (c := '.') (by decide)
  obtain ⟨hslash, hslashes⟩ := not_mem_parts hr hsteps (c := '/') (by decide)
  have hparts : parts steps r.ending = steps.map (Step.written '[' ']') ++ ["CONTENT".toList] := by
    rw [parts, he, Ending.parts]
  have hchars : ∀ q ∈ parts steps r.ending, '.' ∉ q ∧ '/' ∉ q := fun q hq =>
    ⟨hdots q hq, hslashes q hq⟩
  have hmarked : "CONTENT".toList <+: t.written '[' ']' := content_prefix_written_iff.mpr hmark
  have htext : (⟨id, name, r.written⟩ : Parameter).pathText = (s.written '[' ']' ++
      (parts steps r.ending).flatMap (remade '.' "CONTENT".toList [])).map slash :=
    pathText_written hr hsteps id fun a h => by rw [he] at h; cases h
  rw [hparts] at hchars htext
  have hcount := count_slash_remade_lt hchars (List.mem_map_of_mem ht) hmarked
  rw [List.length_map] at hcount
  rwa [htext, List.map_append, List.count_append, map_slash_of_not_mem hdot,
    List.count_eq_zero.mpr hslash, Nat.zero_add]

/-- A reference that does not end at an attribute is kept if no step behind the first starts with the
mark for the content and the positions fit. -/
theorem keptBy_iff_of_no_attribute (he : ∀ a, r.ending ≠ some (.atAttribute a)) :
    r.KeptBy ⟨id, name, r.written⟩ ↔
      (∀ t ∈ steps, ¬ "CONTENT".toList <+: t.name.toList) ∧ ∀ t ∈ r.steps, t.Fits := by
  have hattribute : r.attribute? = none := by
    rcases hending : r.ending with _ | a | _
    · rw [attribute?, hending]
    · exact absurd hending (he a)
    · rw [attribute?, hending]
  by_cases hmark : ∀ t ∈ steps, ¬ "CONTENT".toList <+: t.name.toList
  · have hread : Path.readChars (joined '/' (s.written '[' ']')
        (steps.map (Step.written '[' ']') ++ [])) = .ok ⟨r.steps, none⟩ ↔ ∀ t ∈ r.steps, t.Fits :=
      readChars_steps hr hsteps rfl fun q hq => absurd hq List.not_mem_nil
    rw [List.append_nil] at hread
    -- without the word in the steps the path is that of the steps, and the ending tells the kind
    have hkind : (⟨id, name, r.written⟩ : Parameter).kind =
        if r.ending.isSome then .value else .presence := by
      have hvalue : (⟨id, name, r.written⟩ : Parameter).kind = .value ↔
          ∃ q ∈ parts steps r.ending, "CONTENT".toList <+: q := kind_eq_value_iff hr hsteps id he
      rcases hending : r.ending with _ | a | _
      · have hnot : ¬ (⟨id, name, r.written⟩ : Parameter).kind = .value := by
          rw [hvalue]
          rintro ⟨q, hq, hstarts⟩
          rw [parts, hending, Ending.parts, List.append_nil] at hq
          obtain ⟨t, ht, rfl⟩ := List.mem_map.mp hq
          exact hmark t ht (content_prefix_written_iff.mp hstarts)
        rcases hkind : (⟨id, name, r.written⟩ : Parameter).kind with _ | _
        · exact absurd hkind hnot
        · rfl
      · exact absurd hending (he a)
      · refine hvalue.mpr ⟨"CONTENT".toList, ?_, List.prefix_refl _⟩
        rw [parts, hending]
        exact List.mem_append_right _ (List.mem_singleton_self _)
    rw [KeptBy, path_eq_ok_iff, pathText_of_unmarked hr hsteps id he hmark, hattribute, hread]
    exact ⟨fun h => ⟨hmark, h.1⟩, fun h => ⟨h.2, hkind⟩⟩
  · -- without an ending the kind is wrong, and with one the path is too short for the steps
    refine iff_of_false ?_ fun h => hmark h.1
    rintro ⟨hpath, hkind⟩
    obtain ⟨t, ht, hmark⟩ : ∃ t ∈ steps, "CONTENT".toList <+: t.name.toList := by
      by_contra h
      exact hmark fun t ht hmark => h ⟨t, ht, hmark⟩
    rcases hending : r.ending with _ | a | _
    · have hvalue : (⟨id, name, r.written⟩ : Parameter).kind = .value := by
        refine (kind_eq_value_iff hr hsteps id he).mpr ⟨t.written '[' ']', ?_, ?_⟩
        · exact List.mem_append_left _ (List.mem_map_of_mem ht)
        · rwa [content_prefix_written_iff]
      rw [hvalue, hending] at hkind
      cases hkind
    · exact he a hending
    · have hcount : (⟨id, name, r.written⟩ : Parameter).pathText.count '/' < steps.length :=
        count_pathText_lt hr hsteps id hending ht hmark
      have hlength := Path.length_steps_le_of_readChars (path_eq_ok_iff.mp hpath)
      rw [hsteps, List.length_cons] at hlength
      omega

end Kinds

/-- A simple reference stands for the steps, the positions and the attribute that it is written from
exactly if its positions fit into a word and it ends at an attribute or has no step behind the first
whose name starts with the mark for the content. -/
theorem keptBy_iff (hr : r.Simple) (id name : String) :
    r.KeptBy ⟨id, name, r.written⟩ ↔
      ((∃ a, r.ending = some (.atAttribute a)) ∨
        ∀ t ∈ r.steps.tail, ¬ "CONTENT".toList <+: t.name.toList) ∧ ∀ t ∈ r.steps, t.Fits := by
  obtain ⟨s, steps, hsteps⟩ := List.exists_cons_of_ne_nil hr.steps
  by_cases he : ∃ a, r.ending = some (.atAttribute a)
  · obtain ⟨a, ha⟩ := he
    rw [keptBy_iff_of_attribute hr hsteps id ha]
    exact ⟨fun hfits => ⟨Or.inl ⟨a, ha⟩, hfits⟩, fun h => h.2⟩
  · rw [keptBy_iff_of_no_attribute hr hsteps id fun a ha => he ⟨a, ha⟩, or_iff_right he, hsteps,
      List.tail_cons]

/-- The contents of a box in the second shelf. -/
def shelved : Reference :=
  ⟨[⟨"shelf", some 2⟩, ⟨"box", none⟩, ⟨"CONTENTS", none⟩], some (.atAttribute "CONTENT")⟩

/-- A reference that ends in an attribute keeps the word of contents in its parts. -/
theorem shelved_kept :
    shelved.written = "shelf{2}.box.CONTENTS.ATTRIBUTE.CONTENT" ∧ shelved.Simple ∧
      shelved.KeptBy ⟨"P", "contents", shelved.written⟩ := by
  have hsimple : shelved.Simple := by decide +kernel
  refine ⟨by decide +kernel, hsimple, (keptBy_iff hsimple "P" "contents").mpr ?_⟩
  exact ⟨Or.inl ⟨"CONTENT", rfl⟩, by decide⟩

/-- The contents of a box, with nothing behind the steps. -/
def boxed : Reference :=
  ⟨[⟨"box", none⟩, ⟨"CONTENTS", none⟩], none⟩

/-- The start of a longer name is taken for the mark: what is left is one step, for a value. -/
theorem boxed_not_kept :
    boxed.written = "box.CONTENTS" ∧ boxed.Simple ∧
      (⟨"P", "contents", boxed.written⟩ : Parameter).path = .ok ⟨[⟨"boxS", none⟩], none⟩ ∧
      (⟨"P", "contents", boxed.written⟩ : Parameter).kind = .value ∧
      ¬ boxed.KeptBy ⟨"P", "contents", boxed.written⟩ := by
  have hpath : (⟨"P", "contents", boxed.written⟩ : Parameter).path =
      .ok ⟨[⟨"boxS", none⟩], none⟩ := by decide +kernel
  refine ⟨by decide +kernel, by decide +kernel, hpath, by decide +kernel, ?_⟩
  rintro ⟨hkept, -⟩
  rw [hpath] at hkept
  revert hkept
  decide

end Reference

end GuidedXml.Parameter
