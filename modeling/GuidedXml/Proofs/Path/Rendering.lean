/-
# Rendered paths

One path can be written in many ways: with blanks around it or around a position, with or without
the slash at its start, with a sign or zeros before a position. Its rendered form has a slash before
every part and positions in plain digits.

The main statement says that the rendered form of a path that was read is read as the same path. So
texts that are read are rendered alike exactly if they are read as the same path.
-/
import GuidedXml.Proofs.Path.Reading

namespace GuidedXml.Path

open Markup (IsPlainName)
open Text (joined)

variable {cs : List Char} {segments : List (List Char)} {s : Step} {p : Path} {name text : String}
  {n : Nat}

/-! ## Paths that are read -/

/-- What a path is that a text can write: there are steps, names are plain, and positions count from
one and fit into a word. -/
structure Readable (p : Path) : Prop where
  steps : p.steps ≠ []
  proper : ∀ s ∈ p.steps, s.Proper
  fits : ∀ s ∈ p.steps, s.Fits
  ending : ∀ a, p.ending = some a → IsPlainName a

/-- A name that is read is plain. -/
theorem isPlainName_of_readName (h : readName cs = .ok name) : IsPlainName name := by
  unfold readName at h
  split_ifs at h with hname
  obtain rfl := Except.ok.inj h
  rw [Bool.and_eq_true, List.all_eq_true] at hname
  refine ⟨?_, ?_⟩
  · simpa using hname.1
  · simpa using hname.2

/-- A number that is read is not above the greatest one. -/
theorem readNat?_le {max : Nat} (h : Number.readNat? max cs = some n) : n ≤ max := by
  unfold Number.readNat? at h
  exact of_decide_eq_true (Option.filter_eq_some_iff.mp h).2

/-- A position that is read fits into 64 bits. -/
theorem readPosition_le (h : readPosition cs = .ok n) : n ≤ Number.maxWord64 := by
  unfold readPosition at h
  split at h
  · cases h
  · cases h
  · next m hm =>
    obtain rfl := Except.ok.inj h
    exact readNat?_le hm

/-- A step that was read has a plain name and a position that fits. -/
theorem proper_of_readStep (h : readStep cs = .ok s) : s.Proper ∧ s.Fits := by
  have hposition := readStep_position_ne_zero h
  unfold readStep at h
  split at h
  · obtain ⟨name, hname, rfl⟩ := map_eq_ok_iff.mp h
    exact ⟨⟨isPlainName_of_readName hname, hposition⟩, fun n hn => by cases hn⟩
  · split at h
    · cases h
    · split at h
      · cases h
      · next m hm =>
        obtain ⟨name, hname, rfl⟩ := map_eq_ok_iff.mp h
        refine ⟨⟨isPlainName_of_readName hname, hposition⟩, fun n hn => ?_⟩
        obtain rfl := Option.some.inj hn
        exact readPosition_le hm

/-- What was read from segments has proper steps, and an attribute with a plain name. -/
theorem proper_of_readSegments (h : readSegments segments = .ok p) :
    (∀ s ∈ p.steps, s.Proper ∧ s.Fits) ∧ ∀ a, p.ending = some a → IsPlainName a := by
  induction segments generalizing p with
  | nil =>
    obtain rfl := Except.ok.inj h
    exact ⟨fun s hs => absurd hs List.not_mem_nil, fun a ha => by cases ha⟩
  | cons q segments ih =>
    by_cases hq : q.head? = some '@'
    · obtain ⟨name, rfl⟩ := List.head?_eq_some_iff.mp hq
      rw [readSegments] at h
      split at h
      · obtain ⟨a, ha, rfl⟩ := map_eq_ok_iff.mp h
        refine ⟨fun s hs => absurd hs List.not_mem_nil, fun b hb => ?_⟩
        obtain rfl := Option.some.inj hb
        exact isPlainName_of_readName ha
      · cases h
    · obtain ⟨s, p', hs, hrest, rfl⟩ := (readSegments_cons hq).mp h
      obtain ⟨hsteps, hending⟩ := ih hrest
      exact ⟨List.forall_mem_cons.mpr ⟨proper_of_readStep hs, hsteps⟩, hending⟩

/-- A path that is read is readable. -/
theorem readable_of_read (hp : read text = .ok p) : p.Readable := by
  obtain ⟨-, hsegments, hsteps⟩ := readChars_eq_ok_iff.mp (read_eq_ok_iff.mp hp)
  obtain ⟨hproper, hending⟩ := proper_of_readSegments hsegments
  exact ⟨hsteps, fun s hs => (hproper s hs).1, fun s hs => (hproper s hs).2, hending⟩

/-! ## The rendered form -/

/-- The segment of an attribute at the end of a path, if there is one. -/
def lastSegments (ending : Option String) : List (List Char) :=
  ending.toList.map fun a => '@' :: a.toList

/-- In the rendered form there is a slash before every segment. -/
theorem renderChars_eq (p : Path) : p.renderChars =
    (p.steps.map (Step.written '[' ']') ++ lastSegments p.ending).flatMap ('/' :: ·) := by
  obtain ⟨steps, ending⟩ := p
  have hstep : Step.render = fun s => '/' :: s.written '[' ']' := rfl
  rw [renderChars, List.flatMap_append, List.flatMap_map, hstep]
  congr 1
  cases ending with
  | none => rfl
  | some a => simp [lastSegments]

/-- The segments of an ending are read as that ending. -/
theorem readSegments_lastSegments {ending : Option String}
    (h : ∀ a, ending = some a → IsPlainName a) :
    readSegments (lastSegments ending) = .ok ⟨[], ending⟩ := by
  cases ending with
  | none => rfl
  | some a => exact readSegments_attribute (h a rfl)

/-- The segments of a readable path are read as the path. -/
theorem Readable.readSegments (hp : p.Readable) :
    readSegments (p.steps.map (Step.written '[' ']') ++ lastSegments p.ending) = .ok p := by
  refine (readSegments_written hp.proper).mpr ⟨hp.fits, _, readSegments_lastSegments hp.ending, ?_⟩
  simp

/-- Segments of a readable path are made of the characters of names, and of the signs that belong to
a position or to an attribute. -/
theorem Readable.of_mem_segments (hp : p.Readable) {q : List Char}
    (hq : q ∈ p.steps.map (Step.written '[' ']') ++ lastSegments p.ending) {c : Char} (hc : c ∈ q) :
    isNameChar c = true ∨ c = '[' ∨ c = ']' ∨ c = '@' := by
  rcases List.mem_append.mp hq with hq | hq
  · obtain ⟨s, hs, rfl⟩ := List.mem_map.mp hq
    rcases Step.of_mem_written hc with hname | hdigit | hopen | hclose
    · exact Or.inl ((hp.proper s hs).name.all c hname)
    · exact Or.inl (isNameChar_of_isDigit hdigit)
    · exact Or.inr (Or.inl hopen)
    · exact Or.inr (Or.inr (Or.inl hclose))
  · obtain ⟨a, ha, rfl⟩ := List.mem_map.mp hq
    rcases List.mem_cons.mp hc with hat | hname
    · exact Or.inr (Or.inr (Or.inr hat))
    · exact Or.inl ((hp.ending a (Option.mem_toList.mp ha)).all c hname)

/-- No character of a readable path is blank. -/
theorem Readable.isBlank_of_mem (hp : p.Readable) {q : List Char}
    (hq : q ∈ p.steps.map (Step.written '[' ']') ++ lastSegments p.ending) {c : Char} (hc : c ∈ q) :
    Text.isBlank c = false := by
  rcases hp.of_mem_segments hq hc with hname | rfl | rfl | rfl
  · exact isBlank_of_isNameChar hname
  all_goals decide

/-- No segment of a readable path has a slash. -/
theorem Readable.slash_not_mem (hp : p.Readable) {q : List Char}
    (hq : q ∈ p.steps.map (Step.written '[' ']') ++ lastSegments p.ending) : '/' ∉ q := by
  intro hc
  rcases hp.of_mem_segments hq hc with hname | h | h | h
  · rw [show isNameChar '/' = false by decide +kernel] at hname
    cases hname
  all_goals exact absurd h (by decide)

/-- One slash at the start is left out. -/
theorem readChars_slash (hblank : ∀ c ∈ cs, Text.isBlank c = false) (hslash : cs.head? ≠ some '/') :
    readChars ('/' :: cs) = readChars cs := by
  have hfirst : body ('/' :: cs) = cs := by
    rw [body, Text.trim_eq_self (List.forall_mem_cons.mpr ⟨by decide, hblank⟩)]
    rfl
  have hrest : body cs = cs := by
    rw [body, Text.trim_eq_self hblank]
    split
    · exact absurd rfl hslash
    · rfl
  rw [readChars, readChars, hfirst, hrest]

/-- The rendered form of a readable path is read as the path. -/
theorem Readable.read_render (hp : p.Readable) : read p.render = .ok p := by
  have hread := hp.readSegments
  have hblank := fun q hq c hc => hp.isBlank_of_mem (q := q) hq (c := c) hc
  have hslash := fun q hq => hp.slash_not_mem (q := q) hq
  obtain ⟨s, steps, hsteps⟩ := List.exists_cons_of_ne_nil hp.steps
  rw [read_eq_ok_iff, render, String.toList_ofList, renderChars_eq]
  have hproper : s.Proper := hp.proper s (hsteps ▸ List.mem_cons_self)
  have hne : s.written '[' ']' ≠ [] := hproper.written_ne_nil _ _
  rw [hsteps, List.map_cons, List.cons_append] at hread hblank hslash ⊢
  generalize steps.map (Step.written '[' ']') ++ lastSegments p.ending = qs at hread hblank hslash ⊢
  -- the first segment takes the slash at the start, the others those between segments
  have hjoined : (s.written '[' ']' :: qs).flatMap ('/' :: ·) =
      '/' :: joined '/' (s.written '[' ']') qs := rfl
  have hall : ∀ c ∈ joined '/' (s.written '[' ']') qs, Text.isBlank c = false := by
    intro c hc
    rcases Text.mem_joined hc with rfl | ⟨q, hq, hc⟩
    · decide
    · exact hblank q hq c hc
  obtain ⟨hfirst, hrest⟩ := List.forall_mem_cons.mp hslash
  rw [hjoined, readChars_slash hall, readChars_joined hne hfirst hrest hall]
  · exact ⟨hread, hp.steps⟩
  · rw [Text.head?_joined hne]
    exact fun h => hfirst (List.mem_of_mem_head? h)

/-- A path that was read is read from its rendered form again. So the rendered form is the normal
form of all texts that are read as this path: two texts that are read have the same one exactly if
they are read as the same path. -/
theorem read_render_of_read (hp : read text = .ok p) : read p.render = .ok p ∧
    ∀ {text' : String} {p' : Path}, read text' = .ok p' → (p.render = p'.render ↔ p = p') := by
  have hback := (readable_of_read hp).read_render
  refine ⟨hback, fun {text' p'} hp' => ⟨fun heq => ?_, congrArg render⟩⟩
  have hback' := (readable_of_read hp').read_render
  rw [← heq, hback] at hback'
  exact Except.ok.inj hback'

/-- Blanks, a sign, zeros and the slash at the start are no matter of the path. -/
theorem read_render_box :
    read " box[ +07 ]/@größe " = .ok ⟨[⟨"box", some 7⟩], some "größe"⟩ ∧
    (⟨[⟨"box", some 7⟩], some "größe"⟩ : Path).render = "/box[7]/@größe" ∧
    read "/box[7]/@größe" = .ok ⟨[⟨"box", some 7⟩], some "größe"⟩ := by
  have hread : read " box[ +07 ]/@größe " = .ok ⟨[⟨"box", some 7⟩], some "größe"⟩ := by
    decide +kernel
  have hrender : (⟨[⟨"box", some 7⟩], some "größe"⟩ : Path).render = "/box[7]/@größe" := by
    decide +kernel
  exact ⟨hread, hrender, hrender ▸ (read_render_of_read hread).1⟩

end GuidedXml.Path
