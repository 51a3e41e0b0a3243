/-
# Building patterns

The reader puts patterns together in a form that takes little room: empty parts of a sequence are
left out, branches of branches are flattened, branches of one character each become a set, and what
matches no character is not repeated. None of this matters to what matches.

The main statements say where a sequence, branches and a repetition that are put together lead.
-/
import GuidedXml.Pattern.Basic

namespace GuidedXml.Pattern

variable {text : Array Char} {p : Pattern} {ps : List Pattern} {s : CharSet} {places : List Nat}
  {i : Nat}

/-! ## Sequences -/

/-- A sequence leads from where its first part led. -/
theorem advance_seqAll (text : Array Char) (ps : List Pattern) (places : List Nat) :
    advance text (seqAll ps) places = ps.foldl (fun places p => advance text p places) places := by
  fun_induction seqAll ps generalizing places with
  | case1 => rfl
  | case2 ps ih => exact ih places
  | case3 p ps _ hrest ih =>
    have hnil : ∀ places, advance text (seqAll ps) places = places := fun places => by
      rw [hrest]
      rfl
    rw [List.foldl_cons, ← ih, hnil]
  | case4 p ps _ _ ih => rw [List.foldl_cons, ← ih, advance]

/-! ## Branches -/

/-- An alternative leads to where either of its branches does. -/
theorem mem_advance_alt {q : Pattern} :
    i ∈ advance text (alt p q) places ↔ i ∈ advance text p places ∨ i ∈ advance text q places := by
  simp [advance]

/-- A pattern leads where one of its branches does. -/
theorem mem_advance_branches :
    i ∈ advance text p places ↔ ∃ q ∈ p.branches, i ∈ advance text q places := by
  induction p with
  | alt p q ihp ihq =>
    rw [mem_advance_alt, ihp, ihq, branches]
    simp only [List.mem_append, or_and_right, exists_or]
  | _ => simp [branches]

/-- A list of alternatives leads to where one of them does. -/
theorem mem_advance_altList (h : ps ≠ []) :
    i ∈ advance text (altList ps) places ↔ ∃ p ∈ ps, i ∈ advance text p places := by
  fun_induction altList ps with
  | case1 => exact absurd rfl h
  | case2 p => simp
  | case3 p ps hps ih => rw [mem_advance_alt, ih (by simpa using hps)]; simp

/-- A set leads behind every character of it. -/
theorem mem_advance_chars :
    i ∈ advance text (chars s) places ↔ ∃ j ∈ places, ∃ c, text[j]? = some c ∧ s.contains c ∧ j + 1 = i := by
  simp only [advance, List.mem_map, List.mem_filter]
  constructor
  · rintro ⟨j, ⟨hj, hc⟩, rfl⟩
    cases htext : text[j]? with
    | none => simp [htext] at hc
    | some c => exact ⟨j, hj, c, htext, by simpa [htext] using hc, rfl⟩
  · rintro ⟨j, hj, c, htext, hc, rfl⟩
    exact ⟨j, ⟨hj, by simpa [htext] using hc⟩, rfl⟩

/-- A union of sets leads to where one of them does. -/
theorem mem_advance_chars_unions {ss : List CharSet} :
    i ∈ advance text (chars (CharSet.unions ss)) places ↔
      ∃ s ∈ ss, i ∈ advance text (chars s) places := by
  simp only [mem_advance_chars, CharSet.contains_unions, List.any_eq_true]
  constructor
  · rintro ⟨j, hj, c, htext, ⟨s, hs, hc⟩, rfl⟩
    exact ⟨s, hs, j, hj, c, htext, hc, rfl⟩
  · rintro ⟨s, hs, j, hj, c, htext, hc, rfl⟩
    exact ⟨j, hj, c, htext, ⟨s, hs, hc⟩, rfl⟩

/-- Branches that are joined to a set are sets, and the set is their union. -/
theorem exists_sets_of_joined (h : joined? ps = some s) :
    ∃ ss : List CharSet, ps = ss.map chars ∧ s = CharSet.unions ss := by
  have hsets : ∀ {ps : List Pattern} {ss : List CharSet}, ps.mapM chars? = some ss →
      ps = ss.map chars := by
    intro ps
    induction ps with
    | nil => simp +contextual
    | cons p ps ih =>
      intro ss hss
      rw [List.mapM_cons] at hss
      cases p with
      | chars t =>
        obtain ⟨rest, hrest, rfl⟩ : ∃ rest, ps.mapM chars? = some rest ∧ t :: rest = ss := by
          simpa [chars?, Option.bind_eq_some_iff] using hss
        rw [ih hrest, List.map_cons]
      | _ => simp [chars?] at hss
  rw [joined?] at h
  split at h
  · next t ss hss =>
    split at h
    · exact ⟨t :: ss, hsets hss, (Option.some.inj h).symm⟩
    · cases h
  · cases h

theorem branches_ne_nil (p : Pattern) : p.branches ≠ [] := by
  induction p with
  | alt p q ihp _ => simp [branches, ihp]
  | _ => simp [branches]

/-- Branches that are put together lead where one of them does. -/
theorem mem_advance_altAll (h : ps ≠ []) :
    i ∈ advance text (altAll ps) places ↔ ∃ p ∈ ps, i ∈ advance text p places := by
  have hall : (∃ q ∈ ps.flatMap branches, i ∈ advance text q places) ↔
      ∃ p ∈ ps, i ∈ advance text p places := by
    constructor
    · rintro ⟨q, hq, hi⟩
      obtain ⟨p, hp, hqp⟩ := List.mem_flatMap.mp hq
      exact ⟨p, hp, mem_advance_branches.mpr ⟨q, hqp, hi⟩⟩
    · rintro ⟨p, hp, hi⟩
      obtain ⟨q, hq, hi⟩ := mem_advance_branches.mp hi
      exact ⟨q, List.mem_flatMap.mpr ⟨p, hp, hq⟩, hi⟩
  rw [← hall, altAll]
  split
  · next s hs =>
    obtain ⟨ss, hss, rfl⟩ := exists_sets_of_joined hs
    rw [hss, mem_advance_chars_unions]
    exact ⟨fun ⟨s, hs, hi⟩ => ⟨_, List.mem_map_of_mem hs, hi⟩, fun ⟨q, hq, hi⟩ => by
      obtain ⟨s, hs, rfl⟩ := List.mem_map.mp hq
      exact ⟨s, hs, hi⟩⟩
  · refine mem_advance_altList fun hnil => ?_
    obtain ⟨p, hp⟩ := List.exists_mem_of_ne_nil ps h
    exact branches_ne_nil p (List.flatMap_eq_nil_iff.mp hnil p hp)

/-! ## Repetitions -/

/-- Nothing spreads where every step leads back. -/
theorem spread_of_subset {step : List Nat → List Nat} {n : Nat} {newest seen : List Nat}
    (h : step newest ⊆ seen) : spread step n newest seen = seen := by
  have hnew : (step newest).filter (fun i => !seen.contains i) = [] := by
    rw [List.filter_eq_nil_iff]
    intro i hi
    simpa using h hi
  cases n with
  | zero => rfl
  | succ n => simp only [spread, hnew, List.isEmpty_nil, if_true]

theorem iterate_nil (step : List Nat → List Nat) (n : Nat) : iterate step n [] = [] := by
  cases n <;> rfl

/-- From nowhere nothing leads anywhere. -/
theorem advance_nil (text : Array Char) (p : Pattern) : advance text p [] = [] := by
  induction p with
  | empty | chars _ | look _ => rfl
  | group p ih => exact ih
  | seq p q ihp ihq => rw [advance, ihp, ihq]
  | alt p q ihp ihq => rw [advance, ihp, ihq]; rfl
  | rep p min max ih =>
    show spread _ _ (iterate _ min []) (iterate _ min []) = []
    rw [iterate_nil]
    exact spread_of_subset (by simp [ih])

section Narrow

variable {step : List Nat → List Nat} {P : Nat → Prop}

/-- A step that only tells places apart does so once or not at all. -/
theorem mem_iterate (hstep : ∀ places i, i ∈ step places ↔ i ∈ places ∧ P i) (n : Nat) :
    i ∈ iterate step n places ↔ i ∈ places ∧ (n = 0 ∨ P i) := by
  induction n generalizing places with
  | zero => simp [iterate]
  | succ n ih =>
    rw [iterate]
    split
    · next h => simp [List.isEmpty_iff.mp h]
    · rw [ih, hstep, and_assoc]
      refine and_congr_right fun _ => ?_
      simp only [Nat.succ_ne_zero, false_or]
      exact and_iff_left_of_imp fun h => .inr h

/-- Of places that a step can only drop, those are reached that it keeps. -/
theorem mem_spread_iterate (hstep : ∀ places i, i ∈ step places ↔ i ∈ places ∧ P i) (n k : Nat) :
    i ∈ spread step k (iterate step n places) (iterate step n places) ↔
      i ∈ places ∧ (n = 0 ∨ P i) := by
  rw [spread_of_subset fun i hi => ((hstep _ i).mp hi).1, mem_iterate hstep]

/-- A pattern without characters keeps the places of one kind. -/
theorem exists_kept (text : Array Char) (hp : p.isNarrow = true) :
    ∃ P : Nat → Prop, ∀ places i, i ∈ advance text p places ↔ i ∈ places ∧ P i := by
  induction p with
  | empty => exact ⟨fun _ => True, by simp [advance]⟩
  | chars s => cases hp
  | look l => exact ⟨fun i => l.holds (charBefore? text i) text[i]? = true, by simp [advance]⟩
  | group p ih => exact ih hp
  | seq p q ihp ihq =>
    rw [isNarrow, Bool.and_eq_true] at hp
    obtain ⟨P, hP⟩ := ihp hp.1
    obtain ⟨Q, hQ⟩ := ihq hp.2
    exact ⟨fun i => P i ∧ Q i, fun places i => by rw [advance, hQ, hP, and_assoc]⟩
  | alt p q ihp ihq =>
    rw [isNarrow, Bool.and_eq_true] at hp
    obtain ⟨P, hP⟩ := ihp hp.1
    obtain ⟨Q, hQ⟩ := ihq hp.2
    exact ⟨fun i => P i ∨ Q i, fun places i => by rw [mem_advance_alt, hQ, hP, and_or_left]⟩
  | rep p min max ih =>
    obtain ⟨P, hP⟩ := ih hp
    exact ⟨fun i => min = 0 ∨ P i, fun places i => mem_spread_iterate hP min _⟩

end Narrow

/-- One match is the pattern itself. -/
theorem advance_once (text : Array Char) (p : Pattern) (places : List Nat) :
    advance text (rep p 1 (some 1)) places = advance text p places := by
  cases places with
  | nil => rw [advance_nil, advance_nil]
  | cons j js => simp [advance, iterate, spread]

/-- A repetition that is put together leads where it leads as it is written. -/
theorem mem_advance_repeated {min : Nat} {max : Option Nat} (h : ∀ m, max = some m → min ≤ m) :
    i ∈ advance text (p.repeated min max) places ↔ i ∈ advance text (rep p min max) places := by
  by_cases hp : p.isNarrow
  · obtain ⟨P, hP⟩ := exists_kept text hp
    have hrep : ∀ min max, i ∈ advance text (rep p min max) places ↔
        i ∈ places ∧ (min = 0 ∨ P i) := fun min _ => mem_spread_iterate hP min _
    rw [hrep]
    rcases Nat.eq_zero_or_pos min with rfl | hmin
    · -- not at all is always possible, so that every place is kept
      rcases max with _ | _ | m
      · simp [repeated, hp, hrep]
      · simp [repeated, hp, advance]
      · simp [repeated, hp, hrep]
    · have hone : p.repeated min max = p := by
        have hmax : Nat.min (max.getD 1) 1 = 1 := by
          cases max with
          | none => rfl
          | some m => exact Nat.min_eq_right (Nat.le_trans hmin (h m rfl))
        have hleast : Nat.min min 1 = 1 := Nat.min_eq_right hmin
        simp [repeated, hp, hmax, hleast]
      rw [hone, hP]
      simp [Nat.pos_iff_ne_zero.mp hmin]
  · rw [repeated, if_neg hp]
    split
    · next heq =>
      obtain ⟨rfl, rfl⟩ := Prod.mk.inj heq
      rfl
    · next heq =>
      obtain ⟨rfl, rfl⟩ := Prod.mk.inj heq
      rw [advance_once]
    · next heq =>
      obtain ⟨rfl, rfl⟩ := Prod.mk.inj heq
      rfl

end GuidedXml.Pattern
