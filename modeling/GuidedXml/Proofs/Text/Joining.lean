/-
# Joined texts

Texts made of parts with a separator between them, and what cutting, splitting, trimming and
replacing find in them.

The main statements say that splitting a joined text gives its parts back, which parts pieces with a
separator in front are found in, and what is left where these pieces are replaced.
-/
import GuidedXml.Text.Blank
import GuidedXml.Text.Cut
import Mathlib.Data.List.Basic
import Mathlib.Data.List.TakeWhile

namespace GuidedXml.Text

variable {sep : Char} {piece new pre p q cs ds : List Char} {ps : List (List Char)}

/-! ## Trimming -/

/-- A text whose ends are not blank is trimmed already. -/
theorem trim_eq_self_of_ends (hfirst : ∀ c, cs.head? = some c → isBlank c = false)
    (hlast : ∀ c, cs.getLast? = some c → isBlank c = false) : trim cs = cs := by
  have hkeep : ∀ ds : List Char, (∀ c, ds.head? = some c → isBlank c = false) →
      ds.dropWhile isBlank = ds := by
    intro ds hds
    cases ds with
    | nil => rfl
    | cons d ds => simp [hds d rfl]
  have hlast' : ∀ c, cs.reverse.head? = some c → isBlank c = false := fun c hc =>
    hlast c (List.head?_reverse ▸ hc)
  rw [trim, trimEnd, trimStart, hkeep cs hfirst, hkeep cs.reverse hlast', List.reverse_reverse]

/-- A text without blanks is trimmed already. -/
theorem trim_eq_self (h : ∀ c ∈ cs, isBlank c = false) : trim cs = cs :=
  trim_eq_self_of_ends (fun c hc => h c (List.mem_of_head? hc))
    fun c hc => h c (List.mem_of_getLast? hc)

theorem trim_sublist (cs : List Char) : (trim cs).Sublist cs :=
  (List.sublist_reverse_iff.mp (List.dropWhile_sublist isBlank)).trans
    (List.dropWhile_sublist isBlank)

/-! ## Splitting -/

theorem cutAt_of_not_mem (h : sep ∉ p) : cutAt sep p = none := by
  induction p with
  | nil => rfl
  | cons c p ih =>
    rw [List.mem_cons, not_or] at h
    rw [cutAt, if_neg (Ne.symm h.1), ih h.2]
    rfl

theorem splitAt_of_not_mem (h : sep ∉ p) : splitAt sep p = [p] := by
  induction p with
  | nil => rfl
  | cons c p ih =>
    rw [List.mem_cons, not_or] at h
    rw [splitAt, if_neg (Ne.symm h.1), ih h.2]

/-- A text is split at its first separator. -/
theorem splitAt_append_cons (h : sep ∉ p) : splitAt sep (p ++ sep :: cs) = p :: splitAt sep cs := by
  induction p with
  | nil => rw [List.nil_append, splitAt, if_pos rfl]
  | cons c p ih =>
    rw [List.mem_cons, not_or] at h
    rw [List.cons_append, splitAt, if_neg (Ne.symm h.1), ih h.2]

/-- A first part, and the other parts with the separator before each. -/
def joined (sep : Char) (p : List Char) (ps : List (List Char)) : List Char :=
  p ++ ps.flatMap (sep :: ·)

@[simp] theorem joined_nil : joined sep p [] = p := by
  simp [joined]

@[simp] theorem joined_cons : joined sep p (q :: ps) = p ++ sep :: joined sep q ps := by
  simp [joined]

theorem map_eq_self {α : Type} {f : α → α} {l : List α} (h : ∀ a ∈ l, f a = a) : l.map f = l :=
  (List.map_congr_left h).trans (List.map_id' l)

/-- Parts are joined one list after the other. -/
theorem joined_append (ps qs : List (List Char)) :
    joined sep p (ps ++ qs) = joined sep p ps ++ qs.flatMap (sep :: ·) := by
  simp [joined]

/-- Empty parts at the end are separators at the end. -/
theorem joined_append_replicate (n : Nat) :
    joined sep p (ps ++ List.replicate n []) = joined sep p ps ++ List.replicate n sep := by
  rw [joined_append]
  congr 1
  induction n with
  | zero => rfl
  | succ n ih => rw [List.replicate_succ, List.replicate_succ, List.flatMap_cons, ih]; rfl

theorem head?_joined (hp : p ≠ []) : (joined sep p ps).head? = p.head? :=
  List.head?_append_of_ne_nil p hp

/-- A text of nonempty parts ends as one of them does. -/
theorem exists_getLast?_joined (h : ∀ q ∈ p :: ps, q ≠ []) :
    ∃ q ∈ p :: ps, (joined sep p ps).getLast? = q.getLast? := by
  induction ps generalizing p with
  | nil => exact ⟨p, List.mem_cons_self, by rw [joined_nil]⟩
  | cons q ps ih =>
    obtain ⟨r, hr, hlast⟩ := ih fun r hr => h r (List.mem_cons_of_mem _ hr)
    refine ⟨r, List.mem_cons_of_mem _ hr, ?_⟩
    have hne : joined sep q ps ≠ [] := by
      have hq : q ≠ [] := h q (by simp)
      simp [joined, hq]
    rw [joined_cons, List.getLast?_append_cons, List.getLast?_cons_of_ne_nil hne, hlast]

theorem joined_eq_intercalate : joined sep p ps = List.intercalate [sep] (p :: ps) := by
  induction ps generalizing p with
  | nil => simp [List.intercalate]
  | cons q ps ih => rw [joined_cons, ih, List.intercalate_cons_cons, List.append_assoc]; rfl

/-- Characters of what was joined are separators or those of the parts. -/
theorem mem_joined {c : Char} (hc : c ∈ joined sep p ps) : c = sep ∨ ∃ q ∈ p :: ps, c ∈ q := by
  induction ps generalizing p with
  | nil =>
    rw [joined_nil] at hc
    exact Or.inr ⟨p, List.mem_singleton_self p, hc⟩
  | cons q ps ih =>
    rw [joined_cons, List.mem_append, List.mem_cons] at hc
    rcases hc with hc | hc | hc
    · exact Or.inr ⟨p, List.mem_cons_self, hc⟩
    · exact Or.inl hc
    · exact (ih hc).imp_right fun ⟨r, hr, hmem⟩ => ⟨r, List.mem_cons_of_mem _ hr, hmem⟩

theorem map_joined (f : Char → Char) :
    (joined sep p ps).map f = joined (f sep) (p.map f) (ps.map (List.map f)) := by
  induction ps generalizing p with
  | nil => simp
  | cons q ps ih => simp [ih]

theorem length_le_length_joined : ps.length ≤ (joined sep p ps).length := by
  induction ps generalizing p with
  | nil => simp
  | cons q ps ih =>
    have := ih (p := q)
    simp only [joined_cons, List.length_cons, List.length_append]
    omega

/-- Splitting a joined text gives its parts back. -/
theorem splitAt_joined (hp : sep ∉ p) (hps : ∀ q ∈ ps, sep ∉ q) :
    splitAt sep (joined sep p ps) = p :: ps := by
  induction ps generalizing p with
  | nil => rw [joined_nil, splitAt_of_not_mem hp]
  | cons q ps ih =>
    obtain ⟨hq, hps⟩ := List.forall_mem_cons.mp hps
    rw [joined_cons, splitAt_append_cons hp, ih hq hps]

/-- There are as many parts as separators, and one more. -/
theorem length_splitAt (sep : Char) (cs : List Char) :
    (splitAt sep cs).length = cs.count sep + 1 := by
  induction cs with
  | nil => rfl
  | cons c cs ih =>
    by_cases hc : c = sep
    · subst hc
      rw [splitAt, if_pos rfl, List.length_cons, ih, List.count_cons_self]
    · obtain ⟨p, ps, hps⟩ := List.exists_cons_of_ne_nil (splitAt_ne_nil sep cs)
      rw [splitAt, if_neg hc, List.count_cons_of_ne hc, ← ih, hps]
      rfl

/-! ## Pieces -/

/-- A piece is dropped from the texts that start with it. -/
theorem dropPiece?_eq_some_iff : dropPiece? piece cs = some ds ↔ cs = piece ++ ds := by
  induction piece generalizing cs with
  | nil => simp [dropPiece?]
  | cons c piece ih =>
    cases cs with
    | nil => simp [dropPiece?]
    | cons d cs =>
      rw [dropPiece?, List.cons_append, List.cons.injEq]
      split
      · next h => simp [ih, h]
      · next h => simp [Ne.symm h]

theorem dropPiece?_eq_none_iff : dropPiece? piece cs = none ↔ ¬ piece <+: cs := by
  rw [Option.eq_none_iff_forall_ne_some]
  constructor
  · rintro h ⟨ds, rfl⟩
    exact h ds (dropPiece?_eq_some_iff.mpr rfl)
  · intro h ds hds
    exact h ⟨ds, (dropPiece?_eq_some_iff.mp hds).symm⟩

/-- A piece with the separator in front is not found within a text without it. -/
theorem cutAtPiece_append_of_not_mem (hp : sep ∉ p) :
    cutAtPiece (sep :: piece) (p ++ cs) =
      (cutAtPiece (sep :: piece) cs).map fun r => (p ++ r.1, r.2) := by
  induction p with
  | nil => simp
  | cons c p ih =>
    rw [List.mem_cons, not_or] at hp
    rw [List.cons_append, cutAtPiece, dropPiece?, if_neg hp.1, ih hp.2, Option.map_map]
    rfl

theorem cutAtPiece_of_not_mem (hp : sep ∉ p) : cutAtPiece (sep :: piece) p = none := by
  rw [← List.append_nil p, cutAtPiece_append_of_not_mem hp]
  rfl

theorem cutAtPiece_sep_append : cutAtPiece (sep :: piece) (sep :: (piece ++ cs)) = some ([], cs) := by
  rw [cutAtPiece, dropPiece?, if_pos rfl, dropPiece?_eq_some_iff.mpr rfl]

theorem cutAtPiece_sep_of_not_starts (h : ¬ piece <+: cs) :
    cutAtPiece (sep :: piece) (sep :: cs) =
      (cutAtPiece (sep :: piece) cs).map fun r => (sep :: r.1, r.2) := by
  rw [cutAtPiece, dropPiece?, if_pos rfl, dropPiece?_eq_none_iff.mpr h]

/-- Replacing leaves alone what cutting passes over. -/
theorem replaceUpTo_append (h : cutAtPiece piece (pre ++ cs) =
    (cutAtPiece piece cs).map fun r => (pre ++ r.1, r.2)) (n : Nat) :
    replaceUpTo n piece new (pre ++ cs) = pre ++ replaceUpTo n piece new cs := by
  cases n with
  | zero => rfl
  | succ n =>
    rw [replaceUpTo, replaceUpTo, h]
    cases cutAtPiece piece cs with
    | none => rfl
    | some r => simp

/-! ## Pieces that start a part -/

/-- A text without the separator starts a joined text if it starts the first part. -/
theorem prefix_joined_iff (hpiece : sep ∉ piece) : piece <+: joined sep q ps ↔ piece <+: q := by
  constructor
  · intro h
    have hq : q <+: joined sep q ps := List.prefix_append _ _
    rcases Nat.le_total piece.length q.length with hle | hle
    · exact List.prefix_of_prefix_length_le h hq hle
    · -- a longer one would go on behind the first part, that is with the separator
      obtain ⟨ds, rfl⟩ := List.prefix_of_prefix_length_le hq h hle
      cases ps with
      | nil => simpa using h
      | cons r ps =>
        rw [joined_cons, List.prefix_append_right_inj] at h
        cases ds with
        | nil => simp
        | cons d ds =>
          obtain ⟨rfl, -⟩ := List.cons_prefix_cons.mp h
          simp at hpiece
  · rintro ⟨ds, rfl⟩
    simp [joined]

/-- A piece that starts no part is not found. -/
theorem hasPiece_joined_iff (hpiece : sep ∉ piece) (hp : sep ∉ p) (hps : ∀ q ∈ ps, sep ∉ q) :
    hasPiece (sep :: piece) (joined sep p ps) = true ↔ ∃ q ∈ ps, piece <+: q := by
  unfold hasPiece
  induction ps generalizing p with
  | nil => simp [cutAtPiece_of_not_mem hp]
  | cons q ps ih =>
    obtain ⟨hq, hps⟩ := List.forall_mem_cons.mp hps
    rw [joined_cons, cutAtPiece_append_of_not_mem hp, Option.isSome_map, List.exists_mem_cons_iff]
    by_cases h : piece <+: joined sep q ps
    · obtain ⟨ds, hds⟩ := h
      rw [← hds, cutAtPiece_sep_append]
      have : piece <+: q := (prefix_joined_iff hpiece).mp ⟨ds, hds⟩
      simp [this]
    · rw [cutAtPiece_sep_of_not_starts h, Option.isSome_map, ih hq hps]
      rw [prefix_joined_iff hpiece] at h
      simp [h]

/-- A part with the separator before it, where the separator and the piece are replaced if the piece
starts the part. -/
def remade (sep : Char) (piece new q : List Char) : List Char :=
  if piece <+: q then new ++ q.drop piece.length else sep :: q

theorem remade_of_not_starts (h : ¬ piece <+: q) : remade sep piece new q = sep :: q := by
  rw [remade, if_neg h]

theorem remade_self : remade sep piece [] piece = [] := by
  rw [remade, if_pos (List.prefix_refl piece), List.drop_length, List.nil_append]

theorem flatMap_remade_of_not_starts (h : ∀ q ∈ ps, ¬ piece <+: q) :
    ps.flatMap (remade sep piece new) = ps.flatMap (sep :: ·) :=
  List.flatMap_congr fun q hq => remade_of_not_starts (h q hq)

/-- What starts a part is replaced in each part by itself. -/
theorem replaceUpTo_joined (hpiece : sep ∉ piece) (hp : sep ∉ p) (hps : ∀ q ∈ ps, sep ∉ q) {n : Nat}
    (hn : ps.length ≤ n) :
    replaceUpTo n (sep :: piece) new (joined sep p ps) =
      p ++ ps.flatMap (remade sep piece new) := by
  induction ps generalizing p n with
  | nil =>
    cases n with
    | zero => simp [replaceUpTo]
    | succ n => simp [replaceUpTo, cutAtPiece_of_not_mem hp]
  | cons q ps ih =>
    obtain ⟨hq, hrest⟩ := List.forall_mem_cons.mp hps
    rw [List.length_cons] at hn
    rw [joined_cons, replaceUpTo_append (cutAtPiece_append_of_not_mem hp), List.flatMap_cons]
    congr 1
    by_cases h : piece <+: q
    · obtain ⟨ds, rfl⟩ := h
      -- one replacement is spent on this part
      obtain ⟨n, rfl⟩ : ∃ m, n = m + 1 := ⟨n - 1, by omega⟩
      have hds : sep ∉ ds := fun hmem => hq (List.mem_append_right _ hmem)
      have hjoined : joined sep (piece ++ ds) ps = piece ++ joined sep ds ps := by simp [joined]
      rw [hjoined, replaceUpTo, cutAtPiece_sep_append]
      simp [ih hds hrest (Nat.le_of_succ_le_succ hn), remade]
    · have hnot : ¬ piece <+: joined sep q ps := by rwa [prefix_joined_iff hpiece]
      have hskip : replaceUpTo n (sep :: piece) new ([sep] ++ joined sep q ps) =
          [sep] ++ replaceUpTo n (sep :: piece) new (joined sep q ps) :=
        replaceUpTo_append (cutAtPiece_sep_of_not_starts hnot) n
      rw [List.singleton_append, List.singleton_append] at hskip
      rw [hskip, ih hq hrest (by omega), remade_of_not_starts h, List.cons_append]

/-- Replacing a separator and a piece remakes each part by itself. -/
theorem replaceAll_joined (hpiece : sep ∉ piece) (hp : sep ∉ p) (hps : ∀ q ∈ ps, sep ∉ q) :
    replaceAll (sep :: piece) new (joined sep p ps) = p ++ ps.flatMap (remade sep piece new) :=
  replaceUpTo_joined hpiece hp hps length_le_length_joined

/-! ## Pieces that are a part -/

section Enclosed

variable {m a : List Char}

/-- A text with the separator behind it starts a joined text if it is the first of several parts. -/
theorem eq_of_prefix_joined (hm : sep ∉ m) (hq : sep ∉ q) (h : m ++ [sep] <+: joined sep q ps) :
    q = m := by
  obtain ⟨ds, hds⟩ := h
  cases ps with
  | nil =>
    rw [joined_nil] at hds
    rw [← hds] at hq
    simp at hq
  | cons r ps =>
    have hsplit := congrArg (splitAt sep) hds
    rw [joined_cons, List.append_assoc, List.singleton_append, splitAt_append_cons hm,
      splitAt_append_cons hq] at hsplit
    exact (List.cons.inj hsplit).1.symm

/-- A piece between separators is not found where no part is the piece. -/
theorem cutAtPiece_enclosed_eq_none (hm : sep ∉ m) (hp : sep ∉ p)
    (hps : ∀ q ∈ ps, sep ∉ q ∧ q ≠ m) :
    cutAtPiece (sep :: (m ++ [sep])) (joined sep p ps) = none := by
  induction ps generalizing p with
  | nil => rw [joined_nil, cutAtPiece_of_not_mem hp]
  | cons q ps ih =>
    obtain ⟨⟨hq, hne⟩, hps⟩ := List.forall_mem_cons.mp hps
    rw [joined_cons, cutAtPiece_append_of_not_mem hp,
      cutAtPiece_sep_of_not_starts fun h => hne (eq_of_prefix_joined hm hq h), ih hq hps]
    rfl

/-- A piece between separators is found where the last but one part is the piece. -/
theorem cutAtPiece_enclosed (hm : sep ∉ m) (hp : sep ∉ p) (hps : ∀ q ∈ ps, sep ∉ q ∧ q ≠ m) :
    cutAtPiece (sep :: (m ++ [sep])) (joined sep p (ps ++ [m, a])) = some (joined sep p ps, a) := by
  induction ps generalizing p with
  | nil =>
    have hfound : cutAtPiece (sep :: (m ++ [sep])) (sep :: ((m ++ [sep]) ++ a)) = some ([], a) :=
      cutAtPiece_sep_append
    rw [List.append_assoc, List.singleton_append] at hfound
    simp [cutAtPiece_append_of_not_mem hp, hfound]
  | cons q ps ih =>
    obtain ⟨⟨hq, hne⟩, hps⟩ := List.forall_mem_cons.mp hps
    rw [List.cons_append, joined_cons, cutAtPiece_append_of_not_mem hp,
      cutAtPiece_sep_of_not_starts fun h => hne (eq_of_prefix_joined hm hq h), ih hq hps]
    simp

/-- Where the last but one part alone is the piece, it is replaced with the separators around it. -/
theorem replaceAll_enclosed (hm : sep ∉ m) (hp : sep ∉ p) (hps : ∀ q ∈ ps, sep ∉ q ∧ q ≠ m)
    (ha : sep ∉ a) :
    replaceAll (sep :: (m ++ [sep])) new (joined sep p (ps ++ [m, a])) =
      joined sep p ps ++ new ++ a := by
  -- the text is long enough for the one replacement
  obtain ⟨n, hn⟩ : ∃ n, (joined sep p (ps ++ [m, a])).length = n + 1 := by
    have hlength : (ps ++ [m, a]).length ≤ (joined sep p (ps ++ [m, a])).length :=
      length_le_length_joined
    rw [List.length_append, List.length_cons] at hlength
    exact ⟨_, (Nat.succ_pred_eq_of_pos (by omega)).symm⟩
  rw [replaceAll, hn, replaceUpTo, cutAtPiece_enclosed hm hp hps]
  have hrest : replaceUpTo n (sep :: (m ++ [sep])) new a = a := by
    cases n with
    | zero => rfl
    | succ n => rw [replaceUpTo, cutAtPiece_of_not_mem ha]
  simp only [hrest]

end Enclosed

end GuidedXml.Text
