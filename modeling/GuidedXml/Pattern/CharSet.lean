/-
# Character sets

Sets of characters as patterns speak of them: ranges, what set operations make of sets, and what
case folding adds to them.

A set is kept as the ascending list of its bounds, the code points where it begins or ends. Every
operation of two sets is one walk along both lists, which keeps a bound where the answer changes.
The main statements say what each operation contains.
-/
import GuidedXml.Text.Fold
import GuidedXml.Text.Range

namespace GuidedXml.Pattern

/-! ## Bounds -/

/-- Whether a place is inside, if `b` says so of the places before the first bound. -/
def inside (b : Bool) : List Nat → Nat → Bool
  | [], _ => b
  | x :: xs, n => if n < x then b else inside (!b) xs n

/-- The bound `x`, if the answer changes there. -/
def crossing (before after : Bool) (x : Nat) : List Nat :=
  if before = after then [] else [x]

/-- The bounds of what `op` makes of two lists of bounds; `a` and `b` say whether the place reached
is inside the first and the second one. -/
def merge (op : Bool → Bool → Bool) (a b : Bool) : List Nat → List Nat → List Nat
  | [], ys => if op a true = op a false then [] else ys
  | x :: xs, [] => if op true b = op false b then [] else x :: xs
  | x :: xs, y :: ys =>
    if x < y then crossing (op a b) (op (!a) b) x ++ merge op (!a) b xs (y :: ys)
    else if y < x then crossing (op a b) (op a !b) y ++ merge op a (!b) (x :: xs) ys
    else crossing (op a b) (op (!a) !b) x ++ merge op (!a) (!b) xs ys
termination_by xs ys => xs.length + ys.length

section Bounds

variable {op : Bool → Bool → Bool} {a b : Bool} {xs ys : List Nat} {n : Nat}

/-- Before all bounds nothing has changed. -/
theorem inside_of_lt (h : ∀ x ∈ xs, n < x) : inside b xs n = b := by
  cases xs with
  | nil => rfl
  | cons x xs => simp [inside, h x List.mem_cons_self]

/-- A function that tells inside from outside carries over to every place. -/
theorem inside_apply {f : Bool → Bool} (hf : f true ≠ f false) (b : Bool) (xs : List Nat) (n : Nat) :
    inside (f b) xs n = f (inside b xs n) := by
  have hnot : ∀ c, (!f c) = f !c := by
    intro c
    cases c <;> cases h : f true <;> cases h' : f false <;> simp_all
  induction xs generalizing b with
  | nil => rfl
  | cons x xs ih =>
    simp only [inside]
    split
    · rfl
    · rw [hnot, ih]

/-- A bound that is kept where the answer changes says what held before it. -/
theorem inside_crossing {before after : Bool} {x : Nat} (h : n < x → inside after xs n = after) :
    inside before (crossing before after x ++ xs) n = if n < x then before else inside after xs n := by
  by_cases heq : before = after
  · subst heq
    by_cases hlt : n < x
    · simp [crossing, hlt, h hlt]
    · simp [crossing, hlt]
  · have hafter : (!before) = after := by
      cases before <;> cases after <;> simp_all
    simp [crossing, heq, inside, hafter]

/-- Nothing is kept at a bound but itself. -/
theorem mem_crossing {before after : Bool} {x : Nat} (h : n ∈ crossing before after x) : n = x := by
  rw [crossing] at h
  split at h
  · simp at h
  · simpa using h

/-- Merging brings no bound of its own. -/
theorem mem_merge (h : n ∈ merge op a b xs ys) : n ∈ xs ∨ n ∈ ys := by
  fun_induction merge op a b xs ys with
  | case1 | case3 => simp at h
  | case2 | case4 => simp_all
  | case5 a b x xs y ys _ ih | case6 a b x xs y ys _ _ ih | case7 a b x xs y ys _ _ ih =>
    rcases List.mem_append.mp h with h | h
    · simp [mem_crossing h]
    · rcases ih h with h | h <;> simp_all

/-- Merging ascending lists gives an ascending one. -/
theorem pairwise_merge (hxs : xs.Pairwise (· < ·)) (hys : ys.Pairwise (· < ·)) :
    (merge op a b xs ys).Pairwise (· < ·) := by
  have hjoin : ∀ {before after : Bool} {x : Nat} {zs : List Nat}, zs.Pairwise (· < ·) →
      (∀ z ∈ zs, x < z) → (crossing before after x ++ zs).Pairwise (· < ·) := by
    intro before after x zs hzs hlt
    rw [List.pairwise_append]
    refine ⟨by rw [crossing]; split <;> simp, hzs, fun n hn z hz => mem_crossing hn ▸ hlt z hz⟩
  fun_induction merge op a b xs ys with
  | case1 | case3 => exact List.Pairwise.nil
  | case2 => exact hys
  | case4 => exact hxs
  | case5 a b x xs y ys hlt ih =>
    have hx := List.pairwise_cons.mp hxs
    have hy := List.pairwise_cons.mp hys
    refine hjoin (ih hx.2 hys) fun z hz => ?_
    rcases mem_merge hz with hz | hz
    · exact hx.1 z hz
    · rcases List.mem_cons.mp hz with rfl | hz
      · exact hlt
      · exact Nat.lt_trans hlt (hy.1 z hz)
  | case6 a b x xs y ys _ hlt ih =>
    have hx := List.pairwise_cons.mp hxs
    have hy := List.pairwise_cons.mp hys
    refine hjoin (ih hxs hy.2) fun z hz => ?_
    rcases mem_merge hz with hz | hz
    · rcases List.mem_cons.mp hz with rfl | hz
      · exact hlt
      · exact Nat.lt_trans hlt (hx.1 z hz)
    · exact hy.1 z hz
  | case7 a b x xs y ys hle hge ih =>
    have hx := List.pairwise_cons.mp hxs
    have hy := List.pairwise_cons.mp hys
    refine hjoin (ih hx.2 hy.2) fun z hz => ?_
    rcases mem_merge hz with hz | hz
    · exact hx.1 z hz
    · exact Nat.lt_of_le_of_lt (Nat.le_of_not_lt hge) (hy.1 z hz)

/-- Of a place, the merged list says what `op` says of the answers of the two lists. -/
theorem inside_merge (hxs : xs.Pairwise (· < ·)) (hys : ys.Pairwise (· < ·)) :
    inside (op a b) (merge op a b xs ys) n = op (inside a xs n) (inside b ys n) := by
  fun_induction merge op a b xs ys with
  | case1 a b ys h =>
    -- the second answer does not matter any more
    have hconst : ∀ c, op a c = op a b := by
      intro c
      cases c <;> cases b <;> simp_all
    simp [inside, hconst (inside b ys n)]
  | case2 a b ys h => exact inside_apply h b ys n
  | case3 a b x xs h =>
    have hconst : ∀ c, op c b = op a b := by
      intro c
      cases c <;> cases a <;> simp_all
    exact (hconst (inside a (x :: xs) n)).symm
  | case4 a b x xs h => exact inside_apply (f := fun c => op c b) h a (x :: xs) n
  | case5 a b x xs y ys hlt ih =>
    have hx := List.pairwise_cons.mp hxs
    have hrest := ih hx.2 hys
    -- before the first bound of the one list nothing changes in the other either
    have hy : n < x → inside b (y :: ys) n = b := fun h => if_pos (Nat.lt_trans h hlt)
    rw [inside_crossing]
    · by_cases h : n < x
      · simp [inside, h, Nat.lt_trans h hlt]
      · simpa [inside, h] using hrest
    · intro h
      rw [hrest, hy h, inside_of_lt fun z hz => Nat.lt_trans h (hx.1 z hz)]
  | case6 a b x xs y ys _ hlt ih =>
    have hy := List.pairwise_cons.mp hys
    have hrest := ih hxs hy.2
    have hx : n < y → inside a (x :: xs) n = a := fun h => if_pos (Nat.lt_trans h hlt)
    rw [inside_crossing]
    · by_cases h : n < y
      · simp [inside, h, Nat.lt_trans h hlt]
      · simpa [inside, h] using hrest
    · intro h
      rw [hrest, hx h, inside_of_lt fun z hz => Nat.lt_trans h (hy.1 z hz)]
  | case7 a b x xs y ys hle hge ih =>
    have hx := List.pairwise_cons.mp hxs
    have hy := List.pairwise_cons.mp hys
    -- both lists change at the same place
    have heq : x = y := by omega
    subst heq
    have hrest := ih hx.2 hy.2
    rw [inside_crossing]
    · by_cases h : n < x
      · simp [inside, h]
      · simpa [inside, h] using hrest
    · intro h
      rw [hrest, inside_of_lt fun z hz => Nat.lt_trans h (hx.1 z hz),
        inside_of_lt fun z hz => Nat.lt_trans h (hy.1 z hz)]

end Bounds

/-! ## Sets -/

/-- A set of characters: the ascending list of the code points where it begins, ends, begins again
and so on. -/
structure CharSet where
  bounds : List Nat
  ascending : bounds.Pairwise (· < ·)
  deriving DecidableEq

namespace CharSet

variable {s t : CharSet} {c d : Char}

/-- Whether the character is in the set. -/
def contains (s : CharSet) (c : Char) : Bool :=
  inside false s.bounds c.toNat

/-- The set without characters. -/
def empty : CharSet := ⟨[], List.Pairwise.nil⟩

@[simp] theorem contains_empty : empty.contains c = false := rfl

/-- The characters between two code points, both included. -/
def between (lo hi : Nat) : CharSet :=
  if h : lo ≤ hi then ⟨[lo, hi + 1], by simpa using Nat.lt_succ_of_le h⟩ else empty

/-- A character is between two code points if its own is. -/
@[simp] theorem contains_between {lo hi : Nat} :
    (between lo hi).contains c = (decide (lo ≤ c.toNat) && decide (c.toNat ≤ hi)) := by
  rw [between]
  split <;> rename_i h
  · by_cases hlo : c.toNat < lo <;> by_cases hhi : c.toNat < hi + 1 <;>
      simp [contains, inside, hlo, hhi] <;> omega
  · simp only [contains_empty, Bool.false_eq, Bool.and_eq_false_imp, decide_eq_true_eq,
      decide_eq_false_iff_not]
    omega

/-! ## Operations -/

/-- What an operation on answers makes of two sets. -/
def combine (op : Bool → Bool → Bool) (s t : CharSet) : CharSet :=
  ⟨merge op false false s.bounds t.bounds, pairwise_merge s.ascending t.ascending⟩

/-- An operation that is false outside of both sets answers for every character as it says. -/
theorem contains_combine {op : Bool → Bool → Bool} (h : op false false = false) :
    (combine op s t).contains c = op (s.contains c) (t.contains c) := by
  have hmerge : inside (op false false) (merge op false false s.bounds t.bounds) c.toNat =
      op (s.contains c) (t.contains c) := inside_merge s.ascending t.ascending
  rwa [h] at hmerge

/-- The characters of either set. -/
def union (s t : CharSet) : CharSet := combine (· || ·) s t

/-- The characters of both sets. -/
def inter (s t : CharSet) : CharSet := combine (· && ·) s t

/-- The characters of the first set that are not in the second. -/
def diff (s t : CharSet) : CharSet := combine (fun a b => a && !b) s t

/-- The characters of exactly one of the sets. -/
def symmDiff (s t : CharSet) : CharSet := combine (· != ·) s t

@[simp] theorem contains_union : (s.union t).contains c = (s.contains c || t.contains c) :=
  contains_combine rfl

@[simp] theorem contains_inter : (s.inter t).contains c = (s.contains c && t.contains c) :=
  contains_combine rfl

@[simp] theorem contains_diff : (s.diff t).contains c = (s.contains c && !t.contains c) :=
  contains_combine rfl

@[simp] theorem contains_symmDiff : (s.symmDiff t).contains c = (s.contains c != t.contains c) :=
  contains_combine rfl

/-- The characters of any of the sets. -/
def unions (ss : List CharSet) : CharSet :=
  ss.foldr union empty

/-- A character is in the union of sets if it is in one of them. -/
@[simp] theorem contains_unions {ss : List CharSet} :
    (unions ss).contains c = ss.any (·.contains c) := by
  induction ss with
  | nil => rfl
  | cons s ss ih => simp [unions, List.foldr_cons, ← ih]

/-- The characters of ranges of code points, both ends included. -/
def ofRanges (ranges : List (Nat × Nat)) : CharSet :=
  unions (ranges.map fun r => between r.1 r.2)

/-- Of ranges the set holds what they cover. -/
@[simp] theorem contains_ofRanges {ranges : List (Nat × Nat)} :
    (ofRanges ranges).contains c = Text.covers ranges c := by
  simp [ofRanges, Text.covers, List.any_map, Function.comp_def]

/-- The characters of code points. -/
def ofCodes (codes : List Nat) : CharSet :=
  ofRanges (codes.map fun n => (n, n))

/-- A character is in the set of code points if its own is among them. -/
@[simp] theorem contains_ofCodes {codes : List Nat} :
    (ofCodes codes).contains c = codes.contains c.toNat := by
  rw [Bool.eq_iff_iff, ofCodes, contains_ofRanges, Text.covers_iff, List.contains_iff_mem]
  constructor
  · rintro ⟨r, hr, hin⟩
    obtain ⟨n, hn, rfl⟩ := List.mem_map.mp hr
    exact Nat.le_antisymm hin.1 hin.2 ▸ hn
  · exact fun h => ⟨_, List.mem_map_of_mem h, Nat.le_refl _, Nat.le_refl _⟩

/-- The set of all characters. -/
def all : CharSet := ofRanges [(0, 0xD7FF), (0xE000, 0x10FFFF)]

/-- Every character is in the set of all. -/
@[simp] theorem contains_all : all.contains c = true := by
  rw [all, contains_ofRanges, Text.covers_iff]
  rcases c.valid with h | ⟨hlo, hhi⟩
  · exact ⟨_, List.mem_cons_self, Nat.zero_le _, Nat.le_of_lt_succ h⟩
  · exact ⟨_, List.mem_cons_of_mem _ List.mem_cons_self, hlo, Nat.le_of_lt_succ hhi⟩

/-- The characters that are not in the set. -/
def complement (s : CharSet) : CharSet := all.diff s

@[simp] theorem contains_complement : s.complement.contains c = !s.contains c := by
  simp [complement]

/-- The characters between two characters, both included. -/
def range (lo hi : Char) : CharSet := (between lo.toNat hi.toNat).inter all

/-- The set of one character. -/
def single (c : Char) : CharSet := range c c

/-- Nothing but the character itself is in the set of one. -/
@[simp] theorem contains_single : (single d).contains c = decide (c = d) := by
  simp [single, range, ← Bool.decide_and, Nat.le_antisymm_iff, and_comm, ← Char.toNat_inj]

/-- Whether the set has one character only. -/
def isSingle (s : CharSet) : Bool :=
  match s.bounds with
  | [x, y] => y = x + 1
  | _ => false

/-! ## Case folding -/

/-- The characters that have a case variant in the set: the folded forms of its members, and what
folds to one of these. -/
def fold (s : CharSet) : CharSet :=
  let forms := s.union (ofCodes ((Text.Fold.pairs.filter fun p => inside false s.bounds p.1).map (·.2)))
  forms.union (ofCodes ((Text.Fold.pairs.filter fun p => inside false forms.bounds p.2).map (·.1)))

/-- Folding keeps every member. -/
theorem contains_fold (h : s.contains c = true) : s.fold.contains c = true := by
  simp [fold, h]

/-- The characters that are in the set or have the other case of a Latin letter in it. -/
def foldLatin (s : CharSet) : CharSet :=
  s.union (unions (("abcdefghijklmnopqrstuvwxyz".toList.filter fun c =>
    s.contains c || s.contains c.toUpper).map fun c => (single c).union (single c.toUpper)))

end CharSet

end GuidedXml.Pattern
