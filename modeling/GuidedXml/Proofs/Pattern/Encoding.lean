/-
# The runs of a set

A set of characters is compiled to runs of byte ranges. A run reads a list of bytes if there are as
many of them and each is in its range.

The main statement says that some run of a set reads the encoding of a character exactly if the
character is in the set.
-/
import GuidedXml.Pattern.Size
import Mathlib.Data.List.Forall2

namespace GuidedXml.Pattern

/-- The run reads the bytes: as many as it has ranges, each of them in its range. -/
def Reads (run : Run) (bytes : List Nat) : Prop :=
  List.Forall₂ (fun r b => r.1 ≤ b ∧ b ≤ r.2) run bytes

/-- Some of the runs reads the bytes. -/
def ReadBy (runs : List Run) (bytes : List Nat) : Prop :=
  ∃ run ∈ runs, Reads run bytes

/-- The bytes of a code point with `n` bytes after the leading one, which begins with `lead`. -/
def bytesOf (lead : Nat) : Nat → Nat → List Nat
  | 0, c => [lead + c]
  | n + 1, c => bytesOf lead n (c / 64) ++ [0x80 + c % 64]

variable {lead n lo hi c : Nat} {runs runs' : List Run} {bytes : List Nat}

@[simp] theorem not_readBy_nil : ¬ ReadBy [] bytes := by
  simp [ReadBy]

/-- Two lists of runs read what one of them reads. -/
@[simp] theorem readBy_append :
    ReadBy (runs ++ runs') bytes ↔ ReadBy runs bytes ∨ ReadBy runs' bytes := by
  simp [ReadBy, or_and_right, exists_or]

@[simp] theorem readBy_ite_nil {p : Prop} [Decidable p] :
    ReadBy (if p then [] else runs) bytes ↔ ¬ p ∧ ReadBy runs bytes := by
  split <;> simp [*]

@[simp] theorem readBy_nil_ite {p : Prop} [Decidable p] :
    ReadBy (if p then runs else []) bytes ↔ p ∧ ReadBy runs bytes := by
  split <;> simp [*]

/-- Runs from several sources read what those from one of them read. -/
theorem readBy_flatMap {α : Type} {xs : List α} {f : α → List Run} :
    ReadBy (xs.flatMap f) bytes ↔ ∃ x ∈ xs, ReadBy (f x) bytes := by
  simp only [ReadBy, List.mem_flatMap]
  exact ⟨fun ⟨run, ⟨x, hx, hrun⟩, h⟩ => ⟨x, hx, run, hrun, h⟩,
    fun ⟨x, hx, run, hrun, h⟩ => ⟨run, ⟨x, hx, hrun⟩, h⟩⟩

/-- With one more range a run reads one more byte. -/
theorem reads_concat_iff {run : Run} {r : Nat × Nat} {b : Nat} :
    Reads (run ++ [r]) (bytes ++ [b]) ↔ Reads run bytes ∧ r.1 ≤ b ∧ b ≤ r.2 := by
  rw [Reads, ← List.forall₂_reverse_iff]
  simp [Reads, List.forall₂_reverse_iff, and_comm]

/-- Runs with one more byte read what ends in that byte. -/
theorem readBy_endedBy {low high b : Nat} :
    ReadBy (endedBy low high runs) (bytes ++ [0x80 + b]) ↔
      ReadBy runs bytes ∧ low ≤ b ∧ b ≤ high := by
  simp only [ReadBy, endedBy, List.mem_map]
  constructor
  · rintro ⟨_, ⟨run, hrun, rfl⟩, h⟩
    rw [reads_concat_iff] at h
    exact ⟨⟨run, hrun, h.1⟩, by omega⟩
  · rintro ⟨⟨run, hrun, h⟩, hb⟩
    exact ⟨_, ⟨run, hrun, rfl⟩, reads_concat_iff.mpr ⟨h, by omega⟩⟩

/-- The bytes of a code point are the leading one and those after it. -/
theorem length_bytesOf (lead n c : Nat) : (bytesOf lead n c).length = n + 1 := by
  induction n generalizing c with
  | zero => rfl
  | succ n ih => simp [bytesOf, ih]

/-! ## Runs of one length -/

/-- All runs of code points with `n` bytes after the leading one have that length. -/
theorem length_of_mem_runsOf {run : Run} (h : run ∈ runsOf lead n lo hi) : run.length = n + 1 := by
  induction n generalizing lo hi run with
  | zero => simp_all [runsOf]
  | succ n ih =>
    have hended : ∀ {first last low high : Nat},
        run ∈ endedBy low high (runsOf lead n first last) → run.length = n + 2 := by
      intro first last low high hrun
      obtain ⟨run', hrun', rfl⟩ := List.mem_map.mp hrun
      simp [ih hrun']
    rw [runsOf] at h
    split at h
    · exact hended h
    · simp only [List.mem_append, List.mem_ite_nil_left, List.mem_ite_nil_right] at h
      obtain (⟨-, h⟩ | ⟨-, h⟩) | ⟨-, h⟩ := h <;> exact hended h

/-- The runs of the code points between two read the bytes of exactly these. -/
theorem readBy_runsOf_iff (h : lo ≤ hi) :
    ReadBy (runsOf lead n lo hi) (bytesOf lead n c) ↔ lo ≤ c ∧ c ≤ hi := by
  induction n generalizing lo hi c with
  | zero => simp [runsOf, ReadBy, bytesOf, Reads]
  | succ n ih =>
    have hended : ∀ {first last low high : Nat}, first ≤ last →
        (ReadBy (endedBy low high (runsOf lead n first last)) (bytesOf lead (n + 1) c) ↔
          (first ≤ c / 64 ∧ c / 64 ≤ last) ∧ low ≤ c % 64 ∧ c % 64 ≤ high) := fun hle => by
      rw [bytesOf, readBy_endedBy, ih hle]
    rw [runsOf]
    split
    · next heq =>
      rw [hended (Nat.le_of_eq heq)]
      omega
    · next hne =>
      -- the bits before the last six differ: a first piece, full ones and a last piece
      have hfirst : (if lo % 64 = 0 then lo / 64 else lo / 64 + 1) = (lo + 63) / 64 := by
        split <;> omega
      have hlast : (if hi % 64 = 63 then hi / 64 + 1 else hi / 64) = (hi + 1) / 64 := by
        split <;> omega
      rw [hfirst, hlast, readBy_append, readBy_append, readBy_ite_nil, readBy_nil_ite,
        readBy_nil_ite, hended (Nat.le_refl _), hended (Nat.le_refl _)]
      by_cases hlt : (lo + 63) / 64 < (hi + 1) / 64
      · rw [hended (Nat.le_sub_one_of_lt hlt)]
        omega
      · simp only [hlt, false_and, or_false]
        omega

/-! ## Characters -/

/-- The bytes that a character is encoded in. -/
def encoded (c : Char) : List Nat :=
  (String.utf8EncodeChar c).map UInt8.toNat

/-- Every character has one of the encodings. -/
theorem exists_encoding (c : Char) :
    ∃ e ∈ encodings, (e.first ≤ c.toNat ∧ c.toNat ≤ e.last) ∧
      encoded c = bytesOf e.lead e.following c.toNat := by
  have hvalid : c.toNat < 0xD800 ∨ 0xDFFF < c.toNat ∧ c.toNat < 0x110000 := c.valid
  have hval : c.val.toNat = c.toNat := rfl
  simp only [encoded, String.utf8EncodeChar, hval, encodings, List.mem_cons, List.not_mem_nil,
    or_false, exists_eq_or_imp, exists_eq_left, bytesOf, List.nil_append, List.cons_append]
  split
  · refine .inl ⟨by omega, ?_⟩
    simp
    omega
  split
  · refine .inr (.inl ⟨by omega, ?_⟩)
    simp
    omega
  split
  · by_cases hlow : c.toNat < 0xD800
    · refine .inr (.inr (.inl ⟨by omega, ?_⟩))
      simp
      omega
    · refine .inr (.inr (.inr (.inl ⟨by omega, ?_⟩)))
      simp
      omega
  · refine .inr (.inr (.inr (.inr ⟨by omega, ?_⟩)))
    simp
    omega

/-- Encodings with equally many bytes begin alike. -/
theorem lead_eq {e e' : Encoding} (he : e ∈ encodings) (he' : e' ∈ encodings)
    (h : e.following = e'.following) : e.lead = e'.lead :=
  (by decide : ∀ e ∈ encodings, ∀ e' ∈ encodings, e.following = e'.following → e.lead = e'.lead)
    e he e' he' h

/-- Encodings with different numbers of bytes are for different code points. -/
theorem apart {e e' : Encoding} (he : e ∈ encodings) (he' : e' ∈ encodings)
    (h : e.following ≠ e'.following) : e.last < e'.first ∨ e'.last < e.first :=
  (by decide : ∀ e ∈ encodings, ∀ e' ∈ encodings, e.following ≠ e'.following →
    e.last < e'.first ∨ e'.last < e.first) e he e' he' h

/-- The runs of an encoding read the bytes of the characters it is for. -/
theorem readBy_runs_iff {e : Encoding} (he : e ∈ encodings) {c : Char} :
    ReadBy (e.runs lo hi) (encoded c) ↔
      (e.first ≤ c.toNat ∧ c.toNat ≤ e.last) ∧ lo ≤ c.toNat ∧ c.toNat ≤ hi := by
  obtain ⟨e', he', hin, henc⟩ := exists_encoding c
  rw [henc, Encoding.runs, readBy_nil_ite]
  by_cases hf : e.following = e'.following
  · rw [← hf, ← lead_eq he he' hf]
    constructor
    · rintro ⟨hle, hread⟩
      rw [readBy_runsOf_iff hle] at hread
      omega
    · intro h
      have hle : max lo e.first ≤ min hi e.last := by omega
      exact ⟨hle, (readBy_runsOf_iff hle).mpr (by omega)⟩
  · have hdisjoint := apart he he' hf
    constructor
    · rintro ⟨-, run, hrun, hread⟩
      have hlength := hread.length_eq
      rw [length_of_mem_runsOf hrun, length_bytesOf] at hlength
      omega
    · omega

/-! ## Sets -/

/-- A place is inside of ascending bounds exactly if a range between them covers it. -/
theorem inside_iff_rangesOf {bounds : List Nat} (hasc : bounds.Pairwise (· < ·)) (h : c ≤ 0x10FFFF) :
    inside false bounds c = true ↔ ∃ r ∈ rangesOf bounds, r.1 ≤ c ∧ c ≤ r.2 := by
  induction bounds using rangesOf.induct with
  | case1 => simp [inside, rangesOf]
  | case2 lo => simp [inside, rangesOf, h]
  | case3 lo hi rest ih =>
    have hlo := List.pairwise_cons.mp hasc
    have hhi := List.pairwise_cons.mp hlo.2
    have hlt : lo < hi := hlo.1 hi List.mem_cons_self
    have hrest := ih hhi.2
    have hbefore : c < hi → ¬ ∃ r ∈ rangesOf rest, r.1 ≤ c ∧ c ≤ r.2 := fun hc => by
      rw [← hrest, inside_of_lt fun x hx => Nat.lt_trans hc (hhi.1 x hx)]
      exact Bool.false_ne_true
    simp only [inside, rangesOf, List.mem_cons, or_and_right, exists_or, exists_eq_left,
      Bool.not_false, Bool.not_true]
    rcases Nat.lt_or_ge c lo with hc | hc
    · have hnone := hbefore (Nat.lt_trans hc hlt)
      simp only [hc, if_true, hnone, or_false, Bool.false_eq_true, false_iff]
      omega
    · rw [if_neg (Nat.not_lt.mpr hc)]
      rcases Nat.lt_or_ge c hi with hc' | hc'
      · simp [hc', hc, Nat.le_sub_one_of_lt hc']
      · rw [if_neg (Nat.not_lt.mpr hc'), hrest, or_iff_right]
        omega

/-- Some run of a set reads the encoding of a character exactly if the character is in the set. -/
theorem readBy_charSet_runs_iff {s : CharSet} {c : Char} :
    ReadBy s.runs (encoded c) ↔ s.contains c = true := by
  have hlast : c.toNat ≤ 0x10FFFF := by
    have hvalid : c.toNat < 0xD800 ∨ 0xDFFF < c.toNat ∧ c.toNat < 0x110000 := c.valid
    omega
  simp only [CharSet.runs, readBy_flatMap, CharSet.contains, inside_iff_rangesOf s.ascending hlast]
  refine exists_congr fun r => and_congr_right fun _ => ⟨?_, fun h => ?_⟩
  · rintro ⟨e, he, hread⟩
    exact ((readBy_runs_iff he).mp hread).2
  · obtain ⟨e, he, hin, -⟩ := exists_encoding c
    exact ⟨e, he, (readBy_runs_iff he).mpr ⟨hin, h⟩⟩

end GuidedXml.Pattern
