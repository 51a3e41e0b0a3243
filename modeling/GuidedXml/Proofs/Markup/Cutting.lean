/-
# Reading a text piece by piece

A text is cut into items from the front, each of which takes at least one character, so reading may
be followed along the text itself. Plain characters and references are carried along until the next
tag.

The main statement says that the written form of a text is read as the text.
-/
import GuidedXml.Markup.Reading
import Mathlib.Data.List.TakeWhile

namespace GuidedXml

/-! ## What is left after an item -/

/-- What is left behind a piece is no longer than the text. -/
theorem Text.length_of_dropPiece? {piece cs rest : List Char}
    (h : dropPiece? piece cs = some rest) : rest.length ≤ cs.length := by
  induction piece generalizing cs with
  | nil =>
    obtain rfl : cs = rest := by simpa [dropPiece?] using h
    exact Nat.le_refl _
  | cons p ps ih =>
    cases cs with
    | nil => simp [dropPiece?] at h
    | cons c cs =>
      rw [dropPiece?] at h
      split at h
      · exact Nat.le_succ_of_le (ih h)
      · simp at h

/-- What is left behind a cut is no longer than the text. -/
theorem Text.length_of_cutAtPiece {piece cs before rest : List Char}
    (h : cutAtPiece piece cs = some (before, rest)) : rest.length ≤ cs.length := by
  induction cs generalizing before with
  | nil =>
    obtain ⟨r, hr, heq⟩ := Option.map_eq_some_iff.mp (by simpa only [cutAtPiece] using h)
    obtain ⟨-, rfl⟩ := Prod.mk.inj heq
    exact length_of_dropPiece? hr
  | cons c cs ih =>
    rw [cutAtPiece] at h
    split at h
    · next r hr =>
      obtain ⟨-, rfl⟩ := Prod.mk.inj (Option.some.inj h)
      exact length_of_dropPiece? hr
    · obtain ⟨p, hp, heq⟩ := Option.map_eq_some_iff.mp h
      obtain ⟨-, rfl⟩ := Prod.mk.inj heq
      exact Nat.le_succ_of_le (ih hp)

namespace Markup

/-- What is left behind a tag is no longer than the text. -/
theorem length_of_tagBody {quote : Option Char} {cs body rest : List Char}
    (h : tagBody quote cs = some (body, rest)) : rest.length ≤ cs.length := by
  induction cs generalizing quote body with
  | nil => simp [tagBody] at h
  | cons c cs ih =>
    rw [tagBody.eq_def] at h
    simp only at h
    split at h
    · obtain ⟨p, hp, heq⟩ := Option.map_eq_some_iff.mp h
      obtain ⟨-, rfl⟩ := Prod.mk.inj heq
      exact Nat.le_succ_of_le (ih hp)
    · split at h
      · obtain ⟨-, rfl⟩ := Prod.mk.inj (Option.some.inj h)
        exact Nat.le_succ _
      · obtain ⟨p, hp, heq⟩ := Option.map_eq_some_iff.mp h
        obtain ⟨-, rfl⟩ := Prod.mk.inj heq
        exact Nat.le_succ_of_le (ih hp)

/-- What is left behind a declaration is no longer than the text. -/
theorem length_of_declarationBody {depth : Nat} {cs body rest : List Char}
    (h : declarationBody depth cs = some (body, rest)) : rest.length ≤ cs.length := by
  induction cs generalizing depth body with
  | nil => simp [declarationBody] at h
  | cons c cs ih =>
    rw [declarationBody] at h
    split at h
    · obtain ⟨-, rfl⟩ := Prod.mk.inj (Option.some.inj h)
      exact Nat.le_succ _
    · obtain ⟨p, hp, heq⟩ := Option.map_eq_some_iff.mp h
      obtain ⟨-, rfl⟩ := Prod.mk.inj heq
      exact Nat.le_succ_of_le (ih hp)

/-- An item that begins with an exclamation mark leaves no more than there was. -/
theorem length_bangItem (cs : List Char) : (bangItem cs).2.length ≤ cs.length := by
  rw [bangItem]
  split
  · next r hr =>
    have := Text.length_of_dropPiece? hr
    split
    · next hcut => exact Nat.le_trans (Text.length_of_cutAtPiece hcut) this
    · exact Nat.zero_le _
  · split
    · next r hr =>
      have := Text.length_of_dropPiece? hr
      split
      · next hcut => exact Nat.le_trans (Text.length_of_cutAtPiece hcut) this
      · exact Nat.zero_le _
    · split
      · split
        · next hbody =>
          have := length_of_declarationBody hbody
          rw [List.length_drop] at this
          split
          · exact Nat.zero_le _
          · exact Nat.le_trans this (Nat.sub_le _ _)
        · exact Nat.zero_le _
      · exact Nat.zero_le _

/-- An item of markup leaves no more than there was. -/
theorem length_markupItem (cs : List Char) : (markupItem cs).2.length ≤ cs.length := by
  unfold markupItem
  split
  · exact Nat.le_succ_of_le (length_bangItem _)
  · exact Nat.zero_le _
  · split
    · next hcut => exact Nat.le_succ_of_le (Text.length_of_cutAtPiece hcut)
    · exact Nat.zero_le _
  · split
    · next hbody => exact Nat.le_succ_of_le (length_of_tagBody hbody)
    · exact Nat.zero_le _
  · split
    · next hbody => exact length_of_tagBody hbody
    · exact Nat.zero_le _

/-- A reference leaves no more than there was. -/
theorem length_referenceItem (cs : List Char) : (referenceItem cs).2.length ≤ cs.length := by
  unfold referenceItem
  simp only
  split
  · next rest hdrop =>
    have := List.length_dropWhile_le (fun c => c ≠ ';' && c ≠ '&' && c ≠ '<') cs
    rw [hdrop] at this
    split
    · exact Nat.le_of_succ_le this
    · exact Nat.zero_le _
  · exact Nat.zero_le _

/-- An item takes at least one character. -/
theorem length_nextItem (c : Char) (cs : List Char) : (nextItem (c :: cs)).2.length ≤ cs.length := by
  unfold nextItem
  split
  · next heq =>
    obtain ⟨-, rfl⟩ := List.cons.inj heq
    exact length_markupItem _
  · next heq =>
    obtain ⟨-, rfl⟩ := List.cons.inj heq
    exact length_referenceItem _
  · next hlt hamp =>
    have hc : (c ≠ '<' && c ≠ '&') = true := by
      simp only [ne_eq, decide_not, Bool.and_eq_true, Bool.not_eq_true', decide_eq_false_iff_not]
      exact ⟨fun h => hlt cs (by rw [h]), fun h => hamp cs (by rw [h])⟩
    simp only [List.dropWhile_cons, hc, if_true]
    exact List.length_dropWhile_le _ _

/-- As many items as there are characters are enough. -/
theorem itemsAux_eq (total : Nat) {fuel : Nat} {cs : List Char} (hf : cs.length ≤ fuel) :
    itemsAux total fuel cs = itemsAux total cs.length cs := by
  induction fuel using Nat.strongRecOn generalizing cs with
  | ind fuel ih =>
    cases cs with
    | nil => cases fuel <;> rfl
    | cons c cs =>
      obtain ⟨n, rfl⟩ : ∃ n, fuel = n + 1 := ⟨fuel - 1, by rw [List.length_cons] at hf; omega⟩
      have hle : cs.length ≤ n := Nat.le_of_succ_le_succ hf
      have hnext := length_nextItem c cs
      rw [List.length_cons, itemsAux, itemsAux]
      generalize nextItem (c :: cs) = p at hnext ⊢
      obtain ⟨item, rest⟩ := p
      have hrest : itemsAux total n rest = itemsAux total cs.length rest := by
        rw [ih n (Nat.lt_succ_self n) (Nat.le_trans hnext hle),
          ih cs.length (Nat.lt_succ_of_le hle) hnext]
      simp only [hrest]

namespace Reading

/-- What reading makes of the rest of a text of `total` bytes. -/
def readOn (r : Reading) (total : Nat) (cs : List Char) : Except Fault Reading :=
  r.run (itemsAux total cs.length cs)

/-- The reading with more text before the next tag. -/
def carry (r : Reading) (cs : List Char) : Reading :=
  { r with pending := r.pending ++ cs }

variable {r r' : Reading} {total : Nat} {c : Char} {cs rest : List Char}

@[simp] theorem carry_nil (r : Reading) : r.carry [] = r := by
  simp [carry]

/-- Text is carried one piece after the other. -/
@[simp] theorem carry_carry (r : Reading) (cs ds : List Char) :
    (r.carry cs).carry ds = r.carry (cs ++ ds) := by
  simp [carry]

/-- Reading goes on after an item as the item tells it. -/
theorem readOn_of_nextItem (item : Item) (hn : nextItem (c :: cs) = (item, rest))
    (hs : ∀ position, r.step position item = .ok r') :
    r.readOn total (c :: cs) = r'.readOn total rest := by
  have hlen := length_nextItem c cs
  rw [hn] at hlen
  rw [readOn, List.length_cons, itemsAux, hn, readOn, ← itemsAux_eq total hlen]
  cases item with
  | fault cause => simp [step] at hs
  | _ => simp only [run, hs]

/-! ## Text -/

/-- Characters without a meaning in markup are carried along. -/
theorem readOn_cons_plain (hlt : c ≠ '<') (hamp : c ≠ '&') :
    r.readOn total (c :: cs) = (r.carry [c]).readOn total cs := by
  have key : ∀ {x : Char} {xs : List Char}, x ≠ '<' → x ≠ '&' → nextItem (x :: xs) =
      (.text (x :: xs.takeWhile fun c => c ≠ '<' && c ≠ '&'),
        xs.dropWhile fun c => c ≠ '<' && c ≠ '&') := by
    intro x xs h₁ h₂
    unfold nextItem
    split
    · next heq => exact absurd (List.cons.inj heq).1 h₁
    · next heq => exact absurd (List.cons.inj heq).1 h₂
    · simp [h₁, h₂]
  rw [readOn_of_nextItem _ (key hlt hamp) fun _ => rfl]
  cases cs with
  | nil => rfl
  | cons d ds =>
    by_cases hd : d ≠ '<' ∧ d ≠ '&'
    · -- the next item is the rest of the same text
      rw [readOn_of_nextItem _ (key hd.1 hd.2) fun _ => rfl]
      simp [hd.1, hd.2, carry]
    · have hstop : (d ≠ '<' && d ≠ '&') = false := by
        rw [Bool.eq_false_iff]
        simpa using hd
      simp only [List.takeWhile_cons, List.dropWhile_cons, hstop, Bool.false_eq_true, if_false]
      rfl

/-- Plain characters in front are carried. -/
theorem readOn_append_plain {ds : List Char} (hds : ∀ d ∈ ds, d ≠ '<' ∧ d ≠ '&') :
    r.readOn total (ds ++ cs) = (r.carry ds).readOn total cs := by
  induction ds generalizing r with
  | nil => simp
  | cons d ds ih =>
    have hd := hds d (List.mem_cons_self ..)
    rw [List.cons_append, readOn_cons_plain hd.1 hd.2,
      ih fun x hx => hds x (List.mem_cons_of_mem _ hx), carry_carry]
    rfl

/-- The written form of a character is read as the character. -/
theorem readOn_escapeChar (r : Reading) (total : Nat) (c : Char) (cs : List Char) :
    r.readOn total (escapeChar c ++ cs) = (r.carry [c]).readOn total cs := by
  unfold escapeChar
  split
  · next h =>
    subst h
    exact readOn_of_nextItem (.text ['<']) rfl fun _ => rfl
  · split
    · next h =>
      subst h
      exact readOn_of_nextItem (.text ['>']) rfl fun _ => rfl
    · split
      · next h =>
        subst h
        exact readOn_of_nextItem (.text ['&']) rfl fun _ => rfl
      · split
        · next h =>
          subst h
          exact readOn_of_nextItem (.text ['\'']) rfl fun _ => rfl
        · split
          · next h =>
            subst h
            exact readOn_of_nextItem (.text ['"']) rfl fun _ => rfl
          · next hlt _ hamp _ _ => exact readOn_cons_plain hlt hamp

/-- The written form of a text is read as the text. -/
theorem readOn_escape (r : Reading) (total : Nat) (ds cs : List Char) :
    r.readOn total (escape ds ++ cs) = (r.carry ds).readOn total cs := by
  induction ds generalizing r with
  | nil => simp [escape]
  | cons d ds ih =>
    have hsplit : escape (d :: ds) = escapeChar d ++ escape ds := by simp [escape]
    rw [hsplit, List.append_assoc, readOn_escapeChar, ih, carry_carry]
    rfl

end Reading

end Markup

end GuidedXml
