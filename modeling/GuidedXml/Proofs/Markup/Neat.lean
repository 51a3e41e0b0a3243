/-
# Neat contents

A tag ends the text before it, and a blank text is dropped. So what was read has neither blank texts
nor two texts side by side, and no element has two attributes of one name.

The main statement says that what a text writes is neat.
-/
import GuidedXml.Proofs.Markup.Reading
import Mathlib.Data.List.Chain

namespace GuidedXml

/-- A content without blank texts, without texts side by side, and without two attributes of one
name at an element. -/
inductive Tree.Neat : Tree → Prop
  | element {name : String} {as : List (String × String)} {ts : List Tree} :
      (as.map Prod.fst).Nodup → ts.IsChain (fun t u => t.kind = .text → u.kind ≠ .text) →
      (∀ t ∈ ts, Tree.Neat t) → Tree.Neat (.node .element name "" as ts)
  | text {value : String} : value.toList.all Text.isBlank = false →
      Tree.Neat (.node .text "" value [] [])

namespace Markup

/-! ## Keys -/

/-- The attributes of a tag have distinct names, none of which was seen before. -/
theorem keys_attributesAux {seen : List String} {fuel : Nat} {cs : List Char}
    {as : List (String × String)} (h : attributesAux seen fuel cs = .ok as) :
    (as.map Prod.fst).Nodup ∧ ∀ a ∈ as, a.1 ∉ seen := by
  induction fuel generalizing seen cs as with
  | zero =>
    obtain rfl : [] = as := by simpa [attributesAux] using h
    simp
  | succ fuel ih =>
    rw [attributesAux] at h
    split at h
    · simp at h
    · obtain rfl : [] = as := by simpa using h
      simp
    · simp only at h
      split at h
      · simp at h
      · next hseen =>
        split at h
        · simp at h
        · cases hrest : attributesAux _ fuel _ with
          | error cause => rw [hrest] at h; simp [Except.map] at h
          | ok bs =>
            rw [hrest] at h
            obtain rfl := Except.ok.inj h
            obtain ⟨hnd, hnew⟩ := ih hrest
            refine ⟨?_, ?_⟩
            · rw [List.map_cons, List.nodup_cons]
              refine ⟨?_, hnd⟩
              intro hm
              obtain ⟨b, hb, heq⟩ := List.mem_map.mp hm
              exact hnew b hb (heq ▸ List.mem_cons_self ..)
            · intro a ha
              rcases List.mem_cons.mp ha with rfl | ha
              · simpa using hseen
              · exact fun hm => hnew a ha (List.mem_cons_of_mem _ hm)

/-- The tag names no attribute twice. -/
def Item.Keyed : Item → Prop
  | .opening _ as | .empty _ as => (as.map Prod.fst).Nodup
  | _ => True

/-- The attributes of a tag have distinct names. -/
theorem keyed_tagItem (body : List Char) : (tagItem body).Keyed := by
  unfold tagItem
  simp only
  split
  · trivial
  · next htag =>
    unfold readTag at htag
    simp only at htag
    cases hrest : attributesAux [] _ _ with
    | error cause => rw [hrest] at htag; simp [Except.map] at htag
    | ok bs =>
      rw [hrest] at htag
      obtain ⟨-, rfl⟩ := Prod.mk.inj (Except.ok.inj htag)
      have hnd := (keys_attributesAux hrest).1
      split <;> exact hnd

/-- What begins with an exclamation mark has no attributes. -/
theorem keyed_bangItem (cs : List Char) : (bangItem cs).1.Keyed := by
  unfold bangItem
  repeat' split
  all_goals trivial

/-- No item has two attributes of one name. -/
theorem keyed_nextItem (cs : List Char) : (nextItem cs).1.Keyed := by
  unfold nextItem
  split
  · unfold markupItem
    split
    · exact keyed_bangItem _
    · trivial
    · split <;> trivial
    · split <;> trivial
    · split
      · exact keyed_tagItem _
      · trivial
  · unfold referenceItem
    simp only
    split
    · split <;> trivial
    · trivial
  · trivial

/-- No item of a text has two attributes of one name. -/
theorem keyed_of_mem_itemsAux {total fuel : Nat} {cs : List Char} {p : Nat × Item}
    (hp : p ∈ itemsAux total fuel cs) : p.2.Keyed := by
  induction fuel generalizing cs with
  | zero => simp [itemsAux] at hp
  | succ fuel ih =>
    cases cs with
    | nil => simp [itemsAux] at hp
    | cons c cs =>
      have hkeyed := keyed_nextItem (c :: cs)
      rw [itemsAux] at hp
      generalize nextItem (c :: cs) = q at hp hkeyed
      obtain ⟨item, rest⟩ := q
      simp only at hp
      split at hp
      · rw [List.mem_singleton.mp hp]
        trivial
      · rcases List.mem_cons.mp hp with rfl | hp
        · exact hkeyed
        · exact ih hp

/-! ## Readings -/

/-- What has come inside an open element is neat; the last thing first. -/
structure Open.Neat (o : Open) : Prop where
  keys : (o.attributes.map Prod.fst).Nodup
  apart : o.inside.IsChain fun t u => t.kind = .text → u.kind ≠ .text
  inside : ∀ t ∈ o.inside, t.Neat

/-- Everything read so far is neat, and the last thing inside the innermost element is no text. -/
structure Reading.Neat (r : Reading) : Prop where
  stack : ∀ o ∈ r.stack, o.Neat
  last : ∀ o, r.stack.head? = some o → ∀ t, o.inside.head? = some t → t.kind ≠ .text
  root : ∀ t, r.root = some t → t.Neat

/-- An open element stays neat when a neat tree is added that does not put two texts side by side.
-/
theorem Open.Neat.add {o : Open} (ho : o.Neat) {t : Tree} (ht : t.Neat)
    (hlast : t.kind = .text → ∀ u, o.inside.head? = some u → u.kind ≠ .text) : (o.add t).Neat where
  keys := ho.keys
  apart := by
    rw [Open.add]
    refine List.isChain_cons.mpr ⟨fun u hu hk => hlast hk u (by simpa using hu), ho.apart⟩
  inside := by
    intro u hu
    rcases List.mem_cons.mp hu with rfl | hu
    · exact ht
    · exact ho.inside u hu

/-- A neat element is closed to a neat tree. -/
theorem Open.Neat.close {o : Open} (ho : o.Neat) : o.close.Neat := by
  refine Tree.Neat.element ho.keys ?_ fun t ht => ho.inside t (List.mem_reverse.mp ht)
  rw [List.isChain_reverse]
  exact ho.apart.imp fun t u htu hu ht => htu ht hu

namespace Reading.Neat

variable {r r' : Reading}

/-- The text before a tag is not blank and does not follow a text. -/
theorem flush (hr : r.Neat) :
    (∀ o ∈ r.flush.stack, o.Neat) ∧ ∀ t, r.flush.root = some t → t.Neat := by
  refine ⟨?_, hr.root⟩
  intro p hp
  unfold Reading.flush at hp
  cases hs : r.stack with
  | nil => simp [hs] at hp
  | cons o os =>
    simp only [hs] at hp
    have ho := hr.stack o (by simp [hs])
    split at hp
    · exact hr.stack p (by rwa [hs])
    · next hblank =>
      rcases List.mem_cons.mp hp with rfl | hp
      · refine ho.add (Tree.Neat.text ?_) fun _ => hr.last o (by simp [hs])
        rw [String.toList_ofList]
        exact eq_false_of_ne_true hblank
      · exact hr.stack p (by simp [hs, hp])

/-- Placing a neat element keeps a reading neat. -/
theorem place {t : Tree} (hstack : ∀ o ∈ r.stack, o.Neat) (hroot : ∀ t, r.root = some t → t.Neat)
    (ht : t.Neat) (hk : t.kind = .element) : (r.place t).Neat := by
  unfold Reading.place
  cases hs : r.stack with
  | nil =>
    refine ⟨by simp, by simp, ?_⟩
    intro u hu
    obtain rfl := Option.some.inj hu
    exact ht
  | cons o os =>
    refine ⟨?_, ?_, hroot⟩
    · intro p hp
      rcases List.mem_cons.mp hp with rfl | hp
      · exact (hstack o (by simp [hs])).add ht fun hkt => by rw [hk] at hkt; simp at hkt
      · exact hstack p (by simp [hs, hp])
    · intro p hp u hu
      obtain rfl := Option.some.inj hp
      obtain rfl := Option.some.inj hu
      rw [hk]
      decide

/-- One more item leaves everything neat. -/
theorem step (hr : r.Neat) {position : Nat} {item : Item} (hitem : item.Keyed)
    (hs : r.step position item = .ok r') : r'.Neat := by
  -- texts are added by flushing alone, one between two elements at most
  obtain ⟨hstack, hroot⟩ := hr.flush
  cases item with
  | fault cause => simp [Reading.step] at hs
  | skipped =>
    obtain rfl := Except.ok.inj hs
    exact hr
  | text content =>
    obtain rfl := Except.ok.inj hs
    exact ⟨hr.stack, hr.last, hr.root⟩
  | opening name as =>
    simp only [Reading.step] at hs
    split at hs
    · simp at hs
    · obtain rfl := Except.ok.inj hs
      refine ⟨?_, ?_, hroot⟩
      · intro p hp
        rcases List.mem_cons.mp hp with rfl | hp
        · exact ⟨hitem, by simp, by simp⟩
        · exact hstack p hp
      · intro p hp u hu
        obtain rfl := Option.some.inj hp
        simp at hu
  | empty name as =>
    simp only [Reading.step] at hs
    split at hs
    · simp at hs
    · obtain rfl := Except.ok.inj hs
      exact place hstack hroot (Tree.Neat.element hitem (by simp) (by simp)) rfl
  | closing name =>
    simp only [Reading.step] at hs
    cases hst : r.flush.stack with
    | nil => rw [hst] at hs; simp at hs
    | cons o os =>
      rw [hst] at hs
      simp only at hs
      split at hs
      · obtain rfl := Except.ok.inj hs
        refine place (fun p hp => hstack p ?_) hroot (hstack o ?_).close rfl
        · rw [hst]
          exact List.mem_cons_of_mem _ hp
        · rw [hst]
          exact List.mem_cons_self ..
      · simp at hs

/-- Reading items keeps a reading neat. -/
theorem run (hr : r.Neat) {items : List (Nat × Item)} (hitems : ∀ p ∈ items, p.2.Keyed)
    (hs : r.run items = .ok r') : r'.Neat := by
  induction items generalizing r with
  | nil =>
    obtain rfl := Except.ok.inj hs
    exact hr
  | cons item rest ih =>
    rw [Reading.run] at hs
    cases hstep : r.step item.1 item.2 with
    | error fault => rw [hstep] at hs; simp at hs
    | ok r₁ =>
      rw [hstep] at hs
      exact ih (hr.step (hitems item (List.mem_cons_self ..)) hstep)
        (fun p hp => hitems p (List.mem_cons_of_mem _ hp)) hs

end Reading.Neat

/-- What a text writes is neat. -/
theorem neat_of_readTree {text : String} {t : Tree} (ht : readTree text = .ok t) : t.Neat := by
  unfold readTree readChars at ht
  cases hrun : Reading.run {} (items (dropMark text.toList)) with
  | error fault => rw [hrun] at ht; simp at ht
  | ok r =>
    rw [hrun] at ht
    have hr : r.Neat := Reading.Neat.run ⟨by simp, by simp, by simp⟩
      (fun p hp => keyed_of_mem_itemsAux hp) hrun
    simp only [Reading.finish] at ht
    split at ht
    · simp at ht
    · split at ht
      · simp at ht
      · next u hroot =>
        obtain rfl := Except.ok.inj ht
        exact hr.root u hroot

end Markup

end GuidedXml
