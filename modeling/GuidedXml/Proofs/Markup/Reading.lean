/-
# Documents that were read

Whatever the items of a text are, reading puts only elements and texts inside elements.

The main statement says that the document of a text is in order.
-/
import GuidedXml.Markup.Reading
import GuidedXml.Proofs.Document.Growth

namespace GuidedXml.Markup

/-- A proper element or text, as it may stand inside an element. -/
structure IsContent (t : Tree) : Prop where
  kind : t.kind = .element ∨ t.kind = .text
  proper : t.Proper

/-- An element of proper contents is a proper content. -/
theorem isContent_element {name : String} {as : List (String × String)} {ts : List Tree}
    (hts : ∀ t ∈ ts, IsContent t) : IsContent (.element name as ts) where
  kind := Or.inl rfl
  proper := Tree.Proper.node (fun _ => rfl) (fun _ => Or.inl rfl) (fun t ht => (hts t ht).kind)
    fun t ht => (hts t ht).proper

/-- A text can be content. -/
theorem isContent_text (value : String) : IsContent (.text value) where
  kind := Or.inr rfl
  proper := Tree.Proper.node (by simp) (by simp) (by simp) (by simp)

/-- Everything read so far is proper, and the outermost node is an element. -/
structure Reading.Sound (r : Reading) : Prop where
  inside : ∀ o ∈ r.stack, ∀ t ∈ o.inside, IsContent t
  root : ∀ t, r.root = some t → IsContent t ∧ t.kind = .element

namespace Reading.Sound

variable {r r' : Reading}

/-- Placing an element keeps a reading sound. -/
theorem place (hr : r.Sound) {t : Tree} (ht : IsContent t) (hk : t.kind = .element) :
    (r.place t).Sound := by
  unfold Reading.place
  cases hs : r.stack with
  | nil =>
    refine ⟨by simp, ?_⟩
    intro u hu
    obtain rfl := Option.some.inj hu
    exact ⟨ht, hk⟩
  | cons o os =>
    refine ⟨?_, hr.root⟩
    intro p hp u hu
    rcases List.mem_cons.mp hp with rfl | hp
    · rcases List.mem_cons.mp hu with rfl | hu
      · exact ht
      · exact hr.inside o (by simp [hs]) u hu
    · exact hr.inside p (by simp [hs, hp]) u hu

/-- Flushing keeps a reading sound. -/
theorem flush (hr : r.Sound) : r.flush.Sound := by
  refine ⟨?_, hr.root⟩
  intro p hp u hu
  unfold Reading.flush at hp
  cases hs : r.stack with
  | nil => simp [hs] at hp
  | cons o os =>
    simp only [hs] at hp
    split at hp
    · exact hr.inside p (by simpa [hs] using hp) u hu
    · rcases List.mem_cons.mp hp with rfl | hp
      · rcases List.mem_cons.mp hu with rfl | hu
        · exact isContent_text _
        · exact hr.inside o (by simp [hs]) u hu
      · exact hr.inside p (by simp [hs, hp]) u hu

/-- One more item leaves everything proper. -/
theorem step (hr : r.Sound) {position : Nat} {item : Item}
    (hs : r.step position item = .ok r') : r'.Sound := by
  have hf := hr.flush
  cases item with
  | fault cause => simp [Reading.step] at hs
  | skipped =>
    obtain rfl := Except.ok.inj hs
    exact hr
  | text content =>
    obtain rfl := Except.ok.inj hs
    exact ⟨hr.inside, hr.root⟩
  | opening name as =>
    simp only [Reading.step] at hs
    split at hs
    · simp at hs
    · obtain rfl := Except.ok.inj hs
      refine ⟨?_, hf.root⟩
      intro p hp u hu
      rcases List.mem_cons.mp hp with rfl | hp
      · simp at hu
      · exact hf.inside p hp u hu
  | empty name as =>
    simp only [Reading.step] at hs
    split at hs
    · simp at hs
    · obtain rfl := Except.ok.inj hs
      exact hf.place (isContent_element (by simp)) rfl
  | closing name =>
    simp only [Reading.step] at hs
    cases hst : r.flush.stack with
    | nil => rw [hst] at hs; simp at hs
    | cons o os =>
      rw [hst] at hs
      simp only at hs
      split at hs
      · obtain rfl := Except.ok.inj hs
        have hrest : Reading.Sound { r.flush with stack := os } := by
          refine ⟨?_, hf.root⟩
          intro p hp u hu
          exact hf.inside p (by rw [hst]; exact List.mem_cons_of_mem _ hp) u hu
        refine hrest.place (isContent_element ?_) rfl
        intro t ht
        exact hf.inside o (by rw [hst]; exact List.mem_cons_self ..) t (List.mem_reverse.mp ht)
      · simp at hs

/-- Reading items keeps a reading sound. -/
theorem run (hr : r.Sound) {items : List (Nat × Item)} (hs : r.run items = .ok r') :
    r'.Sound := by
  induction items generalizing r with
  | nil =>
    obtain rfl := Except.ok.inj hs
    exact hr
  | cons item rest ih =>
    rw [Reading.run] at hs
    cases hstep : r.step item.1 item.2 with
    | error fault => rw [hstep] at hs; simp at hs
    | ok r₁ =>
      rw [hstep] at hs
      exact ih (hr.step hstep) hs

end Reading.Sound

/-- What a text writes is a proper element. -/
theorem isContent_of_readTree {text : String} {t : Tree} (ht : readTree text = .ok t) :
    IsContent t ∧ t.kind = .element := by
  unfold readTree readChars at ht
  cases hrun : Reading.run {} (items (dropMark text.toList)) with
  | error fault => rw [hrun] at ht; simp at ht
  | ok r =>
    rw [hrun] at ht
    have hr : r.Sound := Reading.Sound.run ⟨by simp, by simp⟩ hrun
    simp only [Reading.finish] at ht
    cases hs : r.stack with
    | cons o os => rw [hs] at ht; simp at ht
    | nil =>
      rw [hs] at ht
      cases hroot : r.root with
      | none => rw [hroot] at ht; simp at ht
      | some u =>
        rw [hroot] at ht
        obtain rfl := Except.ok.inj ht
        exact hr.root u hroot

end GuidedXml.Markup

namespace GuidedXml.Document

/-- A document that was read is that of the element that was read. -/
theorem exists_readTree_of_read {text : String} {d : Document} (hd : read text = .ok d) :
    ∃ root : Tree, Markup.readTree text = .ok root ∧ d = ofTree root := by
  unfold read at hd
  cases ht : Markup.readTree text with
  | error fault => rw [ht] at hd; simp [Except.map] at hd
  | ok root =>
    rw [ht] at hd
    exact ⟨root, rfl, (Except.ok.inj hd).symm⟩

/-- A text writes the document of a proper element. -/
theorem eq_ofTree_of_read {text : String} {d : Document} (hd : read text = .ok d) :
    ∃ root : Tree, root.Proper ∧ root.kind = .element ∧ d = ofTree root := by
  obtain ⟨root, ht, rfl⟩ := exists_readTree_of_read hd
  obtain ⟨hcontent, hkind⟩ := Markup.isContent_of_readTree ht
  exact ⟨root, hcontent.proper, hkind, rfl⟩

/-- The document that a text writes is in order. -/
theorem orderly_of_read {text : String} {d : Document} (hd : read text = .ok d) : d.Orderly := by
  obtain ⟨root, hproper, hkind, rfl⟩ := eq_ofTree_of_read hd
  exact orderly_ofTree hproper hkind

end GuidedXml.Document
