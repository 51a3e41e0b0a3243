/-
# Outlines and documents

An outline mirrors a document if it shows the attached elements, each with the element around it and
the elements inside it. It is patched while the document changes, so in between it shows only some
of the elements; what it shows of each of them is right.

The main statements say which elements an outline shows after elements were taken in and taken out,
and that the outline of a whole document mirrors it.
-/
import GuidedXml.Editing.Outline
import GuidedXml.Proofs.Document.Attachment
import GuidedXml.Proofs.Table

namespace GuidedXml

open Document (Within)

/-! ## Elements around elements -/

namespace Document

variable {d d' : Document} {h k p : Handle}

/-- The element that a node is inside of. -/
def outer? (d : Document) (h : Handle) : Option Handle :=
  (d.parent? h).filter d.isElement

theorem outer?_eq_some_iff :
    d.outer? h = some p ↔ d.parent? h = some p ∧ d.isElement p = true :=
  Option.filter_eq_some_iff

theorem outer?_congr (hp : d'.parent? h = d.parent? h)
    (he : ∀ p, d.parent? h = some p → d'.isElement p = d.isElement p) :
    d'.outer? h = d.outer? h := by
  rw [outer?, outer?, hp]
  cases hq : d.parent? h with
  | none => rfl
  | some p => simp [Option.filter, he p hq]

theorem Forest.not_mem_elements_self (hd : d.Forest) : h ∉ d.elements h := by
  intro hm
  have hp := hd.parent?_of_mem_elements hm
  exact Within.not_within_parent hd.acyclic hp (Within.self (contains_of_parent? hp))

end Document

namespace Outline

variable {o o' : Outline} {d d' : Document} {h k p : Handle}

/-! ## What is shown -/

/-- What the outline shows of its elements is as in the document, apart from elements that it does
not show. -/
def Faithful (o : Outline) (d : Document) : Prop :=
  ∀ k e, o.entries.get? k = some e →
    d.isElement k = true ∧ e = ⟨d.outer? k, (d.elements k).filter o.contains⟩

/-- The outline shows the attached elements of the document, which has one outermost element. -/
structure Mirrors (o : Outline) (d : Document) : Prop where
  single : ∃ r, d.elements Document.top = [r]
  root : o.root = d.root?
  shown : ∀ k, d.isElement k = true → d.Within Document.top k →
    o.entries.get? k = some ⟨d.outer? k, d.elements k⟩
  hidden : ∀ k, o.contains k = true → d.isElement k = true ∧ d.Within Document.top k

theorem Mirrors.contains_iff (hm : Mirrors o d) :
    o.contains k = true ↔ d.isElement k = true ∧ d.Within Document.top k := by
  constructor
  · exact hm.hidden k
  · rintro ⟨he, hw⟩
    rw [contains, Table.contains, hm.shown k he hw]
    rfl

/-- An outline that is faithful to a document and shows its attached elements mirrors it. -/
theorem Faithful.mirrors (hf : Faithful o d) (hd : d.Linked)
    (hsingle : ∃ r, d.elements Document.top = [r]) (hroot : o.root = d.root?)
    (hshows : ∀ k, o.contains k = true ↔ d.isElement k = true ∧ d.Within Document.top k) :
    Mirrors o d where
  single := hsingle
  root := hroot
  shown := by
    intro k he hw
    have hc := (hshows k).mpr ⟨he, hw⟩
    rw [contains, Table.contains, Option.isSome_iff_exists] at hc
    obtain ⟨e, hent⟩ := hc
    have hall : (d.elements k).filter o.contains = d.elements k := by
      apply List.filter_eq_self.mpr
      intro c hc
      exact (hshows c).mpr
        ⟨(Document.mem_elements.mp hc).2, hw.step (hd.parent?_of_mem_elements hc)⟩
    rw [hent, (hf k e hent).2, hall]
  hidden := fun k hk => (hshows k).mp hk

/-- An outline mirrors every document whose attached elements are the same. -/
theorem Mirrors.congr (hm : Mirrors o d)
    (hw : ∀ k, d'.isElement k = true ∧ d'.Within Document.top k ↔
      d.isElement k = true ∧ d.Within Document.top k)
    (hk : ∀ k, d.isElement k = true → d.Within Document.top k →
      d'.outer? k = d.outer? k ∧ d'.elements k = d.elements k)
    (htop : d'.elements Document.top = d.elements Document.top) : Mirrors o d' where
  single := by rw [htop]; exact hm.single
  root := by rw [Document.root?, htop]; exact hm.root
  shown := by
    intro k he hin
    obtain ⟨he, hin⟩ := (hw k).mp ⟨he, hin⟩
    rw [hm.shown k he hin, (hk k he hin).1, (hk k he hin).2]
  hidden := fun k hc => (hw k).mpr (hm.hidden k hc)

/-! ## Taking in -/

/-- An element that joins those that are listed is put where it belongs. -/
theorem insertIdx_filter {l : List Handle} {P : Handle → Bool} (hnd : l.Nodup) (hh : h ∈ l)
    (hP : P h = false) :
    (l.filter P).insertIdx
        (min (((l.filter fun c => c = h || P c).idxOf? h).getD 0) (l.filter P).length) h =
      l.filter fun c => c = h || P c := by
  obtain ⟨xs, ys, rfl⟩ := List.append_of_mem hh
  have hout := (List.nodup_middle.mp hnd)
  rw [List.nodup_cons, List.mem_append, not_or] at hout
  have hsame : ∀ zs : List Handle, h ∉ zs → (zs.filter fun c => c = h || P c) = zs.filter P := by
    intro zs hz
    apply List.filter_congr
    intro c hc
    have : c ≠ h := fun he => hz (he ▸ hc)
    simp [this]
  have hwhole : ((xs ++ h :: ys).filter fun c => c = h || P c) =
      xs.filter P ++ h :: ys.filter P := by
    rw [List.filter_append, List.filter_cons_of_pos (by simp), hsame xs hout.1.1,
      hsame ys hout.1.2]
  have hindex : (xs.filter P ++ h :: ys.filter P).idxOf? h = some (xs.filter P).length := by
    have hmem : h ∈ xs.filter P ++ h :: ys.filter P := by simp
    have hnd' : (xs.filter P ++ h :: ys.filter P).Nodup := hwhole ▸ hnd.filter _
    obtain ⟨i, hi⟩ := Document.idxOf?_isSome_of_mem hmem
    obtain ⟨us, vs, hus, rfl⟩ := Document.exists_split_of_idxOf? hi
    rw [hi, (Document.split_unique hnd' hus).1]
  rw [hwhole, hindex, List.filter_append, List.filter_cons_of_neg (by simp [hP]),
    Option.getD_some, List.length_append, Nat.min_eq_left (by omega)]
  exact Lists.insertIdx_append _ _ h

/-- Placing an element keeps the outline faithful. -/
theorem Faithful.place (hf : Faithful o d) (hd : d.Forest) (he : d.isElement h = true)
    (hnew : o.contains h = false) (hin : ∀ c ∈ d.elements h, o.contains c = false) :
    Faithful (o.place d h) d := by
  have hcontains : (o.place d h).contains = fun k => decide (k = h) || o.contains k := by
    funext k
    exact contains_place o d h k
  have hown : (d.elements h).filter (o.place d h).contains = [] := by
    apply List.filter_eq_nil_iff.mpr
    intro c hc
    have hne : c ≠ h := by
      rintro rfl
      exact hd.not_mem_elements_self hc
    simp [hcontains, hne, hin c hc]
  have hother : ∀ k, h ∉ d.elements k →
      (d.elements k).filter (o.place d h).contains = (d.elements k).filter o.contains := by
    intro k hk
    apply List.filter_congr
    intro c hc
    have hne : c ≠ h := fun heq => hk (heq ▸ hc)
    simp [hcontains, hne]
  -- its parent lists it now; the entries of all other elements are as they were
  intro k e hk
  cases hout : d.outer? h with
  | some p =>
    have hp := Document.outer?_eq_some_iff.mp hout
    have hentries : (o.place d h).entries = (o.list d p h).insert h { parent := some p } := by
      rw [Outline.place, ← Document.outer?, hout]
    rw [hentries, Table.get?_insert] at hk
    split_ifs at hk with hkh
    · subst hkh
      obtain rfl := Option.some.inj hk
      exact ⟨he, by rw [hown, hout]⟩
    · rw [Outline.list, Table.get?_modify] at hk
      split_ifs at hk with hkp
      · obtain ⟨e₀, hold, rfl⟩ := Option.map_eq_some_iff.mp hk
        obtain ⟨hke, rfl⟩ := hf k e₀ hold
        subst hkp
        refine ⟨hke, ?_⟩
        have hmem := hd.toLinked.mem_elements_of_parent? hp.1 he
        rw [hcontains, Entry.mk.injEq]
        exact ⟨rfl, insertIdx_filter (hd.nodup_elements k) hmem hnew⟩
      · obtain ⟨hke, rfl⟩ := hf k e hk
        refine ⟨hke, ?_⟩
        rw [hother k]
        intro hm
        have := hd.parent?_of_mem_elements hm
        rw [hp.1] at this
        exact hkp (Option.some.inj this).symm
  | none =>
    have hentries : (o.place d h).entries = o.entries.insert h {} := by
      rw [Outline.place, ← Document.outer?, hout]
    rw [hentries, Table.get?_insert] at hk
    split_ifs at hk with hkh
    · subst hkh
      obtain rfl := Option.some.inj hk
      exact ⟨he, by rw [hown, hout]⟩
    · obtain ⟨hke, rfl⟩ := hf k e hk
      refine ⟨hke, ?_⟩
      rw [hother k]
      intro hm
      have := Document.outer?_eq_some_iff.mpr ⟨hd.parent?_of_mem_elements hm, hke⟩
      rw [hout] at this
      simp at this

theorem root_place (o : Outline) (d : Document) (h : Handle) :
    (o.place d h).root = if d.outer? h = none then some h else o.root := by
  rw [place, ← Document.outer?]
  cases d.outer? h <;> rfl

/-- What the outline shows is right, and beside what it showed before it shows the elements with the
property. -/
structure Takes (o o' : Outline) (d : Document) (P : Handle → Prop) : Prop where
  faithful : Faithful o' d
  contains : ∀ k, o'.contains k = true ↔ o.contains k = true ∨ (d.isElement k = true ∧ P k)

/-- Elements of one parent are taken in one after the other. -/
theorem takes_foldl {f : Outline → Handle → Outline} (hd : d.Forest) {cs : List Handle}
    (hnd : cs.Nodup) (hpar : ∀ c ∈ cs, d.parent? c = some p)
    (hf : ∀ o, ∀ c ∈ cs, Faithful o d → (∀ k, d.Within c k → o.contains k = false) →
      Takes o (f o c) d (d.Within c) ∧ (f o c).root = o.root)
    (ho : Faithful o d) (hout : ∀ c ∈ cs, ∀ k, d.Within c k → o.contains k = false) :
    Takes o (cs.foldl f o) d (fun k => ∃ c ∈ cs, d.Within c k) ∧ (cs.foldl f o).root = o.root := by
  induction cs generalizing o with
  | nil => exact ⟨⟨ho, by simp⟩, rfl⟩
  | cons c cs ih =>
    rw [List.nodup_cons] at hnd
    obtain ⟨hone, hroot⟩ := hf o c (List.mem_cons_self ..) ho (hout c (List.mem_cons_self ..))
    -- the elements below the others are still missing
    have hrest : ∀ x ∈ cs, ∀ k, d.Within x k → (f o c).contains k = false := by
      intro x hx k hk
      by_contra hin
      rw [Bool.not_eq_false, hone.contains] at hin
      rcases hin with hold | ⟨-, hck⟩
      · rw [hout x (List.mem_cons_of_mem _ hx) k hk] at hold
        simp at hold
      · have := Within.eq_of_siblings hd.acyclic (hpar c (List.mem_cons_self ..))
          (hpar x (List.mem_cons_of_mem _ hx)) hck hk
        exact hnd.1 (this ▸ hx)
    obtain ⟨hall, hroot'⟩ := ih hnd.2 (fun x hx => hpar x (List.mem_cons_of_mem _ hx))
      (fun o x hx => hf o x (List.mem_cons_of_mem _ hx)) hone.faithful hrest
    rw [List.foldl_cons]
    refine ⟨⟨hall.faithful, ?_⟩, hroot'.trans hroot⟩
    intro k
    rw [hall.contains, hone.contains]
    simp only [List.mem_cons, exists_eq_or_imp]
    tauto

/-- With as much fuel as an element is high, the walk takes in all elements at and below it. -/
theorem takes_attachAux (hd : d.Forest) {height : Handle → Nat}
    (hh : ∀ k p, d.parent? k = some p → height k < height p) {fuel : Nat}
    (hfuel : height h < fuel) (he : d.isElement h = true) (ho : Faithful o d)
    (hout : ∀ k, d.Within h k → o.contains k = false) :
    Takes o (attachAux d fuel o h) d (d.Within h) ∧
      (attachAux d fuel o h).root = if d.outer? h = none then some h else o.root := by
  induction fuel generalizing h o with
  | zero => omega
  | succ fuel ih =>
    have hself : d.Within h h := Within.self (Document.contains_of_isElement he)
    have hpar : ∀ c ∈ d.elements h, d.parent? c = some h := fun c hc =>
      hd.parent?_of_mem_elements hc
    have hbelow : ∀ c ∈ d.elements h, ∀ k, d.Within c k → d.Within h k ∧ k ≠ h := by
      intro c hc k hk
      refine ⟨(hself.step (hpar c hc)).trans hk, ?_⟩
      rintro rfl
      exact Within.not_within_parent hd.acyclic (hpar c hc) hk
    -- the element is placed first, so that its own elements are still missing when their turn comes
    have hplaced : Faithful (o.place d h) d := by
      refine ho.place hd he (hout h hself) ?_
      intro c hc
      exact hout c (hself.step (hpar c hc))
    have hmissing : ∀ c ∈ d.elements h, ∀ k, d.Within c k → (o.place d h).contains k = false := by
      intro c hc k hk
      obtain ⟨hw, hne⟩ := hbelow c hc k hk
      rw [contains_place, hout k hw]
      simpa using hne
    have hstep : ∀ o, ∀ c ∈ d.elements h, Faithful o d →
        (∀ k, d.Within c k → o.contains k = false) →
        Takes o (attachAux d fuel o c) d (d.Within c) ∧ (attachAux d fuel o c).root = o.root := by
      intro o c hc hfc houtc
      have hlt := hh _ _ (hpar c hc)
      obtain ⟨htakes, hroot⟩ := ih (by omega) (Document.mem_elements.mp hc).2 hfc houtc
      refine ⟨htakes, ?_⟩
      -- an inner element has an outer one, so that the root stays
      have houter : d.outer? c = some h := Document.outer?_eq_some_iff.mpr ⟨hpar c hc, he⟩
      rw [hroot, if_neg (by simp [houter])]
    obtain ⟨hall, hroot⟩ := takes_foldl hd (hd.nodup_elements h) hpar hstep hplaced hmissing
    rw [attachAux, if_pos he]
    refine ⟨⟨hall.faithful, ?_⟩, hroot.trans (root_place o d h)⟩
    intro k
    rw [hall.contains, contains_place, Bool.or_eq_true, decide_eq_true_eq]
    constructor
    · rintro ((rfl | hold) | ⟨hke, c, hc, hw⟩)
      · exact Or.inr ⟨he, hself⟩
      · exact Or.inl hold
      · exact Or.inr ⟨hke, (hbelow c hc k hw).1⟩
    · rintro (hold | ⟨hke, hw⟩)
      · exact Or.inl (Or.inr hold)
      · rcases hw.cases_head hd.toLinked with rfl | ⟨c, hc, hck⟩
        · exact Or.inl (Or.inl rfl)
        · exact Or.inr ⟨hke, c, Document.mem_elements_of_within hd.toLinked hc hck hke, hck⟩

/-- An element is taken in with all elements below it. -/
theorem takes_attach (hd : d.Forest) (he : d.isElement h = true) (ho : Faithful o d)
    (hout : ∀ k, d.Within h k → o.contains k = false) :
    Takes o (o.attach d h) d (d.Within h) ∧
      (o.attach d h).root = if d.outer? h = none then some h else o.root := by
  obtain ⟨height, hh, hsize⟩ := hd.exists_height
  exact takes_attachAux hd hh (hsize h (Document.contains_of_isElement he)) he ho hout

/-- The outline of a whole document mirrors it. -/
theorem mirrors_ofDocument (hd : d.Forest) (hsingle : ∃ r, d.elements Document.top = [r]) :
    Mirrors (ofDocument d) d := by
  obtain ⟨r, hr⟩ := hsingle
  have hroot : d.root? = some r := by rw [Document.root?, hr]; rfl
  have hmem : r ∈ d.elements Document.top := by simp [hr]
  have hpar := hd.parent?_of_mem_elements hmem
  have houter : d.outer? r = none := by
    cases hq : d.outer? r with
    | none => rfl
    | some q =>
      obtain ⟨hp, he⟩ := Document.outer?_eq_some_iff.mp hq
      obtain rfl := Option.some.inj (hpar.symm.trans hp)
      rw [hd.isElement_top] at he
      simp at he
  have hnothing : ∀ k, ({} : Outline).contains k = false := fun _ => rfl
  obtain ⟨htakes, htop⟩ := takes_attach (o := {}) hd (Document.mem_elements.mp hmem).2
    (by intro k e hk; simp [Table.get?, Table.lookup] at hk) fun k _ => hnothing k
  have hof : ofDocument d = ({} : Outline).attach d r := by rw [ofDocument, hroot]
  rw [hof]
  refine htakes.faithful.mirrors hd.toLinked ⟨r, hr⟩ ?_ ?_
  · rw [htop, if_pos houter, hroot]
  · intro k
    rw [htakes.contains, hnothing]
    constructor
    · rintro (hfalse | ⟨he, hw⟩)
      · simp at hfalse
      · exact ⟨he, (Within.of_parent? hd.toLinked hpar).trans hw⟩
    · rintro ⟨he, hw⟩
      refine Or.inr ⟨he, ?_⟩
      rcases hw.cases_head hd.toLinked with rfl | ⟨c, hc, hck⟩
      · rw [hd.isElement_top] at he
        simp at he
      · have := Document.mem_elements_of_within hd.toLinked hc hck he
        rw [hr, List.mem_singleton] at this
        exact this ▸ hck

/-! ## Taking out -/

/-- The table shows all elements at and below the node, each with the elements inside it. -/
def Lists (es : Table Handle Entry) (d : Document) (h : Handle) : Prop :=
  ∀ k, d.Within h k → d.isElement k = true → ∃ e, es.get? k = some e ∧ e.children = d.elements k

/-- The second table is the first one without the elements with the property. -/
structure Drops (es es' : Table Handle Entry) (d : Document) (P : Handle → Prop) : Prop where
  size : es'.size ≤ es.size
  gone : ∀ k, d.isElement k = true → P k → es'.get? k = none
  kept : ∀ k, ¬ (d.isElement k = true ∧ P k) → es'.get? k = es.get? k

theorem Lists.drops {es es' : Table Handle Entry} {P : Handle → Prop} (hl : Lists es d h)
    (hd : Drops es es' d P) (hout : ∀ k, d.Within h k → ¬ P k) : Lists es' d h := by
  intro k hk he
  rw [hd.kept k fun hP => hout k hk hP.2]
  exact hl k hk he

/-- What is dropped one after the other is dropped in the end. -/
theorem Drops.trans {es es' es'' : Table Handle Entry} {P Q : Handle → Prop}
    (h₁ : Drops es es' d P) (h₂ : Drops es' es'' d Q) : Drops es es'' d fun k => P k ∨ Q k where
  size := Nat.le_trans h₂.size h₁.size
  gone := by
    intro k he hk
    by_cases hQ : Q k
    · exact h₂.gone k he hQ
    · rw [h₂.kept k fun hy => hQ hy.2]
      exact h₁.gone k he (hk.resolve_right hQ)
  kept := by
    intro k hk
    rw [h₂.kept k fun hy => hk ⟨hy.1, Or.inr hy.2⟩, h₁.kept k fun hy => hk ⟨hy.1, Or.inl hy.2⟩]

/-- Once an element is not shown itself, what is inside it still is. -/
theorem Lists.erase {es : Table Handle Entry} {c : Handle} (hd : d.Forest) (hl : Lists es d h)
    (hc : c ∈ d.elements h) : Lists (es.erase h) d c := by
  have hpar := hd.parent?_of_mem_elements hc
  have hself : d.Within h h := Within.self (hd.contains_parent hpar)
  intro k hk he
  rw [Table.get?_erase, if_neg]
  · exact hl k ((hself.step hpar).trans hk) he
  · rintro rfl
    exact Within.not_within_parent hd.acyclic hpar hk

/-- An element and what is inside it make up all that is below it: once the table no longer shows
the element itself, it remains to drop what is inside it. -/
theorem Drops.below {es rest es' : Table Handle Entry} (hd : d.Forest) (he : d.isElement h = true)
    (hsize : rest.size ≤ es.size)
    (hrest : ∀ k, rest.get? k = if k = h then none else es.get? k)
    (hdrops : Drops rest es' d fun k => ∃ c ∈ d.elements h, d.Within c k) :
    Drops es es' d (d.Within h) where
  size := Nat.le_trans hdrops.size hsize
  gone := by
    intro k hke hk
    rcases hk.cases_head hd.toLinked with rfl | ⟨c, hc, hck⟩
    · rw [hdrops.kept, hrest, if_pos rfl]
      rintro ⟨-, c, hc, hck⟩
      exact Within.not_within_parent hd.acyclic (hd.parent?_of_mem_elements hc) hck
    · exact hdrops.gone k hke ⟨c, Document.mem_elements_of_within hd.toLinked hc hck hke, hck⟩
  kept := by
    have hself : d.Within h h := Within.self (Document.contains_of_isElement he)
    intro k hk
    rw [hdrops.kept, hrest, if_neg]
    · rintro rfl
      exact hk ⟨he, hself⟩
    · rintro ⟨hke, c, hc, hck⟩
      exact hk ⟨hke, (hself.step (hd.parent?_of_mem_elements hc)).trans hck⟩

/-- Elements of one parent are taken out with all that is shown below them. Every level takes out
at least one element, so a table that is no larger than the fuel is walked completely. -/
theorem drops_eraseAll (hd : d.Forest) {fuel : Nat} {es : Table Handle Entry} {hs : List Handle}
    (hsize : es.size ≤ fuel) (hnd : hs.Nodup) (hpar : ∀ h ∈ hs, d.parent? h = some p)
    (hel : ∀ h ∈ hs, d.isElement h = true) (hl : ∀ h ∈ hs, Lists es d h) :
    Drops es (eraseAll fuel es hs) d fun k => ∃ h ∈ hs, d.Within h k := by
  induction fuel generalizing es hs p with
  | zero =>
    refine ⟨Nat.le_refl _, ?_, fun _ _ => rfl⟩
    intro k _ _
    show es.get? k = none
    exact Table.get?_eq_none_of_size (by omega) k
  | succ fuel ih =>
    rw [eraseAll]
    induction hs generalizing es with
    | nil => exact ⟨Nat.le_refl _, by simp, fun _ _ => rfl⟩
    | cons h hs ihs =>
      rw [List.nodup_cons] at hnd
      have hhe := hel h (List.mem_cons_self ..)
      have hhl := hl h (List.mem_cons_self ..)
      obtain ⟨e, he, hchildren⟩ := hhl h (Within.self (Document.contains_of_isElement hhe)) hhe
      have hlt := Table.size_erase_lt he
      have hfirst : Drops es (eraseAll fuel (es.erase h) e.children) d (d.Within h) := by
        rw [hchildren]
        refine Drops.below hd hhe (Table.size_erase_le es h) (Table.get?_erase es h) ?_
        exact ih (by omega) (hd.nodup_elements h) (fun c hc => hd.parent?_of_mem_elements hc)
          (fun c hc => (Document.mem_elements.mp hc).2) fun c hc => hhl.erase hd hc
      -- what is below one sibling is below no other one, so that the others are still listed
      have hdisjoint : ∀ x ∈ hs, ∀ k, d.Within x k → ¬ d.Within h k := by
        intro x hx k hxk hhk
        have := Within.eq_of_siblings hd.acyclic (hpar h (List.mem_cons_self ..))
          (hpar x (List.mem_cons_of_mem _ hx)) hhk hxk
        exact hnd.1 (this ▸ hx)
      have hothers : ∀ x ∈ hs, Lists (eraseAll fuel (es.erase h) e.children) d x := fun x hx =>
        (hl x (List.mem_cons_of_mem _ hx)).drops hfirst (hdisjoint x hx)
      have hrest := ihs (Nat.le_trans hfirst.size hsize) hnd.2
        (fun x hx => hpar x (List.mem_cons_of_mem _ hx))
        (fun x hx => hel x (List.mem_cons_of_mem _ hx)) hothers
      rw [List.foldl_cons]
      simp only [he, List.mem_cons, exists_eq_or_imp]
      exact hfirst.trans hrest

/-- The entries of the outline once the parent of an element no longer lists it. -/
def unlisted (o : Outline) (d : Document) (h : Handle) : Table Handle Entry :=
  (d.outer? h).elim o.entries fun p =>
    o.entries.modify p fun e => { e with children := e.children.filter (· ≠ h) }

theorem get?_unlisted (o : Outline) (d : Document) (h k : Handle) :
    (o.unlisted d h).get? k = if d.outer? h = some k then
      (o.entries.get? k).map fun e => { e with children := e.children.filter (· ≠ h) }
      else o.entries.get? k := by
  rw [unlisted]
  cases d.outer? h with
  | none => simp
  | some p =>
    rw [Option.elim_some, Table.get?_modify]
    simp only [Option.some.injEq, @eq_comm _ p k]

/-- To take out an element is to take out what is inside it, once its parent no longer lists it and
it is not shown itself. -/
theorem exists_rest_of_detach (hm : Mirrors o d) (he : d.isElement h = true)
    (hw : d.Within Document.top h) : ∃ rest : Table Handle Entry,
      (o.detach h).entries = eraseAll rest.size rest (d.elements h) ∧
      rest.size ≤ (o.unlisted d h).size ∧
      ∀ k, rest.get? k = if k = h then none else (o.unlisted d h).get? k := by
  rw [detach, hm.shown h he hw, unlisted]
  cases d.outer? h with
  | none => exact ⟨_, rfl, Table.size_erase_le _ _, Table.get?_erase _ _⟩
  | some p =>
    refine ⟨_, rfl, ?_, fun k => ?_⟩
    · rw [Option.elim_some, Table.size_modify, Table.size_modify]
      exact Table.size_erase_le _ _
    · rw [Option.elim_some, Table.get?_modify, Table.get?_modify, Table.get?_erase]
      split_ifs <;> rfl

/-- An element is taken out with all elements below it, and its parent no longer lists it. -/
theorem get?_detach (hm : Mirrors o d) (hd : d.Forest) (he : d.isElement h = true)
    (hw : d.Within Document.top h) (k : Handle) :
    (d.isElement k = true ∧ d.Within h k → (o.detach h).entries.get? k = none) ∧
    (¬ (d.isElement k = true ∧ d.Within h k) → (o.detach h).entries.get? k =
      if d.outer? h = some k then
        (o.entries.get? k).map fun e => { e with children := e.children.filter (· ≠ h) }
      else o.entries.get? k) := by
  obtain ⟨rest, hdetach, hsize, hrest⟩ := exists_rest_of_detach hm he hw
  -- the parent is not below the element, so there everything is listed as before
  have hlists : ∀ c ∈ d.elements h, Lists rest d c := by
    intro c hc k hk hke
    have hpar := hd.parent?_of_mem_elements hc
    have hhk := ((Within.self (Document.contains_of_isElement he)).step hpar).trans hk
    have hne : k ≠ h := by
      rintro rfl
      exact Within.not_within_parent hd.acyclic hpar hk
    have hout : d.outer? h ≠ some k := by
      intro hq
      exact Within.not_within_parent hd.acyclic (Document.outer?_eq_some_iff.mp hq).1 hhk
    rw [hrest, if_neg hne, get?_unlisted, if_neg hout, hm.shown k hke (hw.trans hhk)]
    exact ⟨_, rfl, rfl⟩
  have hinside := drops_eraseAll hd (Nat.le_refl rest.size) (hd.nodup_elements h)
    (fun c hc => hd.parent?_of_mem_elements hc) (fun c hc => (Document.mem_elements.mp hc).2)
    hlists
  have hdrops := Drops.below hd he hsize hrest hinside
  rw [hdetach]
  refine ⟨fun hk => hdrops.gone k hk.1 hk.2, fun hk => ?_⟩
  rw [hdrops.kept k hk, get?_unlisted]

/-- Nothing is taken out with a node that is not shown. -/
theorem detach_of_not_contains (hh : o.contains h = false) : o.detach h = o := by
  have hnone : o.entries.get? h = none := by
    simpa [contains, Table.contains] using hh
  rw [detach, hnone]

theorem root_detach (hm : Mirrors o d) (he : d.isElement h = true)
    (hw : d.Within Document.top h) {p : Handle} (hp : d.outer? h = some p) :
    (o.detach h).root = o.root := by
  rw [detach, hm.shown h he hw, hp]
  rfl

/-! ## Following a document -/

section Following

variable {taken given : Option Handle}

/-- The outline without an element, if there is one to take out. -/
def without (o : Outline) (taken : Option Handle) : Outline :=
  taken.elim o o.detach

/-- The outline with an element of a document, if there is one to take in. -/
def joined (o : Outline) (d : Document) (given : Option Handle) : Outline :=
  given.elim o (o.attach d)

/-- An element that is taken out is shown nowhere any more, and nothing else is lost. -/
theorem get?_without (hm : Mirrors o d) (hd : d.Forest)
    (ht : ∀ c, taken = some c → d.isElement c = true ∧ d.Within Document.top c) (k : Handle) :
    (d.isElement k = true → d.Within Document.top k → (∀ c, taken = some c → ¬ d.Within c k) →
      (o.without taken).entries.get? k =
        some ⟨d.outer? k, (d.elements k).filter fun c => taken ≠ some c⟩) ∧
    ((o.without taken).contains k = true → d.isElement k = true ∧ d.Within Document.top k ∧
      ∀ c, taken = some c → ¬ d.Within c k) := by
  cases htaken : taken with
  | none =>
    have hall : ((d.elements k).filter fun c => (none : Option Handle) ≠ some c) = d.elements k :=
      List.filter_eq_self.mpr (by simp)
    constructor
    · intro he hw _
      rw [hall]
      exact hm.shown k he hw
    · intro hc
      obtain ⟨he, hw⟩ := hm.hidden k hc
      exact ⟨he, hw, by simp⟩
  | some x =>
    obtain ⟨hxe, hxw⟩ := ht x htaken
    -- taking an element out takes out all below it, and its line in the list of its outer element
    obtain ⟨hgone, hkept⟩ := get?_detach hm hd hxe hxw k
    constructor
    · intro he hw hout
      show (o.detach x).entries.get? k = _
      rw [hkept fun hk => hout x rfl hk.2, hm.shown k he hw]
      split_ifs with hq
      · rw [Option.map_some]
        congr 3
        funext c
        simp [@eq_comm _ c x]
      · -- elsewhere the element was not listed
        rw [List.filter_eq_self.mpr]
        intro c hc
        rw [decide_eq_true_eq]
        rintro hxc
        obtain rfl := Option.some.inj hxc
        exact hq (Document.outer?_eq_some_iff.mpr ⟨hd.parent?_of_mem_elements hc, he⟩)
    · intro hc
      replace hc : (o.detach x).contains k = true := hc
      rw [contains, Table.contains] at hc
      have hout : ¬ (d.isElement k = true ∧ d.Within x k) := by
        intro hk
        rw [hgone hk] at hc
        simp at hc
      have hold : o.contains k = true := by
        rw [hkept hout] at hc
        split_ifs at hc
        · simpa [contains, Table.contains] using hc
        · exact hc
      obtain ⟨he, hw⟩ := hm.hidden k hold
      refine ⟨he, hw, ?_⟩
      intro c hxc hk
      obtain rfl := Option.some.inj hxc
      exact hout ⟨he, hk⟩

/-- The elements of one parent change: it loses the one that is taken from it, and gets the one that
is given to it. -/
structure Trades (d d' : Document) (p : Handle) (taken given : Option Handle) : Prop where
  forest : d.Forest
  forest' : d'.Forest
  relinked : d.Relinked d' p taken given
  within : d.Within Document.top p
  children : ((d'.children p).filter fun c => given ≠ some c) =
    (d.children p).filter fun c => taken ≠ some c
  gains : ∀ c, given = some c → d.CanHold p c ∧ d.isElement c = true
  loses : ∀ c, taken = some c → d.parent? c = some p ∧ d.isElement c = true
  /-- The outermost element is taken only if another one is given. -/
  single : p = Document.top → ∃ c, given = some c ∧ d'.elements Document.top = [c]

namespace Trades

theorem isElement_eq (ht : Trades d d' p taken given) : d'.isElement = d.isElement := by
  funext k
  exact Document.isElement_congr (ht.relinked.kind? k)

/-- Nothing below the one that is given was attached before. -/
theorem loose (ht : Trades d d' p taken given) {c : Handle} (hc : given = some c)
    (hk : d.Within c k) : ¬ d.Within Document.top k := by
  obtain ⟨hcan, -⟩ := ht.gains c hc
  exact fun hw => ht.forest.not_within_of_detached hw hcan.detached (hcan.ne_top ht.forest.toLinked)
    hk

theorem elements_of_ne (ht : Trades d d' p taken given) (hk : k ≠ p) :
    d'.elements k = d.elements k :=
  Document.elements_congr (ht.relinked.children k hk) fun x _ => ht.relinked.kind? x

/-- Apart from the one that is given, an element has the elements inside it that it had, apart from
the one that is taken. -/
theorem elements (ht : Trades d d' p taken given) (k : Handle) :
    ((d'.elements k).filter fun c => given ≠ some c) =
      (d.elements k).filter fun c => taken ≠ some c := by
  by_cases hkp : k = p
  · rw [hkp, Document.elements, Document.elements, List.filter_comm, ht.children, List.filter_comm,
      ht.isElement_eq]
  · rw [ht.elements_of_ne hkp]
    apply List.filter_congr
    intro c hc
    have hpar := ht.forest.parent?_of_mem_elements hc
    have hgiven : given ≠ some c := by
      intro hg
      rw [(ht.gains c hg).1.detached] at hpar
      simp at hpar
    have htaken : taken ≠ some c := by
      intro hx
      rw [(ht.loses c hx).1] at hpar
      exact hkp (Option.some.inj hpar).symm
    simp [hgiven, htaken]

/-- There is one outermost element before and after. -/
theorem exists_single (ht : Trades d d' p taken given) (hm : Mirrors o d) :
    ∃ r, d'.elements Document.top = [r] := by
  by_cases hp : p = Document.top
  · obtain ⟨c, -, hc⟩ := ht.single hp
    exact ⟨c, hc⟩
  · rw [ht.elements_of_ne (Ne.symm hp)]
    exact hm.single

/-! ### Taking out -/

/-- What is left is shown. -/
theorem entry_without (ht : Trades d d' p taken given) (hm : Mirrors o d)
    (he : d.isElement k = true) (hw : d.Within Document.top k)
    (hout : ∀ c, taken = some c → ¬ d.Within c k) : (o.without taken).entries.get? k =
      some ⟨d.outer? k, (d.elements k).filter fun c => taken ≠ some c⟩ :=
  (get?_without hm ht.forest (fun c hc => ⟨(ht.loses c hc).2, ht.within.step (ht.loses c hc).1⟩)
    k).1 he hw hout

/-- Nothing else is shown than what is left. -/
theorem contains_without (ht : Trades d d' p taken given) (hm : Mirrors o d) (k : Handle) :
    (o.without taken).contains k = true ↔ d.isElement k = true ∧ d.Within Document.top k ∧
      ∀ c, taken = some c → ¬ d.Within c k := by
  constructor
  · exact (get?_without hm ht.forest
      (fun c hc => ⟨(ht.loses c hc).2, ht.within.step (ht.loses c hc).1⟩) k).2
  · rintro ⟨he, hw, hout⟩
    rw [contains, Table.contains, ht.entry_without hm he hw hout]
    rfl

/-- What is left has the element around it that it had. -/
theorem outer?_eq (ht : Trades d d' p taken given) (hw : d.Within Document.top k)
    (hout : ∀ c, taken = some c → ¬ d.Within c k) : d'.outer? k = d.outer? k := by
  refine Document.outer?_congr ?_ fun q _ => congrFun ht.isElement_eq q
  rw [ht.relinked.parent?, if_neg, if_neg]
  · exact fun hc => hout k hc (Within.self hw.contains)
  · exact fun hc => ht.loose hc (Within.self hw.contains) hw

/-- Of the elements inside what is left, all are shown but the one that is given. -/
theorem filter_contains (ht : Trades d d' p taken given) (hm : Mirrors o d)
    (hw : d.Within Document.top k) (hout : ∀ c, taken = some c → ¬ d.Within c k) :
    (d'.elements k).filter (o.without taken).contains =
      (d'.elements k).filter fun c => given ≠ some c := by
  apply List.filter_congr
  intro c hc
  rw [Bool.eq_iff_iff, ht.contains_without hm, decide_eq_true_eq]
  have hpar := ht.forest'.parent?_of_mem_elements hc
  constructor
  · rintro ⟨-, hcw, -⟩ hg
    exact ht.loose hg (Within.self hcw.contains) hcw
  · intro hg
    have hne : taken ≠ some c := by
      intro hx
      rw [ht.relinked.parent?, if_neg hg, if_pos hx] at hpar
      simp at hpar
    rw [ht.relinked.parent?, if_neg hg, if_neg hne] at hpar
    refine ⟨ht.isElement_eq ▸ (Document.mem_elements.mp hc).2, hw.step hpar, ?_⟩
    intro x hx hxc
    cases hxc with
    | self _ => exact hne hx
    | step hxk hq =>
      obtain rfl := Option.some.inj (hpar.symm.trans hq)
      exact hout x hx hxk

/-- What is shown of what is left is right for the second document already. -/
theorem faithful_without (ht : Trades d d' p taken given) (hm : Mirrors o d) :
    Faithful (o.without taken) d' := by
  intro k e hk
  have hc : (o.without taken).contains k = true := by
    rw [contains, Table.contains, hk]
    rfl
  obtain ⟨he, hw, hout⟩ := (ht.contains_without hm k).mp hc
  rw [ht.entry_without hm he hw hout] at hk
  obtain rfl := Option.some.inj hk
  refine ⟨ht.isElement_eq ▸ he, ?_⟩
  rw [ht.outer?_eq hw hout, ht.filter_contains hm hw hout, ht.elements]

/-- Unless the outermost element is taken, it stays where it is. -/
theorem root_without (ht : Trades d d' p taken given) (hm : Mirrors o d)
    (hp : p ≠ Document.top) : (o.without taken).root = d'.root? := by
  have hsame : o.root = d'.root? := by
    rw [hm.root, Document.root?, Document.root?, ht.elements_of_ne (Ne.symm hp)]
  cases hx : taken with
  | none => exact hsame
  | some x =>
    obtain ⟨hxp, hxe⟩ := ht.loses x hx
    have hpe := ht.within.isElement_of_ne_top ht.forest.toLinked hp
      (ht.forest.kind_of_parent hxp)
    refine (root_detach hm hxe (ht.within.step hxp) (p := p) ?_).trans hsame
    exact Document.outer?_eq_some_iff.mpr ⟨hxp, hpe⟩

/-! ### Taking in -/

/-- The elements of the second document are those that are left and those that are given. -/
theorem attached_iff (ht : Trades d d' p taken given) (hm : Mirrors o d) (k : Handle) :
    d'.isElement k = true ∧ d'.Within Document.top k ↔ (o.without taken).contains k = true ∨
      (d'.isElement k = true ∧ ∃ c, given = some c ∧ d'.Within c k) := by
  rw [ht.relinked.within_top_iff ht.forest ht.within (fun c hc => (ht.gains c hc).1)
    fun c hc => (ht.loses c hc).1, ht.contains_without hm, ht.isElement_eq]
  constructor
  · rintro ⟨he, ⟨hw, hout⟩ | ⟨c, hc, hck⟩⟩
    · exact Or.inl ⟨he, hw, hout⟩
    · refine Or.inr ⟨he, c, hc, ht.relinked.within_given (ht.gains c hc).1.detached hc ?_ hck⟩
      intro x hx hcx
      exact ht.loose hc hcx (ht.within.step (ht.loses x hx).1)
  · rintro (⟨he, hw, hout⟩ | ⟨he, c, hc, hck⟩)
    · exact ⟨he, Or.inl ⟨hw, hout⟩⟩
    · exact ⟨he, Or.inr ⟨c, hc, ht.relinked.within_of_given hc hck⟩⟩

/-- The one that is given is the outermost element exactly if it is given to the document itself. -/
theorem root_joined (ht : Trades d d' p taken (some h)) (hm : Mirrors o d) :
    (if d'.outer? h = none then some h else (o.without taken).root) = d'.root? := by
  obtain ⟨hcan, -⟩ := ht.gains h rfl
  have hpar : d'.parent? h = some p := by rw [ht.relinked.parent?, if_pos rfl]
  by_cases hp : p = Document.top
  · obtain ⟨c, hc, hchildren⟩ := ht.single hp
    obtain rfl := Option.some.inj hc
    have hnone : d'.outer? h = none := by
      rw [Option.eq_none_iff_forall_ne_some]
      intro q hq
      obtain ⟨hq, hqe⟩ := Document.outer?_eq_some_iff.mp hq
      obtain rfl := Option.some.inj (hpar.symm.trans hq)
      rw [hp, ht.forest'.isElement_top] at hqe
      simp at hqe
    rw [if_pos hnone, Document.root?, hchildren]
    rfl
  · have hpe := ht.within.isElement_of_ne_top ht.forest.toLinked hp (by
      rcases hcan.kinds with ⟨-, hpe⟩ | ⟨-, hpk⟩
      · exact Or.inl hpe
      · exact hpk)
    have hsome : d'.outer? h = some p :=
      Document.outer?_eq_some_iff.mpr ⟨hpar, ht.isElement_eq ▸ hpe⟩
    rw [if_neg (by simp [hsome]), ht.root_without hm hp]

end Trades

/-- While the elements of one parent change, the outline follows: the one that is taken from it is
taken out, and then the one that is given to it is taken in. -/
theorem Mirrors.trades (hm : Mirrors o d) (ht : Trades d d' p taken given) :
    Mirrors ((o.without taken).joined d' given) d' := by
  have hfaithful := ht.faithful_without hm
  have hlinked := ht.forest'.toLinked
  cases given with
  | none =>
    have hp : p ≠ Document.top := by
      intro hp
      obtain ⟨c, hc, -⟩ := ht.single hp
      simp at hc
    refine hfaithful.mirrors hlinked (ht.exists_single hm) (ht.root_without hm hp) fun k => ?_
    rw [ht.attached_iff hm]
    simp
  | some c =>
    have hout : ∀ k, d'.Within c k → (o.without taken).contains k = false := by
      intro k hk
      by_contra hc
      rw [Bool.not_eq_false, ht.contains_without hm] at hc
      exact ht.loose rfl (ht.relinked.within_of_given rfl hk) hc.2.1
    obtain ⟨htakes, htop⟩ :=
      takes_attach ht.forest' (ht.isElement_eq ▸ (ht.gains c rfl).2) hfaithful hout
    refine htakes.faithful.mirrors hlinked (ht.exists_single hm)
      (htop.trans (ht.root_joined hm)) fun k => ?_
    rw [htakes.contains, ht.attached_iff hm]
    simp

end Following

end Outline

end GuidedXml
