/-
# Opened sessions

Where nodes are bound when a session is opened: all elements of a new document are good, and those of
a given one sit where binding has put them.

The main statements say that bound elements of opened sessions sit where their constraints are, and
that new documents conform.
-/
import GuidedXml.Proofs.Conformance.Creation
import GuidedXml.Proofs.Conformance.Reshaping
import GuidedXml.Proofs.Conformance.Seating
import GuidedXml.Proofs.Editing.Run

namespace GuidedXml.Session

open Schema (ConstraintId ContentModel)

variable {s : Session} {m : ContentModel} {rules : RuleBook} {settings : Settings} {d : Document}
  {h k : Handle}

/-! ## New documents -/

/-- What a new session is like: its outermost element is bound to the constraint of the root, and all
elements are good. -/
structure Planted (s : Session) (m : ContentModel) (h : Handle) : Prop where
  model : s.workspace.model = m
  forest : s.document.Forest
  elements : s.document.elements Document.top = [h]
  binding? : s.workspace.binding? h = some ContentModel.root
  good : ∀ k, s.document.isElement k = true → s.workspace.IsGood .strict s.document k

namespace Planted

/-- In a planted session everything is seated. -/
theorem seated (hp : Planted s m h) : s.Seated where
  root := by
    intro r hr
    rw [Document.root?, hp.elements, List.head?_cons] at hr
    rw [← Option.some.inj hr, hp.binding?]
  nodes := by
    intro k i hi he
    obtain ⟨j, hj, hseat, -⟩ := hp.good k he
    obtain rfl := Option.some.inj (hi.symm.trans hj)
    exact hseat

/-- A planted session conforms. -/
theorem isConforming (hp : Planted s m h) (htree : m.TreeShaped) (hflat : m.FlatUnambiguous) :
    s.IsConforming := by
  have he : s.document.isElement h = true := by
    have hmem : h ∈ s.document.elements Document.top := by
      rw [hp.elements]
      exact List.mem_singleton_self h
    exact (Document.mem_elements.mp hmem).2
  rw [← hp.model] at htree hflat
  refine ⟨h, hp.elements, (hp.seated.nodes h _ hp.binding? he).name, ?_⟩
  refine Workspace.conforms_of_good hp.forest htree hflat hp.good ?_ he hp.binding?
  exact fun k _ x hx => (Document.mem_elements.mp hx).2

end Planted

/-- Putting the element that was created into an empty document plants it. -/
theorem planted_of_append {stage : Workspace.Stage} (htree : m.TreeShaped)
    (hflat : m.FlatUnambiguous)
    (hc : (start .empty m rules settings).workspace.create .empty ContentModel.root =
      (stage, some h)) (ha : stage.2.append Document.top h = .ok d) :
    Planted { (start .empty m rules settings).withStage stage with document := d } m h := by
  have hstart := opened_start Document.orderly_empty m rules settings
  have hsound : Workspace.Sound ((start .empty m rules settings).workspace, .empty) :=
    hstart.tidy.sound
  obtain ⟨e, he, hk⟩ := exists_of_kind? htree.kind?_root
  obtain ⟨hnext, hraise, hbind⟩ := Workspace.create_of_element hsound he hk
  -- whatever creation makes is good, and putting it into the document moves nothing else
  have hgood := fun k hn => Workspace.good_of_create htree hflat
    (ContentModel.covers_strict _) hsound ContentModel.root
    (k := k) hn
  rw [hc] at hnext hraise hbind hgood
  obtain rfl := Option.some.inj hnext
  obtain ⟨hr, hpl, hchildren⟩ := Document.relinked_append hraise.sound.orderly.toLinked ha
  have htop := hraise.document.lookups hstart.tidy.linked.contains_top
  have helement : d.isElement (Document.empty).next = true := by
    rw [Document.isElement_congr (hr.kind? _)]
    exact hraise.isElement
  have horder : d.Orderly := by
    refine hr.orderly hraise.sound.orderly ?_ (by intro x hx; simp at hx)
    intro x hx
    obtain rfl := Option.some.inj hx
    exact ⟨hpl.canHold, Nat.lt_of_lt_of_le
      (Document.index_lt_of_contains hstart.tidy.linked.contains_top) hraise.new⟩
  refine ⟨hraise.workspace.model, horder.forest, ?_, hbind, ?_⟩
  · have hall : d.children Document.top = [(Document.empty).next] := by
      rw [hchildren, htop.2.2.2.2]
      rfl
    show d.elements Document.top = [(Document.empty).next]
    rw [Document.elements, hall, List.filter_cons_of_pos helement]
    rfl
  · -- all elements are new: before there was the document alone
    intro k hke
    replace hke : d.isElement k = true := hke
    rw [Document.isElement_congr (hr.kind? k)] at hke
    have hne : k ≠ Document.top := by
      rintro rfl
      rw [Document.isElement_congr htop.1, Document.orderly_empty.isElement_top] at hke
      simp at hke
    have hnew : (Document.empty).slots.size ≤ k.index := by
      by_contra hlt
      have hsize : (Document.empty).slots.size = 1 := rfl
      exact hne (congrArg Handle.mk (by omega : k.index = 0))
    exact (hgood k hnew hke).kept (hr.kept hne) rfl rfl rfl fun _ _ => rfl

/-- A session is created with the model that is given. -/
theorem model_create (hc : create m rules settings = .ok s) : s.workspace.model = m := by
  have hstart := opened_start Document.orderly_empty m rules settings
  obtain ⟨stage, h, d, hcreate, -, halike⟩ := create_eq_ok hc
  have hsound : Workspace.Sound ((start .empty m rules settings).workspace, .empty) :=
    hstart.tidy.sound
  have hg := (Workspace.create_loose hsound ContentModel.root).1
  rw [hcreate] at hg
  exact halike.workspace.model.trans hg.workspace.model

/-- A session on a document has the model that is given. -/
theorem model_ofDocument (hd : d.Linked) (ho : ofDocument d m rules settings = .ok s) :
    s.workspace.model = m := by
  obtain ⟨r, w, -, hbind, halike⟩ := ofDocument_eq_ok ho
  have hrebinds := Workspace.rebinds_bind hd (start d m rules settings).workspace r
    ContentModel.root
  rw [hbind] at hrebinds
  exact halike.workspace.model.trans hrebinds.model

/-- A session on a text has the model that is given. -/
theorem model_load {xml : String}
    (hl : load xml (fun _ => .ok m) rules settings = .ok s) : s.workspace.model = m := by
  unfold load at hl
  cases hd : Document.read xml with
  | error fault => rw [hd] at hl; simp at hl
  | ok d =>
    rw [hd] at hl
    simp only at hl
    cases hr : d.root? with
    | none => rw [hr] at hl; simp at hl
    | some r =>
      rw [hr] at hl
      exact model_ofDocument (Document.orderly_of_read hd).toLinked hl

/-- In a new session bound elements sit where their constraints are, and the document conforms. -/
theorem conforming_create (htree : m.TreeShaped) (hflat : m.FlatUnambiguous)
    (hc : create m rules settings = .ok s) : s.Seated ∧ s.IsConforming := by
  obtain ⟨stage, h, d, hcreate, happend, halike⟩ := create_eq_ok hc
  have hplanted := planted_of_append htree hflat hcreate happend
  exact ⟨halike.sameSeats.seated hplanted.seated,
    halike.sameSeats.isConforming (hplanted.isConforming htree hflat)⟩

/-! ## Given documents -/

/-- In a session with a given document bound elements sit where their constraints are. -/
theorem seated_ofDocument (hd : d.Forest) (ho : ofDocument d m rules settings = .ok s) :
    s.Seated := by
  obtain ⟨r, w, hr, hb, halike⟩ := ofDocument_eq_ok ho
  have hrebinds := Workspace.rebinds_bind hd.toLinked (start d m rules settings).workspace r
    ContentModel.root
  have htrue : ((start d m rules settings).workspace.bind d r ContentModel.root).2 = true := by
    rw [hb]
  obtain ⟨hroot, hall⟩ := Workspace.settled_of_bind hd htrue
  rw [hb] at hrebinds hroot hall
  have hbound : Seated { start d m rules settings with workspace := w } := by
    refine ⟨?_, ?_⟩
    · intro x hx
      rw [← Option.some.inj (hr.symm.trans hx)]
      exact hroot
    · intro k i hi he
      -- at first nothing is bound, so what is bound now lies below the root
      have hwithin : d.Within r k := by
        by_contra hout
        have hold : (none : Option ConstraintId) = some i :=
          (hrebinds.binding? k hout).symm.trans hi
        simp at hold
      obtain ⟨j, hj, hseat⟩ := hall k hwithin he
      obtain rfl := Option.some.inj (hi.symm.trans hj)
      exact hseat
  exact halike.sameSeats.seated hbound

end GuidedXml.Session
