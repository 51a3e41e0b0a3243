/-
# Kempt sessions

A session is kempt if all its parts agree with the document: what is known is known of live nodes,
everything has its label and its place, the outline shows the document, and, where texts are spared,
the registry of names is exact.

The main statements say that opened sessions are kempt, and that requests keep them so.
-/
import GuidedXml.Proofs.Conformance.Guided
import GuidedXml.Proofs.Editing.Mirroring
import GuidedXml.Proofs.Editing.Registry

namespace GuidedXml

open Schema (Constraint ContentModel SchemaFault)

/-! ## Before anything is known -/

namespace Workspace

variable {w w' : Workspace} {d : Document}

/-- Where nothing is known but bindings and claims, and these are in order, the stage is sane. -/
theorem sane_of_blank (hs : Sound (w, d)) (hr : Regular (w, d))
    (hw : w = {
      model := w.model
      whitelist := w.whitelist
      bindings := w.bindings
      claims := w.claims }) : Sane (w, d) := by
  have hempty : ∀ {α : Type} {k : Handle} {a : α}, ({} : Table Handle α).get? k ≠ some a := by
    intro α k a hk
    replace hk : none = some a := hk
    simp at hk
  refine ⟨hs, hr, ⟨?_, ?_, ?_⟩⟩
  · intro k hm
    dsimp only at hm
    rw [hw] at hm
    cases hm with
    | binding hk => exact hs.contains_of_bound hk
    | offers hk => exact absurd hk hempty
    | verdict hk => exact absurd hk hempty
    | relevance hk => exact absurd hk hempty
    | revision hk => exact absurd hk hempty
    | @recorded r hk => exact absurd hk List.not_mem_nil
  · intro r k hk
    dsimp only at hk
    rw [hw] at hk
    exact absurd hk List.not_mem_nil
  · intro h os hk
    dsimp only at hk
    rw [hw] at hk
    exact absurd hk hempty

end Workspace

namespace Session

open Outline (Mirrors)
open Workspace (Registered)

variable {strict sparing : Prop} {s s' : Session} {m : ContentModel} {rules : RuleBook}
  {settings : Settings} {d : Document} {allowed : Session → Request → Prop}

/-- All parts of the session agree with the document. -/
structure Kempt (strict sparing : Prop) (s : Session) : Prop where
  poised : Poised (s, none)
  tended : Tended strict (s, none)
  mirrors : Mirrors s.workspace.outline s.document
  registered : sparing → Registered s.workspace s.document

/-- Requests keep a session kempt. -/
theorem Kempt.answer (hk : Kempt strict sparing s) (r : Request)
    (hspare : sparing → s.SparesTexts r) : Kempt strict sparing (s.answer r).1 := by
  have hm : Moves sparing True (s, none) ((s.answer r).1, none) :=
    moves_answer hk.poised r hspare fun _ _ _ => trivial
  refine ⟨hm.poised hk.poised, hm.tended hk.poised hk.tended,
    hm.mirrors hk.poised hk.tended hk.mirrors, fun hsp => ?_⟩
  exact hm.registered hsp hk.poised (hk.registered hsp)

/-- Drawing the outline and evaluating the rules for the first time makes a session kempt. -/
theorem kempt_begin (hp : Poised (s, none)) (ht : Tended strict (s, none))
    (hr : Registered s.workspace s.document)
    (hsingle : ∃ r, s.document.elements Document.top = [r]) : Kempt strict sparing s.begin := by
  let u : Session :=
    { s with workspace := { s.workspace with outline := .ofDocument s.document } }
  have hu : Poised (u, none) := ⟨hp.sane.outline _, hp.hand⟩
  have hut : Tended strict (u, none) :=
    ⟨ht.tree, ht.distinct, ht.rooted, fun k => (ht.labelled k).congr rfl rfl rfl rfl rfl⟩
  have hum : Mirrors u.workspace.outline u.document :=
    Outline.mirrors_ofDocument hp.sane.orderly.forest hsingle
  have hur : Registered u.workspace u.document := hr.keep rfl rfl (fun _ => rfl) fun _ _ _ => rfl
  have hm : Move True True (u, none) (s.begin, none) := .judge (judges_checkRules u u.rules.ids)
  exact ⟨hm.poised hu, hm.tended hu hut, hm.mirrors hu hut hum, fun _ =>
    hm.registered trivial hu hur⟩

theorem poised_start (hd : d.Orderly) : Poised (start d m rules settings, none) := by
  have hstart := opened_start hd m rules settings
  have hnone : ∀ k c, (start d m rules settings).workspace.binding? k ≠ some c := by
    intro k c hk
    replace hk : none = some c := hk
    simp at hk
  refine ⟨Workspace.sane_of_blank hstart.tidy.sound ⟨?_, Claims.proper_empty, ?_⟩ rfl, by simp⟩
  · exact fun hk => absurd hk (hnone _ _)
  · exact fun hk => absurd hk List.not_mem_nil

theorem registered_start : Registered (start d m rules settings).workspace d := by
  refine ⟨fun name => ⟨[], rfl, by simp⟩, fun name k _ => ?_, by simp⟩
  exact iff_of_false List.not_mem_nil (Workspace.not_entitled_of_unbound rfl)

/-! ## New documents -/

theorem tended_start (htree : m.TreeShaped) (hdist : strict → m.AttributesDistinct) :
    Tended strict (start .empty m rules settings, none) := by
  have hnode : ∀ k : Handle, Document.empty.contains k = true → k = Document.top := by
    intro k hk
    have hlt : k.index < 1 := Document.index_lt_of_contains hk
    exact congrArg Handle.mk (by omega : k.index = 0)
  refine ⟨htree, hdist, fun k hk _ => Or.inl (hnode k hk), fun k => ?_⟩
  cases hk : Document.empty.contains k with
  | false => exact Workspace.labelled_of_not_contains hk
  | true =>
    rw [hnode k hk]
    exact Workspace.labelled_of_kind rfl rfl

/-- New sessions are kempt. -/
theorem kempt_create (htree : m.TreeShaped) (hdist : strict → m.AttributesDistinct)
    (hc : create m rules settings = .ok s) : Kempt strict sparing s := by
  obtain ⟨t, h, d, hcreate, happend, rfl⟩ := create_eq_begin hc
  obtain ⟨e, he, hkind⟩ := exists_of_kind? htree.kind?_root
  have hstart : Poised (start .empty m rules settings, none) :=
    poised_start Document.orderly_empty
  obtain ⟨hnext, hraise, -⟩ := Workspace.create_of_element hstart.sane.toSound he hkind
  -- the root is in hand after one move; putting it into the empty document is no move of a session
  have hmake : Move True True (start .empty m rules settings, none)
      ((start .empty m rules settings).withStage t, some h) := .make hcreate
  have hmade := hmake.poised hstart
  have htended := hmake.tended hstart (tended_start htree hdist)
  have hregistered := hmake.registered trivial hstart registered_start
  have hempty : (start .empty m rules settings).document = .empty := rfl
  rw [hempty, hcreate] at hnext hraise
  obtain rfl := Option.some.inj hnext
  obtain ⟨hr, hpl, hchildren⟩ := Document.relinked_append hmade.sane.orderly.toLinked happend
  have horder : d.Orderly := by
    refine hr.orderly hmade.sane.orderly ?_ (by intro x hx; simp at hx)
    intro x hx
    obtain rfl := Option.some.inj hx
    exact ⟨hpl.canHold, Nat.lt_of_lt_of_le
      (Document.index_lt_of_contains Document.orderly_empty.contains_top) hraise.new⟩
  have helement : d.isElement Document.empty.next = true := by
    rw [Document.isElement_congr (hr.kind? _)]
    exact hraise.isElement
  refine kempt_begin ⟨hmade.sane.relinked hr horder, by simp⟩ ?_ ?_ ⟨Document.empty.next, ?_⟩
  · exact ⟨htended.tree, htended.distinct, rooted_of_relinked hr htended.rooted, fun k =>
      (htended.labelled k).congr rfl rfl (hr.kind? k) (hr.name k) rfl⟩
  · refine hregistered.keep rfl rfl (fun _ => rfl) fun k _ _ => ?_
    exact Document.value_append hmade.sane.orderly.toLinked happend
      (Workspace.not_isText_of_kinds (Or.inl hraise.isElement)) k
  · have hold := (hraise.document.lookups Document.orderly_empty.contains_top).2.2.2.2
    have hall : d.children Document.top = [Document.empty.next] := by
      rw [hchildren]
      exact congrArg (· ++ [Document.empty.next]) hold
    show d.elements Document.top = _
    rw [Document.elements, hall, List.filter_cons_of_pos helement]
    rfl

/-! ## Given documents -/

/-- Sessions with a given document are kempt, if there is nothing beside its outermost element. -/
theorem kempt_ofDocument (htree : m.TreeShaped) (hdist : strict → m.AttributesDistinct)
    (hd : d.Orderly) (hrooted : d.Rooted fun _ => False) {r : Handle}
    (hinside : d.inside Document.top = [r]) (hr : d.isElement r = true)
    (ho : ofDocument d m rules settings = .ok s) : Kempt strict sparing s := by
  obtain ⟨r', w, hroot, hbind, rfl⟩ := ofDocument_eq_begin ho
  have helements : d.elements Document.top = [r] := by
    have hmem : r ∈ d.inside Document.top := by rw [hinside]; exact List.mem_singleton_self r
    have hin := hd.mem_elements_of_parent? (hd.parent?_of_mem hmem) hr
    have hsub : (d.elements Document.top).Sublist [r] := by
      rw [← hinside]
      exact List.filter_sublist.trans (List.sublist_append_right _ _)
    rcases List.sublist_singleton.mp hsub with hnil | hone
    · rw [hnil] at hin
      simp at hin
    · exact hone
  obtain rfl : r = r' := by
    rw [Document.root?, helements] at hroot
    exact Option.some.inj hroot
  have hstart : Poised (start d m rules settings, none) := poised_start hd
  -- nothing is bound yet, so all of the document may count as new
  have hbuilds := Workspace.builds_bind (w := (start d m rules settings).workspace) (n := 0)
    (h := r) hd (Nat.zero_le _) (fun _ _ => rfl) ContentModel.root
  have hrebinds := Workspace.rebinds_bind hd.toLinked (start d m rules settings).workspace r
    ContentModel.root
  have hlabelled := fun k (hk : d.Within r k) => Workspace.labelled_of_bind
    (w := (start d m rules settings).workspace) (c := ContentModel.root) hd.forest htree
    (by rw [hbind]) hk
  rw [hbind] at hbuilds hrebinds hlabelled
  have hsound := hbuilds.sound hstart.sane.toSound
  have hregular := hbuilds.regular hstart.sane.toSound hstart.sane.toRegular
  have hw := hbuilds.workspace
  dsimp only [start] at hw
  refine kempt_begin ⟨Workspace.sane_of_blank hsound hregular ?_, by simp⟩ ?_ ?_ ⟨r, helements⟩
  · show w = _
    rw [hw]
  · refine ⟨?_, ?_, hrooted.mono fun _ hf => absurd hf not_false, fun k => ?_⟩
    · exact hrebinds.model ▸ htree
    · exact hrebinds.model ▸ hdist
    · cases hk : d.contains k with
      | false => exact Workspace.labelled_of_not_contains hk
      | true =>
        -- the document itself needs no label, and everything else is below the outermost element
        rcases (hrooted.within_top hd hk).cases_head hd.toLinked with rfl | ⟨x, hx, hwithin⟩
        · exact Workspace.labelled_of_kind (hd.isElement_top)
            (show d.isAttribute Document.top = false by simp [Document.isAttribute, hd.kind?_top])
        · rw [hinside, List.mem_singleton] at hx
          exact hlabelled k (hx ▸ hwithin)
  · exact hbuilds.enlisted hstart.sane.toSound hstart.sane.toRegular (fun _ _ => trivial)
      registered_start

/-- Loaded sessions are kempt. -/
theorem kempt_load {xml : String} {modelOf : String → Except SchemaFault ContentModel}
    (htree : s.workspace.model.TreeShaped) (hdist : strict → s.workspace.model.AttributesDistinct)
    (hl : load xml modelOf rules settings = .ok s) : Kempt strict sparing s := by
  obtain ⟨d, m, hread, ho⟩ := load_eq_ok hl
  obtain ⟨root, hproper, hkind, rfl⟩ := Document.eq_ofTree_of_read hread
  obtain ⟨hinside, hr⟩ := Document.inside_top_ofTree hkind
  rw [model_ofDocument (Document.orderly_ofTree hproper hkind).toLinked ho] at htree hdist
  exact kempt_ofDocument htree hdist (Document.orderly_ofTree hproper hkind)
    (Document.rooted_ofTree hproper hkind) hinside hr ho

/-! ## Runs -/

/-- Notices have nothing to do with the offers. -/
theorem Fresh.notices (hf : s.Fresh) (ns : List Notice) (n : Nat) :
    Fresh { s with notices := ns, taken := n } := by
  intro h os hos
  obtain ⟨c, hb, heq⟩ := hf h os hos
  have hsame : Unmoved s { s with notices := ns, taken := n } h :=
    ⟨rfl, Document.Undisturbed.refl _ h, rfl, fun _ _ => rfl, rfl⟩
  exact ⟨c, hb, heq.trans (makeOffers_congr hsame c).symm⟩

/-- Notices have nothing to do with the document and the workspace. -/
theorem Kempt.notices (hk : Kempt strict sparing s) (ns : List Notice) (n : Nat) :
    Kempt strict sparing { s with notices := ns, taken := n } :=
  ⟨⟨hk.poised.sane, hk.poised.hand⟩,
    ⟨hk.tended.tree, hk.tended.distinct, hk.tended.rooted, hk.tended.labelled⟩, hk.mirrors,
    hk.registered⟩

/-- Sessions that arise are tidy and keep fresh offers. -/
theorem Arises.fresh (ha : Arises allowed s) : s.Tidy ∧ s.Fresh := by
  induction ha with
  | created hc =>
    have hr : Reached anything _ [] := .created hc
    exact ⟨hr.staleOrFresh.1, hr.staleOrFresh.2.1⟩
  | loaded hl =>
    have hr : Reached anything _ [] := .loaded hl
    exact ⟨hr.staleOrFresh.1, hr.staleOrFresh.2.1⟩
  | @asked s r _ _ ih =>
    obtain ⟨htidy, hfresh, -⟩ := staleOrFresh_answer ih.1 ih.2 r
    exact ⟨htidy, hfresh⟩
  | notified n _ ih => exact ⟨⟨ih.1.sound, ih.1.bound_of_kept⟩, ih.2.notices _ _⟩
  | noticed _ ih => exact ⟨⟨ih.1.sound, ih.1.bound_of_kept⟩, ih.2.notices _ _⟩

/-- Sessions that arise are kempt, and so is their registry of names where texts are spared. -/
theorem Arises.kempt (ha : Arises allowed s)
    (hspare : sparing → ∀ s r, allowed s r → s.SparesTexts r)
    (htree : s.workspace.model.TreeShaped)
    (hdist : strict → s.workspace.model.AttributesDistinct) : Kempt strict sparing s := by
  induction ha with
  | created hc =>
    rw [model_create hc] at htree hdist
    exact kempt_create htree hdist hc
  | loaded hl => exact kempt_load htree hdist hl
  | @asked s r ha hr ih =>
    have hm := model_answer ha.fresh.1 r
    rw [hm] at htree hdist
    exact (ih htree hdist).answer r fun hsp => hspare hsp s r hr
  | notified n _ ih => exact (ih htree hdist).notices _ _
  | noticed _ ih => exact (ih htree hdist).notices _ _

theorem Reached.kempt {allowed : List Offer → Request → Prop} {seen : List Offer}
    (hr : Reached allowed s seen) (htree : s.workspace.model.TreeShaped)
    (hdist : strict → s.workspace.model.AttributesDistinct) : Kempt strict False s :=
  hr.arises.kempt False.elim htree hdist

/-! ## A roster -/

/-- A content model with any number of entries, whose texts are names. -/
def roster : ContentModel :=
  let m := (ContentModel.ofRoot (.ofElement "roster" .once)).add ContentModel.root
    ((Constraint.ofElement "entry" .any).typed "ID")
  (m.1.add ContentModel.root (.ofAttribute "year" .optional)).1

theorem built_roster : roster.Built := by
  refine .add (.add (.ofRoot rfl) ?_) ?_ <;> decide

theorem attributesDistinct_roster : roster.AttributesDistinct := by
  decide

/-- The session of a new roster. -/
def newRoster : Session :=
  match create roster {} {} with
  | .ok s => s
  | .error _ => start .empty roster {} {}

theorem create_roster : create roster {} {} = .ok newRoster := rfl

/-- The roster once it was given a year and two entries of the same name. -/
def twins : Session :=
  let requests : List Request := [.addAttribute ⟨2⟩ ⟨1⟩, .addNode ⟨1⟩ ⟨1⟩ none,
    .setValue ⟨3⟩ "ada", .addNode ⟨1⟩ ⟨1⟩ (some ⟨3⟩), .setValue ⟨5⟩ "ada"]
  requests.foldl (fun s r => (s.answer r).1) newRoster

theorem arises_twins : Arises SparesTexts twins :=
  (((((Arises.created create_roster).asked (r := .addAttribute ⟨2⟩ ⟨1⟩) trivial).asked
    (r := .addNode ⟨1⟩ ⟨1⟩ none) trivial).asked (r := .setValue ⟨3⟩ "ada") trivial).asked
    (r := .addNode ⟨1⟩ ⟨1⟩ (some ⟨3⟩)) trivial).asked (r := .setValue ⟨5⟩ "ada") trivial

end Session

end GuidedXml
