/-
# The registry of names

The lines of claims follow the document: in line for a name are exactly the nodes that show it and
whose constraints make it a name. This holds as long as no text is removed by itself.

The main statements say this for runs of sparing moves, and that those who stay in a line stay in
their order while others join behind them.
-/
import GuidedXml.Proofs.Editing.Requests

namespace GuidedXml

open Schema (ConstraintId)

namespace Workspace

variable {w w' : Workspace} {d d' : Document} {h k : Handle} {c : ConstraintId} {name : String}

/-- In line for a name are exactly the nodes that are entitled to it. -/
def Registered (w : Workspace) (d : Document) : Prop :=
  Enlisted (fun _ => True) {} (w, d)

namespace Registered

theorem mem_candidates_iff (hr : Registered w d) :
    h ∈ w.claims.candidates name ↔ Entitled (w, d) name h :=
  hr.mem_iff name h trivial

/-- Claims are compared by their lines. -/
theorem same (hr : Registered w d) (hw : w.Same w') (hn : ∀ k, d'.node? k = d.node? k) :
    Registered w' d' := by
  have hvalue : ∀ k, d'.value k = d.value k := fun k => by
    have htext : d'.isText = d.isText := funext fun k =>
      Document.isText_congr (Document.lookups_congr (hn k)).1
    rw [Document.value, Document.value, funext hn, htext]
  have hlines : ∀ name, w'.claims.candidates name = w.claims.candidates name := fun name => by
    rw [Claims.candidates, Claims.candidates, Table.getD, Table.getD, hw.claims]
  refine ⟨fun name => ⟨w'.claims.candidates name, rfl, fun _ _ => trivial⟩, ?_, by simp⟩
  intro name k _
  show k ∈ w'.claims.candidates name ↔ _
  have hsame : Entitled (w', d') name k ↔ Entitled (w, d) name k :=
    entitled_congr hw.model (hw.bindings k) fun _ _ => hvalue k
  rw [hlines, hr.mem_candidates_iff, hsame]

end Registered

end Workspace

namespace Session

open Workspace (Registered Enlisted Entitled)

variable {sparing writing : Prop} {s s' : Session} {t t' : Stance} {h k p : Handle}
  {c : ConstraintId} {value : String}

/-! ## Setting values -/

section Values

variable (hs : Workspace.Sane (s.workspace, s.document)) (hset : SetsValue s h value s')

include hs hset

/-- The node shows the value, and the other bound nodes show what they showed. -/
theorem value_of_setsValue (hb : s.workspace.binding? h = some c) :
    s'.document.value h = value ∧ ∀ k i, s.workspace.binding? k = some i → k ≠ h →
      s'.document.value k = s.document.value k := by
  obtain ⟨hown, hothers⟩ := Document.value_setValue hs.orderly hset.document
    (Workspace.not_isText_of_kinds (hs.kinds hb))
  exact ⟨hown, fun k i hk hne =>
    hothers k (hs.contains_of_bound hk) (Workspace.not_isText_of_kinds (hs.kinds hk)) hne⟩

/-- A node whose name changes moves from the one line to the other, as if it was unbound, and bound
again once it shows the value. -/
theorem registered_of_renamed (hr : Registered s.workspace s.document)
    (hb : s.workspace.binding? h = some c) (hnaming : s.workspace.isNaming c = true)
    (hw : s'.workspace = { s.workspace with
      claims := (s.workspace.claims.release (s.document.value h) h).1.register value h
      verdicts := s'.workspace.verdicts
      relevant := s'.workspace.relevant
      recorded := s'.workspace.recorded }) : Registered s'.workspace s'.document := by
  obtain ⟨hown, hother⟩ := value_of_setsValue hs hset hb
  let w₁ : Workspace := { s.workspace with
    bindings := s.workspace.bindings.erase h
    claims := (s.workspace.claims.release (s.document.value h) h).1 }
  have hb₁ : ∀ k, w₁.binding? k = if k = h then none else s.workspace.binding? k := fun k =>
    Table.get?_erase s.workspace.bindings h k
  have hreleased : Enlisted (fun _ => True) {} (w₁, s.document) :=
    hr.release hs.proper trivial rfl rfl hb₁
  have hshown : Enlisted (fun _ => True) {} (w₁, s'.document) := by
    refine hreleased.keep rfl rfl (fun _ => rfl) fun k i hk => ?_
    rw [hb₁] at hk
    split_ifs at hk with hkh
    exact hother k i hk hkh
  have hbound := hshown.bindNode (h := h) trivial ((hb₁ h).trans (if_pos rfl)) c
  refine hbound.keep ?_ ?_ ?_ fun _ _ _ => rfl
  · rw [hw]
    show _ = if w₁.isNaming c then w₁.claims.register (s'.document.value h) h else w₁.claims
    rw [show w₁.isNaming c = true from hnaming, if_pos rfl, hown]
  · rw [hw]
    rfl
  · intro k
    rw [hw]
    refine Eq.trans ?_ (Workspace.binding?_bindNode w₁ s'.document h k c).symm
    rw [hb₁]
    split_ifs with hkh
    · exact hkh ▸ hb
    · rfl

/-- A node that is no name, or shows what it showed, is entitled to what it was entitled to. -/
theorem entitled_of_kept (hb : s.workspace.binding? h = some c)
    (hkept : s.workspace.isNaming c = true → s.document.value h = value)
    (hmodel : s'.workspace.model = s.workspace.model)
    (hbinding : ∀ k, s'.workspace.binding? k = s.workspace.binding? k) (name : String)
    (k : Handle) : Entitled (s'.workspace, s'.document) name k ↔
      Entitled (s.workspace, s.document) name k := by
  obtain ⟨hown, hother⟩ := value_of_setsValue hs hset hb
  by_cases hnaming : k = h ∧ s.workspace.isNaming c ≠ true
  · obtain ⟨rfl, hnot⟩ := hnaming
    have hno : ∀ {t : Workspace.Stage}, t.1.model = s.workspace.model →
        t.1.binding? k = s.workspace.binding? k → ¬ Entitled t name k := by
      rintro t hm hbk ⟨-, -, i, hi, hn⟩
      obtain rfl := Option.some.inj (hb.symm.trans (hbk.symm.trans hi))
      exact hnot ((Workspace.isNaming_congr hm c).symm.trans hn)
    exact iff_of_false (hno hmodel (hbinding k)) (hno rfl rfl)
  · refine Workspace.entitled_congr hmodel (hbinding k) fun i hi => ?_
    by_cases hkh : k = h
    · subst hkh
      have hn : s.workspace.isNaming c = true := by
        by_contra hn
        exact hnaming ⟨rfl, hn⟩
      exact hown.trans (hkept hn).symm
    · exact hother k i hi hkh

/-- Once a value is set, those are in line who are entitled. -/
theorem registered_of_setsValue (hr : Registered s.workspace s.document) :
    Registered s'.workspace s'.document := by
  obtain ⟨c, hb, hw⟩ := hset.exists_claims
  by_cases hren : (s.workspace.isNaming c && s.document.value h ≠ value) = true
  · rw [reclaimed, if_pos hren] at hw
    exact registered_of_renamed hs hset hr hb (Bool.and_eq_true_iff.mp hren).1 hw
  · rw [reclaimed, if_neg hren] at hw
    have hkept : s.workspace.isNaming c = true → s.document.value h = value := by
      intro hn
      by_contra hv
      exact hren (by simp [hn, hv])
    refine hr.congr (by rw [hw]) fun name k _ =>
      entitled_of_kept hs hset hb hkept (by rw [hw]) (fun k => ?_) name k
    rw [hw]
    rfl

end Values

/-! ## Moves -/

/-- Lines have nothing to do with what is offered and found out. -/
theorem registered_of_quiet (hr : Registered s.workspace s.document) (hq : Quiet s s') :
    Registered s'.workspace s'.document := by
  refine hr.keep ?_ hq.model hq.binding? fun _ _ _ => ?_
  · rw [hq.workspace]
  · rw [hq.document]

/-- A sparing move keeps in line those who are entitled. -/
theorem Move.registered (hm : Move sparing writing t t') (hsp : sparing) (hs : Poised t)
    (hr : Registered t.1.workspace t.1.document) :
    Registered t'.1.workspace t'.1.document := by
  have horder := hs.sane.orderly
  have hkinds : ∀ {k c}, t.1.workspace.binding? k = some c → t.1.document.isText k = false :=
    fun hb => Workspace.not_isText_of_kinds (hs.sane.kinds hb)
  cases hm with
  | judge hj => exact registered_of_quiet hr hj.quiet
  | giveUp p => exact registered_of_quiet hr (quiet_giveUp _ p)
  | look h => exact registered_of_quiet hr (quiet_offers _ h)
  | @make s t c h hc =>
    have hb := Workspace.builds_create hs.sane.toSound c
    rw [hc] at hb
    exact hb.enlisted hs.sane.toSound hs.sane.toRegular (fun _ _ => trivial) hr
  | @insert s d p h after hp hh hlt hd =>
    refine hr.keep rfl rfl (fun _ => rfl) fun k _ _ => ?_
    refine Document.value_insertAfter horder.toLinked hd ?_ k
    exact Workspace.not_isText_of_kinds (Or.inl hh)
  | give hlt hd =>
    refine hr.keep rfl rfl (fun _ => rfl) fun k _ _ => ?_
    exact Document.value_placeAttribute horder.toLinked hd k
  | @detach s d p h hp hspare hd =>
    refine hr.keep rfl rfl (fun _ => rfl) fun k _ _ => ?_
    exact Document.value_detach horder.toLinked (hs.relinked hp hd).2.1 hd (hspare hsp) k
  | @exchange s source d d' w node p old new c hsource hb hp hcopy hreplace hbind =>
    have hsw := hs.swapped hsource hp hcopy hreplace
    have hd : d.Linked := hsw.grows.sound.orderly.toLinked
    -- elements and attributes alone are bound, and so the exchange changes no text and no value
    have hnew : d.isText new = false := by
      rw [← Document.isText_congr (hsw.relinked.kind? new)]
      have he := Workspace.isElement_of_bind (w := s.workspace) (c := c) (by rw [hbind])
      exact Workspace.not_isText_of_kinds (Or.inl he)
    have hold : d.isText old = false := by
      rw [Document.isText_congr
        (hsw.grows.document.lookups (Document.contains_of_parent? hp)).1]
      exact hkinds hb
    have hcopied : Registered s.workspace d := hr.keep rfl rfl (fun _ => rfl) fun k c hk =>
      hsw.grows.document.value horder.toLinked (hs.sane.contains_of_bound hk)
    have hswapped : Registered s.workspace d' := hcopied.keep rfl rfl (fun _ => rfl) fun k _ _ =>
      Document.value_replaceChild hd hreplace hold hnew k
    have hbound := (hsw.builds hs.sane c).enlisted (hsw.sane hs.sane).toSound
      (hsw.sane hs.sane).toRegular (fun _ _ => trivial) hswapped
    rw [hbind] at hbound
    exact hbound.keep rfl rfl (fun _ => rfl) fun _ _ _ => rfl
  | @discard s d h hd =>
    have hpruned := hs.pruned hd
    have hforgets := Workspace.forgets_forget horder.forest s.workspace h
    have hforgot := hr.forget (h := h) hs.sane.toRegular horder.toLinked fun _ _ => trivial
    refine hforgot.keep rfl rfl (fun _ => rfl) fun k c hk => ?_
    refine hpruned.value horder.toLinked (hs.hand h rfl).detached fun hw => ?_
    rw [(hforgets.gone k hw).1] at hk
    simp at hk
  | setValue hwrite hv => exact registered_of_setsValue hs.sane (hs.setsValue hv) hr
  | undo hu => exact hr.same hu.workspace hu.node?

/-- Runs of sparing moves keep in line those who are entitled. -/
theorem Moves.registered (hm : Moves sparing writing t t') (hsp : sparing) (hs : Poised t)
    (hr : Registered t.1.workspace t.1.document) :
    Registered t'.1.workspace t'.1.document := by
  induction hm with
  | refl => exact hr
  | tail hm hlast ih => exact hlast.registered hsp (Moves.poised hm hs) ih

/-! ## Lines -/

/-- A move that sets no value takes nodes out of lines, and puts new ones behind. -/
theorem Move.follows (hm : Move sparing False t t') (hs : Poised t) :
    t.1.workspace.claims.Follows t.1.document.slots.size t'.1.workspace.claims := by
  have hstill := Claims.Follows.refl t.1.document.slots.size
  cases hm with
  | judge hj => rw [hj.quiet.workspace]; exact hstill _
  | giveUp p => rw [(quiet_giveUp _ p).workspace]; exact hstill _
  | look h => rw [(quiet_offers _ h).workspace]; exact hstill _
  | @make s t c h hc =>
    have hb := Workspace.builds_create hs.sane.toSound c
    rw [hc] at hb
    exact hb.follows
  | insert => exact hstill _
  | give => exact hstill _
  | detach => exact hstill _
  | @exchange s source d d' w node p old new c hsource hb hp hcopy hreplace hbind =>
    have hbuilds := (hs.swapped hsource hp hcopy hreplace).builds hs.sane c
    rw [hbind] at hbuilds
    exact hbuilds.follows
  | discard => exact Workspace.follows_forget _ _ _ _
  | setValue hwrite => exact hwrite.elim
  | undo hu =>
    intro name
    refine ⟨_, [], (List.append_nil _).symm, ?_, by simp⟩
    rw [Claims.candidates, Claims.candidates, Table.getD, Table.getD, hu.workspace.claims]

/-- So do runs of such moves. -/
theorem Moves.follows (hm : Moves sparing False t t') (hs : Poised t) :
    t.1.workspace.claims.Follows t.1.document.slots.size t'.1.workspace.claims := by
  have hboth : t.1.document.slots.size ≤ t'.1.document.slots.size ∧
      t.1.workspace.claims.Follows t.1.document.slots.size t'.1.workspace.claims := by
    induction hm with
    | refl => exact ⟨Nat.le_refl _, Claims.Follows.refl _ _⟩
    | tail hm hlast ih =>
      have hpoised := Moves.poised hm hs
      exact ⟨Nat.le_trans ih.1 (hlast.size hpoised),
        ih.2.trans ((hlast.follows hpoised).mono ih.1)⟩
  exact hboth.2

end Session

end GuidedXml
