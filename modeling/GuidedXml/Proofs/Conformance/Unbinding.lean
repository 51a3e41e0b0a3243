/-
# What failed binding leaves behind

An attempt to bind a subtree binds nodes and claims names on the way, also for elements that match
and are given up later because an element after them does not. What was bound in vain is unbound
again, and a node that is unbound withdraws the one claim that it has.

The main statement says that an attempt that failed leaves the bindings and the line of every name
as they were, if no node of the subtree was bound or in a line before.
-/
import GuidedXml.Proofs.Conformance.Bound
import GuidedXml.Proofs.Table

namespace GuidedXml

open Schema (ConstraintId ContentModel)

namespace Workspace

variable {d e : Document} {w w' : Workspace} {h k : Handle} {c : ConstraintId}
  {P : Handle → Prop}

/-! ## Claims of bound nodes -/

/-- The node has at most one claim: to the value that it shows, made while it is bound. -/
structure Backed (d : Document) (w : Workspace) (k : Handle) : Prop where
  once : ∀ name, (w.claims.candidates name).count k ≤ 1
  value : ∀ name, k ∈ w.claims.candidates name → d.value k = name
  bound : ∀ name, k ∈ w.claims.candidates name → w.binding? k ≠ none

/-- A node that is in no line has no claim to back. -/
theorem backed_of_not_mem (hk : ∀ name, k ∉ w.claims.candidates name) : Backed d w k where
  once := fun name => by rw [List.count_eq_zero_of_not_mem (hk name)]; exact Nat.zero_le 1
  value := fun name hm => absurd hm (hk name)
  bound := fun name hm => absurd hm (hk name)

theorem Backed.not_mem (hb : Backed d w k) (hk : w.binding? k = none) (name : String) :
    k ∉ w.claims.candidates name := fun hm => hb.bound name hm hk

theorem Backed.congr (hb : Backed d w k) (hbinding : w'.binding? k = w.binding? k)
    (hline : ∀ name, (w'.claims.candidates name).count k = (w.claims.candidates name).count k) :
    Backed d w' k := by
  have hmem : ∀ name, k ∈ w'.claims.candidates name → k ∈ w.claims.candidates name := by
    intro name hm
    rw [← List.count_pos_iff, ← hline name]
    exact List.count_pos_iff.mpr hm
  refine ⟨fun name => ?_, fun name hm => hb.value name (hmem name hm), fun name hm => ?_⟩
  · rw [hline name]
    exact hb.once name
  · rw [hbinding]
    exact hb.bound name (hmem name hm)

/-- Where another node is bound or unbound, a node has the claims that it had. -/
theorem Touches.count_candidates (ht : Touches P w w') (hk : ¬ P k) (name : String) :
    (w'.claims.candidates name).count k = (w.claims.candidates name).count k := by
  have hline := ht.line (fun x => decide (x = k)) (fun x hx => by
    rw [decide_eq_false_iff_not]
    rintro rfl
    exact hk hx) name
  have hcount : ∀ l : List Handle, (l.filter fun x => decide (x = k)).count k = l.count k :=
    fun l => List.count_filter (decide_eq_true rfl)
  rw [← hcount, hline, hcount]

theorem Backed.touches (hb : Backed d w k) (ht : Touches P w w') (hk : ¬ P k) : Backed d w' k :=
  hb.congr (ht.binding? k hk) (ht.count_candidates hk)

/-- Binding a node backs the claim that it makes. -/
theorem Backed.bindNode (hb : Backed d w k) (h : Handle) (c : ConstraintId) :
    Backed d (w.bindNode d h c) k := by
  by_cases hkh : k = h
  · subst hkh
    have hbound : (w.bindNode d k c).binding? k = some c := by
      rw [binding?_bindNode, if_pos rfl]
    have hclaims : (w.bindNode d k c).claims = w.claims ∨
        (w.bindNode d k c).claims = w.claims.register (d.value k) k := by
      unfold Workspace.bindNode
      dsimp only
      split_ifs
      · exact Or.inr rfl
      · exact Or.inl rfl
    rcases hclaims with hclaims | hclaims
    · exact ⟨hclaims ▸ hb.once, hclaims ▸ hb.value, fun _ _ => by simp [hbound]⟩
    · refine ⟨fun name => ?_, fun name hm => ?_, fun _ _ => by simp [hbound]⟩
      · rw [hclaims, Claims.candidates_register]
        split_ifs with hjoin
        · rw [List.count_append, List.count_eq_zero_of_not_mem hjoin.2.2]
          simp
        · exact hb.once name
      · rw [hclaims, Claims.candidates_register] at hm
        split_ifs at hm with hjoin
        · exact hjoin.1.symm
        · exact hb.value name hm
  · exact hb.touches (touches_bindNode w d h c) hkh

/-- Unbinding a node withdraws its claim. -/
theorem Backed.unbindNode (hb : Backed d w k) (h : Handle) : Backed d (w.unbindNode d h) k := by
  by_cases hkh : k = h
  · subst hkh
    refine backed_of_not_mem fun name hm => ?_
    unfold Workspace.unbindNode at hm
    split_ifs at hm with hbound
    · change k ∈ (w.claims.release (d.value k) k).1.candidates name at hm
      rw [Claims.candidates_release] at hm
      split_ifs at hm with hname
      · have hcount := List.count_pos_iff.mpr hm
        rw [List.count_erase_self] at hcount
        have honce := hb.once (d.value k)
        omega
      · exact hname (hb.value name hm).symm
    · refine hb.not_mem ?_ name hm
      simpa [isBound, Table.contains, binding?] using hbound
  · exact hb.touches (touches_unbindNode w d h) hkh

/-! ## Attempts -/

/-- The second workspace comes from the first one by binding and unbinding nodes with the property
alone: the entries for other nodes stay where they are, and claims stay backed. -/
structure Attempts (d : Document) (P : Handle → Prop) (w w' : Workspace) : Prop
    extends Touches P w w' where
  entries : ∀ q : Handle → Bool, (∀ k, P k → q k = false) →
    w'.bindings.entries.filter (fun e => q e.1) = w.bindings.entries.filter fun e => q e.1
  backed : ∀ k, Backed d w k → Backed d w' k

theorem attempts_bindNode (w : Workspace) (d : Document) (h : Handle) (c : ConstraintId) :
    Attempts d (· = h) w (w.bindNode d h c) where
  toTouches := touches_bindNode w d h c
  entries := fun _ hq => Table.filter_write (hq h rfl) c w.bindings.entries
  backed := fun _ hb => hb.bindNode h c

theorem attempts_unbindNode (w : Workspace) (d : Document) (h : Handle) :
    Attempts d (· = h) w (w.unbindNode d h) where
  toTouches := touches_unbindNode w d h
  entries := by
    intro q hq
    unfold unbindNode
    split_ifs
    · exact Table.filter_erase (hq h rfl) w.bindings
    · rfl
  backed := fun _ hb => hb.unbindNode h

theorem tracks_attempts (d : Document) : Tracks d (Attempts d) where
  refl := fun P w => ⟨(tracks_touches d).refl P w, fun _ _ => rfl, fun _ hb => hb⟩
  trans := fun h₁ h₂ => ⟨(tracks_touches d).trans h₁.toTouches h₂.toTouches,
    fun q hq => (h₂.entries q hq).trans (h₁.entries q hq),
    fun k hb => h₂.backed k (h₁.backed k hb)⟩
  mono := fun hr hPQ => ⟨(tracks_touches d).mono hr.toTouches hPQ,
    fun q hq => hr.entries q fun k hk => hq k (hPQ k hk), hr.backed⟩
  bindNode := fun w h c => attempts_bindNode w d h c
  unbindNode := fun w h => attempts_unbindNode w d h

/-- The node is neither bound nor in a line. -/
def Blank (w : Workspace) (k : Handle) : Prop :=
  w.binding? k = none ∧ ∀ name, k ∉ w.claims.candidates name

/-- Binding keeps lines proper. -/
theorem tracks_proper (d : Document) :
    Tracks d fun _ w w' => w.claims.Proper → w'.claims.Proper where
  refl := fun _ _ hp => hp
  trans := fun h₁ h₂ hp => h₂ (h₁ hp)
  mono := fun hr _ => hr
  bindNode := by
    intro w h c hp
    unfold bindNode
    dsimp only
    split_ifs
    · exact hp.register ..
    · exact hp
  unbindNode := by
    intro w h hp
    unfold unbindNode
    split_ifs
    · exact hp.release ..
    · exact hp

/-- Attempts that end with nothing bound have changed nothing. -/
theorem Attempts.restored {ks : List Handle} (ha : Attempts d (· ∈ ks) w w')
    (hblank : ∀ k ∈ ks, w.Blank k) (hnone : ∀ k ∈ ks, w'.binding? k = none) :
    w'.bindings = w.bindings ∧ ∀ name, w'.claims.candidates name = w.claims.candidates name := by
  have hin : ∀ k, (!ks.contains k) = false → k ∈ ks := fun k hk => by simpa using hk
  have hout : ∀ k, k ∈ ks → (!ks.contains k) = false := fun k hk => by simpa using hk
  have hunclaimed : ∀ k ∈ ks, ∀ name, k ∉ w'.claims.candidates name := fun k hk =>
    (ha.backed k (backed_of_not_mem (hblank k hk).2)).not_mem (hnone k hk)
  refine ⟨?_, fun name => ?_⟩
  · exact Table.eq_of_filter (ha.entries _ hout) (fun k hk => (hblank k (hin k hk)).1)
      fun k hk => hnone k (hin k hk)
  · have hall : ∀ l : List Handle, (∀ k ∈ ks, k ∉ l) → (l.filter fun k => !ks.contains k) = l := by
      intro l hl
      refine List.filter_eq_self.mpr fun k hk => ?_
      by_contra hks
      rw [Bool.not_eq_true] at hks
      exact hl k (hin k hks) hk
    have hline := ha.line _ hout name
    rwa [hall _ fun k hk => hunclaimed k hk name, hall _ fun k hk => (hblank k hk).2 name] at hline

/-! ## Any document -/

/-- There is nothing to bind at a handle that is not in the document. -/
theorem bind_of_not_contains (hh : d.contains h = false) (w : Workspace) (c : ConstraintId) :
    w.bind d h c = (w, false) := by
  have hfits : ∀ w : Workspace, w.fits d h c = false := by
    intro w
    by_contra hf
    rw [Bool.not_eq_false] at hf
    rw [Document.contains_of_isElement (isElement_of_fits hf)] at hh
    simp at hh
  have haux : ∀ fuel, bindAux d fuel w h c = (w, false) := by
    intro fuel
    cases fuel with
    | zero => rfl
    | succ fuel => simp [bindAux, hfits]
  have hnode : d.node? h = none := by simpa [Document.contains] using hh
  have hsubtree : d.subtree h = [] := by
    unfold Document.subtree
    cases d.slots.size with
    | zero => rfl
    | succ fuel => rw [Document.subtreeAux, hnode]
  simp [bind, haux, unbind, hsubtree]

/-- Whatever the content model, the document and the workspace are: where binding a subtree failed
of which no node was bound or in a line before, the bindings are as they were, and in the line of
each name the same nodes stand in the same order. -/
theorem restored_of_bind_eq_false (hd : Document.Made d) (hblank : ∀ k ∈ d.subtree h, w.Blank k)
    (hfalse : (w.bind d h c).2 = false) :
    (w.bind d h c).1.bindings = w.bindings ∧
      (∀ name, (w.bind d h c).1.claims.candidates name = w.claims.candidates name) ∧
      (w.claims.Proper → ∀ name,
        (w.bind d h c).1.claims.lines.get? name = w.claims.lines.get? name) := by
  cases hlive : d.contains h with
  | false =>
    rw [bind_of_not_contains hlive]
    exact ⟨rfl, fun _ => rfl, fun _ _ => rfl⟩
  | true =>
    -- what is attempted is settled in a region that a forest has too
    obtain ⟨n, e, he, hr, hle⟩ := hd.grown.exists_region hlive
    have hforest : e.Forest := he.toForest
    rw [hr.subtree hle] at hblank
    rw [bind_region hr w hle c] at hfalse ⊢
    have hin : ∀ k, k ∈ e.subtree h ↔ e.Within h k := fun k => Document.mem_subtree_iff hforest
    have hattempts := (tracks_attempts e).mono ((tracks_attempts e).bind hforest.toLinked w h c)
      fun k hk => (hin k).mpr hk
    have hproper := (tracks_proper e).bind hforest.toLinked w h c
    obtain ⟨hbindings, hlines⟩ := hattempts.restored hblank fun k hk =>
      binding?_of_bind_eq_false hforest hfalse ((hin k).mp hk)
    exact ⟨hbindings, hlines, fun hp name => hp.get?_congr (hproper hp) (hlines name)⟩

/-! ## A box with an unexpected lid -/

/-- A content model for boxes of labels, where keys of labels are names. -/
def labelled : ContentModel :=
  let m := (ContentModel.ofRoot (.ofElement "box" .once)).add ContentModel.root
    { kind := .sequence }
  let m := m.1.add ⟨1⟩ (.ofElement "label" ⟨0, none⟩)
  (m.1.add ⟨2⟩ ((Schema.Constraint.ofAttribute "key" .required).typed "ID")).1

/-- A box with two labels of one key and a lid, and another label of that key outside the box. -/
def lidded : Document :=
  Document.Operation.run Document.empty
    [.createElement "box", .append Document.top ⟨1⟩,
      .createElement "label", .setAttribute ⟨2⟩ "key" "7", .append ⟨1⟩ ⟨2⟩,
      .createElement "label", .setAttribute ⟨4⟩ "key" "7", .append ⟨1⟩ ⟨4⟩,
      .createElement "lid", .append ⟨1⟩ ⟨6⟩,
      .createElement "label", .setAttribute ⟨7⟩ "key" "7"]

theorem made_lidded : Document.Made lidded :=
  .run .empty (by simp [Document.Operation.source?])

/-- The label outside the box is bound and owns the key. -/
def boxed : Workspace :=
  (({ model := labelled } : Workspace).bind lidded ⟨7⟩ ⟨2⟩).1

/-- The labels in the box match and get in line for the key before the lid turns up. -/
theorem restored_bind_boxed : Document.Made lidded ∧
    (boxed.bind lidded ⟨1⟩ ContentModel.root).2 = false ∧
    (boxed.bind lidded ⟨1⟩ ContentModel.root).1.bindings = boxed.bindings ∧
    (boxed.bind lidded ⟨1⟩ ContentModel.root).1.claims.candidates "7" = [⟨8⟩] := by
  have hlines : boxed.claims.lines.entries = [("7", [⟨8⟩])] := by decide +kernel
  have hunbound : ∀ k ∈ lidded.subtree ⟨1⟩, boxed.binding? k = none ∧ k ≠ ⟨8⟩ := by decide +kernel
  have hblank : ∀ k ∈ lidded.subtree ⟨1⟩, boxed.Blank k := by
    refine fun k hk => ⟨(hunbound k hk).1, fun name hm => ?_⟩
    rw [Claims.candidates, Table.getD, Table.get?, hlines, Table.lookup] at hm
    split_ifs at hm
    · exact (hunbound k hk).2 (List.mem_singleton.mp hm)
    · simp [Table.lookup] at hm
  have hfalse : (boxed.bind lidded ⟨1⟩ ContentModel.root).2 = false := by decide +kernel
  obtain ⟨hbindings, hsame, -⟩ := restored_of_bind_eq_false made_lidded hblank hfalse
  refine ⟨made_lidded, hfalse, hbindings, ?_⟩
  rw [hsame]
  decide +kernel

end Workspace

end GuidedXml
