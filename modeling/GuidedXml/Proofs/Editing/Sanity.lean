/-
# Sanity

A stage is sane if the document is in order, only its live elements and attributes are bound, and
nothing is known of nodes that are not live.

The main statements say that stages stay sane while nodes are made, placed, judged and pruned, and
that a value is either set, with nothing but claims and findings changed beside it, or refused.
-/
import GuidedXml.Proofs.Editing.Edits
import GuidedXml.Proofs.Editing.Tracing

namespace GuidedXml

open Schema (ConstraintId)

/-! ## Sessions without a difference -/

/-- No lookup tells the workspaces apart. -/
structure Workspace.Same (w w' : Workspace) : Prop where
  model : w'.model = w.model
  whitelist : w'.whitelist = w.whitelist
  bindings : ∀ k, w'.bindings.get? k = w.bindings.get? k
  entries : ∀ k, w'.outline.entries.get? k = w.outline.entries.get? k
  root : w'.outline.root = w.outline.root
  offers : ∀ k, w'.offers.get? k = w.offers.get? k
  verdicts : ∀ k, w'.verdicts.get? k = w.verdicts.get? k
  relevant : ∀ k, w'.relevant.get? k = w.relevant.get? k
  recorded : ∀ r, w'.recorded.get? r = w.recorded.get? r
  claims : ∀ name, w'.claims.lines.get? name = w.claims.lines.get? name
  revisions : ∀ k, w'.revisions.get? k = w.revisions.get? k

theorem Workspace.Same.refl (w : Workspace) : w.Same w :=
  ⟨rfl, rfl, fun _ => rfl, fun _ => rfl, rfl, fun _ => rfl, fun _ => rfl, fun _ => rfl,
    fun _ => rfl, fun _ => rfl, fun _ => rfl⟩

/-- Nothing has changed between the sessions, except that handles may have been given out. -/
structure Session.Unchanged (s s' : Session) : Prop where
  size : s.document.slots.size ≤ s'.document.slots.size
  node? : ∀ k, s'.document.node? k = s.document.node? k
  workspace : s.workspace.Same s'.workspace
  rules : s'.rules = s.rules
  settings : s'.settings = s.settings
  diagnostics : s'.diagnostics = s.diagnostics
  notices : s'.notices = s.notices
  taken : s'.taken = s.taken

theorem Session.Unchanged.refl (s : Session) : s.Unchanged s :=
  ⟨Nat.le_refl _, fun _ => rfl, Workspace.Same.refl _, rfl, rfl, rfl, rfl, rfl⟩

/-- The second document is the first one with more empty slots at most. -/
theorem Session.Unchanged.extends {s s' : Session} (hu : s.Unchanged s') :
    s.document.Extends s'.document :=
  ⟨hu.size, fun k _ => hu.node? k⟩

namespace Workspace

variable {w w' : Workspace} {d d' : Document} {h k p : Handle} {c : ConstraintId}

/-! ## Sane stages -/

/-- Everything that holds of a stage whatever was asked for: the document is in order, only its live
elements and attributes are bound, and only its live nodes are mentioned. -/
structure Sane (t : Stage) : Prop extends Sound t, Regular t where
  traced : t.1.Traced t.2

namespace Sane

/-- More nodes may come and be bound, as long as the old ones stay what they were. -/
theorem change (hs : Sane (w, d))
    (hw : w' = { w with bindings := w'.bindings, claims := w'.claims, outline := w'.outline })
    (hb : ∀ k, d.contains k = true → w'.binding? k = w.binding? k) (hsound : Sound (w', d'))
    (hregular : Regular (w', d')) (hc : ∀ k, d.contains k = true → d'.contains k = true) :
    Sane (w', d') :=
  ⟨hsound, hregular, hs.traced.change hw hb hsound hc⟩

/-- A stage is sane with any outline. -/
theorem outline (hs : Sane (w, d)) (o : Outline) : Sane ({ w with outline := o }, d) := by
  have hsound : Sound ({ w with outline := o }, d) := ⟨hs.orderly, hs.contains_of_bound⟩
  exact hs.change rfl (fun _ _ => rfl) hsound
    (hs.toRegular.keep rfl (fun _ => rfl) (Nat.le_refl _) fun _ _ _ => rfl) fun _ hc => hc

/-- The document may come to hold other nodes, as long as the old ones stay what they were. -/
theorem replaced (hs : Sane (w, d)) (hd : d'.Orderly) (hsize : d.slots.size ≤ d'.slots.size)
    (hk : ∀ k, d.contains k = true → d'.kind? k = d.kind? k) : Sane (w, d') := by
  have hc : ∀ k, d.contains k = true → d'.contains k = true := fun k hc => by
    rwa [Document.contains_congr (hk k hc)]
  have hsound : Sound (w, d') := ⟨hd, fun hb => hc _ (hs.contains_of_bound hb)⟩
  exact hs.change rfl (fun _ _ => rfl) hsound
    (hs.toRegular.keep rfl (fun _ => rfl) hsize fun k c hb => hk k (hs.contains_of_bound hb)) hc

/-- Relinking keeps a stage sane. -/
theorem relinked (hs : Sane (w, d)) {taken given : Option Handle}
    (hr : d.Relinked d' p taken given) (hd : d'.Orderly) : Sane (w, d') :=
  hs.replaced hd (Nat.le_of_eq hr.size.symm) fun k _ => hr.kind? k

/-- New nodes may be made and bound. -/
theorem builds {t : Stage} (hs : Sane (w, d)) (hb : Builds d.slots.size (w, d) t)
    (hg : Grows (w, d) t) : Sane t := by
  have hw := hb.workspace
  refine hs.change ?_ ?_ hg.sound (hb.regular hs.toSound hs.toRegular) ?_
  · rw [hw]
  · intro k hk
    have := Document.index_lt_of_contains hk
    refine hg.workspace.binding? k ?_
    dsimp only
    omega
  · intro k hk
    rwa [Document.contains_congr (hg.document.lookups hk).1]

/-- Giving up offers keeps a stage sane. -/
theorem invalidate (hs : Sane (w, d)) (p : Handle) : Sane (w.invalidate d p, d) := by
  have heq := invalidate_eq w d p
  have hb : ∀ k, (w.invalidate d p).binding? k = w.binding? k := fun k => by rw [heq]; rfl
  refine ⟨⟨hs.orderly, fun hk => hs.contains_of_bound ((hb _).symm.trans hk)⟩, ?_, ?_⟩
  · refine hs.toRegular.keep ?_ hb (Nat.le_refl _) fun _ _ _ => rfl
    rw [heq]
  · exact hs.traced.invalidate hs.orderly.toLinked p

/-- Offers may be kept for a bound node. -/
theorem keepOffers (hs : Sane (w, d)) (hb : w.binding? h = some c) (os : List Offer) :
    Sane ({ w with offers := w.offers.insert h os }, d) := by
  have hsound : Sound ({ w with offers := w.offers.insert h os }, d) :=
    ⟨hs.orderly, hs.contains_of_bound⟩
  refine ⟨hsound, ⟨hs.kinds, hs.proper, hs.known⟩, ⟨?_, hs.traced.mem_rulesOf, ?_⟩⟩
  · intro k hm
    cases hm with
    | binding hk => exact hs.traced.contains (.binding hk)
    | offers hk =>
      rw [Table.get?_insert] at hk
      split_ifs at hk with hkh
      · rw [hkh]
        exact hs.contains_of_bound hb
      · exact hs.traced.contains (.offers hk)
    | verdict hk => exact hs.traced.contains (.verdict hk)
    | relevance hk => exact hs.traced.contains (.relevance hk)
    | revision hk => exact hs.traced.contains (.revision hk)
    | recorded hk => exact hs.traced.contains (.recorded hk)
  · intro k os' hk
    replace hk := (Table.get?_insert w.offers h k os).symm.trans hk
    split_ifs at hk with hkh
    · exact ⟨c, hkh ▸ hb⟩
    · exact hs.traced.bound hk

/-- A subtree of its own may be forgotten and discarded. -/
theorem pruned (hs : Sane (w, d)) (hr : d.Pruned d' h) (hroot : d.parent? h = none)
    (htop : h ≠ Document.top) : Sane ((w.forget d h).1, d') := by
  obtain ⟨htraced, hmentions⟩ := hs.traced.forget hs.orderly.forest h
  have hpruned := htraced.pruned hr fun k hm => (hmentions k hm).2
  refine ⟨⟨hr.orderly hs.orderly hroot htop, fun hb => hpruned.contains (.binding hb)⟩, ?_, hpruned⟩
  refine (hs.toRegular.forget h).keep rfl (fun _ => rfl) (Nat.le_of_eq hr.size.symm) ?_
  intro k c hb
  exact (Document.lookups_congr (hr.kept k (hmentions k (.binding hb)).2)).1

/-- Claims may be changed, as long as the lines stay proper. -/
theorem withClaims (hs : Sane (w, d)) {claims : Claims} (hp : claims.Proper)
    (hk : ∀ {name k}, k ∈ claims.candidates name → k.index < d.slots.size) :
    Sane ({ w with claims := claims }, d) :=
  hs.change rfl (fun _ _ => rfl) ⟨hs.orderly, hs.contains_of_bound⟩ ⟨hs.kinds, hp, hk⟩
    fun _ hc => hc

/-- Giving up a name keeps a stage sane. -/
theorem release (hs : Sane (w, d)) (name : String) (h : Handle) :
    Sane ({ w with claims := (w.claims.release name h).1 }, d) :=
  hs.withClaims (hs.proper.release name h) fun hk => hs.known (Claims.mem_of_mem_release hk)

/-- Claiming a name for a live node keeps a stage sane. -/
theorem register (hs : Sane (w, d)) (hc : d.contains h = true) (name : String) :
    Sane ({ w with claims := w.claims.register name h }, d) := by
  refine hs.withClaims (hs.proper.register name h) fun hk => ?_
  rcases Claims.mem_of_mem_register hk with hk | rfl
  · exact hs.known hk
  · exact Document.index_lt_of_contains hc

/-- What cannot be told apart from a sane stage is sane. -/
theorem same (hs : Sane (w, d)) (hw : w.Same w') (he : d.Extends d')
    (hn : ∀ k, d'.node? k = d.node? k) : Sane (w', d') := by
  have hb : ∀ k, w'.binding? k = w.binding? k := hw.bindings
  have hc : ∀ k, d'.contains k = d.contains k := fun k => by
    rw [Document.contains, Document.contains, hn]
  have hline : ∀ name, w'.claims.candidates name = w.claims.candidates name := fun name => by
    rw [Claims.candidates, Claims.candidates, Table.getD, Table.getD, hw.claims]
  have hrec : ∀ r, w'.recorded.getD r [] = w.recorded.getD r [] := fun r => by
    rw [Table.getD, Table.getD, hw.recorded]
  refine ⟨⟨he.orderly_of_node? hs.orderly hn, ?_⟩, ⟨?_, ⟨?_, ?_, ?_⟩, ?_⟩, ⟨?_, ?_, ?_⟩⟩
  · intro k c hk
    exact (hc k).trans (hs.contains_of_bound ((hb k).symm.trans hk))
  · intro k c hk
    have hsame := (Document.lookups_congr (hn k)).1
    show d'.isElement k = true ∨ d'.isAttribute k = true
    rw [Document.isElement_congr hsame, Document.isAttribute_congr hsame]
    exact hs.kinds ((hb k).symm.trans hk)
  · intro name
    exact hline name ▸ hs.proper.nodup name
  · exact (hw.claims "").trans hs.proper.unnamed
  · intro name
    exact hw.claims name ▸ hs.proper.nonempty name
  · intro name k hk
    replace hk : k ∈ w'.claims.candidates name := hk
    rw [hline] at hk
    exact Nat.lt_of_lt_of_le (hs.known hk) he.size
  · intro k hm
    refine (hc k).trans (hs.traced.contains ?_)
    cases hm with
    | binding hk => exact .binding ((hb k).symm.trans hk)
    | offers hk => exact .offers ((hw.offers k).symm.trans hk)
    | verdict hk => exact .verdict ((hw.verdicts k).symm.trans hk)
    | relevance hk => exact .relevance ((hw.relevant k).symm.trans hk)
    | revision hk => exact .revision ((hw.revisions k).symm.trans hk)
    | @recorded r hk => exact .recorded (hrec r ▸ hk)
  · intro r k hk
    rw [hrec] at hk
    rw [rulesOf, Table.getD, hw.relevant]
    exact hs.traced.mem_rulesOf hk
  · intro k os hk
    obtain ⟨c, hbound⟩ := hs.traced.bound ((hw.offers k).symm.trans hk)
    exact ⟨c, (hb k).trans hbound⟩

end Sane

end Workspace

namespace Session

variable {s s' : Session} {h : Handle} {value : String}

/-- Judging leaves a sane stage sane. -/
theorem Judges.sane (hj : Judges s s') (hs : Workspace.Sane (s.workspace, s.document)) :
    Workspace.Sane (s'.workspace, s'.document) := by
  have ha := hj.alike
  have htraced := hj.traced hs.orderly.toLinked hs.traced fun h hb => by
    obtain ⟨c, hc⟩ := Option.isSome_iff_exists.mp hb
    exact hs.contains_of_bound hc
  rw [hj.document] at htraced ⊢
  refine ⟨⟨hs.orderly, fun hb => hs.contains_of_bound ((ha.binding? _).symm.trans hb)⟩, ?_, htraced⟩
  refine hs.toRegular.keep ?_ ha.binding? (Nat.le_refl _) fun _ _ _ => rfl
  rw [hj.workspace]

/-! ## Setting values -/

/-- The claims once a node shows another value: if it was in line for the old one, it goes to the
end of the line for the new one. -/
def reclaimed (s : Session) (h : Handle) (c : ConstraintId) (value : String) : Claims :=
  if s.workspace.isNaming c && s.document.value h ≠ value then
    (s.workspace.claims.release (s.document.value h) h).1.register value h
  else s.workspace.claims

/-- What setting a value has done: apart from the value, only claims are others, and what judging
finds out. -/
structure SetsValue (s : Session) (h : Handle) (value : String) (s' : Session) : Prop where
  exists_claims : ∃ c, s.workspace.binding? h = some c ∧ s'.workspace = { s.workspace with
    claims := s.reclaimed h c value
    verdicts := s'.workspace.verdicts
    relevant := s'.workspace.relevant
    recorded := s'.workspace.recorded }
  document : s.document.setValue h value = .ok s'.document
  sane : Workspace.Sane (s'.workspace, s'.document)

/-- Giving up a name is a matter of judging once the claim is withdrawn. -/
theorem judges_giveUpName (s : Session) (h : Handle) : Judges
    { s with workspace := { s.workspace with
      claims := (s.workspace.claims.release (s.document.value h) h).1 } } (s.giveUpName h) :=
  judges_validateAll _ _

/-- Once the value and the claims are set, judging finishes the edit. -/
theorem setsValue_of_judged {u : Session} {c : ConstraintId} (hb : s.workspace.binding? h = some c)
    (hw : u.workspace = { s.workspace with
      claims := s.reclaimed h c value
      verdicts := u.workspace.verdicts
      relevant := u.workspace.relevant
      recorded := u.workspace.recorded })
    (hd : s.document.setValue h value = .ok u.document)
    (hu : Workspace.Sane (u.workspace, u.document)) :
    SetsValue s h value ((u.checkRules (u.workspace.rulesOf h)).validate h) := by
  have hlast : Judges u ((u.checkRules (u.workspace.rulesOf h)).validate h) :=
    (judges_checkRules _ _).trans (judges_validate _ h)
  refine ⟨⟨c, hb, ?_⟩, ?_, hlast.sane hu⟩
  · rw [hlast.workspace, hw]
  · rw [hlast.document]
    exact hd

/-- Setting a value is refused without any change, or done. -/
theorem setValue_cases (hs : Workspace.Sane (s.workspace, s.document)) (h : Handle)
    (value : String) : (∃ fault, s.setValue h value = (s, .error fault)) ∨
      ∃ s', s.setValue h value = (s', .ok ()) ∧ SetsValue s h value s' := by
  unfold setValue
  cases hb : s.workspace.binding? h with
  | none => exact Or.inl ⟨_, rfl⟩
  | some c =>
    dsimp only
    split
    · exact Or.inl ⟨_, rfl⟩
    · right
      obtain ⟨d, hd⟩ := Document.exists_setValue hs.orderly (hs.kinds hb) value
      obtain ⟨hsize, hkind⟩ := Document.kind?_of_setValue hs.orderly hd
      have hplace : ∀ {w}, Workspace.Sane (w, s.document) → Workspace.Sane (w, d) := fun hw =>
        hw.replaced (hs.orderly.setValue hd) hsize fun k hk =>
          hkind k (Document.index_lt_of_contains hk)
      by_cases hren : (s.workspace.isNaming c && s.document.value h ≠ value) = true
      · -- the claim to the old value is withdrawn before, and one to the new value made afterwards
        have hgiven := judges_giveUpName s h
        have hdoc : (s.giveUpName h).document = s.document := hgiven.document
        have hsane := hgiven.sane (hs.release (s.document.value h) h)
        rw [hdoc] at hsane
        have hlive : d.contains h = true := by
          rw [Document.contains_congr (hkind h (Document.index_lt_of_contains
            (hs.contains_of_bound hb)))]
          exact hs.contains_of_bound hb
        refine ⟨_, ?_, setsValue_of_judged
          (u := claimName { s.giveUpName h with document := d } h value) hb ?_ hd
          ((hplace hsane).register hlive value)⟩
        · rw [if_pos hren, hdoc, hd]
          dsimp only
          rw [if_pos hren]
        · rw [reclaimed, if_pos hren, claimName]
          dsimp only
          rw [hgiven.workspace]
      · refine ⟨_, ?_, setsValue_of_judged (u := { s with document := d }) hb ?_ hd (hplace hs)⟩
        · rw [if_neg hren, hd]
          dsimp only
          rw [if_neg hren]
        · rw [reclaimed, if_neg hren]

end Session

end GuidedXml
