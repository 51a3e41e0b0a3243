/-
# Nodes in line

Nodes are in line for names. When the owner of a name gives it up, the next one in line comes to own
it, and the verdict on that node is found anew.

The main statement says that in every run only nodes whose constraints make names are in line, as far
as they are bound. So those who come to own names are names themselves.
-/
import GuidedXml.Proofs.Editing.Outcomes

namespace GuidedXml

open Schema (ConstraintId ContentModel)

/-! ## Nodes in line -/

/-- Who comes to own a name was in line for it. -/
theorem Claims.mem_candidates_of_release {c : Claims} {name : String} {h k : Handle}
    (hk : (c.release name h).2 = some k) : k ∈ c.candidates name := by
  unfold release at hk
  dsimp only at hk
  split_ifs at hk
  exact List.mem_of_mem_erase (List.mem_of_mem_head? hk)

namespace Workspace

variable {w w' : Workspace} {d d' : Document} {t : Stage} {h k : Handle} {c : ConstraintId}
  {name : String} {F : Handle → Prop}

/-- As far as nodes in line are bound, their constraints make names. -/
def Titled (w : Workspace) : Prop :=
  ∀ name k c, k ∈ w.claims.candidates name → w.binding? k = some c → w.isNaming c = true

namespace Titled

/-- Nodes may leave their lines, and lose their constraints. -/
theorem mono (hw : Titled w) (hm : w'.model = w.model)
    (hc : ∀ name k, k ∈ w'.claims.candidates name → k ∈ w.claims.candidates name)
    (hb : ∀ k c, w'.binding? k = some c → w.binding? k = some c) : Titled w' := by
  intro name k c hk hbk
  rw [isNaming_congr hm]
  exact hw name k c (hc name k hk) (hb k c hbk)

/-- Nodes that come are in line only for what they are entitled to. -/
theorem enlisted (hw : Titled w) (he : Enlisted F w.claims t) (hm : t.1.model = w.model)
    (hb : ∀ k, ¬ F k → t.1.binding? k = w.binding? k) : Titled t.1 := by
  intro name k c hk hbk
  by_cases hF : F k
  · obtain ⟨-, -, i, hi, hn⟩ := (he.mem_iff name k hF).mp hk
    obtain rfl := Option.some.inj (hbk.symm.trans hi)
    exact hn
  · obtain ⟨more, hline, hmore⟩ := he.lines name
    rw [hline, List.mem_append] at hk
    have hold := hk.resolve_right fun hk => hF (hmore k hk)
    rw [hb k hF] at hbk
    rw [isNaming_congr hm]
    exact hw name k c hold hbk

end Titled

/-- Nobody who was not in line before comes to be in line when nodes are forgotten. -/
theorem mem_candidates_of_forget (hk : k ∈ (w.forget d h).1.claims.candidates name) :
    k ∈ w.claims.candidates name := by
  obtain ⟨kept, more, hline, hkept, hmore⟩ := follows_forget (k.index + 1) w d h name
  rw [hline, List.mem_append] at hk
  exact hkept.subset (hk.resolve_right fun hk => absurd (hmore k hk) (by omega))

/-- Those who come to own names when nodes are forgotten were in line. -/
theorem exists_candidates_of_mem_forget (hk : k ∈ (w.forget d h).2) :
    ∃ name, k ∈ w.claims.candidates name := by
  have hnodes : ∀ (hs : List Handle) (w : Workspace), k ∈ (w.forgetNodes d hs).2 →
      ∃ name, k ∈ w.claims.candidates name := by
    intro hs
    induction hs with
    | nil => simp [forgetNodes]
    | cons h hs ih =>
      intro w hk
      replace hk : k ∈ (w.claims.release (d.value h) h).2.toList ++
        ((w.forgetNode d h).1.forgetNodes d hs).2 := hk
      rcases List.mem_append.mp hk with hk | hk
      · exact ⟨d.value h, Claims.mem_candidates_of_release (Option.mem_toList.mp hk)⟩
      · obtain ⟨name, hname⟩ := ih _ hk
        refine ⟨name, ?_⟩
        obtain ⟨kept, more, hline, hkept, hmore⟩ :=
          Claims.follows_release (k.index + 1) w.claims (d.value h) h name
        replace hname : k ∈ (w.claims.release (d.value h) h).1.candidates name := hname
        rw [hline, List.mem_append] at hname
        exact hkept.subset (hname.resolve_right fun hk => absurd (hmore k hk) (by omega))
  exact hnodes (d.subtree h) { w with outline := w.outline.detach h } (List.mem_of_mem_filter hk)

end Workspace

namespace Session

open Workspace (Titled)

variable {s s' : Session} {d : Document} {h p : Handle} {c : ConstraintId} {t t' : Stance}
  {sparing writing : Prop} {value : String}

/-- Titles stay where nothing changes but what was found out. -/
theorem Quiet.titled (hq : Quiet s s') (hs : s.workspace.Titled) : s'.workspace.Titled := by
  refine hs.mono hq.model (fun name k hk => ?_) fun k c hb => (hq.binding? k).symm.trans hb
  rwa [hq.workspace] at hk

/-- A node that shows another value gets in line for it only if its constraint makes it a name. -/
theorem SetsValue.titled (hset : SetsValue s h value s') (hs : s.workspace.Titled) :
    s'.workspace.Titled := by
  obtain ⟨c, hb, hw⟩ := hset.exists_claims
  intro name k i hk hbk
  have hmodel : s'.workspace.model = s.workspace.model := by rw [hw]
  have hbinding : s'.workspace.binding? k = s.workspace.binding? k := by
    rw [hw]
    rfl
  rw [Workspace.isNaming_congr hmodel]
  rw [hbinding] at hbk
  rw [hw] at hk
  dsimp only [reclaimed] at hk
  split_ifs at hk with hren
  · rw [Claims.candidates_register] at hk
    have hrelease : ∀ other, k ∈ ((s.workspace.claims.release (s.document.value h) h).1).candidates
        other → k ∈ s.workspace.claims.candidates other := by
      intro other hk
      rw [Claims.candidates_release] at hk
      split_ifs at hk with hother
      · exact hother ▸ List.mem_of_mem_erase hk
      · exact hk
    split_ifs at hk
    · rcases List.mem_append.mp hk with hk | hk
      · exact hs _ k i (hrelease _ hk) hbk
      · obtain rfl := List.mem_singleton.mp hk
        obtain rfl := Option.some.inj (hbk.symm.trans hb)
        exact (Bool.and_eq_true_iff.mp hren).1
    · exact hs _ k i (hrelease _ hk) hbk
  · exact hs _ k i hk hbk

/-- Nodes of a copy that is bound are in line only for what they are entitled to. -/
theorem titled_bound {d' : Document} {w : Workspace} {old new : Handle} (hs : Poised (s, none))
    (ht : s.workspace.Titled) (hsw : Swapped s.workspace p old new s.document d d')
    (hbind : s.workspace.bind d' new c = (w, true)) : w.Titled := by
  have hb := hsw.builds hs.sane c
  have hrebinds := Workspace.rebinds_bind hsw.orderly.toLinked s.workspace new c
  rw [hbind] at hb hrebinds
  have hw := hb.workspace
  refine ht.enlisted (hb.enlisted (hsw.sane hs.sane).toSound (hsw.sane hs.sane).toRegular
    (fun _ hk => hk) (hs.sane.enlisted d')) ?_ fun k hk =>
      hrebinds.binding? k fun hin => hk (hsw.le_index_of_within hin)
  dsimp only at hw ⊢
  rw [hw]

/-- No move brings a node in line whose constraint makes it no name. -/
theorem Move.titled (hm : Move sparing writing t t') (hs : Poised t)
    (ht : t.1.workspace.Titled) : t'.1.workspace.Titled := by
  cases hm with
  | judge hj => exact hj.quiet.titled ht
  | giveUp p => exact (quiet_giveUp _ p).titled ht
  | look h => exact (quiet_offers _ h).titled ht
  | @make s t c h hc =>
    have hb := Workspace.builds_create hs.sane.toSound c
    have hg := (Workspace.create_loose hs.sane.toSound c).1
    rw [hc] at hb hg
    have hw := hb.workspace
    refine ht.enlisted (hb.enlisted hs.sane.toSound hs.sane.toRegular (fun _ hk => hk)
      (hs.sane.enlisted s.document)) ?_ hg.workspace.binding?
    rw [hw]
  | insert => exact ht
  | give => exact ht
  | detach => exact ht
  | @exchange s source d d' w node p old new c hsource hb hp hcopy hreplace hbind =>
    have hw : w.Titled := titled_bound hs ht (hs.swapped hsource hp hcopy hreplace) hbind
    exact hw
  | @discard s d h hd =>
    have hforgets := Workspace.forgets_forget hs.sane.orderly.forest s.workspace h
    refine ht.mono hforgets.model (fun name k hk => Workspace.mem_candidates_of_forget hk) ?_
    intro k c hb
    by_cases hk : s.document.Within h k
    · have hgone := (hforgets.gone k hk).1.symm.trans hb
      simp at hgone
    · exact (hforgets.left k hk).1.symm.trans hb
  | setValue hwrite hv => exact (hs.setsValue hv).titled ht
  | undo hu =>
    refine ht.mono hu.workspace.model (fun name k hk => ?_)
      fun k c hb => (hu.workspace.bindings k).symm.trans hb
    rwa [Claims.candidates, Table.getD, hu.workspace.claims] at hk

/-- Titles stay through all moves. -/
theorem Moves.titled (hm : Moves sparing writing t t') (hs : Poised t)
    (ht : t.1.workspace.Titled) : t'.1.workspace.Titled := by
  induction hm with
  | refl => exact ht
  | tail hm hlast ih => exact hlast.titled (Moves.poised hm hs) ih

/-- At the start nothing is in line. -/
theorem titled_start (d : Document) (m : ContentModel) (rules : RuleBook) (settings : Settings) :
    (start d m rules settings).workspace.Titled :=
  fun _ _ _ hk => absurd hk List.not_mem_nil

/-- Titles stay when a session begins. -/
theorem titled_begin (hs : s.workspace.Titled) : s.begin.workspace.Titled := by
  have hshown : Titled { s.workspace with outline := .ofDocument s.document } := hs
  exact (judges_checkRules { s with workspace :=
    { s.workspace with outline := .ofDocument s.document } } _).quiet.titled hshown

/-- In every session of a run, only nodes whose constraints make names are in line. -/
theorem Arises.titled {allowed : Session → Request → Prop} (ha : Arises allowed s) :
    s.workspace.Titled := by
  induction ha with
  | @created m rules settings s hc =>
    obtain ⟨t, h, d, hcreate, -, rfl⟩ := create_eq_begin hc
    have hmake : Move True True (start .empty m rules settings, none)
        ((start .empty m rules settings).withStage t, some h) := .make hcreate
    exact titled_begin (hmake.titled (poised_start Document.orderly_empty)
      (titled_start .empty m rules settings))
  | @loaded _ _ rules settings s hl =>
    obtain ⟨d, m, hread, ho⟩ := load_eq_ok hl
    obtain ⟨root, w, -, hbind, rfl⟩ := ofDocument_eq_begin ho
    have hstart : Poised (start d m rules settings, none) :=
      poised_start (Document.orderly_of_read hread)
    have hb := Workspace.builds_bind (w := (start d m rules settings).workspace) (n := 0)
      (h := root) (Document.orderly_of_read hread) (Nat.zero_le _) (fun _ _ => rfl)
      ContentModel.root
    have he := hb.enlisted hstart.sane.toSound hstart.sane.toRegular (fun _ _ => trivial)
      registered_start
    have hw := hb.workspace
    rw [hbind] at he hw
    refine titled_begin (Titled.enlisted (titled_start d m rules settings) he ?_ (by simp))
    dsimp only at hw ⊢
    rw [hw]
  | @asked s r ha _ ih =>
    have hm : Moves False True (s, none) ((s.answer r).1, none) :=
      moves_answer ha.poised r not_false.elim fun _ _ _ => trivial
    exact hm.titled ha.poised ih
  | notified n _ ih => exact ih
  | noticed _ ih => exact ih

end Session

end GuidedXml
