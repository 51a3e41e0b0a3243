/-
# When verdicts are found

The verdict on a node is found when it is asked for and there is none, when the value of the node is
set, and when everything is judged anew. The session in which it was last found is known from the run.

The main statement says that the verdict kept for a node is what was said of its value in that
session, unless its constraint makes it a name.
-/
import GuidedXml.Proofs.Editing.Keeping

namespace GuidedXml.Session

open Schema (ConstraintId)

variable {s s' u : Session} {h k : Handle} {c : ConstraintId}

/-! ## Finding verdicts -/

/-- The verdict on the node is found while the request is answered: it has none before, its value is
set, or everything is judged anew. -/
def Finds (s : Session) (h : Handle) : Request → Prop
  | .setValue k value => s.verdict? h = none ∨ k = h ∧ (s.setValue k value).2 = .ok ()
  | .revalidate => s.verdict? h = none ∨ s.Reaches h
  | _ => s.verdict? h = none

/-- The alternative that is chosen in an action. -/
def chosen? : Action → Option (ConstraintId × Handle × Option Handle)
  | .chooseAlternative c parent after _ => some (c, parent, after)
  | _ => none

/-- The alternative that is chosen by a request. -/
def choice? (s : Session) : Request → Option (ConstraintId × Handle × Option Handle)
  | .choose c parent after _ => some (c, parent, after)
  | .take o => if s.isCurrent o then chosen? o.action else none
  | _ => none

/-- The session when verdicts are found on the way to another one. An alternative that is chosen is
judged once it was added, and before the old one is removed. -/
def finding (s : Session) (choice : Option (ConstraintId × Handle × Option Handle))
    (s' : Session) : Session :=
  match choice with
  | some (c, parent, after) => (s.addNode c parent after).1
  | none => s'

/-- The session when the request has found verdicts. -/
def findingOf (s : Session) (q : Request) : Session :=
  s.finding (s.choice? q) (s.answer q).1

/-- If there is no verdict on the node, it is found by the second session, and left alone from there
to the third one; otherwise it is left alone all the way. -/
def Settles (h : Handle) (s u s' : Session) : Prop :=
  (s.verdict? h = none → u.Right h ∧ Keeps h u s') ∧ (s.verdict? h ≠ none → Keeps h s s')

/-- Where the verdict is kept or found right at once, that settles it. -/
theorem Answers.settles (ha : Answers h s s') : Settles h s s' s' := by
  refine ⟨fun hnone => ⟨?_, .refl h s'⟩, fun hsome => ?_⟩
  · exact ha.elim (fun hk => hk.right hnone) And.right
  · exact ha.resolve_right fun hright => hsome hright.1

/-- What was settled stays so as long as the verdict is kept. -/
theorem Settles.keeps (hs : Settles h s u u) (hk : Keeps h u s') : Settles h s u s' :=
  ⟨fun hnone => ⟨(hs.1 hnone).1, hk⟩, fun hsome => (hs.2 hsome).trans hk⟩

/-- Adding a node settles what is kept for any node. -/
theorem settles_addNode (hs : Poised (s, none)) (c : ConstraintId) (parent : Handle)
    (after : Option Handle) (h : Handle) :
    Settles h s (s.addNode c parent after).1 (s.addNode c parent after).1 :=
  (answers_addNode hs c parent after h).settles

/-- Removing a node settles what is kept for any node. -/
theorem settles_removeNode (hs : Poised (s, none)) (ht : s.workspace.Titled) (node h : Handle) :
    Settles h s (s.removeNode node).1 (s.removeNode node).1 :=
  Answers.settles (Or.inl (keeps_removeNode hs ht node h))

/-- What comes after an alternative was added finds no more verdicts. -/
theorem keeps_chooseAlternative (hs : Poised (s, none)) (ht : s.workspace.Titled)
    (c : ConstraintId) (parent : Handle) (after : Option Handle) (replaced h : Handle) :
    Keeps h (s.addNode c parent after).1 (s.chooseAlternative c parent after replaced).1 := by
  have hm : Moves False True (s, none) ((s.addNode c parent after).1, none) :=
    moves_addNode hs c parent after
  have hposed := hm.poised hs
  have htitled := hm.titled hs ht
  unfold chooseAlternative
  generalize s.addNode c parent after = added at hposed htitled
  obtain ⟨u, fault | x⟩ := added
  · exact .refl h u
  · dsimp only at hposed htitled ⊢
    have hremoved := keeps_removeNode hposed htitled replaced h
    generalize u.removeNode replaced = removed at hremoved
    obtain ⟨u', fault | ⟨⟩⟩ := removed
    · exact hremoved
    · exact hremoved.trans (keeps_giveUp u' parent h)

/-- Choosing an alternative settles what is kept for any node, as soon as the new one is added. -/
theorem settles_chooseAlternative (hs : Poised (s, none)) (ht : s.workspace.Titled)
    (c : ConstraintId) (parent : Handle) (after : Option Handle) (replaced h : Handle) :
    Settles h s (s.addNode c parent after).1 (s.chooseAlternative c parent after replaced).1 :=
  (settles_addNode hs c parent after h).keeps
    (keeps_chooseAlternative hs ht c parent after replaced h)

/-- Every action settles what is kept for any node, in the session where it is found. -/
theorem settles_perform (hs : Poised (s, none)) (ht : s.workspace.Titled) (a : Action)
    (h : Handle) : Settles h s (s.finding (chosen? a) (s.perform a).1) (s.perform a).1 := by
  cases a with
  | addSibling c parent after => exact settles_addNode hs c parent _ h
  | addChild c parent after => exact settles_addNode hs c parent after h
  | addAttribute c element => exact (answers_addAttribute hs ht c element h).settles
  | remove node => exact settles_removeNode hs ht node h
  | removeAttribute node => exact settles_removeNode hs ht node h
  | chooseAlternative c parent after replaced =>
    exact settles_chooseAlternative hs ht c parent after replaced h

/-- A request either finds the verdict on the node, and leaves it alone afterwards, or leaves it
alone. -/
theorem finds_or_keeps (hs : Poised (s, none)) (ht : s.workspace.Titled) (q : Request)
    (h : Handle) :
    (s.Finds h q → (s.findingOf q).Right h ∧ Keeps h (s.findingOf q) (s.answer q).1) ∧
      (¬ s.Finds h q → Keeps h s (s.answer q).1) := by
  cases q with
  | look k =>
    obtain ⟨os, heq⟩ := exists_offers s k
    have hk : Keeps h s (s.offers k).1 := heq ▸ .of_eq rfl rfl rfl
    exact Answers.settles (Or.inl hk)
  | take o =>
    show Settles h s (s.finding (s.choice? (.take o)) (s.take o).1) (s.take o).1
    rw [choice?, take]
    split_ifs
    · exact settles_perform hs ht o.action h
    · exact Answers.settles (Or.inl (.refl h s))
  | addNode c parent after => exact settles_addNode hs c parent after h
  | addAttribute c element => exact (answers_addAttribute hs ht c element h).settles
  | remove k => exact settles_removeNode hs ht k h
  | choose c parent after replaced =>
    exact settles_chooseAlternative hs ht c parent after replaced h
  | setValue k value =>
    refine ⟨fun hfinds => ⟨?_, .refl h _⟩, fun hno => ?_⟩
    · by_cases hk : k = h ∧ (s.setValue k value).2 = .ok ()
      · obtain ⟨rfl, hdone⟩ := hk
        exact right_setValue hs hdone
      · exact (keeps_setValue hs ht hk).right (hfinds.resolve_right hk)
    · exact keeps_setValue hs ht fun hk => hno (Or.inr hk)
  | replace old source linked k => exact (answers_replace hs ht linked old k h).settles
  | judge k deep => exact (answers_verdictOn s k deep h).settles
  | revalidate =>
    refine ⟨fun hfinds => ⟨?_, .refl h _⟩, fun hno => ?_⟩
    · by_cases hr : s.Reaches h
      · exact right_revalidate hs hr
      · exact (keeps_revalidate hs hr).right (hfinds.resolve_right hr)
    · exact keeps_revalidate hs fun hr => hno (Or.inr hr)

/-! ## Runs -/

/-- A run leads to the second session, and the verdict that it keeps for the node was last found in
the first one. A session that keeps none counts as the one where it is found. -/
inductive FoundIn (h : Handle) : Session → Session → Prop
  | unjudged {s : Session} : Arises atWill s → s.verdict? h = none → FoundIn h s s
  | found {s : Session} {q : Request} :
      Arises atWill s → s.Finds h q → FoundIn h (s.findingOf q) (s.answer q).1
  | asked {u s : Session} {q : Request} :
      FoundIn h u s → ¬ s.Finds h q → FoundIn h u (s.answer q).1
  | notified {u s : Session} (n : Notice) : FoundIn h u s → FoundIn h u (s.notify n)
  | noticed {u s : Session} : FoundIn h u s → FoundIn h u s.takeNotices.1

/-- A session for which a verdict was found arises by requests. -/
theorem FoundIn.arises (hf : FoundIn h u s) : Arises atWill s := by
  induction hf with
  | unjudged ha _ => exact ha
  | found ha _ => exact ha.asked trivial
  | asked _ _ ih => exact ih.asked trivial
  | notified n _ ih => exact ih.notified n
  | noticed _ ih => exact ih.noticed

/-- Where there are no verdicts, a session begins without any. -/
theorem verdict?_begin (hs : s.verdict? h = none) : s.begin.verdict? h = none := by
  have hok := (judgedAlike_checkRules { s with workspace :=
    { s.workspace with outline := .ofDocument s.document } } s.rules.ids h).typeOk
  have hnone : ({ s with workspace :=
    { s.workspace with outline := .ofDocument s.document } } : Session).verdict? h = none := hs
  rw [hnone, Option.map_none, Option.map_eq_none_iff] at hok
  exact hok

/-- In every run the verdict was found in some session. -/
theorem Arises.exists_foundIn (ha : Arises atWill s) (h : Handle) : ∃ u, FoundIn h u s := by
  induction ha with
  | created hc =>
    obtain ⟨u, rfl, hu⟩ := exists_unjudged_of_create hc
    exact ⟨_, .unjudged (.created hc) (verdict?_begin (hu h))⟩
  | loaded hl =>
    obtain ⟨u, rfl, hu⟩ := exists_unjudged_of_load hl
    exact ⟨_, .unjudged (.loaded hl) (verdict?_begin (hu h))⟩
  | @asked s q ha _ ih =>
    obtain ⟨u, hu⟩ := ih
    by_cases hfinds : s.Finds h q
    · exact ⟨_, .found ha hfinds⟩
    · exact ⟨u, .asked hu hfinds⟩
  | notified n _ ih => exact ih.imp fun _ hu => hu.notified n
  | noticed _ ih => exact ih.imp fun _ hu => hu.noticed

/-- The verdict that the second session keeps for the node is what the first one says of it, unless
its constraint makes it a name. -/
def Recalls (h : Handle) (u s : Session) : Prop :=
  ∀ v c, s.verdict? h = some v → s.workspace.binding? h = some c →
    s.workspace.isNaming c = false → s.workspace.model = u.workspace.model ∧
      u.workspace.binding? h = some c ∧ v.typeOk = u.valueIsValid h

/-- What is right is recalled as it is. -/
theorem Right.recalls (hr : s.Right h) : Recalls h s s :=
  fun v c hv hb hc => ⟨rfl, hb, hr v c hv hb hc⟩

/-- What is recalled stays so as long as the verdict is kept. -/
theorem Recalls.keeps (hr : Recalls h u s) (hk : Keeps h s s') : Recalls h u s' := by
  intro v c hv hb hc
  rcases hk.kept with hnone | ⟨hok, hb'⟩ | ⟨i, hi, hname⟩
  · rw [hnone] at hv
    simp at hv
  · rw [hv, Option.map_some] at hok
    obtain ⟨v', hv', hok'⟩ := Option.map_eq_some_iff.mp hok.symm
    rw [Workspace.isNaming_congr hk.model] at hc
    obtain ⟨hm, hbu, hok''⟩ := hr v' c hv' (hb'.symm.trans hb) hc
    exact ⟨hk.model.trans hm, hbu, hok'.symm.trans hok''⟩
  · obtain rfl := Option.some.inj (hb.symm.trans hi)
    rw [hc] at hname
    simp at hname

/-- The verdict is what was said of the node when it was found. -/
theorem FoundIn.recalls (hf : FoundIn h u s) : Recalls h u s := by
  induction hf with
  | unjudged _ hv => exact (right_of_verdict?_eq_none hv).recalls
  | found ha hfinds =>
    obtain ⟨hright, hkeeps⟩ := (finds_or_keeps ha.poised ha.titled _ h).1 hfinds
    exact hright.recalls.keeps hkeeps
  | asked hf hno ih =>
    exact ih.keeps ((finds_or_keeps hf.arises.poised hf.arises.titled _ h).2 hno)
  | notified n _ ih => exact ih
  | noticed _ ih => exact ih

/-- A value that is set is judged at once. -/
theorem foundIn_setValue_self {value : String} (ha : Arises atWill s)
    (hdone : (s.setValue h value).2 = .ok ()) :
    FoundIn h (s.answer (.setValue h value)).1 (s.answer (.setValue h value)).1 := by
  have hfinds : s.Finds h (.setValue h value) := Or.inr ⟨rfl, hdone⟩
  exact .found ha hfinds

/-- The verdict on a node is not found again when the value of another one is set. -/
theorem FoundIn.setValue (hf : FoundIn h u s) (hv : s.verdict? h ≠ none) (hk : k ≠ h)
    (value : String) : FoundIn h u (s.answer (.setValue k value)).1 :=
  hf.asked fun hfinds => hfinds.elim hv fun hset => hk hset.1

end GuidedXml.Session
