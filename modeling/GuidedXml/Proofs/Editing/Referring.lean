/-
# Verdicts on references

A reference is judged by whether the names in it have owners. Names come and go without any word to
the references to them, so the verdict on a reference is that of the time when it was found: when it
was first asked for, or made, when its own value was set, or when everything was last judged anew.

The main statement says this for every run, and that the verdict is therefore the present one if the
value is what it was then, and the names in it that have owners are those that had owners then.
-/
import GuidedXml.Proofs.Editing.Finding

namespace GuidedXml

open Schema (Builtin Constraint ConstraintId ContentModel)

/-! ## References -/

/-- The names that a value under the constraint refers to. -/
def Workspace.namesIn (w : Workspace) (c : ConstraintId) (value : String) : List String :=
  match ((w.model.get? c).bind fun e => e.typeName).bind Builtin.named? with
  | some .idRef => [value]
  | some .idRefs => (Schema.listParts value.toList).map String.ofList
  | _ => []

/-- A constraint that refers to names makes none. -/
theorem Workspace.isNaming_of_isReferring {w : Workspace} {c : ConstraintId}
    (hc : w.isReferring c = true) : w.isNaming c = false := by
  unfold isReferring at hc
  unfold isNaming
  split at hc
  · next ht => simp [ht]
  · next ht => simp [ht]
  · simp at hc

namespace Session

variable {s u : Session} {h : Handle} {c : ConstraintId}

/-- What is said of the value of a node that is bound: what was said before, or else what is found
now. -/
theorem typeOk_verdictOn (hlive : s.document.contains h = true)
    (hb : s.workspace.binding? h = some c) (hfree : s.isWhitelisted h = false) :
    (s.verdictOn h false).2.typeOk = ((s.verdict? h).map Verdict.typeOk).getD (s.valueIsValid h) := by
  unfold verdictOn judge
  rw [if_neg (by simp), hlive, hfree]
  simp only [Bool.not_true, Bool.false_eq_true, if_false, Bool.false_or]
  cases hv : s.verdict? h with
  | some v => simp [hv]
  | none =>
    have hbound : s.workspace.isBound h = true := Option.isSome_of_mem hb
    simp [verdict?_validate s h hbound]

/-- Nothing is said against attributes that every element may have. -/
theorem typeOk_verdictOn_whitelisted (hlive : s.document.contains h = true)
    (hw : s.isWhitelisted h = true) : (s.verdictOn h false).2.typeOk = true := by
  unfold verdictOn judge
  rw [if_neg (by simp), hlive, hw]
  rfl

/-- A reference is as valid in one session as in the other, if the same of its names have owners. -/
theorem valueIsValid_of_owned (hm : s.workspace.model = u.workspace.model)
    (hb : s.workspace.binding? h = some c) (hbu : u.workspace.binding? h = some c)
    (hc : s.workspace.isReferring c = true) (hvalue : s.document.value h = u.document.value h)
    (howned : ∀ name ∈ s.workspace.namesIn c (s.document.value h),
      (s.workspace.claims.owner? name).isSome = (u.workspace.claims.owner? name).isSome) :
    s.valueIsValid h = u.valueIsValid h := by
  unfold valueIsValid Workspace.constraint?
  rw [hb, hbu, ← hm, ← hvalue]
  simp only [Option.bind_some]
  unfold Workspace.isReferring at hc
  unfold Workspace.namesIn at howned
  cases he : s.workspace.model.get? c with
  | none => rfl
  | some e =>
    rw [he, Option.bind_some] at hc howned
    dsimp only
    refine congrArg (!e.holdsText || ·) ?_
    unfold Schema.isValid Schema.acceptsType
    cases hname : e.typeName with
    | none => rfl
    | some name =>
      rw [hname, Option.bind_some] at hc howned
      simp only [Option.any_some]
      refine congrArg (· && _) ?_
      split at hc
      · next ht =>
        rw [ht] at howned ⊢
        simp only [Option.any_some, Builtin.accepts, Schema.isOwnedName, String.ofList_toList]
        rw [howned _ (List.mem_singleton.mpr rfl)]
      · next ht =>
        rw [ht] at howned ⊢
        simp only [Option.any_some, Builtin.accepts]
        rw [Bool.eq_iff_iff, List.all_eq_true, List.all_eq_true]
        refine forall₂_congr fun part hpart => ?_
        rw [Schema.isOwnedName, Schema.isOwnedName, howned _ (List.mem_map_of_mem hpart)]
      · simp at hc

/-- In every session of a run, a reference of which there is no verdict yet is judged by the names
that have owners now. A verdict that is kept is what was said of the reference when it was found: so
it is what would be said now, if the value is what it was, and the same of its names have owners.
Attributes that every element may have are never judged. -/
theorem reference_judged_when_found (ha : Arises atWill s)
    (hb : s.workspace.binding? h = some c) (hc : s.workspace.isReferring c = true) :
    (s.isWhitelisted h = true → (s.verdictOn h false).2.typeOk = true) ∧
    (s.isWhitelisted h = false →
      (s.verdict? h = none → (s.verdictOn h false).2.typeOk = s.valueIsValid h) ∧
      (∃ u, FoundIn h u s) ∧
      ∀ u, FoundIn h u s → s.verdict? h ≠ none →
        (s.verdictOn h false).2.typeOk = u.valueIsValid h ∧
        (s.document.value h = u.document.value h →
          (∀ name ∈ s.workspace.namesIn c (s.document.value h),
            (s.workspace.claims.owner? name).isSome = (u.workspace.claims.owner? name).isSome) →
          (s.verdictOn h false).2.typeOk = s.valueIsValid h)) := by
  have hlive : s.document.contains h = true := ha.poised.sane.contains_of_bound hb
  refine ⟨typeOk_verdictOn_whitelisted hlive, fun hfree => ?_⟩
  have hjudged := typeOk_verdictOn hlive hb hfree
  refine ⟨fun hnone => ?_, ha.exists_foundIn h, fun u hu hsome => ?_⟩
  · rw [hjudged, hnone]
    rfl
  · obtain ⟨v, hv⟩ := Option.ne_none_iff_exists'.mp hsome
    rw [hv] at hjudged
    obtain ⟨hm, hbu, hok⟩ := hu.recalls v c hv hb (Workspace.isNaming_of_isReferring hc)
    refine ⟨hjudged.trans hok, fun hvalue howned => ?_⟩
    exact (hjudged.trans hok).trans (valueIsValid_of_owned hm hb hbu hc hvalue howned).symm

/-! ## A guide -/

/-- A content model with any number of members, whose texts are names, and of friends, whose texts
are names of members; one more member may be named as the lead. -/
def guide : ContentModel :=
  let m := (ContentModel.ofRoot (.ofElement "guide" .once)).add ContentModel.root
    ((Constraint.ofElement "member" .any).typed "ID")
  let m := m.1.add ContentModel.root ((Constraint.ofElement "friend" .any).typed "IDREF")
  (m.1.add ContentModel.root ((Constraint.ofAttribute "lead" .optional).typed "IDREF")).1

/-- The session of a new guide. Every element may have a lead. -/
def newGuide : Session :=
  let settings : Settings := { whitelist := ["lead"] }
  match create guide {} settings with
  | .ok s => s
  | .error _ => start .empty guide {} settings

/-- A guide can be created. -/
theorem create_guide : create guide {} { whitelist := ["lead"] } = .ok newGuide := rfl

/-- The guide once it was given a lead, who is nobody, and a member and a friend. -/
def met : Session :=
  let requests : List Request := [.addAttribute ⟨3⟩ ⟨1⟩, .setValue ⟨2⟩ "bob",
    .addNode ⟨1⟩ ⟨1⟩ none, .setValue ⟨3⟩ "ann", .addNode ⟨2⟩ ⟨1⟩ (some ⟨3⟩)]
  requests.foldl (fun s q => (s.answer q).1) newGuide

/-- The guide with a friend who is nobody yet arises by requests. -/
theorem arises_met : Arises atWill met :=
  (((((Arises.created create_guide).asked (r := .addAttribute ⟨3⟩ ⟨1⟩) trivial).asked
    (r := .setValue ⟨2⟩ "bob") trivial).asked (r := .addNode ⟨1⟩ ⟨1⟩ none) trivial).asked
    (r := .setValue ⟨3⟩ "ann") trivial).asked (r := .addNode ⟨2⟩ ⟨1⟩ (some ⟨3⟩)) trivial

/-- The guide once the friend is the member. -/
def befriended : Session :=
  (met.answer (.setValue ⟨5⟩ "ann")).1

/-- So does the guide where the friend is the member. -/
theorem arises_befriended : Arises atWill befriended :=
  arises_met.asked trivial

/-- The guide once the member goes by another name. -/
def renamed : Session :=
  (befriended.answer (.setValue ⟨3⟩ "eve")).1

/-- So does the guide where the member goes by another name. -/
theorem arises_renamed : Arises atWill renamed :=
  arises_befriended.asked trivial

/-- The verdict on the friend is that of the time when the member had the name. -/
theorem foundIn_renamed : FoundIn ⟨5⟩ befriended renamed :=
  (foundIn_setValue_self arises_met (by decide +kernel)).setValue (by decide +kernel)
    (by decide) "eve"

/-- The friend is nobody now, and the lead was nobody ever. Nothing is said against them. -/
theorem typeOk_of_nobody : Arises atWill renamed ∧
    (renamed.workspace.binding? ⟨5⟩ = some ⟨2⟩ ∧ renamed.workspace.isReferring ⟨2⟩ = true ∧
      (renamed.verdictOn ⟨5⟩ false).2.typeOk = true ∧ renamed.valueIsValid ⟨5⟩ = false) ∧
    renamed.workspace.binding? ⟨2⟩ = some ⟨3⟩ ∧ renamed.workspace.isReferring ⟨3⟩ = true ∧
      (renamed.verdictOn ⟨2⟩ false).2.typeOk = true ∧ renamed.valueIsValid ⟨2⟩ = false := by
  refine ⟨arises_renamed, ⟨?_, ?_, ?_, ?_⟩, ?_, ?_, ?_, ?_⟩ <;> decide +kernel

/-- The guide once the member goes by the old name again. -/
def restored : Session :=
  (renamed.answer (.setValue ⟨3⟩ "ann")).1

/-- So does the guide where the member goes by the old name again. -/
theorem arises_restored : Arises atWill restored :=
  arises_renamed.asked trivial

/-- The verdict on the friend is still that of the time when the member had the name first. -/
theorem foundIn_restored : FoundIn ⟨5⟩ befriended restored :=
  foundIn_renamed.setValue (by decide +kernel) (by decide) "ann"

/-- The friend is the member again, and judged right. -/
theorem typeOk_friend : (restored.verdictOn ⟨5⟩ false).2.typeOk = befriended.valueIsValid ⟨5⟩ ∧
    (restored.verdictOn ⟨5⟩ false).2.typeOk = restored.valueIsValid ⟨5⟩ := by
  have hb : restored.workspace.binding? ⟨5⟩ = some ⟨2⟩ := by
    decide +kernel
  have hc : restored.workspace.isReferring ⟨2⟩ = true := by
    decide +kernel
  have hfree : restored.isWhitelisted ⟨5⟩ = false := by
    decide +kernel
  have hv : restored.verdict? ⟨5⟩ ≠ none := by
    decide +kernel
  have hvalue : restored.document.value ⟨5⟩ = befriended.document.value ⟨5⟩ := by
    decide +kernel
  have howned : ∀ name ∈ restored.workspace.namesIn ⟨2⟩ (restored.document.value ⟨5⟩),
      (restored.workspace.claims.owner? name).isSome =
        (befriended.workspace.claims.owner? name).isSome := by
    decide +kernel
  obtain ⟨-, hjudged⟩ := reference_judged_when_found arises_restored hb hc
  obtain ⟨hthen, hnow⟩ := (hjudged hfree).2.2 befriended foundIn_restored hv
  exact ⟨hthen, hnow hvalue howned⟩

end Session

end GuidedXml
