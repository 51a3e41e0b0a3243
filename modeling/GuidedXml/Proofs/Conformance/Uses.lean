/-
# Attribute uses

Constraints of attributes say whether an attribute has to be there, may be there, or must not be
there. Creation minds this and so do the offers, but binding does not.

The main statement says that all uses are honoured in guided runs from new documents, and that in
guided runs from given ones exactly those stay unhonoured that were so before.
-/
import GuidedXml.Proofs.Conformance.Attributes

namespace GuidedXml

open Schema (ConstraintId ContentModel)

/-- No attribute that must not be there has a value given in advance. -/
def Schema.ContentModel.ForbidsPlainly (m : ContentModel) : Prop :=
  ∀ e ∈ m.entries.toList, e.kind = .attribute → e.use = some .prohibited → e.hasPreset = false

instance (m : ContentModel) : Decidable m.ForbidsPlainly :=
  inferInstanceAs (Decidable (∀ e ∈ m.entries.toList, _))

namespace Session

open Workspace (ComesAlong)

variable {s s' : Session} {a k : Handle} {i : ConstraintId} {seen seen' : List Offer}

/-- The element has no attribute of the constraint, which says that it has to be there. -/
structure Lacks (s : Session) (k : Handle) (i : ConstraintId) : Prop where
  attached : s.document.isAttached k = true
  isElement : s.document.isElement k = true
  declared : ∃ c, s.workspace.binding? k = some c ∧ i ∈ s.workspace.model.attributes c
  required : ((s.workspace.model.get? i).bind fun e => e.use) = some .required
  missing : ∀ a ∈ s.document.attributes k, s.workspace.binding? a ≠ some i

/-- The attribute is of a constraint that says that it must not be there. -/
structure Trespasses (s : Session) (a : Handle) : Prop where
  attached : s.document.isAttached a = true
  isAttribute : s.document.isAttribute a = true
  prohibited : ((s.workspace.constraint? a).bind fun e => e.use) = some .prohibited

/-- Every attribute is there that has to be, and none that must not be. -/
def HonoursUses (s : Session) : Prop :=
  (∀ k i, ¬ s.Lacks k i) ∧ ∀ a, ¬ s.Trespasses a

/-! ## What comes and what goes -/

/-- Where no attribute is declared twice everything that is live is attached. -/
theorem Kempt.attached {sparing : Prop} (hk : Kempt True sparing s)
    (hc : s.document.contains k = true) : s.document.isAttached k = true := by
  have horder := hk.poised.sane.orderly
  refine (Document.isAttached_iff horder).mpr (Document.Rooted.within_top ?_ horder hc)
  refine hk.tended.rooted.mono fun k hstray => ?_
  rcases hstray with ⟨hno, -⟩ | hnone
  · exact hno trivial
  · simp at hnone

/-- An attribute that is required comes along. -/
theorem comesAlong_of_required {e : ContentModel.Entry} (he : e.use = some .required) :
    e.comesAlong = true := by
  simp [Schema.Constraint.comesAlong, he]

/-- What must not be there neither comes along nor freely. -/
theorem not_prohibited_of_comes (hplain : s.workspace.model.ForbidsPlainly)
    (hcomes : ComesAlong s.workspace a ∨ ComesFreely s.workspace a) {e : ContentModel.Entry}
    (he : s.workspace.constraint? a = some e) : e.use ≠ some .prohibited := by
  intro hno
  rcases hcomes with ⟨e', he', hkind, hcomes⟩ | ⟨e', he', hfree⟩
  · obtain rfl := Option.some.inj (he'.symm.trans he)
    have hmem : e' ∈ s.workspace.model.entries.toList := by
      obtain ⟨i, -, hget⟩ := Option.bind_eq_some_iff.mp he
      exact Array.mem_toList_iff.mpr (Array.mem_of_getElem? hget)
    have hpreset := hplain e' hmem hkind hno
    simp [Schema.Constraint.comesAlong, hno, hpreset] at hcomes
  · obtain rfl := Option.some.inj (he'.symm.trans he)
    simp [Schema.Constraint.isFreeOptional, hno] at hfree

section Leaving

variable (ha : LeavesAlone True s s') (hs : s.Tidy)

include ha hs

/-- Whether an element that stays lacks an attribute does not change. -/
theorem LeavesAlone.lacks_iff (hin : ∀ k, s.document.contains k = true →
      s.document.isAttached k = true)
    (hin' : ∀ k, s'.document.contains k = true → s'.document.isAttached k = true) :
    s'.Lacks k i ↔ s.Lacks k i ∧ s'.document.contains k = true := by
  constructor
  · intro hl
    have hlive := Document.contains_of_isElement hl.isElement
    refine ⟨?_, hlive⟩
    obtain ⟨c, hb, hi⟩ := hl.declared
    obtain ⟨e, he, huse⟩ := Option.bind_eq_some_iff.mp hl.required
    cases hc : s.document.contains k with
    | false =>
      -- new elements have all that comes along
      obtain ⟨a, hmem, hba⟩ := ha.element trivial k hc hl.isElement c i e hb hi he
        (comesAlong_of_required huse)
      exact absurd hba (hl.missing a hmem)
    | true =>
      rw [ha.binding? k hc hlive] at hb
      rw [ha.model] at hi he
      refine ⟨hin k hc, ?_, ⟨c, hb, hi⟩, Option.bind_eq_some_iff.mpr ⟨e, he, huse⟩, fun a hmem hba => ?_⟩
      · rw [← Document.isElement_congr (ha.kind? k hc hlive)]
        exact hl.isElement
      · rcases ha.kept k a hc hlive hmem with hmem' | hfree
        · refine hl.missing a hmem' ((ha.binding? a ?_ ?_).trans hba)
          · exact hs.linked.contains_of_mem (Document.mem_inside.mpr (Or.inl hmem))
          · exact ha.tidy.linked.contains_of_mem (Document.mem_inside.mpr (Or.inl hmem'))
        · have hcomes := hfree.not_comesAlong hba he
          rw [comesAlong_of_required huse] at hcomes
          simp at hcomes
  · rintro ⟨hl, hlive⟩
    have hc := Document.contains_of_isElement hl.isElement
    obtain ⟨c, hb, hi⟩ := hl.declared
    obtain ⟨e, he, huse⟩ := Option.bind_eq_some_iff.mp hl.required
    refine ⟨hin' k hlive, ?_, ⟨c, ?_, ?_⟩, ?_, fun a hmem hba => ?_⟩
    · rw [Document.isElement_congr (ha.kind? k hc hlive)]
      exact hl.isElement
    · rw [ha.binding? k hc hlive]
      exact hb
    · rw [ha.model]
      exact hi
    · rw [ha.model]
      exact hl.required
    · rcases ha.given k a hc hmem with hmem' | hfree
      · refine hl.missing a hmem' ((ha.binding? a ?_ ?_).symm.trans hba)
        · exact hs.linked.contains_of_mem (Document.mem_inside.mpr (Or.inl hmem'))
        · exact ha.tidy.linked.contains_of_mem (Document.mem_inside.mpr (Or.inl hmem))
      · have hcomes := hfree.not_comesAlong hba (ha.model ▸ he)
        rw [comesAlong_of_required huse] at hcomes
        simp at hcomes

omit hs

/-- No attribute that must not be there is added, and those that stay are still such. -/
theorem LeavesAlone.trespasses_iff (hplain : s.workspace.model.ForbidsPlainly)
    (hin : ∀ k, s.document.contains k = true → s.document.isAttached k = true)
    (hin' : ∀ k, s'.document.contains k = true → s'.document.isAttached k = true) :
    s'.Trespasses a ↔ s.Trespasses a ∧ s'.document.contains a = true := by
  have hsame : s.document.contains a = true → s'.document.contains a = true →
      s'.workspace.constraint? a = s.workspace.constraint? a ∧
        s'.document.isAttribute a = s.document.isAttribute a := by
    intro hc hlive
    refine ⟨?_, Document.isAttribute_congr (ha.kind? a hc hlive)⟩
    rw [Workspace.constraint?, Workspace.constraint?, ha.model, ha.binding? a hc hlive]
  constructor
  · intro ht
    have hlive := Workspace.contains_of_kinds (Or.inr ht.isAttribute)
    refine ⟨?_, hlive⟩
    obtain ⟨e, he, huse⟩ := Option.bind_eq_some_iff.mp ht.prohibited
    cases hc : s.document.contains a with
    | false =>
      have hcomes := (ha.ofAttribute a hc ht.isAttribute).imp_right And.left
      exact absurd huse (not_prohibited_of_comes (ha.model ▸ hplain) hcomes he)
    | true =>
      obtain ⟨hconstraint, hattr⟩ := hsame hc hlive
      exact ⟨hin a hc, hattr ▸ ht.isAttribute, hconstraint ▸ ht.prohibited⟩
  · rintro ⟨ht, hlive⟩
    have hc := Workspace.contains_of_kinds (Or.inr ht.isAttribute)
    obtain ⟨hconstraint, hattr⟩ := hsame hc hlive
    exact ⟨hin' a hlive, hattr ▸ ht.isAttribute, hconstraint ▸ ht.prohibited⟩

end Leaving

/-! ## Runs -/

/-- A new document honours all uses. -/
theorem honoursUses_create {m : ContentModel} {rules : RuleBook} {settings : Settings}
    (hm : m.Built) (hdist : m.AttributesDistinct) (hplain : m.ForbidsPlainly)
    (hc : create m rules settings = .ok s) : s.HonoursUses := by
  obtain ⟨halong, hcarries⟩ := comesAlong_of_create hm (fun _ : True => hdist) hc
  rw [← model_create hc] at hplain
  constructor
  · intro k i hl
    obtain ⟨c, hb, hi⟩ := hl.declared
    obtain ⟨e, he, huse⟩ := Option.bind_eq_some_iff.mp hl.required
    obtain ⟨a, hmem, hba⟩ := hcarries trivial k hl.isElement c i e hb hi he
      (comesAlong_of_required huse)
    exact hl.missing a hmem hba
  · intro a ht
    obtain ⟨e, he, huse⟩ := Option.bind_eq_some_iff.mp ht.prohibited
    exact not_prohibited_of_comes hplain (Or.inl (halong a ht.isAttribute)) he huse

/-- In a guided run from a new document all uses are honoured. Wherever a guided run goes on, those
uses are not honoured that were not honoured before, of nodes that are still there, and no others. -/
theorem uses_of_guided {m : ContentModel} (hm : m.Built) (hdist : m.AttributesDistinct)
    (hplain : m.ForbidsPlainly) :
    (∀ rules settings s s' seen, create m rules settings = .ok s → Leads guided s [] s' seen →
      s'.HonoursUses) ∧
    ∀ s s' seen seen', Reached guided s seen → s.workspace.model = m →
      Leads guided s seen s' seen' →
      (∀ k i, s'.Lacks k i ↔ s.Lacks k i ∧ s'.document.contains k = true) ∧
      ∀ a, s'.Trespasses a ↔ s.Trespasses a ∧ s'.document.contains a = true := by
  have hstep : ∀ s s' seen seen', Reached guided s seen → s.workspace.model = m →
      Leads guided s seen s' seen' →
      (∀ k i, s'.Lacks k i ↔ s.Lacks k i ∧ s'.document.contains k = true) ∧
      ∀ a, s'.Trespasses a ↔ s.Trespasses a ∧ s'.document.contains a = true := by
    rintro s s' seen seen' hr rfl hl
    have hkempt : Kempt True False s := hr.kempt hm.treeShaped fun _ => hdist
    have hmodel := hl.model hr
    have hkempt' : Kempt True False s' := (hl.reached hr).kempt (hmodel ▸ hm.treeShaped)
      fun _ => hmodel ▸ hdist
    have halone := hl.leavesAlone hr hm fun _ : True => hdist
    have hin := fun k hc => hkempt.attached (k := k) hc
    have hin' := fun k hc => hkempt'.attached (k := k) hc
    exact ⟨fun k i => halone.lacks_iff hr.staleOrFresh.1 hin hin',
      fun a => halone.trespasses_iff hplain hin hin'⟩
  refine ⟨fun rules settings s s' seen hc hl => ?_, hstep⟩
  obtain ⟨hlacks, htrespasses⟩ := honoursUses_create hm hdist hplain hc
  obtain ⟨hkept, hkept'⟩ := hstep s s' [] seen (.created hc) (model_create hc) hl
  exact ⟨fun k i h => hlacks k i ((hkept k i).mp h).1,
    fun a h => htrespasses a ((hkept' a).mp h).1⟩

/-! ## A register -/

/-- A content model with any number of entries, which have to have a key and must be no drafts. -/
def register : ContentModel :=
  let m := (ContentModel.ofRoot (.ofElement "register" .once)).add ContentModel.root
    (.ofElement "entry" .any)
  let m := m.1.add ⟨1⟩ (.ofAttribute "key" .required)
  (m.1.add ⟨1⟩ (.ofAttribute "draft" .prohibited)).1

theorem built_register : register.Built := by
  refine .add (.add (.add (.ofRoot rfl) ?_) ?_) ?_ <;> decide

theorem attributesDistinct_register : register.AttributesDistinct := by
  decide

theorem forbidsPlainly_register : register.ForbidsPlainly := by
  decide

/-- The session of a new register. -/
def newRegister : Session :=
  match create register {} {} with
  | .ok s => s
  | .error _ => start .empty register {} {}

theorem create_register : create register {} {} = .ok newRegister := rfl

/-- The offer to put a first entry into the register. -/
def entryOffer : Offer where
  objective := "entry"
  anchor := ⟨1⟩
  revision := 0
  action := .addChild ⟨1⟩ ⟨1⟩ none

/-- A register with an entry that has no key and is a draft. -/
def draftRegister : Document :=
  match Document.read "<register><entry draft=\"yes\"/></register>" with
  | .ok d => d
  | .error _ => .empty

theorem read_draftRegister :
    Document.read "<register><entry draft=\"yes\"/></register>" = .ok draftRegister := by
  have hok : (Document.read "<register><entry draft=\"yes\"/></register>").toBool = true := by
    decide +kernel
  unfold draftRegister
  generalize Document.read "<register><entry draft=\"yes\"/></register>" = read at hok
  cases read with
  | ok d => rfl
  | error fault => cases hok

/-- The session of the register with the draft. -/
def drafted : Session :=
  match ofDocument draftRegister register {} {} with
  | .ok s => s
  | .error _ => start .empty register {} {}

theorem ofDocument_drafted : ofDocument draftRegister register {} {} = .ok drafted := by
  have hok : (ofDocument draftRegister register {} {}).toBool = true := by
    decide +kernel
  unfold drafted
  generalize ofDocument draftRegister register {} {} = opened at hok
  cases opened with
  | ok s => rfl
  | error fault => cases hok

theorem load_drafted : load "<register><entry draft=\"yes\"/></register>" (fun _ => .ok register)
    {} {} = .ok drafted := by
  have hroot : draftRegister.root? = some ⟨1⟩ := by
    decide +kernel
  simp only [load, read_draftRegister, hroot]
  exact ofDocument_drafted

/-- Binding accepts an entry that lacks its key and is a draft. -/
theorem drafted_accepted : register.Built ∧ register.AttributesDistinct ∧
    register.ForbidsPlainly ∧ load "<register><entry draft=\"yes\"/></register>"
      (fun _ => .ok register) {} {} = .ok drafted ∧
    drafted.Lacks ⟨2⟩ ⟨2⟩ ∧ drafted.Trespasses ⟨3⟩ := by
  refine ⟨built_register, attributesDistinct_register, forbidsPlainly_register, load_drafted,
    ⟨?_, ?_, ⟨⟨1⟩, ?_, ?_⟩, ?_, ?_⟩, ⟨?_, ?_, ?_⟩⟩ <;> decide +kernel

/-- An entry that is added to a new register has its key and is no draft. In the other register
nothing is mended by looking at the entry. -/
theorem entry_has_key :
    ((newRegister.offers ⟨1⟩).1.take entryOffer).1.HonoursUses ∧
      (drafted.offers ⟨2⟩).1.Lacks ⟨2⟩ ⟨2⟩ := by
  obtain ⟨hnew, hgiven⟩ :=
    uses_of_guided built_register attributesDistinct_register forbidsPlainly_register
  have hmodel : drafted.workspace.model = register :=
    model_ofDocument (Document.orderly_of_read read_draftRegister).toLinked ofDocument_drafted
  have hlacks : drafted.Lacks ⟨2⟩ ⟨2⟩ := by
    refine ⟨?_, ?_, ⟨⟨1⟩, ?_, ?_⟩, ?_, ?_⟩ <;> decide +kernel
  constructor
  · refine hnew {} {} newRegister _ [entryOffer] create_register ?_
    exact (Leads.still.asked (r := .look ⟨1⟩) trivial).asked (r := .take entryOffer)
      (List.mem_singleton_self _)
  · refine ((hgiven drafted _ [] _ (.loaded load_drafted) hmodel
      (Leads.still.asked (r := .look ⟨2⟩) trivial)).1 ⟨2⟩ ⟨2⟩).mpr ⟨hlacks, ?_⟩
    decide +kernel

end Session

end GuidedXml
