/-
# Saved sessions

In guided runs no element comes to have two attributes of one name, and names are those that the
content model declares, or those of attributes that are let through. So the document can always be
saved, and what is saved can be read again.

The main statement says what a document that was saved in a guided run is when it is read again:
the same elements with the same names and attributes, each with its first text that has more than
blanks. Where texts are blank, or stand side by side, that is not the value that was saved.
-/
import GuidedXml.Proofs.Conformance.Attributes
import GuidedXml.Proofs.Document.Arena
import GuidedXml.Proofs.Document.Restoring

namespace GuidedXml

open Document (Restored)
open Markup (IsPlainName)
open Schema (ConstraintId ContentModel)

/-- All elements and attributes are declared with plain names. -/
def Schema.ContentModel.PlainlyNamed (m : ContentModel) : Prop :=
  ∀ e ∈ m.entries.toList, e.kind = .element ∨ e.kind = .attribute → IsPlainName e.name

instance (m : ContentModel) : Decidable m.PlainlyNamed :=
  inferInstanceAs (Decidable (∀ e ∈ m.entries.toList, _))

theorem Schema.ContentModel.PlainlyNamed.name {m : ContentModel} (hm : m.PlainlyNamed)
    {c : ConstraintId} (hc : m.kind? c = some .element ∨ m.kind? c = some .attribute) :
    IsPlainName (m.name c) := by
  cases he : m.get? c with
  | none => simp [ContentModel.kind?, he] at hc
  | some e =>
    have hmem : e ∈ m.entries.toList := Array.mem_toList_iff.mpr (Array.mem_of_getElem? he)
    have hname : m.name c = e.name := by simp [ContentModel.name, he]
    rw [hname]
    exact hm e hmem (by simpa [ContentModel.kind?, he] using hc)

namespace Session

variable {s : Session} {m : ContentModel} {rules : RuleBook} {settings : Settings} {d : Document}
  {seen : List Offer}

/-! ## Names of attributes -/

/-- In a new document no element has two attributes of one name. -/
theorem tidyDocument_create (hc : create m rules settings = .ok s) : s.document.Tidy := by
  have hstart := opened_start Document.orderly_empty m rules settings
  have hsound : Workspace.Sound ((start .empty m rules settings).workspace, .empty) :=
    hstart.tidy.sound
  obtain ⟨stage, h, d, hcreate, happend, halike⟩ := create_eq_ok hc
  have hbuilds := Workspace.builds_create hsound ContentModel.root
  rw [hcreate] at hbuilds
  rw [show s.document = d from halike.document]
  exact (hbuilds.tidy Document.tidy_empty).append happend

/-- A guided run gives no element two attributes of one name. -/
theorem Reached.tidyDocument (hr : Reached guided s seen) (hm : s.workspace.model.Built) :
    s.document.Tidy := by
  induction hr with
  | created hc => exact tidyDocument_create hc
  | loaded hl =>
    obtain ⟨d, m, hd, ho⟩ := load_eq_ok hl
    obtain ⟨r, w, -, -, halike⟩ := ofDocument_eq_ok ho
    rw [halike.document]
    exact Document.tidy_of_read hd
  | @asked s seen r hreached hguided ih =>
    obtain ⟨htidy, hfresh, hseen⟩ := hreached.staleOrFresh
    rw [model_answer htidy] at hm
    have hkempt : Kempt False False s := hreached.kempt hm.treeShaped False.elim
    exact (leavesAlone_answer htidy hm False.elim hkempt.poised.sane hfresh hseen hguided).keyed
      (ih hm)

/-- In a session all elements and attributes have plain names, if the content model declares plain
names, and attributes that are let through have plain names. -/
theorem Reached.plainlyNamed (hr : Reached guided s seen) (hm : s.workspace.model.Built)
    (hnames : s.workspace.model.PlainlyNamed)
    (hlet : ∀ a, s.document.isAttribute a = true →
      s.workspace.isWhitelisted (s.document.name a) = true → IsPlainName (s.document.name a)) :
    s.document.PlainlyNamed := by
  have hkempt : Kempt False False s := hr.kempt hm.treeShaped False.elim
  intro k hk
  have hlabelled := hkempt.tended.labelled k
  rcases hk with he | ha
  · obtain ⟨c, -, hkind, hname⟩ := hlabelled.element he
    exact hname ▸ hnames.name (Or.inl hkind)
  · rcases hlabelled.ofAttribute ha with hwhite | ⟨c, -, hkind, hname⟩
    · exact hlet k ha hwhite
    · exact hname ▸ hnames.name (Or.inr hkind)

/-! ## Saving -/

/-- A document is saved in a guided run whenever it is asked for, and what is saved is read as a
document in which its outermost element is restored. Elements whose value stands alone among the
texts show that value again. -/
theorem restored_of_save (hr : Reached guided s seen) (hm : s.workspace.model.Built)
    (hnames : s.workspace.model.PlainlyNamed)
    (hlet : ∀ a, s.document.isAttribute a = true →
      s.workspace.isWhitelisted (s.document.name a) = true → IsPlainName (s.document.name a)) :
    ∃ written d r r', s.save = .ok written ∧ Document.read written = .ok d ∧
      s.root? = some r ∧ d.root? = some r' ∧ Restored s.document d r r' ∧
      ∀ h, s.document.isElement h = true → s.document.KeepsValue h →
        s.document.lastingValue h = s.document.value h := by
  have hkempt : Kempt False False s := hr.kempt hm.treeShaped False.elim
  obtain ⟨r, hsingle⟩ := hkempt.mirrors.single
  have hroot : s.document.root? = some r := by rw [Document.root?, hsingle, List.head?_cons]
  obtain ⟨written, d, r', hsave, hread, hroot', hrestored⟩ := Document.exists_restored
    (hr.tidyDocument hm) (hr.plainlyNamed hm hnames hlet) hroot s.settings.saveIndent
  exact ⟨written, d, r, r', hsave, hread, hroot, hroot', hrestored,
    fun h he hk => Document.lastingValue_eq_value he hk⟩

/-! ## A memo -/

/-- A content model with one note. -/
def memo : ContentModel :=
  ((ContentModel.ofRoot (.ofElement "memo" .once)).add ContentModel.root
    ((Schema.Constraint.ofElement "note" .once).typed "string")).1

theorem built_memo : memo.Built := by
  refine .add (.ofRoot rfl) ?_
  decide

theorem plainlyNamed_memo : memo.PlainlyNamed := by
  decide +kernel

/-- The session of a new memo. -/
def newMemo : Session :=
  match create memo {} {} with
  | .ok s => s
  | .error _ => start .empty memo {} {}

theorem create_memo : create memo {} {} = .ok newMemo := rfl

/-- The session of a new memo after its note was given a value. -/
def memoWith (value : String) : Session :=
  (newMemo.setValue ⟨2⟩ value).1

theorem reached_memoWith (value : String) : Reached guided (memoWith value) [] :=
  (Reached.created create_memo).asked (r := .setValue ⟨2⟩ value) trivial

theorem model_memoWith (value : String) : (memoWith value).workspace.model = memo :=
  (model_answer (Reached.created create_memo : Reached guided newMemo []).staleOrFresh.1
    (.setValue ⟨2⟩ value)).trans (model_create create_memo)

theorem plainlyNamed_cake : (memoWith "tea & <cake>").document.PlainlyNamed := by
  decide +kernel

/-- A note whose value looks like markup is saved and read again, and that value lasts. -/
theorem cake_restored :
    (∃ written d r r', (memoWith "tea & <cake>").save = .ok written ∧
      Document.read written = .ok d ∧ (memoWith "tea & <cake>").root? = some r ∧
      d.root? = some r' ∧ Restored (memoWith "tea & <cake>").document d r r' ∧
      ∀ h, (memoWith "tea & <cake>").document.isElement h = true →
        (memoWith "tea & <cake>").document.KeepsValue h →
        (memoWith "tea & <cake>").document.lastingValue h =
          (memoWith "tea & <cake>").document.value h) ∧
      (memoWith "tea & <cake>").document.lastingValue ⟨2⟩ = "tea & <cake>" :=
  ⟨restored_of_save (reached_memoWith _) (model_memoWith _ ▸ built_memo)
    (model_memoWith _ ▸ plainlyNamed_memo) fun a ha _ => plainlyNamed_cake a (Or.inr ha),
    by decide +kernel⟩

/-- What is saved of a memo with a blank note. -/
def blankText : String :=
  "<?xml version=\"1.0\" encoding=\"UTF-8\"?>\n<memo>\n    <note> </note>\n</memo>"

/-! ## Quotes in names -/

/-- A content model with nothing but an element. -/
def bare : ContentModel :=
  ContentModel.ofRoot (.ofElement "a" .once)

/-- Attributes with quotes in their names are let through. -/
def quoting : Settings where
  whitelist := ["b'", "c\""]

/-- An element with such attributes; in each value the quote of its name is repeated. -/
def quotedText : String :=
  "<a b'=\"v'w\" c\"='x\"y'/>"

/-- What is saved of that element. The quotes in the names are now without others that close them. -/
def unquotedText : String :=
  "<?xml version=\"1.0\" encoding=\"UTF-8\"?>\n<a b'=\"v&apos;w\" c\"=\"x&quot;y\"/>"

/-- The session of that element. -/
def quoted : Session :=
  match load quotedText (fun _ => .ok bare) {} quoting with
  | .ok s => s
  | .error _ => start .empty bare {} quoting

theorem load_quoted : load quotedText (fun _ => .ok bare) {} quoting = .ok quoted := by
  have hok : (load quotedText (fun _ => .ok bare) {} quoting).toBool = true := by
    decide +kernel
  unfold quoted
  generalize load quotedText (fun _ => .ok bare) {} quoting = opened at hok
  cases opened with
  | ok s => rfl
  | error fault => cases hok

/-- A note with a blank value is saved, but where it is read again its value is empty. And where
names of attributes that are let through are not plain, what is saved may not be readable. -/
theorem saving_loses :
    (Reached guided (memoWith " ") [] ∧ memo.Built ∧ memo.PlainlyNamed ∧
      (memoWith " ").workspace.model = memo ∧ (memoWith " ").document.PlainlyNamed ∧
      (memoWith " ").document.elements ⟨1⟩ = [⟨2⟩] ∧ (memoWith " ").document.value ⟨2⟩ = " " ∧
      (memoWith " ").save = .ok blankText ∧
      (Document.read blankText).map (fun d => (d.root?, d.elements ⟨1⟩, d.value ⟨2⟩)) =
        .ok (some ⟨1⟩, [⟨2⟩], "")) ∧
    Reached guided quoted [] ∧ bare.Built ∧ bare.PlainlyNamed ∧ quoted.workspace.model = bare ∧
      quoted.save = .ok unquotedText ∧ (Document.read unquotedText).toBool = false := by
  refine ⟨⟨reached_memoWith _, built_memo, plainlyNamed_memo, model_memoWith _, ?_, ?_, ?_, ?_, ?_⟩,
    .loaded load_quoted, .ofRoot rfl, ?_, model_load load_quoted, ?_, ?_⟩ <;> decide +kernel

end Session

end GuidedXml
