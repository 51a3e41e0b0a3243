/-
# Named types mean the same everywhere

A global complex type may be named by any number of element declarations, and is expanded for each
of them anew, with other names being followed and other numbers to come.

The main statement says that nothing of this is seen below the elements: the constraints that the
type gives are the same for all of them.
-/
import GuidedXml.Proofs.Schema.Placement
import Mathlib

namespace GuidedXml.Schema

variable {d : Definitions} {rootName : String} {m : ContentModel} {i j : ConstraintId}

/-! ## The same constraints -/

namespace ContentModel

/-- What the constraint of that number says. -/
def constraint? (m : ContentModel) (i : ConstraintId) : Option Constraint :=
  (m.get? i).map Entry.toConstraint

/-- Two constraints say the same, and so do their attributes and what is inside them, in order and
all the way down. -/
inductive Same (m : ContentModel) : ConstraintId → ConstraintId → Prop
  | intro {i j : ConstraintId} {c : Constraint} :
      m.constraint? i = some c → m.constraint? j = some c →
      List.Forall₂ (Same m) (m.attributes i) (m.attributes j) →
      List.Forall₂ (Same m) (m.children i) (m.children j) → Same m i j

/-- Below two constraints stand the same constraints. -/
def SameBelow (m : ContentModel) (i j : ConstraintId) : Prop :=
  List.Forall₂ (Same m) (m.attributes i) (m.attributes j) ∧
    List.Forall₂ (Same m) (m.children i) (m.children j)

/-- An entry tells the constraint and both of its lists. -/
theorem lists_of_get? {e : Entry} (hi : m.get? i = some e) :
    m.constraint? i = some e.toConstraint ∧ m.attributes i = e.attributes ∧
      m.children i = e.children := by
  rw [constraint?, attributes, children, hi]
  exact ⟨rfl, rfl, rfl⟩

mutual

/-- Constraints made of one part are the same. -/
theorem Shown.same {p : Part} {i j : ConstraintId} (hi : Shown m.get? p i)
    (hj : Shown m.get? p j) : Same m i j := by
  cases hi with
  | «attribute» hi hc ha hk =>
    cases hj with
    | «attribute» hj hc' ha' hk' =>
      obtain ⟨hconstraint, has, hcs⟩ := lists_of_get? hi
      obtain ⟨hconstraint', has', hcs'⟩ := lists_of_get? hj
      refine .intro hconstraint (by rw [hconstraint', hc, hc']) ?_ ?_
      · rw [has, has', ha, ha']
        exact .nil
      · rw [hcs, hcs', hk, hk']
        exact .nil
  | inside hi hc ha hk =>
    cases hj with
    | inside hj hc' ha' hk' =>
      obtain ⟨hconstraint, has, hcs⟩ := lists_of_get? hi
      obtain ⟨hconstraint', has', hcs'⟩ := lists_of_get? hj
      refine .intro hconstraint (by rw [hconstraint', hc, hc']) ?_ ?_
      · rw [has, has']
        exact ha.same ha'
      · rw [hcs, hcs']
        exact hk.same hk'
termination_by sizeOf p

/-- Constraints that show the same parts are the same, one by one. -/
theorem ShownAll.same {sort : Part → Bool} {ps : List Part} {js js' : List ConstraintId}
    (h : ShownAll m.get? sort ps js) (h' : ShownAll m.get? sort ps js') :
    List.Forall₂ (Same m) js js' := by
  cases h with
  | nil =>
    cases h'
    exact .nil
  | skip hp hps =>
    cases h' with
    | skip _ hps' => exact hps.same hps'
    | take hp' => simp [hp] at hp'
  | take hp hi hps =>
    cases h' with
    | skip hp' => simp [hp] at hp'
    | take _ hj hps' => exact .cons (hi.same hj) (hps.same hps')
termination_by sizeOf ps

end

end ContentModel

/-! ## Named types -/

/-- The declaration is of the type of that name. -/
def IsOfType (decl : Tree) (name : String) : Prop :=
  ∃ typeRef, decl.attribute? "type" = some typeRef ∧ Builtin.unprefixed typeRef = name

/-- A declaration of a complex type is expanded into what stands in the type, and names it. -/
theorem Expands.of_complexType {decl t : Tree} {name : String} {ps : List Part}
    {origins : List Tree} (h : Expands d [.element decl] ps origins) (htype : IsOfType decl name)
    (ht : d.complexTypes.get? name = some t) :
    ∃ qs, ps = .named name :: qs ∧
      Expands d (t.elements.map (.inside .complexType)) qs origins := by
  obtain ⟨typeRef, htype, rfl⟩ := htype
  have hstep : (Job.element decl).step d = some
      (.named (Builtin.unprefixed typeRef) (t.elements.map (.inside .complexType))) := by
    simp only [Job.step, htype, ht]
  cases h with
  | named hj h =>
    cases hstep.symm.trans hj
    exact ⟨_, rfl, by simpa using h⟩
  | into hj | simple hj | «attribute» hj | inside hj => cases hstep.symm.trans hj

/-- A declaration of a simple type is expanded into that type. -/
theorem Expands.of_simpleType {decl : Tree} {name : String} {ps : List Part} {origins : List Tree}
    (h : Expands d [.element decl] ps origins) (htype : IsOfType decl name)
    (hcomplex : d.complexTypes.get? name = none) :
    ∃ s, ps = [.simple s] ∧ Resolves d (.name name) s := by
  obtain ⟨typeRef, htype, rfl⟩ := htype
  have hstep : (Job.element decl).step d =
      some (.simple (.name (Builtin.unprefixed typeRef)) id []) := by
    simp only [Job.step, htype, hcomplex]
  cases h with
  | simple hj hs h =>
    cases hstep.symm.trans hj
    cases h
    exact ⟨_, rfl, hs⟩
  | into hj | named hj | «attribute» hj | inside hj => cases hstep.symm.trans hj

open ContentModel

/-- What is declared by a tree is traced to it. -/
theorem traced_of_declaredBy {decl : Tree} (h : d.contentModel rootName = .ok m)
    (hdecl : DeclaredBy d rootName i decl) : Traced d m.get? i decl := by
  obtain ⟨origins, horigins, -, htraced⟩ := traced_contentModel h
  obtain ⟨origins', horigins', hi⟩ := hdecl
  obtain rfl := horigins'.unique horigins
  exact htraced i decl hi

/-- The constraint of the root is made of the global declaration of its element. -/
theorem declaredBy_root {decl : Tree} (h : d.contentModel rootName = .ok m)
    (hdecl : d.elements.get? rootName = some decl) : DeclaredBy d rootName root decl := by
  obtain ⟨origins, horigins, -⟩ := traced_contentModel h
  refine ⟨origins, horigins, ?_⟩
  obtain ⟨decl', ps, below, hdecl', -, rfl⟩ := horigins
  exact hdecl'.symm.trans hdecl

/-- A constraint that is shown has the kind of the part. -/
theorem kind?_of_shown {c : Constraint} {ps : List Part} (h : Shown m.get? (.inside c ps) i) :
    m.kind? i = some c.kind := by
  cases h with
  | inside hi hc => rw [kind?, hi, Option.map_some, hc, kind_withParts]

/-- The constraint of an element shows the parts of its declaration. -/
theorem shown_of_declaredBy {decl : Tree} (h : d.contentModel rootName = .ok m)
    (hi : m.kind? i = some .element) (hdecl : DeclaredBy d rootName i decl) :
    ∃ c ps origins, Expands d [.element decl] ps origins ∧ Shown m.get? (.inside c ps) i := by
  cases traced_of_declaredBy h hdecl with
  | element _ _ hexpands hshown => exact ⟨_, _, _, hexpands, hshown⟩
  | compositor hk hshown =>
    rw [← Option.some.inj (hi.symm.trans (kind?_of_shown hshown))] at hk
    cases hk
  | «attribute» _ hshown =>
    cases hshown with
    | «attribute» he hc =>
      rw [kind?, he, Option.map_some, hc] at hi
      cases hi

/-- A constraint declared with a type that is no complex type has the simple type of that name. -/
theorem constraint?_of_simpleType {decl : Tree} {name : String}
    (h : d.contentModel rootName = .ok m)
    (hi : m.kind? i = some .element ∨ m.kind? i = some .attribute)
    (hdecl : DeclaredBy d rootName i decl) (htype : IsOfType decl name)
    (hcomplex : d.complexTypes.get? name = none) :
    ∃ c s, m.constraint? i = some c ∧ Resolves d (.name name) s ∧ c.typeName = some s.base.name ∧
      c.restriction = s.restriction := by
  cases traced_of_declaredBy h hdecl with
  | @element c _ _ _ _ hr hexpands hshown =>
    obtain ⟨s, rfl, hs⟩ := hexpands.of_simpleType htype hcomplex
    cases hshown with
    | inside he hc =>
      refine ⟨_, s, (lists_of_get? he).1, hs, by rw [hc]; rfl, ?_⟩
      rw [hc]
      show s.restriction.or c.restriction = _
      rw [hr, Option.or_none]
  | @compositor c _ _ hk hshown =>
    rw [kind?_of_shown hshown] at hi
    rcases hi with hi | hi
    · rw [Option.some.inj hi] at hk
      cases hk
    · rw [Option.some.inj hi] at hk
      cases hk
  | @«attribute» _ _ _ s hs hshown =>
    cases hshown with
    | «attribute» he hc =>
      obtain ⟨typeRef, htype, rfl⟩ := htype
      rw [attributeSource, htype] at hs
      refine ⟨_, s, (lists_of_get? he).1, hs, by rw [hc]; rfl, ?_⟩
      rw [hc]
      exact Option.or_none

/-- Every element constraint is made of exactly one declaration, and below any two whose
declarations name the same global complex type stand the same constraints, whatever they are inside
of. -/
theorem complexType_same (h : d.contentModel rootName = .ok m) :
    (∀ i, m.kind? i = some .element → ∃! decl, DeclaredBy d rootName i decl) ∧
      ∀ i j decl decl' name, m.kind? i = some .element → m.kind? j = some .element →
        DeclaredBy d rootName i decl → DeclaredBy d rootName j decl' →
        IsOfType decl name → IsOfType decl' name → (d.complexTypes.get? name).isSome →
        m.SameBelow i j := by
  constructor
  · intro i hi
    obtain ⟨origins, horigins, hsize, -⟩ := traced_contentModel h
    have hlt := index_lt_of_kind? hi
    have hdecl : DeclaredBy d rootName i origins[i.index] :=
      ⟨origins, horigins, List.getElem?_eq_getElem (by omega)⟩
    exact ⟨_, hdecl, fun decl' hdecl' => hdecl'.unique hdecl⟩
  · intro i j decl decl' name hi hj hdecl hdecl' htype htype' ht
    obtain ⟨t, ht⟩ := Option.isSome_iff_exists.mp ht
    obtain ⟨c, ps, origins, hexpands, hshown⟩ := shown_of_declaredBy h hi hdecl
    obtain ⟨c', ps', origins', hexpands', hshown'⟩ := shown_of_declaredBy h hj hdecl'
    obtain ⟨qs, rfl, hqs⟩ := hexpands.of_complexType htype ht
    obtain ⟨qs', rfl, hqs'⟩ := hexpands'.of_complexType htype' ht
    -- what is being expanded around them has no say in the parts
    obtain ⟨rfl, rfl⟩ := hqs.unique hqs'
    cases hshown with
    | inside hi _ has hcs =>
      cases hshown' with
      | inside hj _ has' hcs' =>
        obtain ⟨-, hattributes, hchildren⟩ := lists_of_get? hi
        obtain ⟨-, hattributes', hchildren'⟩ := lists_of_get? hj
        rw [SameBelow, hattributes, hattributes', hchildren, hchildren']
        exact ⟨has.same has', hcs.same hcs'⟩

/-- The declaration of an element of that name that is a person. -/
def personDeclaration (name : String) : Tree :=
  .node .element "element" "" [("name", name), ("type", "Person")] []

/-- The sequence of the author and the editor of a book. -/
def bookSequence : Tree :=
  .node .element "sequence" "" [] [personDeclaration "author", personDeclaration "editor"]

/-- The declaration of a book. -/
def bookDeclaration : Tree :=
  .node .element "element" "" [("name", "book")]
    [.node .element "complexType" "" [] [bookSequence]]

/-- A schema in which two elements are of one type. -/
def bookSchema : Definitions where
  elements := ⟨[("book", bookDeclaration)]⟩
  complexTypes := ⟨[("Person",
    .node .element "complexType" "" [("name", "Person")] [langDeclaration])]⟩

/-- The parts of a person. -/
def personParts : List Part :=
  [.named "Person", .attribute (((Constraint.ofAttribute "lang" .optional).describedBy
    langDeclaration).withSimple { base := .language })]

/-- The parts of a book. -/
def bookParts : List Part :=
  [.inside (compositor .sequence)
    [.inside ((Constraint.ofElement "author" .once).describedBy (personDeclaration "author"))
      personParts,
    .inside ((Constraint.ofElement "editor" .once).describedBy (personDeclaration "editor"))
      personParts]]

/-- The declaration of the book gives the parts of the book. -/
theorem elementParts_bookDeclaration :
    elementParts bookSchema (bookSchema.keys.filter (· ≠ .element "book")) bookDeclaration =
      .ok bookParts := by
  rw [elementParts_def]
  cbv

/-- The declaration of a person expands to the parts of persons. -/
theorem expands_personDeclaration {name : String}
    (hperson : (Job.element (personDeclaration name)).step bookSchema =
      some (.named "Person" [.inside .complexType langDeclaration])) :
    Expands bookSchema [.element (personDeclaration name)] personParts [langDeclaration] := by
  have hinside : (Job.inside .complexType langDeclaration).step bookSchema =
      some (.into [.attribute langDeclaration]) := by cbv
  have hlang : (Job.attribute langDeclaration).step bookSchema =
      some (.attribute "lang" .optional langDeclaration) := by cbv
  have hsource : attributeSource langDeclaration = .name "language" := by cbv
  refine .named hperson (.into hinside (.attribute hlang ?_ .nil))
  rw [hsource]
  exact .builtin (by cbv)

/-- The declarations inside of the book, in order. -/
theorem declarations_book : Declarations bookSchema "book" [bookDeclaration, bookSequence,
    personDeclaration "author", langDeclaration, personDeclaration "editor", langDeclaration] := by
  refine ⟨bookDeclaration, bookParts, _, by cbv, ?_, rfl⟩
  have hbook : (Job.element bookDeclaration).step bookSchema =
      some (.into [.inside .complexType bookSequence]) := by cbv
  have hinside : (Job.inside .complexType bookSequence).step bookSchema =
      some (.into [.particle bookSequence]) := by cbv
  have hsequence : (Job.particle bookSequence).step bookSchema =
      some (.inside (compositor .sequence) bookSequence
        [.inside .compositor (personDeclaration "author"),
          .inside .compositor (personDeclaration "editor")]) := by cbv
  have hperson : ∀ name, (Job.inside .compositor (personDeclaration name)).step bookSchema =
      some (.into [.member (personDeclaration name)]) := by
    intro name
    cbv
  have hauthor : Expands bookSchema [.element (personDeclaration "author")] personParts
      [langDeclaration] := expands_personDeclaration (by cbv)
  have heditor : Expands bookSchema [.element (personDeclaration "editor")] personParts
      [langDeclaration] := expands_personDeclaration (by cbv)
  exact .into hbook (.into hinside (.inside hsequence
    (.into (hperson "author") (.inside (by cbv) hauthor
      (.into (hperson "editor") (.inside (by cbv) heditor .nil)))) .nil))

/-- Below the author and the editor of a book stand the same constraints, one for a language. -/
theorem book_complexType_same : ∃ m, bookSchema.contentModel "book" = .ok m ∧
    m.name ⟨2⟩ = "author" ∧ m.name ⟨4⟩ = "editor" ∧ m.attributes ⟨2⟩ = [⟨3⟩] ∧
    m.attributes ⟨4⟩ = [⟨5⟩] ∧ m.SameBelow ⟨2⟩ ⟨4⟩ := by
  have hmodel : bookSchema.contentModel "book" =
      .ok ((ofRoot ((Constraint.ofElement "book" .once).describedBy bookDeclaration)).growAll root
        bookParts) := by
    have hdecl : bookSchema.elements.get? "book" = some bookDeclaration := by cbv
    rw [Definitions.contentModel, hdecl]
    dsimp only
    rw [elementParts_bookDeclaration]
    rfl
  refine ⟨_, hmodel, rfl, rfl, rfl, rfl, ?_⟩
  exact (complexType_same hmodel).2 ⟨2⟩ ⟨4⟩ (personDeclaration "author")
    (personDeclaration "editor") "Person" rfl rfl ⟨_, declarations_book, rfl⟩
    ⟨_, declarations_book, rfl⟩ ⟨"Person", by cbv, by cbv⟩ ⟨"Person", by cbv, by cbv⟩ (by cbv)

end GuidedXml.Schema
