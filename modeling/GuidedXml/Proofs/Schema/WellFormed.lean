/-
# Well-formed content models

What an expansion of declarations gives: every constraint but the first is listed exactly once, in
the constraint it is inside of, which came before; and whatever holds a text has a built-in type.

A name that is no built-in type is only ever given to an element that holds no text, before anything
else is said about it. So the parts of a new constraint are told apart from those that may be added
to any constraint.

The main statement says that expansion always ends, however declarations refer to each other, and
that a content model it gives is well formed.
-/
import GuidedXml.Proofs.Schema.Shape
import GuidedXml.Proofs.Schema.Unbounded

namespace GuidedXml.Schema

variable {m : ContentModel} {d : Definitions} {free : List Key} {c : Constraint}

/-! ## Sound constraints -/

/-- A constraint that holds texts has a built-in type, and its restriction restricts one. -/
structure Constraint.Sound (c : Constraint) : Prop where
  typed : c.kind = .attribute ∨ c.holdsText = true →
    ∃ name, c.typeName = some name ∧ (Builtin.named? name).isSome
  based : ∀ r, c.restriction = some r → (Builtin.named? r.base).isSome

/-- A constraint for an element or a compositor about whose type nothing is said yet. -/
structure Constraint.Fresh (c : Constraint) : Prop where
  kind_ne : c.kind ≠ .attribute
  holdsText : c.holdsText = false
  restriction : c.restriction = none

/-- A fresh constraint is sound. -/
theorem Constraint.Fresh.sound (hc : c.Fresh) : c.Sound where
  typed := by
    rintro (hk | ht)
    · exact absurd hk hc.kind_ne
    · rw [hc.holdsText] at ht
      cases ht
  based r hr := by
    rw [hc.restriction] at hr
    cases hr

/-- The restriction of a simple type restricts the type that it comes from. -/
def SimpleType.Sound (s : SimpleType) : Prop :=
  ∀ r, s.restriction = some r → r.base = s.base.name

/-- A constraint stays sound with a simple type that is. -/
theorem Constraint.Sound.withSimple {s : SimpleType} (hc : c.Sound) (hs : s.Sound) :
    (c.withSimple s).Sound where
  typed _ := ⟨s.base.name, rfl, by rw [Builtin.named?_name]; rfl⟩
  based r hr := by
    rcases Option.or_eq_some_iff.mp hr with hr | ⟨-, hr⟩
    · rw [hs r hr, Builtin.named?_name]
      rfl
    · exact hc.based r hr

/-! ## Well-formed content models -/

namespace ContentModel

/-- Every constraint but the first is inside one that came before, which lists it once; nothing else
lists it. Whatever holds a text has a built-in type, and so has what is restricted. -/
structure WellFormed (m : ContentModel) : Prop where
  placed : ∀ i, i ≠ root → i.index < m.entries.size → ∃ p, m.parent? i = some p ∧
    p.index < i.index ∧
    (∀ q, (m.children q).count i = if q = p ∧ m.kind? i ≠ some .attribute then 1 else 0) ∧
    ∀ q, (m.attributes q).count i = if q = p ∧ m.kind? i = some .attribute then 1 else 0
  index_lt : ∀ q i, i ∈ m.children q ∨ i ∈ m.attributes q → i.index < m.entries.size
  sound : ∀ i e, m.get? i = some e → e.toConstraint.Sound

/-- A model with nothing but a fresh root is well-formed. -/
theorem wellFormed_ofRoot (hc : c.Fresh) : (ofRoot c).WellFormed := by
  have hget : ∀ i, (ofRoot c).get? i = if i = root then some { c with } else none := by
    rintro ⟨i⟩
    cases i with
    | zero => rfl
    | succ i => simp [get?, ofRoot, root]
  refine ⟨?_, ?_, ?_⟩
  · rintro ⟨i⟩ hne hlt
    obtain rfl : i = 0 := by simpa [ofRoot] using hlt
    exact absurd rfl hne
  · rintro q i (hi | hi)
    · rw [children, hget] at hi
      split at hi <;> cases hi
    · rw [attributes, hget] at hi
      split at hi <;> cases hi
  · intro i e he
    rw [hget] at he
    split at he
    · cases he
      exact hc.sound
    · cases he

namespace WellFormed

/-- Listing one more makes that one listed once where it was not. -/
theorem count_listed {js : List ConstraintId} {i j : ConstraintId} (b : Prop) [Decidable b]
    (hj : j ∉ js) : (if b then js ++ [j] else js).count i =
      if i = j then if b then 1 else 0 else js.count i := by
  by_cases hb : b
  · rw [if_pos hb, List.count_append, List.count_singleton]
    by_cases hi : i = j
    · subst hi
      rw [List.count_eq_zero_of_not_mem hj, if_pos rfl, if_pos hb]
      simp
    · simp [hi, Ne.symm hi]
  · rw [if_neg hb, if_neg hb]
    split
    · rename_i hi
      rw [hi, List.count_eq_zero_of_not_mem hj]
    · rfl

section Add

variable {p : ConstraintId} (hm : m.WellFormed) (hp : p.index < m.entries.size)

include hm

/-- The next number that is free is on no list. -/
theorem next_not_mem (q : ConstraintId) : (⟨m.entries.size⟩ : ConstraintId) ∉ m.children q ∧
    (⟨m.entries.size⟩ : ConstraintId) ∉ m.attributes q :=
  ⟨fun h => Nat.lt_irrefl _ (hm.index_lt q _ (.inl h)),
    fun h => Nat.lt_irrefl _ (hm.index_lt q _ (.inr h))⟩

include hp

/-- A new constraint that is no attribute comes once into the children of its owner. -/
theorem count_children_add (q i : ConstraintId) : ((m.add p c).1.children q).count i =
    if i = ⟨m.entries.size⟩ then if q = p ∧ c.kind ≠ .attribute then 1 else 0
    else (m.children q).count i := by
  rw [children_add c hp, count_listed _ (hm.next_not_mem q).1]

/-- A new attribute comes once into the attributes of its owner. -/
theorem count_attributes_add (q i : ConstraintId) : ((m.add p c).1.attributes q).count i =
    if i = ⟨m.entries.size⟩ then if q = p ∧ c.kind = .attribute then 1 else 0
    else (m.attributes q).count i := by
  rw [attributes_add c hp, count_listed _ (hm.next_not_mem q).2]

/-- A constraint may be added inside any other one. -/
theorem add (hc : c.Sound) : (m.add p c).1.WellFormed := by
  refine ⟨?_, ?_, ?_⟩
  · intro i hne hlt
    simp only [count_children_add hm hp, count_attributes_add hm hp, kind?_add c hp,
      parent?_add c hp]
    by_cases hi : i = ⟨m.entries.size⟩
    · subst hi
      exact ⟨p, by simp, hp, fun q => by simp, fun q => by simp⟩
    · obtain ⟨p', hparent, hlt', hchildren, hattributes⟩ := hm.placed i hne (by
        rw [size_add] at hlt
        obtain ⟨i⟩ := i
        have : i ≠ m.entries.size := fun h => hi (by rw [h])
        dsimp only at hlt ⊢
        omega)
      simp only [if_neg hi]
      exact ⟨p', hparent, hlt', hchildren, hattributes⟩
  · intro q i hi
    rw [size_add]
    -- what is listed was listed before or is the new one
    by_contra hlt
    have hne : i ≠ ⟨m.entries.size⟩ := by
      rintro rfl
      exact hlt (Nat.lt_succ_self _)
    have hold : i ∈ m.children q ∨ i ∈ m.attributes q := by
      rw [← List.one_le_count_iff, ← List.one_le_count_iff (l := m.attributes q)]
      rw [← List.one_le_count_iff, ← List.one_le_count_iff (l := (m.add p c).1.attributes q),
        count_children_add hm hp, count_attributes_add hm hp, if_neg hne, if_neg hne] at hi
      exact hi
    exact hlt (Nat.lt_succ_of_lt (hm.index_lt q i hold))
  · intro i e he
    rw [get?_add m c hp] at he
    split at he
    · cases he
      exact hc
    · split at he
      · obtain ⟨e', he', rfl⟩ := Option.map_eq_some_iff.mp he
        have hsame : (listed ⟨m.entries.size⟩ c.kind e').toConstraint = e'.toConstraint := by
          unfold listed
          split <;> rfl
        rw [hsame]
        exact hm.sound i e' he'
      · exact hm.sound i e he

end Add

/-- What a constraint says may change as long as it stays sound. -/
theorem modify {i : ConstraintId} {f : Constraint → Constraint} (hm : m.WellFormed)
    (hkind : ∀ c, (f c).kind = c.kind)
    (hf : ∀ e, m.get? i = some e → (f e.toConstraint).Sound) : (m.modify i f).WellFormed := by
  have hsize : (m.modify i f).entries.size = m.entries.size := by
    simp [ContentModel.modify]
  have hplaces := fun j => places_modify (m := m) f i j
  refine ⟨?_, ?_, ?_⟩
  · intro j hne hlt
    rw [hsize] at hlt
    obtain ⟨p, hparent, hlt', hchildren, hattributes⟩ := hm.placed j hne hlt
    refine ⟨p, by rw [(hplaces j).1, hparent], hlt', fun q => ?_, fun q => ?_⟩
    · rw [(hplaces q).2.1, kind?_modify hkind, hchildren q]
    · rw [(hplaces q).2.2, kind?_modify hkind, hattributes q]
  · intro q j hj
    rw [(hplaces q).2.1, (hplaces q).2.2] at hj
    rw [hsize]
    exact hm.index_lt q j hj
  · intro j e he
    rw [get?_modify] at he
    split at he
    · rename_i hji
      subst hji
      obtain ⟨e', he', rfl⟩ := Option.map_eq_some_iff.mp he
      exact hf e' he'
    · exact hm.sound j e he

end WellFormed

end ContentModel

/-! ## Sound parts -/

mutual
/-- A part that may be added to any constraint. -/
inductive Part.Sound : Part → Prop
  | simple {s : SimpleType} : s.Sound → Part.Sound (.simple s)
  | attribute {c : Constraint} : c.kind = .attribute → c.Sound → Part.Sound (.attribute c)
  | inside {c : Constraint} {parts : List Part} : c.Fresh → PartsOfFresh parts →
      Part.Sound (.inside c parts)
/-- Parts that may be added to any constraint. -/
inductive PartsOfAny : List Part → Prop
  | nil : PartsOfAny []
  | cons {p : Part} {ps : List Part} : p.Sound → PartsOfAny ps → PartsOfAny (p :: ps)
/-- Parts of a new constraint, of which the first may name its type. -/
inductive PartsOfFresh : List Part → Prop
  | any {ps : List Part} : PartsOfAny ps → PartsOfFresh ps
  | named {name : String} {ps : List Part} : PartsOfAny ps → PartsOfFresh (.named name :: ps)
end

theorem PartsOfAny.singleton {p : Part} (hp : p.Sound) : PartsOfAny [p] :=
  .cons hp .nil

/-- Parts that any constraint may have stay such together. -/
theorem PartsOfAny.append {ps qs : List Part} (hps : PartsOfAny ps) (hqs : PartsOfAny qs) :
    PartsOfAny (ps ++ qs) := by
  induction ps with
  | nil => exact hqs
  | cons p ps ih =>
    cases hps with
    | cons hp hps => exact .cons hp (ih hps)

/-- Parts of a fresh constraint may begin with the name of its type. -/
theorem PartsOfFresh.cases_named {ps : List Part} (hps : PartsOfFresh ps) :
    PartsOfAny ps ∨ ∃ name rest, ps = .named name :: rest ∧ PartsOfAny rest := by
  cases hps with
  | any hps => exact .inl hps
  | named hps => exact .inr ⟨_, _, rfl, hps⟩

/-! ## Numbering -/

namespace ContentModel

variable {owner : ConstraintId}

/-- A new constraint may be typed by any name. -/
theorem WellFormed.named (hm : m.WellFormed)
    (hfresh : ∀ e, m.get? owner = some e → e.toConstraint.Fresh) (name : String) :
    (m.modify owner fun c => { c with typeName := some name }).WellFormed := by
  refine hm.modify (fun _ => rfl) fun e he => ?_
  have he := hfresh e he
  exact Constraint.Fresh.sound ⟨he.kind_ne, he.holdsText, he.restriction⟩

theorem size_modify (f : Constraint → Constraint) :
    (m.modify owner f).entries.size = m.entries.size := by
  simp [modify]

mutual

/-- A model stays well-formed when one of its constraints gets a sound part. -/
theorem wellFormed_grow {m : ContentModel} {owner : ConstraintId} (hm : m.WellFormed)
    (ho : owner.index < m.entries.size) (p : Part) (hp : p.Sound) :
    (m.grow owner p).WellFormed ∧ m.entries.size ≤ (m.grow owner p).entries.size := by
  cases p with
  | simple s =>
    cases hp with
    | simple hs =>
      rw [grow]
      exact ⟨hm.modify (fun _ => rfl) fun e he => (hm.sound owner e he).withSimple hs,
        Nat.le_of_eq (size_modify _).symm⟩
  | named name => cases hp
  | «attribute» c =>
    cases hp with
    | «attribute» hk hc =>
      rw [grow, size_add]
      exact ⟨hm.add ho hc, Nat.le_succ _⟩
  | inside c parts =>
    cases hp with
    | inside hc hparts =>
      rw [grow, add_snd]
      -- nothing has been said yet about the constraint that takes the next number
      have hnew : ∀ e, (m.add owner c).1.get? ⟨m.entries.size⟩ = some e → e.toConstraint.Fresh := by
        intro e he
        rw [get?_add m c ho, if_pos rfl] at he
        cases he
        exact hc
      obtain ⟨hgrown, hsize⟩ := wellFormed_growFresh (hm.add ho hc.sound)
        (by rw [size_add]; exact Nat.lt_succ_self _) hnew parts hparts
      rw [size_add] at hsize
      exact ⟨hgrown, Nat.le_of_succ_le hsize⟩
termination_by (sizeOf p, 0)

/-- A model stays well-formed when one of its constraints gets several sound parts. -/
theorem wellFormed_growAll {m : ContentModel} {owner : ConstraintId} (hm : m.WellFormed)
    (ho : owner.index < m.entries.size) (ps : List Part) (hps : PartsOfAny ps) :
    (m.growAll owner ps).WellFormed ∧ m.entries.size ≤ (m.growAll owner ps).entries.size := by
  cases ps with
  | nil => exact ⟨hm, Nat.le_refl _⟩
  | cons p ps =>
    cases hps with
    | cons hp hps =>
      rw [growAll]
      obtain ⟨hfirst, hsize⟩ := wellFormed_grow hm ho p hp
      obtain ⟨hrest, hsize'⟩ := wellFormed_growAll hfirst (Nat.lt_of_lt_of_le ho hsize) ps hps
      exact ⟨hrest, Nat.le_trans hsize hsize'⟩
termination_by (sizeOf ps, 0)

/-- A new constraint may be given its parts. -/
theorem wellFormed_growFresh {m : ContentModel} {owner : ConstraintId} (hm : m.WellFormed)
    (ho : owner.index < m.entries.size)
    (hfresh : ∀ e, m.get? owner = some e → e.toConstraint.Fresh) (ps : List Part)
    (hps : PartsOfFresh ps) :
    (m.growAll owner ps).WellFormed ∧ m.entries.size ≤ (m.growAll owner ps).entries.size := by
  rcases hps.cases_named with hps | ⟨name, rest, rfl, hrest⟩
  · exact wellFormed_growAll hm ho ps hps
  · rw [growAll, grow]
    obtain ⟨hgrown, hsize⟩ := wellFormed_growAll (hm.named hfresh name)
      (by rw [size_modify]; exact ho) rest hrest
    rw [size_modify] at hsize
    exact ⟨hgrown, hsize⟩
termination_by (sizeOf ps, 1)

end

end ContentModel

/-! ## What expansions give -/

section Yields

variable {α β : Type} {P : α → Prop} {Q : β → Prop}

/-- What is given, if anything is, has the property. -/
def Yields (P : α → Prop) (r : Except SchemaFault α) : Prop :=
  ∀ a, r = .ok a → P a

theorem yields_ok {a : α} (ha : P a) : Yields P (.ok a) := by
  intro a' h
  rwa [← Except.ok.inj h]

theorem yields_error {fault : SchemaFault} : Yields P (.error fault) := by
  intro a h
  cases h

/-- What is made of results has what follows from theirs. -/
theorem Yields.map {r : Except SchemaFault α} {f : α → β} (hr : Yields P r)
    (hf : ∀ a, P a → Q (f a)) : Yields Q (r.map f) := by
  cases r with
  | error fault => exact yields_error
  | ok a => exact yields_ok (hf a (hr a rfl))

/-- Parts of two results stay such together. -/
theorem Yields.append {first rest : Except SchemaFault (List Part)} :
    Yields PartsOfAny first → Yields PartsOfAny rest →
      Yields PartsOfAny (match first with
        | .error fault => .error fault
        | .ok parts => rest.map (parts ++ ·)) := by
  intro hfirst hrest
  cases first with
  | error fault => exact yields_error
  | ok parts => exact hrest.map fun others hothers => (hfirst parts rfl).append hothers

/-- What holds of every step behind a key holds of the way through it. -/
theorem yields_follow {k : Key} {next : List Key → Except SchemaFault α}
    (hnext : ∀ rest, rest.length < free.length → Yields P (next rest)) :
    Yields P (match enter k free with
      | .error fault => .error fault
      | .ok ⟨rest, _⟩ => next rest) := by
  cases enter k free with
  | error fault => exact yields_error
  | ok followed => exact hnext followed.val followed.property

end Yields

/-! ## Simple types -/

/-- Facets do not change the base. -/
theorem base_setAll (r : Restriction) (fs : List (String × String)) :
    (r.setAll fs).base = r.base := by
  rw [Restriction.setAll]
  induction fs generalizing r with
  | nil => rfl
  | cons f fs ih =>
    rw [List.foldl_cons, ih]
    rw [Restriction.set?]
    split
    · rfl
    · cases Facet.named? f.1 <;> rfl

/-- A sound type stays so when it is restricted. -/
theorem SimpleType.Sound.restrict {s : SimpleType} (hs : s.Sound) (t : Tree) :
    (s.restrict t).Sound := by
  intro r hr
  have hderived : (facetsOf s.base t).base = s.base.name := base_setAll _ _
  obtain rfl := Option.some.inj hr
  cases hrestriction : s.restriction with
  | none => exact hderived
  | some inherited => exact hs inherited hrestriction

/-- Every built-in type is sound. -/
theorem sound_builtin (t : Builtin) : SimpleType.Sound { base := t } := by
  intro r hr
  cases hr

mutual

/-- A name of a simple type stands for a sound one. -/
theorem yields_simpleNamed (d : Definitions) (free : List Key) (name : String) :
    Yields SimpleType.Sound (simpleNamed d free name) := by
  rw [simpleNamed]
  split
  · exact yields_ok (sound_builtin _)
  · split
    · exact yields_error
    · rename_i t ht
      exact yields_follow fun rest hlt => yields_simpleType d rest t
termination_by (free.length, 0)

/-- A declared simple type is sound. -/
theorem yields_simpleType (d : Definitions) (free : List Key) (t : Tree) :
    Yields SimpleType.Sound (simpleType d free t) := by
  rw [simpleType_def]
  split
  · split <;> exact yields_ok (sound_builtin _)
  · rename_i r hr
    split
    · split
      · exact yields_error
      · rename_i inner hi
        have := size_lt_of_child? hr
        have := size_lt_of_child? hi
        exact (yields_simpleType d free inner).map fun s hs => hs.restrict r
    · exact (yields_simpleNamed d free _).map fun s hs => hs.restrict r
termination_by (free.length, t.size)
decreasing_by
  all_goals
    have := Tree.size_pos t
    exact Prod.Lex.right _ (by omega)

end

/-! ## Attributes -/

/-- A declaration says nothing about the type of a constraint in advance. -/
theorem Constraint.Fresh.describedBy (hc : c.Fresh) (decl : Tree) : (c.describedBy decl).Fresh :=
  ⟨hc.kind_ne, hc.holdsText, hc.restriction⟩

/-- The constraint of an element is fresh before its type is known. -/
theorem fresh_ofElement (name : String) (occurs : Occurs) :
    (Constraint.ofElement name occurs).Fresh :=
  ⟨by simp [Constraint.ofElement], rfl, rfl⟩

/-- The constraint of an attribute is sound before its type is known. -/
theorem sound_ofAttribute (name : String) (use : Use) (target : Tree) :
    ((Constraint.ofAttribute name use).describedBy target).Sound where
  typed _ := ⟨"anySimpleType", rfl, by decide +kernel⟩
  based r hr := by cases hr

/-- The type of an attribute is sound. -/
theorem yields_attributeType (d : Definitions) (free : List Key) (decl : Tree) :
    Yields SimpleType.Sound (attributeType d free decl) := by
  rw [attributeType]
  split
  · exact yields_simpleNamed d free _
  · split
    · exact yields_simpleType d free _
    · exact yields_ok (sound_builtin _)

/-- An attribute gives a part that any constraint may have. -/
theorem yields_attributeParts (d : Definitions) (free : List Key) (decl : Tree) :
    Yields PartsOfAny (attributeParts d free decl) := by
  rw [attributeParts]
  split
  · exact yields_ok .nil
  · dsimp only
    split
    · exact yields_error
    · refine (yields_attributeType d free _).map fun s hs => .singleton (.attribute rfl ?_)
      exact (sound_ofAttribute _ _ _).withSimple hs

mutual

/-- A reference to a group of attributes gives such parts. -/
theorem yields_attributeGroupParts (d : Definitions) (free : List Key) (reference : Tree) :
    Yields PartsOfAny (attributeGroupParts d free reference) := by
  rw [attributeGroupParts]
  split
  · exact yields_error
  · dsimp only
    split
    · exact yields_error
    · rename_i group _
      exact yields_follow fun rest hlt => yields_attributesParts d rest group.elements
termination_by (free.length, 0)

/-- The attributes among some trees give such parts. -/
theorem yields_attributesParts (d : Definitions) (free : List Key) (ts : List Tree) :
    Yields PartsOfAny (attributesParts d free ts) := by
  cases ts with
  | nil =>
    rw [attributesParts]
    exact yields_ok .nil
  | cons t ts =>
    rw [attributesParts]
    refine Yields.append ?_ (yields_attributesParts d free ts)
    split
    · exact yields_attributeParts d free t
    · exact yields_attributeGroupParts d free t
    · exact yields_ok .nil
termination_by (free.length, ts.length + 1)

end

/-! ## Content -/

/-- Simple content gives such parts. -/
theorem yields_simpleContentParts (d : Definitions) (free : List Key) (content : Tree) :
    Yields PartsOfAny (simpleContentParts d free content) := by
  rw [simpleContentParts]
  split
  · exact yields_ok (.singleton (.simple (sound_builtin _)))
  · rename_i derivation _
    have hderived : Yields SimpleType.Sound (derivedSimpleType d free derivation) := by
      rw [derivedSimpleType]
      split
      · exact yields_error
      · refine (yields_simpleNamed d free _).map fun s hs => ?_
        split
        · exact hs.restrict derivation
        · exact hs
    split
    · exact yields_error
    · rename_i s hs
      exact (yields_attributesParts d free derivation.elements).map fun parts hparts =>
        .cons (.simple (hderived s hs)) hparts

mutual

/-- A declaration of an element gives parts that a fresh constraint may have. -/
theorem yields_elementParts (d : Definitions) (free : List Key) (decl : Tree) :
    Yields PartsOfFresh (elementParts d free decl) := by
  rw [elementParts_def]
  split
  · split
    · rename_i t _
      exact yields_follow fun rest hlt =>
        (yields_complexParts d rest t.elements).map fun parts hparts => .named hparts
    · exact (yields_simpleNamed d free _).map fun s hs => .any (.singleton (.simple hs))
  · split
    · rename_i t hc
      have := size_lt_of_child? hc
      have := Tree.sizeAll_elements_lt t
      exact fun parts hparts => .any (yields_complexParts d free t.elements parts hparts)
    · split
      · exact yields_ok (.any (.singleton (.simple (sound_builtin _))))
      · exact (yields_simpleType d free _).map fun s hs => .any (.singleton (.simple hs))
termination_by (free.length, 3 * decl.size)
decreasing_by
  · exact Prod.Lex.left _ _ (by assumption)
  · exact Prod.Lex.right _ (by omega)

/-- What stands in a complex type gives parts that any constraint may have. -/
theorem yields_complexParts (d : Definitions) (free : List Key) (ts : List Tree) :
    Yields PartsOfAny (complexParts d free ts) := by
  cases ts with
  | nil =>
    rw [complexParts]
    exact yields_ok .nil
  | cons t ts =>
    rw [complexParts]
    refine Yields.append ?_ (yields_complexParts d free ts)
    split
    · exact yields_particleParts d free t
    · exact yields_particleParts d free t
    · exact yields_particleParts d free t
    · exact yields_particleParts d free t
    · exact yields_attributeParts d free t
    · exact yields_attributeGroupParts d free t
    · exact yields_simpleContentParts d free t
    · exact yields_derivationParts d free t.elements
    · exact yields_ok .nil
termination_by (free.length, 3 * Tree.sizeAll ts + 1)
decreasing_by
  all_goals
    have := Tree.sizeAll_elements_lt t
    have := Tree.size_pos t
    exact Prod.Lex.right _ (by simp only [Tree.sizeAll]; omega)

/-- What stands in a derivation of complex content gives such parts. -/
theorem yields_derivationParts (d : Definitions) (free : List Key) (ts : List Tree) :
    Yields PartsOfAny (derivationParts d free ts) := by
  cases ts with
  | nil =>
    rw [derivationParts]
    exact yields_ok .nil
  | cons t ts =>
    rw [derivationParts]
    refine Yields.append ?_ (yields_derivationParts d free ts)
    split
    · exact (yields_basePartsOf d free t).append (yields_complexParts d free t.elements)
    · split
      · exact yields_complexParts d free t.elements
      · exact yields_ok .nil
termination_by (free.length, 3 * Tree.sizeAll ts + 1)
decreasing_by
  all_goals
    have := Tree.sizeAll_elements_lt t
    have := Tree.size_pos t
    exact Prod.Lex.right _ (by simp only [Tree.sizeAll]; omega)

/-- The base of a derivation gives such parts. -/
theorem yields_basePartsOf (d : Definitions) (free : List Key) (derivation : Tree) :
    Yields PartsOfAny (basePartsOf d free derivation) := by
  rw [basePartsOf]
  split
  · exact yields_error
  · dsimp only
    split
    · exact yields_ok .nil
    · split
      · exact yields_error
      · rename_i t _
        exact yields_follow fun rest hlt => yields_complexParts d rest t.elements
termination_by (free.length, 0)

/-- A particle gives such parts. -/
theorem yields_particleParts (d : Definitions) (free : List Key) (t : Tree) :
    Yields PartsOfAny (particleParts d free t) := by
  have hcompositor : ∀ kind, kind ≠ .attribute → ∀ parts, PartsOfAny parts →
      PartsOfAny [.inside (compositor kind) parts] := fun kind hkind parts hparts =>
    .singleton (.inside ⟨hkind, rfl, rfl⟩ (.any hparts))
  rw [particleParts]
  split
  · exact (yields_memberParts d free t.elements).map (hcompositor .sequence (by decide))
  · exact (yields_memberParts d free t.elements).map (hcompositor .sequence (by decide))
  · exact (yields_memberParts d free t.elements).map (hcompositor .choice (by decide))
  · split
    · exact yields_error
    · dsimp only
      split
      · exact yields_error
      · refine yields_follow fun rest hlt => ?_
        split
        · exact yields_ok .nil
        · exact yields_particleParts d rest _
  · exact yields_ok .nil
termination_by (free.length, 3 * t.size)
decreasing_by
  all_goals
    have := Tree.sizeAll_elements_lt t
    first
    | exact Prod.Lex.left _ _ (by assumption)
    | exact Prod.Lex.right _ (by omega)

/-- The members of a compositor give such parts. -/
theorem yields_memberParts (d : Definitions) (free : List Key) (ts : List Tree) :
    Yields PartsOfAny (memberParts d free ts) := by
  cases ts with
  | nil =>
    rw [memberParts]
    exact yields_ok .nil
  | cons t ts =>
    rw [memberParts]
    refine Yields.append ?_ (yields_memberParts d free ts)
    split
    · exact yields_memberElementParts d free t
    · exact yields_particleParts d free t
    · exact yields_particleParts d free t
    · exact yields_particleParts d free t
    · exact yields_particleParts d free t
    · exact yields_ok .nil
termination_by (free.length, 3 * Tree.sizeAll ts + 2)
decreasing_by
  all_goals
    have := Tree.size_pos t
    exact Prod.Lex.right _ (by simp only [Tree.sizeAll]; omega)

/-- An element that is a member of a compositor gives such parts. -/
theorem yields_memberElementParts (d : Definitions) (free : List Key) (decl : Tree) :
    Yields PartsOfAny (memberElementParts d free decl) := by
  rw [memberElementParts]
  split
  · exact yields_error
  · rename_i occurs _
    split
    · dsimp only
      split
      · exact yields_error
      · rename_i target _
        refine yields_follow fun rest hlt => ?_
        refine (yields_elementParts d rest target).map fun parts hparts => ?_
        refine .singleton (.inside (Constraint.Fresh.describedBy ⟨?_, rfl, rfl⟩ target) hparts)
        simp [Constraint.ofElement]
    · split
      · exact yields_error
      · exact (yields_elementParts d free decl).map fun parts hparts =>
          .singleton (.inside ((fresh_ofElement _ occurs).describedBy decl) hparts)
termination_by (free.length, 3 * decl.size + 1)

end

/-! ## Content models of schemas -/

/-- The expansion of a global element ends, however declarations refer to each other, and a content
model that it gives is well formed. -/
theorem contentModel_wellFormed (d : Definitions) (rootName : String) :
    (∃ enough, ∀ fuel ≥ enough,
      (Unbounded.contentModel d fuel rootName).run = some (d.contentModel rootName)) ∧
      ∀ m, d.contentModel rootName = .ok m → m.WellFormed := by
  refine ⟨Filter.eventually_atTop.mp (Unbounded.ends_contentModel d rootName), ?_⟩
  show Yields _ _
  rw [Definitions.contentModel]
  split
  · exact yields_error
  · rename_i decl _
    have hfresh := (fresh_ofElement rootName .once).describedBy decl
    refine (yields_elementParts d _ decl).map fun parts hparts => ?_
    refine (ContentModel.wellFormed_growFresh (ContentModel.wellFormed_ofRoot hfresh)
      (Nat.lt_succ_self 0) ?_ parts hparts).1
    intro e he
    obtain rfl := Option.some.inj he
    exact hfresh

/-- The declaration of an attribute. -/
def langDeclaration : Tree :=
  .node .element "attribute" "" [("name", "lang"), ("type", "language")] []

/-- The declaration of an element with that attribute. -/
def noteDeclaration : Tree :=
  .node .element "element" "" [("name", "note")]
    [.node .element "complexType" "" [] [langDeclaration]]

/-- The declaration of the attribute gives one part, of the type that it names. -/
theorem attributeParts_langDeclaration (d : Definitions) (free : List Key) :
    attributeParts d free langDeclaration =
      .ok [.attribute (((Constraint.ofAttribute "lang" .optional).describedBy
        langDeclaration).withSimple { base := .language })] := by
  have hname : Builtin.named? (Builtin.unprefixed "language") = some .language := by
    decide +kernel
  rw [attributeParts, if_neg (by decide +kernel)]
  show Except.map _ (simpleNamed d free (Builtin.unprefixed "language")) = _
  rw [simpleNamed, hname]
  rfl

/-- An element with an attribute has a well-formed content model of two constraints. -/
theorem noteDeclaration_wellFormed :
    ∃ m, Definitions.contentModel { elements := ⟨[("note", noteDeclaration)]⟩ } "note" = .ok m ∧
      m.entries.size = 2 ∧ m.WellFormed := by
  have hlocal : localNameOf langDeclaration = "attribute" := by decide +kernel
  have hparts : ∀ d free, elementParts d free noteDeclaration =
      attributeParts d free langDeclaration := by
    intro d free
    rw [elementParts_def]
    show complexParts d free [langDeclaration] = _
    rw [complexParts, complexParts, hlocal, attributeParts_langDeclaration]
    rfl
  have hmodel : Definitions.contentModel { elements := ⟨[("note", noteDeclaration)]⟩ } "note" =
      .ok (ContentModel.add (.ofRoot ((Constraint.ofElement "note" .once).describedBy
        noteDeclaration)) ContentModel.root (((Constraint.ofAttribute "lang" .optional).describedBy
          langDeclaration).withSimple { base := .language })).1 := by
    rw [Definitions.contentModel]
    show Except.map _ (elementParts _ _ noteDeclaration) = _
    rw [hparts, attributeParts_langDeclaration]
    rfl
  exact ⟨_, hmodel, by simp [ContentModel.ofRoot], (contentModel_wellFormed _ _).2 _ hmodel⟩

end GuidedXml.Schema
