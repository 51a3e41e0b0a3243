/-
# Parts in a content model

What numbering makes of parts. The constraint they are added to says more, and lists one more
constraint for every part that makes one; what a part has inside comes right behind it, and no other
constraint changes.

The main statements say that numbering shows the parts of an expansion in this way, and that every
constraint of a content model shows what its declaration is expanded into.
-/
import GuidedXml.Proofs.Schema.Origins

namespace GuidedXml.Schema

variable {d : Definitions}

/-! ## What parts say -/

/-- Whether the part is listed among the attributes of its owner. -/
def Part.isAttribute : Part → Bool
  | .attribute c | .inside c _ => c.kind = .attribute
  | .simple _ | .named _ => false

/-- Whether the part is listed among the elements and compositors of its owner. -/
def Part.isContent : Part → Bool
  | .attribute c | .inside c _ => c.kind ≠ .attribute
  | .simple _ | .named _ => false

/-- What the part changes about its owner. -/
def Part.saying : Part → Constraint → Constraint
  | .simple s, c => c.withSimple s
  | .named typeName, c => { c with typeName := some typeName }
  | .attribute _, c | .inside _ _, c => c

/-- What the constraint says with parts added to it. -/
def Constraint.withParts (c : Constraint) (ps : List Part) : Constraint :=
  ps.foldl (fun c p => p.saying c) c

/-- Parts do not change the kind of a constraint. -/
theorem kind_withParts (c : Constraint) (ps : List Part) : (c.withParts ps).kind = c.kind := by
  induction ps generalizing c with
  | nil => rfl
  | cons p ps ih =>
    show ((p.saying c).withParts ps).kind = c.kind
    rw [ih]
    cases p <;> rfl

/-- Parts change a constraint one list after the other. -/
theorem withParts_append (c : Constraint) (ps qs : List Part) :
    c.withParts (ps ++ qs) = (c.withParts ps).withParts qs :=
  List.foldl_append

namespace ContentModel

/-! ## What constraints show -/

section Shown

variable {look look' : ConstraintId → Option Entry}

mutual
/-- The constraint of that number is made of the part, and so are those inside it. -/
inductive Shown (look : ConstraintId → Option Entry) : Part → ConstraintId → Prop
  | attribute {c : Constraint} {i : ConstraintId} {e : Entry} :
      look i = some e → e.toConstraint = c → e.attributes = [] → e.children = [] →
      Shown look (.attribute c) i
  | inside {c : Constraint} {ps : List Part} {i : ConstraintId} {e : Entry} :
      look i = some e → e.toConstraint = c.withParts ps →
      ShownAll look Part.isAttribute ps e.attributes → ShownAll look Part.isContent ps e.children →
      Shown look (.inside c ps) i
/-- The constraints are made of the parts of one sort, in order. -/
inductive ShownAll (look : ConstraintId → Option Entry) :
    (Part → Bool) → List Part → List ConstraintId → Prop
  | nil {sort : Part → Bool} : ShownAll look sort [] []
  | skip {sort : Part → Bool} {p : Part} {ps : List Part} {js : List ConstraintId} :
      sort p = false → ShownAll look sort ps js → ShownAll look sort (p :: ps) js
  | take {sort : Part → Bool} {p : Part} {ps : List Part} {i : ConstraintId}
      {js : List ConstraintId} :
      sort p = true → Shown look p i → ShownAll look sort ps js →
      ShownAll look sort (p :: ps) (i :: js)
end

/-- Parts that are shown, and more behind them, are shown together. -/
theorem ShownAll.append {sort : Part → Bool} {ps qs : List Part} {js js' : List ConstraintId}
    (hps : ShownAll look sort ps js) (hqs : ShownAll look sort qs js') :
    ShownAll look sort (ps ++ qs) (js ++ js') := by
  induction ps generalizing js with
  | nil =>
    cases hps
    exact hqs
  | cons p ps ih =>
    cases hps with
    | skip hp hps => exact .skip hp (ih hps)
    | take hp hi hps => exact .take hp hi (ih hps)

mutual

/-- Constraints that come later change nothing about what is shown. -/
theorem Shown.mono (hle : ∀ i e, look i = some e → look' i = some e) {p : Part}
    {i : ConstraintId} (h : Shown look p i) : Shown look' p i := by
  cases h with
  | «attribute» hi hc ha hk => exact .attribute (hle _ _ hi) hc ha hk
  | inside hi hc ha hk => exact .inside (hle _ _ hi) hc (ha.mono hle) (hk.mono hle)
termination_by sizeOf p

/-- Parts are still shown by whatever knows more. -/
theorem ShownAll.mono (hle : ∀ i e, look i = some e → look' i = some e) {sort : Part → Bool}
    {ps : List Part} {js : List ConstraintId} (h : ShownAll look sort ps js) :
    ShownAll look' sort ps js := by
  cases h with
  | nil => exact .nil
  | skip hp hps => exact .skip hp (hps.mono hle)
  | take hp hi hps => exact .take hp (hi.mono hle) (hps.mono hle)
termination_by sizeOf ps

end

end Shown

/-- The constraint of that number shows what the declaration is expanded into. -/
inductive Traced (d : Definitions) (look : ConstraintId → Option Entry) (i : ConstraintId) :
    Tree → Prop
  | element {c : Constraint} {decl : Tree} {ps : List Part} {origins : List Tree} :
      c.kind = .element → c.restriction = none → Expands d [.element decl] ps origins →
      Shown look (.inside c ps) i → Traced d look i decl
  | compositor {c : Constraint} {decl : Tree} {ps : List Part} :
      c.kind.isCompositor → Shown look (.inside c ps) i → Traced d look i decl
  | attribute {name : String} {use : Use} {decl : Tree} {s : SimpleType} :
      Resolves d (attributeSource decl) s →
      Shown look
        (.attribute (((Constraint.ofAttribute name use).describedBy decl).withSimple s)) i →
      Traced d look i decl

/-- What is traced by the entries looked up is traced by whatever knows more. -/
theorem Traced.mono {look look' : ConstraintId → Option Entry} {i : ConstraintId} {decl : Tree}
    (hle : ∀ i e, look i = some e → look' i = some e) (h : Traced d look i decl) :
    Traced d look' i decl := by
  cases h with
  | element hk hr he hs => exact .element hk hr he (hs.mono hle)
  | compositor hk hs => exact .compositor hk (hs.mono hle)
  | «attribute» hr hs => exact .attribute hr (hs.mono hle)

/-! ## Numbering -/

/-- The constraints from a number on. -/
def since (m : ContentModel) (n : Nat) (i : ConstraintId) : Option Entry :=
  if n ≤ i.index then m.get? i else none

/-- What is known since later is known since earlier. -/
theorem since_mono {m : ContentModel} {a b : Nat} (hab : a ≤ b) (i : ConstraintId) (e : Entry)
    (h : m.since b i = some e) : m.since a i = some e := by
  unfold since at h ⊢
  split at h
  · rwa [if_pos (by omega)]
  · cases h

/-- One content model is the other one with parts of an owner added, which stand for these
declarations. -/
structure Grown (d : Definitions) (m : ContentModel) (owner : ConstraintId) (ps : List Part)
    (origins : List Tree) (m' : ContentModel) : Prop where
  size_eq : m'.entries.size = m.entries.size + origins.length
  kept : ∀ i, i.index < m.entries.size → i ≠ owner → m'.get? i = m.get? i
  owner_eq : ∀ e, m.get? owner = some e → ∃ as cs,
    m'.get? owner = some { e with
      toConstraint := e.toConstraint.withParts ps
      attributes := e.attributes ++ as
      children := e.children ++ cs } ∧
    ShownAll (m'.since m.entries.size) Part.isAttribute ps as ∧
    ShownAll (m'.since m.entries.size) Part.isContent ps cs
  traced : ∀ k decl, origins[k]? = some decl →
    Traced d (m'.since m.entries.size) ⟨m.entries.size + k⟩ decl

namespace Grown

variable {m m₁ m' : ContentModel} {owner : ConstraintId} {ps qs : List Part}
  {origins origins' : List Tree}

/-- Without parts nothing grows. -/
theorem nil (m : ContentModel) (owner : ConstraintId) : Grown d m owner [] [] m where
  size_eq := rfl
  kept _ _ _ := rfl
  owner_eq e he := by
    refine ⟨[], [], ?_, .nil, .nil⟩
    rw [he, List.append_nil, List.append_nil]
    rfl
  traced k decl h := by simp at h

/-- What was numbered since then stays as it is while the owner, which came before, gets more. -/
theorem since_le (h : Grown d m₁ owner qs origins' m') (ho : owner.index < m.entries.size)
    (i : ConstraintId) (e : Entry) (hi : m₁.since m.entries.size i = some e) :
    m'.since m.entries.size i = some e := by
  unfold since at hi ⊢
  split at hi
  · rename_i hle
    rw [if_pos hle, ← hi]
    refine h.kept i ?_ ?_
    · by_contra hlt
      rw [get?_eq_none_of_le (by omega)] at hi
      cases hi
    · rintro rfl
      omega
  · cases hi

/-- Parts are added one after the other. -/
theorem trans (h : Grown d m owner ps origins m₁) (h' : Grown d m₁ owner qs origins' m')
    (ho : owner.index < m.entries.size) : Grown d m owner (ps ++ qs) (origins ++ origins') m' where
  size_eq := by rw [h'.size_eq, h.size_eq, List.length_append, Nat.add_assoc]
  kept i hi hne := by
    have hsize := h.size_eq
    rw [h'.kept i (by omega) hne, h.kept i hi hne]
  owner_eq e he := by
    have hsize := h.size_eq
    obtain ⟨as, cs, he₁, has, hcs⟩ := h.owner_eq e he
    obtain ⟨as', cs', he', has', hcs'⟩ := h'.owner_eq _ he₁
    refine ⟨as ++ as', cs ++ cs', ?_, ?_, ?_⟩
    · simpa [withParts_append] using he'
    · exact (has.mono (h'.since_le ho)).append (has'.mono (since_mono (by omega)))
    · exact (hcs.mono (h'.since_le ho)).append (hcs'.mono (since_mono (by omega)))
  traced k decl hk := by
    have hsize := h.size_eq
    rw [List.getElem?_append] at hk
    split at hk
    · exact (h.traced k decl hk).mono (h'.since_le ho)
    · have hlater := (h'.traced _ decl hk).mono (since_mono (a := m.entries.size) (by omega))
      have hindex : m₁.entries.size + (k - origins.length) = m.entries.size + k := by omega
      rwa [hindex] at hlater

/-- A part that makes no constraint changes what the owner says. -/
theorem say (m : ContentModel) (owner : ConstraintId) {p : Part}
    (hattribute : p.isAttribute = false) (hcontent : p.isContent = false) :
    Grown d m owner [p] [] (m.modify owner p.saying) where
  size_eq := by simp [ContentModel.modify]
  kept i _ hne := by rw [get?_modify, if_neg hne]
  owner_eq e he := by
    refine ⟨[], [], ?_, .skip hattribute .nil, .skip hcontent .nil⟩
    rw [get?_modify, if_pos rfl, he, List.append_nil, List.append_nil]
    rfl
  traced k decl h := by simp at h

/-- A part that makes a constraint gets the next number, and what it has inside the numbers behind
that one. -/
theorem place {p : Part} {c : Constraint} {decl : Tree} (ho : owner.index < m.entries.size)
    (hattribute : p.isAttribute = decide (c.kind = .attribute))
    (hcontent : p.isContent = decide (c.kind ≠ .attribute)) (hsaying : p.saying = id)
    (hshown : Shown (m'.since m.entries.size) p ⟨m.entries.size⟩)
    (htraced : Traced d (m'.since m.entries.size) ⟨m.entries.size⟩ decl)
    (h : Grown d (m.add owner c).1 ⟨m.entries.size⟩ qs origins m') :
    Grown d m owner [p] (decl :: origins) m' where
  size_eq := by
    rw [h.size_eq, size_add, List.length_cons]
    omega
  kept i hi hne := by
    have hnew : i ≠ ⟨m.entries.size⟩ := by
      rintro rfl
      exact Nat.lt_irrefl _ hi
    rw [h.kept i (by rw [size_add]; omega) hnew, get?_add m c ho, if_neg hnew, if_neg hne]
  owner_eq e he := by
    have hnew : owner ≠ ⟨m.entries.size⟩ := by
      rintro rfl
      exact Nat.lt_irrefl _ ho
    have howner : m'.get? owner = some (listed ⟨m.entries.size⟩ c.kind e) := by
      rw [h.kept owner (by rw [size_add]; omega) hnew, get?_add m c ho, if_neg hnew, if_pos rfl, he]
      rfl
    have hsame : e.toConstraint.withParts [p] = e.toConstraint := by
      show p.saying e.toConstraint = _
      rw [hsaying]
      rfl
    -- the part is on one of the two lists, and the other one is as it was
    by_cases hk : c.kind = .attribute
    · refine ⟨[⟨m.entries.size⟩], [], ?_, .take (by simp [hattribute, hk]) hshown .nil,
        .skip (by simp [hcontent, hk]) .nil⟩
      rw [howner, listed, if_pos hk, hsame, List.append_nil]
    · refine ⟨[], [⟨m.entries.size⟩], ?_, .skip (by simp [hattribute, hk]) .nil,
        .take (by simp [hcontent, hk]) hshown .nil⟩
      rw [howner, listed, if_neg hk, hsame, List.append_nil]
  traced k decl' hk := by
    cases k with
    | zero =>
      obtain rfl := Option.some.inj hk
      exact htraced
    | succ k =>
      have hlater := (h.traced k decl' hk).mono (since_mono (a := m.entries.size) (by simp))
      rw [size_add] at hlater
      have hindex : m.entries.size + 1 + k = m.entries.size + (k + 1) := by omega
      rwa [hindex] at hlater

end Grown

end ContentModel

/-! ## Expansions in content models -/

open ContentModel

/-- Numbering the parts of jobs shows them in the content model, each with its declaration. -/
theorem Expands.grown {js : List Job} {ps : List Part} {origins : List Tree}
    (h : Expands d js ps origins) (m : ContentModel) (owner : ConstraintId)
    (ho : owner.index < m.entries.size) : Grown d m owner ps origins (m.growAll owner ps) := by
  induction h generalizing m owner with
  | nil => exact .nil m owner
  | into _ _ ih => exact ih m owner ho
  | named _ _ ih =>
    exact (Grown.say m owner rfl rfl).trans (ih _ owner (by rwa [size_modify])) ho
  | simple _ _ _ ih =>
    exact (Grown.say m owner rfl rfl).trans (ih _ owner (by rwa [size_modify])) ho
  | @«attribute» _ _ name use decl s ps origins _ hs _ ih =>
    let c := ((Constraint.ofAttribute name use).describedBy decl).withSimple s
    have hnew : ((m.add owner c).1.since m.entries.size) ⟨m.entries.size⟩ =
        some { c with parent := some owner } := by
      rw [since, if_pos (Nat.le_refl _), get?_add m c ho, if_pos rfl]
    have hshown : Shown ((m.add owner c).1.since m.entries.size) (.attribute c) ⟨m.entries.size⟩ :=
      .attribute hnew rfl rfl rfl
    have hplace : Grown d m owner [.attribute c] [decl] (m.add owner c).1 :=
      .place ho rfl rfl rfl hshown (.attribute hs hshown) (.nil _ _)
    rw [growAll, grow]
    exact hplace.trans (ih _ owner (by rw [size_add]; omega)) ho
  | @inside j _ inner c decl qs ps below origins hj hexpands _ ihq ih =>
    -- the constraint is added first and grows by itself, then its owner grows on
    have hinner := ihq (m.add owner c).1 ⟨m.entries.size⟩ (by simp)
    obtain ⟨as, cs, hnew, has, hcs⟩ := hinner.owner_eq { c with parent := some owner }
      (by rw [get?_add m c ho, if_pos rfl])
    have hle := since_mono (m := (m.add owner c).1.growAll ⟨m.entries.size⟩ qs)
      (b := (m.add owner c).1.entries.size) (a := m.entries.size) (by simp)
    have hshown : Shown (((m.add owner c).1.growAll ⟨m.entries.size⟩ qs).since m.entries.size)
        (.inside c qs) ⟨m.entries.size⟩ :=
      .inside (by rw [since, if_pos (Nat.le_refl _), hnew]) rfl (has.mono hle) (hcs.mono hle)
    have htraced : Traced d (((m.add owner c).1.growAll ⟨m.entries.size⟩ qs).since m.entries.size)
        ⟨m.entries.size⟩ decl := by
      obtain ⟨hk, hr, rfl⟩ | hk := Job.cases_inside hj
      · exact .element hk hr hexpands hshown
      · exact .compositor hk hshown
    rw [growAll, grow]
    have hplace : Grown d m owner [.inside c qs] (decl :: below)
        ((m.add owner c).1.growAll ⟨m.entries.size⟩ qs) :=
      .place ho rfl rfl rfl hshown htraced hinner
    exact hplace.trans (ih _ owner (by rw [hplace.size_eq]; omega)) ho

/-- A content model shows the parts of the declaration of its root element. -/
theorem grown_contentModel {rootName : String} {m : ContentModel}
    (h : d.contentModel rootName = .ok m) :
    ∃ c decl ps origins, c.kind = .element ∧ c.restriction = none ∧
      d.elements.get? rootName = some decl ∧ Expands d [.element decl] ps origins ∧
      Grown d (ofRoot c) root ps origins m := by
  rw [Definitions.contentModel] at h
  split at h
  · cases h
  · rename_i decl hdecl
    dsimp only at h
    cases hparts : elementParts d (d.keys.filter (· ≠ .element rootName)) decl with
    | error fault =>
      rw [hparts] at h
      cases h
    | ok ps =>
      rw [hparts] at h
      cases h
      obtain ⟨origins, hexpands⟩ := gives_elementParts d _ decl ps hparts
      exact ⟨(Constraint.ofElement rootName .once).describedBy decl, decl, ps, origins, rfl, rfl,
        hdecl, hexpands, hexpands.grown _ root (by simp [ofRoot, root])⟩

/-- The first constraint of a content model is that of an element. -/
theorem kind?_root {rootName : String} {m : ContentModel} (h : d.contentModel rootName = .ok m) :
    m.kind? root = some .element := by
  obtain ⟨c, decl, ps, origins, hk, -, -, -, hgrown⟩ := grown_contentModel h
  obtain ⟨as, cs, hroot, -⟩ := hgrown.owner_eq { c with } rfl
  rw [kind?, hroot, Option.map_some, kind_withParts, hk]

/-- Every constraint of a content model has a declaration and shows what that is expanded into. -/
theorem traced_contentModel {rootName : String} {m : ContentModel}
    (h : d.contentModel rootName = .ok m) :
    ∃ origins, Declarations d rootName origins ∧ m.entries.size = origins.length ∧
      ∀ i decl, origins[i.index]? = some decl → Traced d m.get? i decl := by
  obtain ⟨c, decl, ps, below, hk, hr, hdecl, hexpands, hgrown⟩ := grown_contentModel h
  have hle : ∀ i e, m.since (ofRoot c).entries.size i = some e → m.get? i = some e := by
    intro i e hi
    unfold since at hi
    split at hi
    · exact hi
    · cases hi
  refine ⟨decl :: below, ⟨decl, ps, below, hdecl, hexpands, rfl⟩, ?_, ?_⟩
  · rw [hgrown.size_eq, List.length_cons]
    exact Nat.add_comm 1 below.length
  · rintro ⟨k⟩ decl' hk'
    cases k with
    | zero =>
      obtain rfl := Option.some.inj hk'
      obtain ⟨as, cs, hroot, has, hcs⟩ := hgrown.owner_eq { c with } rfl
      exact .element hk hr hexpands (.inside hroot rfl (has.mono hle) (hcs.mono hle))
    | succ k =>
      have htraced := (hgrown.traced k decl' hk').mono hle
      rwa [show (ofRoot c).entries.size + k = k + 1 from Nat.add_comm 1 k] at htraced

end GuidedXml.Schema
