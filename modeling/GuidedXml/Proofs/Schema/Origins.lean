/-
# Where constraints come from

The expansion of declarations told apart into small steps. What is still to be expanded is a list of
jobs; the job in front says by the declarations alone what comes next: further jobs, or a part and
further jobs. Each part that makes a constraint is noted with the declaration that it stands for, in
the order in which constraints are numbered.

The main statements say that jobs have one expansion at most, and that expanding a declaration with
names to be followed once at a time gives that one wherever it gives any.
-/
import GuidedXml.Proofs.Schema.Resolving

namespace GuidedXml.Schema

variable {d : Definitions} {free : List Key}

/-! ## Jobs -/

/-- What a declaration stands in, which tells what it may add there. -/
inductive Place where
  | complexType | derivation | compositor | attributes

/-- Something to be expanded. -/
inductive Job where
  /-- The type of an element declaration. -/
  | element (decl : Tree)
  /-- A declaration inside of another one. -/
  | inside (place : Place) (t : Tree)
  /-- The complex type that an extension names as its base. -/
  | base (derivation : Tree)
  /-- A compositor or a reference to a group. -/
  | particle (t : Tree)
  /-- An element declaration inside a compositor. -/
  | member (decl : Tree)
  | simpleContent (content : Tree)
  | attribute (decl : Tree)
  | attributeGroup (reference : Tree)

/-- The jobs that one declaration inside of another one stands for. -/
def Place.jobs (place : Place) (t : Tree) : List Job :=
  match place with
  | .complexType =>
    match localNameOf t with
    | "sequence" | "all" | "choice" | "group" => [.particle t]
    | "attribute" => [.attribute t]
    | "attributeGroup" => [.attributeGroup t]
    | "simpleContent" => [.simpleContent t]
    | "complexContent" => t.elements.map (.inside .derivation)
    | _ => []
  | .derivation =>
    if localNameOf t = "extension" then .base t :: t.elements.map (.inside .complexType)
    else if localNameOf t = "restriction" then t.elements.map (.inside .complexType)
    else []
  | .compositor =>
    match localNameOf t with
    | "element" => [.member t]
    | "sequence" | "all" | "choice" | "group" => [.particle t]
    | _ => []
  | .attributes =>
    match localNameOf t with
    | "attribute" => [.attribute t]
    | "attributeGroup" => [.attributeGroup t]
    | _ => []

/-- What the first step of a job leads to. -/
inductive Step where
  /-- Further jobs. -/
  | into (jobs : List Job)
  /-- The name of the type of the owner, and further jobs. -/
  | named (typeName : String) (jobs : List Job)
  /-- A simple type of the owner, derived from that of a source, and further jobs. -/
  | simple (source : SimpleSource) (derive : SimpleType → SimpleType) (jobs : List Job)
  /-- An attribute that is declared so. -/
  | attribute (name : String) (use : Use) (decl : Tree)
  /-- An element or a compositor that is declared so, with jobs of its own. -/
  | inside (c : Constraint) (decl : Tree) (jobs : List Job)

/-- The first step of a job, if what it refers to is there. -/
def Job.step (d : Definitions) : Job → Option Step
  | .element decl =>
    match decl.attribute? "type" with
    | some typeRef =>
      match d.complexTypes.get? (Builtin.unprefixed typeRef) with
      | some t =>
        some (.named (Builtin.unprefixed typeRef) (t.elements.map (.inside .complexType)))
      | none => some (.simple (.name (Builtin.unprefixed typeRef)) id [])
    | none =>
      match child? decl "complexType" with
      | some t => some (.into (t.elements.map (.inside .complexType)))
      | none =>
        match child? decl "simpleType" with
        | some t => some (.simple (.declaration t) id [])
        | none => some (.simple (.builtin .anyType) id [])
  | .inside place t => some (.into (place.jobs t))
  | .base derivation =>
    (derivation.attribute? "base").bind fun base =>
      if Builtin.unprefixed base = Builtin.anyType.name then some (.into [])
      else (d.complexTypes.get? (Builtin.unprefixed base)).map fun t =>
        .into (t.elements.map (.inside .complexType))
  | .particle t =>
    match localNameOf t with
    | "sequence" | "all" =>
      some (.inside (compositor .sequence) t (t.elements.map (.inside .compositor)))
    | "choice" => some (.inside (compositor .choice) t (t.elements.map (.inside .compositor)))
    | "group" =>
      (t.attribute? "ref").bind fun ref =>
        (d.groups.get? (Builtin.unprefixed ref)).map fun group =>
          .into ((group.elements.find? isGroupModel).toList.map .particle)
    | _ => some (.into [])
  | .member decl =>
    match occursOf decl with
    | .error _ => none
    | .ok occurs =>
      match decl.attribute? "ref" with
      | some ref =>
        (d.elements.get? (Builtin.unprefixed ref)).map fun target =>
          let own := { Constraint.ofElement (Builtin.unprefixed ref) occurs with
            annotation := annotationOf decl }
          .inside (own.describedBy target) target [.element target]
      | none =>
        (decl.attribute? "name").map fun name =>
          .inside ((Constraint.ofElement name occurs).describedBy decl) decl [.element decl]
  | .simpleContent content =>
    match content.elements.find? isDerivation with
    | none => some (.simple (.builtin .anySimpleType) id [])
    | some derivation =>
      (derivation.attribute? "base").map fun base =>
        .simple (.name (Builtin.unprefixed base))
          (fun s => if localNameOf derivation = "restriction" then s.restrict derivation else s)
          (derivation.elements.map (.inside .attributes))
  | .attribute decl =>
    if decl.attribute? "use" = some "prohibited" then some (.into [])
    else
      match attributeTarget d decl with
      | .error _ => none
      | .ok (name, target) =>
        some (.attribute name
          (if decl.attribute? "use" = some "required" then .required else .optional) target)
  | .attributeGroup reference =>
    (reference.attribute? "ref").bind fun ref =>
      (d.attributeGroups.get? (Builtin.unprefixed ref)).map fun group =>
        .into (group.elements.map (.inside .attributes))

/-- An element or a compositor is made with a constraint about which little is said yet. -/
theorem Job.cases_inside {j : Job} {js : List Job} {c : Constraint} {decl : Tree}
    (h : j.step d = some (.inside c decl js)) :
    (c.kind = .element ∧ c.restriction = none ∧ js = [.element decl]) ∨ c.kind.isCompositor := by
  -- particles make compositors and members make elements; no other job makes a constraint with an
  -- inside
  cases j with
  | element decl =>
    simp only [Job.step] at h
    split at h
    · split at h <;> cases h
    · split at h
      · cases h
      · split at h <;> cases h
  | inside place t => cases h
  | base derivation =>
    obtain ⟨base, -, h⟩ := Option.bind_eq_some_iff.mp h
    split at h
    · cases h
    · obtain ⟨t, -, h⟩ := Option.map_eq_some_iff.mp h
      cases h
  | particle t =>
    simp only [Job.step] at h
    split at h
    · cases h
      exact .inr rfl
    · cases h
      exact .inr rfl
    · cases h
      exact .inr rfl
    · obtain ⟨ref, -, h⟩ := Option.bind_eq_some_iff.mp h
      obtain ⟨group, -, h⟩ := Option.map_eq_some_iff.mp h
      cases h
    · cases h
  | member decl =>
    simp only [Job.step] at h
    split at h
    · cases h
    · split at h
      · obtain ⟨target, -, h⟩ := Option.map_eq_some_iff.mp h
        cases h
        exact .inl ⟨rfl, rfl, rfl⟩
      · obtain ⟨name, -, h⟩ := Option.map_eq_some_iff.mp h
        cases h
        exact .inl ⟨rfl, rfl, rfl⟩
  | simpleContent content =>
    simp only [Job.step] at h
    split at h
    · cases h
    · obtain ⟨base, -, h⟩ := Option.map_eq_some_iff.mp h
      cases h
  | «attribute» decl =>
    simp only [Job.step] at h
    split at h
    · cases h
    · split at h <;> cases h
  | attributeGroup reference =>
    obtain ⟨ref, -, h⟩ := Option.bind_eq_some_iff.mp h
    obtain ⟨group, -, h⟩ := Option.map_eq_some_iff.mp h
    cases h

/-! ## Expansions -/

/-- Jobs done one after the other, with the parts that they give and the declarations of the
constraints among them. -/
inductive Expands (d : Definitions) : List Job → List Part → List Tree → Prop
  | nil : Expands d [] [] []
  | into {j : Job} {js inner : List Job} {ps : List Part} {origins : List Tree} :
      j.step d = some (.into inner) → Expands d (inner ++ js) ps origins →
      Expands d (j :: js) ps origins
  | named {j : Job} {js inner : List Job} {name : String} {ps : List Part} {origins : List Tree} :
      j.step d = some (.named name inner) → Expands d (inner ++ js) ps origins →
      Expands d (j :: js) (.named name :: ps) origins
  | simple {j : Job} {js inner : List Job} {x : SimpleSource} {derive : SimpleType → SimpleType}
      {s : SimpleType} {ps : List Part} {origins : List Tree} :
      j.step d = some (.simple x derive inner) → Resolves d x s →
      Expands d (inner ++ js) ps origins → Expands d (j :: js) (.simple (derive s) :: ps) origins
  | attribute {j : Job} {js : List Job} {name : String} {use : Use} {decl : Tree} {s : SimpleType}
      {ps : List Part} {origins : List Tree} :
      j.step d = some (.attribute name use decl) → Resolves d (attributeSource decl) s →
      Expands d js ps origins →
      Expands d (j :: js)
        (.attribute (((Constraint.ofAttribute name use).describedBy decl).withSimple s) :: ps)
        (decl :: origins)
  | inside {j : Job} {js inner : List Job} {c : Constraint} {decl : Tree} {qs ps : List Part}
      {below origins : List Tree} :
      j.step d = some (.inside c decl inner) → Expands d inner qs below →
      Expands d js ps origins →
      Expands d (j :: js) (.inside c qs :: ps) (decl :: (below ++ origins))

namespace Expands

/-- Jobs have one expansion at most. -/
theorem unique {js : List Job} {ps ps' : List Part} {origins origins' : List Tree}
    (h : Expands d js ps origins) (h' : Expands d js ps' origins') :
    ps = ps' ∧ origins = origins' := by
  induction h generalizing ps' origins' with
  | nil =>
    cases h'
    exact ⟨rfl, rfl⟩
  | into hj _ ih =>
    cases h' with
    | into hj' h' =>
      cases hj.symm.trans hj'
      exact ih h'
    | named hj' | simple hj' | «attribute» hj' | inside hj' => cases hj.symm.trans hj'
  | named hj _ ih =>
    cases h' with
    | named hj' h' =>
      cases hj.symm.trans hj'
      obtain ⟨rfl, rfl⟩ := ih h'
      exact ⟨rfl, rfl⟩
    | into hj' | simple hj' | «attribute» hj' | inside hj' => cases hj.symm.trans hj'
  | simple hj hs _ ih =>
    cases h' with
    | simple hj' hs' h' =>
      cases hj.symm.trans hj'
      obtain rfl := hs.unique hs'
      obtain ⟨rfl, rfl⟩ := ih h'
      exact ⟨rfl, rfl⟩
    | into hj' | named hj' | «attribute» hj' | inside hj' => cases hj.symm.trans hj'
  | «attribute» hj hs _ ih =>
    cases h' with
    | «attribute» hj' hs' h' =>
      cases hj.symm.trans hj'
      obtain rfl := hs.unique hs'
      obtain ⟨rfl, rfl⟩ := ih h'
      exact ⟨rfl, rfl⟩
    | into hj' | named hj' | simple hj' | inside hj' => cases hj.symm.trans hj'
  | inside hj _ _ ihq ih =>
    cases h' with
    | inside hj' hq' h' =>
      cases hj.symm.trans hj'
      obtain ⟨rfl, rfl⟩ := ihq hq'
      obtain ⟨rfl, rfl⟩ := ih h'
      exact ⟨rfl, rfl⟩
    | into hj' | named hj' | simple hj' | «attribute» hj' => cases hj.symm.trans hj'

/-- The expansion of jobs is that of the first ones and then that of the others. -/
theorem append {js js' : List Job} {ps ps' : List Part} {origins origins' : List Tree}
    (h : Expands d js ps origins) (h' : Expands d js' ps' origins') :
    Expands d (js ++ js') (ps ++ ps') (origins ++ origins') := by
  induction h with
  | nil => exact h'
  | into hj _ ih => exact .into hj (by simpa using ih)
  | named hj _ ih => exact .named hj (by simpa using ih)
  | simple hj hs _ ih => exact .simple hj hs (by simpa using ih)
  | «attribute» hj hs _ ih => exact .attribute hj hs ih
  | inside hj hq _ _ ih => simpa using Expands.inside hj hq ih

end Expands

/-- The jobs have these parts. -/
def Gives (d : Definitions) (js : List Job) (ps : List Part) : Prop :=
  ∃ origins, Expands d js ps origins

namespace Gives

variable {j : Job} {js inner : List Job} {ps qs : List Part}

theorem nil : Gives d [] [] :=
  ⟨[], .nil⟩

/-- What two lists of jobs give is given by both together. -/
theorem append {js' : List Job} : Gives d js ps → Gives d js' qs → Gives d (js ++ js') (ps ++ qs) :=
  fun ⟨_, h⟩ ⟨_, h'⟩ => ⟨_, h.append h'⟩

/-- A job that leads into others gives what they give. -/
theorem into (hj : j.step d = some (.into inner)) : Gives d inner ps → Gives d [j] ps :=
  fun ⟨_, h⟩ => ⟨_, .into hj (by simpa using h)⟩

/-- A job that names a type gives that name and what the jobs inside give. -/
theorem named {name : String} (hj : j.step d = some (.named name inner)) :
    Gives d inner ps → Gives d [j] (.named name :: ps) :=
  fun ⟨_, h⟩ => ⟨_, .named hj (by simpa using h)⟩

/-- A job that finds a simple type gives what is derived from it and what the jobs inside give. -/
theorem simple {x : SimpleSource} {derive : SimpleType → SimpleType} {s : SimpleType}
    (hj : j.step d = some (.simple x derive inner)) (hs : Resolves d x s) :
    Gives d inner ps → Gives d [j] (.simple (derive s) :: ps) :=
  fun ⟨_, h⟩ => ⟨_, .simple hj hs (by simpa using h)⟩

/-- A simple type alone, as it is. -/
theorem typed {x : SimpleSource} {s : SimpleType} (hj : j.step d = some (.simple x id []))
    (hs : Resolves d x s) : Gives d [j] [.simple s] :=
  simple hj hs nil

/-- A job that makes a constraint gives it with what the jobs inside give as its parts. -/
theorem inside {c : Constraint} (decl : Tree) (hj : j.step d = some (.inside c decl inner)) :
    Gives d inner ps → Gives d [j] [.inside c ps] :=
  fun ⟨_, h⟩ => ⟨_, .inside hj h .nil⟩

end Gives

/-! ## Expanding declarations -/

/-- What two results are given by is given by the jobs of both. -/
theorem Yields.append_gives {js js' : List Job} {first rest : Except SchemaFault (List Part)} :
    Yields (Gives d js) first → Yields (Gives d js') rest →
      Yields (Gives d (js ++ js')) (match first with
        | .error fault => .error fault
        | .ok parts => rest.map (parts ++ ·)) := by
  intro hfirst hrest
  cases first with
  | error fault => exact yields_error
  | ok parts => exact hrest.map fun others hothers => (hfirst parts rfl).append hothers

/-- One declaration inside of another one gives what the jobs that it stands for give. -/
theorem Yields.gives_inside {place : Place} {t : Tree} {r : Except SchemaFault (List Part)}
    (hr : Yields (Gives d (place.jobs t)) r) : Yields (Gives d [.inside place t]) r :=
  fun ps hps => .into rfl (hr ps hps)

/-- A required attribute that is found has that value. -/
theorem ok_of_requiredAttribute {t : Tree} {name value : String}
    (h : requiredAttribute t name = .ok value) : t.attribute? name = some value := by
  unfold requiredAttribute at h
  split at h <;> cases h
  assumption

/-- The declaration of an attribute is one job. -/
theorem gives_attributeParts (d : Definitions) (free : List Key) (decl : Tree) :
    Yields (Gives d [.attribute decl]) (attributeParts d free decl) := by
  rw [attributeParts]
  split
  · rename_i hp
    exact yields_ok (Gives.into (by rw [Job.step, if_pos hp]) .nil)
  · rename_i hp
    dsimp only
    split
    · exact yields_error
    · rename_i name target ht
      refine (yields_resolves_attribute d free target).map fun s hs => ?_
      exact ⟨_, .attribute (by rw [Job.step, if_neg hp, ht]) hs .nil⟩

mutual

/-- A reference to a group of attributes is one job. -/
theorem gives_attributeGroupParts (d : Definitions) (free : List Key) (reference : Tree) :
    Yields (Gives d [.attributeGroup reference]) (attributeGroupParts d free reference) := by
  rw [attributeGroupParts]
  split
  · exact yields_error
  · rename_i ref href
    dsimp only
    split
    · exact yields_error
    · rename_i group hgroup
      refine yields_follow fun rest hlt ps hps => ?_
      refine Gives.into ?_ (gives_attributesParts d rest group.elements ps hps)
      rw [Job.step, ok_of_requiredAttribute href, Option.bind_some, hgroup, Option.map_some]
termination_by (free.length, 0)

/-- Trees among which attributes are sought are jobs. -/
theorem gives_attributesParts (d : Definitions) (free : List Key) (ts : List Tree) :
    Yields (Gives d (ts.map (.inside .attributes))) (attributesParts d free ts) := by
  cases ts with
  | nil =>
    rw [attributesParts]
    exact yields_ok .nil
  | cons t ts =>
    rw [attributesParts]
    refine Yields.append_gives (Yields.gives_inside ?_) (gives_attributesParts d free ts)
    dsimp only [Place.jobs]
    split <;> rename_i h <;> try simp only [h]
    · exact gives_attributeParts d free t
    · exact gives_attributeGroupParts d free t
    · exact yields_ok .nil
termination_by (free.length, ts.length + 1)

end

/-- Simple content is one job. -/
theorem gives_simpleContentParts (d : Definitions) (free : List Key) (content : Tree) :
    Yields (Gives d [.simpleContent content]) (simpleContentParts d free content) := by
  rw [simpleContentParts]
  split
  · rename_i hc
    exact yields_ok (.typed (by rw [Job.step, hc]) (.plain .anySimpleType))
  · rename_i derivation hc
    rw [derivedSimpleType]
    cases hbase : requiredAttribute derivation "base" with
    | error fault => exact yields_error
    | ok base =>
      have hstep : (Job.simpleContent content).step d = some (.simple
          (.name (Builtin.unprefixed base))
          (fun s => if localNameOf derivation = "restriction" then s.restrict derivation else s)
          (derivation.elements.map (.inside .attributes))) := by
        rw [Job.step, hc]
        dsimp only
        rw [ok_of_requiredAttribute hbase, Option.map_some]
      dsimp only
      cases hs : simpleNamed d free (Builtin.unprefixed base) with
      | error fault => exact yields_error
      | ok s =>
        refine (gives_attributesParts d free derivation.elements).map fun ps hps => ?_
        exact (Gives.simple hstep (yields_resolves_named d free _ s hs) hps :)

mutual

/-- The declaration of an element is one job. -/
theorem gives_elementParts (d : Definitions) (free : List Key) (decl : Tree) :
    Yields (Gives d [.element decl]) (elementParts d free decl) := by
  rw [elementParts_def]
  split
  · rename_i typeRef htype
    split
    · rename_i t ht
      refine yields_follow fun rest hlt => ?_
      refine (gives_complexParts d rest t.elements).map fun ps hps => ?_
      exact .named (by simp only [Job.step, htype, ht]) hps
    · rename_i ht
      refine (yields_resolves_named d free _).map fun s hs => ?_
      exact .typed (by simp only [Job.step, htype, ht]) hs
  · rename_i htype
    split
    · rename_i t hc
      have := size_lt_of_child? hc
      have := Tree.sizeAll_elements_lt t
      exact fun ps hps => .into (by simp only [Job.step, htype, hc])
        (gives_complexParts d free t.elements ps hps)
    · rename_i hc
      split
      · rename_i hs
        exact yields_ok (.typed (by simp only [Job.step, htype, hc, hs]) (.plain .anyType))
      · rename_i t ht
        refine (yields_resolves_declaration d free t).map fun s hs => ?_
        exact .typed (by simp only [Job.step, htype, hc, ht]) hs
termination_by (free.length, 3 * decl.size)
decreasing_by
  · exact Prod.Lex.left _ _ (by assumption)
  · exact Prod.Lex.right _ (by omega)

/-- The trees of a complex type are jobs. -/
theorem gives_complexParts (d : Definitions) (free : List Key) (ts : List Tree) :
    Yields (Gives d (ts.map (.inside .complexType))) (complexParts d free ts) := by
  cases ts with
  | nil =>
    rw [complexParts]
    exact yields_ok .nil
  | cons t ts =>
    rw [complexParts]
    refine Yields.append_gives (Yields.gives_inside ?_) (gives_complexParts d free ts)
    dsimp only [Place.jobs]
    split <;> rename_i h <;> try simp only [h]
    · exact gives_particleParts d free t
    · exact gives_particleParts d free t
    · exact gives_particleParts d free t
    · exact gives_particleParts d free t
    · exact gives_attributeParts d free t
    · exact gives_attributeGroupParts d free t
    · exact gives_simpleContentParts d free t
    · exact gives_derivationParts d free t.elements
    · exact yields_ok .nil
termination_by (free.length, 3 * Tree.sizeAll ts + 1)
decreasing_by
  all_goals
    have := Tree.sizeAll_elements_lt t
    have := Tree.size_pos t
    exact Prod.Lex.right _ (by simp only [Tree.sizeAll]; omega)

/-- The trees of a derivation are jobs. -/
theorem gives_derivationParts (d : Definitions) (free : List Key) (ts : List Tree) :
    Yields (Gives d (ts.map (.inside .derivation))) (derivationParts d free ts) := by
  cases ts with
  | nil =>
    rw [derivationParts]
    exact yields_ok .nil
  | cons t ts =>
    rw [derivationParts]
    refine Yields.append_gives (Yields.gives_inside ?_) (gives_derivationParts d free ts)
    dsimp only [Place.jobs]
    split
    · exact (gives_basePartsOf d free t).append_gives (gives_complexParts d free t.elements)
    · split
      · exact gives_complexParts d free t.elements
      · exact yields_ok .nil
termination_by (free.length, 3 * Tree.sizeAll ts + 1)
decreasing_by
  all_goals
    have := Tree.sizeAll_elements_lt t
    have := Tree.size_pos t
    exact Prod.Lex.right _ (by simp only [Tree.sizeAll]; omega)

/-- The base of a derivation is one job. -/
theorem gives_basePartsOf (d : Definitions) (free : List Key) (derivation : Tree) :
    Yields (Gives d [.base derivation]) (basePartsOf d free derivation) := by
  rw [basePartsOf]
  split
  · exact yields_error
  · rename_i base hbase
    have hbase := ok_of_requiredAttribute hbase
    dsimp only
    split
    · rename_i hany
      exact yields_ok (.into (by rw [Job.step, hbase, Option.bind_some, if_pos hany]) .nil)
    · rename_i hany
      split
      · exact yields_error
      · rename_i t ht
        refine yields_follow fun rest hlt ps hps => ?_
        refine .into ?_ (gives_complexParts d rest t.elements ps hps)
        rw [Job.step, hbase, Option.bind_some, if_neg hany, ht, Option.map_some]
termination_by (free.length, 0)

/-- A particle is one job. -/
theorem gives_particleParts (d : Definitions) (free : List Key) (t : Tree) :
    Yields (Gives d [.particle t]) (particleParts d free t) := by
  have hmembers := gives_memberParts d free t.elements
  rw [particleParts]
  split <;> rename_i hname
  · exact hmembers.map fun ps => .inside t (by simp only [Job.step, hname])
  · exact hmembers.map fun ps => .inside t (by simp only [Job.step, hname])
  · exact hmembers.map fun ps => .inside t (by simp only [Job.step, hname])
  · split
    · exact yields_error
    · rename_i ref href
      have href := ok_of_requiredAttribute href
      dsimp only
      split
      · exact yields_error
      · rename_i group hgroup
        have hstep : (Job.particle t).step d =
            some (.into ((group.elements.find? isGroupModel).toList.map .particle)) := by
          simp only [Job.step, hname, href, Option.bind_some, hgroup, Option.map_some]
        refine yields_follow fun rest hlt => ?_
        split
        · rename_i hmodel
          exact yields_ok (.into hstep (by rw [hmodel]; exact .nil))
        · rename_i model hmodel
          intro ps hps
          refine .into hstep ?_
          rw [hmodel]
          exact gives_particleParts d rest model ps hps
  · exact yields_ok (.into (by simp only [Job.step]) .nil)
termination_by (free.length, 3 * t.size)
decreasing_by
  all_goals
    have := Tree.sizeAll_elements_lt t
    first
    | exact Prod.Lex.left _ _ (by assumption)
    | exact Prod.Lex.right _ (by omega)

/-- The members of a compositor are jobs. -/
theorem gives_memberParts (d : Definitions) (free : List Key) (ts : List Tree) :
    Yields (Gives d (ts.map (.inside .compositor))) (memberParts d free ts) := by
  cases ts with
  | nil =>
    rw [memberParts]
    exact yields_ok .nil
  | cons t ts =>
    rw [memberParts]
    refine Yields.append_gives (Yields.gives_inside ?_) (gives_memberParts d free ts)
    dsimp only [Place.jobs]
    split <;> rename_i h <;> try simp only [h]
    · exact gives_memberElementParts d free t
    · exact gives_particleParts d free t
    · exact gives_particleParts d free t
    · exact gives_particleParts d free t
    · exact gives_particleParts d free t
    · exact yields_ok .nil
termination_by (free.length, 3 * Tree.sizeAll ts + 2)
decreasing_by
  all_goals
    have := Tree.size_pos t
    exact Prod.Lex.right _ (by simp only [Tree.sizeAll]; omega)

/-- An element among the members of a compositor is one job. -/
theorem gives_memberElementParts (d : Definitions) (free : List Key) (decl : Tree) :
    Yields (Gives d [.member decl]) (memberElementParts d free decl) := by
  rw [memberElementParts]
  split
  · exact yields_error
  · rename_i occurs hoccurs
    split
    · rename_i ref href
      dsimp only
      split
      · exact yields_error
      · rename_i target ht
        refine yields_follow fun rest hlt => (gives_elementParts d rest target).map fun ps hps => ?_
        exact .inside target (by simp only [Job.step, hoccurs, href, ht, Option.map_some]) hps
    · rename_i href
      split
      · exact yields_error
      · rename_i name hname
        refine (gives_elementParts d free decl).map fun ps hps => ?_
        refine .inside decl ?_ hps
        simp only [Job.step, hoccurs, href, ok_of_requiredAttribute hname, Option.map_some]
termination_by (free.length, 3 * decl.size + 1)

end

/-! ## Declarations of constraints -/

/-- The declarations of all constraints of the content model below a global element, in the order in
which the constraints are numbered. -/
def Declarations (d : Definitions) (rootName : String) (origins : List Tree) : Prop :=
  ∃ decl ps below, d.elements.get? rootName = some decl ∧ Expands d [.element decl] ps below ∧
    origins = decl :: below

/-- The constraint of that number is made of the declaration. -/
def DeclaredBy (d : Definitions) (rootName : String) (i : ConstraintId) (decl : Tree) : Prop :=
  ∃ origins, Declarations d rootName origins ∧ origins[i.index]? = some decl

/-- What is declared inside of a root has one list of origins. -/
theorem Declarations.unique {rootName : String} {origins origins' : List Tree}
    (h : Declarations d rootName origins) (h' : Declarations d rootName origins') :
    origins = origins' := by
  obtain ⟨decl, ps, below, hdecl, hexpands, rfl⟩ := h
  obtain ⟨decl', ps', below', hdecl', hexpands', rfl⟩ := h'
  obtain rfl := Option.some.inj (hdecl.symm.trans hdecl')
  rw [(hexpands.unique hexpands').2]

/-- A constraint is made of one declaration. -/
theorem DeclaredBy.unique {rootName : String} {i : ConstraintId} {decl decl' : Tree}
    (h : DeclaredBy d rootName i decl) (h' : DeclaredBy d rootName i decl') : decl = decl' := by
  obtain ⟨origins, horigins, hdecl⟩ := h
  obtain ⟨origins', horigins', hdecl'⟩ := h'
  obtain rfl := horigins.unique horigins'
  exact Option.some.inj (hdecl.symm.trans hdecl')

end GuidedXml.Schema
