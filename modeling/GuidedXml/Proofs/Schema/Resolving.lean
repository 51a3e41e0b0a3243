/-
# Simple types by their declarations

Which simple type a name or a declaration stands for, by the declarations of the schema alone: a
built-in type is itself, any other name stands for what its declaration says, and a restriction
narrows what its base stands for.

The names that are being followed can only stop a resolution; they have no say in its result. The
main statements say that a name stands for one simple type at most and that resolving gives it.
-/
import GuidedXml.Proofs.Schema.WellFormed

namespace GuidedXml.Schema

variable {d : Definitions}

/-! ## What a simple type is given by -/

/-- What a simple type is given by. -/
inductive SimpleSource where
  | builtin (t : Builtin)
  | name (n : String)
  | declaration (t : Tree)

/-- The simple type that a source stands for. -/
inductive Resolves (d : Definitions) : SimpleSource → SimpleType → Prop
  | plain (t : Builtin) : Resolves d (.builtin t) { base := t }
  | builtin {n : String} {t : Builtin} :
      Builtin.named? n = some t → Resolves d (.name n) { base := t }
  | declared {n : String} {t : Tree} {s : SimpleType} :
      Builtin.named? n = none → d.simpleTypes.get? n = some t → Resolves d (.declaration t) s →
      Resolves d (.name n) s
  | list {t : Tree} :
      child? t "restriction" = none → (child? t "list").isSome →
      Resolves d (.declaration t) { base := .string }
  | union {t : Tree} :
      child? t "restriction" = none → ¬(child? t "list").isSome →
      Resolves d (.declaration t) { base := .anySimpleType }
  | restricted {t r : Tree} {base : String} {s : SimpleType} :
      child? t "restriction" = some r → r.attribute? "base" = some base →
      Resolves d (.name (Builtin.unprefixed base)) s → Resolves d (.declaration t) (s.restrict r)
  | narrowed {t r inner : Tree} {s : SimpleType} :
      child? t "restriction" = some r → r.attribute? "base" = none →
      child? r "simpleType" = some inner → Resolves d (.declaration inner) s →
      Resolves d (.declaration t) (s.restrict r)

/-- A source stands for one simple type at most. -/
theorem Resolves.unique {x : SimpleSource} {s s' : SimpleType} (h : Resolves d x s)
    (h' : Resolves d x s') : s = s' := by
  induction h generalizing s' with
  | plain t =>
    cases h'
    rfl
  -- a built-in name and a declared one exclude each other
  | builtin hn =>
    cases h' with
    | builtin hn' => rw [Option.some.inj (hn.symm.trans hn')]
    | declared hn' => simp [hn] at hn'
  | declared hn ht _ ih =>
    cases h' with
    | builtin hn' => simp [hn] at hn'
    | declared _ ht' hs' =>
      rw [← Option.some.inj (ht.symm.trans ht')] at hs'
      exact ih hs'
  -- without a restriction the type is a list or a union, with one it names its base or holds it
  | list hr hl =>
    cases h' with
    | list => rfl
    | union _ hl' => exact absurd hl hl'
    | restricted hr' => simp [hr] at hr'
    | narrowed hr' => simp [hr] at hr'
  | union hr hl =>
    cases h' with
    | list _ hl' => exact absurd hl' hl
    | union => rfl
    | restricted hr' => simp [hr] at hr'
    | narrowed hr' => simp [hr] at hr'
  | restricted hr hb _ ih =>
    cases h' with
    | list hr' => simp [hr] at hr'
    | union hr' => simp [hr] at hr'
    | restricted hr' hb' hs' =>
      obtain rfl := Option.some.inj (hr.symm.trans hr')
      rw [← Option.some.inj (hb.symm.trans hb')] at hs'
      rw [ih hs']
    | narrowed hr' hb' =>
      rw [← Option.some.inj (hr.symm.trans hr'), hb] at hb'
      cases hb'
  | narrowed hr hb hi _ ih =>
    cases h' with
    | list hr' => simp [hr] at hr'
    | union hr' => simp [hr] at hr'
    | restricted hr' hb' =>
      rw [← Option.some.inj (hr.symm.trans hr'), hb] at hb'
      cases hb'
    | narrowed hr' _ hi' hs' =>
      obtain rfl := Option.some.inj (hr.symm.trans hr')
      rw [← Option.some.inj (hi.symm.trans hi')] at hs'
      rw [ih hs']

/-! ## Resolving -/

mutual

/-- Resolving a name gives what it stands for, whatever is being followed. -/
theorem yields_resolves_named (d : Definitions) (free : List Key) (name : String) :
    Yields (Resolves d (.name name)) (simpleNamed d free name) := by
  rw [simpleNamed]
  split
  · rename_i t hn
    exact yields_ok (.builtin hn)
  · rename_i hn
    split
    · exact yields_error
    · rename_i t ht
      exact yields_follow fun rest hlt s hs =>
        .declared hn ht (yields_resolves_declaration d rest t s hs)
termination_by (free.length, 0)

/-- Resolving a declaration gives what it stands for, whatever is being followed. -/
theorem yields_resolves_declaration (d : Definitions) (free : List Key) (t : Tree) :
    Yields (Resolves d (.declaration t)) (simpleType d free t) := by
  rw [simpleType_def]
  split
  · rename_i hr
    split
    · rename_i hl
      exact yields_ok (.list hr hl)
    · rename_i hl
      exact yields_ok (.union hr hl)
  · rename_i r hr
    split
    · rename_i hb
      split
      · exact yields_error
      · rename_i inner hi
        have := size_lt_of_child? hr
        have := size_lt_of_child? hi
        exact (yields_resolves_declaration d free inner).map fun s hs => .narrowed hr hb hi hs
    · rename_i base hb
      exact (yields_resolves_named d free _).map fun s hs => .restricted hr hb hs
termination_by (free.length, t.size)
decreasing_by
  all_goals
    have := Tree.size_pos t
    exact Prod.Lex.right _ (by omega)

end

/-! ## Attributes -/

/-- What gives the simple type of an attribute declaration. -/
def attributeSource (decl : Tree) : SimpleSource :=
  match decl.attribute? "type" with
  | some typeRef => .name (Builtin.unprefixed typeRef)
  | none =>
    match child? decl "simpleType" with
    | some t => .declaration t
    | none => .builtin .anySimpleType

/-- The type of an attribute is what its declaration stands for. -/
theorem yields_resolves_attribute (d : Definitions) (free : List Key) (decl : Tree) :
    Yields (Resolves d (attributeSource decl)) (attributeType d free decl) := by
  rw [attributeSource, attributeType]
  cases decl.attribute? "type" with
  | some typeRef => exact yields_resolves_named d free _
  | none =>
    cases child? decl "simpleType" with
    | some t => exact yields_resolves_declaration d free t
    | none => exact yields_ok (.plain _)

end GuidedXml.Schema
