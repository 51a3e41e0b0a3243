/-
# Owners of names

The first in a line owns the name, and those behind wait. Nobody gets past another one: when the
owner leaves the line, the next one in it becomes the owner.

The main statement says that the registry of names is exact, and that the next in line follows.
-/
import GuidedXml.Proofs.Conformance.Kempt

namespace GuidedXml

/-! ## Lines that advance -/

namespace Claims

variable {c c' : Claims} {n : Nat} {name : String} {h : Handle}

/-- Those who stay in a line stay in their order, and others join behind them. -/
def Advances (c c' : Claims) : Prop :=
  ∀ name, ∃ kept more, c'.candidates name = kept ++ more ∧ kept.Sublist (c.candidates name) ∧
    ∀ k ∈ more, k ∉ c.candidates name

theorem Follows.advances (hf : Follows n c c')
    (hknown : ∀ {name k}, k ∈ c.candidates name → k.index < n) : Advances c c' := by
  intro name
  obtain ⟨kept, more, heq, hsub, hmore⟩ := hf name
  refine ⟨kept, more, heq, hsub, fun k hk hold => ?_⟩
  have := hmore k hk
  have := hknown hold
  omega

/-- The first one of those who stay is the first one that is found. -/
theorem find?_of_sublist {kept line : List Handle} {P : Handle → Bool} (hsub : kept.Sublist line)
    (hnd : line.Nodup) (hP : ∀ k ∈ line, P k = true ↔ k ∈ kept) : line.find? P = kept.head? := by
  induction hsub with
  | slnil => rfl
  | @cons kept line a hsub ih =>
    obtain ⟨ha, hnd⟩ := List.nodup_cons.mp hnd
    have hout : P a = false := by
      rw [← Bool.not_eq_true, hP a (List.mem_cons_self ..)]
      exact fun hm => ha (hsub.subset hm)
    rw [List.find?_cons, hout]
    exact ih hnd fun k hk => hP k (List.mem_cons_of_mem _ hk)
  | @cons_cons kept line a hsub _ =>
    have hin : P a = true := (hP a (List.mem_cons_self ..)).mpr (List.mem_cons_self ..)
    rw [List.find?_cons, hin]
    rfl

/-- The next one in line becomes the owner. -/
theorem Advances.owner?_eq (ha : Advances c c') (hnd : (c.candidates name).Nodup)
    {rest : List Handle} (hline : c.candidates name = h :: rest) (hlost : c'.owner? name ≠ some h)
    (hleft : ∃ k ∈ rest, k ∈ c'.candidates name) :
    c'.owner? name = rest.find? fun k => k ∈ c'.candidates name := by
  obtain ⟨kept, more, heq, hsub, hmore⟩ := ha name
  rw [hline] at hsub hmore hnd
  have hmem : ∀ k ∈ rest, decide (k ∈ c'.candidates name) = true ↔ k ∈ kept := by
    intro k hk
    rw [decide_eq_true_eq, heq, List.mem_append]
    exact or_iff_left fun hm => hmore k hm (List.mem_cons_of_mem _ hk)
  obtain ⟨k, hk, hkc⟩ := hleft
  have hkept : k ∈ kept := (hmem k hk).mp (decide_eq_true hkc)
  have hhead : c'.owner? name = kept.head? := by
    rw [owner?, heq, List.head?_append_of_ne_nil _ (List.ne_nil_of_mem hkept)]
  -- the old owner is not at the head of those who stayed, so they all waited behind it
  have hsub' : kept.Sublist rest := by
    cases hsub with
    | cons _ hsub => exact hsub
    | cons_cons _ _ => exact absurd hhead hlost
  rw [hhead, find?_of_sublist hsub' (List.nodup_cons.mp hnd).2 hmem]

end Claims

namespace Session

open Workspace (Registered)

variable {s s' : Session} {h : Handle} {value : String} {r : Request}

/-- Setting a value puts the node behind the others of its new name. -/
theorem advances_of_setsValue (hset : SetsValue s h value s')
    (hr : Registered s.workspace s.document) :
    s.workspace.claims.Advances s'.workspace.claims := by
  obtain ⟨c, hb, hw⟩ := hset.exists_claims
  have hclaims : s'.workspace.claims = s.reclaimed h c value := by rw [hw]
  rw [hclaims, reclaimed]
  split_ifs with hren
  · have hother : s.document.value h ≠ value := by
      rw [Bool.and_eq_true, decide_eq_true_eq] at hren
      exact hren.2
    intro name
    have hkept := Claims.candidates_release s.workspace.claims (s.document.value h) name h
    rw [Claims.candidates_register]
    have hsub : ((s.workspace.claims.release (s.document.value h) h).1.candidates name).Sublist
        (s.workspace.claims.candidates name) := by
      rw [hkept]
      split_ifs with hn
      · exact hn ▸ List.erase_sublist
      · exact List.Sublist.refl _
    split_ifs with hjoin
    · rw [← hjoin.1]
      refine ⟨_, [h], rfl, hsub, fun k hk hm => ?_⟩
      rw [List.mem_singleton.mp hk, hr.mem_candidates_iff] at hm
      exact hother (hm.2.1.trans hjoin.1)
    · exact ⟨_, [], (List.append_nil _).symm, hsub, by simp⟩
  · exact fun name => ⟨_, [], (List.append_nil _).symm, List.Sublist.refl _, by simp⟩

/-- With every request the lines advance. -/
theorem advances_answer (hs : Poised (s, none)) (hr : Registered s.workspace s.document)
    (r : Request) : s.workspace.claims.Advances (s.answer r).1.workspace.claims := by
  by_cases hset : ∃ h value, r = .setValue h value
  · obtain ⟨h, value, rfl⟩ := hset
    show s.workspace.claims.Advances (s.setValue h value).1.workspace.claims
    rcases setValue_cases hs.sane h value with ⟨fault, heq⟩ | ⟨s', heq, hset⟩
    · rw [heq]
      exact (Claims.Follows.refl _ _).advances hs.sane.known
    · rw [heq]
      exact advances_of_setsValue hset hr
  · have hm : Moves False False (s, none) ((s.answer r).1, none) :=
      moves_answer hs r not_false.elim fun h value he => hset ⟨h, value, he⟩
    exact (hm.follows hs).advances hs.sane.known

/-- In every session that arises without removing a text by itself, the registry of names is
exact: for every name but the empty one, exactly the bound nodes that show it and whose constraints
make it a name are in line, each of them once, and the empty name has no line. Whatever is asked
next, if the owner of a name loses it while others that were in line stay there, the next one of
these becomes the owner. -/
theorem registry_exact (ha : Arises SparesTexts s) (hm : s.workspace.model.Built) :
    (∀ name, name ≠ "" → (s.workspace.claims.candidates name).Nodup ∧
      ∀ h, h ∈ s.workspace.claims.candidates name ↔ ∃ c, s.workspace.binding? h = some c ∧
        s.workspace.isNaming c = true ∧ s.document.value h = name) ∧
    s.workspace.claims.lines.get? "" = none ∧
    ∀ (r : Request) (name : String) (h : Handle) (rest : List Handle),
      s.workspace.claims.candidates name = h :: rest →
      (s.answer r).1.workspace.claims.owner? name ≠ some h →
      (∃ k ∈ rest, k ∈ (s.answer r).1.workspace.claims.candidates name) →
      (s.answer r).1.workspace.claims.owner? name =
        rest.find? fun k => k ∈ (s.answer r).1.workspace.claims.candidates name := by
  have hk : Kempt False True s :=
    ha.kempt (fun _ _ _ hr => hr) hm.treeShaped not_false.elim
  have hproper := hk.poised.sane.proper
  have hr := hk.registered trivial
  refine ⟨fun name hname => ⟨hproper.nodup name, fun h => ?_⟩, hproper.unnamed, ?_⟩
  · rw [hr.mem_candidates_iff]
    constructor
    · rintro ⟨-, hv, c, hb, hn⟩
      exact ⟨c, hb, hn, hv⟩
    · rintro ⟨c, hb, hn, hv⟩
      exact ⟨hname, hv, c, hb, hn⟩
  · intro r name h rest hline hlost hleft
    exact (advances_answer hk.poised hr r).owner?_eq (hproper.nodup name) hline hlost hleft

/-- Once a twin is removed, the other one owns their name. -/
theorem owner?_of_removed_twin : twins.workspace.claims.owner? "ada" = some ⟨3⟩ ∧
    (twins.answer (.remove ⟨3⟩)).1.workspace.claims.owner? "ada" = some ⟨5⟩ := by
  obtain ⟨-, -, hnext⟩ := registry_exact arises_twins built_roster
  refine ⟨rfl, ?_⟩
  exact hnext (.remove ⟨3⟩) "ada" ⟨3⟩ [⟨5⟩] rfl (by decide) ⟨⟨5⟩, by decide, by decide⟩

end Session

end GuidedXml
