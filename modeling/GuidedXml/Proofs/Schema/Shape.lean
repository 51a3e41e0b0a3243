/-
# The shape of content models

A content model is built by adding constraints inside others, so its constraints form a tree. Where
no compositor but sequences and choices of elements is used and no name is used twice, the elements
of a content are single ones and the alternatives of choices, one choice after the other.

The main statements say how the elements of a content come from the constraints inside, and that the
alternatives of a choice stand next to each other.
-/
import GuidedXml.Schema.ContentModel
import Mathlib.Data.List.Nodup

namespace GuidedXml.Schema.ContentModel

variable {m : ContentModel} {i j k p : ConstraintId}

/-! ## Building -/

/-- A content model as it is built: the constraint of the root element, and then one constraint
after the other inside those that were there. What a constraint is about stays as it is. -/
inductive Built : ContentModel → Prop
  | ofRoot {c : Constraint} : c.kind = .element → Built (ofRoot c)
  | add {m : ContentModel} {p : ConstraintId} {c : Constraint} :
      Built m → p.index < m.entries.size → Built (m.add p c).1
  | modify {m : ContentModel} {i : ConstraintId} {f : Constraint → Constraint} :
      Built m → (∀ c, (f c).kind = c.kind) → Built (m.modify i f)

/-- Constraints list what is inside them, and what is inside came later. -/
structure TreeShaped (m : ContentModel) : Prop where
  kind?_root : m.kind? root = some .element
  parent?_of_mem : ∀ {p j}, j ∈ m.children p → m.parent? j = some p
  index_lt_of_mem : ∀ {p j}, j ∈ m.children p → p.index < j.index
  kind?_of_mem : ∀ {p j}, j ∈ m.children p → ∃ kind, m.kind? j = some kind ∧ kind ≠ .attribute
  kind?_of_mem_attributes : ∀ {p j}, j ∈ m.attributes p → m.kind? j = some .attribute
  nodup_children : ∀ p, (m.children p).Nodup

/-- There are no entries behind the last one. -/
theorem get?_eq_none_of_le (hi : m.entries.size ≤ i.index) : m.get? i = none :=
  Array.getElem?_eq_none hi

/-- There are no children behind the last entry. -/
theorem children_eq_nil_of_le (hi : m.entries.size ≤ i.index) : m.children i = [] := by
  simp [children, get?_eq_none_of_le hi]

/-- What has a kind is an entry. -/
theorem index_lt_of_kind? {kind : ConstraintKind} (hk : m.kind? i = some kind) :
    i.index < m.entries.size := by
  by_contra hi
  rw [kind?, get?_eq_none_of_le (by omega)] at hk
  simp at hk

/-- The constraint listed with its new place. -/
def listed (new : ConstraintId) (kind : ConstraintKind) (e : Entry) : Entry :=
  if kind = .attribute then { e with attributes := e.attributes ++ [new] }
  else { e with children := e.children ++ [new] }

/-- Adding puts one constraint behind all others and lists it in its parent. -/
theorem get?_add (m : ContentModel) (c : Constraint) (hp : p.index < m.entries.size)
    (i : ConstraintId) :
    (m.add p c).1.get? i =
      if i = ⟨m.entries.size⟩ then some { c with parent := some p }
      else if i = p then (m.get? i).map (listed ⟨m.entries.size⟩ c.kind) else m.get? i := by
  obtain ⟨i⟩ := i
  obtain ⟨p⟩ := p
  simp only [add, get?, Array.getElem?_modify, Array.getElem?_push, ConstraintId.mk.injEq] at hp ⊢
  by_cases hi : i = m.entries.size
  · subst hi
    rw [if_neg (by omega)]
    simp
  · by_cases hip : p = i
    · subst hip
      simp only [hi, if_false, if_true]
      rfl
    · simp [hi, hip, Ne.symm hip]

section Add

variable (c : Constraint) (hp : p.index < m.entries.size)

include hp

/-- A new constraint has its kind, and the others keep theirs. -/
theorem kind?_add (i : ConstraintId) :
    (m.add p c).1.kind? i = if i = ⟨m.entries.size⟩ then some c.kind else m.kind? i := by
  rw [kind?, kind?, get?_add m c hp]
  split_ifs with hi hip
  · rfl
  · cases m.get? i with
    | none => rfl
    | some e =>
      simp only [Option.map_some, listed]
      split_ifs <;> rfl
  · rfl

/-- A new constraint has its owner as parent, and the others keep theirs. -/
theorem parent?_add (i : ConstraintId) :
    (m.add p c).1.parent? i = if i = ⟨m.entries.size⟩ then some p else m.parent? i := by
  rw [parent?, parent?, get?_add m c hp]
  split_ifs with hi hip
  · rfl
  · cases m.get? i with
    | none => rfl
    | some e =>
      simp only [Option.map_some, Option.bind_some, listed]
      split_ifs <;> rfl
  · rfl

/-- One list of a constraint after adding: the new constraint has an empty one, and only that of its
parent may change. -/
theorem list_add (part : Entry → List ConstraintId) (hnew : part { c with parent := some p } = [])
    (i : ConstraintId) : (((m.add p c).1.get? i).map part).getD [] =
      if i = p then ((m.get? i).map fun e => part (listed ⟨m.entries.size⟩ c.kind e)).getD []
      else ((m.get? i).map part).getD [] := by
  rw [get?_add m c hp]
  by_cases hi : i = ⟨m.entries.size⟩
  · have hip : i ≠ p := by
      rintro rfl
      rw [hi] at hp
      exact Nat.lt_irrefl _ hp
    rw [if_pos hi, if_neg hip, get?_eq_none_of_le (Nat.le_of_eq (by rw [hi]))]
    exact hnew
  · rw [if_neg hi]
    by_cases hip : i = p
    · rw [if_pos hip, if_pos hip, Option.map_map]
      rfl
    · rw [if_neg hip, if_neg hip]

/-- A new constraint comes last among the children of its owner, unless it is an attribute. -/
theorem children_add (i : ConstraintId) :
    (m.add p c).1.children i =
      if i = p ∧ c.kind ≠ .attribute then m.children i ++ [⟨m.entries.size⟩] else m.children i := by
  rw [children, list_add c hp Entry.children rfl, children]
  by_cases hip : i = p
  · subst hip
    obtain ⟨e, he⟩ : ∃ e, m.get? i = some e := ⟨_, Array.getElem?_eq_getElem hp⟩
    rw [if_pos rfl, he]
    by_cases hk : c.kind = .attribute <;> simp [listed, hk]
  · rw [if_neg hip, if_neg (fun h => hip h.1)]

/-- A new attribute comes last among those of its owner. -/
theorem attributes_add (i : ConstraintId) :
    (m.add p c).1.attributes i =
      if i = p ∧ c.kind = .attribute then m.attributes i ++ [⟨m.entries.size⟩]
      else m.attributes i := by
  rw [attributes, list_add c hp Entry.attributes rfl, attributes]
  by_cases hip : i = p
  · subst hip
    obtain ⟨e, he⟩ : ∃ e, m.get? i = some e := ⟨_, Array.getElem?_eq_getElem hp⟩
    rw [if_pos rfl, he]
    by_cases hk : c.kind = .attribute <;> simp [listed, hk]
  · rw [if_neg hip, if_neg (fun h => hip h.1)]

end Add

/-- Kinds stay where a change keeps the kind. -/
theorem kind?_modify {f : Constraint → Constraint} (hf : ∀ c, (f c).kind = c.kind)
    (i j : ConstraintId) : (m.modify i f).kind? j = m.kind? j := by
  rw [kind?, kind?, get?_modify]
  split_ifs
  · cases m.get? j with
    | none => rfl
    | some e => simp [hf]
  · rfl

/-- A change of a constraint moves nothing. -/
theorem places_modify (f : Constraint → Constraint) (i j : ConstraintId) :
    (m.modify i f).parent? j = m.parent? j ∧ (m.modify i f).children j = m.children j ∧
      (m.modify i f).attributes j = m.attributes j := by
  rw [parent?, parent?, children, children, attributes, attributes, get?_modify]
  split_ifs
  · cases m.get? j <;> simp
  · simp

/-- The constraint of a root alone. -/
theorem treeShaped_ofRoot {c : Constraint} (hk : c.kind = .element) : (ofRoot c).TreeShaped := by
  have hget : ∀ i, (ofRoot c).get? i = if i = root then some { c with } else none := by
    rintro ⟨i⟩
    cases i with
    | zero => rfl
    | succ i => simp [get?, ofRoot, root]
  have hchildren : ∀ i, (ofRoot c).children i = [] := by
    intro i
    rw [children, hget]
    split <;> rfl
  have hattributes : ∀ i, (ofRoot c).attributes i = [] := by
    intro i
    rw [attributes, hget]
    split <;> rfl
  refine ⟨?_, ?_, ?_, ?_, ?_, ?_⟩
  · rw [kind?, hget, if_pos rfl]
    exact congrArg some hk
  all_goals simp [hchildren, hattributes]

namespace TreeShaped

/-- What is inside a constraint came before the one that is added next. -/
theorem ne_next (hm : m.TreeShaped) (hj : j ∈ m.children i) : j ≠ ⟨m.entries.size⟩ := by
  rintro rfl
  obtain ⟨kind, hkind, -⟩ := hm.kind?_of_mem hj
  exact Nat.lt_irrefl _ (index_lt_of_kind? hkind)

/-- No attribute is the number that is free next. -/
theorem ne_next_of_mem_attributes (hm : m.TreeShaped) (hj : j ∈ m.attributes i) :
    j ≠ ⟨m.entries.size⟩ := by
  rintro rfl
  exact Nat.lt_irrefl _ (index_lt_of_kind? (hm.kind?_of_mem_attributes hj))

/-- A constraint may be added inside any other one. -/
theorem add (hm : m.TreeShaped) (c : Constraint) (hp : p.index < m.entries.size) :
    (m.add p c).1.TreeShaped := by
  -- what is listed is listed as before, or it is the new constraint under its owner
  have hnew : ∀ {q j}, j ∈ (m.add p c).1.children q → j ∈ m.children q ∨
      (q = p ∧ j = ⟨m.entries.size⟩ ∧ c.kind ≠ .attribute) := by
    intro q j hj
    rw [children_add c hp] at hj
    split_ifs at hj with hq
    · rcases List.mem_append.mp hj with hj | hj
      · exact Or.inl hj
      · exact Or.inr ⟨hq.1, List.mem_singleton.mp hj, hq.2⟩
    · exact Or.inl hj
  refine ⟨?_, ?_, ?_, ?_, ?_, ?_⟩
  · rw [kind?_add c hp, if_neg, hm.kind?_root]
    intro h
    have := congrArg ConstraintId.index h
    simp only [root] at this
    omega
  · intro q j hj
    rw [parent?_add c hp]
    rcases hnew hj with hj | ⟨rfl, rfl, -⟩
    · rw [if_neg (hm.ne_next hj), hm.parent?_of_mem hj]
    · rw [if_pos rfl]
  · intro q j hj
    rcases hnew hj with hj | ⟨rfl, rfl, -⟩
    · exact hm.index_lt_of_mem hj
    · exact hp
  · intro q j hj
    rw [kind?_add c hp]
    rcases hnew hj with hj | ⟨-, rfl, hk⟩
    · rw [if_neg (hm.ne_next hj)]
      exact hm.kind?_of_mem hj
    · rw [if_pos rfl]
      exact ⟨c.kind, rfl, hk⟩
  · intro q j hj
    rw [attributes_add c hp] at hj
    rw [kind?_add c hp]
    split_ifs at hj with hq
    · rcases List.mem_append.mp hj with hj | hj
      · rw [if_neg (hm.ne_next_of_mem_attributes hj), hm.kind?_of_mem_attributes hj]
      · rw [List.mem_singleton.mp hj, if_pos rfl, hq.2]
    · rw [if_neg (hm.ne_next_of_mem_attributes hj), hm.kind?_of_mem_attributes hj]
  · intro q
    rw [children_add c hp]
    split_ifs with hq
    · rw [List.nodup_append]
      refine ⟨hm.nodup_children q, by simp, ?_⟩
      intro a ha b hb
      rw [List.mem_singleton.mp hb]
      exact hm.ne_next ha
    · exact hm.nodup_children q

/-- What a constraint says may change, apart from its kind. -/
theorem modify {f : Constraint → Constraint} (hm : m.TreeShaped) (i : ConstraintId)
    (hf : ∀ c, (f c).kind = c.kind) : (m.modify i f).TreeShaped := by
  have hplaces := fun j => places_modify (m := m) f i j
  refine ⟨?_, ?_, ?_, ?_, ?_, ?_⟩
  · rw [kind?_modify hf, hm.kind?_root]
  · intro q j hj
    rw [(hplaces q).2.1] at hj
    rw [(hplaces j).1, hm.parent?_of_mem hj]
  · intro q j hj
    rw [(hplaces q).2.1] at hj
    exact hm.index_lt_of_mem hj
  · intro q j hj
    rw [(hplaces q).2.1] at hj
    rw [kind?_modify hf]
    exact hm.kind?_of_mem hj
  · intro q j hj
    rw [(hplaces q).2.2] at hj
    rw [kind?_modify hf, hm.kind?_of_mem_attributes hj]
  · intro q
    rw [(hplaces q).2.1]
    exact hm.nodup_children q

end TreeShaped

/-- Content models that are built are trees. -/
theorem Built.treeShaped (hm : m.Built) : m.TreeShaped := by
  induction hm with
  | ofRoot hk => exact treeShaped_ofRoot hk
  | add _ hp ih => exact ih.add _ hp
  | modify _ hf ih => exact ih.modify _ hf

/-! ## Contents -/

/-- What a constraint adds to the elements of the content that it is in. -/
def contentPart (m : ContentModel) (c : ConstraintId) : List ConstraintId :=
  match m.kind? c with
  | some .element => [c]
  | some .attribute => []
  | some _ => m.contentElements c
  | none => []

/-- Fuel beyond the number of later constraints changes nothing. -/
theorem contentElementsAux_eq (hm : m.TreeShaped) (n fuel fuel' : Nat) (i : ConstraintId)
    (hi : m.entries.size - i.index ≤ n) (hn : n ≤ fuel) (hn' : n ≤ fuel') :
    m.contentElementsAux fuel i = m.contentElementsAux fuel' i := by
  induction n generalizing fuel fuel' i with
  | zero =>
    have hnil : ∀ fuel, m.contentElementsAux fuel i = [] := by
      intro fuel
      cases fuel with
      | zero => rfl
      | succ fuel => rw [contentElementsAux, children_eq_nil_of_le (by omega), List.flatMap_nil]
    rw [hnil, hnil]
  | succ n ih =>
    obtain ⟨f, rfl⟩ : ∃ f, fuel = f + 1 := ⟨fuel - 1, by omega⟩
    obtain ⟨f', rfl⟩ : ∃ f, fuel' = f + 1 := ⟨fuel' - 1, by omega⟩
    rw [contentElementsAux, contentElementsAux, List.flatMap_def, List.flatMap_def]
    congr 1
    apply List.map_congr_left
    intro c hc
    have hlt := hm.index_lt_of_mem hc
    rw [ih f f' c (by omega) (by omega) (by omega)]

/-- The elements of a content are those that the constraints inside add. -/
theorem contentElements_eq (hm : m.TreeShaped) (i : ConstraintId) :
    m.contentElements i = (m.children i).flatMap m.contentPart := by
  rw [contentElements]
  cases hs : m.entries.size with
  | zero => rw [contentElementsAux, children_eq_nil_of_le (by omega), List.flatMap_nil]
  | succ n =>
    rw [contentElementsAux, List.flatMap_def, List.flatMap_def]
    congr 1
    apply List.map_congr_left
    intro c hc
    have hlt := hm.index_lt_of_mem hc
    have hdeep : m.contentElementsAux n c = m.contentElements c := by
      rw [contentElements, hs]
      exact contentElementsAux_eq hm n n (n + 1) c (by omega) (by omega) (by omega)
    rw [hdeep]
    rfl

/-! ## Flat and unambiguous content models -/

/-- No groups, choices only between elements, no name twice in a content, and no empty bounds. -/
structure FlatUnambiguous (m : ContentModel) : Prop where
  no_group : ∀ i, m.kind? i ≠ some .group
  choice_nonempty : ∀ i, m.kind? i = some .choice → m.children i ≠ []
  choice_elements : ∀ i, m.kind? i = some .choice → ∀ j ∈ m.children i, m.kind? j = some .element
  nodup_names : ∀ i, m.kind? i = some .element → ((m.contentElements i).map m.name).Nodup
  min_le_max : ∀ i, ∀ n ∈ (m.occurs i).max, (m.occurs i).min ≤ n

/-- Only the constraints that there are need to be looked at. -/
theorem flatUnambiguous_iff : m.FlatUnambiguous ↔ ∀ n < m.entries.size,
    m.kind? ⟨n⟩ ≠ some .group ∧
    (m.kind? ⟨n⟩ = some .choice → m.children ⟨n⟩ ≠ [] ∧
      ∀ j ∈ m.children ⟨n⟩, m.kind? j = some .element) ∧
    (m.kind? ⟨n⟩ = some .element → ((m.contentElements ⟨n⟩).map m.name).Nodup) ∧
    ∀ k ∈ (m.occurs ⟨n⟩).max, (m.occurs ⟨n⟩).min ≤ k := by
  constructor
  · intro hf n _
    exact ⟨hf.no_group _, fun hk => ⟨hf.choice_nonempty _ hk, hf.choice_elements _ hk⟩,
      hf.nodup_names _, hf.min_le_max _⟩
  · intro hall
    refine ⟨?_, ?_, ?_, ?_, ?_⟩
    · intro i hk
      exact (hall i.index (index_lt_of_kind? hk)).1 hk
    · intro i hk
      exact ((hall i.index (index_lt_of_kind? hk)).2.1 hk).1
    · intro i hk
      exact ((hall i.index (index_lt_of_kind? hk)).2.1 hk).2
    · intro i hk
      exact (hall i.index (index_lt_of_kind? hk)).2.2.1 hk
    · intro i
      by_cases hi : i.index < m.entries.size
      · exact (hall i.index hi).2.2.2
      · rw [occurs, get?_eq_none_of_le (by omega)]
        intro n hn
        obtain rfl : 1 = n := Option.some.inj hn
        exact Nat.le_refl 1

instance : Decidable m.FlatUnambiguous :=
  decidable_of_iff _ flatUnambiguous_iff.symm

/-- One element is enough of every alternative of a choice. -/
def ModestChoices (m : ContentModel) : Prop :=
  ∀ i, m.isInChoice i = true → (m.occurs i).min ≤ 1

/-- Choices are modest exactly if nothing in one is required twice. -/
theorem modestChoices_iff : m.ModestChoices ↔
    ∀ n < m.entries.size, m.isInChoice ⟨n⟩ = true → (m.occurs ⟨n⟩).min ≤ 1 := by
  constructor
  · exact fun hm n _ => hm ⟨n⟩
  · intro hall i hin
    by_cases hi : i.index < m.entries.size
    · exact hall i.index hi hin
    · rw [isInChoice, choice?, parent?, get?_eq_none_of_le (by omega)] at hin
      simp at hin

instance : Decidable m.ModestChoices :=
  decidable_of_iff _ modestChoices_iff.symm

/-- The first alternative of every choice has to be there where it is chosen. -/
def FirmChoices (m : ContentModel) : Prop :=
  ∀ p, m.kind? p = some .choice → ∀ first, (m.children p).head? = some first →
    0 < (m.occurs first).min

/-- Choices are firm exactly if the first alternative of each is required. -/
theorem firmChoices_iff : m.FirmChoices ↔ ∀ n < m.entries.size, m.kind? ⟨n⟩ = some .choice →
    ∀ first ∈ (m.children ⟨n⟩).head?, 0 < (m.occurs first).min :=
  ⟨fun hm n _ => hm ⟨n⟩, fun hall p hk => hall p.index (index_lt_of_kind? hk) hk⟩

instance : Decidable m.FirmChoices :=
  decidable_of_iff _ firmChoices_iff.symm

/-- No element declares an attribute name twice. -/
def AttributesDistinct (m : ContentModel) : Prop :=
  ∀ i, m.kind? i = some .element → ((m.attributes i).map m.name).Nodup

/-- Attributes are distinct exactly if no element has two of one name. -/
theorem attributesDistinct_iff : m.AttributesDistinct ↔ ∀ n < m.entries.size,
    m.kind? ⟨n⟩ = some .element → ((m.attributes ⟨n⟩).map m.name).Nodup :=
  ⟨fun hm n _ => hm ⟨n⟩, fun hall i hk => hall i.index (index_lt_of_kind? hk) hk⟩

instance : Decidable m.AttributesDistinct :=
  decidable_of_iff _ attributesDistinct_iff.symm

/-- A single element, or all alternatives of a choice. -/
inductive IsBlock (m : ContentModel) : List ConstraintId → Prop
  | single {j : ConstraintId} : m.kind? j = some .element → m.choice? j = none → IsBlock m [j]
  | choice {p : ConstraintId} : m.kind? p = some .choice → IsBlock m (m.children p)

/-- The elements of a choice are its alternatives. -/
theorem contentElements_of_choice (hm : m.TreeShaped) (hf : m.FlatUnambiguous)
    (hp : m.kind? p = some .choice) : m.contentElements p = m.children p := by
  have hsingle : ∀ j ∈ m.children p, m.contentPart j = [j] := by
    intro j hj
    rw [contentPart, hf.choice_elements p hp j hj]
  rw [contentElements_eq hm]
  generalize m.children p = js at hsingle
  induction js with
  | nil => rfl
  | cons j js ih =>
    rw [List.flatMap_cons, hsingle j (List.mem_cons_self ..),
      ih fun j' hj' => hsingle j' (List.mem_cons_of_mem _ hj')]
    rfl

/-- The constraints fall into blocks. -/
def Blocked (m : ContentModel) (js : List ConstraintId) : Prop :=
  ∃ bs : List (List ConstraintId), js = bs.flatten ∧ ∀ b ∈ bs, IsBlock m b

/-- A block falls into blocks. -/
theorem IsBlock.blocked {b : List ConstraintId} (hb : IsBlock m b) : m.Blocked b := by
  refine ⟨[b], List.flatten_singleton.symm, ?_⟩
  intro b' hb'
  rwa [List.mem_singleton.mp hb']

/-- What falls into blocks piece by piece does so as a whole. -/
theorem blocked_flatMap {cs : List ConstraintId} {f : ConstraintId → List ConstraintId}
    (hf : ∀ c ∈ cs, m.Blocked (f c)) : m.Blocked (cs.flatMap f) := by
  induction cs with
  | nil => exact ⟨[], rfl, by simp⟩
  | cons c cs ih =>
    obtain ⟨bs, hbs, hblocks⟩ := hf c (List.mem_cons_self ..)
    obtain ⟨rest, hrest, hrests⟩ := ih fun c' hc' => hf c' (List.mem_cons_of_mem _ hc')
    refine ⟨bs ++ rest, ?_, ?_⟩
    · rw [List.flatMap_cons, hbs, hrest, List.flatten_append]
    · intro b hb
      rcases List.mem_append.mp hb with hb | hb
      · exact hblocks b hb
      · exact hrests b hb

/-- A content is made of blocks. -/
theorem blocked_contentElements (hm : m.TreeShaped) (hf : m.FlatUnambiguous) (i : ConstraintId)
    (hi : m.kind? i ≠ some .choice) : m.Blocked (m.contentElements i) := by
  -- what is inside came later, so the induction is on the number of later constraints
  obtain ⟨n, hn⟩ : ∃ n, m.entries.size - i.index ≤ n := ⟨_, Nat.le_refl _⟩
  induction n generalizing i with
  | zero =>
    rw [contentElements_eq hm, children_eq_nil_of_le (by omega)]
    exact ⟨[], rfl, by simp⟩
  | succ n ih =>
    rw [contentElements_eq hm]
    apply blocked_flatMap
    intro c hc
    have hlt := hm.index_lt_of_mem hc
    obtain ⟨kind, hkind, hne⟩ := hm.kind?_of_mem hc
    rw [contentPart, hkind]
    cases kind with
    | element =>
      refine (IsBlock.single hkind ?_).blocked
      rw [choice?, hm.parent?_of_mem hc]
      simp [Option.filter, hi]
    | «attribute» => exact absurd rfl hne
    | sequence => exact ih c (by rw [hkind]; simp) (by omega)
    | group => exact absurd hkind (hf.no_group c)
    | choice =>
      show m.Blocked (m.contentElements c)
      rw [contentElements_of_choice hm hf hkind]
      exact (IsBlock.choice hkind).blocked

end GuidedXml.Schema.ContentModel
