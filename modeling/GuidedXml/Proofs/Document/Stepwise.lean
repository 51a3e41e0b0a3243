/-
# Operations step by step

The operations on a document are given as functions that either lead to another document or say why
not, so that a refusal seems to change nothing by its type. Here each of them is a course of checks
and changes in the order in which they are made, and what was changed before a refusal stays
changed. Both come to the same on every document that can be made.

The main statement says that a refused operation leaves every node as it was, but for one:
installing an outermost element takes out the old one before it looks at the new one.
-/
import GuidedXml.Proofs.Document.Arena

namespace GuidedXml.Document

variable {α β : Type} {d d' : Document} {h p c old element attr : Handle}

/-! ## Courses -/

/-- Steps on a document one after the other, until one of them is refused. The changes made up to
there are not taken back. -/
abbrev Course (α : Type) := ExceptT Fault (StateM Document) α

namespace Course

/-- What a course comes to: its result or the refusal, and the document that is left. -/
def outcome (x : Course α) (d : Document) : Except Fault α × Document :=
  x.run.run d

@[simp] theorem outcome_pure (a : α) (d : Document) : outcome (pure a) d = (.ok a, d) := rfl

@[simp] theorem outcome_throw (fault : Fault) (d : Document) :
    outcome (throw fault : Course α) d = (.error fault, d) := rfl

@[simp] theorem outcome_get (d : Document) : outcome (get : Course Document) d = (.ok d, d) := rfl

@[simp] theorem outcome_modify (f : Document → Document) (d : Document) :
    outcome (modify f : Course PUnit) d = (.ok ⟨⟩, f d) := rfl

/-- A refusal ends the course; otherwise it goes on with the result and the document so far. -/
theorem outcome_bind (x : Course α) (f : α → Course β) (d : Document) :
    outcome (x >>= f) d = match outcome x d with
      | (.ok a, d') => outcome (f a) d'
      | (.error fault, d') => (.error fault, d') := by
  simp only [outcome, ExceptT.run_bind, StateT.run_bind]
  rcases x.run.run d with ⟨_ | a, d'⟩ <;> rfl

/-- A function of the answer changes neither the document nor a refusal. -/
theorem outcome_map (f : α → β) (x : Course α) (d : Document) :
    outcome (f <$> x) d = match outcome x d with
      | (.ok a, d') => (.ok (f a), d')
      | (.error fault, d') => (.error fault, d') := by
  rw [← bind_pure_comp, outcome_bind]
  rcases outcome x d with ⟨_ | a, d'⟩ <;> rfl

/-- After an answer a course goes on from the document that is left. -/
theorem outcome_bind_ok {x : Course α} {a : α} (hx : outcome x d = (.ok a, d')) (f : α → Course β) :
    outcome (x >>= f) d = outcome (f a) d' := by
  rw [outcome_bind, hx]

/-- After a refusal a course does not go on. -/
theorem outcome_bind_error {x : Course α} {fault : Fault} (hx : outcome x d = (.error fault, d'))
    (f : α → Course β) : outcome (x >>= f) d = (.error fault, d') := by
  rw [outcome_bind, hx]

/-! ## Steps -/

/-- What is stored for a node that has to be live. -/
def look (h : Handle) : Course Node := do
  match (← get).node? h with
  | none => throw (.nodeNotFound h)
  | some n => pure n

/-- Change what is stored for a node that has to be live. -/
def change (h : Handle) (f : Node → Node) : Course PUnit := do
  let _ ← look h
  modify fun d => d.update h f

/-- Go on only if the condition holds. -/
def require (condition : Bool) (fault : Fault) : Course PUnit :=
  if condition then pure ⟨⟩ else throw fault

/-- Go on only with a result. -/
def demand (result : Option α) (fault : Fault) : Course α :=
  match result with
  | none => throw fault
  | some a => pure a

/-- Go on only if `child` can be placed under `parent`. -/
def checkPlacement (parent child : Handle) : Course PUnit := do
  match (← get).placementFault? parent child with
  | none => pure ⟨⟩
  | some fault => throw fault

/-- Store a new node. -/
def make (create : Document → Document × Handle) : Course Handle := do
  let (d, h) := create (← get)
  set d
  pure h

section Steps

variable {n : Node} {fault : Fault}

/-- A node that lives is found. -/
theorem outcome_look (hn : d.node? h = some n) : outcome (look h) d = (.ok n, d) := by
  simp [look, outcome_bind, hn]

/-- A node that does not live is refused by its handle. -/
theorem outcome_look_dead (hn : d.node? h = none) :
    outcome (look h) d = (.error (.nodeNotFound h), d) := by
  simp [look, outcome_bind, hn]

/-- A node that lives is changed. -/
theorem outcome_change (hc : d.contains h = true) (f : Node → Node) :
    outcome (change h f) d = (.ok ⟨⟩, d.update h f) := by
  obtain ⟨n, hn⟩ := contains_iff.mp hc
  rw [change, outcome_bind_ok (outcome_look hn), outcome_modify]

/-- A change of a node that does not live is refused. -/
theorem outcome_change_dead (hn : d.node? h = none) (f : Node → Node) :
    outcome (change h f) d = (.error (.nodeNotFound h), d) := by
  rw [change, outcome_bind_error (outcome_look_dead hn)]

@[simp] theorem outcome_require_true (fault : Fault) (d : Document) :
    outcome (require true fault) d = (.ok ⟨⟩, d) := rfl

@[simp] theorem outcome_require_false (fault : Fault) (d : Document) :
    outcome (require false fault) d = (.error fault, d) := rfl

@[simp] theorem outcome_demand_some (a : α) (fault : Fault) (d : Document) :
    outcome (demand (some a) fault) d = (.ok a, d) := rfl

@[simp] theorem outcome_demand_none (fault : Fault) (d : Document) :
    outcome (demand none fault : Course α) d = (.error fault, d) := rfl

/-- A placement without fault passes the check. -/
theorem outcome_checkPlacement (hf : d.placementFault? p c = none) :
    outcome (checkPlacement p c) d = (.ok ⟨⟩, d) := by
  simp [checkPlacement, outcome_bind, hf]

/-- A placement with a fault is refused with it. -/
theorem outcome_checkPlacement_fault (hf : d.placementFault? p c = some fault) :
    outcome (checkPlacement p c) d = (.error fault, d) := by
  simp [checkPlacement, outcome_bind, hf]

/-- Making a node always succeeds. -/
@[simp] theorem outcome_make (create : Document → Document × Handle) (d : Document) :
    outcome (make create) d = (.ok (create d).2, (create d).1) := rfl

end Steps

/-! ## Operations -/

/-- List `child` under `parent` as `arrange` says, and then give it its parent. -/
def adopt (parent child : Handle) (arrange : List Handle → List Handle) : Course PUnit := do
  change parent fun n => { n with children := arrange n.children }
  change child fun n => { n with parent := some parent }

/-- Place `child` after all children of `parent`. -/
def append (parent child : Handle) : Course PUnit := do
  checkPlacement parent child
  adopt parent child (· ++ [child])

/-- The place of the child just after `previous`, or of the first one if that is `none`. -/
def placeAfter (parent : Handle) : Option Handle → Course Nat
  | none => pure 0
  | some previous => do
    let index ← demand (((← get).children parent).idxOf? previous) (.notAChild previous parent)
    pure (index + 1)

/-- Place `child` just after `previous`, or before all children if that is `none`. -/
def insertAfter (parent : Handle) (previous : Option Handle) (child : Handle) : Course PUnit := do
  checkPlacement parent child
  let index ← placeAfter parent previous
  adopt parent child (·.insertIdx index child)

/-- Place `replacement` where `old` is, and take `old` out. -/
def replaceChild (parent old replacement : Handle) : Course PUnit := do
  checkPlacement parent replacement
  let index ← demand (((← get).children parent).idxOf? old) (.notAChild old parent)
  adopt parent replacement (·.set index replacement)
  change old fun n => { n with parent := none }

/-- Take a node out of its parent. -/
def detach (h : Handle) : Course PUnit := do
  let n ← look h
  match n.parent with
  | none => pure ⟨⟩
  | some p =>
    change p fun m =>
      if n.kind = .attribute then { m with attributes := m.attributes.filter (· ≠ h) }
      else { m with children := m.children.filter (· ≠ h) }
    change h fun m => { m with parent := none }

/-- Take out the outermost element, if there is one. -/
def clearRoot : Course PUnit := do
  match (← get).root? with
  | none => pure ⟨⟩
  | some r => detach r

/-- Install the outermost element: the old one is taken out, and only then it is seen whether the
new one can be placed. -/
def setRoot (element : Handle) : Course PUnit := do
  clearRoot
  append top element

/-- List an attribute, in the place of the one that it displaces if there is one. -/
def listAttribute (element attr : Handle) : Option Handle → Course PUnit
  | none => change element fun m => { m with attributes := m.attributes ++ [attr] }
  | some old => do
    let index ← demand ((← get).indexInParent? old) (.notAChild old element)
    change element fun m => { m with attributes := m.attributes.set index attr }
    change old fun m => { m with parent := none }

/-- Give an element an attribute, in the place of one of the same name if there is one. -/
def placeAttribute (element attr : Handle) : Course (Option Handle) := do
  require ((← get).isElement element) (.notAnElement element)
  let n ← look attr
  require (n.kind = .attribute) (.invalidChild attr)
  require n.parent.isNone (.stillAttached attr)
  let displaced := (← get).attribute? element n.name
  listAttribute element attr displaced
  change attr fun m => { m with parent := some element }
  pure displaced

/-- Set the value of the attribute of that name, which is made if it is missing. -/
def setAttribute (element : Handle) (name value : String) : Course Handle := do
  match (← get).attribute? element name with
  | some a =>
    change a fun n => { n with value := value }
    pure a
  | none =>
    let a ← make (createAttribute · name value)
    let _ ← placeAttribute element a
    pure a

/-- Take out the attribute of that name, if there is one. -/
def removeAttribute (element : Handle) (name : String) : Course (Option Handle) := do
  require ((← get).isElement element) (.notAnElement element)
  match (← get).attribute? element name with
  | none => pure none
  | some a =>
    detach a
    pure (some a)

/-- Change the text that a leaf shows. An element without a text gets one after its children. -/
def setValue (h : Handle) (value : String) : Course PUnit := do
  let n ← look h
  match n.kind with
  | .attribute | .text => change h fun n => { n with value := value }
  | .element =>
    match ((← get).children h).find? (← get).isText with
    | some t => change t fun n => { n with value := value }
    | none =>
      let t ← make (createText · value)
      append h t
  | .document => throw (.notAnElement h)

/-- Remove a subtree that belongs to no parent. Once that is checked nothing is refused any more. -/
def discard (h : Handle) : Course PUnit := do
  let n ← look h
  require n.parent.isNone (.stillAttached h)
  modify fun d => (d.subtree h).foldl drop d

/-- Copy the subtree of a node of another document, not yet placed. -/
def copyFrom (source : Document) (h : Handle) : Course Handle := do
  let t ← demand (source.content? h) (.nodeNotFound h)
  make (write · t)

end Course

/-! ## The steps come to what the operations come to -/

/-- Only what is stored for the node matters for a change. -/
theorem update_congr {f g : Node → Node} (hfg : ∀ n, d.node? h = some n → f n = g n) :
    d.update h f = d.update h g := by
  have hslot : (d.slots[h.index]?).map (Option.map f) = (d.slots[h.index]?).map (Option.map g) := by
    cases hs : d.slots[h.index]? with
    | none => rfl
    | some slot =>
      cases slot with
      | none => rfl
      | some n => simp [hfg n (by simp [node?, hs])]
  rw [update, update]
  congr 1
  refine Array.ext_getElem? fun i => ?_
  rw [Array.getElem?_modify, Array.getElem?_modify]
  split_ifs with hi
  · rw [← hi]
    exact hslot
  · rfl

/-- Changing a node neither kills nor revives any. -/
theorem contains_update (d : Document) (h k : Handle) (f : Node → Node) :
    (d.update h f).contains k = d.contains k := by
  simp only [contains, node?_update]
  split <;> simp

/-- The children of a node are those it lists. -/
theorem children_of_node? {n : Node} (hn : d.node? h = some n) : d.children h = n.children := by
  simp [children, hn]

/-- A text lives. -/
theorem contains_of_isText (ht : d.isText h = true) : d.contains h = true := by
  rw [contains_eq_isSome_kind?]
  simp only [isText, decide_eq_true_eq] at ht
  rw [ht]
  rfl

/-- A node above another one is the parent of some node. -/
theorem exists_parent?_of_mem_ancestorsAux {fuel : Nat} {k : Handle}
    (hk : k ∈ d.ancestorsAux fuel h) : ∃ x, d.parent? x = some k := by
  induction fuel generalizing h with
  | zero => simp [ancestorsAux] at hk
  | succ fuel ih =>
    rw [ancestorsAux] at hk
    cases hp : d.parent? h with
    | none => simp [hp] at hk
    | some p =>
      rw [hp] at hk
      rcases List.mem_cons.mp hk with rfl | hk
      · exact ⟨h, hp⟩
      · exact ih hk

/-- A new text can be placed under any element. -/
theorem Made.placeable_text (hd : Made d) (he : d.isElement h = true) (value : String) :
    (d.createText value).1.Placeable h d.next := by
  have hext : Extends d (d.createText value).1 := extends_push d _
  have hnew : (d.createText value).1.node? d.next = some { kind := .text, value := value } := by
    rw [createText, node?_push, if_pos rfl]
  refine ⟨Or.inl ?_, Or.inr ?_, ?_, fun habove => ?_⟩
  · rw [isElement_congr (hext.lookups (contains_of_isElement he)).1, he]
  · simp [isText, kind?, hnew]
  · simp [parent?, hnew]
  · rcases List.mem_cons.mp habove with heq | hmem
    · exact ne_next_of_contains (contains_of_isElement he) heq.symm
    · -- whatever is above a node was its parent before the text was made
      obtain ⟨x, hx⟩ := exists_parent?_of_mem_ancestorsAux hmem
      have hne : x ≠ d.next := by
        rintro rfl
        simp [parent?, hnew] at hx
      have hold : d.parent? x = some d.next := by
        rwa [parent?, createText, node?_push, if_neg hne, ← parent?] at hx
      exact ne_next_of_contains (hd.consistent.listed hold).1 rfl

/-- What an operation comes to that changes nothing if it is refused. -/
def answer (d : Document) : Except Fault (Document × α) → Except Fault α × Document
  | .error fault => (.error fault, d)
  | .ok r => (.ok r.2, r.1)

/-- The answer of an operation without a result. -/
def done (d : Document) (r : Except Fault Document) : Except Fault PUnit × Document :=
  answer d (r.map (·, ⟨⟩))

@[simp] theorem answer_error (d : Document) (fault : Fault) :
    (answer d (.error fault) : Except Fault α × Document) = (.error fault, d) := rfl

@[simp] theorem answer_ok (d : Document) (r : Document × α) :
    answer d (.ok r) = (.ok r.2, r.1) := rfl

@[simp] theorem done_error (d : Document) (fault : Fault) :
    done d (.error fault) = (.error fault, d) := rfl

@[simp] theorem done_ok (d d' : Document) : done d (.ok d') = (.ok ⟨⟩, d') := rfl

namespace Course

/-- What can be placed is placed as arranged. -/
theorem outcome_adopt (hpl : d.Placeable p c) (arrange : List Handle → List Handle) :
    outcome (adopt p c arrange) d = (.ok ⟨⟩, d.link p c (arrange (d.children p))) := by
  have hlisted : (d.update p fun n => { n with children := arrange n.children }) =
      d.update p fun n => { n with children := arrange (d.children p) } :=
    update_congr fun n hn => by rw [children_of_node? hn]
  rw [adopt, outcome_bind_ok (outcome_change hpl.contains_parent _), hlisted,
    outcome_change (by rw [contains_update]; exact hpl.contains_child), link]

/-- The steps of appending come to the same as appending. -/
theorem outcome_append (d : Document) (p c : Handle) :
    outcome (append p c) d = done d (d.append p c) := by
  cases hf : d.placementFault? p c with
  | some fault =>
    rw [append, outcome_bind_error (outcome_checkPlacement_fault hf)]
    simp [Document.append, hf]
  | none =>
    rw [append, outcome_bind_ok (outcome_checkPlacement hf),
      outcome_adopt (placementFault?_eq_none_iff.mp hf)]
    simp [Document.append, hf]

/-- So do those of inserting a node after another one. -/
theorem outcome_insertAfter (d : Document) (p : Handle) (q : Option Handle) (c : Handle) :
    outcome (insertAfter p q c) d = done d (d.insertAfter p q c) := by
  cases hf : d.placementFault? p c with
  | some fault =>
    rw [insertAfter, outcome_bind_error (outcome_checkPlacement_fault hf)]
    simp [Document.insertAfter, hf]
  | none =>
    have hpl := placementFault?_eq_none_iff.mp hf
    rw [insertAfter, outcome_bind_ok (outcome_checkPlacement hf)]
    cases q with
    | none => simp [placeAfter, outcome_adopt hpl, Document.insertAfter, hf]
    | some q =>
      cases hi : (d.children p).idxOf? q <;>
        simp [placeAfter, outcome_bind, outcome_adopt hpl, Document.insertAfter, hf, hi]

/-- So do those of replacing a child, in consistent documents. -/
theorem outcome_replaceChild (hd : d.Consistent) (p old c : Handle) :
    outcome (replaceChild p old c) d = done d (d.replaceChild p old c) := by
  cases hf : d.placementFault? p c with
  | some fault =>
    rw [replaceChild, outcome_bind_error (outcome_checkPlacement_fault hf)]
    simp [Document.replaceChild, hf]
  | none =>
    have hpl := placementFault?_eq_none_iff.mp hf
    rw [replaceChild, outcome_bind_ok (outcome_checkPlacement hf)]
    cases hi : (d.children p).idxOf? old with
    | none => simp [outcome_bind, Document.replaceChild, hf, hi]
    | some i =>
      have hmem : old ∈ d.children p := by
        obtain ⟨xs, ys, hsplit, -⟩ := exists_split_of_idxOf? hi
        simp [hsplit]
      have hold : d.contains old = true := contains_of_parent? (hd.children hmem).2
      have hlive : (d.link p c ((d.children p).set i c)).contains old = true := by
        rw [link, contains_update, contains_update, hold]
      simp [outcome_bind, outcome_adopt hpl, outcome_change hlive, Document.replaceChild, hf, hi]

/-- So do those of detaching a node. -/
theorem outcome_detach (d : Document) (h : Handle) :
    outcome (detach h) d = done d (d.detach h) := by
  cases hn : d.node? h with
  | none =>
    rw [detach, outcome_bind_error (outcome_look_dead hn)]
    simp [Document.detach, hn]
  | some n =>
    rw [detach, outcome_bind_ok (outcome_look hn)]
    cases hp : n.parent with
    | none => simp [Document.detach, hn, hp]
    | some p =>
      cases hc : d.node? p with
      | none =>
        simp [outcome_bind, outcome_change_dead hc, Document.detach, hn, hp, contains, hc]
      | some m =>
        have hlive : d.contains p = true := contains_iff.mpr ⟨m, hc⟩
        have hin : ∀ f, (d.update p f).contains h = true := fun f => by
          rw [contains_update]
          exact contains_iff.mpr ⟨n, hn⟩
        simp [outcome_bind, outcome_change hlive, outcome_change (hin _), Document.detach, hn, hp,
          hlive]

/-- So do those of setting the root, which leave the old root detached when they are refused later.
-/
theorem outcome_setRoot (d : Document) (h : Handle) :
    outcome (setRoot h) d = ((d.setRoot h).2.map fun _ => ⟨⟩, (d.setRoot h).1) := by
  have hclear : outcome clearRoot d = match d.root? with
      | none => (.ok ⟨⟩, d)
      | some r => done d (d.detach r) := by
    cases hr : d.root? <;> simp [clearRoot, outcome_bind, hr, outcome_detach]
  rw [setRoot, outcome_bind, hclear, Document.setRoot]
  cases hr : d.root? with
  | none =>
    cases ha : d.append top h <;> simp [outcome_append, ha, Except.map]
  | some r =>
    cases hdet : d.detach r with
    | error fault => simp [hdet, Except.map]
    | ok d' => cases ha : d'.append top h <;> simp [hdet, outcome_append, ha, Except.map]

/-- An attribute that displaces none is listed last. -/
theorem outcome_listAttribute_none (he : d.contains element = true) :
    outcome (listAttribute element attr none) d =
      (.ok ⟨⟩, d.update element fun m => { m with attributes := m.attributes ++ [attr] }) := by
  rw [listAttribute, outcome_change he]

/-- An attribute that displaces one is listed in its place, and that one is dropped. -/
theorem outcome_listAttribute_some (hd : d.Consistent) (hold : old ∈ d.attributes element) {i : Nat}
    (hi : (d.attributes element).idxOf? old = some i) :
    outcome (listAttribute element attr (some old)) d =
      (.ok ⟨⟩, (d.update element fun m => { m with attributes := m.attributes.set i attr }).update
        old fun m => { m with parent := none }) := by
  obtain ⟨hkind, hparent, he⟩ := hd.attributes hold
  have hindex : d.indexInParent? old = some i := by
    simp [indexInParent?, hparent, hkind, hi]
  have hlive : ∀ f, (d.update element f).contains old = true := fun f => by
    rw [contains_update]
    exact contains_of_parent? hparent
  simp [listAttribute, outcome_bind, hindex, outcome_change (contains_of_isElement he),
    outcome_change (hlive _)]

/-- The steps of placing an attribute come to the same as placing it, in consistent documents. -/
theorem outcome_placeAttribute (hd : d.Consistent) (element attr : Handle) :
    outcome (placeAttribute element attr) d = answer d (d.placeAttribute element attr) := by
  rw [placeAttribute, Document.placeAttribute]
  cases he : d.isElement element with
  | false => simp [outcome_bind, he]
  | true =>
    cases hn : d.node? attr with
    | none => simp [outcome_bind, he, outcome_look_dead hn]
    | some n =>
      by_cases hk : n.kind = .attribute
      case neg => simp [outcome_bind, he, outcome_look hn, hk]
      cases hp : n.parent with
      | some p => simp [outcome_bind, he, outcome_look hn, hk, hp]
      | none =>
        have hlive : d.contains attr = true := contains_iff.mpr ⟨n, hn⟩
        have hin : ∀ h f, (d.update h f).contains attr = true := fun h f => by
          rw [contains_update, hlive]
        cases ha : d.attribute? element n.name with
        | none =>
          simp [outcome_bind, outcome_map, he, outcome_look hn, hk, hp, ha,
            outcome_listAttribute_none (contains_of_isElement he), outcome_change (hin _ _)]
        | some old =>
          have hmem := (mem_of_attribute?_eq_some ha).1
          obtain ⟨i, hi⟩ := idxOf?_isSome_of_mem hmem
          have hin' : ∀ f g, ((d.update element f).update old g).contains attr = true :=
            fun f g => by rw [contains_update, hin]
          simp [outcome_bind, outcome_map, he, outcome_look hn, hk, hp, ha,
            outcome_listAttribute_some hd hmem hi, outcome_change (hin' _ _), hi]

/-- So do those of setting an attribute by its name, in documents that were made. -/
theorem outcome_setAttribute (hd : Made d) (element : Handle) (name value : String) :
    outcome (setAttribute element name value) d =
      ((d.setAttribute element name value).2, (d.setAttribute element name value).1) := by
  rw [setAttribute, Document.setAttribute]
  cases ha : d.attribute? element name with
  | some a =>
    cases hn : d.node? a with
    | none => simp [outcome_bind, outcome_map, ha, outcome_change_dead hn, contains, hn]
    | some n =>
      have hlive : d.contains a = true := contains_iff.mpr ⟨n, hn⟩
      simp [outcome_bind, outcome_map, ha, outcome_change hlive, hlive]
  | none =>
    have hmade : Made (d.createAttribute name value).1 :=
      .apply (o := .createAttribute name value) hd (by simp [Operation.source?])
    have hplace := outcome_placeAttribute hmade.consistent element
      (d.createAttribute name value).2
    cases hp : (d.createAttribute name value).1.placeAttribute element
      (d.createAttribute name value).2 <;>
      simp [outcome_bind, outcome_map, ha, hplace, hp]

/-- So do those of removing an attribute by its name. -/
theorem outcome_removeAttribute (d : Document) (element : Handle) (name : String) :
    outcome (removeAttribute element name) d = answer d (d.removeAttribute element name) := by
  rw [removeAttribute, Document.removeAttribute]
  cases he : d.isElement element with
  | false => simp [outcome_bind, he]
  | true =>
    cases ha : d.attribute? element name with
    | none => simp [outcome_bind, he, ha]
    | some a =>
      cases hdet : d.detach a <;>
        simp [outcome_bind, outcome_map, he, ha, outcome_detach, hdet, Except.map]

/-- So do those of setting the value of a node, in documents that were made. -/
theorem outcome_setValue (hd : Made d) (h : Handle) (value : String) :
    outcome (setValue h value) d = done d (d.setValue h value) := by
  cases hn : d.node? h with
  | none =>
    rw [setValue, outcome_bind_error (outcome_look_dead hn)]
    simp [Document.setValue, hn]
  | some n =>
    have hlive : d.contains h = true := contains_iff.mpr ⟨n, hn⟩
    rw [setValue, outcome_bind_ok (outcome_look hn)]
    cases hk : n.kind with
    | document => simp [Document.setValue, hn, hk]
    | «attribute» => simp [Document.setValue, hn, hk, outcome_change hlive]
    | text => simp [Document.setValue, hn, hk, outcome_change hlive]
    | element =>
      cases ht : n.children.find? d.isText with
      | some t =>
        have htlive : d.contains t = true := contains_of_isText (List.find?_some ht)
        simp [outcome_bind, children_of_node? hn, ht, outcome_change htlive, Document.setValue, hn,
          hk]
      | none =>
        have he : d.isElement h = true := by simp [isElement, kind?, hn, hk]
        obtain ⟨d', ha⟩ : ∃ d', (d.createText value).1.append h (d.createText value).2 = .ok d' :=
          append_of_placeable (hd.placeable_text he value)
        simp [outcome_bind, children_of_node? hn, ht, outcome_append, ha, Document.setValue, hn, hk]

/-- So do those of discarding a node. -/
theorem outcome_discard (d : Document) (h : Handle) :
    outcome (discard h) d = done d (d.discard h) := by
  cases hn : d.node? h with
  | none =>
    rw [discard, outcome_bind_error (outcome_look_dead hn)]
    simp [Document.discard, hn]
  | some n =>
    rw [discard, outcome_bind_ok (outcome_look hn)]
    cases hp : n.parent <;> simp [outcome_bind, Document.discard, hn, hp]

/-- So do those of copying a node from another document. -/
theorem outcome_copyFrom (d source : Document) (h : Handle) :
    outcome (copyFrom source h) d = answer d (d.copyFrom source h) := by
  cases ht : source.content? h <;>
    simp [copyFrom, outcome_bind, Document.copyFrom, ht]

end Course

/-- The operation step by step. -/
def Operation.course : Operation → Course PUnit
  | setRoot element => Course.setRoot element
  | createElement name => do let _ ← Course.make (Document.createElement · name)
  | createAttribute name value => do let _ ← Course.make (Document.createAttribute · name value)
  | createText value => do let _ ← Course.make (Document.createText · value)
  | append parent child => Course.append parent child
  | insertAfter parent previous child => Course.insertAfter parent previous child
  | replaceChild parent old replacement => Course.replaceChild parent old replacement
  | placeAttribute element attr => do let _ ← Course.placeAttribute element attr
  | setAttribute element name value => do let _ ← Course.setAttribute element name value
  | removeAttribute element name => do let _ ← Course.removeAttribute element name
  | setValue h value => Course.setValue h value
  | detach h => Course.detach h
  | discard h => Course.discard h
  | copyFrom source h => do let _ ← Course.copyFrom source h

/-- What is left after an answer is what an operation settles for. -/
theorem answer_snd (d : Document) (r : Except Fault (Document × α)) :
    (answer d r).2 = Operation.settled d (r.map Prod.fst) := by
  cases r <;> rfl

/-- What is left when it is done is what an operation settles for. -/
theorem done_snd (d : Document) (r : Except Fault Document) :
    (done d r).2 = Operation.settled d r := by
  cases r <;> rfl

/-- Ignoring the answer of a course changes nothing but the answer. -/
theorem Course.outcome_ignore (x : Course α) (d : Document) :
    outcome (do let _ ← x) d = ((outcome x d).1.map fun _ => ⟨⟩, (outcome x d).2) := by
  rw [outcome_bind]
  rcases outcome x d with ⟨_ | a, d'⟩ <;> rfl

/-- The steps of an operation leave the document that the operation leads to, refused or not. -/
theorem Operation.outcome_course (hd : Made d) (o : Operation) :
    (o.course.outcome d).2 = o.apply d := by
  have hc := hd.consistent
  cases o with
  | setRoot element => rw [course, Course.outcome_setRoot, apply]
  | createElement name => rfl
  | createAttribute name value => rfl
  | createText value => rfl
  | append parent child => rw [course, Course.outcome_append, done_snd, apply]
  | insertAfter parent previous child => rw [course, Course.outcome_insertAfter, done_snd, apply]
  | replaceChild parent old replacement =>
    rw [course, Course.outcome_replaceChild hc, done_snd, apply]
  | placeAttribute element attr =>
    rw [course, Course.outcome_ignore, Course.outcome_placeAttribute hc, answer_snd, apply]
  | setAttribute element name value =>
    rw [course, Course.outcome_ignore, Course.outcome_setAttribute hd, apply]
  | removeAttribute element name =>
    rw [course, Course.outcome_ignore, Course.outcome_removeAttribute, answer_snd, apply]
  | setValue h value => rw [course, Course.outcome_setValue hd, done_snd, apply]
  | detach h => rw [course, Course.outcome_detach, done_snd, apply]
  | discard h => rw [course, Course.outcome_discard, done_snd, apply]
  | copyFrom source h =>
    rw [course, Course.outcome_ignore, Course.outcome_copyFrom, answer_snd, apply]

/-! ## Refusals -/

/-- What is refused at once leaves the document as it was. -/
theorem eq_of_done_error {r : Except Fault Document} {fault : Fault}
    (hr : done d r = (.error fault, d')) : d' = d := by
  cases r with
  | error _ => exact (Prod.mk.inj hr).2.symm
  | ok _ => cases (Prod.mk.inj hr).1

/-- What is refused an answer at once leaves the document as it was. -/
theorem eq_of_answer_error {r : Except Fault (Document × α)} {fault : Fault}
    (hr : answer d r = (.error fault, d')) : d' = d := by
  cases r with
  | error _ => exact (Prod.mk.inj hr).2.symm
  | ok _ => cases (Prod.mk.inj hr).1

/-- A node that was detached has no parent. -/
theorem parent?_of_detach (hr : d.detach h = .ok d') : d'.parent? h = none := by
  unfold Document.detach at hr
  split at hr
  · simp at hr
  · next n hn =>
    split at hr
    · next hp => simp [← Except.ok.inj hr, parent?, hn, hp]
    · split at hr
      · simp at hr
      · obtain rfl := Except.ok.inj hr
        rw [parent?_update_parent _ _ _ _ (by rw [contains_update]; exact contains_iff.mpr ⟨n, hn⟩),
          if_pos rfl]

/-- Every node that lives can be detached. -/
theorem Consistent.exists_detach (hd : d.Consistent) (hc : d.contains h = true) :
    ∃ d', d.detach h = .ok d' := by
  obtain ⟨n, hn⟩ := contains_iff.mp hc
  cases hp : n.parent with
  | none => exact ⟨d, by simp [detach, hn, hp]⟩
  | some p =>
    have hparent : d.parent? h = some p := by simp [parent?, hn, hp]
    have hlive : d.contains p = true := (hd.listed hparent).1
    exact ⟨_, by simp only [detach, hn, hp, hlive]; rfl⟩

/-- The outermost element is live and lies just inside the document. -/
theorem Consistent.root?_spec {r : Handle} (hd : d.Consistent) (hr : d.root? = some r) :
    d.contains r = true ∧ d.parent? r = some top := by
  have hmem : r ∈ d.elements top := List.mem_of_head? hr
  have hparent := (hd.children (mem_elements.mp hmem).1).2
  exact ⟨contains_of_parent? hparent, hparent⟩

namespace Course

variable {fault : Fault}

/-- A step whose result is left aside is refused for itself. -/
theorem outcome_of_ignore {x : Course α} (hx : outcome (do let _ ← x) d = (.error fault, d')) :
    outcome x d = (.error fault, d') := by
  rw [outcome_ignore] at hx
  obtain ⟨hres, hleft⟩ := Prod.mk.inj hx
  refine Prod.ext ?_ hleft
  cases hr : (outcome x d).1 with
  | error e => simpa [hr, Except.map] using hres
  | ok a => simp [hr, Except.map] at hres

/-- If a new outermost element is refused there was no old one, or that was taken out. -/
theorem setRoot_refused (hd : d.Consistent) (hx : outcome (setRoot h) d = (.error fault, d')) :
    d.root? = none ∧ d' = d ∨ ∃ r, d.root? = some r ∧ d.detach r = .ok d' := by
  rw [outcome_setRoot, Document.setRoot] at hx
  cases hr : d.root? with
  | none =>
    left
    cases ha : d.append top h with
    | error e =>
      simp only [hr, ha] at hx
      exact ⟨rfl, (Prod.mk.inj hx).2.symm⟩
    | ok e => simp [hr, ha, Except.map] at hx
  | some r =>
    right
    obtain ⟨e, he⟩ := hd.exists_detach (hd.root?_spec hr).1
    refine ⟨r, rfl, ?_⟩
    cases ha : e.append top h with
    | error f =>
      simp only [hr, he, ha] at hx
      rw [he, (Prod.mk.inj hx).2]
    | ok f => simp [hr, he, ha, Except.map] at hx

/-- If an attribute cannot be set, nothing was changed, or it was made and has no place. -/
theorem setAttribute_refused {name value : String} (hd : Made d)
    (hx : outcome (setAttribute element name value) d = (.error fault, d')) :
    d' = d ∨ d' = (d.createAttribute name value).1 := by
  rw [outcome_setAttribute hd, Document.setAttribute] at hx
  cases ha : d.attribute? element name with
  | some a =>
    left
    cases hc : d.contains a <;> simp_all
  | none =>
    right
    cases hp : (d.createAttribute name value).1.placeAttribute element
      (d.createAttribute name value).2 <;> simp_all

end Course

/-- A refused operation leaves all nodes as they were, except that an outermost element may have
been taken out for one that was then refused. -/
theorem Operation.refused_cases (hd : Made d) {o : Operation} {fault : Fault}
    (ho : o.course.outcome d = (.error fault, d')) :
    ((∀ e, o = setRoot e → d.root? = none) ∧
        ∀ k, d.contains k = true → d'.node? k = d.node? k) ∨
      ∃ e r, o = setRoot e ∧ d.root? = some r ∧ d.detach r = .ok d' := by
  have hc := hd.consistent
  -- all but two operations are refused before they store anything
  have hsame : d' = d → ∀ k, d.contains k = true → d'.node? k = d.node? k := by
    rintro rfl k -
    rfl
  cases o with
  | setRoot element =>
    rcases Course.setRoot_refused hc ho with ⟨hr, heq⟩ | ⟨r, hr, hdet⟩
    · exact Or.inl ⟨fun _ _ => hr, hsame heq⟩
    · exact Or.inr ⟨element, r, rfl, hr, hdet⟩
  | createElement name => cases ho
  | createAttribute name value => cases ho
  | createText value => cases ho
  | append parent child =>
    rw [course, Course.outcome_append] at ho
    exact Or.inl ⟨nofun, hsame (eq_of_done_error ho)⟩
  | insertAfter parent previous child =>
    rw [course, Course.outcome_insertAfter] at ho
    exact Or.inl ⟨nofun, hsame (eq_of_done_error ho)⟩
  | replaceChild parent old replacement =>
    rw [course, Course.outcome_replaceChild hc] at ho
    exact Or.inl ⟨nofun, hsame (eq_of_done_error ho)⟩
  | placeAttribute element attr =>
    have hplace := Course.outcome_of_ignore ho
    rw [Course.outcome_placeAttribute hc] at hplace
    exact Or.inl ⟨nofun, hsame (eq_of_answer_error hplace)⟩
  | setAttribute element name value =>
    refine Or.inl ⟨nofun, ?_⟩
    rcases Course.setAttribute_refused hd (Course.outcome_of_ignore ho) with heq | rfl
    · exact hsame heq
    · -- the new attribute takes a handle that named no node
      exact fun k hk => (extends_push d _).node? k (index_lt_of_contains hk)
  | removeAttribute element name =>
    have hremove := Course.outcome_of_ignore ho
    rw [Course.outcome_removeAttribute] at hremove
    exact Or.inl ⟨nofun, hsame (eq_of_answer_error hremove)⟩
  | setValue h value =>
    rw [course, Course.outcome_setValue hd] at ho
    exact Or.inl ⟨nofun, hsame (eq_of_done_error ho)⟩
  | detach h =>
    rw [course, Course.outcome_detach] at ho
    exact Or.inl ⟨nofun, hsame (eq_of_done_error ho)⟩
  | discard h =>
    rw [course, Course.outcome_discard] at ho
    exact Or.inl ⟨nofun, hsame (eq_of_done_error ho)⟩
  | copyFrom source h =>
    have hcopy := Course.outcome_of_ignore ho
    rw [Course.outcome_copyFrom] at hcopy
    exact Or.inl ⟨nofun, hsame (eq_of_answer_error hcopy)⟩

/-- A refused operation leaves every live node as it was if and only if it is not the installation
of an outermost element in a document that has one: then the old one is taken out and stays out. -/
theorem stays_of_refused_iff (hd : Made d) {o : Operation} {fault : Fault}
    (ho : o.course.outcome d = (.error fault, d')) :
    d' = o.apply d ∧
      ((∀ k, d.contains k = true → d'.node? k = d.node? k) ↔
        ¬ ∃ e r, o = .setRoot e ∧ d.root? = some r) ∧
      ∀ e r, o = .setRoot e → d.root? = some r → d.detach r = .ok d' ∧ d'.parent? r = none := by
  have hc := hd.consistent
  have happly : d' = o.apply d := by rw [← Operation.outcome_course hd o, ho]
  refine ⟨happly, ?_⟩
  rcases Operation.refused_cases hd ho with ⟨hnone, hstay⟩ | ⟨e, r, rfl, hr, hdet⟩
  · refine ⟨⟨?_, fun _ => hstay⟩, fun e r he hr => ?_⟩
    · rintro - ⟨e, r, he, hr⟩
      rw [hnone e he] at hr
      cases hr
    · rw [hnone e he] at hr
      cases hr
  · have hout := parent?_of_detach hdet
    refine ⟨⟨fun hstay => ?_, fun hnot => absurd ⟨e, r, rfl, hr⟩ hnot⟩, fun e' r' _ hr' => ?_⟩
    · obtain ⟨hlive, hparent⟩ := hc.root?_spec hr
      rw [(lookups_congr (hstay r hlive)).2.2.1, hparent] at hout
      cases hout
    · obtain rfl := Option.some.inj (hr.symm.trans hr')
      exact ⟨hdet, hout⟩

/-- A document with one element inside its outermost one, and one that has no place. -/
def house : Document :=
  Operation.run empty [.createElement "house", .setRoot ⟨1⟩, .createElement "room", .append ⟨1⟩ ⟨2⟩,
    .createElement "garden"]

/-- The house is made by operations. -/
theorem made_house : Made house :=
  .run .empty (by simp [Operation.source?])

/-- A node that cannot replace another one leaves all nodes as they were. -/
theorem house_kept : ∃ d', (Operation.replaceChild ⟨1⟩ ⟨1⟩ ⟨3⟩).course.outcome house =
      (.error (.notAChild ⟨1⟩ ⟨1⟩), d') ∧
    ∀ k, house.contains k = true → d'.node? k = house.node? k := by
  have hiff := (stays_of_refused_iff made_house (o := .replaceChild ⟨1⟩ ⟨1⟩ ⟨3⟩) rfl).2.1
  refine ⟨house, rfl, hiff.mpr ?_⟩
  rintro ⟨e, r, he, -⟩
  cases he

/-- The room cannot become the outermost element as it has a place already, and the house is out of
the document all the same. -/
theorem house_uprooted : Made house ∧ house.parent? ⟨1⟩ = some top ∧
    (Operation.setRoot ⟨2⟩).course.outcome house =
      (.error (.stillAttached ⟨2⟩), (Operation.setRoot ⟨2⟩).apply house) ∧
    ((Operation.setRoot ⟨2⟩).apply house).contains ⟨1⟩ = true ∧
    ((Operation.setRoot ⟨2⟩).apply house).parent? ⟨1⟩ = none ∧
    house.children top = [⟨1⟩] ∧ ((Operation.setRoot ⟨2⟩).apply house).children top = [] := by
  refine ⟨made_house, by decide, rfl, by decide, by decide, by decide, by decide⟩

end GuidedXml.Document
