/-
# Assembled documents

A document can be read off a text without making its content first. Each node is made when its tag
has been read, behind all others, and is placed in the innermost open element at once; the handles
of the open elements are kept on a stack.

What is there at any time is the document of the content that there would be if all open elements
ended now. In it the open elements come last at every level, so what is placed in the innermost one
goes behind all other nodes.

The main statement says that assembling a document and reading it come to the same for every text,
with the same faults.
-/
import GuidedXml.Proofs.Document.Copying
import GuidedXml.Proofs.Document.Replacement
import GuidedXml.Proofs.Markup.Neat

namespace GuidedXml

/-! ## Nodes of a content that is placed last -/

/-- What is laid out before the last content inside a node does not depend on that content. -/
theorem Tree.exists_layout_append (kind : Kind) (name value : String)
    (as : List (String × String)) (ts : List Tree) (parent : Option Handle) (first : Nat) :
    ∃ ns : List Node, ns.length = 1 + as.length + sizeAll ts ∧ ∀ t,
      (node kind name value as (ts ++ [t])).layout parent first =
        ns ++ t.layout (some ⟨first⟩) (first + ns.length) := by
  let inside := first + 1 + as.length
  let root : Node :=
    { kind, name, value, parent,
      children := heads inside ts ++ [⟨inside + sizeAll ts⟩],
      attributes := (List.range as.length).map fun i => ⟨first + 1 + i⟩ }
  let labels : List Node := as.map fun a =>
    { kind := .attribute, name := a.1, value := a.2, parent := some ⟨first⟩ }
  have hlength : (root :: labels ++ layoutAll (some ⟨first⟩) inside ts).length =
      1 + as.length + sizeAll ts := by
    simp [labels, length_layoutAll]
    omega
  refine ⟨root :: labels ++ layoutAll (some ⟨first⟩) inside ts, hlength, fun t => ?_⟩
  rw [hlength]
  simp [layout, layoutAll_append, layoutAll, heads_append, heads, root, labels, inside,
    Nat.add_assoc]

namespace Document

variable {d d' : Document} {h k p : Handle} {t : Tree} {name : String}
  {as : List (String × String)}

/-- A document that is extended keeps its root. -/
theorem Extends.root?_eq (he : Extends d d') (hd : d.Linked) : d'.root? = d.root? := by
  have hchildren := (he.lookups hd.contains_top).2.2.2.2
  have helements : d'.elements top = d.elements top := by
    rw [elements, elements, hchildren]
    refine List.filter_congr fun k hk => ?_
    exact isElement_congr (he.lookups (hd.contains_of_mem (mem_inside.mpr (Or.inr hk)))).1
  rw [root?, root?, helements]

/-- Changes of two nodes can be made in either order. -/
theorem update_comm (hne : h ≠ k) (f g : Node → Node) :
    (d.update h f).update k g = (d.update k g).update h f := by
  refine eq_of_node?_eq (by rw [size_update, size_update, size_update, size_update]) fun j => ?_
  simp only [node?_update]
  by_cases hk : j = k
  · subst hk
    simp [Ne.symm hne]
  · simp [hk]

/-- A placeable child is placed as one that was copied. -/
theorem append_eq_adoptChild (hpl : d.Placeable p k) : d.append p k = .ok (d.adoptChild p k) := by
  have hne : p ≠ k := by
    rintro rfl
    exact hpl.not_above List.mem_cons_self
  rw [append, placementFault?_eq_none_iff.mpr hpl, link, update_comm hne]
  refine congrArg Except.ok (eq_of_node?_eq (by simp [adoptChild, adopt, size_update]) fun j => ?_)
  simp only [adoptChild, adopt, node?_update]
  by_cases hj : j = p
  · subst hj
    cases hn : d.node? j <;> simp [children, hne, hn]
  · simp [hj]

/-- A content that was written can be placed in every element that was there before, and in the
document node. -/
theorem append_write (hd : d.Orderly) (ht : t.Proper) (hk : t.kind = .element ∨ t.kind = .text)
    (hp : d.isElement p = true ∨ d.kind? p = some .document) :
    (d.write t).1.append p d.next = .ok ((d.write t).1.adoptChild p d.next) := by
  have hc : d.contains p = true := by
    rcases hp with he | hdoc
    · exact contains_of_isElement he
    · rw [contains_eq_isSome_kind?, hdoc]
      rfl
  obtain ⟨hnone, hkind, -⟩ := parent?_write d t
  have hpkind := ((extends_write d t).lookups hc).1
  refine append_eq_adoptChild ((hd.write ht).placeable ?_ ?_ hnone (index_lt_of_contains hc))
  · rwa [isElement_congr hpkind, hpkind]
  · simpa [isElement, isText, show (d.write t).1.kind? d.next = some t.kind from hkind] using hk

/-! ## Elements with attributes -/

/-- Make an attribute and place it in an element. -/
def placeLabel (d : Document) (element : Handle) (label : String × String) :
    Except Fault Document :=
  let made := d.createAttribute label.1 label.2
  (made.1.placeAttribute element made.2).map Prod.fst

/-- Make an element and then its attributes, one after the other. -/
def makeElement (d : Document) (name : String) (as : List (String × String)) :
    Except Fault (Document × Handle) :=
  let made := d.createElement name
  let labelled := as.foldlM (fun (e : Document) label => e.placeLabel made.2 label) made.1
  labelled.map fun e => (e, made.2)

/-- A new attribute whose name no other attribute has goes behind the others. -/
theorem placeLabel_eq_copyAttribute (hd : d.Linked) (he : d.isElement h = true)
    {label : String × String} (hnew : ∀ a ∈ d.attributes h, d.name a ≠ label.1) :
    d.placeLabel h label =
      .ok (d.copyAttribute h { kind := .attribute, name := label.1, value := label.2 }) := by
  have hlive := contains_of_isElement he
  have hext := extends_push d { kind := .attribute, name := label.1, value := label.2 }
  have hlookups := hext.lookups hlive
  have helement : (d.createAttribute label.1 label.2).1.isElement h = true := by
    rw [createAttribute, isElement_congr hlookups.1, he]
  have hnode : (d.createAttribute label.1 label.2).1.node? d.next =
      some { kind := .attribute, name := label.1, value := label.2 } := by
    rw [createAttribute, node?_push, if_pos rfl]
  have hnone : (d.createAttribute label.1 label.2).1.attribute? h label.1 = none := by
    rw [createAttribute, attribute?, hlookups.2.2.2.1, List.find?_eq_none]
    intro a ha
    rw [(hext.lookups (hd.contains_of_mem (mem_inside.mpr (Or.inl ha)))).2.1]
    simpa using hnew a ha
  have hsnd : (d.createAttribute label.1 label.2).2 = d.next := rfl
  rw [placeLabel, hsnd, placeAttribute, helement, hnode]
  simp only [hnone]
  rw [copyAttribute, adopt, update_comm (ne_next_of_contains hlive)]
  rfl

/-- Making an element with attributes of different names writes it. -/
theorem makeElement_eq_write (hd : d.Orderly) (hkeys : (as.map Prod.fst).Nodup) :
    d.makeElement name as = .ok (d.write (.element name as [])) := by
  suffices hall : ∀ rest done : List (String × String), ((done ++ rest).map Prod.fst).Nodup →
      rest.foldlM (fun (e : Document) label => e.placeLabel d.next label)
        (d.write (.element name done [])).1 =
          .ok (d.write (.element name (done ++ rest) [])).1 by
    have hpush : (d.createElement name).1 = (d.write (.element name [] [])).1 :=
      congrArg Prod.fst (push_eq_write ..)
    have hsnd : (d.createElement name).2 = d.next := rfl
    rw [makeElement, hpush, hsnd, hall as [] hkeys]
    rfl
  intro rest
  induction rest with
  | nil => exact fun done _ => by simp [pure, Except.pure]
  | cons label rest ih =>
    intro done hnd
    have hcontent : Markup.IsContent (.element name done []) := Markup.isContent_element (by simp)
    have hwritten := hd.write hcontent.proper
    have hholds := holds_write d (.element name done [])
    have helement : (d.write (.element name done [])).1.isElement d.next = true :=
      decide_eq_true (parent?_write d (.element name done [])).2.1
    have hnew : ∀ a ∈ (d.write (.element name done [])).1.attributes d.next,
        (d.write (.element name done [])).1.name a ≠ label.1 := by
      intro a ha heq
      have hmem := List.mem_map_of_mem (f := (d.write (.element name done [])).1.name) ha
      rw [next, (lookups_of_holds hholds).2.2, heq] at hmem
      rw [List.map_append, List.nodup_append] at hnd
      exact hnd.2.2 _ hmem _ (by simp) rfl
    rw [List.foldlM_cons, placeLabel_eq_copyAttribute hwritten.toLinked helement hnew]
    have hstep : (d.write (.element name done [])).1.copyAttribute d.next
        { kind := .attribute, name := label.1, value := label.2 } =
          (d.write (.element name (done ++ [label]) [])).1 := copyAttribute_write d _
    have hrest := ih (done ++ [label]) (by simpa using hnd)
    rw [List.append_assoc, List.singleton_append] at hrest
    rw [← hrest]
    exact congrArg (fun e => rest.foldlM _ e) hstep

end Document

namespace Markup

/-! ## Assembling -/

/-- What has been assembled so far. -/
structure Assembly where
  /-- The document with all nodes that were made. -/
  document : Document := .empty
  /-- The open elements, innermost first. -/
  stack : List Handle := []
  /-- The text since the last tag. -/
  pending : List Char := []

namespace Assembly

/-- The innermost open element, or the document node. -/
def owner (a : Assembly) : Handle :=
  a.stack.headD Document.top

/-- Make the pending text a node of the innermost open element, unless it is blank or outside all
elements. -/
def flush (a : Assembly) : Except Fault Assembly :=
  if a.pending.all Text.isBlank || a.stack.isEmpty then .ok { a with pending := [] }
  else
    let made := a.document.createText (String.ofList a.pending)
    (made.1.append a.owner made.2).map fun d => { a with document := d, pending := [] }

/-- Place an element in the innermost open element, or install it as the outermost one. -/
def attach (a : Assembly) (element : Handle) : Except Fault Assembly :=
  if a.stack.isEmpty && a.document.root?.isSome then .error .multipleRoots
  else (a.document.append a.owner element).map fun d => { a with document := d }

/-- Make the element of a tag, after the text before the tag, and place it. -/
def enter (a : Assembly) (name : String) (as : List (String × String)) :
    Except Fault (Assembly × Handle) := do
  let a ← a.flush
  let made ← a.document.makeElement name as
  let a ← { a with document := made.1 }.attach made.2
  return (a, made.2)

/-- Read one more item at a byte position. -/
def step (a : Assembly) (position : Nat) : Item → Except Fault Assembly
  | .fault cause => .error (.malformed position cause)
  | .skipped => .ok a
  | .text content => .ok { a with pending := a.pending ++ content }
  | .opening name as => do
    let made ← a.enter name as
    return { made.1 with stack := made.2 :: made.1.stack }
  | .empty name as => (a.enter name as).map Prod.fst
  | .closing name => do
    let a ← a.flush
    match a.stack with
    | [] => .error (.malformed position .strayEndTag)
    | h :: hs =>
      if a.document.name h = name then .ok { a with stack := hs }
      else .error (.malformed position .mismatchedEndTag)

/-- Read all items, up to the first fault. -/
def run (a : Assembly) : List (Nat × Item) → Except Fault Assembly
  | [] => .ok a
  | (position, item) :: rest => do
    let a ← a.step position item
    a.run rest

/-- The document after all of a text of `total` bytes was read. -/
def finish (a : Assembly) (total : Nat) : Except Fault Document :=
  match a.stack with
  | h :: _ => .error (.malformed total (.unclosedElement (a.document.name h)))
  | [] => if a.document.root?.isNone then .error .missingRoot else .ok a.document

end Assembly

/-- Read a document off a text by making and placing one node after the other. -/
def assemble (text : String) : Except Fault Document := do
  let cs := dropMark text.toList
  let a ← Assembly.run {} (items cs)
  a.finish (Text.byteCount cs)

/-! ## Documents of readings -/

/-- The outermost element if all open elements ended now, the innermost one with one more content
inside. -/
def wrap : List Open → Tree → Tree
  | [], t => t
  | o :: os, t => wrap os (o.add t).close

/-- The number of nodes before one that comes next inside the open elements. -/
def extent : List Open → Nat
  | [] => 1
  | o :: os => extent os + 1 + o.attributes.length + Tree.sizeAll o.inside.reverse

/-- The handles of the open elements. -/
def handles : List Open → List Handle
  | [] => []
  | _ :: os => ⟨extent os⟩ :: handles os

namespace Reading

/-- The document if all open elements ended now. -/
def document (r : Reading) : Document :=
  match r.stack, r.root with
  | [], none => .empty
  | [], some t => .ofTree t
  | o :: os, _ => .ofTree (wrap os o.close)

/-- What has been assembled when this has been read. -/
def assembly (r : Reading) : Assembly where
  document := r.document
  stack := handles r.stack
  pending := r.pending

end Reading

/-- What is laid out before a content in the innermost open element does not depend on it. -/
theorem exists_extend_wrap (os : List Open) : ∃ d : Document, d.slots.size = extent os ∧ ∀ t,
    Document.ofTree (wrap os t) =
      d.extend (t.layout (some ((handles os).headD Document.top)) d.slots.size) := by
  induction os with
  | nil =>
    refine ⟨⟨#[some { kind := .document, children := [⟨1⟩] }]⟩, rfl, fun t => ?_⟩
    refine congrArg Document.mk (Array.toList_inj.mp ?_)
    simp [wrap, handles, Tree.layout, Tree.layoutAll, Tree.heads, Document.top]
  | cons o os ih =>
    obtain ⟨d, hsize, hwrap⟩ := ih
    obtain ⟨ns, hlength, hlayout⟩ := Tree.exists_layout_append .element o.name "" o.attributes
      o.inside.reverse (some ((handles os).headD Document.top)) d.slots.size
    refine ⟨d.extend ns, ?_, fun t => ?_⟩
    · rw [Document.size_extend, hlength, hsize, extent]
      omega
    · have hclose : (o.add t).close =
          .node .element o.name "" o.attributes (o.inside.reverse ++ [t]) := by
        simp [Open.close, Open.add, Tree.element]
      rw [wrap, hwrap, hclose, hlayout, Document.extend_extend, Document.size_extend, handles,
        List.headD_cons, hsize]

/-- A written content becomes the last one inside the innermost open element by linking it. -/
theorem adoptChild_wrap (o : Open) (os : List Open) (t : Tree) :
    ((Document.ofTree (wrap os o.close)).write t).1.adoptChild ⟨extent os⟩
        (Document.ofTree (wrap os o.close)).next =
      Document.ofTree (wrap os (o.add t).close) := by
  obtain ⟨d, hsize, hwrap⟩ := exists_extend_wrap os
  have hnext : d.next = ⟨extent os⟩ := congrArg Handle.mk hsize
  have hclose : (o.add t).close =
      .node .element o.name "" o.attributes (o.inside.reverse ++ [t]) := by
    simp [Open.close, Open.add, Tree.element]
  rw [hwrap, hwrap, hclose, ← hnext]
  exact Document.adoptChild_extend d _ t

/-- A written content becomes the outermost element by linking it to the document node. -/
theorem adoptChild_empty (t : Tree) :
    (Document.empty.write t).1.adoptChild Document.top Document.empty.next =
      Document.ofTree t := by
  let bare := Tree.node .document "" "" [] []
  have hadopt : ((Document.extend ⟨#[]⟩ (bare.layout none 0)).write t).1.adoptChild Document.top
      (Document.extend ⟨#[]⟩ (bare.layout none 0)).next =
        Document.extend ⟨#[]⟩ ((Tree.node .document "" "" [] [t]).layout none 0) :=
    Document.adoptChild_extend ⟨#[]⟩ none t
  have hempty : Document.extend ⟨#[]⟩ (bare.layout none 0) = Document.empty := rfl
  have hofTree : Document.extend ⟨#[]⟩ ((Tree.node .document "" "" [] [t]).layout none 0) =
      Document.ofTree t := congrArg Document.mk (Array.toList_inj.mp (by simp))
  rw [← hofTree, ← hempty]
  exact hadopt

/-- What the document says of the innermost open element. -/
theorem lookups_wrap (o : Open) (os : List Open) :
    (Document.ofTree (wrap os o.close)).isElement ⟨extent os⟩ = true ∧
      (Document.ofTree (wrap os o.close)).name ⟨extent os⟩ = o.name ∧
      (Document.ofTree (wrap os o.close)).next = ⟨extent (o :: os)⟩ := by
  obtain ⟨d, hsize, hwrap⟩ := exists_extend_wrap os
  have hnext : d.next = ⟨extent os⟩ := congrArg Handle.mk hsize
  have hclose : o.close = .node .element o.name "" o.attributes o.inside.reverse := rfl
  have hlast : (Document.ofTree (wrap os o.close)).next = ⟨extent (o :: os)⟩ := by
    rw [hwrap, Document.next, Document.size_extend, Tree.length_layout, hsize, hclose, Tree.size,
      extent]
    exact congrArg Handle.mk (by omega)
  refine ⟨?_, ?_, hlast⟩
  all_goals
    rw [hwrap, ← hnext, hclose, Tree.layout, List.cons_append]
    simp [Document.isElement, Document.kind?, Document.name, Document.node?_extend_next]

/-! ## Steps -/

/-- Everything read so far is proper, and no element is open beside a complete outermost one. -/
structure Reading.Ready (r : Reading) : Prop extends r.Sound where
  single : r.stack ≠ [] → r.root = none

variable {r r' : Reading} {t : Tree} {position : Nat} {item : Item}

/-- Content that is wrapped in open elements is a proper element. -/
theorem isContent_wrap {os : List Open} (hos : ∀ o ∈ os, ∀ t ∈ o.inside, IsContent t)
    (ht : IsContent t) (hk : t.kind = .element) :
    (wrap os t).Proper ∧ (wrap os t).kind = .element := by
  induction os generalizing t with
  | nil => exact ⟨ht.proper, hk⟩
  | cons o os ih =>
    obtain ⟨ho, hos⟩ := List.forall_mem_cons.mp hos
    refine ih hos (isContent_element fun u hu => ?_) rfl
    rcases List.mem_cons.mp (List.mem_reverse.mp hu) with rfl | hu
    · exact ht
    · exact ho u hu

namespace Reading.Ready

/-- The document of a reading that is ready is orderly. -/
theorem orderly (hr : r.Ready) : r.document.Orderly := by
  unfold Reading.document
  split
  · exact Document.orderly_empty
  · next t _ hroot =>
    obtain ⟨hcontent, hk⟩ := hr.root t hroot
    exact Document.orderly_ofTree hcontent.proper hk
  · next o os hstack =>
    have hos := hr.inside
    rw [hstack] at hos
    obtain ⟨ho, hos⟩ := List.forall_mem_cons.mp hos
    have hclosed : IsContent o.close :=
      isContent_element fun t ht => ho t (List.mem_reverse.mp ht)
    obtain ⟨hproper, hk⟩ := isContent_wrap hos hclosed rfl
    exact Document.orderly_ofTree hproper hk

/-- Flushing keeps a reading ready. -/
theorem flush (hr : r.Ready) : r.flush.Ready where
  toSound := hr.toSound.flush
  single := by
    intro hne
    refine hr.single fun hnil => hne ?_
    rw [Reading.flush, hnil]

/-- Placing an element keeps a reading ready. -/
theorem place (hr : r.Ready) (ht : IsContent t) (hk : t.kind = .element) : (r.place t).Ready where
  toSound := hr.toSound.place ht hk
  single := by
    intro hne
    unfold Reading.place at hne ⊢
    cases hs : r.stack with
    | nil => simp [hs] at hne
    | cons o os => exact hr.single (by rw [hs]; simp)

/-- A content is placed in the innermost open element by the checked operation. -/
theorem append_place (hr : r.Ready) (hfull : r.isFull = false) (ht : IsContent t) :
    (r.document.write t).1.append r.assembly.owner r.document.next =
      .ok (r.place t).document := by
  have hd := hr.orderly
  obtain ⟨stack, pending, root⟩ := r
  cases stack with
  | nil =>
    obtain rfl : root = none := by simpa [Reading.isFull] using hfull
    have happend := Document.append_write hd ht.proper ht.kind (Or.inr hd.kind?_top)
    exact happend.trans (congrArg Except.ok (adoptChild_empty t))
  | cons o os =>
    have happend := Document.append_write hd ht.proper ht.kind (Or.inl (lookups_wrap o os).1)
    exact happend.trans (congrArg Except.ok (adoptChild_wrap o os t))

/-- At the end the document has a root exactly if the reading has. -/
theorem root?_document (hr : r.Ready) (hs : r.stack = []) :
    r.document.root?.isSome = r.root.isSome := by
  rw [Reading.document, hs]
  cases hroot : r.root with
  | none => rfl
  | some t => rw [(Document.content?_root?_ofTree (hr.root t hroot).2).1]; rfl

/-- The pending text is made a node. -/
theorem flush_assembly (hr : r.Ready) : r.assembly.flush = .ok r.flush.assembly := by
  obtain ⟨stack, pending, root⟩ := r
  cases stack with
  | nil => simp [Reading.assembly, Assembly.flush, Reading.flush, Reading.document, handles]
  | cons o os =>
    by_cases hblank : pending.all Text.isBlank = true
    · simp [Reading.assembly, Assembly.flush, Reading.flush, Reading.document, hblank]
    · have hplace := hr.append_place rfl (isContent_text (String.ofList pending))
      have hmade : Document.createText (Document.ofTree (wrap os o.close)) (String.ofList pending) =
          Document.write _ (.text (String.ofList pending)) := Document.push_eq_write ..
      have hflush : Reading.flush ⟨o :: os, pending, root⟩ =
          ⟨o.add (.text (String.ofList pending)) :: os, [], root⟩ := by
        simp [Reading.flush, hblank]
      have hnot : ¬ (pending.all Text.isBlank || (handles (o :: os)).isEmpty) = true := by
        simpa [handles] using hblank
      rw [hflush]
      simp only [Assembly.flush, Reading.assembly, Reading.document, hmade]
      rw [if_neg hnot]
      exact congrArg
        (Except.map fun d => ({ document := d, stack := handles (o :: os) } : Assembly)) hplace

/-- What was written is placed, but not as a second outermost element. -/
theorem attach_assembly (hr : r.Ready) (ht : IsContent t) :
    Assembly.attach { r.assembly with document := (r.document.write t).1 } r.document.next =
      if r.isFull then .error .multipleRoots else .ok (r.place t).assembly := by
  have hroot := (Document.extends_write r.document t).root?_eq hr.orderly.toLinked
  have hfull : (r.assembly.stack.isEmpty && (r.document.write t).1.root?.isSome) = r.isFull := by
    rw [Reading.assembly, hroot, Reading.isFull]
    cases hs : r.stack with
    | nil => rw [hr.root?_document hs]; rfl
    | cons o os => rfl
  have hrest : (r.place t).assembly = { r.assembly with document := (r.place t).document } := by
    unfold Reading.place
    cases hs : r.stack <;> simp [Reading.assembly, handles, hs]
  rw [Assembly.attach, hfull, hrest]
  split
  · rfl
  · next hc =>
    have hplace := hr.append_place (eq_false_of_ne_true hc) ht
    exact congrArg (Except.map fun d => { r.assembly with document := d }) hplace

/-- The nodes of a tag are made and placed. -/
theorem enter_assembly (hr : r.Ready) {name : String} {as : List (String × String)}
    (hkeys : (as.map Prod.fst).Nodup) : r.assembly.enter name as =
      if r.flush.isFull then .error .multipleRoots
      else .ok ((r.flush.place (.element name as [])).assembly, r.flush.document.next) := by
  have hcontent : IsContent (.element name as []) := isContent_element (by simp)
  have hattach := hr.flush.attach_assembly hcontent
  rw [Assembly.enter, hr.flush_assembly]
  change (do
    let made ← r.flush.document.makeElement name as
    let a ← Assembly.attach { r.flush.assembly with document := made.1 } made.2
    return (a, made.2)) = _
  rw [Document.makeElement_eq_write hr.flush.orderly hkeys]
  change (do
    let a ← Assembly.attach { r.flush.assembly with
      document := (r.flush.document.write (.element name as [])).1 } r.flush.document.next
    return (a, r.flush.document.next)) = _
  rw [hattach]
  split <;> rfl

/-- One more item leaves everything ready. -/
theorem step (hr : r.Ready) (hs : r.step position item = .ok r') : r'.Ready where
  toSound := hr.toSound.step hs
  single := by
    -- one element at most stands outside of all others, since a full reading takes no further one
    have hf := hr.flush
    cases item with
    | fault cause => simp [Reading.step] at hs
    | skipped =>
      obtain rfl := Except.ok.inj hs
      exact hr.single
    | text content =>
      obtain rfl := Except.ok.inj hs
      exact hr.single
    | opening name as =>
      simp only [Reading.step] at hs
      split at hs
      · simp at hs
      · next hfull =>
        obtain rfl := Except.ok.inj hs
        intro _
        by_cases hstack : r.flush.stack = []
        · simpa [Reading.isFull, hstack] using hfull
        · exact hf.single hstack
    | empty name as =>
      simp only [Reading.step] at hs
      split at hs
      · simp at hs
      · obtain rfl := Except.ok.inj hs
        exact (hf.place (isContent_element (by simp)) rfl).single
    | closing name =>
      simp only [Reading.step] at hs
      cases hstack : r.flush.stack with
      | nil => rw [hstack] at hs; simp at hs
      | cons o os =>
        rw [hstack] at hs
        simp only at hs
        split at hs
        · obtain rfl := Except.ok.inj hs
          cases os with
          | nil => exact fun hne => absurd rfl hne
          | cons p os => exact fun _ => hf.single (by simp [hstack])
        · simp at hs

end Reading.Ready

/-- The innermost open element stands where the others end. -/
theorem name_innermost {o : Open} {os : List Open} (hs : r.stack = o :: os) :
    r.assembly.document.name ⟨extent os⟩ = o.name := by
  rw [Reading.assembly, Reading.document, hs]
  exact (lookups_wrap o os).2.1

/-- The document is as before if the innermost element ends. -/
theorem assembly_close {o : Open} {os : List Open} (hs : r.stack = o :: os) :
    (Reading.place { r with stack := os } o.close).assembly =
      { r.assembly with stack := handles os } := by
  cases os <;> simp [Reading.place, Reading.assembly, Reading.document, handles, hs, wrap]

/-- The document with an element just opened is that with the element just ended. -/
theorem assembly_open (hfull : r.isFull = false) (name : String) (as : List (String × String)) :
    ({ r with stack := ⟨name, as, []⟩ :: r.stack } : Reading).assembly =
      { (r.place (.element name as [])).assembly with
        stack := r.document.next :: handles (r.place (.element name as [])).stack } := by
  obtain ⟨stack, pending, root⟩ := r
  cases stack with
  | nil =>
    obtain rfl : root = none := by simpa [Reading.isFull] using hfull
    rfl
  | cons o os =>
    have hnext := (lookups_wrap o os).2.2
    simpa [Reading.place, Reading.assembly, Reading.document, handles, wrap, Open.close] using
      hnext.symm

namespace Reading.Ready

/-- Assembling reads one item as reading does. -/
theorem step_assembly (hr : r.Ready) (hitem : item.Keyed) :
    r.assembly.step position item = (r.step position item).map Reading.assembly := by
  cases item with
  | fault cause => rfl
  | skipped => rfl
  | text content => rfl
  | opening name as =>
    rw [Assembly.step, hr.enter_assembly hitem, Reading.step]
    cases hfull : r.flush.isFull with
    | true => rfl
    | false => exact congrArg Except.ok (assembly_open hfull name as).symm
  | empty name as =>
    rw [Assembly.step, hr.enter_assembly hitem, Reading.step]
    cases hfull : r.flush.isFull <;> rfl
  | closing name =>
    have hstack : r.flush.assembly.stack = handles r.flush.stack := rfl
    rw [Assembly.step, hr.flush_assembly, Reading.step]
    simp only [Bind.bind, Except.bind, hstack]
    cases hs : r.flush.stack with
    | nil => rfl
    | cons o os =>
      simp only [handles, name_innermost hs]
      split
      · exact congrArg Except.ok (assembly_close hs).symm
      · rfl

/-- Assembling reads all items as reading does. -/
theorem run_assembly (hr : r.Ready) {items : List (Nat × Item)} (hitems : ∀ p ∈ items, p.2.Keyed) :
    r.assembly.run items = (r.run items).map Reading.assembly ∧
      ∀ r', r.run items = .ok r' → r'.Ready := by
  induction items generalizing r with
  | nil => exact ⟨rfl, fun r' hr' => Except.ok.inj hr' ▸ hr⟩
  | cons p rest ih =>
    obtain ⟨hp, hrest⟩ := List.forall_mem_cons.mp hitems
    rw [Assembly.run, Reading.run, hr.step_assembly hp]
    cases hstep : r.step p.1 p.2 with
    | error fault => exact ⟨rfl, by simp⟩
    | ok r₁ => exact ih (hr.step hstep) hrest

/-- Assembling ends as reading does. -/
theorem finish_assembly (hr : r.Ready) (total : Nat) :
    r.assembly.finish total = (r.finish total).map Document.ofTree := by
  have hstack : r.assembly.stack = handles r.stack := rfl
  rw [Assembly.finish, Reading.finish, hstack]
  cases hs : r.stack with
  | cons o os =>
    simp only [handles, name_innermost hs]
    rfl
  | nil =>
    have hsome := hr.root?_document hs
    have hdocument : r.assembly.document = r.document := rfl
    simp only [handles, hdocument, ← Option.not_isSome, hsome]
    cases hroot : r.root with
    | none => rfl
    | some t =>
      rw [Reading.document, hs, hroot]
      rfl

end Reading.Ready

/-- Assembling a document comes to the same as reading it, with the same fault if there is one. -/
theorem assemble_eq_read (text : String) : assemble text = Document.read text := by
  have hready : Reading.Ready {} := ⟨⟨by simp, by simp⟩, by simp⟩
  have hitems : ∀ p ∈ items (dropMark text.toList), p.2.Keyed :=
    fun p hp => keyed_of_mem_itemsAux hp
  obtain ⟨hrun, hall⟩ := hready.run_assembly hitems
  rw [assemble, Document.read, readTree, readChars]
  change (do
    let a ← Reading.assembly {} |>.run (items (dropMark text.toList))
    a.finish (Text.byteCount (dropMark text.toList))) = _
  rw [hrun]
  cases hr : Reading.run {} (items (dropMark text.toList)) with
  | error fault => rfl
  | ok r => exact (hall r hr).finish_assembly _

end Markup

end GuidedXml
