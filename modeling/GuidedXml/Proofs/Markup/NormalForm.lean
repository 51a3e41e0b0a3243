/-
# Documents in normal form

A document in normal form has one outermost element with all other nodes in it, no texts of blanks
and no texts side by side, no two attributes of one name at an element, and its handles are the first
numbers in document order.

The main statement says that every text that can be read gives a document in normal form.
-/
import GuidedXml.Proofs.Markup.Assembly

namespace GuidedXml.Document

variable {d : Document} {h : Handle}

/-- A document in normal form. -/
structure Normal (d : Document) : Prop where
  /-- The document node holds one element and nothing else. -/
  outermost : d.kind? top = some .document ∧ ∃ r, d.children top = [r] ∧ d.isElement r = true
  /-- No node is loose. -/
  attached : ∀ h, d.contains h = true → d.isAttached h = true
  /-- Every text has a character that is no white space. -/
  texts : ∀ h, d.isText h = true → ∃ c ∈ (d.value h).toList, Text.isBlank c = false
  /-- No two texts are neighbours. -/
  apart : ∀ h, (d.children h).IsChain fun j k => ¬ (d.isText j = true ∧ d.isText k = true)
  /-- The attributes of an element have different names. -/
  names : ∀ h, ((d.attributes h).map d.name).Nodup
  /-- The live handles are the first numbers, in preorder from the document node on. -/
  numbered : d.PreorderOf [top] (handlesFrom 0 d.slots.size)

/-- Neatness is passed on to what is inside. -/
theorem inherited_neat :
    Inherited fun t => t.Neat ∨ (t.kind = .attribute ∧ t.children = []) where
  leaf _ _ := Or.inr ⟨rfl, rfl⟩
  below := by
    rintro t (ht | ⟨-, hnone⟩) u hu
    · cases ht with
      | element _ _ hts => exact Or.inl (hts u hu)
      | text => cases hu
    · rw [hnone] at hu
      cases hu

/-- Contents of which no two neighbours are texts are stored so. -/
theorem isChain_heads : ∀ (ts : List Tree) {parent : Option Handle} {first : Nat},
    d.HoldsAll parent first ts → ts.IsChain (fun t u => t.kind = .text → u.kind ≠ .text) →
      (Tree.heads first ts).IsChain fun j k => ¬ (d.isText j = true ∧ d.isText k = true)
  | [], _, _, _, _ => .nil
  | [t], _, _, _, _ => .singleton _
  | t :: u :: ts, parent, first, hs, hts => by
    obtain ⟨htu, hrest⟩ := List.isChain_cons_cons.mp hts
    refine List.isChain_cons_cons.mpr ⟨?_, isChain_heads (u :: ts) hs.2 hrest⟩
    rw [isText, isText, (lookups_of_holds hs.1).1, (lookups_of_holds hs.2.1).1]
    simpa using htu

/-- A node that begins a neat content shows a text only if that is not blank, and holds no
neighbouring texts; nor does an attribute. -/
theorem neat_node {t : Tree} {parent : Option Handle}
    (ht : t.Neat ∨ (t.kind = .attribute ∧ t.children = [])) (hs : d.Holds parent h.index t) :
    (d.isText h = true → ∃ c ∈ (d.value h).toList, Text.isBlank c = false) ∧
      (d.children h).IsChain fun j k => ¬ (d.isText j = true ∧ d.isText k = true) := by
  obtain ⟨i⟩ := h
  rcases ht with ht | ⟨hk, hnone⟩
  · cases ht with
    | @element name as ts _ hts _ =>
      rw [Holds] at hs
      obtain ⟨hnode, -, hall⟩ := hs
      refine ⟨by simp [isText, kind?, hnode], ?_⟩
      rw [children, hnode, Option.map_some, Option.getD_some]
      exact isChain_heads ts hall hts
    | @text value hvalue =>
      rw [Holds] at hs
      obtain ⟨hnode, -, -⟩ := hs
      refine ⟨fun _ => ?_, by simp [children, hnode, Tree.heads]⟩
      simpa [Document.value, hnode] using List.all_eq_false.mp hvalue
  · obtain ⟨kind, name, value, as, ts⟩ := t
    obtain rfl : kind = .attribute := hk
    obtain rfl : ts = [] := hnone
    rw [Holds] at hs
    simp [isText, kind?, children, hs.1, Tree.heads]

/-- The same for every node of the document of a neat element. -/
theorem neat_node_ofTree {root : Tree} (hneat : root.Neat) (h : Handle) :
    ((ofTree root).isText h = true → ∃ c ∈ ((ofTree root).value h).toList, Text.isBlank c = false) ∧
      ((ofTree root).children h).IsChain
        fun j k => ¬ ((ofTree root).isText j = true ∧ (ofTree root).isText k = true) := by
  obtain ⟨htop, -, hroot, -⟩ := holds_ofTree root
  by_cases h₀ : h.index = 0
  · obtain rfl : h = ⟨0⟩ := by rw [← h₀]
    simp [isText, kind?, children, htop, Tree.heads]
  by_cases hlt : h.index < 1 + root.size
  · obtain ⟨u, q, hu, hs, -⟩ := exists_holds_of_mem inherited_neat root (Or.inl hneat) hroot h
      (Nat.pos_of_ne_zero h₀) hlt
    exact neat_node hu hs
  · have hout : (ofTree root).contains h = false :=
      contains_eq_false_of_le (by rw [size_ofTree]; omega)
    simp [isText, kind?, children, node?_eq_none_of_not_contains hout]

/-- The document of a neat element is normal. -/
theorem normal_ofTree {root : Tree} (hroot : root.Proper) (hk : root.kind = .element)
    (hneat : root.Neat) : (ofTree root).Normal := by
  have hd := orderly_ofTree hroot hk
  have hcons := (tidy_ofTree hroot hk hneat.keyed).consistent
  have hholds := holds_ofTree root
  have hsize : (ofTree root).slots.size = (Tree.node .document "" "" [] [root]).size := by
    rw [size_ofTree, Tree.size, Tree.sizeAll, Tree.sizeAll, List.length_nil]
    omega
  have hnumbered : (ofTree root).PreorderOf [top] (handlesFrom 0 (ofTree root).slots.size) :=
    hsize ▸ preorderOf_of_holds _ hholds
  have htop : (ofTree root).node? top = some { kind := .document, children := [⟨1⟩] } := hholds.1
  have hnode := neat_node_ofTree hneat
  exact {
    outermost := ⟨by simp [kind?, htop], ⟨1⟩, by simp [children, htop], (inside_top_ofTree hk).2⟩
    attached := fun h hc => by
      have hmem : h ∈ handlesFrom 0 (ofTree root).slots.size :=
        mem_handlesFrom.mpr ⟨Nat.zero_le _, by simpa using index_lt_of_contains hc⟩
      rw [hnumbered.eq_subtree hcons] at hmem
      exact (isAttached_iff hd).mpr (hcons.mem_subtree_iff.mp hmem)
    texts := fun h => (hnode h).1
    apart := fun h => (hnode h).2
    names := hcons.names
    numbered := hnumbered }

/-- Every text that can be read, or, which comes to the same, off which a document can be assembled
node by node, gives a document in normal form. -/
theorem normal_of_read {text : String} (hd : read text = .ok d) :
    Markup.assemble text = .ok d ∧ d.Normal := by
  refine ⟨by rw [Markup.assemble_eq_read, hd], ?_⟩
  obtain ⟨root, ht, rfl⟩ := exists_readTree_of_read hd
  obtain ⟨hcontent, hkind⟩ := Markup.isContent_of_readTree ht
  exact normal_ofTree hcontent.proper hkind (Markup.neat_of_readTree ht)

/-- A menu with a text in three pieces around a comment, and with blanks between its elements. -/
def menuText : String :=
  "<menu day='1' by='Al'>\n<dish>ham <!--lean-->&amp;<![CDATA[ eggs]]></dish> <dish/>daily</menu>"

/-- What the menu holds. -/
def menuTree : Tree :=
  .element "menu" [("day", "1"), ("by", "Al")]
    [.element "dish" [] [.text "ham & eggs"], .element "dish" [] [], .text "daily"]

/-- The text of the menu is read as its tree. -/
theorem read_menuText : read menuText = .ok (ofTree menuTree) := by
  rfl

/-- The menu that is read is normal. -/
theorem normal_menu : read menuText = .ok (ofTree menuTree) ∧
    Markup.assemble menuText = .ok (ofTree menuTree) ∧ (ofTree menuTree).Normal ∧
    (ofTree menuTree).children ⟨1⟩ = [⟨4⟩, ⟨6⟩, ⟨7⟩] ∧
    (ofTree menuTree).value ⟨5⟩ = "ham & eggs" := by
  obtain ⟨hassemble, hnormal⟩ := normal_of_read read_menuText
  exact ⟨read_menuText, hassemble, hnormal, by decide, by decide⟩

end GuidedXml.Document
