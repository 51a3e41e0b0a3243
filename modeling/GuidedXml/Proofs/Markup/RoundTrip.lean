/-
# Reading what was written

Reading follows the written form of a content: an element is placed when its last tag was read, and
a text waits for the tag after it. The line breaks of the written form stand where no text is
waiting, so they are dropped as blanks.

The main statements say that the settled form of a content is read where it was written, in lines of
any indentation, and that a document that was read, written and read again is the same document, if
its names need no escaping.
-/
import GuidedXml.Proofs.Document.Content
import GuidedXml.Proofs.Markup.Settling

namespace GuidedXml

/-- A content whose elements and attributes have plain names. -/
inductive Tree.PlainlyNamed : Tree → Prop
  | node {kind : Kind} {name value : String} {as : List (String × String)} {ts : List Tree} :
      (kind = .element → Markup.IsPlainName name) → (∀ a ∈ as, Markup.IsPlainName a.1) →
      (∀ t ∈ ts, Tree.PlainlyNamed t) → Tree.PlainlyNamed (.node kind name value as ts)

/-- An element or text that can be read again where it is written. -/
structure Tree.Writable (t : Tree) : Prop extends Markup.IsContent t where
  keyed : t.Keyed
  named : t.PlainlyNamed

/-- What is inside can be read again, too. -/
theorem Tree.Writable.inside {kind : Kind} {name value : String} {as : List (String × String)}
    {ts : List Tree} (ht : (node kind name value as ts).Writable) : ∀ t ∈ ts, t.Writable := by
  obtain ⟨⟨-, ⟨-, -, hkinds, hproper⟩⟩, ⟨-, hkeyed⟩, ⟨-, -, hnamed⟩⟩ := ht
  exact fun t ht => ⟨⟨hkinds t ht, hproper t ht⟩, hkeyed t ht, hnamed t ht⟩

/-- A neat tree can be content. -/
theorem Tree.Neat.isContent {t : Tree} (ht : t.Neat) : Markup.IsContent t := by
  induction ht with
  | element _ _ _ ih => exact Markup.isContent_element ih
  | text => exact Markup.isContent_text _

namespace Markup

/-! ## Line breaks -/

/-- A line break has line feeds and blanks only. -/
theorem mem_lineBreak {width depth : Nat} {c : Char} (hc : c ∈ lineBreak width depth) :
    c = '\n' ∨ c = ' ' := by
  unfold lineBreak at hc
  split at hc
  · simp at hc
  · rcases List.mem_cons.mp hc with rfl | hc
    · exact Or.inl rfl
    · exact Or.inr (List.eq_of_mem_replicate hc)

/-- A line break is blank. -/
theorem isBlank_lineBreak (width depth : Nat) : (lineBreak width depth).all Text.isBlank = true := by
  refine List.all_eq_true.mpr fun c hc => ?_
  rcases mem_lineBreak hc with rfl | rfl <;> decide

namespace Reading

variable {r : Reading}

/-- More blanks before a tag make no difference where no text is waiting. -/
theorem flush_carry (hr : r.pending.all Text.isBlank = true) {ds : List Char}
    (hds : ds.all Text.isBlank = true) : (r.carry ds).flush = r.flush := by
  unfold flush carry
  cases r.stack with
  | nil => rfl
  | cons o os => simp only [List.all_append, hr, hds, Bool.and_self, if_true]

/-- The line break before a tag is read as nothing. -/
theorem readOn_lineBreak {fresh : Bool} (hr : fresh = true → r.pending.all Text.isBlank = true)
    (total width depth : Nat) (cs : List Char) :
    ∃ r' : Reading, r'.flush = r.flush ∧
      r.readOn total ((if fresh then lineBreak width depth else []) ++ cs) =
        r'.readOn total cs := by
  cases fresh with
  | false => exact ⟨r, rfl, rfl⟩
  | true =>
    refine ⟨r.carry (lineBreak width depth), flush_carry (hr rfl) (isBlank_lineBreak _ _), ?_⟩
    rw [if_pos rfl, readOn_append_plain]
    intro d hd
    rcases mem_lineBreak hd with rfl | rfl <;> decide

/-! ## Contents one after the other -/

/-- The reading after a whole content: a text waits for the next tag, and an element is placed. -/
def hold (r : Reading) (t : Tree) : Reading :=
  if t.kind = .text then r.carry t.ownValue.toList else r.flush.place t

/-- Flushing closes no element. -/
theorem stack_flush_ne_nil (hr : r.stack ≠ []) : r.flush.stack ≠ [] := by
  obtain ⟨o, os, hs⟩ := List.exists_cons_of_ne_nil hr
  unfold flush
  rw [hs]
  simp only
  split <;> simp

/-- Holding a tree closes no element. -/
theorem stack_hold_ne_nil (hr : r.stack ≠ []) (t : Tree) : (r.hold t).stack ≠ [] := by
  unfold hold
  split
  · exact hr
  · obtain ⟨o, os, hs⟩ := List.exists_cons_of_ne_nil (stack_flush_ne_nil hr)
    simp [place, hs]

/-- Inside of an element a reading is not full. -/
theorem isFull_flush (hr : r.stack ≠ []) : r.flush.isFull = false := by
  simp [isFull, stack_flush_ne_nil hr]

/-- Placing a tree leaves what is pending. -/
theorem pending_place (r : Reading) (t : Tree) : (r.place t).pending = r.pending := by
  unfold place
  split <;> rfl

/-- No text is waiting after an element. -/
theorem pending_hold {t : Tree} (ht : breaksAfter t = true) : (r.hold t).pending = [] := by
  have hk : t.kind ≠ .text := by simpa [breaksAfter] using ht
  rw [hold, if_neg hk, pending_place]
  rfl

/-- A settled element is still an element, and a settled text a text. -/
theorem breaksAfter_settled {t : Tree} (ht : IsContent t) :
    breaksAfter t.settled = breaksAfter t := by
  rw [breaksAfter, Tree.kind_settled ht.kind]
  rfl

/-- Settling trees does not change whether a line breaks after the last one. -/
theorem getLast?_settled {ts : List Tree} (hts : ∀ t ∈ ts, IsContent t) :
    ((ts.map Tree.settled).getLast?).map breaksAfter = (ts.getLast?).map breaksAfter := by
  rw [List.getLast?_map, Option.map_map]
  cases hlast : ts.getLast? with
  | none => rfl
  | some t => exact congrArg some (breaksAfter_settled (hts t (List.mem_of_getLast? hlast)))

/-- No text is waiting after contents that do not end with one. -/
theorem pending_foldl_hold (hr : r.pending = []) {ts : List Tree}
    (hlast : ((ts.getLast?).map breaksAfter).getD true = true) :
    (ts.foldl hold r).pending = [] := by
  rcases List.eq_nil_or_concat ts with rfl | ⟨us, u, rfl⟩
  · exact hr
  · rw [List.concat_eq_append, List.foldl_append]
    refine pending_hold ?_
    simpa using hlast

/-- One text at most is kept, so that its order does not matter. -/
theorem reverse_kept (cs : List Char) : (kept cs).reverse = kept cs := by
  unfold kept
  split <;> rfl

/-- Flushing adds what is kept of the pending text to the innermost element. -/
theorem flush_mk (o : Open) (os : List Open) (cs : List Char) (root : Option Tree) :
    (⟨o :: os, cs, root⟩ : Reading).flush =
      ⟨{ o with inside := kept cs ++ o.inside } :: os, [], root⟩ := by
  unfold flush kept
  simp only
  split <;> rfl

/-- Held inside an open element and ended by a tag, contents come settled inside that element. -/
theorem flush_foldl_hold (ts : List Tree) (o : Open) (os : List Open) (cs : List Char)
    (root : Option Tree) :
    ((ts.map Tree.settled).foldl hold ⟨o :: os, cs, root⟩).flush =
      ⟨{ o with inside := (Tree.settledAll cs ts).reverse ++ o.inside } :: os, [], root⟩ := by
  induction ts generalizing o cs with
  | nil =>
    rw [Tree.settledAll, reverse_kept]
    exact flush_mk o os cs root
  | cons t ts ih =>
    rw [List.map_cons, List.foldl_cons, Tree.settledAll]
    by_cases hk : t.kind = .text
    · have hhold : hold ⟨o :: os, cs, root⟩ t.settled =
          ⟨o :: os, cs ++ t.ownValue.toList, root⟩ := by
        rw [Tree.settled_text hk]
        rfl
      rw [hhold, ih, if_pos hk]
    · have hhold : hold ⟨o :: os, cs, root⟩ t.settled =
          ⟨{ o with inside := t.settled :: (kept cs ++ o.inside) } :: os, [], root⟩ := by
        rw [Tree.settled_element hk, hold, if_neg (by simp [Tree.kind, Tree.element]), flush_mk]
        rfl
      rw [hhold, ih, if_neg hk]
      simp [reverse_kept]

/-! ## Written contents -/

mutual
/-- Reading follows the written form of a content. -/
theorem readOn_writeAt (total width : Nat) : ∀ (t : Tree), t.Writable →
    ∀ (depth : Nat) (fresh : Bool) (r : Reading) (cs : List Char),
      (fresh = true → r.pending.all Text.isBlank = true) →
      (t.kind = .element → r.flush.isFull = false) →
      r.readOn total (writeAt width depth fresh t ++ cs) = (r.hold t.settled).readOn total cs
  | .node .text name value as ts, _, depth, fresh, r, cs, _, _ => by
    rw [writeAt, if_pos rfl, readOn_escape, Tree.settled_text rfl, hold, if_pos (by rfl)]
    rfl
  | .node .element name value as ts, ht, depth, fresh, r, cs, hfresh, hfull => by
    obtain ⟨hkeys, -⟩ := ht.keyed
    obtain ⟨hname, has, -⟩ := ht.named
    have hplain := hname rfl
    obtain ⟨r₁, hflush, hbreak⟩ := readOn_lineBreak hfresh total width depth
      ('<' :: (name.toList ++ (as.flatMap writeAttribute ++ (if ts.isEmpty then '/' :: '>' :: cs
        else '>' :: (writeAllAt width (depth + 1) true ts ++
          ((if ((ts.getLast?).map breaksAfter).getD true then lineBreak width depth else []) ++
            '<' :: '/' :: (name.toList ++ '>' :: cs)))))))
    have hsplit : writeAt width depth fresh (.node .element name value as ts) ++ cs =
        (if fresh then lineBreak width depth else []) ++
      ('<' :: (name.toList ++ (as.flatMap writeAttribute ++ (if ts.isEmpty then '/' :: '>' :: cs
        else '>' :: (writeAllAt width (depth + 1) true ts ++
          ((if ((ts.getLast?).map breaksAfter).getD true then lineBreak width depth else []) ++
            '<' :: '/' :: (name.toList ++ '>' :: cs))))))) := by
      rw [writeAt, if_neg (by simp)]
      simp only
      split <;> simp
    -- an element is held by placing it once everything inside of it is settled
    have hhold : r.hold (Tree.node .element name value as ts).settled =
        r.flush.place (.element name as (Tree.settledAll [] ts)) := by
      rw [Tree.settled_element (by simp [Tree.kind]), hold, if_neg (by simp [Tree.kind, Tree.element])]
      rfl
    rw [hsplit, hbreak, hhold]
    have hfull₁ : r₁.flush.isFull = false := hflush ▸ hfull rfl
    by_cases hempty : ts.isEmpty = true
    · obtain rfl := List.isEmpty_iff.mp hempty
      rw [if_pos hempty, readOn_emptyTag hplain has hkeys hfull₁, hflush]
      rfl
    · rw [if_neg hempty, readOn_startTag hplain has hkeys hfull₁,
        readOn_writeAllAt total width ts ht.inside (depth + 1) true _ _ (by simp) fun _ => rfl]
      -- the line that breaks before the end tag is blank, and what is pending there is flushed the
      -- same
      obtain ⟨r₂, hflush₂, hbreak₂⟩ := readOn_lineBreak
        (r := (ts.map Tree.settled).foldl hold
          { r₁.flush with stack := ⟨name, as, []⟩ :: r₁.flush.stack })
        (fun hlast => by
          rw [pending_foldl_hold rfl (by rwa [getLast?_settled fun t hmem => (ht.inside t hmem).toIsContent])]
          rfl)
        total width depth ('<' :: '/' :: (name.toList ++ '>' :: cs))
      have hclosed : r₂.flush =
          ⟨⟨name, as, (Tree.settledAll [] ts).reverse⟩ :: r.flush.stack, [], r.flush.root⟩ := by
        rw [hflush₂, hflush]
        exact (flush_foldl_hold ts ⟨name, as, []⟩ r.flush.stack [] r.flush.root).trans (by simp)
      rw [hbreak₂, readOn_endTag hplain (congrArg Reading.stack hclosed) rfl, hclosed]
      simp [Open.close]
      rfl
  | .node .document _ _ _ _, ht, _, _, _, _, _, _ => by simpa [Tree.kind] using ht.kind
  | .node .attribute _ _ _ _, ht, _, _, _, _, _, _ => by simpa [Tree.kind] using ht.kind
/-- Reading follows the written form of contents one after the other. -/
theorem readOn_writeAllAt (total width : Nat) : ∀ (ts : List Tree),
    (∀ t ∈ ts, t.Writable) → ∀ (depth : Nat) (fresh : Bool) (r : Reading) (cs : List Char),
      r.stack ≠ [] → (fresh = true → r.pending.all Text.isBlank = true) →
      r.readOn total (writeAllAt width depth fresh ts ++ cs) =
        ((ts.map Tree.settled).foldl hold r).readOn total cs
  | [], _, depth, fresh, r, cs, _, _ => rfl
  | t :: ts, hts, depth, fresh, r, cs, hstack, hfresh => by
    have ht := hts t (List.mem_cons_self ..)
    rw [writeAllAt, List.append_assoc, readOn_writeAt total width t ht depth fresh r _ hfresh
        fun _ => isFull_flush hstack,
      readOn_writeAllAt total width ts (fun u hu => hts u (List.mem_cons_of_mem _ hu)) depth
        (breaksAfter t) _ cs (stack_hold_ne_nil hstack _) fun hb => by
          rw [pending_hold (by rwa [breaksAfter_settled ht.toIsContent])]; rfl]
    rfl
end

end Reading

/-! ## Written documents -/

/-- A declaration in front is read over. -/
theorem readOn_declaration (total : Nat) (cs : List Char) :
    ({} : Reading).readOn total (declaration ++ cs) = ({} : Reading).readOn total cs :=
  Reading.readOn_of_nextItem .skipped rfl fun _ => rfl

/-- The written form of an element is read as its settled form. -/
theorem readTree_writeDocument_of_writable {root : Tree} (ht : root.Writable)
    (hk : root.kind = .element) (width : Nat) :
    readTree (writeDocument width root) = .ok root.settled := by
  obtain ⟨cs, hcs⟩ : ∃ cs, declaration ++ writeAt width 0 true root = '<' :: cs := ⟨_, rfl⟩
  have hsettled := (Tree.kind_settled (Or.inl hk)).trans hk
  have hrun : Reading.run {} (items ('<' :: cs)) = .ok { root := some root.settled } := by
    show ({} : Reading).readOn _ ('<' :: cs) = _
    rw [← hcs, readOn_declaration, ← List.append_nil (writeAt width 0 true root),
      Reading.readOn_writeAt _ width root ht 0 true {} [] (fun _ => rfl) fun _ => rfl,
      Reading.hold, if_neg (by simp [hsettled])]
    rfl
  rw [readTree, writeDocument, String.toList_ofList, hcs, dropMark, if_neg (by decide), readChars,
    hrun]
  rfl

/-- The written form of a neat element with plain names is read as that element. -/
theorem readTree_writeDocument {root : Tree} (hneat : root.Neat) (hnamed : root.PlainlyNamed)
    (hk : root.kind = .element) (width : Nat) :
    readTree (writeDocument width root) = .ok root := by
  rw [readTree_writeDocument_of_writable ⟨hneat.isContent, hneat.keyed, hnamed⟩ hk,
    hneat.settled_eq]

end Markup

namespace Document

/-- All elements and attributes have plain names. -/
def PlainlyNamed (d : Document) : Prop :=
  ∀ h, d.isElement h = true ∨ d.isAttribute h = true → Markup.IsPlainName (d.name h)

variable {d : Document}

/-- Plain names of all stored elements and attributes can be checked one by one. -/
theorem plainlyNamed_iff : d.PlainlyNamed ↔ ∀ n ∈ d.slots.toList.filterMap id,
    n.kind = .element ∨ n.kind = .attribute → Markup.IsPlainName n.name := by
  constructor
  · intro hd n hn hk
    obtain ⟨o, ho, rfl⟩ := List.mem_filterMap.mp hn
    obtain ⟨i, hi⟩ := List.mem_iff_getElem?.mp ho
    have hnode : d.node? ⟨i⟩ = some n := by
      rw [node?, ← Array.getElem?_toList, hi]
      rfl
    have := hd ⟨i⟩ (by simpa [isElement, isAttribute, kind?, hnode] using hk)
    simpa [Document.name, hnode] using this
  · intro hd h hk
    obtain ⟨n, hn⟩ : ∃ n, d.node? h = some n := by
      refine Option.ne_none_iff_exists'.mp fun hnone => ?_
      simp [isElement, isAttribute, kind?, hnone] at hk
    have hmem : n ∈ d.slots.toList.filterMap id := by
      have hslot := Option.join_eq_some_iff.mp hn
      rw [← Array.getElem?_toList] at hslot
      exact List.mem_filterMap.mpr ⟨_, List.mem_of_getElem? hslot, rfl⟩
    have := hd n hmem (by simpa [isElement, isAttribute, kind?, hn] using hk)
    simpa [Document.name, hn] using this

instance : Decidable d.PlainlyNamed :=
  decidable_of_iff _ plainlyNamed_iff.symm

mutual
/-- Where a document has plain names, so has a tree that it holds. -/
theorem plainlyNamed_of_holds (hd : d.PlainlyNamed) : ∀ (t : Tree) {parent : Option Handle}
    {first : Nat}, d.Holds parent first t → t.PlainlyNamed
  | .node kind name value as ts, parent, first, hs => by
    rw [Holds] at hs
    obtain ⟨hnode, hattributes, hchildren⟩ := hs
    refine Tree.PlainlyNamed.node ?_ ?_ (plainlyNamed_of_holdsAll hd ts hchildren)
    · intro hk
      have := hd ⟨first⟩ (Or.inl (by simp [isElement, kind?, hnode, hk]))
      simpa [Document.name, hnode] using this
    · intro a ha
      obtain ⟨i, hi⟩ := List.mem_iff_getElem?.mp ha
      have hn := hattributes i a hi
      have := hd ⟨first + 1 + i⟩ (Or.inr (by simp [isAttribute, kind?, hn]))
      simpa [Document.name, hn] using this
/-- Where a document has plain names, so have the trees that it holds. -/
theorem plainlyNamed_of_holdsAll (hd : d.PlainlyNamed) : ∀ (ts : List Tree)
    {parent : Option Handle} {first : Nat}, d.HoldsAll parent first ts →
      ∀ t ∈ ts, t.PlainlyNamed
  | [], _, _, _ => by simp
  | t :: ts, _, _, hs => by
    intro u hu
    rcases List.mem_cons.mp hu with heq | hu
    · exact heq ▸ plainlyNamed_of_holds hd t hs.1
    · exact plainlyNamed_of_holdsAll hd ts hs.2 u hu
end

/-- A document that a text writes and whose names need no escaping can be written in lines of any
indentation, and what is written reads as the same document. -/
theorem read_save {text : String} (hd : read text = .ok d) (hn : d.PlainlyNamed) (width : Nat) :
    ∃ written, d.save width = .ok written ∧ read written = .ok d := by
  unfold read at hd
  cases ht : Markup.readTree text with
  | error fault => rw [ht] at hd; simp [Except.map] at hd
  | ok root =>
    rw [ht] at hd
    obtain rfl := Except.ok.inj hd
    have hneat := Markup.neat_of_readTree ht
    have hk := (Markup.isContent_of_readTree ht).2
    obtain ⟨hroot, hcontent⟩ := content?_root?_ofTree hk
    obtain ⟨-, -, hstored, -⟩ := holds_ofTree root
    refine ⟨Markup.writeDocument width root, ?_, ?_⟩
    · simp only [save, hroot, hcontent]
    · rw [read, Markup.readTree_writeDocument hneat (plainlyNamed_of_holds hn root hstored) hk]
      rfl

/-- A letter in two lines, with texts beside elements and with references. -/
def letterText : String :=
  "<letter to='Ada &amp; Eve'>\n  <p>Dear <b>both</b>,<br/> n &lt; 2</p>\n</letter>"

/-- What the letter holds. -/
def letterTree : Tree :=
  .element "letter" [("to", "Ada & Eve")]
    [.element "p" [] [.text "Dear ", .element "b" [] [.text "both"], .text ",",
      .element "br" [] [], .text " n < 2"]]

/-- The text of the letter is read as its tree. -/
theorem read_letterText : read letterText = .ok (ofTree letterTree) := by
  rfl

/-- The letter has plain names. -/
theorem plainlyNamed_letter : (ofTree letterTree).PlainlyNamed := by
  decide +kernel

/-- The letter is read again as it was saved. -/
theorem read_save_letter : read letterText = .ok (ofTree letterTree) ∧
    (ofTree letterTree).PlainlyNamed ∧ ∃ written, (ofTree letterTree).save 2 = .ok written ∧
      read written = .ok (ofTree letterTree) :=
  ⟨read_letterText, plainlyNamed_letter, read_save read_letterText plainlyNamed_letter 2⟩

end Document

end GuidedXml
