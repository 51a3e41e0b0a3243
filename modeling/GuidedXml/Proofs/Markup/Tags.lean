/-
# Written tags

The names that need no escaping have no character in them that markup gives a meaning. A tag that is
written with such names ends where it was written to end, and its attributes are the written ones.

The main statements say what reading makes of the three kinds of written tags.
-/
import GuidedXml.Markup.Writing
import GuidedXml.Path
import GuidedXml.Proofs.Lists
import GuidedXml.Proofs.Markup.Cutting

namespace GuidedXml.Markup

/-! ## Names -/

/-- A name of one or more alphanumerics, underscores, hyphens, stops and colons. -/
structure IsPlainName (name : String) : Prop where
  nonempty : name.toList ≠ []
  all : ∀ c ∈ name.toList, Path.isNameChar c = true

instance (name : String) : Decidable (IsPlainName name) :=
  decidable_of_iff (name.toList ≠ [] ∧ name.toList.all Path.isNameChar = true)
    ⟨fun h => ⟨h.1, List.all_eq_true.mp h.2⟩, fun h => ⟨h.nonempty, List.all_eq_true.mpr h.all⟩⟩

/-- The characters that markup gives a meaning inside a tag. -/
def reserved : List Char :=
  [' ', '\t', '\n', '\r', '=', '<', '>', '/', '!', '?', '"', '\'', '&']

/-- No reserved character is one of names. -/
theorem isNameChar_of_mem_reserved {c : Char} (hc : c ∈ reserved) :
    Path.isNameChar c = false := by
  have hall : reserved.all (fun c => !Path.isNameChar c) = true := by
    decide +kernel
  simpa using List.all_eq_true.mp hall c hc

/-- No character of a plain name has a meaning in markup. -/
theorem not_mem_reserved {c : Char} (hc : Path.isNameChar c = true) : c ∉ reserved := by
  intro hm
  rw [isNameChar_of_mem_reserved hm] at hc
  simp at hc

/-- No character of names is blank in a tag. -/
theorem isTagBlank_eq_false {c : Char} (hc : Path.isNameChar c = true) : isTagBlank c = false := by
  have := not_mem_reserved hc
  simp only [reserved, List.mem_cons, not_or] at this
  simp [isTagBlank, this]

/-- A plain name starts with one of its characters. -/
theorem IsPlainName.exists_cons {name : String} (hn : IsPlainName name) :
    ∃ c cs, name.toList = c :: cs ∧ Path.isNameChar c = true ∧
      ∀ d ∈ cs, Path.isNameChar d = true := by
  obtain ⟨c, cs, hcs⟩ := List.exists_cons_of_ne_nil hn.nonempty
  refine ⟨c, cs, hcs, hn.all c ?_, fun d hd => hn.all d ?_⟩
  · rw [hcs]
    exact List.mem_cons_self ..
  · rw [hcs]
    exact List.mem_cons_of_mem _ hd

/-! ## Where a tag ends -/

/-- No written form of a text has a quote in it. -/
theorem quote_not_mem_escape (cs : List Char) : '"' ∉ escape cs := by
  intro hm
  obtain ⟨c, -, hc⟩ := List.mem_flatMap.mp hm
  unfold escapeChar at hc
  repeat' split at hc
  all_goals simp at hc
  next hne => exact hne hc.symm

/-- Characters that neither end a tag nor begin a quotation belong to its body. -/
theorem tagBody_append {ds : List Char}
    (hds : ∀ d ∈ ds, d ≠ '>' ∧ d ≠ '"' ∧ d ≠ '\'') (cs : List Char) :
    tagBody none (ds ++ cs) = (tagBody none cs).map fun p => (ds ++ p.1, p.2) := by
  induction ds with
  | nil => simp
  | cons d ds ih =>
    obtain ⟨h₁, h₂, h₃⟩ := hds d (List.mem_cons_self ..)
    rw [List.cons_append, tagBody.eq_def]
    simp only [h₁, h₂, h₃, or_self, if_false]
    rw [ih fun x hx => hds x (List.mem_cons_of_mem _ hx), Option.map_map]
    rfl

/-- What is quoted belongs to the body of a tag. -/
theorem tagBody_quoted {ds : List Char} (hds : '"' ∉ ds) (cs : List Char) :
    tagBody (some '"') (ds ++ '"' :: cs) =
      (tagBody none cs).map fun p => (ds ++ '"' :: p.1, p.2) := by
  induction ds with
  | nil =>
    rw [List.nil_append, tagBody.eq_def]
    simp
  | cons d ds ih =>
    rw [List.mem_cons, not_or] at hds
    rw [List.cons_append, tagBody.eq_def]
    simp only [Ne.symm hds.1, if_false]
    rw [ih hds.2, Option.map_map]
    rfl

/-- A plain name neither ends a tag nor begins a quotation. -/
theorem not_quote_of_isNameChar {name : String} (hn : IsPlainName name) :
    ∀ c ∈ name.toList, c ≠ '>' ∧ c ≠ '"' ∧ c ≠ '\'' := by
  intro c hc
  have := not_mem_reserved (hn.all c hc)
  simp only [reserved, List.mem_cons, not_or] at this
  exact ⟨this.2.2.2.2.2.2.1, this.2.2.2.2.2.2.2.2.2.2.1, this.2.2.2.2.2.2.2.2.2.2.2.1⟩

/-- A written attribute belongs to the body of a tag. -/
theorem tagBody_writeAttribute {a : String × String} (ha : IsPlainName a.1) (cs : List Char) :
    tagBody none (writeAttribute a ++ cs) =
      (tagBody none cs).map fun p => (writeAttribute a ++ p.1, p.2) := by
  have hkey : ∀ d ∈ ' ' :: a.1.toList ++ ['='], d ≠ '>' ∧ d ≠ '"' ∧ d ≠ '\'' := by
    intro d hd
    rcases List.mem_append.mp hd with hd | hd
    · rcases List.mem_cons.mp hd with rfl | hd
      · decide
      · exact not_quote_of_isNameChar ha d hd
    · rw [List.mem_singleton.mp hd]
      decide
  have hsplit : ∀ tail : List Char, writeAttribute a ++ tail =
      (' ' :: a.1.toList ++ ['=']) ++ '"' :: (escape a.2.toList ++ '"' :: tail) := by
    intro tail
    simp [writeAttribute]
  rw [hsplit, tagBody_append hkey, tagBody.eq_def]
  simp only [show ('"' : Char) ≠ '>' by decide, if_false, true_or, if_true]
  rw [tagBody_quoted (quote_not_mem_escape _), Option.map_map, Option.map_map]
  congr 1
  funext p
  simp [hsplit]

/-- The tag of a plain name and written attributes ends where it was written to end. -/
theorem tagBody_attributes {as : List (String × String)} (has : ∀ a ∈ as, IsPlainName a.1)
    (cs : List Char) : tagBody none (as.flatMap writeAttribute ++ cs) =
      (tagBody none cs).map fun p => (as.flatMap writeAttribute ++ p.1, p.2) := by
  induction as with
  | nil => simp
  | cons a as ih =>
    rw [List.flatMap_cons, List.append_assoc, tagBody_writeAttribute (has a (List.mem_cons_self ..)),
      ih fun b hb => has b (List.mem_cons_of_mem _ hb), Option.map_map]
    simp [Function.comp_def]

/-! ## Attributes -/

/-- A text is cut at the first separator. -/
theorem cutAt_append {sep : Char} {ds : List Char} (hds : sep ∉ ds) (cs : List Char) :
    Text.cutAt sep (ds ++ sep :: cs) = some (ds, cs) := by
  induction ds with
  | nil => simp [Text.cutAt]
  | cons d ds ih =>
    rw [List.mem_cons, not_or] at hds
    simp [Text.cutAt, Ne.symm hds.1, ih hds.2]

/-- A written attribute is the next attribute of the tag. -/
theorem nextAttribute_writeAttribute {a : String × String} (ha : IsPlainName a.1)
    (cs : List Char) : nextAttribute (writeAttribute a ++ cs) =
      .ok (some ((a.1.toList, escape a.2.toList), cs)) := by
  obtain ⟨c, name, hname, hc, hrest⟩ := ha.exists_cons
  have hblank := isTagBlank_eq_false hc
  have hkey : ∀ d ∈ name, (d ≠ '=' && !isTagBlank d) = true := by
    intro d hd
    have := not_mem_reserved (hrest d hd)
    simp only [reserved, List.mem_cons, not_or] at this
    simp [isTagBlank_eq_false (hrest d hd), this]
  have hstop : ∀ c ∈ ('=' :: '"' :: (escape a.2.toList ++ '"' :: cs)).head?,
      (c ≠ '=' && !isTagBlank c) = false := by simp
  have hstart : (writeAttribute a ++ cs).dropWhile isTagBlank =
      c :: (name ++ '=' :: '"' :: (escape a.2.toList ++ '"' :: cs)) := by
    have hspace : isTagBlank ' ' = true := by decide
    simp [writeAttribute, hname, hspace, hblank]
  rw [nextAttribute, hstart]
  simp only [Lists.takeWhile_append hkey hstop, Lists.dropWhile_append hkey hstop]
  simp [isTagBlank, cutAt_append (quote_not_mem_escape _), hname]

/-- Written attributes of different names are read as they were written. -/
theorem attributesAux_writeAttribute {as : List (String × String)}
    (has : ∀ a ∈ as, IsPlainName a.1) (hnd : (as.map Prod.fst).Nodup) {seen : List String}
    (hseen : ∀ a ∈ as, a.1 ∉ seen) {fuel : Nat} (hf : as.length < fuel) :
    attributesAux seen fuel (as.flatMap writeAttribute) = .ok as := by
  induction as generalizing seen fuel with
  | nil =>
    obtain ⟨n, rfl⟩ : ∃ n, fuel = n + 1 := ⟨fuel - 1, by simp at hf; omega⟩
    rfl
  | cons a as ih =>
    obtain ⟨n, rfl⟩ : ∃ n, fuel = n + 1 := ⟨fuel - 1, by omega⟩
    rw [List.map_cons, List.nodup_cons] at hnd
    have hrest : attributesAux (a.1 :: seen) n (as.flatMap writeAttribute) = .ok as := by
      refine ih (fun b hb => has b (List.mem_cons_of_mem _ hb)) hnd.2 (fun b hb hm => ?_)
        (Nat.lt_of_succ_lt_succ hf)
      rcases List.mem_cons.mp hm with heq | hm
      · exact hnd.1 (heq ▸ List.mem_map_of_mem hb)
      · exact hseen b (List.mem_cons_of_mem _ hb) hm
    have hnew : seen.contains a.1 = false := by
      simpa using hseen a (List.mem_cons_self ..)
    rw [List.flatMap_cons, attributesAux,
      nextAttribute_writeAttribute (has a (List.mem_cons_self ..))]
    simp only [String.ofList_toList, hnew, Bool.false_eq_true, if_false, unescape?_escape, hrest,
      Except.map]

/-- Attributes are no more than the characters they are written with. -/
theorem length_le_flatMap_writeAttribute (as : List (String × String)) :
    as.length ≤ (as.flatMap writeAttribute).length := by
  induction as with
  | nil => simp
  | cons a as ih =>
    rw [List.flatMap_cons, List.length_append, List.length_cons]
    have : 1 ≤ (writeAttribute a).length := by simp [writeAttribute]
    omega

/-- The tag of a plain name and written attributes is read as it was written. -/
theorem readTag_write {name : String} {as : List (String × String)} (hn : IsPlainName name)
    (has : ∀ a ∈ as, IsPlainName a.1) (hnd : (as.map Prod.fst).Nodup) :
    readTag (name.toList ++ as.flatMap writeAttribute) = .ok (name, as) := by
  have hname : ∀ c ∈ name.toList, (!isTagBlank c) = true := by
    intro c hc
    rw [isTagBlank_eq_false (hn.all c hc)]
    rfl
  -- a written attribute starts with a blank
  have hstop : ∀ c ∈ (as.flatMap writeAttribute).head?, (!isTagBlank c) = false := by
    cases as with
    | nil => simp
    | cons a as => simp [writeAttribute, show isTagBlank ' ' = true by decide]
  rw [readTag]
  simp only [Lists.takeWhile_append hname hstop, Lists.dropWhile_append hname hstop]
  rw [attributesAux_writeAttribute has hnd (by simp)
    (Nat.lt_succ_of_le (length_le_flatMap_writeAttribute as))]
  simp [Except.map]

/-! ## Tags -/

/-- Only a slash after them all makes a tag of written attributes the tag of an empty element. -/
theorem getLast?_write {name : String} (hn : IsPlainName name) (as : List (String × String)) :
    (name.toList ++ as.flatMap writeAttribute).getLast? ≠ some '/' := by
  rcases List.eq_nil_or_concat as with rfl | ⟨bs, b, rfl⟩
  · intro hlast
    have hmem := List.mem_of_getLast? hlast
    rw [List.flatMap_nil, List.append_nil] at hmem
    exact not_mem_reserved (hn.all _ hmem) (by decide)
  · have hend : ∀ ds : List Char, (ds ++ writeAttribute b).getLast? = some '"' := by
      intro ds
      rw [writeAttribute, ← List.append_assoc]
      exact List.getLast?_concat ..
    rw [List.concat_eq_append, List.flatMap_append, List.flatMap_singleton, ← List.append_assoc,
      hend]
    decide

/-- What follows the bracket of a tag that starts like a plain name is the tag. -/
theorem markupItem_of_isNameChar {c : Char} (hc : Path.isNameChar c = true) {cs body rest : List Char}
    (hbody : tagBody none (c :: cs) = some (body, rest)) :
    markupItem (c :: cs) = (tagItem body, rest) := by
  have hres := not_mem_reserved hc
  simp only [reserved, List.mem_cons, not_or] at hres
  unfold markupItem
  split
  · next heq => exact absurd (List.cons.inj heq).1 (by simp [hres])
  · next heq => exact absurd (List.cons.inj heq).1 (by simp [hres])
  · next heq => exact absurd (List.cons.inj heq).1 (by simp [hres])
  · next heq => exact absurd (List.cons.inj heq).1 (by simp [hres])
  · rw [hbody]

section

variable {name : String} {as : List (String × String)} {r : Reading} {total : Nat}

/-- What follows the bracket of a written tag. -/
theorem tagBody_write (hn : IsPlainName name) (has : ∀ a ∈ as, IsPlainName a.1)
    (cs : List Char) : tagBody none (name.toList ++ (as.flatMap writeAttribute ++ cs)) =
      (tagBody none cs).map fun p => (name.toList ++ (as.flatMap writeAttribute ++ p.1), p.2) := by
  rw [tagBody_append (not_quote_of_isNameChar hn), tagBody_attributes has, Option.map_map]
  rfl

/-- A written start tag opens the element that it names. -/
theorem Reading.readOn_startTag (hn : IsPlainName name) (has : ∀ a ∈ as, IsPlainName a.1)
    (hnd : (as.map Prod.fst).Nodup) (hfull : r.flush.isFull = false) (cs : List Char) :
    r.readOn total ('<' :: (name.toList ++ (as.flatMap writeAttribute ++ '>' :: cs))) =
      ({ r.flush with stack := ⟨name, as, []⟩ :: r.flush.stack } : Reading).readOn total cs := by
  obtain ⟨c, ds, hname, hc, -⟩ := hn.exists_cons
  have hitem : tagItem (name.toList ++ as.flatMap writeAttribute) = .opening name as := by
    rw [tagItem]
    simp only [getLast?_write hn as, if_false, readTag_write hn has hnd]
  have hbody := tagBody_write hn has ('>' :: cs)
  rw [show tagBody none ('>' :: cs) = some ([], cs) by rfl, hname, List.cons_append] at hbody
  rw [hname, List.cons_append] at hitem ⊢
  refine readOn_of_nextItem (.opening name as) ?_ fun position => ?_
  · have := markupItem_of_isNameChar hc hbody
    simp only [List.append_nil, List.cons_append, hitem] at this
    exact this
  · simp only [step, hfull, Bool.false_eq_true, if_false]

/-- The written tag of an empty element is read as that element. -/
theorem Reading.readOn_emptyTag (hn : IsPlainName name) (has : ∀ a ∈ as, IsPlainName a.1)
    (hnd : (as.map Prod.fst).Nodup) (hfull : r.flush.isFull = false) (cs : List Char) :
    r.readOn total ('<' :: (name.toList ++ (as.flatMap writeAttribute ++ '/' :: '>' :: cs))) =
      (r.flush.place (.element name as [])).readOn total cs := by
  obtain ⟨c, ds, hname, hc, -⟩ := hn.exists_cons
  have hitem : tagItem (name.toList ++ (as.flatMap writeAttribute ++ ['/'])) =
      .empty name as := by
    rw [tagItem, ← List.append_assoc, List.getLast?_concat, List.dropLast_concat]
    simp only [if_true, readTag_write hn has hnd]
  have hbody := tagBody_write hn has ('/' :: '>' :: cs)
  rw [show tagBody none ('/' :: '>' :: cs) = some (['/'], cs) by rfl, hname,
    List.cons_append] at hbody
  rw [hname, List.cons_append] at hitem ⊢
  refine readOn_of_nextItem (.empty name as) ?_ fun position => ?_
  · have := markupItem_of_isNameChar hc hbody
    simp only [List.cons_append, hitem] at this
    exact this
  · simp only [step, hfull, Bool.false_eq_true, if_false]

/-- A written end tag completes the innermost element of its name. -/
theorem Reading.readOn_endTag (hn : IsPlainName name) {o : Open} {os : List Open}
    (hstack : r.flush.stack = o :: os) (ho : o.name = name) (cs : List Char) :
    r.readOn total ('<' :: '/' :: (name.toList ++ '>' :: cs)) =
      (({ r.flush with stack := os } : Reading).place o.close).readOn total cs := by
  have hbody : tagBody none (name.toList ++ '>' :: cs) = some (name.toList, cs) := by
    rw [tagBody_append (not_quote_of_isNameChar hn), show tagBody none ('>' :: cs) = some ([], cs) by rfl]
    simp
  have hitem : endTagItem name.toList = .closing name := by
    have hend : name.toList.reverse.dropWhile isTagBlank = name.toList.reverse := by
      cases hrev : name.toList.reverse with
      | nil => rfl
      | cons c ds =>
        have hc : c ∈ name.toList := List.mem_reverse.mp (hrev ▸ List.mem_cons_self ..)
        rw [List.dropWhile_cons, isTagBlank_eq_false (hn.all c hc), if_neg Bool.false_ne_true]
    simp [endTagItem, hend, hn.nonempty]
  refine readOn_of_nextItem (.closing name) ?_ fun position => ?_
  · show markupItem ('/' :: (name.toList ++ '>' :: cs)) = _
    rw [markupItem]
    simp only [hbody, hitem]
  · simp only [step, hstack, ho, if_true]

end

end GuidedXml.Markup
