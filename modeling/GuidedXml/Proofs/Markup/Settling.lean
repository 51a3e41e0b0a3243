/-
# Settled contents

A written content does not tell where one text ends and the next one starts, and blank texts are
dropped when it is read. What is read is the settled content: texts side by side have become one
text, and no text is blank.

The main statements say that neat contents are settled, that settling keeps all elements in their
order, and which texts it leaves.
-/
import GuidedXml.Proofs.Document.Tidiness
import GuidedXml.Proofs.Markup.Tags

namespace GuidedXml

/-! ## Runs of texts -/

namespace Text

variable {α β : Type} {isText : α → Bool} {value : α → String} {x : α} {xs ys : List α}

/-- The texts of a list, those side by side joined. Whatever else is in the list stands between two
of them. -/
def runs (isText : α → Bool) (value : α → String) (xs : List α) : List String :=
  (xs.splitOnP fun x => !isText x).map fun run => String.join (run.map value)

/-- Whether a text has more than blanks. -/
def isSolid (text : String) : Bool :=
  !text.toList.all isBlank

/-- The first text that has more than blanks, empty if there is none. -/
def firstSolid (texts : List String) : String :=
  (texts.find? isSolid).getD ""

/-- A text goes on in the texts just after it. -/
theorem runs_cons_text (hx : isText x = true) :
    runs isText value (x :: xs) = (runs isText value xs).modifyHead (value x ++ ·) := by
  rw [runs, runs, List.splitOnP_cons_eq_if_modifyHead, if_neg (by simp [hx])]
  cases xs.splitOnP fun x => !isText x with
  | nil => rfl
  | cons run rest =>
    rw [List.modifyHead_cons, List.map_cons, List.map_cons, List.map_cons, String.join_cons]
    rfl

/-- What is no text ends the texts just before it. -/
theorem runs_cons_other (hx : isText x = false) :
    runs isText value (x :: xs) = "" :: runs isText value xs := by
  rw [runs, List.splitOnP_cons_eq_if_modifyHead, if_pos (by simp [hx])]
  rfl

/-- Nothing put in front of the first text changes it. -/
theorem modifyHead_empty_append (texts : List String) : texts.modifyHead ("" ++ ·) = texts := by
  cases texts <;> simp

/-- Lists with the same texts in the same places have the same runs. -/
theorem runs_eq_of_forall₂ {isText' : β → Bool} {value' : β → String} {ys : List β}
    (hxs : List.Forall₂ (fun x y => isText x = isText' y ∧ (isText x = true → value x = value' y))
      xs ys) : runs isText value xs = runs isText' value' ys := by
  induction hxs with
  | nil => rfl
  | @cons x y xs ys hxy _ ih =>
    obtain ⟨hkind, hvalue⟩ := hxy
    cases hx : isText x with
    | true => rw [runs_cons_text hx, runs_cons_text (hkind ▸ hx), ih, hvalue hx]
    | false => rw [runs_cons_other hx, runs_cons_other (hkind ▸ hx), ih]

/-- A text that has more than blanks and stands alone is the first one to have more than blanks, if
no text comes before it. -/
theorem firstSolid_runs (hxs : ∀ y ∈ xs, isText y = false) (hx : isText x = true)
    (hsolid : isSolid (value x) = true) (hys : ∀ y, ys.head? = some y → isText y = false) :
    firstSolid (runs isText value (xs ++ x :: ys)) = value x := by
  induction xs with
  | nil =>
    have hsplit : ∃ rest, runs isText value ys = "" :: rest := by
      cases ys with
      | nil => exact ⟨[], rfl⟩
      | cons y ys => exact ⟨_, runs_cons_other (hys y rfl)⟩
    obtain ⟨rest, hrest⟩ := hsplit
    rw [List.nil_append, runs_cons_text hx, hrest, List.modifyHead_cons, firstSolid,
      String.append_empty, List.find?_cons_of_pos hsolid]
    rfl
  | cons z zs ih =>
    rw [List.cons_append, runs_cons_other (hxs z (List.mem_cons_self ..)), firstSolid,
      List.find?_cons_of_neg (by decide)]
    exact ih fun y hy => hxs y (List.mem_cons_of_mem _ hy)

/-- If all texts are empty, none has more than blanks. -/
theorem firstSolid_runs_of_forall (hxs : ∀ y ∈ xs, isText y = true → value y = "") :
    firstSolid (runs isText value xs) = "" := by
  suffices hall : ∀ text ∈ runs isText value xs, text = "" by
    rw [firstSolid, List.find?_eq_none.mpr fun text htext => by rw [hall text htext]; decide]
    rfl
  induction xs with
  | nil => simp [runs]
  | cons z zs ih =>
    have ih := ih fun y hy => hxs y (List.mem_cons_of_mem _ hy)
    cases hz : isText z with
    | true =>
      rw [runs_cons_text hz, hxs z (List.mem_cons_self ..) hz, modifyHead_empty_append]
      exact ih
    | false =>
      rw [runs_cons_other hz]
      exact List.forall_mem_cons.mpr ⟨rfl, ih⟩

end Text

/-! ## Settling -/

namespace Markup

/-- What a text that waits for a tag becomes. -/
def kept (cs : List Char) : List Tree :=
  if cs.all Text.isBlank then [] else [.text (String.ofList cs)]

end Markup

namespace Tree

mutual
/-- The content after its texts side by side became one text, and blank ones were dropped. -/
def settled : Tree → Tree
  | node kind name value as ts =>
    if kind = .text then text value else element name as (settledAll [] ts)
/-- What is inside an element after its texts were joined and dropped, where `pending` stands just
before. -/
def settledAll (pending : List Char) : List Tree → List Tree
  | [] => Markup.kept pending
  | t :: ts =>
    if t.kind = .text then settledAll (pending ++ t.ownValue.toList) ts
    else Markup.kept pending ++ settled t :: settledAll [] ts
end

variable {t : Tree} {ts : List Tree}

/-- A text settles as its own value. -/
theorem settled_text (ht : t.kind = .text) : t.settled = text t.ownValue := by
  obtain ⟨kind, name, value, as, ts⟩ := t
  exact if_pos ht

/-- An element settles with its children settled one after the other. -/
theorem settled_element (ht : t.kind ≠ .text) :
    t.settled = element t.name t.attributes (settledAll [] t.children) := by
  obtain ⟨kind, name, value, as, ts⟩ := t
  exact if_neg ht

/-- Settling does not change the kind of content. -/
theorem kind_settled (ht : t.kind = .element ∨ t.kind = .text) : t.settled.kind = t.kind := by
  rcases ht with ht | ht
  · rw [settled_element (by simp [ht]), ht]
    rfl
  · rw [settled_text ht, ht]
    rfl

/-! ## What settling keeps -/

/-- Neat contents, with nothing pending that would join their first text, stay as they are. -/
theorem settledAll_of_neat (hts : ∀ t ∈ ts, t.Neat ∧ t.settled = t)
    (hch : ts.IsChain fun t u => t.kind = .text → u.kind ≠ .text) (cs : List Char)
    (hcs : ∀ t, ts.head? = some t → t.kind = .text → cs = []) :
    settledAll cs ts = Markup.kept cs ++ ts := by
  induction ts generalizing cs with
  | nil => simp [settledAll]
  | cons t ts ih =>
    obtain ⟨hnext, hrest⟩ := List.isChain_cons.mp hch
    have ih := ih (fun u hu => hts u (List.mem_cons_of_mem _ hu)) hrest
    obtain ⟨hneat, hsettled⟩ := hts t (List.mem_cons_self ..)
    rw [settledAll]
    cases hneat with
    | element hkeys hus hin =>
      rw [if_neg (by simp [kind]), hsettled, ih [] fun _ _ _ => rfl]
      rfl
    | @text value hblank =>
      obtain rfl : cs = [] := hcs _ rfl rfl
      have hvalue : Markup.kept value.toList = [.node .text "" value [] []] := by
        rw [Markup.kept, if_neg (by simp [hblank]), String.ofList_toList]
        rfl
      rw [if_pos (by rfl), ih _ fun u hu hk => absurd hk (hnext u hu rfl)]
      exact congrArg (· ++ ts) hvalue

/-- A neat content is settled. -/
theorem Neat.settled_eq (ht : t.Neat) : t.settled = t := by
  induction ht with
  | @element name as ts hkeys hch hts ih =>
    have hinside : settledAll [] ts = ts :=
      (settledAll_of_neat (fun t ht => ⟨hts t ht, ih t ht⟩) hch [] fun _ _ _ => rfl).trans rfl
    rw [settled_element (by simp [kind])]
    exact congrArg (Tree.element name as) hinside
  | text => rfl

/-- The elements inside are the settled ones, in their order. -/
theorem filter_settledAll (hts : ∀ t ∈ ts, t.kind = .element ∨ t.kind = .text) (cs : List Char) :
    (settledAll cs ts).filter (fun t => t.kind = .element) =
      (ts.filter fun t => t.kind = .element).map settled := by
  have hkept : ∀ cs, (Markup.kept cs).filter (fun t => t.kind = .element) = [] := by
    intro cs
    unfold Markup.kept
    split <;> rfl
  induction ts generalizing cs with
  | nil => exact hkept cs
  | cons t ts ih =>
    have ih := ih fun u hu => hts u (List.mem_cons_of_mem _ hu)
    rw [settledAll]
    rcases hts t (List.mem_cons_self ..) with hk | hk
    · have hsettled := (kind_settled (Or.inl hk)).trans hk
      rw [if_neg (by simp [hk]), List.filter_append, hkept, List.nil_append,
        List.filter_cons_of_pos (by simp [hsettled]), List.filter_cons_of_pos (by simp [hk]),
        List.map_cons, ih]
    · rw [if_pos hk, ih, List.filter_cons_of_neg (by simp [hk])]

/-- The elements of a settled element are its elements settled. -/
theorem elements_settled (hk : t.kind = .element)
    (ht : ∀ u ∈ t.children, u.kind = .element ∨ u.kind = .text) :
    t.settled.elements = t.elements.map settled := by
  rw [settled_element (by simp [hk])]
  exact filter_settledAll ht []

/-- The texts inside are those of the runs that have more than blanks, what is pending joined to the
first one. -/
theorem texts_settledAll (ts : List Tree) (cs : List Char) :
    ((settledAll cs ts).filter fun t => t.kind = .text).map ownValue =
      ((Text.runs (fun t : Tree => t.kind = .text) ownValue ts).modifyHead
        (String.ofList cs ++ ·)).filter Text.isSolid := by
  have hkept : ∀ cs, ((Markup.kept cs).filter fun t => t.kind = .text).map ownValue =
      [String.ofList cs].filter Text.isSolid := by
    intro cs
    cases hcs : cs.all Text.isBlank <;> simp [Markup.kept, Text.isSolid, hcs, text, kind, ownValue]
  induction ts generalizing cs with
  | nil =>
    rw [settledAll, hkept]
    exact congrArg (fun text => [text].filter Text.isSolid) String.append_empty.symm
  | cons t ts ih =>
    generalize hruns : Text.runs (fun t : Tree => t.kind = .text) ownValue ts = runs at ih
    rw [settledAll]
    by_cases hk : t.kind = .text
    · -- the text goes on in the texts after it, so it is pending with them
      rw [if_pos hk, ih, Text.runs_cons_text (by simp [hk]), hruns]
      cases runs with
      | nil => rfl
      | cons run rest => simp [String.ofList_append, String.append_assoc]
    · -- what was pending ends here
      have hnot : t.settled.kind ≠ .text := by
        simp [settled_element hk, element, kind]
      rw [if_neg hk, List.filter_append, List.filter_cons_of_neg (by simp [hnot]), List.map_append,
        hkept, ih, String.ofList_nil,
        Text.modifyHead_empty_append, Text.runs_cons_other (by simp [hk]), hruns, List.modifyHead_cons,
        String.append_empty, ← List.filter_append]
      rfl

/-- The first text inside is the first one that had more than blanks. -/
theorem textInside_settled (hk : t.kind = .element) : t.settled.textInside =
    Text.firstSolid (Text.runs (fun u : Tree => u.kind = .text) ownValue t.children) := by
  have htexts := texts_settledAll t.children []
  rw [String.ofList_nil, Text.modifyHead_empty_append] at htexts
  rw [settled_element (by simp [hk]), textInside, Text.firstSolid, ← List.head?_filter,
    ← List.head?_filter, ← htexts, List.head?_map]
  rfl

end Tree

end GuidedXml
