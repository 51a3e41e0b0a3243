/-
# Who claims a name

A bound node whose constraint makes its value a name is entitled to that name. Claims are written
when nodes are bound and withdrawn when they are unbound or forgotten, always by the value that the
node shows at that moment.

The main statements say that the nodes in line for a name are those entitled to it while nodes are
made, bound and forgotten, and that those who stay in line keep their order.
-/
import GuidedXml.Proofs.Editing.Building
import GuidedXml.Proofs.Table

namespace GuidedXml

open Schema (ConstraintId)

/-! ## Lines -/

namespace Claims

variable {c c' c'' : Claims} {name other : String} {h k : Handle} {n : Nat}

/-- No node stands in a line twice, nobody claims the empty name, and a name that nobody claims has
no line. -/
structure Proper (c : Claims) : Prop where
  nodup : ∀ name, (c.candidates name).Nodup
  unnamed : c.lines.get? "" = none
  nonempty : ∀ name, c.lines.get? name ≠ some []

/-- Claims without any line are proper. -/
theorem proper_empty : ({} : Claims).Proper :=
  ⟨fun _ => List.nodup_nil, rfl, fun _ => by simp [Table.get?, Table.lookup]⟩

/-- Claims stay proper with a line of distinct nodes under a name. -/
theorem Proper.setLine (hc : c.Proper) {line : List Handle} (hname : name ≠ "")
    (hnd : line.Nodup) : (c.setLine name line).Proper where
  nodup := by
    intro other
    rw [candidates_setLine]
    split_ifs
    · exact hnd
    · exact hc.nodup other
  unnamed := by
    rw [Claims.setLine, Table.get?_putList, if_neg (Ne.symm hname)]
    exact hc.unnamed
  nonempty := by
    intro other
    rw [Claims.setLine, Table.get?_putList]
    split_ifs with ho hline
    · simp
    · simpa using hline
    · exact hc.nonempty other

/-- Nobody waits for the empty name. -/
theorem Proper.candidates_unnamed (hc : c.Proper) : c.candidates "" = [] := by
  rw [candidates, Table.getD, hc.unnamed]
  rfl

/-- Claims stay proper when a node claims a name. -/
theorem Proper.register (hc : c.Proper) (name : String) (h : Handle) :
    (c.register name h).Proper := by
  unfold Claims.register
  split
  · exact hc
  · rename_i hno
    rw [Bool.or_eq_true, not_or, decide_eq_true_eq, List.contains_iff_mem] at hno
    refine hc.setLine hno.1 (List.nodup_append.mpr ⟨hc.nodup name, by simp, ?_⟩)
    intro a ha b hb
    rw [List.mem_singleton.mp hb]
    rintro rfl
    exact hno.2 ha

/-- Claims stay proper when a node gives up a name. -/
theorem Proper.release (hc : c.Proper) (name : String) (h : Handle) :
    (c.release name h).1.Proper := by
  unfold Claims.release
  dsimp only
  split
  · rename_i hmem
    rw [List.contains_iff_mem] at hmem
    refine hc.setLine ?_ ((hc.nodup name).erase h)
    rintro rfl
    rw [hc.candidates_unnamed] at hmem
    simp at hmem
  · exact hc

/-- Nobody but the one who registers joins a line. -/
theorem mem_of_mem_register (hk : k ∈ (c.register other h).candidates name) :
    k ∈ c.candidates name ∨ k = h := by
  rw [candidates_register] at hk
  split_ifs at hk with hjoin
  · rw [hjoin.1]
    exact (List.mem_append.mp hk).imp_right List.mem_singleton.mp
  · exact Or.inl hk

/-- Nobody joins a line when one who is in it leaves. -/
theorem mem_of_mem_release (hk : k ∈ (c.release other h).1.candidates name) :
    k ∈ c.candidates name := by
  rw [candidates_release] at hk
  split_ifs at hk with hn
  · exact hn ▸ List.mem_of_mem_erase hk
  · exact hk

/-- The tables of two claims have the same line where the same nodes wait. -/
theorem Proper.get?_congr (hc : c.Proper) (hc' : c'.Proper)
    (hsame : c'.candidates name = c.candidates name) :
    c'.lines.get? name = c.lines.get? name := by
  have hline : ∀ {c : Claims}, c.Proper → c.lines.get? name =
      if (c.candidates name).isEmpty then none else some (c.candidates name) := by
    intro c hc
    have hnot := hc.nonempty name
    rw [candidates, Table.getD]
    cases hl : c.lines.get? name with
    | none => rfl
    | some line =>
      rw [hl] at hnot
      cases line with
      | nil => simp at hnot
      | cons a as => rfl
  rw [hline hc, hline hc', hsame]

/-- Those who still stand in a line stand as they stood, and those who joined it behind them came
after the first `n` nodes. -/
def Follows (n : Nat) (c c' : Claims) : Prop :=
  ∀ name, ∃ kept more, c'.candidates name = kept ++ more ∧ kept.Sublist (c.candidates name) ∧
    ∀ k ∈ more, n ≤ k.index

theorem Follows.refl (n : Nat) (c : Claims) : Follows n c c :=
  fun name => ⟨c.candidates name, [], by simp, List.Sublist.refl _, by simp⟩

theorem Follows.trans (h₁ : Follows n c c') (h₂ : Follows n c' c'') : Follows n c c'' := by
  intro name
  obtain ⟨kept, more, heq, hsub, hmore⟩ := h₁ name
  obtain ⟨kept', more', heq', hsub', hmore'⟩ := h₂ name
  rw [heq] at hsub'
  obtain ⟨xs, ys, rfl, hxs, hys⟩ := List.sublist_append_iff.mp hsub'
  refine ⟨xs, ys ++ more', by rw [heq', List.append_assoc], hxs.trans hsub, ?_⟩
  intro k hk
  rcases List.mem_append.mp hk with hk | hk
  · exact hmore k (hys.subset hk)
  · exact hmore' k hk

/-- What follows from a later handle on follows from an earlier one on. -/
theorem Follows.mono {m : Nat} (hf : Follows n c c') (hm : m ≤ n) : Follows m c c' := by
  intro name
  obtain ⟨kept, more, heq, hsub, hmore⟩ := hf name
  exact ⟨kept, more, heq, hsub, fun k hk => Nat.le_trans hm (hmore k hk)⟩

/-- Who claims a name joins its line last. -/
theorem follows_register (hn : n ≤ h.index) (c : Claims) (name : String) :
    Follows n c (c.register name h) := by
  intro other
  rw [candidates_register]
  split_ifs with hjoin
  · rw [hjoin.1]
    refine ⟨c.candidates name, [h], rfl, List.Sublist.refl _, ?_⟩
    intro k hk
    rw [List.mem_singleton.mp hk]
    exact hn
  · exact Follows.refl n c other

/-- Where a name is given up, the others in line stand as they stood. -/
theorem follows_release (n : Nat) (c : Claims) (name : String) (h : Handle) :
    Follows n c (c.release name h).1 := by
  intro other
  rw [candidates_release]
  split_ifs with ho
  · rw [ho]
    exact ⟨(c.candidates name).erase h, [], by simp, List.erase_sublist, by simp⟩
  · exact Follows.refl n c other

end Claims

/-! ## Entitled nodes -/

namespace Workspace

variable {F : Handle → Prop} {cl : Claims} {n : Nat} {s s' t t' : Stage} {w w' : Workspace}
  {d d' : Document} {h k : Handle} {c : ConstraintId} {name : String}

/-- The node is entitled to the name: it shows it, and its constraint makes it a name. -/
def Entitled (t : Stage) (name : String) (h : Handle) : Prop :=
  name ≠ "" ∧ t.2.value h = name ∧ ∃ c, t.1.binding? h = some c ∧ t.1.isNaming c = true

/-- Only elements and attributes are bound, and the lines are proper and hold no handle that was not
given out yet. -/
structure Regular (t : Stage) : Prop where
  kinds : ∀ {k c}, t.1.binding? k = some c → t.2.isElement k = true ∨ t.2.isAttribute k = true
  proper : t.1.claims.Proper
  known : ∀ {name k}, k ∈ t.1.claims.candidates name → k.index < t.2.slots.size

/-- Whether a constraint names nodes depends on the model only. -/
theorem isNaming_congr (hm : w'.model = w.model) (c : ConstraintId) :
    w'.isNaming c = w.isNaming c := by
  rw [isNaming, isNaming, hm]

/-- Who is entitled to a name depends on the model, the binding and the value of a naming node only.
-/
theorem entitled_congr (hm : t'.1.model = t.1.model)
    (hb : t'.1.binding? k = t.1.binding? k)
    (hv : ∀ c, t.1.binding? k = some c → t'.2.value k = t.2.value k) :
    Entitled t' name k ↔ Entitled t name k := by
  unfold Entitled
  simp only [hb, isNaming_congr hm]
  constructor
  · rintro ⟨hname, hval, c, hc, hn⟩
    exact ⟨hname, (hv c hc).symm.trans hval, c, hc, hn⟩
  · rintro ⟨hname, hval, c, hc, hn⟩
    exact ⟨hname, (hv c hc).trans hval, c, hc, hn⟩

/-- A node without a binding is entitled to no name. -/
theorem not_entitled_of_unbound (hb : t.1.binding? k = none) : ¬ Entitled t name k := by
  rintro ⟨-, -, c, hc, -⟩
  rw [hb] at hc
  simp at hc

/-- The lines are those of `cl` with nodes of `F` behind them, and of these nodes exactly those are
in line for a name that are entitled to it. -/
structure Enlisted (F : Handle → Prop) (cl : Claims) (t : Stage) : Prop where
  lines : ∀ name, ∃ more, t.1.claims.candidates name = cl.candidates name ++ more ∧
    ∀ k ∈ more, F k
  mem_iff : ∀ name k, F k → (k ∈ t.1.claims.candidates name ↔ Entitled t name k)
  fresh : ∀ name k, F k → k ∉ cl.candidates name

namespace Enlisted

/-- Where claims stay and nodes are entitled to what they were entitled to, so are the lines. -/
theorem congr (he : Enlisted F cl t) (hcl : t'.1.claims = t.1.claims)
    (hent : ∀ name k, F k → (Entitled t' name k ↔ Entitled t name k)) : Enlisted F cl t' where
  lines := by rw [hcl]; exact he.lines
  mem_iff := by
    intro name k hk
    rw [hcl, he.mem_iff name k hk, hent name k hk]
  fresh := he.fresh

/-- Where bindings stay and the bound nodes show what they showed, so are the lines. -/
theorem keep (he : Enlisted F cl (w, d)) (hcl : w'.claims = w.claims) (hm : w'.model = w.model)
    (hb : ∀ k, w'.binding? k = w.binding? k)
    (hv : ∀ k c, w.binding? k = some c → d'.value k = d.value k) : Enlisted F cl (w', d') :=
  he.congr hcl fun _ k _ => entitled_congr hm (hb k) (hv k)

/-- Once none of the nodes is bound any more, the lines are those of the beginning. -/
theorem candidates_eq (he : Enlisted F cl t) (hu : ∀ k, F k → t.1.binding? k = none)
    (name : String) : t.1.claims.candidates name = cl.candidates name := by
  obtain ⟨more, heq, hmore⟩ := he.lines name
  cases more with
  | nil => rw [heq, List.append_nil]
  | cons k ks =>
    have hk := hmore k (List.mem_cons_self ..)
    have hmem : k ∈ t.1.claims.candidates name := by
      rw [heq]
      simp
    exact absurd ((he.mem_iff name k hk).mp hmem) (not_entitled_of_unbound (hu k hk))

/-- A node that is bound gets in line for its value. -/
theorem bindNode (he : Enlisted F cl (w, d)) (hF : F h) (hb : w.binding? h = none)
    (c : ConstraintId) : Enlisted F cl (w.bindNode d h c, d) := by
  -- a node that was not bound is in no line, so that it comes into one at most by this
  have hout : ∀ name, h ∉ w.claims.candidates name := fun name hm =>
    not_entitled_of_unbound (t := (w, d)) hb ((he.mem_iff name h hF).mp hm)
  have hclaims : (w.bindNode d h c).claims =
      if w.isNaming c then w.claims.register (d.value h) h else w.claims := rfl
  have hbinding := binding?_bindNode w d h
  have hline : ∀ name, (w.bindNode d h c).claims.candidates name =
      if name ≠ "" ∧ d.value h = name ∧ w.isNaming c = true then
        w.claims.candidates name ++ [h] else w.claims.candidates name := by
    intro name
    rw [hclaims]
    by_cases hn : w.isNaming c = true
    · rw [if_pos hn, Claims.candidates_register]
      by_cases hv : d.value h = name
      · subst hv
        simp [hout, hn]
      · simp [hv, Ne.symm hv]
    · simp [hn]
  refine ⟨?_, ?_, he.fresh⟩
  · intro name
    obtain ⟨more, heq, hmore⟩ := he.lines name
    show ∃ more, (w.bindNode d h c).claims.candidates name = _ ∧ _
    rw [hline]
    split_ifs
    · refine ⟨more ++ [h], ?_, ?_⟩
      · rw [← List.append_assoc, ← heq]
      · intro k hk
        rcases List.mem_append.mp hk with hk | hk
        · exact hmore k hk
        · rw [List.mem_singleton.mp hk]
          exact hF
    · exact ⟨more, heq, hmore⟩
  · intro name k hk
    show k ∈ (w.bindNode d h c).claims.candidates name ↔ _
    -- the node itself joins the line for its value, if it makes a name; nobody else moves
    by_cases hkh : k = h
    · subst hkh
      have hmem : k ∈ (w.bindNode d k c).claims.candidates name ↔
          name ≠ "" ∧ d.value k = name ∧ w.isNaming c = true := by
        rw [hline]
        split_ifs with hent
        · simp [hent]
        · exact iff_of_false (hout name) hent
      have hown : (w.bindNode d k c).binding? k = some c := (hbinding k c).trans (if_pos rfl)
      rw [hmem]
      constructor
      · rintro ⟨hname, hv, hn⟩
        exact ⟨hname, hv, c, hown, hn⟩
      · rintro ⟨hname, hv, i, hi, hn⟩
        obtain rfl := Option.some.inj (hown.symm.trans hi)
        exact ⟨hname, hv, hn⟩
    · have hmem : k ∈ (w.bindNode d h c).claims.candidates name ↔
          k ∈ w.claims.candidates name := by
        rw [hline]
        split_ifs <;> simp [hkh]
      have hsame : Entitled (w.bindNode d h c, d) name k ↔ Entitled (w, d) name k :=
        entitled_congr rfl ((hbinding k c).trans (if_neg hkh)) fun _ _ => rfl
      rw [hmem, hsame]
      exact he.mem_iff name k hk

/-- A node that is bound no more gives up its value. -/
theorem release (he : Enlisted F cl (w, d)) (hp : w.claims.Proper) (hF : F h)
    (hcl : w'.claims = (w.claims.release (d.value h) h).1) (hm : w'.model = w.model)
    (hb : ∀ k, w'.binding? k = if k = h then none else w.binding? k) :
    Enlisted F cl (w', d) := by
  have hline : ∀ name, w'.claims.candidates name = if name = d.value h then
      (w.claims.candidates name).erase h else w.claims.candidates name := by
    intro name
    rw [hcl, Claims.candidates_release]
    split_ifs with hn
    · rw [hn]
    · rfl
  refine ⟨?_, ?_, he.fresh⟩
  · intro name
    obtain ⟨more, heq, hmore⟩ := he.lines name
    show ∃ more, w'.claims.candidates name = _ ∧ _
    rw [hline]
    replace heq : w.claims.candidates name = cl.candidates name ++ more := heq
    split_ifs
    · refine ⟨more.erase h, ?_, fun k hk => hmore k (List.mem_of_mem_erase hk)⟩
      rw [heq, List.erase_append_right _ (he.fresh name h hF)]
    · exact ⟨more, heq, hmore⟩
  · intro name k hk
    show k ∈ w'.claims.candidates name ↔ _
    have hold := he.mem_iff name k hk
    replace hold : k ∈ w.claims.candidates name ↔ Entitled (w, d) name k := hold
    by_cases hkh : k = h
    · subst hkh
      have hself : w'.binding? k = none := (hb k).trans (if_pos rfl)
      refine iff_of_false ?_ (not_entitled_of_unbound hself)
      rw [hline]
      split_ifs with hn
      · exact (hp.nodup name).not_mem_erase
      · intro hmem
        exact hn (hold.mp hmem).2.1.symm
    · have hmem : k ∈ w'.claims.candidates name ↔ k ∈ w.claims.candidates name := by
        rw [hline]
        split_ifs
        · exact List.mem_erase_of_ne hkh
        · rfl
      have hsame : Entitled (w', d) name k ↔ Entitled (w, d) name k :=
        entitled_congr hm ((hb k).trans (if_neg hkh)) fun _ _ => rfl
      rw [hmem, hsame, hold]

end Enlisted

/-! ## Building -/

/-- A node that gives up a name leaves everything regular. -/
theorem Regular.release (hr : Regular (w, d))
    (hcl : w'.claims = (w.claims.release (d.value h) h).1)
    (hb : ∀ k, w'.binding? k = if k = h then none else w.binding? k) : Regular (w', d) where
  kinds := by
    intro k c hk
    replace hk := (hb k).symm.trans hk
    split_ifs at hk
    exact hr.kinds hk
  proper := by
    show w'.claims.Proper
    rw [hcl]
    exact hr.proper.release _ _
  known := by
    intro name k hk
    replace hk : k ∈ w'.claims.candidates name := hk
    rw [hcl] at hk
    exact hr.known (Claims.mem_of_mem_release hk)

/-- Regularity is kept by binding an element or an attribute. -/
theorem Regular.bindNode (hr : Regular (w, d)) (hk : d.isElement h = true ∨ d.isAttribute h = true)
    (c : ConstraintId) : Regular (w.bindNode d h c, d) where
  kinds := by
    intro k i hbk
    replace hbk := (binding?_bindNode w d h k c).symm.trans hbk
    split_ifs at hbk with hkh
    · rwa [hkh]
    · exact hr.kinds hbk
  proper := by
    show (if w.isNaming c then w.claims.register (d.value h) h else w.claims).Proper
    split_ifs
    · exact hr.proper.register _ _
    · exact hr.proper
  known := by
    intro name k hm
    replace hm : k ∈ (if w.isNaming c then w.claims.register (d.value h) h
      else w.claims).candidates name := hm
    split_ifs at hm
    · rcases Claims.mem_of_mem_register hm with hm | rfl
      · exact hr.known hm
      · exact Document.index_lt_of_contains (contains_of_kinds hk)
    · exact hr.known hm

/-- Where claims stay, everything is regular as long as bound nodes are what they were. -/
theorem Regular.keep (hr : Regular (w, d)) (hcl : w'.claims = w.claims)
    (hb : ∀ k, w'.binding? k = w.binding? k) (hsize : d.slots.size ≤ d'.slots.size)
    (hk : ∀ k c, w.binding? k = some c → d'.kind? k = d.kind? k) : Regular (w', d') where
  kinds := by
    intro k c hbk
    replace hbk := (hb k).symm.trans hbk
    show d'.isElement k = true ∨ d'.isAttribute k = true
    rw [Document.isElement_congr (hk k c hbk), Document.isAttribute_congr (hk k c hbk)]
    exact hr.kinds hbk
  proper := by
    show w'.claims.Proper
    rw [hcl]
    exact hr.proper
  known := by
    intro name k hm
    replace hm : k ∈ w'.claims.candidates name := hm
    rw [hcl] at hm
    exact Nat.lt_of_lt_of_le (hr.known hm) hsize

/-- Regularity is kept by every step of building. -/
theorem BuildStep.regular (hb : BuildStep n s s') (hs : Sound s) (hr : Regular s) :
    Regular s' := by
  obtain ⟨hsize, hkind⟩ := hb.kind? hs
  have hlive : ∀ k c, s.1.binding? k = some c → s'.2.kind? k = s.2.kind? k := fun k c hbk =>
    hkind k (Document.index_lt_of_contains (hs.contains_of_bound hbk))
  cases hb with
  | push => exact hr.keep rfl (fun _ => rfl) hsize hlive
  | append => exact hr.keep rfl (fun _ => rfl) hsize hlive
  | place => exact hr.keep rfl (fun _ => rfl) hsize hlive
  | setValue => exact hr.keep rfl (fun _ => rfl) hsize hlive
  | bind hn hb hkinds => exact hr.bindNode hkinds _
  | @unbind w d h hn =>
    by_cases hbound : w.isBound h = true
    · refine hr.release ?_ (binding?_unbindNode w d h)
      rw [unbindNode, if_pos hbound]
    · rw [unbindNode, if_neg hbound]
      exact hr

/-- A step of building keeps in line those who are entitled. -/
theorem BuildStep.enlisted (hb : BuildStep n s s') (hs : Sound s) (hr : Regular s)
    (hF : ∀ k, n ≤ k.index → F k) (he : Enlisted F cl s) : Enlisted F cl s' := by
  -- nodes that are bound show what they showed while another one changes
  have hne : ∀ {w : Workspace} {h k : Handle} {c : ConstraintId}, w.binding? h = none →
      w.binding? k = some c → k ≠ h := by
    rintro w h k c hnone hbk rfl
    rw [hnone] at hbk
    simp at hbk
  cases hb with
  | @push w d node hn hp ha hc =>
    refine he.keep rfl rfl (fun _ => rfl) ?_
    intro k c hbk
    exact (Document.extends_push d node).value hs.orderly.toLinked (hs.contains_of_bound hbk)
  | append hn hlt hnone ha =>
    refine he.keep rfl rfl (fun _ => rfl) ?_
    intro k c hbk
    exact (Document.relinked_append hs.orderly.toLinked ha).1.value_of_ne (hne hnone hbk)
  | place hn hlt hnone ha =>
    refine he.keep rfl rfl (fun _ => rfl) ?_
    intro k c hbk
    exact Document.value_placeAttribute hs.orderly.toLinked ha k
  | setValue hn hnone hel hv =>
    refine he.keep rfl rfl (fun _ => rfl) ?_
    intro k c hbk
    have hvalue := Document.value_setValue hs.orderly hv (not_isText_of_kinds (Or.inl hel))
    exact hvalue.2 k (hs.contains_of_bound hbk) (not_isText_of_kinds (hr.kinds hbk))
      (hne hnone hbk)
  | bind hn hnone hkinds => exact he.bindNode (hF _ hn) hnone _
  | @unbind w d h hn =>
    by_cases hbound : w.isBound h = true
    · refine he.release hr.proper (hF _ hn) ?_ ?_ (binding?_unbindNode w d h)
      · rw [unbindNode, if_pos hbound]
      · rw [unbindNode, if_pos hbound]
    · rw [unbindNode, if_neg hbound]
      exact he

/-- In every step of building the new nodes join the lines behind the old ones. -/
theorem BuildStep.follows (hb : BuildStep n s s') : s.1.claims.Follows n s'.1.claims := by
  cases hb with
  | push => exact Claims.Follows.refl n _
  | append => exact Claims.Follows.refl n _
  | place => exact Claims.Follows.refl n _
  | setValue => exact Claims.Follows.refl n _
  | @bind w d h c hn =>
    show w.claims.Follows n (if w.isNaming c then w.claims.register (d.value h) h else w.claims)
    split_ifs
    · exact Claims.follows_register hn _ _
    · exact Claims.Follows.refl n _
  | @unbind w d h hn =>
    show w.claims.Follows n (w.unbindNode d h).claims
    unfold unbindNode
    split
    · exact Claims.follows_release n _ _ _
    · exact Claims.Follows.refl n _

namespace Builds

/-- Regularity is kept by building. -/
theorem regular (hb : Builds n s s') (hs : Sound s) (hr : Regular s) : Regular s' := by
  induction hb with
  | refl => exact hr
  | tail hb hstep ih => exact hstep.regular (sound hb hs) ih

/-- The lines stay as they should be by building, if the new nodes are among those of `F`. -/
theorem enlisted (hb : Builds n s s') (hs : Sound s) (hr : Regular s)
    (hF : ∀ k, n ≤ k.index → F k) (he : Enlisted F cl s) : Enlisted F cl s' := by
  induction hb with
  | refl => exact he
  | tail hb hstep ih => exact hstep.enlisted (sound hb hs) (regular hb hs hr) hF ih

/-- In building the new nodes join the lines behind the old ones. -/
theorem follows (hb : Builds n s s') : s.1.claims.Follows n s'.1.claims := by
  induction hb with
  | refl => exact Claims.Follows.refl n _
  | tail _ hstep ih => exact ih.trans hstep.follows

end Builds

/-! ## Forgetting -/

/-- Regularity is kept when nodes are forgotten. -/
theorem Regular.forgetNodes (hr : Regular (w, d)) (hs : List Handle) :
    Regular ((w.forgetNodes d hs).1, d) := by
  induction hs generalizing w with
  | nil => exact hr
  | cons h hs ih =>
    have hone : Regular ((w.forgetNode d h).1, d) := hr.release rfl (binding?_forgetNode w d h)
    exact ih hone

/-- Regularity is kept when all below a node is forgotten. -/
theorem Regular.forget (hr : Regular (w, d)) (h : Handle) : Regular ((w.forget d h).1, d) :=
  Regular.forgetNodes (w := { w with outline := w.outline.detach h })
    (hr.keep rfl (fun _ => rfl) (Nat.le_refl _) fun _ _ _ => rfl) _

/-- The lines stay as they should be when nodes among those of `F` are forgotten. -/
theorem Enlisted.forgetNodes (he : Enlisted F cl (w, d)) (hr : Regular (w, d)) {hs : List Handle}
    (hF : ∀ h ∈ hs, F h) : Enlisted F cl ((w.forgetNodes d hs).1, d) := by
  induction hs generalizing w with
  | nil => exact he
  | cons h hs ih =>
    have hone : Enlisted F cl ((w.forgetNode d h).1, d) :=
      he.release hr.proper (hF h (List.mem_cons_self ..)) rfl rfl (binding?_forgetNode w d h)
    exact ih hone (hr.release rfl (binding?_forgetNode w d h))
      fun x hx => hF x (List.mem_cons_of_mem _ hx)

/-- Nodes that are forgotten give up the names that they claimed. -/
theorem Enlisted.forget (he : Enlisted F cl (w, d)) (hr : Regular (w, d)) (hd : d.Linked)
    (hF : ∀ k, d.Within h k → F k) : Enlisted F cl ((w.forget d h).1, d) := by
  refine Enlisted.forgetNodes (w := { w with outline := w.outline.detach h }) ?_ ?_ ?_
  · exact he.keep rfl rfl (fun _ => rfl) fun _ _ _ => rfl
  · exact hr.keep rfl (fun _ => rfl) (Nat.le_refl _) fun _ _ _ => rfl
  · exact fun k hk => hF k (Document.within_of_mem_subtreeAux hd hk)

/-- Where nodes are forgotten, the others in line stand as they stood. -/
theorem follows_forgetNodes (n : Nat) (w : Workspace) (d : Document) (hs : List Handle) :
    w.claims.Follows n (w.forgetNodes d hs).1.claims := by
  induction hs generalizing w with
  | nil => exact Claims.Follows.refl n _
  | cons h hs ih => exact (Claims.follows_release n w.claims (d.value h) h).trans (ih _)

/-- Where all below a node is forgotten, the others in line stand as they stood. -/
theorem follows_forget (n : Nat) (w : Workspace) (d : Document) (h : Handle) :
    w.claims.Follows n (w.forget d h).1.claims :=
  follows_forgetNodes n { w with outline := w.outline.detach h } d (d.subtree h)

end Workspace

end GuidedXml
