/-
# Waiting for resolutions

Tickets for rules are taken, given back and handed back while rules are evaluated or fired directly.
What happens to a book of rules is a history of moments, each of them about one rule.

The main statement says of every history that a ticket is handed back at the first moment after it
was taken at which its rule is fired or comes to hold, unless it was given back before: once, in turn,
and under the name of the rule.
-/
import GuidedXml.Proofs.Rule.Notifying

namespace GuidedXml.RuleBook

/-! ## Histories -/

/-- What can be asked of a book while its rules stay as they are. -/
inductive Call where
  | evaluate (d : Document) (ids : List RuleId)
  | evaluateAll (d : Document)
  | subscribe (id : RuleId)
  | unsubscribe (id : RuleId) (t : Ticket)
  /-- Fire a rule without evaluating it; those who wait are told of it under the name given. -/
  | fire (id name : RuleId)

/-- What happens to a rule. -/
inductive Event where
  | evaluated (d : Document) (fired : Bool)
  | subscribed (t : Ticket)
  | unsubscribed (t : Ticket) (waiting : Bool)
  | fired (name : RuleId)

/-- Something that happens to a rule, with the tickets that are handed back by it, in turn, and the
name of the rule that is told with each. -/
structure Moment where
  rule : RuleId
  event : Event
  told : List (Ticket × RuleId) := []

/-- The moment at which an evaluation of a rule found something out. -/
def Moment.ofEvaluation (d : Document) (x : RuleId × Evaluation) : Moment where
  rule := x.1
  event := .evaluated d x.2.fired
  told := x.2.notified.map fun t => (t, x.1)

/-- The book after a call, and what happened on the way. Nothing happens to a rule that is not
there. -/
def serve (b : RuleBook) : Call → RuleBook × List Moment
  | .evaluate d ids => ((b.evaluate d ids).1, (b.evaluate d ids).2.map (.ofEvaluation d))
  | .evaluateAll d => ((b.evaluateAll d).1, (b.evaluateAll d).2.map (.ofEvaluation d))
  | .subscribe id =>
    if b.entries.contains id then ((b.subscribe id).1, [⟨id, .subscribed (b.subscribe id).2, []⟩])
    else (b, [])
  | .unsubscribe id t =>
    if b.entries.contains id then
      (b.unsubscribe id t, [⟨id, .unsubscribed t (b.isWaiting id t), []⟩])
    else (b, [])
  | .fire id name =>
    if b.entries.contains id then
      (b.release id, [⟨id, .fired name, (b.waiting id).map fun t => (t, name)⟩])
    else (b, [])

/-- The book after calls, and what happened on the way. -/
def serveAll (b : RuleBook) : List Call → RuleBook × List Moment
  | [] => (b, [])
  | c :: cs => (((b.serve c).1.serveAll cs).1, (b.serve c).2 ++ ((b.serve c).1.serveAll cs).2)

/-- The rules that a call is about, in turn. -/
def asked (b : RuleBook) : Call → List RuleId
  | .evaluate _ ids => ids.filter b.entries.contains
  | .evaluateAll _ => b.ids
  | .subscribe id | .unsubscribe id _ | .fire id _ => [id].filter b.entries.contains

/-! ## What a history says -/

/-- Whether the rule of that name holds of a document. -/
def holdsOf (b : RuleBook) (id : RuleId) (d : Document) : Bool :=
  (b.get? id).any fun e => e.rule.holds d

/-- Whether a rule held when it was last evaluated, after a moment more. -/
def heldAt (b : RuleBook) (id : RuleId) (held : Bool) (m : Moment) : Bool :=
  match m.event with
  | .evaluated d _ => if m.rule = id then b.holdsOf id d else held
  | .subscribed _ | .unsubscribed _ _ | .fired _ => held

/-- Whether a rule held when it was last evaluated; it did not before that. -/
def heldAfter (b : RuleBook) (id : RuleId) (past : List Moment) : Bool :=
  past.foldl (b.heldAt id) false

/-- Whether a moment resolves its rule: the rule is fired, or it is evaluated and comes to hold. -/
def Resolves (b : RuleBook) (past : List Moment) (m : Moment) : Prop :=
  match m.event with
  | .fired _ => True
  | .evaluated d _ => b.heldAfter m.rule past = false ∧ b.holdsOf m.rule d = true
  | .subscribed _ | .unsubscribed _ _ => False

/-- Whether a ticket was taken for a rule, and since then the rule was not resolved and the ticket not
given back. -/
def Pending (b : RuleBook) (past : List Moment) (id : RuleId) (t : Ticket) : Prop :=
  ∃ before after, past = before ++ ⟨id, .subscribed t, []⟩ :: after ∧
    ∀ between m later, after = between ++ m :: later → m.rule = id →
      ¬ b.Resolves (before ++ ⟨id, .subscribed t, []⟩ :: between) m ∧
        ∀ waiting, m.event ≠ .unsubscribed t waiting

/-- The tickets that were taken, in turn. -/
def taken (past : List Moment) : List Ticket :=
  past.filterMap fun m => match m.event with
    | .subscribed t => some t
    | .evaluated _ _ | .unsubscribed _ _ | .fired _ => none

/-- The tickets that were handed back, in turn. -/
def handedBack (past : List Moment) : List Ticket :=
  past.flatMap fun m => m.told.map Prod.fst

/-- The name that those who wait are told: that of the rule, or the one that it is fired under. -/
def Moment.name (m : Moment) : RuleId :=
  match m.event with
  | .fired name => name
  | .evaluated _ _ | .subscribed _ | .unsubscribed _ _ => m.rule

/-- What a moment reports is as the past says. -/
structure Explained (b : RuleBook) (past : List Moment) (m : Moment) : Prop where
  told_iff : ∀ t name, (t, name) ∈ m.told ↔
    b.Resolves past m ∧ name = m.name ∧ b.Pending past m.rule t
  inTurn : (m.told.map Prod.fst).Sublist (taken past)
  fired : ∀ d fired, m.event = .evaluated d fired → (fired = true ↔ b.Resolves past m)
  unsubscribed : ∀ t waiting, m.event = .unsubscribed t waiting →
    (waiting = true ↔ b.Pending past m.rule t)
  subscribed : ∀ t, m.event = .subscribed t → t ∉ taken past

variable {b b' b₀ : RuleBook} {past ms : List Moment} {m : Moment} {id id' : RuleId} {t : Ticket}
  {e e' : Entry} {d : Document}

/-- Whether a rule is held to be satisfied changes by one moment more as the moment says. -/
@[simp] theorem heldAfter_concat (b : RuleBook) (id : RuleId) (past : List Moment) (m : Moment) :
    b.heldAfter id (past ++ [m]) = b.heldAt id (b.heldAfter id past) m := by
  simp [heldAfter]

/-- With one moment more those tickets are taken too that it takes. -/
theorem taken_concat (past : List Moment) (m : Moment) :
    taken (past ++ [m]) = taken past ++ taken [m] :=
  List.filterMap_append ..

/-- With one moment more those tickets are handed back too that it tells. -/
theorem handedBack_concat (past : List Moment) (m : Moment) :
    handedBack (past ++ [m]) = handedBack past ++ m.told.map Prod.fst := by
  simp [handedBack]

/-- A pending ticket was taken. -/
theorem Pending.mem_taken (hp : b.Pending past id t) : t ∈ taken past := by
  obtain ⟨before, after, rfl, -⟩ := hp
  exact List.mem_filterMap.mpr ⟨_, List.mem_append_right _ (List.mem_cons_self ..), rfl⟩

/-- After a moment more, the ticket taken by it is pending, and those that were before and are not
affected by it. -/
theorem pending_concat_iff : b.Pending (past ++ [m]) id t ↔ m = ⟨id, .subscribed t, []⟩ ∨
    b.Pending past id t ∧
      (m.rule = id → ¬ b.Resolves past m ∧ ∀ waiting, m.event ≠ .unsubscribed t waiting) := by
  constructor
  · rintro ⟨before, after, heq, hquiet⟩
    rcases List.eq_nil_or_concat after with rfl | ⟨after, last, rfl⟩
    · exact Or.inl (List.singleton_inj.mp (List.append_inj' heq rfl).2)
    · rw [List.concat_eq_append, ← List.cons_append, ← List.append_assoc] at heq
      obtain ⟨rfl, hlast⟩ := List.append_inj' heq rfl
      obtain rfl := List.singleton_inj.mp hlast
      rw [List.concat_eq_append] at hquiet
      refine Or.inr ⟨⟨before, after, rfl, ?_⟩, hquiet after m [] (by simp)⟩
      rintro between x later rfl
      exact hquiet between x (later ++ [m]) (by simp)
  · rintro (rfl | ⟨⟨before, after, rfl, hquiet⟩, hlast⟩)
    · exact ⟨past, [], rfl, by simp⟩
    · refine ⟨before, after ++ [m], by simp, fun between x later heq => ?_⟩
      rcases List.eq_nil_or_concat later with rfl | ⟨later, last, rfl⟩
      · obtain ⟨rfl, hx⟩ := List.append_inj' heq rfl
        obtain rfl := List.singleton_inj.mp hx
        exact hlast
      · rw [List.concat_eq_append, ← List.cons_append, ← List.append_assoc] at heq
        exact hquiet between x later (List.append_inj' heq rfl).1

/-! ## Single moments -/

/-- Whether a moment hands back all tickets for its rule. -/
def Moment.fires (m : Moment) : Bool :=
  match m.event with
  | .evaluated _ fired => fired
  | .fired _ => true
  | .subscribed _ | .unsubscribed _ _ => false

/-- The tickets that wait for a rule, after a moment more. -/
def Moment.line (m : Moment) (id : RuleId) (ts : List Ticket) : List Ticket :=
  if m.rule = id then match m.event with
    | .evaluated _ fired => if fired then [] else ts
    | .subscribed t => ts ++ [t]
    | .unsubscribed t _ => ts.filter (· ≠ t)
    | .fired _ => []
  else ts

/-- What one moment does to a book. -/
structure Step (b : RuleBook) (m : Moment) (b' : RuleBook) : Prop where
  index : b'.index = b.index
  isSatisfied : ∀ id, b'.isSatisfied id = b.heldAt id (b.isSatisfied id) m
  waiting : ∀ id, b'.waiting id = m.line id (b.waiting id)
  next : b.nextTicket ≤ b'.nextTicket
  told : m.told = if m.fires then (b.waiting m.rule).map fun t => (t, m.name) else []
  fired : ∀ d fired, m.event = .evaluated d fired →
    fired = (b.holdsOf m.rule d && !b.isSatisfied m.rule)
  unsubscribed : ∀ t w, m.event = .unsubscribed t w → w = b.isWaiting m.rule t
  subscribed : ∀ t, m.event = .subscribed t →
    t.number = b.nextTicket ∧ t.number < b'.nextTicket ∧ m.told = []

/-- Whether a rule holds is a matter of the rules in the book only. -/
theorem holdsOf_of_index (hi : b'.index = b.index) (id : RuleId) (d : Document) :
    b'.holdsOf id d = b.holdsOf id d := by
  have hrule : (b'.get? id).map Entry.rule = (b.get? id).map Entry.rule := by
    rw [← lookup_index, ← lookup_index, hi]
  have hany : ∀ x : Option Entry,
      (x.any fun e => e.rule.holds d) = (x.map Entry.rule).any fun r => r.holds d := by
    rintro (- | e) <;> rfl
  rw [holdsOf, holdsOf, hany, hany, hrule]

/-- Unsubscribing takes a ticket off the line of its rule. -/
theorem get?_unsubscribe (b : RuleBook) (id id' : RuleId) (t : Ticket) :
    (b.unsubscribe id t).get? id' = if id' = id then
      (b.get? id').map fun e => { e with waiting := e.waiting.filter (· ≠ t) } else b.get? id' :=
  Table.get?_modify ..

/-- A release empties the line of its rule. -/
theorem get?_release (b : RuleBook) (id id' : RuleId) :
    (b.release id).get? id' = if id' = id then
      (b.get? id').map fun e => { e with waiting := [] } else b.get? id' :=
  Table.get?_modify ..

/-- Rules stay as they are where only what is known of them changes. -/
theorem index_modify {f : Entry → Entry} (hf : ∀ e, (f e).rule = e.rule) (b : RuleBook)
    (id : RuleId) : ({ b with entries := b.entries.modify id f } : RuleBook).index = b.index := by
  show (b.entries.entries.map _).map _ = b.entries.entries.map _
  rw [List.map_map]
  refine List.map_congr_left fun x _ => ?_
  simp only [Function.comp_apply]
  split_ifs
  · rw [hf]
  · rfl

/-- Unsubscribing changes no rule. -/
theorem index_unsubscribe (b : RuleBook) (id : RuleId) (t : Ticket) :
    (b.unsubscribe id t).index = b.index :=
  index_modify (f := fun e => { e with waiting := e.waiting.filter (· ≠ t) }) (fun _ => rfl) b id

/-- A release changes no rule. -/
theorem index_release (b : RuleBook) (id : RuleId) : (b.release id).index = b.index :=
  index_modify (f := fun e => { e with waiting := [] }) (fun _ => rfl) b id

/-- A rule is satisfied as its entry says. -/
theorem isSatisfied_of_get? (he : b.get? id = some e) : b.isSatisfied id = e.satisfied := by
  rw [isSatisfied, he, Option.any_some]

/-- Those wait for a rule whom its entry lists. -/
theorem waiting_of_get? (he : b.get? id = some e) : b.waiting id = e.waiting := by
  rw [waiting, he, Option.map_some, Option.getD_some]

/-- A moment changes what is known of its rule, and nothing else. -/
theorem isSatisfied_of_changed (he : b.get? m.rule = some e)
    (hget : ∀ id, b'.get? id = if id = m.rule then some e' else b.get? id)
    (hsat : e'.satisfied = b.heldAt m.rule e.satisfied m) (id : RuleId) :
    b'.isSatisfied id = b.heldAt id (b.isSatisfied id) m := by
  by_cases hid : id = m.rule
  · rw [hid, isSatisfied_of_get? he, ← hsat]
    exact isSatisfied_of_get? (by rw [hget, if_pos rfl])
  · have hsame : b'.isSatisfied id = b.isSatisfied id := by
      rw [isSatisfied, hget, if_neg hid, isSatisfied]
    rw [hsame, heldAt]
    split
    · rw [if_neg (Ne.symm hid)]
    all_goals rfl

/-- Where one entry changes as a moment says, so do the lines. -/
theorem waiting_of_changed (he : b.get? m.rule = some e)
    (hget : ∀ id, b'.get? id = if id = m.rule then some e' else b.get? id)
    (hwaiting : e'.waiting = m.line m.rule e.waiting) (id : RuleId) :
    b'.waiting id = m.line id (b.waiting id) := by
  by_cases hid : id = m.rule
  · rw [hid, waiting_of_get? he, ← hwaiting]
    exact waiting_of_get? (by rw [hget, if_pos rfl])
  · rw [Moment.line, if_neg (Ne.symm hid), waiting, hget, if_neg hid, waiting]

/-- Evaluating a rule is one step. -/
theorem step_evaluated (he : b.get? id = some e) (d : Document) :
    Step b (.ofEvaluation d (id, e.evaluation d))
      { b with entries := b.entries.insert id (e.after d) } := by
  have hholds : b.holdsOf id d = e.rule.holds d := by rw [holdsOf, he, Option.any_some]
  have hget := fun id' => Table.get?_insert b.entries id id' (e.after d)
  refine ⟨index_insert he rfl, isSatisfied_of_changed he hget ?_, waiting_of_changed he hget ?_,
    Nat.le_refl _, ?_, ?_, fun _ _ => nofun, fun _ => nofun⟩
  · simp [Moment.ofEvaluation, heldAt, hholds]
  · simp [Moment.ofEvaluation, Moment.line, Entry.after, Entry.evaluation]
  · rw [show (Moment.ofEvaluation d (id, e.evaluation d)).rule = id from rfl, waiting_of_get? he]
    simp only [Moment.ofEvaluation, Moment.fires, Moment.name, Entry.evaluation]
    split_ifs with hfired <;> simp [hfired]
  · rintro d' fired heq
    obtain ⟨rfl, rfl⟩ := Event.evaluated.inj heq
    show (e.evaluation d).fired = _
    rw [fired_evaluation, ← hholds, ← isSatisfied_of_get? he]
    rfl

/-- Subscribing is one step. -/
theorem step_subscribed (he : b.get? id = some e) :
    Step b ⟨id, .subscribed (b.subscribe id).2, []⟩ (b.subscribe id).1 := by
  have hget : ∀ id', (b.subscribe id).1.get? id' = if id' = id then
      some { e with waiting := e.waiting ++ [(b.subscribe id).2] } else b.get? id' := by
    intro id'
    rw [get?_subscribe]
    split_ifs with hid
    · rw [hid, he]
      rfl
    · rfl
  refine ⟨index_subscribe b id, isSatisfied_of_changed he hget rfl,
    waiting_of_changed he hget (by rw [Moment.line, if_pos rfl]), Nat.le_succ _, rfl,
    fun _ _ => nofun, fun _ _ => nofun, fun t heq => ?_⟩
  obtain rfl := Event.subscribed.inj heq
  exact ⟨rfl, Nat.lt_succ_self _, rfl⟩

/-- Unsubscribing is one step. -/
theorem step_unsubscribed (he : b.get? id = some e) (t : Ticket) :
    Step b ⟨id, .unsubscribed t (b.isWaiting id t), []⟩ (b.unsubscribe id t) := by
  have hget : ∀ id', (b.unsubscribe id t).get? id' = if id' = id then
      some { e with waiting := e.waiting.filter (· ≠ t) } else b.get? id' := by
    intro id'
    rw [get?_unsubscribe]
    split_ifs with hid
    · rw [hid, he, Option.map_some]
    · rfl
  refine ⟨index_unsubscribe b id t, isSatisfied_of_changed he hget rfl,
    waiting_of_changed he hget (by rw [Moment.line, if_pos rfl]), Nat.le_refl _, rfl,
    fun _ _ => nofun, fun t' w heq => ?_, fun _ => nofun⟩
  obtain ⟨rfl, rfl⟩ := Event.unsubscribed.inj heq
  rfl

/-- Firing a rule is one step. -/
theorem step_fired (he : b.get? id = some e) (name : RuleId) :
    Step b ⟨id, .fired name, (b.waiting id).map fun t => (t, name)⟩ (b.release id) := by
  have hget : ∀ id', (b.release id).get? id' = if id' = id then
      some { e with waiting := [] } else b.get? id' := by
    intro id'
    rw [get?_release]
    split_ifs with hid
    · rw [hid, he, Option.map_some]
    · rfl
  exact ⟨index_release b id, isSatisfied_of_changed he hget rfl,
    waiting_of_changed he hget (by rw [Moment.line, if_pos rfl]), Nat.le_refl _, rfl,
    fun _ _ => nofun, fun _ _ => nofun, fun _ => nofun⟩

/-! ## Courses of moments -/

/-- From a book through moments to the last book. -/
inductive Course : RuleBook → List Moment → RuleBook → Prop
  | here (b : RuleBook) : Course b [] b
  | step {b u b' : RuleBook} {m : Moment} {ms : List Moment} :
      Step b m u → Course u ms b' → Course b (m :: ms) b'

/-- Courses may follow each other. -/
theorem Course.append {u : RuleBook} {ms' : List Moment} (h₁ : Course b ms u)
    (h₂ : Course u ms' b') : Course b (ms ++ ms') b' := by
  induction h₁ with
  | here => exact h₂
  | step hs _ ih => exact .step hs (ih h₂)

/-- No course changes a rule. -/
theorem Course.index (hc : Course b ms b') : b'.index = b.index := by
  induction hc with
  | here => rfl
  | step hs _ ih => exact ih.trans hs.index

/-- Evaluating rules takes its course. -/
theorem course_evaluate (b : RuleBook) (d : Document) (ids : List RuleId) :
    Course b ((b.evaluate d ids).2.map (.ofEvaluation d)) (b.evaluate d ids).1 := by
  induction ids generalizing b with
  | nil => exact .here b
  | cons id ids ih =>
    rw [evaluate]
    cases he : b.get? id with
    | none => exact ih b
    | some e => exact .step (step_evaluated he d) (ih _)

/-- Every call takes its course. -/
theorem course_serve (b : RuleBook) (c : Call) : Course b (b.serve c).2 (b.serve c).1 := by
  cases c with
  | evaluate d ids => exact course_evaluate b d ids
  | evaluateAll d => exact course_evaluate b d b.ids
  | subscribe id =>
    rw [serve]
    split_ifs with hid
    · obtain ⟨e, he⟩ := Option.isSome_iff_exists.mp hid
      exact .step (step_subscribed he) (.here _)
    · exact .here b
  | unsubscribe id t =>
    rw [serve]
    split_ifs with hid
    · obtain ⟨e, he⟩ := Option.isSome_iff_exists.mp hid
      exact .step (step_unsubscribed he t) (.here _)
    · exact .here b
  | fire id name =>
    rw [serve]
    split_ifs with hid
    · obtain ⟨e, he⟩ := Option.isSome_iff_exists.mp hid
      exact .step (step_fired he name) (.here _)
    · exact .here b

/-- Calls take their course. -/
theorem course_serveAll (b : RuleBook) (cs : List Call) :
    Course b (b.serveAll cs).2 (b.serveAll cs).1 := by
  induction cs generalizing b with
  | nil => exact .here b
  | cons c cs ih => exact (course_serve b c).append (ih _)

/-! ### Which rules the moments are about -/

/-- Which rules are in the book is a matter of its rules. -/
theorem contains_of_index (hi : b'.index = b.index) :
    b'.entries.contains = b.entries.contains := by
  funext id
  have hsome : ∀ b : RuleBook, b.entries.contains id = (Table.lookup id b.index).isSome := by
    intro b
    rw [lookup_index, Option.isSome_map]
    rfl
  rw [hsome, hsome, hi]

/-- Which rules a call asks for is a matter of the rules in the book. -/
theorem asked_of_index (hi : b'.index = b.index) : b'.asked = b.asked := by
  have hids : b'.ids = b.ids := by
    have hkeys : ∀ b : RuleBook, b.ids = b.index.map Prod.fst := by
      intro b
      rw [ids, Table.keys, index, List.map_map]
      rfl
    rw [hkeys, hkeys, hi]
  funext c
  cases c <;> simp only [asked, contains_of_index hi, hids]

/-- Those rules are evaluated that are in the book, in the order asked for. -/
theorem rules_evaluate (b : RuleBook) (d : Document) (ids : List RuleId) :
    (b.evaluate d ids).2.map Prod.fst = ids.filter b.entries.contains := by
  induction ids generalizing b with
  | nil => rfl
  | cons id ids ih =>
    have hcontains : b.entries.contains id = (b.get? id).isSome := rfl
    rw [evaluate, List.filter_cons, hcontains]
    cases he : b.get? id with
    | none => exact ih b
    | some e =>
      rw [Option.isSome_some, if_pos rfl, List.map_cons, ih]
      exact congrArg (id :: ids.filter ·) (contains_of_index (index_insert he rfl))

/-- A rule that is in the book is found in it. -/
theorem contains_of_mem_ids (hid : id ∈ b.ids) : b.entries.contains id = true := by
  obtain ⟨x, hx, rfl⟩ := List.mem_map.mp hid
  have hlookup : ∀ es : List (RuleId × Entry), x ∈ es → (Table.lookup x.1 es).isSome = true := by
    intro es
    induction es with
    | nil => exact fun h => absurd h (List.not_mem_nil)
    | cons y es ih =>
      intro hmem
      rw [Table.lookup]
      split_ifs with hy
      · rfl
      · rcases List.mem_cons.mp hmem with rfl | hmem
        · exact absurd rfl hy
        · exact ih hmem
  exact hlookup _ hx

/-- A call has a moment for each rule that it asks for. -/
theorem rules_serve (b : RuleBook) (c : Call) : (b.serve c).2.map Moment.rule = b.asked c := by
  have hevaluated : ∀ (d : Document) (xs : List (RuleId × Evaluation)),
      (xs.map (Moment.ofEvaluation d)).map Moment.rule = xs.map Prod.fst := by
    intro d xs
    rw [List.map_map]
    rfl
  cases c with
  | evaluate d ids => exact (hevaluated d _).trans (rules_evaluate b d ids)
  | evaluateAll d =>
    refine (hevaluated d _).trans ((rules_evaluate b d b.ids).trans ?_)
    exact List.filter_eq_self.mpr fun _ => contains_of_mem_ids
  | subscribe id | unsubscribe id t | fire id name =>
    rw [serve, asked, List.filter_cons]
    split_ifs <;> rfl

/-- Calls have a moment for each rule that they ask for, in their order. -/
theorem rules_serveAll (b : RuleBook) (cs : List Call) :
    (b.serveAll cs).2.map Moment.rule = cs.flatMap b.asked := by
  induction cs generalizing b with
  | nil => rfl
  | cons c cs ih =>
    rw [serveAll, List.map_append, rules_serve, ih, List.flatMap_cons,
      asked_of_index (course_serve b c).index]

/-! ## What a book remembers -/

/-- A book keeps track of what happened since it was new. -/
structure Kept (b₀ : RuleBook) (past : List Moment) (b : RuleBook) : Prop where
  index : b.index = b₀.index
  isSatisfied : ∀ id, b.isSatisfied id = b₀.heldAfter id past
  pending : ∀ id t, t ∈ b.waiting id ↔ b₀.Pending past id t
  inTurn : ∀ id, (b.waiting id).Sublist (taken past)
  numbered : ∀ t ∈ taken past, t.number < b.nextTicket
  nodup : (taken past).Nodup
  apart : ∀ id id' t, t ∈ b.waiting id → t ∈ b.waiting id' → id = id'
  handed : ∀ t ∈ handedBack past, t ∈ taken past ∧ ∀ id, t ∉ b.waiting id
  once : (handedBack past).Nodup

/-- A step is a resolution exactly if it fires. -/
theorem Step.resolves_iff (hs : Step b m b') (hk : Kept b₀ past b) :
    b₀.Resolves past m ↔ m.fires = true := by
  obtain ⟨id, event, told⟩ := m
  cases event with
  | evaluated d fired =>
    have hfired := hs.fired d fired rfl
    rw [holdsOf_of_index hk.index, hk.isSatisfied] at hfired
    simp only [Resolves, Moment.fires, hfired, Bool.and_eq_true, Bool.not_eq_true']
    exact and_comm
  | subscribed t => simp [Resolves, Moment.fires]
  | unsubscribed t w => simp [Resolves, Moment.fires]
  | fired name => simp [Resolves, Moment.fires]

/-- A step tells those who wait for its rule, if it fires, and nobody else. -/
theorem Step.mem_told_iff (hs : Step b m b') (x : Ticket × RuleId) :
    x ∈ m.told ↔ m.fires = true ∧ x.2 = m.name ∧ x.1 ∈ b.waiting m.rule := by
  obtain ⟨t, name⟩ := x
  rw [hs.told]
  split_ifs with hf
  · simp only [hf, List.mem_map, Prod.mk.injEq, true_and]
    constructor
    · rintro ⟨t, ht, rfl, rfl⟩
      exact ⟨rfl, ht⟩
    · rintro ⟨rfl, ht⟩
      exact ⟨t, ht, rfl, rfl⟩
  · simp [hf]

/-- The tickets handed back are the line of the rule, as it stands. -/
theorem Step.map_told (hs : Step b m b') :
    m.told.map Prod.fst = if m.fires then b.waiting m.rule else [] := by
  rw [hs.told]
  split_ifs
  · rw [List.map_map]
    exact List.map_id _
  · rfl

/-- In line after a step are who subscribed in it and who was in line and neither told nor
unsubscribed. -/
theorem Step.mem_line_iff (hs : Step b m b') (id : RuleId) (t : Ticket) (ts : List Ticket) :
    t ∈ m.line id ts ↔ m = ⟨id, .subscribed t, []⟩ ∨
      t ∈ ts ∧ (m.rule = id → ¬ m.fires = true ∧ ∀ w, m.event ≠ .unsubscribed t w) := by
  obtain ⟨rule, event, told⟩ := m
  rw [Moment.line]
  by_cases hid : rule = id
  · subst hid
    cases event with
    | evaluated d fired => cases fired <;> simp [Moment.fires]
    | subscribed t' =>
      obtain rfl : told = [] := (hs.subscribed t' rfl).2.2
      simp [Moment.fires, or_comm, eq_comm (a := t)]
    | unsubscribed t' w => simp [Moment.fires, eq_comm (a := t)]
    | fired name => simp [Moment.fires]
  · simp [hid]

/-- Nobody is in line but who was and who subscribed, in this order. -/
theorem Moment.line_sublist (m : Moment) (id : RuleId) (ts : List Ticket) :
    (m.line id ts).Sublist (ts ++ taken [m]) := by
  obtain ⟨rule, event, told⟩ := m
  rw [Moment.line]
  split_ifs with hid
  · cases event with
    | evaluated d fired =>
      dsimp only
      split_ifs
      · exact List.nil_sublist _
      · exact List.sublist_append_left ..
    | subscribed t => exact List.Sublist.refl _
    | unsubscribed t w => exact List.filter_sublist.trans (List.sublist_append_left ..)
    | fired name => exact List.nil_sublist _
  · exact List.sublist_append_left ..

/-- A book that keeps track reports what happened. -/
theorem Kept.explained (hk : Kept b₀ past b) (hs : Step b m b') : Explained b₀ past m where
  told_iff := by
    intro t name
    rw [hs.mem_told_iff, hs.resolves_iff hk, hk.pending]
  inTurn := by
    rw [hs.map_told]
    split_ifs
    · exact hk.inTurn m.rule
    · exact List.nil_sublist _
  fired := by
    intro d fired heq
    rw [hs.resolves_iff hk, Moment.fires, heq]
  unsubscribed := by
    intro t w heq
    have hwaiting : b.isWaiting m.rule t = true ↔ t ∈ b.waiting m.rule := by
      rw [isWaiting, waiting]
      cases b.get? m.rule <;> simp
    rw [hs.unsubscribed t w heq, hwaiting, hk.pending]
  subscribed := by
    intro t heq hmem
    exact (hk.numbered t hmem).ne (hs.subscribed t heq).1

/-- A book keeps track of a moment more. -/
theorem Kept.step (hk : Kept b₀ past b) (hs : Step b m b') : Kept b₀ (past ++ [m]) b' := by
  have hline : ∀ id t, t ∈ b'.waiting id ↔ m = ⟨id, .subscribed t, []⟩ ∨ t ∈ b.waiting id ∧
      (m.rule = id → ¬ m.fires = true ∧ ∀ w, m.event ≠ .unsubscribed t w) := by
    intro id t
    rw [hs.waiting, hs.mem_line_iff]
  have hnew : ∀ t, t ∈ taken [m] ↔ m.event = .subscribed t := by
    intro t
    obtain ⟨rule, event, told⟩ := m
    cases event <;> simp [taken, eq_comm]
  -- a moment hands out one ticket at most, and it is a new one
  have hsingle : (taken [m]).Nodup := by
    obtain ⟨rule, event, told⟩ := m
    cases event <;> simp [taken]
  have hfresh : ∀ t, m.event = .subscribed t → t ∉ taken past := (hk.explained hs).subscribed
  have hback : ∀ t ∈ m.told.map Prod.fst, m.fires = true ∧ t ∈ b.waiting m.rule := by
    intro t ht
    rw [hs.map_told] at ht
    split_ifs at ht with hf
    · exact ⟨hf, ht⟩
    · exact absurd ht List.not_mem_nil
  refine ⟨hs.index.trans hk.index, ?_, ?_, ?_, ?_, ?_, ?_, ?_, ?_⟩
  · intro id
    rw [hs.isSatisfied, heldAfter_concat, hk.isSatisfied]
    have hholds := holdsOf_of_index hk.index
    unfold heldAt
    split
    · rw [hholds]
    all_goals rfl
  · intro id t
    rw [hline, pending_concat_iff, hk.pending, hs.resolves_iff hk]
  · intro id
    rw [hs.waiting, taken_concat]
    exact (m.line_sublist id _).trans ((hk.inTurn id).append_right _)
  · intro t ht
    rw [taken_concat] at ht
    rcases List.mem_append.mp ht with ht | ht
    · exact (hk.numbered t ht).trans_le hs.next
    · exact (hs.subscribed t ((hnew t).mp ht)).2.1
  · rw [taken_concat, List.nodup_append]
    refine ⟨hk.nodup, hsingle, ?_⟩
    rintro t ht t' ht' rfl
    exact hfresh t ((hnew t).mp ht') ht
  · intro id id' t ht ht'
    -- a ticket waits for one rule only: a new one was given out for one, an old one waited for one
    rcases (hline id t).mp ht with hm | ⟨ht, -⟩ <;> rcases (hline id' t).mp ht' with hm' | ⟨ht', -⟩
    · exact (Moment.mk.inj (hm.symm.trans hm')).1
    · exact absurd ((hk.inTurn id').subset ht') (hfresh t (by rw [hm]))
    · exact absurd ((hk.inTurn id).subset ht) (hfresh t (by rw [hm']))
    · exact hk.apart id id' t ht ht'
  · intro t ht
    rw [taken_concat]
    rw [handedBack_concat] at ht
    rcases List.mem_append.mp ht with ht | ht
    -- what was handed back before waits nowhere, since its ticket is not given out again
    · obtain ⟨htaken, hgone⟩ := hk.handed t ht
      refine ⟨List.mem_append_left _ htaken, fun id hwaits => ?_⟩
      rcases (hline id t).mp hwaits with hm | ⟨hwaits, -⟩
      · exact hfresh t (by rw [hm]) htaken
      · exact hgone id hwaits
    -- what is handed back now waited for this rule, whose line is empty after it fired
    · obtain ⟨hfires, ht⟩ := hback t ht
      have htaken := (hk.inTurn m.rule).subset ht
      refine ⟨List.mem_append_left _ htaken, fun id hwaits => ?_⟩
      rcases (hline id t).mp hwaits with hm | ⟨hwaits, hquiet⟩
      · exact hfresh t (by rw [hm]) htaken
      · exact (hquiet (hk.apart _ _ t ht hwaits)).1 hfires
  · rw [handedBack_concat, List.nodup_append]
    refine ⟨hk.once, hk.nodup.sublist (hk.explained hs).inTurn, fun t ht t' ht' heq => ?_⟩
    exact (hk.handed t ht).2 m.rule (heq ▸ (hback t' ht').2)

/-- On the way every moment is as what happened before it says. -/
theorem Course.kept (hc : Course b ms b') (hk : Kept b₀ past b) :
    Kept b₀ (past ++ ms) b' ∧ ∀ before m after, ms = before ++ m :: after →
      Explained b₀ (past ++ before) m := by
  induction hc generalizing past with
  | here =>
    refine ⟨by rwa [List.append_nil], fun before m after heq => ?_⟩
    simp at heq
  | @step b u b' m ms hs _ ih =>
    obtain ⟨hlast, hrest⟩ := ih (hk.step hs)
    rw [List.append_assoc, List.singleton_append] at hlast
    refine ⟨hlast, fun before m' after heq => ?_⟩
    cases before with
    | nil =>
      obtain ⟨rfl, -⟩ := List.cons.inj heq
      rw [List.append_nil]
      exact hk.explained hs
    | cons x before =>
      obtain ⟨rfl, hms⟩ := List.cons.inj heq
      have hexplained := hrest before m' after hms
      rwa [List.append_assoc, List.singleton_append] at hexplained

/-- A new book has nothing to keep track of. -/
theorem kept_ofRules (rs : List Rule) : Kept (ofRules rs) [] (ofRules rs) := by
  -- at first no rule is satisfied and nobody waits
  have hblank : ∀ id e, (ofRules rs).get? id = some e → e.satisfied = false ∧ e.waiting = [] := by
    have hfold : ∀ (rs : List Rule) (b : RuleBook),
        (∀ id e, b.get? id = some e → e.satisfied = false ∧ e.waiting = []) →
          ∀ id e, (rs.foldl insert b).get? id = some e → e.satisfied = false ∧ e.waiting = [] := by
      intro rs
      induction rs with
      | nil => exact fun _ hb => hb
      | cons r rs ih =>
        refine fun b hb => ih (b.insert r) fun id e he => ?_
        have hget : (b.insert r).get? id = if id = r.id then some { rule := r } else b.get? id :=
          Table.get?_insert ..
        rw [hget] at he
        split_ifs at he
        · rw [← Option.some.inj he]
          exact ⟨rfl, rfl⟩
        · exact hb id e he
    exact hfold rs {} (by simp [get?, Table.get?, Table.lookup])
  have hwaiting : ∀ id, (ofRules rs).waiting id = [] := by
    intro id
    cases he : (ofRules rs).get? id with
    | none => rw [waiting, he, Option.map_none, Option.getD_none]
    | some e => rw [waiting_of_get? he, (hblank id e he).2]
  refine ⟨rfl, fun id => ?_, fun id t => ?_, fun id => ?_, by simp [taken], List.nodup_nil,
    fun id _ t ht => ?_, by simp [handedBack], List.nodup_nil⟩
  · cases he : (ofRules rs).get? id with
    | none =>
      rw [RuleBook.isSatisfied, he]
      rfl
    | some e =>
      rw [isSatisfied_of_get? he, (hblank id e he).1]
      rfl
  · rw [hwaiting]
    exact ⟨fun ht => absurd ht List.not_mem_nil, fun hp => hp.mem_taken⟩
  · rw [hwaiting]
    exact List.nil_sublist _
  · rw [hwaiting] at ht
    exact absurd ht List.not_mem_nil

/-! ## The history of a book -/

/-- What happens to the rules that are in force, whatever is asked, is about the rules that are asked
for, in turn. At every moment a ticket is handed back exactly if it was taken for the rule, the rule
is fired or comes to hold then, and neither did so since the ticket was taken, nor was the ticket
given back; those handed back are told the name of the rule, in the order in which the tickets were
taken. An evaluation says that it fired, and giving a ticket back that it was waiting, exactly if that
is so. No ticket is handed back twice, and a rule is satisfied exactly if it held when it was last
evaluated. -/
theorem told_at_first_resolution (rs : List Rule) (cs : List Call) :
    let b := ofRules rs
    let history := (b.serveAll cs).2
    history.map Moment.rule = cs.flatMap b.asked ∧
      (∀ past m future, history = past ++ m :: future → Explained b past m) ∧
      (handedBack history).Nodup ∧
      ∀ id, (b.serveAll cs).1.isSatisfied id = b.heldAfter id history := by
  intro b history
  obtain ⟨hk, hexplained⟩ := (course_serveAll b cs).kept (kept_ofRules rs)
  exact ⟨rules_serveAll b cs, hexplained, hk.once, hk.isSatisfied⟩

/-- A rule without literals holds of every document. -/
def freeRule : Rule where
  id := "free"

/-- Two tickets are taken and the first is given back, then the rule is evaluated twice. -/
def freeCalls : List Call :=
  [.subscribe "free", .subscribe "free", .unsubscribe "free" ⟨0⟩, .evaluateAll .empty,
    .evaluate .empty ["free"]]

/-- The second ticket is handed back when the rule is first evaluated. -/
theorem told_free :
    let past : List Moment := [⟨"free", .subscribed ⟨0⟩, []⟩, ⟨"free", .subscribed ⟨1⟩, []⟩,
      ⟨"free", .unsubscribed ⟨0⟩ true, []⟩]
    let m : Moment := ⟨"free", .evaluated .empty true, [(⟨1⟩, "free")]⟩
    ((ofRules [freeRule]).serveAll freeCalls).2 =
        past ++ m :: [⟨"free", .evaluated .empty false, []⟩] ∧
      Explained (ofRules [freeRule]) past m := by
  intro past m
  have hhistory : ((ofRules [freeRule]).serveAll freeCalls).2 =
      past ++ m :: [⟨"free", .evaluated .empty false, []⟩] := rfl
  obtain ⟨-, hexplained, -⟩ := told_at_first_resolution [freeRule] freeCalls
  exact ⟨hhistory, hexplained past m _ hhistory⟩

end GuidedXml.RuleBook
