/-
# What the user is told of rules

A check tells the user of every rule that comes to be violated. The notice has a ticket that waits
for the rule, and it is resolved when the rule hands back all tickets for it, which it does when it
comes to hold.

The main statements say that a check leaves no notice about a rule open where the rule holds and the
latest one alone where it is violated, and that a notice that is resolved stays so.
-/
import GuidedXml.Proofs.Rule.Checking

namespace GuidedXml

/-! ## Rule books -/

namespace RuleBook

variable {b : RuleBook} {d : Document} {ids : List RuleId} {id : RuleId} {e : Entry}

/-- What an evaluation finds out is about the rules evaluated, each of them in its turn. -/
theorem sublist_evaluate (b : RuleBook) (d : Document) (ids : List RuleId) :
    ((b.evaluate d ids).2.map Prod.fst).Sublist ids := by
  induction ids generalizing b with
  | nil => exact List.Sublist.refl _
  | cons id ids ih =>
    rw [evaluate]
    cases b.get? id with
    | none => exact (ih b).trans (List.sublist_cons_self id ids)
    | some e => exact (ih _).cons_cons id

/-- No evaluation touches a rule that is not evaluated. -/
theorem get?_evaluate_of_not_mem (hid : id ∉ ids) : (b.evaluate d ids).1.get? id = b.get? id := by
  induction ids generalizing b with
  | nil => rfl
  | cons id' ids ih =>
    rw [List.mem_cons, not_or] at hid
    obtain ⟨hne, hid⟩ := hid
    rw [evaluate]
    cases b.get? id' with
    | none => exact ih hid
    | some e => exact (ih hid).trans ((Table.get?_insert ..).trans (if_neg hne))

/-- A rule that is evaluated once is as after its evaluation. -/
theorem get?_evaluate (hnd : ids.Nodup) (hid : id ∈ ids) (he : b.get? id = some e) :
    (b.evaluate d ids).1.get? id = some (e.after d) := by
  induction ids generalizing b with
  | nil => simp at hid
  | cons id' ids ih =>
    obtain ⟨hnew, hnd⟩ := List.nodup_cons.mp hnd
    rw [evaluate]
    rcases List.mem_cons.mp hid with rfl | hid
    · rw [he]
      dsimp only
      rw [get?_evaluate_of_not_mem hnew]
      exact Table.get?_insert_self ..
    · have hne : id ≠ id' := fun heq => hnew (heq ▸ hid)
      cases b.get? id' with
      | none => exact ih hnd hid he
      | some e' => exact ih hnd hid ((Table.get?_insert ..).trans ((if_neg hne).trans he))

theorem nextTicket_evaluate (b : RuleBook) (d : Document) (ids : List RuleId) :
    (b.evaluate d ids).1.nextTicket = b.nextTicket := by
  induction ids generalizing b with
  | nil => rfl
  | cons id ids ih =>
    rw [evaluate]
    cases b.get? id with
    | none => exact ih b
    | some e => exact ih _

/-- An evaluation hands tickets back, and hands out none. -/
theorem isWaiting_of_evaluate {t : Ticket}
    (hw : (b.evaluate d ids).1.isWaiting id t = true) : b.isWaiting id t = true := by
  induction ids generalizing b with
  | nil => exact hw
  | cons id' ids ih =>
    rw [evaluate] at hw
    cases he : b.get? id' with
    | none =>
      rw [he] at hw
      exact ih hw
    | some e =>
      rw [he] at hw
      have hold := ih hw
      rw [isWaiting, get?, Table.get?_insert] at hold
      split_ifs at hold with hid
      · rw [isWaiting, hid, he, Option.any_some]
        rw [Option.any_some, Entry.after] at hold
        dsimp only at hold
        split_ifs at hold with hfired
        · simp at hold
        · exact hold
      · exact hold

/-- Subscribing puts the next ticket last in the line of its rule. -/
theorem get?_subscribe (b : RuleBook) (id id' : RuleId) :
    (b.subscribe id).1.get? id' = if id' = id then
      (b.get? id').map fun e => { e with waiting := e.waiting ++ [⟨b.nextTicket⟩] }
    else b.get? id' :=
  Table.get?_modify ..

end RuleBook

namespace Session

variable {s s' s'' : Session} {r : RuleId} {e : RuleBook.Entry} {ids : List RuleId}
  {held : RuleId → Bool} {x : RuleId × RuleBook.Evaluation}

/-! ## Notices about a rule -/

/-- The notices about violations of the rule, oldest first. -/
def noticesAbout (s : Session) (r : RuleId) : List Notice :=
  s.notices.filter fun n => n.violation.any fun v => v.rule = r

/-- Noting an evaluation of a rule that is not in force, that holds, or of which the user knows, tells
nothing. -/
theorem noteEvaluation_of_quiet
    (hq : s.rules.isSatisfied x.1 = true ∨ held x.1 = false ∨ s.rules.get? x.1 = none) :
    (s.noteEvaluation held x).rules = s.rules ∧ (s.noteEvaluation held x).notices = s.notices := by
  unfold noteEvaluation
  dsimp only
  split_ifs with hreport
  · rw [Bool.and_eq_true, Bool.not_eq_true'] at hreport
    obtain hsat | hheld | hnone := hq
    · rw [hsat] at hreport
      simp at hreport
    · rw [hheld] at hreport
      simp at hreport
    · unfold report
      dsimp only
      rw [hnone]
      exact ⟨rfl, rfl⟩
  · exact ⟨rfl, rfl⟩

/-- Noting an evaluation of any other rule tells the user that it is violated. -/
theorem noteEvaluation_of_violated (he : s.rules.get? x.1 = some e) (hsat : e.satisfied = false)
    (hheld : held x.1 = true) :
    (s.noteEvaluation held x).rules = (s.rules.subscribe x.1).1 ∧
      (s.noteEvaluation held x).notices = s.notices ++
        [.ofViolation e.rule.message ⟨x.1, ⟨s.rules.nextTicket⟩⟩] := by
  have hviolated : s.rules.isSatisfied x.1 = false := by
    rw [RuleBook.isSatisfied, he, Option.any_some, hsat]
  unfold noteEvaluation
  dsimp only
  rw [hviolated, hheld, Bool.not_false, Bool.and_self, if_pos rfl]
  unfold report
  dsimp only
  rw [he]
  exact ⟨rfl, rfl⟩

/-- Noting an evaluation says nothing, or tells one message of its rule. -/
theorem noteEvaluation_cases (held : RuleId → Bool) (s : Session)
    (x : RuleId × RuleBook.Evaluation) :
    ((s.noteEvaluation held x).rules = s.rules ∧ (s.noteEvaluation held x).notices = s.notices) ∨
      ∃ message, (s.noteEvaluation held x).rules = (s.rules.subscribe x.1).1 ∧
        (s.noteEvaluation held x).notices = s.notices ++
          [.ofViolation message ⟨x.1, ⟨s.rules.nextTicket⟩⟩] := by
  cases he : s.rules.get? x.1 with
  | none => exact Or.inl (noteEvaluation_of_quiet (Or.inr (Or.inr he)))
  | some e =>
    cases hsat : e.satisfied with
    | true =>
      refine Or.inl (noteEvaluation_of_quiet (Or.inl ?_))
      rw [RuleBook.isSatisfied, he, Option.any_some, hsat]
    | false =>
      cases hheld : held x.1 with
      | true => exact Or.inr ⟨_, noteEvaluation_of_violated he hsat hheld⟩
      | false => exact Or.inl (noteEvaluation_of_quiet (Or.inr (Or.inl hheld)))

/-! ## Steps onward -/

/-- The tickets of all notices were handed out. -/
def Numbered (s : Session) : Prop :=
  ∀ n ∈ s.notices, ∀ v, n.violation = some v → v.ticket.number < s.rules.nextTicket

/-- Tickets are handed out in order, notices come behind the others, and no ticket that was handed
out before comes to wait again. -/
structure Onward (s s' : Session) : Prop where
  le : s.rules.nextTicket ≤ s'.rules.nextTicket
  numbered : s.Numbered → s'.Numbered
  waiting : ∀ r t, s'.rules.isWaiting r t = true →
    s.rules.isWaiting r t = true ∨ s.rules.nextTicket ≤ t.number
  notices : s.notices <+: s'.notices

namespace Onward

theorem of_eq (hr : s'.rules = s.rules) (hn : s'.notices = s.notices) : Onward s s' where
  le := Nat.le_of_eq (by rw [hr])
  numbered := by
    unfold Numbered
    rw [hr, hn]
    exact id
  waiting := by
    rw [hr]
    exact fun _ _ => Or.inl
  notices := hn ▸ List.prefix_rfl

theorem trans (h₁ : Onward s s') (h₂ : Onward s' s'') : Onward s s'' where
  le := Nat.le_trans h₁.le h₂.le
  numbered := h₂.numbered ∘ h₁.numbered
  waiting := by
    intro r t hw
    rcases h₂.waiting r t hw with hw | hle
    · exact h₁.waiting r t hw
    · exact Or.inr (Nat.le_trans h₁.le hle)
  notices := h₁.notices.trans h₂.notices

/-- A notice that is resolved stays so. -/
theorem isResolved {n : Notice} (ho : Onward s s') (hs : s.Numbered) (hn : n ∈ s.notices)
    (hr : n.isResolved s.rules = true) : n.isResolved s'.rules = true := by
  obtain ⟨v, hv, hgone⟩ := (Option.any_eq_true _ _).mp hr
  rw [Bool.not_eq_true'] at hgone
  refine (Option.any_eq_true _ _).mpr ⟨v, hv, ?_⟩
  rw [Bool.not_eq_true', Bool.eq_false_iff]
  intro hw
  rcases ho.waiting _ _ hw with hold | hle
  · rw [hgone] at hold
    simp at hold
  · exact Nat.not_lt.mpr hle (hs n hn v hv)

end Onward

/-- Noting an evaluation leads onward. -/
theorem onward_noteEvaluation (held : RuleId → Bool) (s : Session)
    (x : RuleId × RuleBook.Evaluation) : Onward s (s.noteEvaluation held x) := by
  rcases noteEvaluation_cases held s x with ⟨hr, hn⟩ | ⟨message, hr, hn⟩
  · exact .of_eq hr hn
  · have hnext : (s.noteEvaluation held x).rules.nextTicket = s.rules.nextTicket + 1 := by
      rw [hr]
      rfl
    refine ⟨by omega, ?_, ?_, hn ▸ List.prefix_append ..⟩
    · intro hs n hmem v hv
      rw [hn] at hmem
      rw [hnext]
      rcases List.mem_append.mp hmem with hmem | hmem
      · exact Nat.lt_succ_of_lt (hs n hmem v hv)
      · rw [List.mem_singleton.mp hmem] at hv
        rw [← Option.some.inj hv]
        exact Nat.lt_succ_self _
    · intro r t hw
      rw [hr, RuleBook.isWaiting, RuleBook.get?_subscribe] at hw
      split_ifs at hw
      · obtain ⟨e, he, hw⟩ := (Option.any_eq_true _ _).mp hw
        obtain ⟨e, hold, rfl⟩ := Option.map_eq_some_iff.mp he
        rw [List.contains_iff_mem, List.mem_append, List.mem_singleton] at hw
        rcases hw with hw | rfl
        · exact Or.inl ((Option.any_eq_true _ _).mpr ⟨e, hold, List.contains_iff_mem.mpr hw⟩)
        · exact Or.inr (Nat.le_refl _)
      · exact Or.inl hw

theorem onward_foldl (held : RuleId → Bool) (es : List (RuleId × RuleBook.Evaluation))
    (s : Session) : Onward s (es.foldl (noteEvaluation held) s) := by
  induction es generalizing s with
  | nil => exact .of_eq rfl rfl
  | cons x es ih => exact (onward_noteEvaluation held s x).trans (ih _)

theorem onward_evaluate (s : Session) (ids : List RuleId) :
    Onward s { s with rules := (s.rules.evaluate s.document ids).1 } where
  le := Nat.le_of_eq (RuleBook.nextTicket_evaluate ..).symm
  numbered := by
    unfold Numbered
    rw [RuleBook.nextTicket_evaluate]
    exact id
  waiting := fun _ _ hw => Or.inl (RuleBook.isWaiting_of_evaluate hw)
  notices := List.prefix_rfl

/-- Checking rules leads onward. -/
theorem onward_checkRules (s : Session) (ids : List RuleId) : Onward s (s.checkRules ids) :=
  (onward_evaluate s ids).trans (onward_foldl _ _ _)

/-! ## Single rules -/

/-- Nothing was told of the rule, and it is as before. -/
structure Silent (r : RuleId) (s s' : Session) : Prop where
  get? : s'.rules.get? r = s.rules.get? r
  about : s'.noticesAbout r = s.noticesAbout r
  recorded : s'.workspace.recorded.contains r = s.workspace.recorded.contains r

theorem Silent.trans (h₁ : Silent r s s') (h₂ : Silent r s' s'') : Silent r s s'' :=
  ⟨h₂.get?.trans h₁.get?, h₂.about.trans h₁.about, h₂.recorded.trans h₁.recorded⟩

/-- Silence about a rule changes nothing of whether it is quiet. -/
theorem Silent.isQuietAbout (hs : Silent r s s') : s'.isQuietAbout r = s.isQuietAbout r := by
  rw [Session.isQuietAbout, Session.isQuietAbout, RuleBook.isSatisfied, RuleBook.isSatisfied,
    hs.get?, hs.recorded]

theorem contains_recorded_noteEvaluation (held : RuleId → Bool) (s : Session)
    (x : RuleId × RuleBook.Evaluation) (r : RuleId) :
    (s.noteEvaluation held x).workspace.recorded.contains r =
      (decide (r = x.1) || s.workspace.recorded.contains r) := by
  rw [Table.contains, Table.contains, recorded_noteEvaluation, Table.get?_insert]
  split_ifs with hr <;> simp [hr]

/-- Noting an evaluation is silent about other rules. -/
theorem silent_noteEvaluation (held : RuleId → Bool) (s : Session) (hr : x.1 ≠ r) :
    Silent r s (s.noteEvaluation held x) := by
  have hrecorded : (s.noteEvaluation held x).workspace.recorded.contains r =
      s.workspace.recorded.contains r := by
    rw [contains_recorded_noteEvaluation, decide_eq_false (Ne.symm hr), Bool.false_or]
  rcases noteEvaluation_cases held s x with ⟨hrules, hn⟩ | ⟨message, hrules, hn⟩
  · exact ⟨by rw [hrules], by rw [noticesAbout, hn, noticesAbout], hrecorded⟩
  · refine ⟨?_, ?_, hrecorded⟩
    · rw [hrules, RuleBook.get?_subscribe, if_neg (Ne.symm hr)]
    · rw [noticesAbout, hn, List.filter_append, noticesAbout]
      simp [Notice.ofViolation, hr]

theorem silent_foldl (held : RuleId → Bool) {es : List (RuleId × RuleBook.Evaluation)}
    (hes : ∀ x ∈ es, x.1 ≠ r) (s : Session) :
    Silent r s (es.foldl (noteEvaluation held) s) := by
  induction es generalizing s with
  | nil => exact ⟨rfl, rfl, rfl⟩
  | cons x es ih =>
    obtain ⟨hx, hes⟩ := List.forall_mem_cons.mp hes
    exact (silent_noteEvaluation held s hx).trans (ih hes _)

/-- Nothing is told of a rule that is not checked. -/
theorem silent_checkRules (s : Session) (hr : r ∉ ids) : Silent r s (s.checkRules ids) := by
  have hevaluated : Silent r s { s with rules := (s.rules.evaluate s.document ids).1 } :=
    ⟨RuleBook.get?_evaluate_of_not_mem hr, rfl, rfl⟩
  refine hevaluated.trans (silent_foldl _ (fun x hx hxr => hr ?_) _)
  rw [← hxr]
  exact (RuleBook.sublist_evaluate ..).subset (List.mem_map_of_mem hx)

/-- The rule is in force, and the user was told of it what there is to tell: no ticket waits while the
session is quiet about it, and otherwise the ticket of the latest notice about it, which no other
notice has. -/
structure Told (s : Session) (r : RuleId) (e : RuleBook.Entry) : Prop where
  get? : s.rules.get? r = some e
  quiet : s.isQuietAbout r = true → e.waiting = []
  violated : s.isQuietAbout r = false → ∃ earlier latest t,
    s.noticesAbout r = earlier ++ [latest] ∧ latest.violation = some ⟨r, t⟩ ∧ e.waiting = [t] ∧
      ∀ n ∈ earlier, n.violation ≠ some ⟨r, t⟩

/-- What was told of a rule stays so through silence. -/
theorem Told.silent (ht : s.Told r e) (hs : Silent r s s') : s'.Told r e where
  get? := hs.get?.trans ht.get?
  quiet := hs.isQuietAbout ▸ ht.quiet
  violated := by
    rw [hs.isQuietAbout, hs.about]
    exact ht.violated

/-- Once the nodes of a rule are recorded, the session is quiet about it exactly if it is
satisfied. -/
theorem isQuietAbout_of_recorded (hrec : s.workspace.recorded.contains r = true)
    (he : s.rules.get? r = some e) : s.isQuietAbout r = e.satisfied := by
  rw [isQuietAbout, hrec, Bool.not_true, Bool.false_or, RuleBook.isSatisfied, he, Option.any_some]

/-- A rule that comes to be violated is told of, and the ticket of the new notice is the only one that
waits. -/
theorem told_of_report {u : Session} {d : Document} (hviolated : e.rule.holds d = false)
    (hwaiting : e.waiting = []) (hheld : held x.1 = true) (hnum : u.Numbered)
    (hu : u.rules.get? x.1 = some (e.after d))
    (hrec : (u.noteEvaluation held x).workspace.recorded.contains x.1 = true) :
    (u.noteEvaluation held x).Told x.1
      { e.after d with waiting := [⟨u.rules.nextTicket⟩] } := by
  obtain ⟨hrules, hnotices⟩ := noteEvaluation_of_violated hu hviolated hheld
  have hnone : (e.after d).waiting = [] := by
    rw [RuleBook.Entry.after]
    simp [hviolated, hwaiting]
  have he' : (u.noteEvaluation held x).rules.get? x.1 =
      some { e.after d with waiting := [⟨u.rules.nextTicket⟩] } := by
    rw [hrules, RuleBook.get?_subscribe, if_pos rfl, hu, Option.map_some, hnone]
    rfl
  refine ⟨he', ?_, ?_⟩
  · rw [isQuietAbout_of_recorded hrec he']
    intro hsat
    rw [RuleBook.satisfied_after, hviolated] at hsat
    simp at hsat
  · intro _
    refine ⟨u.noticesAbout x.1, .ofViolation (e.after d).rule.message ⟨x.1, ⟨u.rules.nextTicket⟩⟩,
      ⟨u.rules.nextTicket⟩, ?_, rfl, rfl, ?_⟩
    · rw [noticesAbout, hnotices, List.filter_append, noticesAbout]
      simp [Notice.ofViolation]
    · intro n hn hv
      exact Nat.lt_irrefl _ (hnum n (List.mem_of_mem_filter hn) _ hv)

/-- A rule that does not come to be violated needs no notice. If it holds, nothing waits for that any
more. -/
theorem told_of_silence {d : Document} (ht : s.Told r e)
    (hsilence : ¬ (e.rule.holds d = false ∧ s.isQuietAbout r = true))
    (he' : s'.rules.get? r = some (e.after d)) (habout : s'.noticesAbout r = s.noticesAbout r)
    (hrec : s'.workspace.recorded.contains r = true) : s'.Told r (e.after d) := by
  refine ⟨he', ?_, ?_⟩
  · rw [isQuietAbout_of_recorded hrec he', RuleBook.satisfied_after]
    intro hholds
    cases hsat : e.satisfied with
    | false => simp [RuleBook.Entry.after, hholds, hsat]
    | true =>
      have hquiet : s.isQuietAbout r = true := by
        rw [isQuietAbout, RuleBook.isSatisfied, ht.get?, Option.any_some, hsat, Bool.or_true]
      simp [RuleBook.Entry.after, hsat, ht.quiet hquiet]
  · rw [isQuietAbout_of_recorded hrec he', RuleBook.satisfied_after, habout]
    intro hviolated
    have hloud : s.isQuietAbout r = false := by
      rw [← Bool.not_eq_true]
      exact fun hquiet => hsilence ⟨hviolated, hquiet⟩
    have hwaiting : (e.after d).waiting = e.waiting := by simp [RuleBook.Entry.after, hviolated]
    rw [hwaiting]
    exact ht.violated hloud

/-- Noting the evaluation of a rule that was evaluated tells the user what there is to tell. -/
theorem told_noteEvaluation {u : Session} {d : Document} (ht : s.Told x.1 e)
    (hheld : held x.1 = s.isQuietAbout x.1) (hnum : u.Numbered)
    (hu : u.rules.get? x.1 = some (e.after d)) (habout : u.noticesAbout x.1 = s.noticesAbout x.1) :
    (u.noteEvaluation held x).workspace.recorded.contains x.1 = true ∧
      ∃ e', (u.noteEvaluation held x).Told x.1 e' := by
  have hrec : (u.noteEvaluation held x).workspace.recorded.contains x.1 = true := by
    rw [contains_recorded_noteEvaluation, decide_eq_true rfl, Bool.true_or]
  refine ⟨hrec, ?_⟩
  by_cases hreport : e.rule.holds d = false ∧ s.isQuietAbout x.1 = true
  · obtain ⟨hviolated, hquiet⟩ := hreport
    exact ⟨_, told_of_report hviolated (ht.quiet hquiet) (hheld.trans hquiet) hnum hu hrec⟩
  · obtain ⟨hrules, hnotices⟩ : (u.noteEvaluation held x).rules = u.rules ∧
        (u.noteEvaluation held x).notices = u.notices := by
      refine noteEvaluation_of_quiet ?_
      rcases not_and_or.mp hreport with hholds | hloud
      · refine Or.inl ?_
        rw [RuleBook.isSatisfied, hu, Option.any_some, RuleBook.satisfied_after]
        simpa using hholds
      · exact Or.inr (Or.inl (hheld.trans (by simpa using hloud)))
    have habout' : (u.noteEvaluation held x).noticesAbout x.1 = s.noticesAbout x.1 := by
      rw [noticesAbout, hnotices, ← habout, noticesAbout]
    exact ⟨_, told_of_silence ht hreport (by rw [hrules, hu]) habout' hrec⟩

/-- A check tells the user what there is to tell of a rule that is checked. -/
theorem told_checkRules_of_mem (hnd : ids.Nodup) (hr : r ∈ ids) (hnum : s.Numbered)
    (ht : s.Told r e) : (s.checkRules ids).workspace.recorded.contains r = true ∧
      ∃ e', (s.checkRules ids).Told r e' := by
  have hstate : s.rules.state? r = some (e.rule, e.satisfied) := by
    rw [RuleBook.state?, ht.get?, Option.map_some]
  obtain ⟨x, hx, rfl⟩ := RuleBook.exists_mem_evaluate (d := s.document) hr hstate
  obtain ⟨before, after, hsplit⟩ := List.append_of_mem hx
  -- the rule is evaluated once, so nothing is told of it before and after
  have hkeys := hnd.sublist (RuleBook.sublist_evaluate s.rules s.document ids)
  rw [hsplit, List.map_append, List.map_cons, List.nodup_append, List.nodup_cons] at hkeys
  obtain ⟨-, ⟨hafter, -⟩, hbefore⟩ := hkeys
  have hout : ∀ y ∈ before, y.1 ≠ x.1 := fun y hy =>
    hbefore _ (List.mem_map_of_mem hy) _ (List.mem_cons_self ..)
  have hout' : ∀ y ∈ after, y.1 ≠ x.1 := fun y hy heq =>
    hafter (heq ▸ List.mem_map_of_mem hy)
  unfold checkRules
  dsimp only
  rw [hsplit, List.foldl_append, List.foldl_cons]
  have honward := onward_evaluate s ids
  have hevaluated : ({ s with rules := (s.rules.evaluate s.document ids).1 } : Session).rules.get?
      x.1 = some (e.after s.document) := RuleBook.get?_evaluate hnd hr ht.get?
  have habout : ({ s with rules := (s.rules.evaluate s.document ids).1 } : Session).noticesAbout
      x.1 = s.noticesAbout x.1 := rfl
  generalize ({ s with rules := (s.rules.evaluate s.document ids).1 } : Session) = u
    at honward hevaluated habout
  have hfirst := silent_foldl s.isQuietAbout hout u
  obtain ⟨hrec, e', ht'⟩ := told_noteEvaluation ht rfl
    ((onward_foldl _ before u).numbered (honward.numbered hnum)) (hfirst.get?.trans hevaluated)
    (hfirst.about.trans habout)
  generalize noteEvaluation s.isQuietAbout _ x = u' at hrec ht' ⊢
  have hrest := silent_foldl s.isQuietAbout hout' u'
  exact ⟨hrest.recorded.trans hrec, e', ht'.silent hrest⟩

/-- Where the user was told what there is to tell, no notice is open about a rule that is satisfied,
and the latest one alone about another. -/
theorem Told.isResolved (ht : s.Told r e) (hrec : s.workspace.recorded.contains r = true) :
    (s.rules.isSatisfied r = true → ∀ n ∈ s.noticesAbout r, n.isResolved s.rules = true) ∧
      (s.rules.isSatisfied r = false → ∃ earlier latest, s.noticesAbout r = earlier ++ [latest] ∧
        latest.isResolved s.rules = false ∧ ∀ n ∈ earlier, n.isResolved s.rules = true) := by
  have hsat : s.isQuietAbout r = s.rules.isSatisfied r := by
    rw [isQuietAbout, hrec, Bool.not_true, Bool.false_or]
  have hwaiting : ∀ t, s.rules.isWaiting r t = e.waiting.contains t := fun t => by
    rw [RuleBook.isWaiting, ht.get?, Option.any_some]
  have hticket : ∀ n ∈ s.noticesAbout r, ∃ t, n.violation = some ⟨r, t⟩ := by
    intro n hn
    obtain ⟨v, hv, hr⟩ := (Option.any_eq_true _ _).mp (List.mem_filter.mp hn).2
    exact ⟨v.ticket, hv.trans (by rw [← of_decide_eq_true hr])⟩
  refine ⟨fun h n hn => ?_, fun h => ?_⟩
  · obtain ⟨t, hv⟩ := hticket n hn
    rw [Notice.isResolved, hv, Option.any_some, hwaiting, ht.quiet (hsat.trans h)]
    rfl
  · obtain ⟨earlier, latest, t, habout, hlatest, hopen, hother⟩ := ht.violated (hsat.trans h)
    refine ⟨earlier, latest, habout, ?_, fun n hn => ?_⟩
    · rw [Notice.isResolved, hlatest, Option.any_some, hwaiting, hopen]
      simp
    · obtain ⟨t', hv⟩ := hticket n (habout ▸ List.mem_append_left _ hn)
      rw [Notice.isResolved, hv, Option.any_some, hwaiting, hopen]
      have hne : t' ≠ t := fun heq => hother n hn (heq ▸ hv)
      simpa using hne

end Session

end GuidedXml
