/-
# Lines as queues

Names are registered, released and cleared, one call after the other. A claim begins with the first
registration since it was last given up, and registering it again changes nothing.

The main statement says of every list of calls that the line of each name is the queue of the claims
that were not given up since, in the order in which they began.
-/
import GuidedXml.Proofs.Editing.Claiming
import Mathlib.Data.Nat.Find
import Mathlib.Order.Bounds.Basic

namespace GuidedXml.Claims

/-! ## Calls -/

/-- What can be asked of a registry of names. -/
inductive Call where
  | register (name : String) (h : Handle)
  | release (name : String) (h : Handle)
  | clear
  deriving DecidableEq, Repr

/-- The claims after a call, and the node that becomes the owner by it. -/
def answer (c : Claims) : Call → Claims × Option Handle
  | .register name h => (c.register name h, none)
  | .release name h => c.release name h
  | .clear => ({}, none)

/-- The claims after calls, where there are none at first. -/
def afterCalls (calls : List Call) : Claims :=
  calls.foldl (fun c call => (c.answer call).1) {}

/-! ## What the calls say -/

/-- Call number `i` registers the claim of a node to a name, and no later call gives it up. -/
structure Unreleased (calls : List Call) (name : String) (h : Handle) (i : ℕ) : Prop where
  named : name ≠ ""
  registered : calls[i]? = some (.register name h)
  kept : ∀ j > i, calls[j]? ≠ some (.release name h) ∧ calls[j]? ≠ some .clear

/-- The claim that a node still has to a name began with call number `i`, the first of those that
register it and were not followed by one that gives it up. -/
def Began (calls : List Call) (name : String) (h : Handle) (i : ℕ) : Prop :=
  IsLeast {j | Unreleased calls name h j} i

/-- The nodes with a claim to a name, once each, in the order in which their claims began. -/
structure IsQueue (calls : List Call) (name : String) (line : List Handle) : Prop where
  nodup : line.Nodup
  mem_iff : ∀ h, h ∈ line ↔ ∃ i, Began calls name h i
  inOrder : line.Pairwise fun h k => ∀ i j, Began calls name h i → Began calls name k j → i < j

variable {c : Claims} {calls : List Call} {call : Call} {name other : String} {h k : Handle}
  {i j : ℕ} {line line' : List Handle}

/-! ## One call more -/

theorem Unreleased.lt (hu : Unreleased calls name h i) : i < calls.length :=
  (List.getElem?_eq_some_iff.mp hu.registered).1

/-- Where there is a claim it began at some call. -/
theorem exists_began_iff : (∃ i, Began calls name h i) ↔ ∃ i, Unreleased calls name h i := by
  constructor
  · rintro ⟨i, hi⟩
    exact ⟨i, hi.1⟩
  · intro hex
    classical
    exact ⟨Nat.find hex, Nat.find_spec hex, fun j hj => Nat.find_min' hex hj⟩

theorem getElem?_concat_eq_some_iff {later : Call} :
    (calls ++ [call])[j]? = some later ↔
      calls[j]? = some later ∨ j = calls.length ∧ call = later := by
  rcases Nat.lt_trichotomy j calls.length with hlt | rfl | hgt
  · rw [List.getElem?_append_left hlt]
    simp [hlt.ne]
  · simp
  · rw [List.getElem?_eq_none hgt.le, List.getElem?_eq_none (by simpa using Nat.succ_le_of_lt hgt)]
    simp [hgt.ne']

/-- A further call gives a claim up, or registers it, or leaves it as it is. -/
theorem unreleased_concat_iff : Unreleased (calls ++ [call]) name h i ↔
    Unreleased calls name h i ∧ call ≠ .release name h ∧ call ≠ .clear ∨
      i = calls.length ∧ call = .register name h ∧ name ≠ "" := by
  constructor
  · rintro ⟨hname, hreg, hkept⟩
    simp only [ne_eq, getElem?_concat_eq_some_iff, not_or, not_and] at hreg hkept
    rcases hreg with hreg | ⟨rfl, hcall⟩
    · have hlast := hkept calls.length (List.getElem?_eq_some_iff.mp hreg).1
      refine Or.inl ⟨⟨hname, hreg, fun j hj => ?_⟩, hlast.1.2 rfl, hlast.2.2 rfl⟩
      exact ⟨(hkept j hj).1.1, (hkept j hj).2.1⟩
    · exact Or.inr ⟨rfl, hcall, hname⟩
  · rintro (⟨hu, hrelease, hclear⟩ | ⟨rfl, hcall, hname⟩)
    · refine ⟨hu.named, getElem?_concat_eq_some_iff.mpr (Or.inl hu.registered), fun j hj => ?_⟩
      simp only [ne_eq, getElem?_concat_eq_some_iff, not_or, hrelease, hclear, and_false,
        not_false_eq_true, and_true]
      exact hu.kept j hj
    · refine ⟨hname, getElem?_concat_eq_some_iff.mpr (Or.inr ⟨rfl, hcall⟩), fun j hj => ?_⟩
      -- nothing comes after the last call
      rw [List.getElem?_eq_none (by simpa using Nat.succ_le_of_lt hj)]
      simp

/-- A call that does not give up a claim, and does not begin it, leaves it where it began. -/
theorem began_concat_iff (hrelease : call ≠ .release name h) (hclear : call ≠ .clear)
    (hregister : call = .register name h → name = "" ∨ ∃ i, Began calls name h i) :
    Began (calls ++ [call]) name h i ↔ Began calls name h i := by
  have hstays : ∀ {j}, Unreleased calls name h j → Unreleased (calls ++ [call]) name h j :=
    fun hu => unreleased_concat_iff.mpr (Or.inl ⟨hu, hrelease, hclear⟩)
  constructor
  · rintro ⟨hu, hleast⟩
    rcases unreleased_concat_iff.mp hu with ⟨hold, -, -⟩ | ⟨rfl, hcall, hname⟩
    · exact ⟨hold, fun j hj => hleast (hstays hj)⟩
    · obtain ⟨j, hj, -⟩ := (hregister hcall).resolve_left hname
      exact absurd (hleast (hstays hj)) (not_le.mpr hj.lt)
  · rintro ⟨hu, hleast⟩
    refine ⟨hstays hu, fun j hj => ?_⟩
    rcases unreleased_concat_iff.mp hj with ⟨hold, -, -⟩ | ⟨rfl, -, -⟩
    · exact hleast hold
    · exact hu.lt.le

/-- A claim that nobody had begins with the call that registers it. -/
theorem began_concat_register_iff (hname : name ≠ "") (hnone : ∀ j, ¬ Unreleased calls name h j) :
    Began (calls ++ [.register name h]) name h i ↔ i = calls.length := by
  have hnew : ∀ j, Unreleased (calls ++ [.register name h]) name h j ↔ j = calls.length := by
    intro j
    rw [unreleased_concat_iff]
    constructor
    · rintro (⟨hu, -, -⟩ | ⟨hj, -, -⟩)
      · exact absurd hu (hnone j)
      · exact hj
    · exact fun hj => Or.inr ⟨hj, rfl, hname⟩
  constructor
  · exact fun hi => (hnew i).mp hi.1
  · rintro rfl
    exact ⟨(hnew _).mpr rfl, fun j hj => ((hnew j).mp hj).ge⟩

/-- What is given up has not begun. -/
theorem not_began_concat (hcall : call = .release name h ∨ call = .clear) :
    ¬ Began (calls ++ [call]) name h i := by
  rintro ⟨hu, -⟩
  rcases unreleased_concat_iff.mp hu with ⟨-, hrelease, hclear⟩ | ⟨-, rfl, -⟩
  · exact hcall.elim hrelease hclear
  · rcases hcall with hcall | hcall <;> cases hcall

namespace IsQueue

/-- Those who stay in a queue stay in order. -/
theorem sublist {calls' : List Call} (hq : IsQueue calls name line) (hsub : line'.Sublist line)
    (hmem : ∀ h, h ∈ line' ↔ ∃ i, Began calls' name h i)
    (hbegan : ∀ h ∈ line', ∀ i, Began calls' name h i → Began calls name h i) :
    IsQueue calls' name line' where
  nodup := hq.nodup.sublist hsub
  mem_iff := hmem
  inOrder := (hq.inOrder.sublist hsub).imp_of_mem fun hh hk hlt i j hi hj =>
    hlt i j (hbegan _ hh i hi) (hbegan _ hk j hj)

/-- Calls that neither begin nor give up a claim to the name leave the queue as it is. -/
theorem keep {calls' : List Call} (hq : IsQueue calls name line)
    (hbegan : ∀ h i, Began calls' name h i ↔ Began calls name h i) : IsQueue calls' name line := by
  refine hq.sublist (List.Sublist.refl _) (fun h => ?_) fun h _ i => (hbegan h i).mp
  rw [hq.mem_iff h]
  exact exists_congr fun i => (hbegan h i).symm

/-- A claim that begins goes to the end of the queue. -/
theorem join (hq : IsQueue calls name line) (hname : name ≠ "") (hnew : h ∉ line) :
    IsQueue (calls ++ [.register name h]) name (line ++ [h]) := by
  have hnone : ∀ j, ¬ Unreleased calls name h j := fun j hj =>
    hnew ((hq.mem_iff h).mpr (exists_began_iff.mpr ⟨j, hj⟩))
  have hself : ∀ i, Began (calls ++ [.register name h]) name h i ↔ i = calls.length := fun i =>
    began_concat_register_iff hname hnone
  have hother : ∀ k, k ≠ h → ∀ i,
      Began (calls ++ [.register name h]) name k i ↔ Began calls name k i := by
    intro k hk i
    refine began_concat_iff (by simp) (by simp) fun heq => ?_
    injection heq with _ hkh
    exact absurd hkh.symm hk
  refine ⟨?_, fun k => ?_, ?_⟩
  · refine List.nodup_append.mpr ⟨hq.nodup, List.nodup_singleton h, fun a ha b hb => ?_⟩
    rintro rfl
    exact hnew (List.mem_singleton.mp hb ▸ ha)
  · rw [List.mem_append, List.mem_singleton]
    by_cases hk : k = h
    · subst hk
      exact iff_of_true (Or.inr rfl) ⟨_, (hself _).mpr rfl⟩
    · simp only [hk, or_false, hother k hk]
      exact hq.mem_iff k
  · refine List.pairwise_append.mpr ⟨?_, List.pairwise_singleton _ h, ?_⟩
    · refine hq.inOrder.imp_of_mem fun {a b} ha hb hlt i j hi hj => ?_
      have hne : ∀ {k}, k ∈ line → k ≠ h := fun hk heq => hnew (heq ▸ hk)
      exact hlt i j ((hother a (hne ha) i).mp hi) ((hother b (hne hb) j).mp hj)
    · intro a ha b hb i j hi hj
      rw [List.mem_singleton.mp hb, hself] at hj
      have hi := (hother a (fun heq => hnew (heq ▸ ha)) i).mp hi
      exact hj ▸ hi.1.lt

/-- One call more. -/
theorem answer (hq : IsQueue calls name (c.candidates name)) (call : Call) :
    IsQueue (calls ++ [call]) name ((c.answer call).1.candidates name) := by
  cases call with
  | register other h =>
    show IsQueue _ name ((c.register other h).candidates name)
    rw [candidates_register]
    split_ifs with hjoin
    -- the node joins the line, or it is in it already, or the name is another one or empty
    · obtain ⟨rfl, hname, hnew⟩ := hjoin
      exact hq.join hname hnew
    · refine hq.keep fun k i => began_concat_iff (by simp) (by simp) fun heq => ?_
      obtain ⟨rfl, rfl⟩ := Call.register.inj heq
      by_contra hnot
      rw [not_or, ← hq.mem_iff] at hnot
      exact hjoin ⟨rfl, hnot⟩
  | release other h =>
    show IsQueue _ name ((c.release other h).1.candidates name)
    rw [candidates_release]
    have hkeeps : ∀ k i, ¬ (other = name ∧ h = k) →
        (Began (calls ++ [.release other h]) name k i ↔ Began calls name k i) := fun k i hne =>
      began_concat_iff (fun heq => hne (Call.release.inj heq)) (by simp) (by simp)
    split_ifs with hname
    -- who leaves was in the line once at most, so no other claim of the node is left behind
    · subst hname
      refine hq.sublist List.erase_sublist (fun k => ?_) fun k hk i => ?_
      · rw [hq.nodup.mem_erase_iff]
        by_cases hk : k = h
        · subst hk
          exact iff_of_false (fun hm => hm.1 rfl) fun ⟨i, hi⟩ => not_began_concat (Or.inl rfl) hi
        · rw [hq.mem_iff k]
          simp only [ne_eq, hk, not_false_eq_true, true_and]
          exact exists_congr fun i => (hkeeps k i fun heq => hk heq.2.symm).symm
      · exact (hkeeps k i fun heq => (hq.nodup.mem_erase_iff.mp hk).1 heq.2.symm).mp
    · exact hq.keep fun k i => hkeeps k i fun heq => hname heq.1.symm
  | clear =>
    show IsQueue _ name []
    exact hq.sublist (List.nil_sublist _)
      (fun k => iff_of_false List.not_mem_nil fun ⟨i, hi⟩ => not_began_concat (Or.inr rfl) hi)
      (by simp)

end IsQueue

/-! ## All calls -/

@[simp] theorem afterCalls_concat (calls : List Call) (call : Call) :
    afterCalls (calls ++ [call]) = ((afterCalls calls).answer call).1 := by
  simp [afterCalls]

/-- After any calls each line is a queue. -/
theorem isQueue_afterCalls (calls : List Call) (name : String) :
    IsQueue calls name ((afterCalls calls).candidates name) := by
  induction calls using List.reverseRecOn with
  | nil =>
    refine ⟨List.nodup_nil, fun h => iff_of_false List.not_mem_nil ?_, List.Pairwise.nil⟩
    rintro ⟨i, hi⟩
    exact absurd hi.1.lt (Nat.not_lt_zero i)
  | append_singleton calls call ih =>
    rw [afterCalls_concat]
    exact ih.answer call

theorem proper_afterCalls (calls : List Call) : (afterCalls calls).Proper := by
  induction calls using List.reverseRecOn with
  | nil => exact proper_empty
  | append_singleton calls call ih =>
    rw [afterCalls_concat]
    cases call with
    | register name h => exact ih.register name h
    | release name h => exact ih.release name h
    | clear => exact proper_empty

/-- There is no line where nobody claims anything. -/
theorem Proper.isEmpty_iff (hc : c.Proper) :
    c.isEmpty = true ↔ ∀ name, c.candidates name = [] := by
  rw [isEmpty, Table.isEmpty_iff]
  refine forall_congr' fun name => ?_
  have hne := hc.nonempty name
  rw [candidates, Table.getD]
  cases hline : c.lines.get? name with
  | none => simp
  | some line =>
    rw [hline] at hne
    simpa using hne

/-- A release names a new owner if the node was the first in line, and then it is the second one. -/
theorem release_snd_eq_some_iff : (c.release name h).2 = some k ↔
    ∃ rest, c.candidates name = h :: k :: rest ∧
      (c.release name h).1.candidates name = k :: rest := by
  have hleft : (c.release name h).1.candidates name = (c.candidates name).erase h := by
    rw [candidates_release, if_pos rfl]
  rw [hleft]
  show (if (c.candidates name).head? = some h then ((c.candidates name).erase h).head? else none) =
    some k ↔ _
  cases c.candidates name with
  | nil => simp
  | cons a line =>
    by_cases ha : a = h
    · subst ha
      simp [List.head?_eq_some_iff]
    · simp [ha]

/-- The registry is a family of queues, one for each name. -/
structure AreQueues (calls : List Call) (c : Claims) : Prop where
  /-- Each line holds the claims that were not given up, in the order in which they began. -/
  isQueue : ∀ name, IsQueue calls name (c.candidates name)
  /-- Nobody can claim the empty name. -/
  unnamed : c.candidates "" = []
  owner : ∀ name, c.owner? name = (c.candidates name).head?
  /-- A release names the next owner exactly if the owner leaves and somebody else is in line. -/
  promoted : ∀ name h k, (c.release name h).2 = some k ↔
    ∃ rest, c.candidates name = h :: k :: rest ∧
      (c.release name h).1.candidates name = k :: rest
  /-- What is called for one name has no part in the others. -/
  apart : ∀ name h other, other ≠ name →
    (c.register name h).candidates other = c.candidates other ∧
      (c.release name h).1.candidates other = c.candidates other
  isEmpty : c.isEmpty = true ↔ ∀ name h i, ¬ Unreleased calls name h i

/-- Whatever names were registered, released and cleared, the registry is a family of queues. -/
theorem areQueues_afterCalls (calls : List Call) : AreQueues calls (afterCalls calls) where
  isQueue := isQueue_afterCalls calls
  unnamed := (proper_afterCalls calls).candidates_unnamed
  owner _ := rfl
  promoted _ _ _ := release_snd_eq_some_iff
  apart name h other hne := by
    rw [candidates_register, candidates_release, if_neg fun hjoin => hne hjoin.1, if_neg hne]
    exact ⟨rfl, rfl⟩
  isEmpty := by
    rw [(proper_afterCalls calls).isEmpty_iff]
    refine forall_congr' fun name => ?_
    rw [List.eq_nil_iff_forall_not_mem]
    refine forall_congr' fun h => ?_
    rw [(isQueue_afterCalls calls name).mem_iff h, exists_began_iff, not_exists]

end GuidedXml.Claims
