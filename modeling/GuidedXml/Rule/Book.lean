/-
# Rule books

The rules in force, each with whether it held when it was last evaluated, and with the tickets of
those who wait for it to be resolved.

A ticket is good for one notice: when a rule comes to hold, all tickets for it are handed back and
forgotten. The main statements say what an evaluation does to the state of a rule.
-/
import GuidedXml.Rule.Basic

namespace GuidedXml

/-- What one waits for a resolution with. -/
structure Ticket where
  /-- The number of tickets handed out before. It has no bound: no session lasts long enough to use up
  words of 64 bits. -/
  number : Nat
  deriving DecidableEq, Repr

/-- A rule in force. -/
structure RuleBook.Entry where
  rule : Rule
  /-- Whether the rule held when it was last evaluated; it did not before that. -/
  satisfied : Bool := false
  /-- The tickets of those who wait for the rule to hold, oldest first. -/
  waiting : List Ticket := []
  deriving Repr

/-- The rules in force, in the order in which their names came. -/
structure RuleBook where
  entries : Table RuleId RuleBook.Entry := {}
  /-- The number of the next ticket. -/
  nextTicket : Nat := 0
  deriving Repr

namespace RuleBook

/-! ## Rules -/

/-- The book with one more rule; a rule of the same name is replaced, with all that was known of
it. -/
def insert (b : RuleBook) (r : Rule) : RuleBook :=
  { b with entries := b.entries.insert r.id { rule := r } }

/-- The book that holds rules, added one after the other. -/
def ofRules (rs : List Rule) : RuleBook :=
  rs.foldl insert {}

/-- What is known of the rule of that name. -/
def get? (b : RuleBook) (id : RuleId) : Option Entry :=
  b.entries.get? id

/-- The rules in order, with what is known of them. -/
def list (b : RuleBook) : List Entry :=
  b.entries.entries.map Prod.snd

/-- The names of the rules in order. -/
def ids (b : RuleBook) : List RuleId :=
  b.entries.keys

/-- The number of rules. -/
def size (b : RuleBook) : Nat :=
  b.entries.size

/-- Whether the rule is there and held when it was last evaluated. -/
def isSatisfied (b : RuleBook) (id : RuleId) : Bool :=
  (b.get? id).any Entry.satisfied

/-! ## Tickets -/

/-- Wait for a rule to be resolved. -/
def subscribe (b : RuleBook) (id : RuleId) : RuleBook × Ticket :=
  let t : Ticket := ⟨b.nextTicket⟩
  ({ entries := b.entries.modify id fun e => { e with waiting := e.waiting ++ [t] }
     nextTicket := b.nextTicket + 1 }, t)

/-- Whether the ticket still waits for the rule. -/
def isWaiting (b : RuleBook) (id : RuleId) (t : Ticket) : Bool :=
  (b.get? id).any fun e => e.waiting.contains t

/-- Wait no longer. -/
def unsubscribe (b : RuleBook) (id : RuleId) (t : Ticket) : RuleBook :=
  { b with entries := b.entries.modify id fun e => { e with waiting := e.waiting.filter (· ≠ t) } }

/-- The tickets that wait for a rule, oldest first. -/
def waiting (b : RuleBook) (id : RuleId) : List Ticket :=
  ((b.get? id).map Entry.waiting).getD []

/-- Hand back all tickets for a rule. -/
def release (b : RuleBook) (id : RuleId) : RuleBook :=
  { b with entries := b.entries.modify id fun e => { e with waiting := [] } }

/-! ## Evaluation -/

/-- What one evaluation of a rule found out. -/
structure Evaluation where
  /-- The nodes that its parameters lead to. -/
  nodes : List Handle
  /-- Whether the rule came to hold. -/
  fired : Bool
  diagnostics : List Diagnostic
  /-- The tickets handed back. -/
  notified : List Ticket
  deriving Repr

/-- What is known of a rule after evaluating it in a document. -/
def Entry.after (e : Entry) (d : Document) : Entry :=
  let holds := e.rule.holds d
  { e with satisfied := holds, waiting := if holds && !e.satisfied then [] else e.waiting }

/-- What evaluating a rule in a document finds out. -/
def Entry.evaluation (e : Entry) (d : Document) : Evaluation :=
  let fired := e.rule.holds d && !e.satisfied
  { nodes := e.rule.nodes d
    fired := fired
    diagnostics := e.rule.diagnostics d
    notified := if fired then e.waiting else [] }

/-- Evaluate rules in a document one after the other; names of no rule are passed over. -/
def evaluate (b : RuleBook) (d : Document) : List RuleId → RuleBook × List (RuleId × Evaluation)
  | [] => (b, [])
  | id :: ids =>
    match b.get? id with
    | none => evaluate b d ids
    | some e =>
      let r := evaluate { b with entries := b.entries.insert id (e.after d) } d ids
      (r.1, (id, e.evaluation d) :: r.2)

/-- Evaluate all rules in a document. -/
def evaluateAll (b : RuleBook) (d : Document) : RuleBook × List (RuleId × Evaluation) :=
  b.evaluate d b.ids

/-- After an evaluation a rule is satisfied exactly if it holds. -/
@[simp] theorem satisfied_after (e : Entry) (d : Document) :
    (e.after d).satisfied = e.rule.holds d := rfl

/-- An evaluation fires exactly if the rule came to hold. -/
theorem fired_evaluation (e : Entry) (d : Document) :
    (e.evaluation d).fired = (e.rule.holds d && !e.satisfied) := rfl

/-! ## Missing parameters -/

/-- The rules that lead to fewer nodes than they have parameters, of those whose nodes are
recorded. -/
def missingParameters (b : RuleBook) (recorded : RuleId → Option Nat) : List RuleId :=
  (b.list.filter fun e => (recorded e.rule.id).any (· < e.rule.parameters.length)).map
    fun e => e.rule.id

end RuleBook

end GuidedXml
