/-
# Notices

Messages to the user. A notice about a violated rule carries a ticket, by which one can tell later
whether the rule came to hold again.

The main statement says that a notice without a rule is never resolved.
-/
import GuidedXml.Rule.Book

namespace GuidedXml

/-- What a notice is. -/
inductive NoticeKind where
  | info | warning | error
  deriving DecidableEq, Repr

/-- The violated rule behind a notice, and the ticket that waits for it. -/
structure Violation where
  rule : RuleId
  ticket : Ticket
  deriving DecidableEq, Repr

/-- A message to the user. -/
structure Notice where
  kind : NoticeKind
  /-- The first line of the message. -/
  brief : String
  /-- The whole message, if it has more than one line. -/
  verbose : String := ""
  violation : Option Violation := none
  deriving DecidableEq, Repr

namespace Notice

/-- The notice of a message, whose blank ends are left out. -/
def ofMessage (kind : NoticeKind) (message : String) : Notice :=
  let body := Text.trim message.toList
  match Text.cutAt '\n' body with
  | some (first, _) =>
    { kind, brief := .ofList (Text.trimEnd first), verbose := .ofList body }
  | none => { kind, brief := .ofList body }

/-- The notice of a rule that came to be violated. -/
def ofViolation (message : String) (v : Violation) : Notice :=
  { ofMessage .warning message with violation := some v }

/-- Whether the notice is about a rule that holds again since. -/
def isResolved (n : Notice) (rules : RuleBook) : Bool :=
  n.violation.any fun v => !rules.isWaiting v.rule v.ticket

end Notice

end GuidedXml
