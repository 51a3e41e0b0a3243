/-
# Claims to names

Several nodes may claim the same name. The first one owns it; the others wait in line, and the next
one becomes the owner when the owner gives the name up.

The main statements say what a claim and a withdrawal do to the line of each name.
-/
import GuidedXml.Document.Node
import GuidedXml.Table

namespace GuidedXml

/-- The lines of nodes that claim names, the owner first. A name that nobody claims has no line. -/
structure Claims where
  lines : Table String (List Handle) := {}
  deriving Repr

namespace Claims

/-! ## Lines -/

/-- The nodes that claim the name, in the order of their claims. -/
def candidates (c : Claims) (name : String) : List Handle :=
  c.lines.getD name []

/-- The node that owns the name. -/
def owner? (c : Claims) (name : String) : Option Handle :=
  (c.candidates name).head?

/-- The number of names that are claimed. -/
def size (c : Claims) : Nat :=
  c.lines.size

/-- Whether nobody claims any name. -/
def isEmpty (c : Claims) : Bool :=
  c.lines.isEmpty

@[simp] theorem candidates_empty (name : String) : ({} : Claims).candidates name = [] := rfl

/-! ## Claiming and withdrawing -/

/-- The claims with that line for the name. -/
def setLine (c : Claims) (name : String) (line : List Handle) : Claims :=
  ⟨c.lines.putList name line⟩

/-- A line that was set is found, and no other line changes. -/
theorem candidates_setLine (c : Claims) (name other : String) (line : List Handle) :
    (c.setLine name line).candidates other = if other = name then line else c.candidates other :=
  c.lines.getD_putList name other line

/-- Claim a name, at the end of its line. The empty name cannot be claimed, and a node stands in a
line once. -/
def register (c : Claims) (name : String) (h : Handle) : Claims :=
  if name = "" || (c.candidates name).contains h then c
  else c.setLine name (c.candidates name ++ [h])

/-- Withdraw a claim. The result names the new owner if the owner has changed. -/
def release (c : Claims) (name : String) (h : Handle) : Claims × Option Handle :=
  let left := (c.candidates name).erase h
  (if (c.candidates name).contains h then c.setLine name left else c,
    if c.owner? name = some h then left.head? else none)

/-- A claim puts the node at the end of the line of the name, unless it stands there already. -/
theorem candidates_register (c : Claims) (name other : String) (h : Handle) :
    (c.register name h).candidates other =
      if other = name ∧ name ≠ "" ∧ h ∉ c.candidates name then c.candidates name ++ [h]
      else c.candidates other := by
  unfold register
  by_cases hn : name = ""
  · simp [hn]
  · by_cases hm : h ∈ c.candidates name
    · simp [hm]
    · simp [hn, hm, candidates_setLine]

/-- A withdrawal takes the node out of the line of the name. -/
theorem candidates_release (c : Claims) (name other : String) (h : Handle) :
    (c.release name h).1.candidates other =
      if other = name then (c.candidates name).erase h else c.candidates other := by
  unfold release
  by_cases hm : h ∈ c.candidates name
  · simp [hm, candidates_setLine]
  · by_cases ho : other = name
    · subst ho
      simp [hm, List.erase_of_not_mem hm]
    · simp [hm, ho]

end Claims

end GuidedXml
