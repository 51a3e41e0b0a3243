/-
# Paths

A path leads from the document through elements, by name and perhaps by position, and may end at an
attribute. It is written with slashes between the steps: `/a/b[2]/@c`.

The main statement says what the nodes of one step are; `Path.select` goes through all steps.
-/
import GuidedXml.Document.Subtree
import GuidedXml.Number.Reading
import GuidedXml.Text.Blank
import GuidedXml.Text.Category
import GuidedXml.Text.Cut

namespace GuidedXml

/-- One step of a path: elements of a name, or of these the one at a position, counted from one. -/
structure Path.Step where
  /-- The name of the elements. -/
  name : String
  /-- The position among the elements of that name, if only one of them is meant. -/
  position : Option Nat := none
  deriving DecidableEq, Repr

/-- A path through elements, perhaps to an attribute. -/
structure Path where
  /-- The steps from the document on. -/
  steps : List Path.Step
  /-- The name of the attribute at the end, if there is one. -/
  ending : Option String := none
  deriving DecidableEq, Repr

namespace Path

/-! ## Writing -/

/-- The written form of a step. -/
def Step.render (s : Step) : List Char :=
  '/' :: s.name.toList ++ match s.position with
    | none => []
    | some n => '[' :: (toString n).toList ++ [']']

/-- The written form of a path. -/
def renderChars (p : Path) : List Char :=
  p.steps.flatMap Step.render ++ match p.ending with
    | none => []
    | some a => '/' :: '@' :: a.toList

/-- The written form of a path. -/
def render (p : Path) : String :=
  String.ofList p.renderChars

/-! ## Reading -/

/-- Whether the character may stand in the name of a step. -/
def isNameChar (c : Char) : Bool :=
  Text.isAlphanumeric c || c = '_' || c = '-' || c = '.' || c = ':'

/-- A name, if the text is one. -/
def readName (cs : List Char) : Except PathCause String :=
  if !cs.isEmpty && cs.all isNameChar then .ok (String.ofList cs)
  else .error (.invalidName (String.ofList cs))

/-- A position, if the text between the brackets is one. -/
def readPosition (cs : List Char) : Except PathCause Nat :=
  match Number.readNat? Number.maxWord64 (Text.trim cs) with
  | none => .error (.notAPosition (String.ofList cs))
  | some 0 => .error .positionZero
  | some n => .ok n

/-- The text before a closing bracket at the end, if there is one. -/
def dropClosing? (cs : List Char) : Option (List Char) :=
  if cs.getLast? = some ']' then some cs.dropLast else none

/-- A step, if the text between two slashes is one. -/
def readStep (cs : List Char) : Except PathCause Step :=
  match Text.cutAt '[' cs with
  | none => (readName cs).map fun name => ⟨name, none⟩
  | some (before, after) =>
    match dropClosing? after with
    | none => .error (.unclosedPredicate (String.ofList cs))
    | some predicate =>
      match readPosition predicate with
      | .error cause => .error cause
      | .ok n => (readName before).map fun name => ⟨name, some n⟩

/-- The steps and the attribute that the texts between the slashes stand for. -/
def readSegments : List (List Char) → Except PathCause Path
  | [] => .ok ⟨[], none⟩
  | ('@' :: name) :: rest =>
    if rest.isEmpty then (readName name).map fun a => ⟨[], some a⟩
    else .error .attributeNotLast
  | segment :: rest =>
    match readStep segment with
    | .error cause => .error cause
    | .ok step => (readSegments rest).map fun p => { p with steps := step :: p.steps }

/-- The text without blanks around it and without one slash at its start. -/
def body (cs : List Char) : List Char :=
  match Text.trim cs with
  | '/' :: r => r
  | r => r

/-- The path that a list of characters writes. -/
def readChars (cs : List Char) : Except PathCause Path :=
  let b := body cs
  if b.isEmpty then .error .emptyPath
  else match readSegments (Text.splitAt '/' b) with
    | .error cause => .error cause
    | .ok p => if p.steps.isEmpty then .error .noElementStep else .ok p

/-- The path that a text writes. -/
def read (text : String) : Except Fault Path :=
  (readChars text.toList).mapError (Fault.invalidPath text)

/-! ## Selection -/

/-- Whether the path ends at an attribute. -/
def selectsAttribute (p : Path) : Bool :=
  p.ending.isSome

/-- The elements inside a node that one step leads to. -/
def Step.select (s : Step) (d : Document) (h : Handle) : List Handle :=
  let matching := (d.elements h).filter fun c => d.name c = s.name
  match s.position with
  | none => matching
  | some n => (matching.drop (n - 1)).take 1

/-- The nodes that a path leads to, in document order. -/
def select (p : Path) (d : Document) : List Handle :=
  let elements := p.steps.foldl (fun hs s => hs.flatMap (s.select d)) [Document.top]
  match p.ending with
  | none => elements
  | some name => elements.filterMap fun h => d.attribute? h name

/-- The first node that a path leads to. -/
def selectFirst? (p : Path) (d : Document) : Option Handle :=
  (p.select d).head?

/-- Every element that a step leads to is inside the node and has the name of the step. -/
theorem Step.mem_select {s : Step} {d : Document} {h c : Handle} (hc : c ∈ s.select d h) :
    c ∈ d.elements h ∧ d.name c = s.name := by
  have key : c ∈ (d.elements h).filter fun c => d.name c = s.name := by
    unfold select at hc
    cases hp : s.position with
    | none => simpa [hp] using hc
    | some n =>
      simp only [hp] at hc
      exact List.mem_of_mem_drop (List.mem_of_mem_take hc)
  simpa using key

end Path

end GuidedXml
