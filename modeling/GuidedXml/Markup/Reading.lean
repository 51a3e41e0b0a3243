/-
# Reading documents

The items of a text with markup are put together into one outermost element. Pieces of text that
follow each other, or have only comments and instructions between them, are one text; a text of
blanks is dropped, and so is text outside the outermost element.
-/
import GuidedXml.Document.Subtree
import GuidedXml.Markup.Item
import GuidedXml.Text.Blank

namespace GuidedXml.Markup

/-- An element whose end tag is still to come. -/
structure Open where
  /-- The name of the element. -/
  name : String
  /-- Its attributes. -/
  attributes : List (String × String)
  /-- What came inside it so far, last first. -/
  inside : List Tree := []
  deriving Repr

/-- The element that an end tag completes. -/
def Open.close (o : Open) : Tree :=
  .element o.name o.attributes o.inside.reverse

/-- The open element with one more thing inside. -/
def Open.add (o : Open) (t : Tree) : Open :=
  { o with inside := t :: o.inside }

/-- What has been read so far. -/
structure Reading where
  /-- The open elements, innermost first. -/
  stack : List Open := []
  /-- The text since the last tag. -/
  pending : List Char := []
  /-- The outermost element, once it is complete. -/
  root : Option Tree := none
  deriving Repr

namespace Reading

/-- Put a complete element where it belongs. -/
def place (r : Reading) (t : Tree) : Reading :=
  match r.stack with
  | [] => { r with root := some t }
  | o :: os => { r with stack := o.add t :: os }

/-- Turn the pending text into a text node, unless it is blank or outside all elements. -/
def flush (r : Reading) : Reading :=
  let kept := match r.stack with
    | [] => []
    | o :: os => if r.pending.all Text.isBlank then o :: os
        else o.add (.text (String.ofList r.pending)) :: os
  { r with stack := kept, pending := [] }

/-- Whether an element would now be a second outermost one. -/
def isFull (r : Reading) : Bool :=
  r.stack.isEmpty && r.root.isSome

/-- Read one more item at a byte position. -/
def step (r : Reading) (position : Nat) : Item → Except Fault Reading
  | .fault cause => .error (.malformed position cause)
  | .skipped => .ok r
  | .text content => .ok { r with pending := r.pending ++ content }
  | .opening name as =>
    let r := r.flush
    if r.isFull then .error .multipleRoots
    else .ok { r with stack := ⟨name, as, []⟩ :: r.stack }
  | .empty name as =>
    let r := r.flush
    if r.isFull then .error .multipleRoots else .ok (r.place (.element name as []))
  | .closing name =>
    let r := r.flush
    match r.stack with
    | [] => .error (.malformed position .strayEndTag)
    | o :: os =>
      if o.name = name then .ok ({ r with stack := os }.place o.close)
      else .error (.malformed position .mismatchedEndTag)

/-- Read all items, up to the first fault. -/
def run (r : Reading) : List (Nat × Item) → Except Fault Reading
  | [] => .ok r
  | (position, item) :: rest =>
    match r.step position item with
    | .error fault => .error fault
    | .ok r' => r'.run rest

/-- The outermost element after all of a text of `total` bytes was read. -/
def finish (r : Reading) (total : Nat) : Except Fault Tree :=
  match r.stack with
  | o :: _ => .error (.malformed total (.unclosedElement o.name))
  | [] => match r.root with
    | none => .error .missingRoot
    | some t => .ok t

end Reading

/-- The outermost element of a list of characters. -/
def readChars (cs : List Char) : Except Fault Tree :=
  match Reading.run {} (items cs) with
  | .error fault => .error fault
  | .ok r => r.finish (Text.byteCount cs)

/-- The text without a byte order mark at its start, which counts in no position. -/
def dropMark : List Char → List Char
  | c :: cs => if c.toNat = 0xFEFF then cs else c :: cs
  | [] => []

/-- The outermost element of a text. -/
def readTree (text : String) : Except Fault Tree :=
  readChars (dropMark text.toList)

end GuidedXml.Markup

namespace GuidedXml

/-- The document that a text writes. -/
def Document.read (text : String) : Except Fault Document :=
  (Markup.readTree text).map Document.ofTree

end GuidedXml
