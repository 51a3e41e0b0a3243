/-
# Items of markup

A text with markup is cut into items: tags, pieces of text, and pieces that hold no content. Each
item comes with the number of bytes before it; the first piece that is none of these ends the list
with a fault.
-/
import GuidedXml.Document.Fault
import GuidedXml.Markup.Reference
import GuidedXml.Text.Bytes
import GuidedXml.Text.Cut

namespace GuidedXml.Markup

/-- A piece of a text with markup. -/
inductive Item where
  /-- A start tag. -/
  | opening (name : String) (attributes : List (String × String))
  /-- The tag of an element without content. -/
  | empty (name : String) (attributes : List (String × String))
  /-- An end tag. -/
  | closing (name : String)
  /-- A piece of text with its references resolved. -/
  | text (content : List Char)
  /-- A comment, an instruction or a declaration. -/
  | skipped
  /-- A piece that is not well formed. -/
  | fault (cause : MarkupCause)
  deriving Repr

/-! ## Tags -/

/-- Whether the character is white space inside a tag. -/
def isTagBlank (c : Char) : Bool :=
  c = ' ' || c = '\t' || c = '\n' || c = '\r'

/-- The content of a tag up to the first `>` outside quotes, and what follows it. -/
def tagBody (quote : Option Char) : List Char → Option (List Char × List Char)
  | [] => none
  | c :: cs =>
    match quote with
    | some q => (tagBody (if c = q then none else some q) cs).map fun p => (c :: p.1, p.2)
    | none =>
      if c = '>' then some ([], cs)
      else
        let quote := if c = '"' ∨ c = '\'' then some c else none
        (tagBody quote cs).map fun p => (c :: p.1, p.2)

/-- The next attribute of a tag as key and raw value, and what follows it; `none` at the end of the
tag. The first character of a key is not looked at, so that a key may start with `=`. -/
def nextAttribute (cs : List Char) :
    Except MarkupCause (Option ((List Char × List Char) × List Char)) :=
  match cs.dropWhile isTagBlank with
  | [] => .ok none
  | c :: r =>
    let inKey := fun x => x ≠ '=' && !isTagBlank x
    let key := c :: r.takeWhile inKey
    match (r.dropWhile inKey).dropWhile isTagBlank with
    | '=' :: r =>
      match r.dropWhile isTagBlank with
      | q :: r =>
        if q = '"' ∨ q = '\'' then
          match Text.cutAt q r with
          | some (value, rest) => .ok (some ((key, value), rest))
          | none => .error .badAttribute
        else .error .badAttribute
      | [] => .error .badAttribute
    | _ => .error .badAttribute

/-- The attributes of a tag, at most `fuel` of them, given the keys that came before. -/
def attributesAux (seen : List String) :
    Nat → List Char → Except MarkupCause (List (String × String))
  | 0, _ => .ok []
  | fuel + 1, cs =>
    match nextAttribute cs with
    | .error cause => .error cause
    | .ok none => .ok []
    | .ok (some ((key, raw), rest)) =>
      let key := String.ofList key
      if seen.contains key then .error .badAttribute
      else match unescape? raw with
        | none => .error .badReference
        | some value =>
          (attributesAux (key :: seen) fuel rest).map fun as => (key, String.ofList value) :: as

/-- The name and the attributes of a tag. -/
def readTag (body : List Char) : Except MarkupCause (String × List (String × String)) :=
  let inName := fun c => !isTagBlank c
  let rest := body.dropWhile inName
  (attributesAux [] (rest.length + 1) rest).map fun as =>
    (String.ofList (body.takeWhile inName), as)

/-- The item of a tag that is no end tag. -/
def tagItem (body : List Char) : Item :=
  let isEmpty := body.getLast? = some '/'
  match readTag (if isEmpty then body.dropLast else body) with
  | .error cause => .fault cause
  | .ok (name, as) => if isEmpty then .empty name as else .opening name as

/-- The item of an end tag, given what follows the slash. Blanks after the name do not belong to it,
but an end tag of blanks alone names them. -/
def endTagItem (body : List Char) : Item :=
  let name := (body.reverse.dropWhile isTagBlank).reverse
  .closing (String.ofList (if name.isEmpty then body else name))

/-! ## Declarations -/

/-- What follows a document type declaration, where each `<` must be matched by a `>` before the
one that ends it. -/
def declarationBody (open? : Nat) : List Char → Option (List Char × List Char)
  | [] => none
  | c :: cs =>
    if c = '>' ∧ open? = 0 then some ([], cs)
    else
      let open? := if c = '<' then open? + 1 else if c = '>' then open? - 1 else open?
      (declarationBody open? cs).map fun p => (c :: p.1, p.2)

/-- The item after `<!`, and what follows it. -/
def bangItem (cs : List Char) : Item × List Char :=
  match Text.dropPiece? ['-', '-'] cs with
  | some r =>
    match Text.cutAtPiece ['-', '-', '>'] r with
    | some (_, rest) => (.skipped, rest)
    | none => (.fault .unclosedMarkup, [])
  | none =>
    match Text.dropPiece? "[CDATA[".toList cs with
    | some r =>
      match Text.cutAtPiece [']', ']', '>'] r with
      | some (content, rest) => (.text content, rest)
      | none => (.fault .unclosedMarkup, [])
    | none =>
      if (cs.take 7).map Char.toUpper = "DOCTYPE".toList then
        match declarationBody 0 (cs.drop 7) with
        | some (content, rest) =>
          if content.all isTagBlank then (.fault .unclosedMarkup, []) else (.skipped, rest)
        | none => (.fault .unclosedMarkup, [])
      else (.fault .unknownMarkup, [])

/-! ## Cutting a text into items -/

/-- The item after `<`, and what follows it. -/
def markupItem : List Char → Item × List Char
  | '!' :: cs => bangItem cs
  | '?' :: '>' :: _ => (.fault .unclosedMarkup, [])
  | '?' :: cs =>
    match Text.cutAtPiece ['?', '>'] cs with
    | some (_, rest) => (.skipped, rest)
    | none => (.fault .unclosedMarkup, [])
  | '/' :: cs =>
    match tagBody none cs with
    | some (body, rest) => (endTagItem body, rest)
    | none => (.fault .unclosedMarkup, [])
  | cs =>
    match tagBody none cs with
    | some (body, rest) => (tagItem body, rest)
    | none => (.fault .unclosedMarkup, [])

/-- The item after `&`, and what follows it. -/
def referenceItem (cs : List Char) : Item × List Char :=
  let inName := fun c => c ≠ ';' && c ≠ '&' && c ≠ '<'
  match cs.dropWhile inName with
  | ';' :: rest =>
    match resolve? (cs.takeWhile inName) with
    | some c => (.text [c], rest)
    | none => (.fault .badReference, [])
  | _ => (.fault .badReference, [])

/-- The first item of a nonempty text, and what follows it. -/
def nextItem (cs : List Char) : Item × List Char :=
  match cs with
  | '<' :: r => markupItem r
  | '&' :: r => referenceItem r
  | cs =>
    let inText := fun c => c ≠ '<' && c ≠ '&'
    (.text (cs.takeWhile inText), cs.dropWhile inText)

/-- The items of the rest of a text of `total` bytes, at most `fuel` of them, with their places. -/
def itemsAux (total : Nat) : Nat → List Char → List (Nat × Item)
  | 0, _ => []
  | _ + 1, [] => []
  | fuel + 1, c :: cs =>
    let (item, rest) := nextItem (c :: cs)
    let here := (total - Text.byteCount (c :: cs), item)
    match item with
    | .fault _ => [here]
    | _ => here :: itemsAux total fuel rest

/-- The items of a text, each with the number of bytes before it. -/
def items (cs : List Char) : List (Nat × Item) :=
  itemsAux (Text.byteCount cs) cs.length cs

end GuidedXml.Markup
