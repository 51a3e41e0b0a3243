/-
# Settings

What a user can set: the attributes that every element may have without being declared, and the
indentation of saved documents.

Settings are written as a record whose fields may be missing, or as a list of up to two values.
-/
import GuidedXml.Editing.Settings.Json
import GuidedXml.Table

namespace GuidedXml

/-- What a user can set. -/
structure Settings where
  /-- The attributes that every element may have. They are neither validated nor offered. -/
  whitelist : List String := ["xmlns:xsi", "xsi:noNamespaceSchemaLocation"]
  /-- The number of spaces of each level of a saved document; with none it is a single line. -/
  saveIndent : Nat := 4
  deriving DecidableEq, Repr

namespace Settings

/-- Whether every element may have an attribute of that name. -/
def isWhitelisted (s : Settings) (name : String) : Bool :=
  s.whitelist.contains name

/-- A field of settings. -/
inductive Field where
  | whitelist | saveIndent
  deriving DecidableEq, Repr

/-- The field of that name. -/
def Field.named? : String → Option Field
  | "attributeWhitelist" => some .whitelist
  | "saveIndent" => some .saveIndent
  | _ => none

/-- The settings with a field that has a value of its kind. -/
def set? (s : Settings) (f : Field) (value : Json) : Option Settings :=
  match f with
  | .whitelist => value.strings?.map fun names => { s with whitelist := names }
  | .saveIndent => (value.natural? Number.maxWord64).map fun n => { s with saveIndent := n }

/-- Set fields one after the other. Fields of other names are passed over, but no field may come
twice. -/
def setAll? (s : Settings) (seen : List Field) : List (Option String × Json) → Option Settings
  | [] => some s
  | (none, _) :: _ => none
  | (some name, value) :: rest =>
    match Field.named? name with
    | none => setAll? s seen rest
    | some f =>
      if seen.contains f then none
      else (s.set? f value).bind fun s => setAll? s (f :: seen) rest

/-- The settings that data describes. -/
def ofJson? : Json → Option Settings
  | .record fields => setAll? {} [] fields
  | .list [] => some {}
  | .list [names] => set? {} .whitelist names
  | .list [names, indent] => (set? {} .whitelist names).bind fun s => s.set? .saveIndent indent
  | _ => none

/-- The settings that a text describes. -/
def read? (source : String) : Option Settings :=
  (Json.read? source).bind ofJson?

end Settings

end GuidedXml
