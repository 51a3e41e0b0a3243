/-
# Rule files

The document form of rule books: an `edlRules` element with a `rule` element for every rule.
-/
import GuidedXml.Markup.Reading
import GuidedXml.Rule.Book

namespace GuidedXml

/-- What a rule in a rule file lacks. -/
inductive RuleFileFault.Cause where
  | noLiteral
  | noReference
  deriving DecidableEq, Repr

/-- The text of a cause. -/
def RuleFileFault.Cause.message : RuleFileFault.Cause → String
  | noLiteral => "conclusion has no literal"
  | noReference => "param has no paramRef"

/-- Why a text is no rule file. -/
inductive RuleFileFault where
  | malformed (fault : Fault)
  | unexpectedRoot (name : String)
  | missingRuleId
  | incomplete (rule : RuleId) (cause : RuleFileFault.Cause)
  deriving DecidableEq, Repr

/-- The text of the fault. -/
def RuleFileFault.message : RuleFileFault → String
  | malformed fault => fault.message
  | unexpectedRoot name => "Root element must be <edlRules>, found <" ++ name ++ ">"
  | missingRuleId => "Rule is missing the ruleID attribute"
  | incomplete rule cause => "Rule '" ++ rule ++ "': " ++ cause.message

namespace RuleFile

/-- All text of an element, without blanks around it. -/
def trimmedText (t : Tree) : String :=
  String.ofList (Text.trim t.allText.toList)

/-- The value of an attribute without blanks around it, empty if it is not there. -/
def trimmedAttribute (t : Tree) (name : String) : String :=
  String.ofList (Text.trim ((t.attribute? name).getD "").toList)

/-- The parameter of a `param` element. -/
def readParameter (rule : RuleId) (t : Tree) : Except RuleFileFault Parameter :=
  match t.findElement? "paramRef" with
  | none => .error (.incomplete rule .noReference)
  | some reference =>
    .ok ⟨trimmedAttribute t "pID", trimmedAttribute t "pName", trimmedText reference⟩

/-- The literal of a `conclusion` element. -/
def readConclusion (rule : RuleId) (t : Tree) : Except RuleFileFault Literal :=
  match t.elements.find? fun c => c.name = "literal" with
  | none => .error (.incomplete rule .noLiteral)
  | some literal => .ok ⟨trimmedText literal⟩

/-- The rule with what an element inside a `rule` element says. -/
def addTo (r : Rule) (t : Tree) : Except RuleFileFault Rule :=
  match t.name with
  | "param" => (readParameter r.id t).map fun p => { r with parameters := r.parameters ++ [p] }
  | "premise" =>
    .ok { r with premise := r.premise ++ t.elements.map fun l => ⟨trimmedText l⟩ }
  | "conclusion" => (readConclusion r.id t).map fun l => { r with conclusion := r.conclusion ++ [l] }
  | "message" => .ok { r with message := trimmedText t }
  | _ => .ok r

/-- The rule with what a list of elements says. -/
def addAllTo (r : Rule) : List Tree → Except RuleFileFault Rule
  | [] => .ok r
  | t :: ts =>
    match addTo r t with
    | .error fault => .error fault
    | .ok r => addAllTo r ts

/-- The rule of a `rule` element. -/
def readRule (t : Tree) : Except RuleFileFault Rule :=
  match t.attribute? "ruleID" with
  | none => .error .missingRuleId
  | some id =>
    (addAllTo { id := id } t.elements).map fun r =>
      { r with parameters := Rule.distinct r.parameters }

/-- The rules of a list of elements; elements of other names are passed over. -/
def readRules : List Tree → Except RuleFileFault (List Rule)
  | [] => .ok []
  | t :: ts =>
    if t.name = "rule" then
      match readRule t with
      | .error fault => .error fault
      | .ok r => (readRules ts).map (r :: ·)
    else readRules ts

end RuleFile

/-- The rule book that a text writes. -/
def RuleBook.read (text : String) : Except RuleFileFault RuleBook :=
  match Markup.readTree text with
  | .error fault => .error (.malformed fault)
  | .ok t =>
    if t.name = "edlRules" then (RuleFile.readRules t.elements).map RuleBook.ofRules
    else .error (.unexpectedRoot t.name)

end GuidedXml
