/-
# References and escapes

The characters that markup gives a meaning are written as references in texts and attribute values.

The main statement says that resolving the escaped form of a text gives the text back.
-/
import GuidedXml.Number.Reading

namespace GuidedXml.Markup

/-! ## Escaping -/

/-- The written form of a character of a text or value. -/
def escapeChar (c : Char) : List Char :=
  if c = '<' then ['&', 'l', 't', ';']
  else if c = '>' then ['&', 'g', 't', ';']
  else if c = '&' then ['&', 'a', 'm', 'p', ';']
  else if c = '\'' then ['&', 'a', 'p', 'o', 's', ';']
  else if c = '"' then ['&', 'q', 'u', 'o', 't', ';']
  else [c]

/-- The written form of a text or value. -/
def escape (cs : List Char) : List Char :=
  cs.flatMap escapeChar

/-! ## Resolving -/

/-- The value of a hexadecimal digit. -/
def hexValue? (c : Char) : Option Nat :=
  if '0' ≤ c ∧ c ≤ '9' then some (c.toNat - '0'.toNat)
  else if 'a' ≤ c ∧ c ≤ 'f' then some (c.toNat - 'a'.toNat + 10)
  else if 'A' ≤ c ∧ c ≤ 'F' then some (c.toNat - 'A'.toNat + 10)
  else none

/-- The number that one or more hexadecimal digits denote. -/
def readHex? (cs : List Char) : Option Nat :=
  if cs.isEmpty then none
  else cs.foldl (fun n c => n.bind fun n => (hexValue? c).map fun v => 16 * n + v) (some 0)

/-- The character with a code point, if there is one; the null character is none. -/
def charOfCode? (n : Nat) : Option Char :=
  if h : n.isValidChar ∧ n ≠ 0 then some (Char.ofNatAux n h.1) else none

/-- The character that the name of a reference stands for. -/
def resolve? : List Char → Option Char
  | ['l', 't'] => some '<'
  | ['g', 't'] => some '>'
  | ['a', 'm', 'p'] => some '&'
  | ['a', 'p', 'o', 's'] => some '\''
  | ['q', 'u', 'o', 't'] => some '"'
  | '#' :: 'x' :: digits => (readHex? digits).bind charOfCode?
  | '#' :: digits => (Number.readDigits? digits).bind charOfCode?
  | _ => none

/-- The text with its references resolved, reading at most `fuel` characters. An ampersand must be
followed by a semicolon before the next ampersand. -/
def unescapeAux : Nat → List Char → Option (List Char)
  | 0, cs => if cs.isEmpty then some [] else none
  | _ + 1, [] => some []
  | fuel + 1, c :: cs =>
    if c = '&' then
      let inName := fun x => x ≠ ';' && x ≠ '&'
      match cs.dropWhile inName with
      | ';' :: rest => do
        let r ← resolve? (cs.takeWhile inName)
        let out ← unescapeAux fuel rest
        some (r :: out)
      | _ => none
    else (unescapeAux fuel cs).map (c :: ·)

/-- The text with its references resolved. -/
def unescape? (cs : List Char) : Option (List Char) :=
  unescapeAux cs.length cs

/-- Resolving the escaped form of a text gives the text back. -/
theorem unescapeAux_escape (cs : List Char) :
    ∀ fuel, (escape cs).length ≤ fuel → unescapeAux fuel (escape cs) = some cs := by
  induction cs with
  | nil =>
    intro fuel _
    cases fuel <;> simp [escape, unescapeAux]
  | cons c cs ih =>
    intro fuel hfuel
    have hsplit : escape (c :: cs) = escapeChar c ++ escape cs := by simp [escape]
    rw [hsplit] at hfuel ⊢
    rw [List.length_append] at hfuel
    obtain ⟨n, rfl⟩ : ∃ n, fuel = n + 1 := by
      refine ⟨fuel - 1, ?_⟩
      have : 0 < (escapeChar c).length := by
        unfold escapeChar
        split <;> (try split) <;> (try split) <;> (try split) <;> (try split) <;> simp
      omega
    unfold escapeChar at hfuel ⊢
    by_cases h1 : c = '<'
    · subst h1
      simp at hfuel
      simp [unescapeAux, resolve?, ih n (by omega)]
    by_cases h2 : c = '>'
    · subst h2
      simp at hfuel
      simp [unescapeAux, resolve?, ih n (by omega)]
    by_cases h3 : c = '&'
    · subst h3
      simp at hfuel
      simp [unescapeAux, resolve?, ih n (by omega)]
    by_cases h4 : c = '\''
    · subst h4
      simp at hfuel
      simp [unescapeAux, resolve?, ih n (by omega)]
    by_cases h5 : c = '"'
    · subst h5
      simp at hfuel
      simp [unescapeAux, resolve?, ih n (by omega)]
    · simp [h1, h2, h3, h4, h5] at hfuel
      simp [h1, h2, h3, h4, h5, unescapeAux, ih n (by omega)]

/-- Resolving undoes escaping. -/
theorem unescape?_escape (cs : List Char) : unescape? (escape cs) = some cs :=
  unescapeAux_escape cs _ (Nat.le_refl _)

end GuidedXml.Markup
