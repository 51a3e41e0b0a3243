/-
# Values of derived types

A value of a type is a value of the types that it derives from. Every type has a test of its own, so
each step of derivation is an inclusion between two tests.

Some types have no test and take no text at all. They are passed over: a name without colons is a
token, although the type of names between the two has no test. Lists derive from the type of their
parts and are left aside.

The main statement says that the inclusion holds for any two types of which one derives from the
other.
-/
import GuidedXml.Proofs.Schema.Integers
import GuidedXml.Proofs.Text.Classes
import GuidedXml.Proofs.Text.Joining

namespace GuidedXml.Schema

open Number Text

variable {cs : List Char} {t b : Builtin} {owners : Owners} {node : Handle}

/-! ## Names and tokens -/

/-- The ranges of the characters that may be in a name. -/
def nameRanges : List (Nat × Nat) :=
  (Category.letters ++ [Category.letterNumber]).flatMap Category.ranges ++
    Category.Ranges.otherAlphabetic ++
    (Category.marks ++ [Category.decimalNumber, Category.connectorPunctuation]).flatMap
      Category.ranges ++
    (0x200C, 0x200D) :: extenders

/-- The characters of names are those that the table covers. -/
theorem isNameChar_eq_covers (c : Char) : isNameChar c = covers nameRanges c := by
  have hjoiner : (c.toNat == 0x200C || c.toNat == 0x200D) =
      (decide (0x200C ≤ c.toNat) && decide (c.toNat ≤ 0x200D)) := by
    rw [Bool.eq_iff_iff]
    simp
    omega
  simp only [isNameChar, isWord, Bool.or_assoc, hjoiner]
  simp [nameRanges, covers, isAlphabetic, isMark, isDecimal, inCategories, Category.holds,
    Category.letters, Category.marks, Bool.or_assoc]

/-- No character of names is white space or a comma. -/
theorem solid_of_isNameChar {c : Char} (h : isNameChar c = true) :
    isBlank c = false ∧ c ≠ ',' := by
  have hranges : areSolid nameRanges = true := by decide +kernel
  rw [isNameChar_eq_covers] at h
  exact solid_of_covers hranges h

/-- A name without colons is a name token. -/
theorem isNameToken_of_isLocalName (h : isLocalName cs = true) : isNameToken cs = true := by
  cases cs with
  | nil => simp [isLocalName] at h
  | cons c cs =>
    simp only [isLocalName, Bool.and_eq_true, List.all_eq_true, Bool.or_eq_true,
      decide_eq_true_eq] at h
    have hall : ∀ d ∈ c :: cs, isBlank d = false ∧ d ≠ ',' := by
      intro d hd
      rcases List.mem_cons.mp hd with rfl | hd
      · exact solid_of_isNameChar h.1.1
      · rcases h.2 d hd with (hd | rfl) | rfl
        · exact solid_of_isNameChar hd
        · decide
        · decide
    simpa [isNameToken] using hall

/-- A name token is a token by itself. -/
theorem isTokenText_of_isNameToken (h : isNameToken cs = true) : isTokenText cs = true := by
  have hall : ∀ c ∈ cs, isBlank c = false := fun c hc => by
    have := List.all_eq_true.mp (Bool.and_eq_true_iff.mp h).2 c hc
    simpa using (Bool.and_eq_true_iff.mp this).1
  have hne : cs ≠ [] := by
    rintro rfl
    cases h
  have hspace : ' ' ∉ cs := fun hc => absurd (hall _ hc) (by decide)
  have hparts : listParts cs = [cs] := by
    rw [listParts, splitAt_of_not_mem hspace]
    simp [dropEmptyEnd, hne]
  have hbreak : hasBreak cs = false := by
    rw [hasBreak, List.any_eq_false]
    intro c hc
    have := hall c hc
    simp only [Bool.or_eq_true, decide_eq_true_eq]
    rintro ((rfl | rfl) | rfl) <;> exact absurd this (by decide)
  rw [isTokenText, hbreak, trim_eq_self hall, hparts]
  simpa using h

/-- A token has no break in it. -/
theorem hasBreak_of_isTokenText (h : isTokenText cs = true) : hasBreak cs = false := by
  simp only [isTokenText, Bool.and_eq_true, Bool.not_eq_true'] at h
  exact h.1.1

/-! ## Numbers -/

/-- An integer is a decimal without a fraction. -/
theorem isDecimalText_of_isIntegerText (h : isIntegerText cs = true) : isDecimalText cs = true := by
  have hpoint : '.' ∉ (splitSign cs).2 := fun hc => by
    have := (isDigits_iff.mp h).2 _ hc
    exact absurd this (by decide)
  simp only [isDecimalText, cutAt_of_not_mem hpoint]
  exact h

/-- Wider bounds take more. -/
theorem isIntegerWithin_mono {least least' greatest greatest' : Int} (hl : least' ≤ least)
    (hg : greatest ≤ greatest') (h : isIntegerWithin least greatest cs = true) :
    isIntegerWithin least' greatest' cs = true := by
  obtain ⟨i, hi, hle, hge⟩ := isIntegerWithin_iff.mp h
  exact isIntegerWithin_iff.mpr ⟨i, hi, by omega, by omega⟩

/-- What is an integer within bounds is an integer. -/
theorem isIntegerText_of_isIntegerWithin {least greatest : Int}
    (h : isIntegerWithin least greatest cs = true) : isIntegerText cs = true := by
  obtain ⟨i, hi, -⟩ := isIntegerWithin_iff.mp h
  exact isIntegerText_iff.mpr ⟨i, hi⟩

/-- What is an unsigned integer is an integer. -/
theorem isIntegerText_of_isUnsignedText (h : isUnsignedText cs = true) :
    isIntegerText cs = true := by
  obtain ⟨i, hi, -⟩ := isUnsignedText_iff.mp h
  exact isIntegerText_iff.mpr ⟨i, hi⟩

/-- A greater bound takes more, if it is no smaller once rounded. -/
theorem isUnsignedUpTo_mono {max max' : Float} {last last' : Nat}
    (hmax : ∀ n, Float.ofNat n ≤ max ↔ n ≤ last) (hmax' : ∀ n, Float.ofNat n ≤ max' ↔ n ≤ last')
    (hle : last ≤ last') (h : isUnsignedUpTo max cs = true) : isUnsignedUpTo max' cs = true := by
  obtain ⟨i, hi, hb, hsign⟩ := (isUnsignedUpTo_iff hmax).mp h
  exact (isUnsignedUpTo_iff hmax').mpr ⟨i, hi, by omega, hsign⟩

/-! ## Along derivation -/

/-- Whether the type has a test of its own; the other types take no text. -/
def Builtin.isTested : Builtin → Bool
  | duration | dateTime | time | date | gYearMonth | gYear | gMonthDay | gDay | gMonth
  | base64Binary | hexBinary | qualifiedName | notationName | language | fullName | entity
  | entities => false
  | _ => true

/-- Whether the values of the type are lists. -/
def Builtin.isList : Builtin → Bool
  | nameTokens | idRefs | entities => true
  | _ => false

/-- The types with a test are those that take a text at all. -/
theorem isTested_iff : t.isTested = true ↔ ∃ owners node cs, t.accepts owners node cs = true := by
  constructor
  · intro h
    -- one of these three texts is a value of each type with a test
    have hsample : ∀ t ∈ Builtin.all, t.isTested = true →
        ∃ cs ∈ [['1'], ['-', '1'], ['a']], t.accepts (fun _ => some ⟨1⟩) ⟨1⟩ cs = true := by
      decide +kernel
    have hall : t ∈ Builtin.all := by cases t <;> decide
    obtain ⟨cs, -, hcs⟩ := hsample t hall h
    exact ⟨_, _, cs, hcs⟩
  · rintro ⟨owners, node, cs, h⟩
    cases t <;> first
      | rfl
      | simp [Builtin.accepts] at h

/-- The text is a value of every type with a test that `t` derives from. -/
def Inherits (owners : Owners) (node : Handle) (cs : List Char) (t : Builtin) : Prop :=
  ∀ s : Builtin, t.derivesFrom s = true → s.isTested = true → s.accepts owners node cs = true

/-- A type derives from itself and from all that its base derives from. -/
theorem derivesFrom_iff {s : Builtin} :
    t.derivesFrom s = true ↔ s = t ∨ ∃ b, t.base? = some b ∧ b.derivesFrom s = true := by
  rw [Builtin.derivesFrom, Builtin.lineage_eq]
  cases t.base? <;> simp [Builtin.derivesFrom]

/-- A step of derivation: what passes the test of the type, if there is one, and is a value of every
type that its base derives from. -/
theorem Inherits.step (hbase : ∀ b, t.base? = some b → Inherits owners node cs b)
    (ht : t.isTested = true → t.accepts owners node cs = true) : Inherits owners node cs t := by
  intro s hs htested
  rcases derivesFrom_iff.mp hs with rfl | ⟨b, hb, hs⟩
  · exact ht htested
  · exact hbase b hb s hs htested

/-- A step of derivation from a base that is named. -/
theorem Inherits.derived (hbase : Inherits owners node cs b)
    (ht : t.isTested = true → t.accepts owners node cs = true) (hb : t.base? = some b) :
    Inherits owners node cs t :=
  .step (fun _ hb' => Option.some.inj (hb.symm.trans hb') ▸ hbase) ht

/-! ## The families of types -/

/-- Every text is acceptable to the root of all simple types. -/
theorem inherits_anySimpleType : Inherits owners node cs .anySimpleType :=
  .step (fun _ hb => Option.some.inj hb ▸ .step (fun _ hb => by cases hb) fun _ => rfl) fun _ => rfl

/-- What has no break is acceptable to normalized strings and all they derive from. -/
theorem inherits_normalizedString (h : hasBreak cs = false) :
    Inherits owners node cs .normalizedString :=
  have hstring : Inherits owners node cs .string :=
    inherits_anySimpleType.derived (fun _ => rfl) rfl
  hstring.derived (fun _ => by simp [Builtin.accepts, h]) rfl

/-- What is a token is acceptable to tokens and all they derive from. -/
theorem inherits_token (h : isTokenText cs = true) : Inherits owners node cs .token :=
  (inherits_normalizedString (hasBreak_of_isTokenText h)).derived (fun _ => h) rfl

/-- What is a name token is acceptable to name tokens and all they derive from. -/
theorem inherits_nameToken (h : isNameToken cs = true) : Inherits owners node cs .nameToken :=
  (inherits_token (isTokenText_of_isNameToken h)).derived (fun _ => h) rfl

/-- What is a name without colons is acceptable to such names and all they derive from. -/
theorem inherits_localName (h : isLocalName cs = true) : Inherits owners node cs .localName := by
  -- the type of names with colons has no test
  have hname : Inherits owners node cs .fullName :=
    (inherits_token (isTokenText_of_isNameToken (isNameToken_of_isLocalName h))).derived nofun rfl
  exact hname.derived (fun _ => h) rfl

/-- What is an integer is acceptable to integers and all they derive from. -/
theorem inherits_integer (h : isIntegerText cs = true) : Inherits owners node cs .integer :=
  have hdecimal : Inherits owners node cs .decimal :=
    inherits_anySimpleType.derived (fun _ => isDecimalText_of_isIntegerText h) rfl
  hdecimal.derived (fun _ => h) rfl

/-- What is not positive is acceptable to such integers and all they derive from. -/
theorem inherits_nonPositiveInteger (h : isNonPositiveText cs = true) :
    Inherits owners node cs .nonPositiveInteger :=
  have hinteger : isIntegerText cs = true := (Bool.and_eq_true_iff.mp h).1
  (inherits_integer hinteger).derived (fun _ => h) rfl

/-- What is not negative is acceptable to such integers and all they derive from. -/
theorem inherits_nonNegativeInteger (h : isUnsignedText cs = true) :
    Inherits owners node cs .nonNegativeInteger :=
  (inherits_integer (isIntegerText_of_isUnsignedText h)).derived (fun _ => h) rfl

/-- What is a long integer is acceptable to all that these derive from. -/
theorem inherits_long (h : Builtin.long.accepts owners node cs = true) :
    Inherits owners node cs .long :=
  (inherits_integer (isIntegerText_of_isIntegerWithin h)).derived (fun _ => h) rfl

/-- What fits into 32 bits is acceptable to all that such integers derive from. -/
theorem inherits_int (h : Builtin.int.accepts owners node cs = true) :
    Inherits owners node cs .int :=
  (inherits_long (isIntegerWithin_mono (by decide) (by decide) h)).derived (fun _ => h) rfl

/-- What fits into 16 bits is acceptable to all that such integers derive from. -/
theorem inherits_short (h : Builtin.short.accepts owners node cs = true) :
    Inherits owners node cs .short :=
  (inherits_int (isIntegerWithin_mono (by decide) (by decide) h)).derived (fun _ => h) rfl

/-- What is a long unsigned integer is acceptable to all that these derive from. -/
theorem inherits_unsignedLong (h : Builtin.unsignedLong.accepts owners node cs = true) :
    Inherits owners node cs .unsignedLong :=
  have hunsigned : isUnsignedText cs = true := (Bool.and_eq_true_iff.mp h).1
  (inherits_nonNegativeInteger hunsigned).derived (fun _ => h) rfl

/-- What fits into 32 bits without sign is acceptable to all that such integers derive from. -/
theorem inherits_unsignedInt (h : Builtin.unsignedInt.accepts owners node cs = true) :
    Inherits owners node cs .unsignedInt :=
  (inherits_unsignedLong (isUnsignedUpTo_mono ofNat_le_unsignedInt ofNat_le_unsignedLong
    (by decide) h)).derived (fun _ => h) rfl

/-- What fits into 16 bits without sign is acceptable to all that such integers derive from. -/
theorem inherits_unsignedShort (h : Builtin.unsignedShort.accepts owners node cs = true) :
    Inherits owners node cs .unsignedShort :=
  (inherits_unsignedInt (isUnsignedUpTo_mono ofNat_le_unsignedShort ofNat_le_unsignedInt
    (by decide) h)).derived (fun _ => h) rfl

/-- A text that a type takes is a value of every type that it derives from. -/
theorem inherits_of_accepts (hlist : t.isList = false) (h : t.accepts owners node cs = true) :
    Inherits owners node cs t := by
  cases t
  case anyType => exact .step (fun _ hb => by cases hb) fun _ => rfl
  case anySimpleType => exact inherits_anySimpleType
  case string | boolean | anyUri | float | double | decimal =>
    exact inherits_anySimpleType.derived (fun _ => h) rfl
  case normalizedString => exact inherits_normalizedString (by simpa [Builtin.accepts] using h)
  case token => exact inherits_token h
  case nameToken => exact inherits_nameToken h
  case localName => exact inherits_localName h
  case id | idRef =>
    have hname : isLocalName cs = true := (Bool.and_eq_true_iff.mp h).1
    exact (inherits_localName hname).derived (fun _ => h) rfl
  case integer => exact inherits_integer h
  case nonPositiveInteger => exact inherits_nonPositiveInteger h
  case negativeInteger =>
    have hnonPositive : isNonPositiveText cs = true := (Bool.and_eq_true_iff.mp h).1
    exact (inherits_nonPositiveInteger hnonPositive).derived (fun _ => h) rfl
  case nonNegativeInteger => exact inherits_nonNegativeInteger h
  case positiveInteger =>
    have hunsigned : isUnsignedText cs = true := (Bool.and_eq_true_iff.mp h).1
    exact (inherits_nonNegativeInteger hunsigned).derived (fun _ => h) rfl
  case long => exact inherits_long h
  case int => exact inherits_int h
  case short => exact inherits_short h
  case byte =>
    exact (inherits_short (isIntegerWithin_mono (by decide) (by decide) h)).derived (fun _ => h) rfl
  case unsignedLong => exact inherits_unsignedLong h
  case unsignedInt => exact inherits_unsignedInt h
  case unsignedShort => exact inherits_unsignedShort h
  case unsignedByte =>
    exact (inherits_unsignedShort (isUnsignedUpTo_mono ofNat_le_unsignedByte ofNat_le_unsignedShort
      (by decide) h)).derived (fun _ => h) rfl
  -- lists are left aside, and the other types take no text
  all_goals first
    | exact absurd hlist (by decide)
    | cases h

/-- A text that is taken for a type that is no list is taken for every type with a test that it
derives from. -/
theorem acceptsType_of_derivesFrom {name ancestorName : String} {s : Builtin}
    (ht : Builtin.named? name = some t) (hs : Builtin.named? ancestorName = some s)
    (hd : t.derivesFrom s = true) (hlist : t.isList = false) (htested : s.isTested = true)
    {value : String} (h : acceptsType name owners node value = true) :
    acceptsType ancestorName owners node value = true := by
  rw [acceptsType, ht, Option.any_some] at h
  rw [acceptsType, hs, Option.any_some]
  exact inherits_of_accepts hlist h s hd htested

/-- A name that has an owner is a token, although the type of names between the two has no test. -/
theorem owned_name_is_token :
    Builtin.named? "xs:ID" = some .id ∧ Builtin.named? "token" = some .token ∧
      Builtin.id.derivesFrom .token = true ∧ Builtin.id.isList = false ∧
      Builtin.token.isTested = true ∧
      acceptsType "xs:ID" (fun _ => some ⟨7⟩) ⟨7⟩ "straße-1.b" = true ∧
      acceptsType "token" (fun _ => some ⟨7⟩) ⟨7⟩ "straße-1.b" = true := by
  have ht : Builtin.named? "xs:ID" = some .id := by decide +kernel
  have hs : Builtin.named? "token" = some .token := by decide +kernel
  have h : acceptsType "xs:ID" (fun _ => some ⟨7⟩) ⟨7⟩ "straße-1.b" = true := by decide +kernel
  exact ⟨ht, hs, by decide, rfl, rfl, h,
    acceptsType_of_derivesFrom ht hs (by decide) rfl rfl h⟩

end GuidedXml.Schema
