/-
# Tables

A table holds at most one value for a key and remembers the order in which its keys came. Writing
to a present key replaces its value where it stands; a new key goes to the end.

The main statements say how `get?` sees each operation: a written key has the value written, an
erased key has none, and every other key is as before.
-/

namespace GuidedXml

universe u v

/-- An insertion-ordered map, given by its list of entries. -/
structure Table (κ : Type u) (α : Type v) where
  /-- The entries, oldest key first. -/
  entries : List (κ × α) := []
  deriving Repr

namespace Table

variable {κ : Type u} {α : Type v} [DecidableEq κ]

/-! ## Lookup -/

/-- The table without entries. -/
def empty : Table κ α := ⟨[]⟩

instance : Inhabited (Table κ α) := ⟨empty⟩

/-- The value of the first entry for `k` in a list of entries. -/
def lookup (k : κ) : List (κ × α) → Option α
  | [] => none
  | (k', a) :: es => if k' = k then some a else lookup k es

/-- The value of `k`, if the table has one. -/
def get? (t : Table κ α) (k : κ) : Option α :=
  lookup k t.entries

/-- Whether the table has a value for `k`. -/
def contains (t : Table κ α) (k : κ) : Bool :=
  (t.get? k).isSome

/-- The value of `k`, or `d` if there is none. -/
def getD (t : Table κ α) (k : κ) (d : α) : α :=
  (t.get? k).getD d

omit [DecidableEq κ] in
/-- The keys, oldest first. -/
def keys (t : Table κ α) : List κ :=
  t.entries.map Prod.fst

omit [DecidableEq κ] in
/-- The number of entries. -/
def size (t : Table κ α) : Nat :=
  t.entries.length

omit [DecidableEq κ] in
/-- Whether the table has no entry. -/
def isEmpty (t : Table κ α) : Bool :=
  t.entries.isEmpty

@[simp] theorem get?_empty (k : κ) : (empty : Table κ α).get? k = none := rfl

/-! ## Writing and erasing -/

/-- Write `a` to `k` in a list of entries. -/
def write (k : κ) (a : α) : List (κ × α) → List (κ × α)
  | [] => [(k, a)]
  | (k', a') :: es => if k' = k then (k, a) :: es else (k', a') :: write k a es

/-- The table with `a` as the value of `k`. -/
def insert (t : Table κ α) (k : κ) (a : α) : Table κ α :=
  ⟨write k a t.entries⟩

/-- The table without a value for `k`. -/
def erase (t : Table κ α) (k : κ) : Table κ α :=
  ⟨t.entries.filter fun e => e.1 ≠ k⟩

/-- The table whose value of `k`, if it has one, went through `f`. -/
def modify (t : Table κ α) (k : κ) (f : α → α) : Table κ α :=
  ⟨t.entries.map fun e => if e.1 = k then (e.1, f e.2) else e⟩

/-- The table that a list of entries makes, written one after the other. -/
def ofList (es : List (κ × α)) : Table κ α :=
  es.foldl (fun t e => t.insert e.1 e.2) empty

/-- A written entry is found, and no other lookup changes. -/
theorem lookup_write (k k' : κ) (a : α) (es : List (κ × α)) :
    lookup k' (write k a es) = if k' = k then some a else lookup k' es := by
  induction es with
  | nil =>
    by_cases h : k' = k
    · simp [write, lookup, h]
    · simp [write, lookup, h, Ne.symm h]
  | cons e es ih =>
    obtain ⟨j, b⟩ := e
    by_cases hj : j = k
    · subst hj
      by_cases h : k' = j
      · simp [write, lookup, h]
      · simp [write, lookup, h, Ne.symm h]
    · by_cases h : k' = k
      · subst h
        simp [write, lookup, hj, ih]
      · simp [write, lookup, hj, h, ih]

/-- Writing gives the key its value and leaves all others alone. -/
theorem get?_insert (t : Table κ α) (k k' : κ) (a : α) :
    (t.insert k a).get? k' = if k' = k then some a else t.get? k' :=
  lookup_write k k' a t.entries

@[simp] theorem get?_insert_self (t : Table κ α) (k : κ) (a : α) :
    (t.insert k a).get? k = some a := by
  simp [get?_insert]

/-- A filtered-out key is not found, and no other lookup changes. -/
theorem lookup_filter_ne (k k' : κ) (es : List (κ × α)) :
    lookup k' (es.filter fun e => e.1 ≠ k) = if k' = k then none else lookup k' es := by
  induction es with
  | nil => simp [lookup]
  | cons e es ih =>
    obtain ⟨j, b⟩ := e
    by_cases hj : j = k
    · subst hj
      by_cases h : k' = j
      · subst h
        simpa using ih
      · simp [lookup, h, Ne.symm h] at ih ⊢
        exact ih
    · by_cases h : k' = k
      · subst h
        simp [lookup, hj] at ih ⊢
        exact ih
      · simp [lookup, hj, h] at ih ⊢
        rw [ih]

/-- Erasing removes the key and leaves all others alone. -/
theorem get?_erase (t : Table κ α) (k k' : κ) :
    (t.erase k).get? k' = if k' = k then none else t.get? k' :=
  lookup_filter_ne k k' t.entries

@[simp] theorem get?_erase_self (t : Table κ α) (k : κ) : (t.erase k).get? k = none := by
  simp [get?_erase]

/-- A mapped list of entries is looked up by mapping the value found. -/
theorem lookup_map_ite (k k' : κ) (f : α → α) (es : List (κ × α)) :
    lookup k' (es.map fun e => if e.1 = k then (e.1, f e.2) else e) =
      if k' = k then (lookup k' es).map f else lookup k' es := by
  induction es with
  | nil => simp [lookup]
  | cons e es ih =>
    obtain ⟨j, b⟩ := e
    by_cases hj : j = k
    · subst hj
      by_cases h : k' = j
      · subst h
        simp [lookup]
      · simp [lookup, h, Ne.symm h] at ih ⊢
        exact ih
    · by_cases h : k' = k
      · subst h
        simp [lookup, hj] at ih ⊢
        exact ih
      · simp only [List.map_cons, hj, if_false, lookup, h] at ih ⊢
        rw [ih]

/-- Modifying changes the value of the key alone. -/
theorem get?_modify (t : Table κ α) (k k' : κ) (f : α → α) :
    (t.modify k f).get? k' = if k' = k then (t.get? k').map f else t.get? k' :=
  lookup_map_ite k k' f t.entries

/-! ## Tables of lists -/

/-- The table with `as` as the list of `k`; an empty list is the same as none and is not kept. -/
def putList (t : Table κ (List α)) (k : κ) : List α → Table κ (List α)
  | [] => t.erase k
  | a :: as => t.insert k (a :: as)

/-- A list that was put is found, and no other list changes. -/
theorem getD_putList (t : Table κ (List α)) (k k' : κ) (as : List α) :
    (t.putList k as).getD k' [] = if k' = k then as else t.getD k' [] := by
  cases as with
  | nil =>
    simp only [putList, getD, get?_erase]
    split <;> rfl
  | cons a as =>
    simp only [putList, getD, get?_insert]
    split <;> rfl

end Table

end GuidedXml
