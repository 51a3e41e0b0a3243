/-
# Bytes

How many bytes a text has when it is stored in UTF-8. Places in a source are given in bytes.

The main statement says that the bytes of two texts add up when the texts are joined.
-/

namespace GuidedXml.Text

/-- The number of bytes of a text. -/
def byteCount (cs : List Char) : Nat :=
  cs.foldr (fun c n => c.utf8Size + n) 0

@[simp] theorem byteCount_nil : byteCount [] = 0 := rfl

@[simp] theorem byteCount_cons (c : Char) (cs : List Char) :
    byteCount (c :: cs) = c.utf8Size + byteCount cs := rfl

/-- The bytes of joined texts add up. -/
theorem byteCount_append (cs ds : List Char) :
    byteCount (cs ++ ds) = byteCount cs + byteCount ds := by
  induction cs with
  | nil => simp
  | cons c cs ih =>
    rw [List.cons_append, byteCount_cons, byteCount_cons, ih]
    omega

end GuidedXml.Text
