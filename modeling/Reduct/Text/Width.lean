/-!
# Byte widths

Positions in a source text are counted in bytes of its UTF-8 form.
-/

namespace Reduct.Text

/-- The number of bytes the characters take in UTF-8. -/
def byteWidth : List Char → Nat
  | [] => 0
  | c :: cs => c.utf8Size + byteWidth cs

@[simp] theorem byteWidth_nil : byteWidth [] = 0 := rfl

@[simp] theorem byteWidth_cons (c : Char) (cs : List Char) :
    byteWidth (c :: cs) = c.utf8Size + byteWidth cs := rfl

@[simp] theorem byteWidth_append (cs ds : List Char) :
    byteWidth (cs ++ ds) = byteWidth cs + byteWidth ds := by
  induction cs with
  | nil => simp
  | cons c cs ih => simp [ih, Nat.add_assoc]

end Reduct.Text
