import Mathlib.Data.Nat.PSub
import Reduct.Text.Quoted
import Reduct.Text.Width

/-!
# Checked slices

A text is cut at a byte only where a character ends. `splitAtByte?` and `slice?` give nothing for
a place inside a character, past the end or before the start of the slice; where they do give
something, it is what the characters say (`splitAtByte?_eq_some_iff`, `slice?_eq_some_iff`).
-/

namespace Reduct.Text

variable {cs front rest before middle after : List Char} {n start stop : Nat}

/-- The characters before the byte `n` and those from there on. -/
def splitAtByte? (n : Nat) : List Char → Option (List Char × List Char)
  | [] => if n = 0 then some ([], []) else none
  | c :: cs =>
    if n = 0 then some ([], c :: cs)
    else if c.utf8Size ≤ n then
      (splitAtByte? (n - c.utf8Size) cs).map fun (front, rest) => (c :: front, rest)
    else none

/-- The characters from one byte up to another. -/
def slice? (start stop : Nat) (cs : List Char) : Option (List Char) := do
  let (front, _) ← splitAtByte? stop cs
  let (_, middle) ← splitAtByte? start front
  return middle

theorem byteWidth_pos (h : cs ≠ []) : 0 < byteWidth cs := by
  obtain ⟨c, cs, rfl⟩ := List.exists_cons_of_ne_nil h
  have := c.utf8Size_pos
  rw [byteWidth_cons]
  omega

theorem splitAtByte?_zero (cs : List Char) : splitAtByte? 0 cs = some ([], cs) := by
  cases cs <;> simp [splitAtByte?]

theorem splitAtByte?_append (front rest : List Char) :
    splitAtByte? (byteWidth front) (front ++ rest) = some (front, rest) := by
  induction front with
  | nil => exact splitAtByte?_zero rest
  | cons c front ih =>
      have hpos := c.utf8Size_pos
      have hne : c.utf8Size + byteWidth front ≠ 0 := by omega
      rw [byteWidth_cons, List.cons_append, splitAtByte?, if_neg hne,
        if_pos (Nat.le_add_right _ _), Nat.add_sub_cancel_left, ih]
      rfl

/-- **A text is cut at a byte exactly where a character ends.** -/
theorem splitAtByte?_eq_some_iff :
    splitAtByte? n cs = some (front, rest) ↔ front ++ rest = cs ∧ byteWidth front = n := by
  constructor
  · intro h
    induction cs generalizing n front with
    | nil =>
        rw [splitAtByte?] at h
        split at h
        next hn => simp_all
        next => simp at h
    | cons c cs ih =>
        rw [splitAtByte?] at h
        split at h
        next hn => simp_all
        next hn =>
          split at h
          next hle =>
            obtain ⟨⟨front', rest'⟩, hsplit, heq⟩ := Option.map_eq_some_iff.mp h
            obtain ⟨rfl, rfl⟩ := Prod.mk.inj heq
            obtain ⟨rfl, hwidth⟩ := ih hsplit
            refine ⟨rfl, ?_⟩
            rw [byteWidth_cons]
            omega
          next => simp at h
  · rintro ⟨rfl, rfl⟩
    exact splitAtByte?_append front rest

theorem slice?_append (before middle after : List Char) :
    slice? (byteWidth before) (byteWidth before + byteWidth middle) (before ++ (middle ++ after)) =
      some middle := by
  rw [← byteWidth_append, ← List.append_assoc, slice?, splitAtByte?_append]
  simp [splitAtByte?_append]

/-- **A slice is there exactly where characters end at both its sides**, in this order. -/
theorem slice?_eq_some_iff :
    slice? start stop cs = some middle ↔
      ∃ before after, before ++ (middle ++ after) = cs ∧ byteWidth before = start ∧
        byteWidth before + byteWidth middle = stop := by
  constructor
  · intro h
    obtain ⟨⟨front, after⟩, hstop, h⟩ := Option.bind_eq_some_iff.mp h
    obtain ⟨⟨before, middle'⟩, hstart, h⟩ := Option.bind_eq_some_iff.mp h
    obtain rfl := Option.some.inj h
    obtain ⟨rfl, rfl⟩ := splitAtByte?_eq_some_iff.mp hstop
    obtain ⟨rfl, rfl⟩ := splitAtByte?_eq_some_iff.mp hstart
    exact ⟨before, after, (List.append_assoc _ _ _).symm, rfl, (byteWidth_append _ _).symm⟩
  · rintro ⟨before, after, rfl, rfl, rfl⟩
    exact slice?_append before middle after

/-! ### The inside of a literal -/

/-- The text of a literal, with the slice between its first and its last byte checked. -/
def unquote? (literal : String) : Option String := do
  let last ← (byteWidth literal.toList).ppred
  let inside ← slice? 1 last literal.toList
  return String.ofList (unescape inside)

/-- A literal stands between quotes, which take a byte each. -/
theorem unquote?_of_quotes {literal : String} {body : List Char}
    (h : literal.toList = '"' :: (body ++ ['"'])) : unquote? literal = some (unquote literal) := by
  have hlast : (byteWidth literal.toList).ppred = some (byteWidth ['"'] + byteWidth body) := by
    rw [h, ← Nat.ppred_succ]
    congr 1
    simp only [byteWidth_cons, byteWidth_append, byteWidth_nil]
    rw [show '"'.utf8Size = 1 by decide]
    omega
  have hinside : slice? 1 (byteWidth ['"'] + byteWidth body) literal.toList = some body := by
    rw [h]
    exact slice?_append ['"'] body ['"']
  have hbody : literal.toList.tail.dropLast = body := by
    rw [h, List.tail_cons, List.dropLast_concat]
  rw [unquote?, hlast, unquote, hbody]
  change (slice? 1 _ literal.toList).bind _ = _
  rw [hinside]
  rfl

end Reduct.Text
