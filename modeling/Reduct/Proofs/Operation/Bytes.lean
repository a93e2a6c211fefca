import Reduct.Operation.Arithmetic
import Reduct.Operation.Search
import Reduct.Operation.Strings
import Reduct.Proofs.Text.Slices

/-!
# Operations by bytes and places

Three operations keep a place in what they read while they go through it: splitting keeps two bytes
of the text, searching gives the bytes between which a match lies, and taking remainders keeps the
place of the next argument. Here they go by these places, with every slice checked. None fails, and
the results are those of the operations.
-/

namespace Reduct

open Text

/-! ### Splitting -/

namespace Operation.Strings

variable {separators : List (List Char)} {before piece cs : List Char}

/-- The pieces of a text from a piece that starts at the byte `start` and goes on at the byte
`offset`, with so many rounds at most. -/
def piecesFrom? (separators : List (List Char)) (text : List Char) :
    (rounds start offset : Nat) → Option (List (List Char))
  | 0, _, _ => none
  | rounds + 1, start, offset =>
    if offset < byteWidth text then do
      let (_, rest) ← splitAtByte? offset text
      match separator? separators rest with
      | some s =>
        let next := offset + byteWidth s
        if start < offset then
          let piece ← slice? start offset text
          let others ← piecesFrom? separators text rounds next next
          return piece :: others
        else piecesFrom? separators text rounds next next
      | none =>
        let width := (rest.head?.map Char.utf8Size).getD 1
        piecesFrom? separators text rounds start (offset + width)
    else if start < byteWidth text then do
      let (_, piece) ← splitAtByte? start text
      return [piece]
    else return []

/-- A separator that stands at the front takes one character at least. -/
theorem separator?_eq_some {s : List Char} (h : separator? separators cs = some s) :
    s ≠ [] ∧ s <+: cs := by
  have hfound := List.find?_some h
  simpa using hfound

theorem pieces_of_no_separator {c : Char} (h : separator? separators (c :: cs) = none) :
    pieces separators piece (c :: cs) = pieces separators (c :: piece) cs := by
  rw [pieces, h]

theorem pieces_of_separator {s rest : List Char} (h : separator? separators (s ++ rest) = some s) :
    pieces separators piece (s ++ rest) =
      (if piece = [] then [] else [piece.reverse]) ++ pieces separators [] rest := by
  obtain ⟨hne, -⟩ := separator?_eq_some h
  obtain ⟨c, s, rfl⟩ := List.exists_cons_of_ne_nil hne
  rw [List.cons_append] at h ⊢
  rw [pieces, h]
  have hdrop : (s ++ rest).drop ((c :: s).length - 1) = rest := by simp
  dsimp only
  rw [hdrop]
  by_cases hpiece : piece = [] <;> simp [hpiece]

/-- The bytes kept are the width of what was passed before the piece, and with the piece. -/
theorem piecesFrom?_eq {rounds : Nat} (h : cs.length < rounds) :
    piecesFrom? separators (before ++ (piece.reverse ++ cs)) rounds (byteWidth before)
        (byteWidth before + byteWidth piece.reverse) =
      some (pieces separators piece cs) := by
  induction rounds generalizing before piece cs with
  | zero => omega
  | succ rounds ih =>
      have hstart : byteWidth before < byteWidth before + byteWidth piece.reverse ↔ piece ≠ [] := by
        refine ⟨fun hlt hpiece => by simp [hpiece] at hlt, fun hpiece => ?_⟩
        exact Nat.lt_add_of_pos_right (byteWidth_pos (List.reverse_ne_nil_iff.mpr hpiece))
      rw [piecesFrom?]
      by_cases hnil : cs = []
      · subst hnil
        rw [List.append_nil, byteWidth_append, if_neg (Nat.lt_irrefl _), pieces]
        by_cases hpiece : piece = []
        · simp [hpiece]
        · rw [if_pos (hstart.mpr hpiece), splitAtByte?_append]
          simp [hpiece]
      have hlt : byteWidth before + byteWidth piece.reverse <
          byteWidth (before ++ (piece.reverse ++ cs)) := by
        have := byteWidth_pos hnil
        simp only [byteWidth_append]
        omega
      have hsplit : splitAtByte? (byteWidth before + byteWidth piece.reverse)
          (before ++ (piece.reverse ++ cs)) = some (before ++ piece.reverse, cs) := by
        rw [← byteWidth_append, ← List.append_assoc, splitAtByte?_append]
      rw [if_pos hlt, hsplit]
      dsimp only [Option.bind_eq_bind, Option.bind_some]
      cases hseparator : separator? separators cs with
      | none =>
          obtain ⟨c, cs, rfl⟩ := List.exists_cons_of_ne_nil hnil
          rw [pieces_of_no_separator hseparator]
          simpa [Nat.add_assoc] using @ih before (c :: piece) cs (Nat.lt_of_succ_lt_succ h)
      | some s =>
          obtain ⟨hne, rest, rfl⟩ := separator?_eq_some hseparator
          have hshorter : rest.length < rounds := by
            have := List.length_pos_iff.mpr hne
            rw [List.length_append] at h
            omega
          -- The next piece starts behind the separator.
          have hothers := @ih (before ++ (piece.reverse ++ s)) [] rest hshorter
          simp only [byteWidth_append, List.reverse_nil, List.nil_append, List.append_assoc,
            byteWidth_nil, Nat.add_zero, ← Nat.add_assoc] at hothers
          dsimp only
          rw [hothers, pieces_of_separator hseparator]
          by_cases hpiece : piece = []
          · simp [hpiece]
          · rw [if_pos (hstart.mpr hpiece), slice?_append]
            simp [hpiece]

/-- **No slice of a text that is split fails.** -/
theorem piecesFrom?_zero (separators : List (List Char)) (text : List Char) :
    piecesFrom? separators text (text.length + 1) 0 0 = some (pieces separators [] text) :=
  @piecesFrom?_eq separators [] [] text _ (Nat.lt_succ_self _)

end Operation.Strings

/-! ### Searching -/

namespace Regex

variable {p : Program} {before : Option Char} {best : Option Nat} {ns : List Nat} {cs : List Char}
  {taken index length : Nat}

/-- A match from the front takes no more characters than there are. -/
theorem Program.lengthFrom?_le (h : p.lengthFrom? before taken best ns cs = some length) :
    best = some length ∨ length ≤ taken + cs.length := by
  induction cs generalizing before taken best ns with
  | nil =>
      rw [lengthFrom?] at h
      split at h
      · exact .inr (Nat.le_of_eq (Option.some.inj h).symm)
      · exact .inl h
  | cons c cs ih =>
      rw [lengthFrom?] at h
      generalize p.advance (some c) (p.closure before (some c) ns) = step at h
      obtain ⟨nexts, isDone⟩ := step
      have hbest : ∀ {n}, (if isDone then some taken else best) = some n →
          best = some n ∨ n ≤ taken := by
        intro n hn
        split at hn
        · exact .inr (Nat.le_of_eq (Option.some.inj hn).symm)
        · exact .inl hn
      have hlength : (if isDone then some taken else best) = some length ∨
          length ≤ taken + 1 + cs.length := by
        dsimp only at h
        split at h
        · exact .inl h
        · exact ih h
      rw [List.length_cons]
      obtain hlater | hlater := hlength
      · exact (hbest hlater).imp_right fun hle => by omega
      · exact .inr (by omega)

/-- A match lies inside the text. -/
theorem Program.find?_le {start : Nat} (h : p.find? before index cs = some (start, length)) :
    index ≤ start ∧ start + length ≤ index + cs.length := by
  induction cs generalizing before index with
  | nil =>
      unfold find? at h
      split at h
      next length' _ hlength =>
        obtain ⟨rfl, rfl⟩ := Prod.mk.inj (Option.some.inj h)
        have := (lengthFrom?_le hlength).resolve_left nofun
        omega
      next => cases h
      next heq => cases heq
  | cons c cs ih =>
      unfold find? at h
      split at h
      next length' _ hlength =>
        obtain ⟨rfl, rfl⟩ := Prod.mk.inj (Option.some.inj h)
        have := (lengthFrom?_le hlength).resolve_left nofun
        omega
      next heq => cases heq
      next heq =>
        obtain ⟨rfl, rfl⟩ := List.cons.inj heq
        have := ih h
        rw [List.length_cons]
        omega

end Regex

namespace Operation.Search

/-- The bytes between which characters of a text lie, given the place of the first and their
number. -/
def byteRange (text : List Char) (found : Nat × Nat) : Nat × Nat :=
  (byteWidth (text.take found.1), byteWidth (text.take (found.1 + found.2)))

/-- What is told of a match between two bytes. -/
def entryBetween? (text : List Char) : Option (Nat × Nat) → Option Expr
  | none => some (entry none)
  | some (start, stop) => do
    let (before, _) ← splitAtByte? start text
    let run ← slice? start stop text
    return entry (some (before.length, run.length))

/-- The range of bytes lies between characters of the text. -/
def IsBetweenChars (text : List Char) (range : Nat × Nat) : Prop :=
  ∃ before run after, text = before ++ run ++ after ∧
    range = (byteWidth before, byteWidth (before ++ run))

/-- Whatever lies between characters can be sliced, and is told of in characters. -/
theorem entryBetween?_append (before run after : List Char) :
    entryBetween? (before ++ run ++ after) (some (byteWidth before, byteWidth (before ++ run))) =
      some (entry (some (before.length, run.length))) := by
  have hsplit : splitAtByte? (byteWidth before) (before ++ run ++ after) =
      some (before, run ++ after) :=
    splitAtByte?_eq_some_iff.mpr ⟨(List.append_assoc ..).symm, rfl⟩
  have hslice : slice? (byteWidth before) (byteWidth (before ++ run)) (before ++ run ++ after) =
      some run :=
    slice?_eq_some_iff.mpr
      ⟨before, after, (List.append_assoc ..).symm, rfl, (byteWidth_append ..).symm⟩
  simp only [entryBetween?, hsplit, hslice]
  rfl

theorem isSome_entryBetween? {text : List Char} {range : Option (Nat × Nat)}
    (h : ∀ r ∈ range, IsBetweenChars text r) : (entryBetween? text range).isSome := by
  cases range with
  | none => rfl
  | some range =>
      obtain ⟨before, run, after, rfl, rfl⟩ := h range rfl
      rw [entryBetween?_append]
      rfl

theorem entryBetween?_byteRange {text : List Char} {index length : Nat}
    (h : index + length ≤ text.length) :
    entryBetween? text (some (byteRange text (index, length))) =
      some (entry (some (index, length))) := by
  have htext : text.take index ++ (text.drop index).take length ++
      (text.drop index).drop length = text := by
    rw [List.append_assoc, List.take_append_drop, List.take_append_drop]
  have hindex : (text.take index).length = index := by
    rw [List.length_take]
    omega
  have hlength : ((text.drop index).take length).length = length := by
    rw [List.length_take, List.length_drop]
    omega
  have hentry := entryBetween?_append (text.take index) ((text.drop index).take length)
    ((text.drop index).drop length)
  rwa [htext, hindex, hlength, ← List.take_add] at hentry

/-- **No slice around a match fails,** and the places told are those of the match. -/
theorem entryBetween?_find? (regex : Regex) (text : String) :
    entryBetween? text.toList ((regex.find? text).map (byteRange text.toList)) =
      some (entry (regex.find? text)) := by
  cases h : regex.find? text with
  | none => rfl
  | some found =>
      have hinside := Regex.Program.find?_le h
      exact entryBetween?_byteRange (by omega)

end Operation.Search

/-! ### Remainders -/

namespace Operation.Arithmetic

variable {ν ε : Type}

/-- Folds the numbers from a place on into a first number, with so many rounds at most. -/
def reduceRunFrom? (op : ν → ν → ν) (operands : List (Operand ν ε)) :
    (rounds place : Nat) → (value : ν) → Option (Folded ν ε)
  | 0, _, _ => none
  | rounds + 1, place, value =>
    match operands[place]? with
    | some (.number next) => reduceRunFrom? op operands rounds (place + 1) (op value next)
    | _ =>
      if place = operands.length then some (.number value)
      else if place ≤ operands.length then some (.call (.number value :: operands.drop place))
      else none

theorem reduceRunFrom?_eq (op : ν → ν → ν) {rounds : Nat} {passed operands : List (Operand ν ε)}
    (h : operands.length < rounds) (value : ν) :
    reduceRunFrom? op (passed ++ operands) rounds passed.length value =
      some (reduceRun op value operands) := by
  induction rounds generalizing passed operands value with
  | zero => omega
  | succ rounds ih =>
      rw [reduceRunFrom?]
      match operands with
      | [] => simp [reduceRun]
      | .number next :: operands =>
          have hothers := @ih (passed ++ [.number next]) operands (Nat.lt_of_succ_lt_succ h)
            (op value next)
          simpa [reduceRun] using hothers
      | .other e :: operands => simp [reduceRun]

/-- **The arguments that are left of a remainder are sliced at a place among them.** -/
theorem reduceRunFrom?_zero (op : ν → ν → ν) (operands : List (Operand ν ε)) (value : ν) :
    reduceRunFrom? op operands (operands.length + 1) 0 value =
      some (reduceRun op value operands) :=
  @reduceRunFrom?_eq _ _ op _ [] operands (Nat.lt_succ_self _) value

end Operation.Arithmetic

end Reduct
