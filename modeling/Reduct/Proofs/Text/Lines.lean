import Mathlib.Data.List.Induction
import Reduct.Proofs.Text.Slices
import Reduct.Text.Position

/-!
# Lines and columns

A place in a source text is found in two ways: by counting lines and columns up to a byte, and by
cutting the text into lines. Both agree (`LineOf.position_eq`, `LineOf.lineAt_eq`): a character that
ends no line stands on the line that the position tells, behind as many characters as its column
tells. The carriage return that goes with a line feed counts as a character but belongs to no line,
so it is the only one, besides the line feed itself, of which this does not hold.

The places of the characters of a text are in the order of the characters (`position_before`).
-/

namespace Reduct.Text

variable {cs before middle after above left right line ending : List Char} {c : Char} {offset : Nat}
  {p q r : Position} {source : String}

/-! ### Counting -/

/-- The one place comes before the other: on a line further up, or further left on the same. -/
def Position.Before (p q : Position) : Prop :=
  p.line < q.line ∨ p.line = q.line ∧ p.column < q.column

theorem Position.Before.trans (hpq : p.Before q) (hqr : q.Before r) : p.Before r := by
  unfold Position.Before at *
  omega

theorem Position.before_after (p : Position) (c : Char) : p.Before (p.after c) := by
  rw [Position.after]
  split
  · exact .inl (Nat.lt_succ_self _)
  · exact .inr ⟨rfl, Nat.lt_succ_self _⟩

/-- The byte after some characters is the place after them. -/
theorem advance_append (p : Position) (before after : List Char) :
    p.advance (byteWidth before) (before ++ after) = before.foldl Position.after p := by
  induction before generalizing p with
  | nil => cases after <;> simp [Position.advance]
  | cons c before ih =>
      have hpos := c.utf8Size_pos
      have hne : c.utf8Size + byteWidth before ≠ 0 := by omega
      rw [byteWidth_cons, List.cons_append, Position.advance, if_neg hne, Nat.add_sub_cancel_left,
        ih, List.foldl_cons]

theorem position_eq_foldl (h : source.toList = before ++ after) :
    position source (byteWidth before) = before.foldl Position.after .start := by
  rw [position, h, advance_append]

theorem before_foldl (p : Position) (h : cs ≠ []) : p.Before (cs.foldl Position.after p) := by
  induction cs generalizing p with
  | nil => exact absurd rfl h
  | cons c cs ih =>
      have hc := p.before_after c
      rw [List.foldl_cons]
      by_cases hcs : cs = []
      · subst hcs
        exact hc
      · exact hc.trans (ih _ hcs)

/-- **Places are in the order of the text.** -/
theorem position_before (h : source.toList = before ++ middle ++ after) (hne : middle ≠ []) :
    (position source (byteWidth before)).Before
      (position source (byteWidth (before ++ middle))) := by
  have hbefore : source.toList = before ++ (middle ++ after) := by rw [h, List.append_assoc]
  rw [position_eq_foldl hbefore, position_eq_foldl h, List.foldl_append]
  exact before_foldl _ hne

/-! ### Lines -/

/-- A line begins where the text does, or behind a line feed. -/
inductive StartsLine : List Char → Prop
  | first : StartsLine []
  | lineFeed (front : List Char) : StartsLine (front ++ ['\n'])

/-- A line ends where the text does, or at a line feed; a carriage return before the line feed does
not belong to the line. -/
inductive EndsLine (line : List Char) : List Char → Prop
  | last : EndsLine line []
  | lineFeed (rest : List Char) : line.getLast? ≠ some '\r' → EndsLine line ('\n' :: rest)
  | carriageReturn (rest : List Char) : EndsLine line ('\r' :: '\n' :: rest)

/-- The character `c` stands at the byte `offset` of the text, on a line with `left` before it and
`right` behind it; above it the line begins, and behind it the line ends. -/
structure LineOf (text : List Char) (offset : Nat) (above left : List Char) (c : Char)
    (right ending : List Char) : Prop where
  text_eq : text = above ++ (left ++ c :: right) ++ ending
  offset_eq : byteWidth (above ++ left) = offset
  starts : StartsLine above
  single : '\n' ∉ left ++ c :: right
  ends : EndsLine (left ++ c :: right) ending

theorem exists_startsLine (before : List Char) :
    ∃ above left, before = above ++ left ∧ StartsLine above ∧ '\n' ∉ left := by
  induction before using List.reverseRecOn with
  | nil => exact ⟨[], [], rfl, .first, List.not_mem_nil⟩
  | append_singleton before c ih =>
      by_cases hc : c = '\n'
      · subst hc
        exact ⟨before ++ ['\n'], [], by simp, .lineFeed before, List.not_mem_nil⟩
      · obtain ⟨above, left, rfl, hstarts, hleft⟩ := ih
        refine ⟨above, left ++ [c], by simp, hstarts, ?_⟩
        simp only [List.mem_append, List.mem_singleton, not_or]
        exact ⟨hleft, Ne.symm hc⟩

/-- A character that ends no line stands on a line that ends behind it. -/
theorem exists_endsLine (after : List Char) (h : c = '\r' → after.head? ≠ some '\n') :
    ∃ right ending, after = right ++ ending ∧ '\n' ∉ right ∧ EndsLine (c :: right) ending := by
  induction after generalizing c with
  | nil => exact ⟨[], [], rfl, List.not_mem_nil, .last⟩
  | cons d after ih =>
      by_cases hd : d = '\n'
      · subst hd
        refine ⟨[], '\n' :: after, rfl, List.not_mem_nil, .lineFeed after ?_⟩
        simpa using h
      by_cases hreturn : d = '\r' → after.head? ≠ some '\n'
      · obtain ⟨right, ending, rfl, hright, hends⟩ := ih hreturn
        refine ⟨d :: right, ending, rfl, ?_, ?_⟩
        · simpa [Ne.symm hd] using hright
        · cases hends with
          | last => exact .last
          | lineFeed rest hlast => exact .lineFeed rest (by rwa [List.getLast?_cons_cons])
          | carriageReturn rest => exact .carriageReturn rest
      · obtain ⟨rfl, hhead⟩ := Classical.not_imp.mp hreturn
        obtain ⟨rest, rfl⟩ := List.head?_eq_some_iff.mp (not_not.mp hhead)
        exact ⟨[], '\r' :: '\n' :: rest, rfl, List.not_mem_nil, .carriageReturn rest⟩

/-- **Every character that ends no line stands on one.** -/
theorem exists_lineOf (before after : List Char) (hline : c ≠ '\n') (hreturn : c ≠ '\r') :
    ∃ above left right ending, before = above ++ left ∧
      LineOf (before ++ c :: after) (byteWidth before) above left c right ending := by
  obtain ⟨above, left, rfl, hstarts, hleft⟩ := exists_startsLine before
  obtain ⟨right, ending, rfl, hright, hends⟩ :=
    exists_endsLine after fun h => absurd h hreturn
  refine ⟨above, left, right, ending, rfl, by simp, rfl, hstarts, ?_, ?_⟩
  · simp only [List.mem_append, List.mem_cons, not_or]
    exact ⟨hleft, Ne.symm hline, hright⟩
  · have hlast : (left ++ c :: right).getLast? = (c :: right).getLast? := by
      simp [List.getLast?_cons]
    cases hends with
    | last => exact .last
    | lineFeed rest h => exact .lineFeed rest (hlast ▸ h)
    | carriageReturn rest => exact .carriageReturn rest

/-! ### Both agree -/

theorem foldl_after_line (p : Position) (cs : List Char) :
    (cs.foldl Position.after p).line = p.line + cs.count '\n' := by
  induction cs generalizing p with
  | nil => rfl
  | cons c cs ih =>
      rw [List.foldl_cons, ih, Position.after, List.count_cons]
      by_cases hc : c = '\n'
      · simp [hc]
        omega
      · simp [hc]

theorem foldl_after_of_single (p : Position) (h : '\n' ∉ cs) :
    (cs.foldl Position.after p).column = p.column + cs.length := by
  induction cs generalizing p with
  | nil => rfl
  | cons c cs ih =>
      obtain ⟨hc, hcs⟩ := not_or.mp (mt List.mem_cons.mpr h)
      rw [List.foldl_cons, ih _ hcs, Position.after, if_neg (Ne.symm hc), List.length_cons]
      dsimp only
      omega

theorem StartsLine.column_eq (h : StartsLine above) :
    (above.foldl Position.after .start).column = 1 := by
  cases h with
  | first => rfl
  | lineFeed front => simp [Position.after]

theorem lines_cons {l : List Char} {ls : List (List Char)} (hcs : lines cs = l :: ls)
    (hline : c ≠ '\n') (hreturn : c = '\r' → cs.head? ≠ some '\n') :
    lines (c :: cs) = (c :: l) :: ls := by
  rw [lines, hcs]
  · exact hline
  · rintro ds rfl rfl
    exact hreturn rfl rfl

theorem lines_carriage_return (cs : List Char) :
    lines ('\r' :: '\n' :: cs) = lines ('\n' :: cs) := by
  rw [lines, lines]

/-- What comes above a line is cut into as many lines as it has line feeds. -/
theorem StartsLine.exists_lines (h : StartsLine above) :
    ∃ ls : List (List Char), ls.length = above.count '\n' ∧
      ∀ cs, lines (above ++ cs) = ls ++ lines cs := by
  cases h with
  | first => exact ⟨[], rfl, fun cs => rfl⟩
  | lineFeed front =>
      induction front with
      | nil => exact ⟨[[]], rfl, fun cs => by simp [lines]⟩
      | cons c front ih =>
          obtain ⟨ls, hlength, hls⟩ := ih
          have hfeed : '\n' ∈ front ++ ['\n'] := by simp
          rw [List.cons_append]
          generalize front ++ ['\n'] = above at *
          by_cases hc : c = '\n'
          · subst hc
            refine ⟨[] :: ls, by simp [hlength], fun cs => ?_⟩
            rw [List.cons_append, lines, hls, List.cons_append]
          have hcount : (c :: above).count '\n' = above.count '\n' := List.count_cons_of_ne hc
          by_cases hreturn : c = '\r' → above.head? ≠ some '\n'
          · -- The character goes to the first of the lines.
            obtain ⟨l, ls, rfl⟩ : ∃ l ls', ls = l :: ls' := by
              refine List.exists_cons_of_ne_nil ?_
              rintro rfl
              exact absurd (List.count_pos_iff.mpr hfeed) (by simp [← hlength])
            refine ⟨(c :: l) :: ls, by rw [hcount, ← hlength]; rfl, fun cs => ?_⟩
            refine lines_cons (hls cs) hc fun h => ?_
            obtain ⟨d, above, rfl⟩ := List.exists_cons_of_ne_nil (List.ne_nil_of_mem hfeed)
            exact hreturn h
          · -- A carriage return goes with the line feed behind it.
            obtain ⟨rfl, hhead⟩ := Classical.not_imp.mp hreturn
            obtain ⟨rest, rfl⟩ := List.head?_eq_some_iff.mp (not_not.mp hhead)
            refine ⟨ls, by rw [hcount, hlength], fun cs => ?_⟩
            rw [← hls, List.cons_append, List.cons_append, lines_carriage_return]

/-- A line is what a text that begins with it is cut into first. -/
theorem EndsLine.lines_eq (h : EndsLine line ending) (hsingle : '\n' ∉ line) :
    ∃ ls, lines (line ++ ending) = line :: ls := by
  induction line with
  | nil =>
      cases h with
      | last => exact ⟨[], rfl⟩
      | lineFeed rest _ => exact ⟨lines rest, by rw [List.nil_append, lines]⟩
      | carriageReturn rest => exact ⟨lines rest, by rw [List.nil_append, lines]⟩
  | cons c line ih =>
      obtain ⟨hc, hline⟩ := not_or.mp (mt List.mem_cons.mpr hsingle)
      have hends : EndsLine line ending := by
        cases h with
        | last => exact .last
        | carriageReturn rest => exact .carriageReturn rest
        | lineFeed rest hlast =>
            refine .lineFeed rest ?_
            cases line with
            | nil => simp
            | cons d line => rwa [List.getLast?_cons_cons] at hlast
      obtain ⟨ls, hls⟩ := ih hends hline
      refine ⟨ls, lines_cons hls (Ne.symm hc) ?_⟩
      rintro rfl
      -- A carriage return that a line feed follows would not belong to the line.
      cases line with
      | cons d line =>
          intro hhead
          exact hline (Option.some.inj hhead ▸ List.mem_cons_self)
      | nil =>
          cases h with
          | last => simp
          | lineFeed rest hlast => exact absurd rfl hlast
          | carriageReturn rest => simp

namespace LineOf

variable {text : List Char}

theorem count_eq (h : LineOf text offset above left c right ending) :
    (above ++ left).count '\n' = above.count '\n' := by
  have hleft : '\n' ∉ left := fun hmem => h.single (List.mem_append_left _ hmem)
  rw [List.count_append, List.count_eq_zero_of_not_mem hleft, Nat.add_zero]

/-- The line of the place is the number of line feeds before it, its column that of the characters
before it on the line, both counted from one. -/
theorem position_eq (h : LineOf source.toList offset above left c right ending) :
    position source offset = ⟨(above ++ left).count '\n' + 1, left.length + 1⟩ := by
  have hleft : '\n' ∉ left := fun hmem => h.single (List.mem_append_left _ hmem)
  have htext : source.toList = above ++ left ++ (c :: right ++ ending) := by simp [h.text_eq]
  have hline : ((above ++ left).foldl Position.after .start).line =
      (above ++ left).count '\n' + 1 := by
    rw [foldl_after_line, Nat.add_comm]
    rfl
  have hcolumn : ((above ++ left).foldl Position.after .start).column = left.length + 1 := by
    rw [List.foldl_append, foldl_after_of_single _ hleft, h.starts.column_eq, Nat.add_comm]
  rw [← h.offset_eq, position_eq_foldl htext, ← hline, ← hcolumn]

/-- The line that has the number of the place is the one on which the character stands. -/
theorem lineAt_eq (h : LineOf source.toList offset above left c right ending) :
    lineAt source (position source offset).line = String.ofList (left ++ c :: right) := by
  obtain ⟨ls, hlength, hls⟩ := h.starts.exists_lines
  obtain ⟨others, hothers⟩ := h.ends.lines_eq h.single
  have hlines : lines source.toList = ls ++ (left ++ c :: right) :: others := by
    rw [h.text_eq, List.append_assoc, hls, hothers]
  rw [h.position_eq, lineAt, hlines, h.count_eq, Nat.add_sub_cancel, ← hlength]
  simp

end LineOf

example : position "ä\r\nb" 4 = ⟨2, 1⟩ ∧ lineAt "ä\r\nb" 1 = "ä" := by decide

end Reduct.Text
