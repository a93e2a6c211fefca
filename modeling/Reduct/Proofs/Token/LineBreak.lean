import Reduct.Proofs.Token.Segments

/-!
# Text on another line

A line break protects what stands before it: with more text behind, a source text is cut into the
same tokens and then into those of the other text (`tokenize_line`). No number, name, comment or
piece of punctuation goes on over a line break. Blanks do, and then they are one piece of layout
with the break, which makes no token. A string literal does as well, but one that was open at the
end would have stopped the scanner before.

Operators have to keep to it, too: none of them holds a line break or begins with a quote
(`KeepsLines`).
-/

namespace Reduct.Token

open Text

variable {P : List Char → Prop} {operators : List String} {cs ds run more : List Char}
  {kind k : Kind} {offset : Nat}

/-- The operators hold no line break and do not begin with a quote, and none is empty. -/
structure KeepsLines (operators : List String) : Prop where
  ne_empty : ∀ op ∈ operators, op ≠ ""
  line : ∀ op ∈ operators, '\n' ∉ op.toList
  quote : ∀ op ∈ operators, op.toList.head? ≠ some '"'

/-! ### What goes on over a line break -/

/-- What stands at the front of a text with a line behind it stood there before, or goes on over
the line break. -/
theorem front_or_over (h : run <+: cs ++ '\n' :: ds) :
    run <+: cs ∨ ∃ more, run = cs ++ '\n' :: more := by
  rcases List.prefix_or_prefix_of_prefix h (List.prefix_append cs ('\n' :: ds)) with h' | h'
  · exact .inl h'
  · obtain ⟨behind, rfl⟩ := h'
    cases behind with
    | nil => exact .inl (by simp)
    | cons c behind =>
        have hfront := (List.prefix_append_right_inj cs).mp h
        obtain rfl : c = '\n' := (List.cons_prefix_cons.mp hfront).1
        exact .inr ⟨behind, rfl⟩

theorem Absent.line (h : Absent P cs) (hover : ∀ more, ¬ P (cs ++ '\n' :: more)) :
    Absent P (cs ++ '\n' :: ds) := by
  intro run hrun hP
  rcases front_or_over hrun with hfront | ⟨more, rfl⟩
  · exact h run hfront hP
  · exact hover more hP

theorem Longest.line (h : Longest P run cs)
    (hover : ∀ more, cs ++ '\n' :: more <+: cs ++ '\n' :: ds → ¬ P (cs ++ '\n' :: more)) :
    Longest P run (cs ++ '\n' :: ds) := by
  refine ⟨h.front.trans (List.prefix_append cs _), h.holds, fun other hother hP => ?_⟩
  rcases front_or_over hother with hfront | ⟨more, rfl⟩
  · exact h.longest other hfront hP
  · exact absurd hP (hover more hother)

/-- Of the built-in kinds only blanks and string literals go on over a line break. -/
theorem Spelled.over_line (h : Spelled k (cs ++ '\n' :: more)) (hne : cs ≠ []) :
    k = .layout ∧ (∀ c ∈ cs, isBlank c) ∨ k = .string ∧ cs.head? = some '"' := by
  generalize hall : cs ++ '\n' :: more = all at h
  have hmem : '\n' ∈ all := by simp [← hall]
  cases h with
  | number hplain =>
      exfalso
      cases hplain with
      | whole _ hds => exact absurd (hds _ hmem) (by decide)
      | pointed _ hds _ hfs =>
          rcases List.mem_append.mp hmem with hmem | hmem
          · exact absurd (hds _ hmem) (by decide)
          · rcases List.mem_cons.mp hmem with heq | hmem
            · exact absurd heq (by decide)
            · exact absurd (hfs _ hmem) (by decide)
  | symbol _ hword => exact absurd (hword _ hmem) (by decide)
  | string _ =>
      obtain ⟨c, cs, rfl⟩ := List.exists_cons_of_ne_nil hne
      obtain rfl : c = '"' := (List.cons.inj hall).1
      exact .inr ⟨rfl, rfl⟩
  | blanks _ hblank =>
      subst hall
      exact .inl ⟨rfl, fun c hc => hblank c (List.mem_append_left _ hc)⟩
  | comment hrun =>
      exfalso
      have hrest := List.mem_of_ne_of_mem (by decide) (List.mem_of_ne_of_mem (by decide) hmem)
      exact hrun _ hrest rfl
  | _ => exact absurd hmem (by decide)

/-- Only string literals begin with a quote. -/
theorem Spelled.eq_string (h : Spelled k run) (hquote : run.head? = some '"') : k = .string := by
  cases h with
  | number hplain =>
      obtain ⟨d, ds, rfl, hd⟩ := hplain.exists_cons
      obtain rfl : d = '"' := by simpa using hquote
      exact absurd hd (by decide)
  | symbol _ hall =>
      exact absurd (hall '"' (List.mem_of_mem_head? hquote)) (by decide)
  | string _ => rfl
  | blanks _ hblank =>
      exact absurd (hblank '"' (List.mem_of_mem_head? hquote)) (by decide)
  | _ => simp at hquote

/-! ### The prescribed piece -/

/-- What begins with no quote and holds more than blanks has no other kinds at its front when a line
comes behind. -/
theorem Absent.spelled_line (h : Absent (Spelled k) cs) (hne : cs ≠ [])
    (hquote : k = .string → cs.head? ≠ some '"') : Absent (Spelled k) (cs ++ '\n' :: ds) := by
  refine h.line fun more hspelled => ?_
  rcases hspelled.over_line hne with ⟨rfl, hblank⟩ | ⟨hk, hhead⟩
  · exact h cs (List.prefix_refl cs) (.blanks hne hblank)
  · exact hquote hk hhead

/-- No string literal goes on behind another. -/
theorem Spelled.length_string_eq {other : List Char} (h : Spelled .string run)
    (h' : Spelled .string other) (hrun : run <+: cs) (hother : other <+: cs) :
    run.length = other.length := by
  rw [← stringLength_of_spelled hrun h, stringLength_of_spelled hother h']

/-- **The piece before a line.** A piece that is not of blanks is prescribed as well when a line
comes behind. -/
theorem Prescribed.line (h : Prescribed operators cs kind run) (hops : KeepsLines operators)
    (hne : run ≠ []) (hblank : ¬ (kind = .layout ∧ ∀ c ∈ run, isBlank c)) :
    Prescribed operators (cs ++ '\n' :: ds) kind run := by
  have hhead : cs.head? = run.head? := by
    obtain ⟨c, run, rfl⟩ := List.exists_cons_of_ne_nil hne
    obtain ⟨rest, rfl⟩ := h.front
    rfl
  have hcs : cs ≠ [] := by
    rintro rfl
    exact hne (List.prefix_nil.mp h.front)
  cases h with
  | @builtin earlier later kind run horder hearlier hlongest =>
      refine .builtin horder (fun k hk => (hearlier k hk).spelled_line hcs ?_) (hlongest.line ?_)
      · -- A piece that begins with a quote is a string literal, so none was absent.
        rintro rfl hquote
        obtain rfl := hlongest.holds.eq_string (hhead ▸ hquote)
        exact hlongest.not_absent (hearlier _ hk)
      · intro more hmore hspelled
        rcases hspelled.over_line hcs with ⟨rfl, hall⟩ | ⟨rfl, -⟩
        · exact hblank ⟨rfl, fun c hc => hall c (hlongest.front.subset hc)⟩
        · have hlength := hlongest.holds.length_string_eq hspelled
            (hlongest.front.trans (List.prefix_append cs _)) hmore
          have hle := hlongest.front.length_le
          simp only [List.length_append, List.length_cons] at hlength
          omega
  | @operator run hnone hlongest =>
      obtain ⟨op, hop, hrun⟩ := hlongest.holds
      refine .operator (fun k hk => (hnone k hk).spelled_line hcs ?_) (hlongest.line ?_)
      · rintro - hquote
        rw [hhead, ← hrun] at hquote
        exact hops.quote op hop hquote
      · rintro more - ⟨op', hop', hover⟩
        exact hops.line op' hop' (by simp [hover])

/-! ### Scanning over a line break -/

/-- Blanks up to the first other character make no token. -/
theorem scan_all_blanks (hrun : ∀ c ∈ run, isBlank c) (hds : ∀ c ∈ ds.head?, isBlank c = false)
    (offset : Nat) :
    scan (longestFirst operators) offset (run ++ ds) =
      scan (longestFirst operators) (offset + byteWidth run) ds := by
  by_cases hne : run = []
  · subst hne
    rfl
  · rw [scan_builtin hne (builtin?_blanks hne hrun hds)]
    cases scan (longestFirst operators) (offset + byteWidth run) ds <;> rfl

/-- Blanks make no token, whatever follows them. -/
theorem scan_blanks (hrun : ∀ c ∈ run, isBlank c) (offset : Nat) (ds : List Char) :
    scan (longestFirst operators) offset (run ++ ds) =
      scan (longestFirst operators) (offset + byteWidth run) ds := by
  -- More blanks may follow: they go into one piece with the run.
  have hsplit := List.takeWhile_append_dropWhile (p := isBlank) (l := ds)
  have hmore : ∀ c ∈ ds.takeWhile isBlank, isBlank c := fun c hc => List.mem_takeWhile_imp hc
  have hend : ∀ c ∈ (ds.dropWhile isBlank).head?, isBlank c = false := by
    intro c hc
    have hnot := List.head?_dropWhile_not isBlank ds
    rw [hc] at hnot
    simpa using hnot
  have hall : ∀ c ∈ run ++ ds.takeWhile isBlank, isBlank c := by
    intro c hc
    exact (List.mem_append.mp hc).elim (hrun c) (hmore c)
  calc scan (longestFirst operators) offset (run ++ ds)
      = scan (longestFirst operators) offset
          (run ++ ds.takeWhile isBlank ++ ds.dropWhile isBlank) := by
        rw [List.append_assoc, hsplit]
    _ = scan (longestFirst operators) (offset + byteWidth run + byteWidth (ds.takeWhile isBlank))
          (ds.dropWhile isBlank) := by
        rw [scan_all_blanks hall hend, byteWidth_append, Nat.add_assoc]
    _ = scan (longestFirst operators) (offset + byteWidth run) ds := by
        rw [← scan_all_blanks hmore hend, hsplit]

theorem byteWidth_line_break : byteWidth ['\n'] = 1 := by decide

/-- Scanning gives the tokens of a text and goes on with the line behind it. -/
theorem Tiles.scan_line {segments : List Segment} (h : Tiles operators cs segments [])
    (hops : KeepsLines operators) (offset : Nat) (ds : List Char) :
    scan (longestFirst operators) offset (cs ++ '\n' :: ds) =
      (scan (longestFirst operators) (offset + byteWidth cs + 1) ds).map
        (segmentTokens offset segments ++ ·) := by
  induction segments generalizing cs offset with
  | nil =>
      cases h
      have hbreak : ∀ c ∈ ['\n'], isBlank c := List.forall_mem_singleton.mpr rfl
      rw [List.nil_append, ← List.singleton_append, scan_blanks hbreak, byteWidth_line_break]
      simp only [byteWidth_nil, Nat.add_zero, segmentTokens, List.nil_append]
      cases scan (longestFirst operators) (offset + 1) ds <;> rfl
  | cons s segments ih =>
      cases h with
      | @cons kind run cs _ _ hne hpiece htiles =>
          have ih' := ih htiles (offset + byteWidth run)
          rw [List.append_assoc, byteWidth_append, ← Nat.add_assoc offset]
          by_cases hblank : kind = .layout ∧ ∀ c ∈ run, isBlank c
          · obtain ⟨rfl, hrun⟩ := hblank
            rw [scan_blanks hrun, ih']
            rfl
          · have hpiece' : Prescribed operators (run ++ cs ++ '\n' :: ds) kind run :=
              hpiece.line hops hne hblank
            rw [List.append_assoc] at hpiece'
            rw [scan_run hne (piece?_of_prescribed hops.ne_empty hpiece'), ih']
            exact map_emit_segmentTokens kind run segments offset _

/-! ### Two texts -/

variable {source : String} {ts : List Token}

/-- **Text on another line.** The tokens of a source text stay when a line comes behind it, and the
tokens of the line come behind them. -/
theorem tokenize_line (hops : KeepsLines operators) (h : tokenize operators source = .ok ts)
    (line : String) :
    tokenize operators (source ++ "\n" ++ line) =
      (scan (longestFirst operators) (byteWidth source.toList + 1) line.toList).map (ts ++ ·) := by
  obtain ⟨segments, htiles, rfl⟩ := exists_tiles_of_scan hops.ne_empty h
  have hscan := htiles.scan_line hops 0 line.toList
  rw [Nat.zero_add] at hscan
  have hchars : (source ++ "\n" ++ line).toList = source.toList ++ '\n' :: line.toList := by simp
  rw [tokenize, hchars, hscan]

/-- Tokens lie in the text that they are scanned from. -/
theorem offset_lt_of_scan (hops : ∀ op ∈ operators, op ≠ "")
    (h : scan (longestFirst operators) offset cs = .ok ts) :
    ∀ t ∈ ts, offset ≤ t.offset ∧ t.offset < offset + byteWidth cs := by
  obtain ⟨segments, htiles, rfl⟩ := exists_tiles_of_scan hops h
  exact htiles.offset_lt offset

end Reduct.Token
