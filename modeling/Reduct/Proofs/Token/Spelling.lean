import Reduct.Proofs.Token.Pieces

/-!
# How tokens are spelled

Each built-in kind has a language, said here without the scanner (`Spelled`): digits with or
without a fraction, runs of word characters, literals between quotes, blanks or a comment, and
single characters of punctuation. What the scanner measures at the front of a text is the longest
text there in the language of the kind (`reaches_length`). So the piece that it takes is the one
that the order of the kinds prescribes, and an operator only where no kind stands, of those that
stand there the longest (`prescribed_of_piece?`).

That a piece is prescribed depends on the texts at the front only, so it is prescribed as well when
the text behind it is cut (`Prescribed.of_front`).
-/

namespace Reduct.Token

open Text Numeral

variable {P Q : List Char → Prop} {cs ds run other : List Char} {n : Nat}

/-! ### The longest text at the front -/

/-- Nothing with the property `P` stands at the front of `cs`. -/
def Absent (P : List Char → Prop) (cs : List Char) : Prop := ∀ run, run <+: cs → ¬ P run

/-- Of what has the property `P`, `run` is the longest at the front of `cs`. -/
structure Longest (P : List Char → Prop) (run cs : List Char) : Prop where
  front : run <+: cs
  holds : P run
  longest : ∀ other, other <+: cs → P other → other.length ≤ run.length

/-- What has the property `P` reaches `n` characters far into `cs`, and not at all if `n` is
zero. -/
inductive Reaches (P : List Char → Prop) (cs : List Char) : Nat → Prop
  | absent : Absent P cs → Reaches P cs 0
  | longest {run : List Char} : run ≠ [] → Longest P run cs → Reaches P cs run.length

theorem Absent.of_front (h : Absent P cs) (hds : ds <+: cs) : Absent P ds :=
  fun run hrun => h run (hrun.trans hds)

theorem Longest.of_front (h : Longest P run cs) (hds : ds <+: cs) (hrun : run <+: ds) :
    Longest P run ds where
  front := hrun
  holds := h.holds
  longest other hother := h.longest other (hother.trans hds)

theorem Longest.unique (h : Longest P run cs) (h' : Longest P other cs) : run = other := by
  have hlength : run.length = other.length :=
    Nat.le_antisymm (h'.longest run h.front h.holds) (h.longest other h'.front h'.holds)
  have hfront : run <+: other := List.prefix_of_prefix_length_le h.front h'.front hlength.le
  exact hfront.eq_of_length hlength

theorem Longest.not_absent (h : Longest P run cs) : ¬ Absent P cs :=
  fun habsent => habsent run h.front h.holds

theorem Reaches.congr (h : Reaches P cs n) (hPQ : ∀ run, run <+: cs → (P run ↔ Q run)) :
    Reaches Q cs n := by
  cases h with
  | absent habsent => exact .absent fun run hrun hQ => habsent run hrun ((hPQ run hrun).mpr hQ)
  | longest hne hlongest =>
      refine .longest hne ⟨hlongest.front, (hPQ _ hlongest.front).mp hlongest.holds, ?_⟩
      intro other hother hQ
      exact hlongest.longest other hother ((hPQ other hother).mpr hQ)

theorem Reaches.absent_of_zero (h : Reaches P cs n) (hn : n = 0) : Absent P cs := by
  cases h with
  | absent habsent => exact habsent
  | longest hne _ => exact absurd (List.length_eq_zero_iff.mp hn) hne

theorem Reaches.exists_longest (h : Reaches P cs n) (hn : n ≠ 0) :
    ∃ run, run.length = n ∧ run ≠ [] ∧ Longest P run cs := by
  cases h with
  | absent _ => exact absurd rfl hn
  | longest hne hlongest => exact ⟨_, rfl, hne, hlongest⟩

/-- A run of characters of one class reaches as far as the class goes on. -/
theorem reaches_takeWhile (p : Char → Bool) (cs : List Char) :
    Reaches (fun run => run ≠ [] ∧ ∀ c ∈ run, p c) cs (cs.takeWhile p).length := by
  have hlongest : ∀ other, other <+: cs → (∀ c ∈ other, p c) →
      other.length ≤ (cs.takeWhile p).length := by
    rintro other ⟨rest, rfl⟩ hother
    rw [List.takeWhile_append_of_pos hother, List.length_append]
    exact Nat.le_add_right _ _
  by_cases hne : cs.takeWhile p = []
  · rw [hne]
    refine .absent fun run hrun ⟨hrunne, hp⟩ => hrunne ?_
    have := hlongest run hrun hp
    simpa [hne] using this
  · refine .longest hne ⟨List.takeWhile_prefix p, ⟨hne, ?_⟩, fun other h hp => ?_⟩
    · exact fun c hc => List.mem_takeWhile_imp hc
    · exact hlongest other h hp.2

/-! ### The languages of the kinds -/

/-- The texts that the built-in kinds are spelled as. -/
inductive Spelled : Kind → List Char → Prop
  | number {ds : List Char} : Plain ds → Spelled .number ds
  | symbol {run : List Char} : run ≠ [] → (∀ c ∈ run, isWord c) → Spelled .symbol run
  | string {body : List Char} : Literal body → Spelled .string ('"' :: (body ++ ['"']))
  | blanks {run : List Char} : run ≠ [] → (∀ c ∈ run, isBlank c) → Spelled .layout run
  | comment {run : List Char} : (∀ c ∈ run, c ≠ '\n') → Spelled .layout ('/' :: '/' :: run)
  | comma : Spelled .comma [',']
  | openBracket : Spelled .openBracket ['[']
  | openGroup : Spelled .openGroup ['(']
  | closeBracket : Spelled .closeBracket [']']
  | closeGroup : Spelled .closeGroup [')']

/-! ### How far each kind reaches -/

/-- A number with a point has all the digits at the front before the point. -/
theorem split_of_pointed {fs : List Char} (hds : ∀ d ∈ ds, d.isDigit)
    (h : ds ++ '.' :: fs <+: cs) :
    cs.takeWhile Char.isDigit = ds ∧ ∃ rest, cs.dropWhile Char.isDigit = '.' :: (fs ++ rest) := by
  obtain ⟨rest, rfl⟩ := h
  rw [List.append_assoc, List.cons_append]
  exact ⟨takeWhile_run _ hds (by simp), rest, dropWhile_run _ hds (by simp)⟩

/-- Without digits on both sides of a point, a number is the digits at the front. -/
theorem reaches_whole (h : ∀ us, cs.dropWhile Char.isDigit = '.' :: us →
      cs.takeWhile Char.isDigit = [] ∨ us.takeWhile Char.isDigit = []) :
    Reaches Plain cs (cs.takeWhile Char.isDigit).length := by
  refine (reaches_takeWhile Char.isDigit cs).congr fun run hrun =>
    ⟨fun hrun => .whole hrun.1 hrun.2, fun hplain => ?_⟩
  cases hplain with
  | whole hne hds => exact ⟨hne, hds⟩
  | @pointed ds fs hne hds hfne hfs =>
      obtain ⟨rfl, rest, hrest⟩ := split_of_pointed hds hrun
      have hnone := (h _ hrest).resolve_left hne
      rw [List.takeWhile_append_of_pos hfs] at hnone
      exact absurd (List.append_eq_nil_iff.mp hnone).1 hfne

/-- With digits on both sides of a point, a number goes on to the last of them. -/
theorem reaches_pointed {us : List Char} (hus : cs.dropWhile Char.isDigit = '.' :: us)
    (hne : cs.takeWhile Char.isDigit ≠ []) (hfne : us.takeWhile Char.isDigit ≠ []) :
    Reaches Plain cs (cs.takeWhile Char.isDigit ++ '.' :: us.takeWhile Char.isDigit).length := by
  have hfront : cs.takeWhile Char.isDigit ++ '.' :: us.takeWhile Char.isDigit <+: cs := by
    have hsplit := List.takeWhile_append_dropWhile (p := Char.isDigit) (l := cs)
    rw [hus] at hsplit
    conv_rhs => rw [← hsplit]
    exact (List.prefix_append_right_inj _).mpr
      (List.cons_prefix_cons.mpr ⟨rfl, List.takeWhile_prefix _⟩)
  have hplain : Plain (cs.takeWhile Char.isDigit ++ '.' :: us.takeWhile Char.isDigit) :=
    .pointed hne (fun _ => List.mem_takeWhile_imp) hfne (fun _ => List.mem_takeWhile_imp)
  refine .longest (by simp) ⟨hfront, hplain, fun other hother hplain' => ?_⟩
  cases hplain' with
  | whole _ hds =>
      obtain ⟨rest, rfl⟩ := hother
      rw [List.takeWhile_append_of_pos hds, List.length_append, List.length_append]
      omega
  | @pointed ds fs _ hds _ hfs =>
      obtain ⟨rfl, rest, hrest⟩ := split_of_pointed hds hother
      obtain rfl : us = fs ++ rest := (List.cons.inj (hus.symm.trans hrest)).2
      rw [List.takeWhile_append_of_pos hfs]
      simp only [List.length_append, List.length_cons]
      omega

theorem reaches_number (cs : List Char) : Reaches Plain cs (numberLength cs) := by
  simp only [numberLength]
  split
  next us hus =>
    have hsame : ∀ us', cs.dropWhile Char.isDigit = '.' :: us' → us' = us :=
      fun us' hus' => (List.cons.inj (hus'.symm.trans hus)).2
    split
    next hnone =>
      rw [List.length_eq_zero_iff, List.length_eq_zero_iff] at hnone
      exact reaches_whole fun us' hus' => by rwa [hsame us' hus']
    next hsome =>
      rw [List.length_eq_zero_iff, List.length_eq_zero_iff] at hsome
      obtain ⟨hne, hfne⟩ := not_or.mp hsome
      have hreaches := reaches_pointed hus hne hfne
      rwa [List.length_append, List.length_cons, Nat.add_comm (us.takeWhile _).length 1,
        ← Nat.add_assoc] at hreaches
  next hnone => exact reaches_whole fun us hus => absurd hus (hnone us)

theorem exists_literal (h : closingLength? cs = some n) :
    ∃ body rest, Literal body ∧ cs = body ++ '"' :: rest ∧ n = body.length + 1 := by
  fun_induction closingLength? cs generalizing n with
  | case1 => simp at h
  | case2 rest => exact ⟨[], rest, .nil, rfl, by simpa [eq_comm] using h⟩
  | case3 => simp at h
  | case4 c cs hc ih =>
      obtain ⟨m, hm, rfl⟩ := Option.map_eq_some_iff.mp h
      obtain ⟨body, rest, hbody, rfl, rfl⟩ := ih hm
      exact ⟨'\\' :: c :: body, rest, .escaped hc hbody, rfl, by simp⟩
  | case5 => simp at h
  | case6 c cs hquote hback hlone ih =>
      obtain ⟨m, hm, rfl⟩ := Option.map_eq_some_iff.mp h
      obtain ⟨body, rest, hbody, rfl, rfl⟩ := ih hm
      refine ⟨c :: body, rest, .plain hquote ?_ hbody, rfl, by simp⟩
      rintro rfl
      cases body with
      | nil => exact hback '"' rest rfl rfl
      | cons d body => exact hback d (body ++ '"' :: rest) rfl rfl

/-- Literals are read to the first quote that closes them, so none goes on behind another. -/
theorem stringLength_of_spelled (hrun : run <+: cs) (h : Spelled .string run) :
    stringLength cs = run.length := by
  obtain ⟨rest, rfl⟩ := hrun
  cases h with
  | string hbody => simp [stringLength, closingLength?_literal hbody]

theorem reaches_string (cs : List Char) : Reaches (Spelled .string) cs (stringLength cs) := by
  by_cases hnone : stringLength cs = 0
  · rw [hnone]
    refine .absent fun run hrun h => ?_
    have hlength := (stringLength_of_spelled hrun h).symm.trans hnone
    cases h with
    | string _ => simp at hlength
  · obtain ⟨run, hrun, hspelled⟩ : ∃ run, run <+: cs ∧ Spelled .string run := by
      unfold stringLength at hnone
      split at hnone
      next ds =>
        split at hnone
        next n hn =>
          obtain ⟨body, rest, hbody, rfl, -⟩ := exists_literal hn
          exact ⟨'"' :: (body ++ ['"']), ⟨rest, by simp⟩, .string hbody⟩
        next => exact absurd rfl hnone
      next => exact absurd rfl hnone
    rw [stringLength_of_spelled hrun hspelled] at hnone ⊢
    refine .longest (fun hnil => hnone (by simp [hnil])) ⟨hrun, hspelled, ?_⟩
    intro other hother h
    rw [← stringLength_of_spelled hother h, stringLength_of_spelled hrun hspelled]

theorem reaches_layout (cs : List Char) : Reaches (Spelled .layout) cs (layoutLength cs) := by
  unfold layoutLength
  split
  next ds =>
    have hlength : (ds.takeWhile (· != '\n')).length + 2 =
        ('/' :: '/' :: ds.takeWhile (· != '\n')).length := rfl
    have hfront : '/' :: '/' :: ds.takeWhile (· != '\n') <+: '/' :: '/' :: ds :=
      List.cons_prefix_cons.mpr ⟨rfl, List.cons_prefix_cons.mpr ⟨rfl, List.takeWhile_prefix _⟩⟩
    rw [hlength]
    refine .longest (by simp) ⟨hfront, .comment fun c hc => ?_, ?_⟩
    · have := List.mem_takeWhile_imp hc
      simpa using this
    · rintro other ⟨rest, hrest⟩ h
      cases h with
      | blanks hne hblank =>
          -- Blanks do not begin with a slash.
          obtain ⟨c, other, rfl⟩ := List.exists_cons_of_ne_nil hne
          obtain rfl : c = '/' := (List.cons.inj hrest).1
          exact absurd (hblank '/' (by simp)) (by decide)
      | @comment run hrun =>
          obtain rfl : ds = run ++ rest := by simpa using hrest.symm
          have hrun' : ∀ c ∈ run, (c != '\n') = true := fun c hc => by simpa using hrun c hc
          simp [List.takeWhile_append_of_pos hrun']
  next hslashes =>
    refine (reaches_takeWhile isBlank cs).congr fun run hrun =>
      ⟨fun h => .blanks h.1 h.2, fun h => ?_⟩
    cases h with
    | blanks hne hblank => exact ⟨hne, hblank⟩
    | @comment run _ =>
        obtain ⟨rest, rfl⟩ := hrun
        exact absurd rfl (hslashes (run ++ rest))

theorem reaches_char (c : Char) (cs : List Char) : Reaches (· = [c]) cs (charLength c cs) := by
  unfold charLength
  split
  next h =>
    refine .longest (List.cons_ne_nil c []) ⟨?_, rfl, ?_⟩
    · obtain ⟨rest, rfl⟩ : ∃ rest, cs = c :: rest := List.head?_eq_some_iff.mp h
      exact ⟨rest, rfl⟩
    · rintro other - rfl
      exact le_rfl
  next h =>
    refine .absent ?_
    rintro run ⟨rest, rfl⟩ rfl
    exact h rfl

/-- **Measuring.** What the scanner measures for a kind is how far the language of the kind
reaches. -/
theorem reaches_length (kind : Kind) (cs : List Char) :
    Reaches (Spelled kind) cs (kind.length cs) := by
  have hchar : ∀ {c : Char}, (∀ run, Spelled kind run ↔ run = [c]) →
      Reaches (Spelled kind) cs (charLength c cs) :=
    fun h => (reaches_char _ cs).congr fun run _ => (h run).symm
  cases kind with
  | number =>
      exact (reaches_number cs).congr fun run _ => ⟨.number, fun h => by cases h; assumption⟩
  | symbol =>
      refine (reaches_takeWhile isWord cs).congr fun run _ =>
        ⟨fun h => .symbol h.1 h.2, fun h => ?_⟩
      cases h with
      | symbol hne hword => exact ⟨hne, hword⟩
  | string => exact reaches_string cs
  | layout => exact reaches_layout cs
  | comma => exact hchar fun run => ⟨fun h => by cases h; rfl, fun h => h ▸ .comma⟩
  | openBracket => exact hchar fun run => ⟨fun h => by cases h; rfl, fun h => h ▸ .openBracket⟩
  | openGroup => exact hchar fun run => ⟨fun h => by cases h; rfl, fun h => h ▸ .openGroup⟩
  | closeBracket => exact hchar fun run => ⟨fun h => by cases h; rfl, fun h => h ▸ .closeBracket⟩
  | closeGroup => exact hchar fun run => ⟨fun h => by cases h; rfl, fun h => h ▸ .closeGroup⟩
  | operator => exact .absent fun run _ h => by cases h

/-! ### The piece prescribed at the front -/

/-- The text is one of the operators. -/
abbrev IsOperator (operators : List String) (run : List Char) : Prop :=
  ∃ op ∈ operators, op.toList = run

/-- The piece that the priority rule prescribes at the front of `cs`: the longest text of the
first built-in kind that stands there, and if none does the longest operator. -/
inductive Prescribed (operators : List String) (cs : List Char) : Kind → List Char → Prop
  | builtin {earlier later : List Kind} {kind : Kind} {run : List Char} :
      builtins = earlier ++ kind :: later → (∀ k ∈ earlier, Absent (Spelled k) cs) →
        Longest (Spelled kind) run cs → Prescribed operators cs kind run
  | operator {run : List Char} : (∀ k ∈ builtins, Absent (Spelled k) cs) →
      Longest (IsOperator operators) run cs → Prescribed operators cs .operator run

/-- No piece stands at the front of `cs`, neither of a built-in kind nor an operator. -/
structure Unrecognized (operators : List String) (cs : List Char) : Prop where
  builtin : ∀ k ∈ builtins, Absent (Spelled k) cs
  operator : Absent (IsOperator operators) cs

variable {operators : List String} {kind kind' : Kind}

theorem Prescribed.front (h : Prescribed operators cs kind run) : run <+: cs := by
  cases h with
  | builtin _ _ hlongest => exact hlongest.front
  | operator _ hlongest => exact hlongest.front

/-- Cutting the text behind the piece changes nothing. -/
theorem Prescribed.of_front (h : Prescribed operators cs kind run) (hds : ds <+: cs)
    (hrun : run <+: ds) : Prescribed operators ds kind run := by
  cases h with
  | builtin horder hearlier hlongest =>
      exact .builtin horder (fun k hk => (hearlier k hk).of_front hds) (hlongest.of_front hds hrun)
  | operator hnone hlongest =>
      exact .operator (fun k hk => (hnone k hk).of_front hds) (hlongest.of_front hds hrun)

theorem Prescribed.not_unrecognized (h : Prescribed operators cs kind run) :
    ¬ Unrecognized operators cs := by
  intro hnone
  cases h with
  | builtin horder _ hlongest =>
      exact hlongest.not_absent (hnone.builtin kind (by rw [horder]; simp))
  | operator _ hlongest => exact hlongest.not_absent hnone.operator

/-- The rule prescribes one piece at most. -/
theorem Prescribed.unique (h : Prescribed operators cs kind run)
    (h' : Prescribed operators cs kind' other) : kind = kind' ∧ run = other := by
  cases h with
  | @builtin earlier later kind run horder hearlier hlongest =>
      cases h' with
      | @builtin earlier' later' kind' other horder' hearlier' hlongest' =>
          obtain ⟨ks, hks, htail⟩ | ⟨ks, hks, htail⟩ :=
            List.append_eq_append_iff.mp (horder.symm.trans horder')
          · cases ks with
            | nil =>
                obtain ⟨rfl, -⟩ := List.cons.inj htail
                exact ⟨rfl, hlongest.unique hlongest'⟩
            | cons k ks =>
                obtain ⟨rfl, -⟩ := List.cons.inj htail
                exact absurd (hearlier' kind (by rw [hks]; simp)) hlongest.not_absent
          · cases ks with
            | nil =>
                obtain ⟨rfl, -⟩ := List.cons.inj htail
                exact ⟨rfl, hlongest.unique hlongest'⟩
            | cons k ks =>
                obtain ⟨rfl, -⟩ := List.cons.inj htail
                exact absurd (hearlier kind' (by rw [hks]; simp)) hlongest'.not_absent
      | operator hnone _ =>
          exact absurd (hnone kind (by rw [horder]; simp)) hlongest.not_absent
  | operator hnone hlongest =>
      cases h' with
      | builtin horder' _ hlongest' =>
          exact absurd (hnone kind' (by rw [horder']; simp)) hlongest'.not_absent
      | operator _ hlongest' => exact ⟨rfl, hlongest.unique hlongest'⟩

/-! ### The piece that the scanner takes -/

theorem exists_of_builtin? (h : builtin? cs = some (kind, n)) :
    ∃ run, run.length = n ∧ run ≠ [] ∧ Prescribed operators cs kind run := by
  obtain ⟨earlier, k, later, horder, hk, hearlier⟩ := List.findSome?_eq_some_iff.mp h
  split at hk
  next => simp at hk
  next hne =>
    obtain ⟨rfl, rfl⟩ : k = kind ∧ k.length cs = n := by simpa using hk
    obtain ⟨run, hrun, hrunne, hlongest⟩ := (reaches_length k cs).exists_longest hne
    refine ⟨run, hrun, hrunne, .builtin horder (fun k' hk' => ?_) hlongest⟩
    have hzero := hearlier k' hk'
    exact (reaches_length k' cs).absent_of_zero (by simpa using hzero)

theorem absent_of_builtin?_eq_none (h : builtin? cs = none) :
    ∀ k ∈ builtins, Absent (Spelled k) cs := by
  intro k hk
  have hzero := List.findSome?_eq_none_iff.mp h k hk
  exact (reaches_length k cs).absent_of_zero (by simpa using hzero)

theorem byteWidth_lt_of_front (hrun : run <+: other) (hlength : run.length < other.length) :
    byteWidth run < byteWidth other := by
  obtain ⟨rest, rfl⟩ := hrun
  cases rest with
  | nil => simp at hlength
  | cons c rest =>
      have := c.utf8Size_pos
      simp only [byteWidth_append, byteWidth_cons]
      omega

/-- The first operator that stands at the front, from the longest on, is the longest one. -/
theorem longest_of_find? (h : ((longestFirst operators).find?
      fun op => !op.isEmpty && op.isPrefixOf cs) = some run) :
    run ≠ [] ∧ Longest (IsOperator operators) run cs := by
  have hsorted : (longestFirst operators).Pairwise
      fun a b => decide (byteWidth b ≤ byteWidth a) = true :=
    List.pairwise_mergeSort
      (fun a b c hab hbc => by simp only [decide_eq_true_eq] at hab hbc ⊢; omega)
      (fun a b => by simp only [Bool.or_eq_true, decide_eq_true_eq]; omega) _
  obtain ⟨hrun, before, after, heq, hbefore⟩ := List.find?_eq_some_iff_append.mp h
  obtain ⟨hne, hfront⟩ : run ≠ [] ∧ run <+: cs := by simpa using hrun
  refine ⟨hne, hfront, mem_longestFirst.mp (by rw [heq]; simp), ?_⟩
  intro other hother hop
  by_contra hlt
  -- A longer one has more bytes, so it comes before, where none stands at the front.
  have hlonger : run <+: other := List.prefix_of_prefix_length_le hfront hother (by omega)
  have hwidth := byteWidth_lt_of_front hlonger (by omega)
  rw [IsOperator, ← mem_longestFirst, heq] at hop
  rw [heq] at hsorted
  rcases List.mem_append.mp hop with hop | hop
  · have hnot := hbefore other hop
    have hothernil : other ≠ [] := by rintro rfl; simp at hlt
    simp [hothernil, List.isPrefixOf_iff_prefix.mpr hother] at hnot
  · rcases List.mem_cons.mp hop with rfl | hop
    · exact hlt le_rfl
    · have := List.rel_of_pairwise_cons (List.pairwise_append.mp hsorted).2.1 hop
      simp only [decide_eq_true_eq] at this
      omega

/-- **Priority.** The piece that the scanner takes is the prescribed one. -/
theorem prescribed_of_piece? (h : piece? (longestFirst operators) cs = some (kind, n)) :
    ∃ run, run.length = n ∧ run ≠ [] ∧ Prescribed operators cs kind run := by
  rw [piece?] at h
  cases hbuiltin : builtin? cs with
  | some hit =>
      obtain rfl : hit = (kind, n) := by simpa [hbuiltin] using h
      exact exists_of_builtin? hbuiltin
  | none =>
      obtain ⟨run, hfind, hhit⟩ : ∃ run, ((longestFirst operators).find?
          fun op => !op.isEmpty && op.isPrefixOf cs) = some run ∧ (.operator, run.length) =
            (kind, n) := by
        simpa [hbuiltin] using h
      obtain ⟨rfl, rfl⟩ := Prod.mk.inj hhit
      obtain ⟨hne, hlongest⟩ := longest_of_find? hfind
      exact ⟨run, rfl, hne, .operator (absent_of_builtin?_eq_none hbuiltin) hlongest⟩

/-- Where the scanner takes nothing, nothing stands. -/
theorem unrecognized_of_piece?_eq_none (hops : ∀ op ∈ operators, op ≠ "")
    (h : piece? (longestFirst operators) cs = none) : Unrecognized operators cs := by
  obtain ⟨hbuiltin, hfind⟩ := piece?_eq_none_iff.mp h
  refine ⟨absent_of_builtin?_eq_none hbuiltin, ?_⟩
  rintro run hrun ⟨op, hop, rfl⟩
  have hmem : op.toList ∈ longestFirst operators := mem_longestFirst.mpr ⟨op, hop, rfl⟩
  have hnot := List.find?_eq_none.mp hfind op.toList hmem
  simp [hops op hop, hrun] at hnot

theorem piece?_of_prescribed (hops : ∀ op ∈ operators, op ≠ "")
    (h : Prescribed operators cs kind run) :
    piece? (longestFirst operators) cs = some (kind, run.length) := by
  cases hpiece : piece? (longestFirst operators) cs with
  | none => exact absurd (unrecognized_of_piece?_eq_none hops hpiece) h.not_unrecognized
  | some hit =>
      obtain ⟨other, hlength, -, hother⟩ := prescribed_of_piece? hpiece
      obtain ⟨hkind, rfl⟩ := h.unique hother
      exact congrArg some (Prod.ext hkind.symm hlength.symm)

end Reduct.Token
