import Reduct.Proofs.Number.ReadBack
import Reduct.Token.Scan
import Reduct.Text.Quoted

/-!
# The pieces of a source text

What the scanner finds at the front of a text that begins with plain digits, a name, a string
literal or a single character of punctuation. Each kind is decided by the first character
(`numberLength_of_head` and its siblings say which it rules out), and how far it reaches by what
comes behind the run (`Stops`). `scan_run` is the step: one piece goes, and scanning goes on
behind it.
-/

namespace Reduct.Text

/-! ### Word characters and blanks -/

theorem inRanges_disjoint {r s : CodeRanges}
    (h : ∀ a ∈ r, ∀ b ∈ s, a.2 < b.1 ∨ b.2 < a.1) {c : Char} (hr : inRanges r c) :
    inRanges s c = false := by
  rw [Bool.eq_false_iff]
  intro hs
  simp only [inRanges, List.any_eq_true, Bool.and_eq_true, decide_eq_true_eq] at hr hs
  obtain ⟨a, ha, hlo, hhi⟩ := hr
  obtain ⟨b, hb, hlo', hhi'⟩ := hs
  rcases h a ha b hb with h | h <;> omega

theorem isBlank_of_ascii :
    ∀ n < 0x80, ((Char.ofNat n).isAlphanum || Char.ofNat n == '_') →
      isBlank (Char.ofNat n) = false := by
  decide

/-- No word character is a blank. -/
theorem isBlank_of_isWord {c : Char} (h : isWord c) : isBlank c = false := by
  rw [Bool.eq_false_iff]
  intro hblank
  have hword : inRanges wordRanges c = false :=
    inRanges_disjoint (by decide +kernel) hblank
  rw [isWord] at h
  split at h
  next hlt =>
    have hascii := isBlank_of_ascii c.toNat hlt (by rwa [Char.ofNat_toNat])
    rw [Char.ofNat_toNat, hblank] at hascii
    exact absurd hascii (by simp)
  next => exact absurd h (by simp [hword])

theorem isWord_of_isBlank {c : Char} (h : isBlank c) : isWord c = false := by
  rw [Bool.eq_false_iff]
  intro hword
  exact absurd h (by simp [isBlank_of_isWord hword])

theorem isWord_of_isDigit {c : Char} (h : c.isDigit) : isWord c := by
  have hlt : c.toNat < 0x80 := by
    have := (Char.isDigit_iff_toNat.mp h).2
    simp only [Char.reduceToNat] at this
    omega
  simp [isWord, hlt, Char.isAlphanum, h]

end Reduct.Text

namespace Reduct.Token

open Text Numeral

/-- What can follow an atom: nothing, or a bracket or comma. -/
def Stops (rest : List Char) : Prop := ∀ c ∈ rest.head?, c = '[' ∨ c = ',' ∨ c = ']'

variable {c : Char} {cs rest : List Char}

theorem Stops.head_eq_false {p : Char → Bool} (h : Stops rest)
    (hp : p '[' = false ∧ p ',' = false ∧ p ']' = false) : ∀ c ∈ rest.head?, p c = false := by
  intro c hc
  rcases h c hc with rfl | rfl | rfl
  · exact hp.1
  · exact hp.2.1
  · exact hp.2.2

/-! ### What a first character rules out -/

theorem numberLength_of_head (cs : List Char) (h : c.isDigit = false) :
    numberLength (c :: cs) = 0 := by
  simp only [numberLength, List.takeWhile_cons, List.dropWhile_cons, h, Bool.false_eq_true,
    if_false, List.length_nil]
  split <;> simp

theorem symbolLength_of_head (cs : List Char) (h : isWord c = false) :
    Kind.length .symbol (c :: cs) = 0 := by
  simp [Kind.length, h]

theorem stringLength_of_head (cs : List Char) (h : c ≠ '"') : stringLength (c :: cs) = 0 := by
  unfold stringLength
  split
  next heq => exact absurd (List.cons.inj heq).1 h
  next => rfl

theorem layoutLength_of_head (cs : List Char) (h : c ≠ '/') (hb : isBlank c = false) :
    layoutLength (c :: cs) = 0 := by
  unfold layoutLength
  split
  next heq => exact absurd (List.cons.inj heq).1 h
  next => simp [hb]

/-! ### How far a piece reaches -/

theorem numberLength_plain {ds : List Char} (h : Plain ds) (hrest : Stops rest) :
    numberLength (ds ++ rest) = ds.length := by
  have hdigit := hrest.head_eq_false (p := Char.isDigit) (by decide)
  have hpoint := hrest.head_eq_false (p := (· == '.')) (by decide)
  cases h with
  | whole hne hds =>
      simp only [numberLength, takeWhile_run rest hds hdigit, dropWhile_run rest hds hdigit]
      split
      next ds' => exact absurd (hpoint '.' rfl) (by simp)
      next => rfl
  | @pointed ds fs hne hds hfne hfs =>
      have htake := takeWhile_run ('.' :: (fs ++ rest)) hds (by simp)
      have hdrop := dropWhile_run ('.' :: (fs ++ rest)) hds (by simp)
      have hfrac := takeWhile_run rest hfs hdigit
      simp only [numberLength, List.append_assoc, List.cons_append, htake, hdrop, hfrac]
      simp [hne, hfne]
      omega

/-- The inside of a string literal: a backslash takes the next character with it, except a line
feed, and no quote stands by itself. -/
inductive Literal : List Char → Prop
  | nil : Literal []
  | plain {c : Char} {cs : List Char} : c ≠ '"' → c ≠ '\\' → Literal cs → Literal (c :: cs)
  | escaped {c : Char} {cs : List Char} : c ≠ '\n' → Literal cs → Literal ('\\' :: c :: cs)

theorem closingLength?_literal {body : List Char} (h : Literal body) (rest : List Char) :
    closingLength? (body ++ '"' :: rest) = some (body.length + 1) := by
  induction h with
  | nil => rfl
  | @plain c cs hquote hback _ ih =>
      have hskip : closingLength? (c :: (cs ++ '"' :: rest)) =
          (closingLength? (cs ++ '"' :: rest)).map (· + 1) := by
        rw [closingLength?]
        · exact hquote
        · exact fun c' cs' hc => absurd hc hback
        · exact fun hc => absurd hc hback
      rw [List.cons_append, hskip, ih]
      rfl
  | escaped hc _ ih => simp [closingLength?, hc, ih]

/-- Escaped text is the inside of a literal. -/
theorem literal_escape (cs : List Char) : Literal (escape cs) := by
  induction cs with
  | nil => exact .nil
  | cons c cs ih =>
      rw [escape]
      split
      next h =>
        -- An escaped character is a quote or a backslash, never a line feed.
        have hc : c ≠ '\n' := by rintro rfl; simp at h
        exact .escaped hc ih
      next h =>
        obtain ⟨hquote, hback⟩ := not_or.mp h
        exact .plain hquote hback ih

theorem stringLength_quotedChars (cs rest : List Char) :
    stringLength (quotedChars cs ++ rest) = (quotedChars cs).length := by
  simp [stringLength, quotedChars, closingLength?_literal (literal_escape cs)]

/-! ### The built-in kind at the front -/

/-- The spelling of a symbol: word characters, the first of them no digit. -/
structure Word (cs : List Char) : Prop where
  ne_nil : cs ≠ []
  isWord : ∀ c ∈ cs, isWord c
  head : ∀ c ∈ cs.head?, c.isDigit = false

theorem word_iff {cs : List Char} :
    Word cs ↔ (cs.all Text.isWord && cs.head?.any fun c => !c.isDigit) = true := by
  cases cs with
  | nil => exact ⟨fun h => absurd rfl h.ne_nil, by simp⟩
  | cons c cs =>
      simp only [List.head?_cons, Option.any_some, Bool.and_eq_true, List.all_eq_true,
        Bool.not_eq_true']
      exact ⟨fun h => ⟨h.isWord, h.head c rfl⟩,
        fun h => ⟨List.cons_ne_nil c cs, h.1, by rintro _ ⟨⟩; exact h.2⟩⟩

instance (cs : List Char) : Decidable (Word cs) := decidable_of_iff _ word_iff.symm

theorem builtin?_plain {ds : List Char} (h : Plain ds) (hrest : Stops rest) :
    builtin? (ds ++ rest) = some (.number, ds.length) := by
  obtain ⟨d, ds', hcons, -⟩ := h.exists_cons
  have hlength := numberLength_plain h hrest
  have hne : ds.length ≠ 0 := by simp [hcons]
  simp [builtin?, builtins, Kind.length, hlength, hne]

theorem builtin?_word {name : List Char} (h : Word name) (hrest : Stops rest) :
    builtin? (name ++ rest) = some (.symbol, name.length) := by
  obtain ⟨c, cs, rfl⟩ := List.exists_cons_of_ne_nil h.ne_nil
  have hnumber := numberLength_of_head (cs ++ rest) (h.head c rfl)
  have hrun := takeWhile_run rest h.isWord (hrest.head_eq_false (by decide))
  rw [List.cons_append] at hrun
  simp [builtin?, builtins, Kind.length, hnumber, hrun]

theorem builtin?_quotedChars (cs rest : List Char) :
    builtin? (quotedChars cs ++ rest) = some (.string, (quotedChars cs).length) := by
  have hstring := stringLength_quotedChars cs rest
  rw [quotedChars, List.cons_append] at hstring ⊢
  have hnumber := numberLength_of_head (c := '"') (escape cs ++ ['"'] ++ rest) (by decide)
  have hsymbol := symbolLength_of_head (c := '"') (escape cs ++ ['"'] ++ rest) (by decide)
  simp only [builtin?, builtins, List.findSome?_cons, hsymbol, if_true]
  simp only [Kind.length, hnumber, hstring]
  simp

/-- A run of blanks is a piece of layout if no blank follows. -/
theorem builtin?_blanks {run : List Char} (hne : run ≠ []) (hrun : ∀ c ∈ run, isBlank c)
    (h : ∀ c ∈ rest.head?, isBlank c = false) :
    builtin? (run ++ rest) = some (.layout, run.length) := by
  have htake := takeWhile_run rest hrun h
  obtain ⟨c, cs, rfl⟩ := List.exists_cons_of_ne_nil hne
  have hblank : isBlank c := hrun c (by simp)
  have hword : isWord c = false := isWord_of_isBlank hblank
  have hdigit : c.isDigit = false := by
    rw [Bool.eq_false_iff]
    intro hdigit
    exact absurd (isWord_of_isDigit hdigit) (by simp [hword])
  have hquote : c ≠ '"' := by rintro rfl; exact absurd hblank (by decide)
  have hslash : c ≠ '/' := by rintro rfl; exact absurd hblank (by decide)
  have hnumber := numberLength_of_head (cs ++ rest) hdigit
  have hsymbol := symbolLength_of_head (cs ++ rest) hword
  have hstring := stringLength_of_head (cs ++ rest) hquote
  have hlayout : layoutLength (c :: (cs ++ rest)) = (c :: cs).length := by
    rw [List.cons_append] at htake
    unfold layoutLength
    split
    next heq => exact absurd (List.cons.inj heq).1 hslash
    next => rw [htake]
  simp only [List.cons_append, builtin?, builtins, List.findSome?_cons, hsymbol, if_true]
  simp [Kind.length, hnumber, hstring, hlayout]

/-- A space is a piece of layout of its own if no blank follows. -/
theorem builtin?_space (h : ∀ c ∈ rest.head?, isBlank c = false) :
    builtin? (' ' :: rest) = some (.layout, 1) :=
  builtin?_blanks (List.cons_ne_nil ' ' []) (List.forall_mem_singleton.mpr rfl) h

/-- A character that begins no number, name, string or layout. -/
structure Punctuation (c : Char) : Prop where
  digit : c.isDigit = false
  word : isWord c = false
  quote : c ≠ '"'
  slash : c ≠ '/'
  blank : isBlank c = false

theorem Punctuation.builtin?_eq (h : Punctuation c) :
    builtin? (c :: rest) =
      [Kind.comma, .openBracket, .openGroup, .closeBracket, .closeGroup].findSome? fun kind =>
        if kind.length (c :: rest) = 0 then none else some (kind, kind.length (c :: rest)) := by
  have hnumber := numberLength_of_head rest h.digit
  have hsymbol := symbolLength_of_head rest h.word
  have hstring := stringLength_of_head rest h.quote
  have hlayout := layoutLength_of_head rest h.slash h.blank
  simp only [builtin?, builtins]
  rw [List.findSome?_cons, List.findSome?_cons, List.findSome?_cons, List.findSome?_cons, hsymbol]
  simp only [Kind.length, hnumber, hstring, hlayout, if_true]

theorem builtin?_comma (rest : List Char) : builtin? (',' :: rest) = some (.comma, 1) := by
  rw [Punctuation.builtin?_eq ⟨by decide, by decide, by decide, by decide, by decide⟩]
  rfl

theorem builtin?_openBracket (rest : List Char) :
    builtin? ('[' :: rest) = some (.openBracket, 1) := by
  rw [Punctuation.builtin?_eq ⟨by decide, by decide, by decide, by decide, by decide⟩]
  rfl

theorem builtin?_closeBracket (rest : List Char) :
    builtin? (']' :: rest) = some (.closeBracket, 1) := by
  rw [Punctuation.builtin?_eq ⟨by decide, by decide, by decide, by decide, by decide⟩]
  rfl

theorem builtin?_minus (rest : List Char) : builtin? ('-' :: rest) = none := by
  rw [Punctuation.builtin?_eq ⟨by decide, by decide, by decide, by decide, by decide⟩]
  rfl

/-! ### One piece at a time -/

/-- What a piece adds to the tokens behind it. -/
def emit (kind : Kind) (run : List Char) (offset : Nat) (ts : List Token) : List Token :=
  if kind = .layout then ts else ⟨kind, String.ofList run, offset⟩ :: ts

/-- Nothing stands at the front if no built-in kind and no operator does. -/
theorem piece?_eq_none_iff {operators : List (List Char)} :
    piece? operators cs = none ↔ builtin? cs = none ∧
      operators.find? (fun op => !op.isEmpty && op.isPrefixOf cs) = none := by
  simp [piece?]

theorem mem_longestFirst {op : List Char} {operators : List String} :
    op ∈ longestFirst operators ↔ ∃ text ∈ operators, text.toList = op := by
  simp [longestFirst]

/-- **The scanning step.** A piece goes, and scanning goes on behind it. -/
theorem scan_run {operators : List (List Char)} {offset : Nat} {kind : Kind} {run : List Char}
    (hne : run ≠ []) (h : piece? operators (run ++ rest) = some (kind, run.length)) :
    scan operators offset (run ++ rest) =
      (scan operators (offset + byteWidth run) rest).map (emit kind run offset) := by
  obtain ⟨c, cs, rfl⟩ := List.exists_cons_of_ne_nil hne
  rw [List.cons_append] at h ⊢
  rw [scan, h]
  have hdrop : (cs ++ rest).drop ((c :: cs).length - 1) = rest := by simp
  have htake : (cs ++ rest).take ((c :: cs).length - 1) = cs := by simp
  simp only [hdrop, htake]
  cases scan operators (offset + byteWidth (c :: cs)) rest <;> rfl

theorem scan_builtin {operators : List (List Char)} {offset : Nat} {kind : Kind} {run : List Char}
    (hne : run ≠ []) (h : builtin? (run ++ rest) = some (kind, run.length)) :
    scan operators offset (run ++ rest) =
      (scan operators (offset + byteWidth run) rest).map (emit kind run offset) :=
  scan_run hne (by rw [piece?, h]; rfl)

end Reduct.Token
