import Reduct.Operation.Strings
import Reduct.Proofs.Parse.RoundTrip
import Reduct.Proofs.Token.Segments

/-!
# Introducing symbols

A text that is introduced and read as no number becomes a symbol if all its characters are word
characters. The scanner takes digits at the front of a text as a number first, whatever comes behind
them. So the two agree on what a symbol is, but for one kind of text: word characters that begin
with a digit and are not read as a finite number together (`introduce_symbol`). The symbols of all
other texts are read back from what they are rendered as.
-/

namespace Reduct

namespace Token

open Text Numeral

variable {operators : List String} {text : String} {cs ds rest : List Char} {c : Char}
  {offset : Nat}

/-! ### What is cut into one symbol -/

/-- Digits at the front are a number, whatever comes behind them, but for a point. -/
theorem builtin?_digits (hne : ds ≠ []) (hds : ∀ d ∈ ds, d.isDigit)
    (hrest : ∀ c ∈ rest.head?, c.isDigit = false ∧ c ≠ '.') :
    builtin? (ds ++ rest) = some (.number, ds.length) := by
  have hlength : numberLength (ds ++ rest) = ds.length := by
    simp only [numberLength, takeWhile_run rest hds fun c hc => (hrest c hc).1,
      dropWhile_run rest hds fun c hc => (hrest c hc).1]
    split
    next ds' => exact absurd rfl (hrest '.' rfl).2
    next => rfl
  have hpos : ds.length ≠ 0 := by simpa using hne
  simp [builtin?, builtins, Kind.length, hlength, hpos]

theorem cuts_word (h : Word cs) :
    Cuts (longestFirst operators) offset cs [⟨.symbol, String.ofList cs, offset⟩] [] :=
  cuts_token h.ne_nil (by decide) (builtin?_word h (by simp [Stops]))

theorem tokenize_of_cuts {ts : List Token}
    (h : Cuts (longestFirst operators) 0 text.toList ts []) : tokenize operators text = .ok ts := by
  rw [Cuts, List.append_nil, scan] at h
  rw [tokenize, h]
  simp [Except.map]

theorem tokenize_word (h : Word text.toList) :
    tokenize operators text = .ok [⟨.symbol, text, 0⟩] := by
  have hcuts : Cuts (longestFirst operators) 0 text.toList _ [] := cuts_word h
  rw [String.ofList_toList] at hcuts
  exact tokenize_of_cuts hcuts

/-- Word characters that begin with a digit are cut into a number and a symbol, or just a number. -/
theorem tokenize_digits (operators : List String) (hword : ∀ c ∈ text.toList, isWord c)
    (hdigit : ∃ c ∈ text.toList.head?, c.isDigit) :
    ∃ ds rest, text.toList = ds ++ rest ∧ ds ≠ [] ∧ (∀ d ∈ ds, d.isDigit) ∧
      (∀ c ∈ rest.head?, c.isDigit = false) ∧
      tokenize operators text = .ok (⟨.number, String.ofList ds, 0⟩ ::
        if rest = [] then [] else [⟨.symbol, String.ofList rest, byteWidth ds⟩]) := by
  obtain ⟨ds, hds⟩ : ∃ ds, text.toList.takeWhile Char.isDigit = ds := ⟨_, rfl⟩
  obtain ⟨rest, hrest⟩ : ∃ rest, text.toList.dropWhile Char.isDigit = rest := ⟨_, rfl⟩
  have hchars : text.toList = ds ++ rest := by
    rw [← hds, ← hrest, List.takeWhile_append_dropWhile]
  have hne : ds ≠ [] := by
    obtain ⟨c, hc, hdigit⟩ := hdigit
    obtain ⟨cs, hcs⟩ := List.head?_eq_some_iff.mp hc
    rw [← hds, hcs, List.takeWhile_cons_of_pos hdigit]
    exact List.cons_ne_nil _ _
  have hdigits : ∀ d ∈ ds, d.isDigit := by
    rw [← hds]
    exact fun d hd => List.mem_takeWhile_imp hd
  have hhead : ∀ c ∈ rest.head?, c.isDigit = false := by
    intro c hc
    have := List.head?_dropWhile_not Char.isDigit text.toList
    rw [hrest, hc] at this
    exact this
  have hwords : ∀ c ∈ rest, isWord c := fun c hc =>
    hword c (hchars ▸ List.mem_append_right ds hc)
  have hcuts : Cuts (longestFirst operators) 0 ds [⟨.number, String.ofList ds, 0⟩] rest := by
    refine cuts_token hne (by decide) (builtin?_digits hne hdigits fun c hc => ⟨hhead c hc, ?_⟩)
    rintro rfl
    exact absurd (hwords _ (List.mem_of_head? hc)) (by decide)
  refine ⟨ds, rest, hchars, hne, hdigits, hhead, tokenize_of_cuts ?_⟩
  by_cases hnil : rest = []
  · rw [hnil, List.append_nil] at hchars
    rwa [hchars, if_pos hnil, ← hnil]
  · have hsymbol : Cuts (longestFirst operators) (0 + byteWidth ds) rest _ [] :=
      cuts_word ⟨hnil, hwords, hhead⟩
    rw [hchars, if_neg hnil]
    rw [← List.append_nil rest] at hcuts
    simpa using hcuts.append hsymbol

/-- The texts that are cut into one symbol are the words. -/
theorem tokenize_eq_symbol_iff :
    tokenize operators text = .ok [⟨.symbol, text, 0⟩] ↔ Word text.toList := by
  refine ⟨fun h => ?_, tokenize_word⟩
  obtain hkind | hspelled := spelled_of_scan h _ (List.mem_singleton_self _)
  · cases hkind
  · cases hspelled with
    | symbol hne hword =>
        refine ⟨hne, hword, fun c hc => Bool.eq_false_iff.mpr fun hdigit => ?_⟩
        obtain ⟨ds, rest, -, -, -, -, htokens⟩ := tokenize_digits operators hword
          ⟨c, hc, hdigit⟩
        cases htokens.symm.trans h

end Token

namespace Text

theorem trim_of_isBlank {cs : List Char} (h : ∀ c ∈ cs, isBlank c = false) : trim cs = cs := by
  have hkeep : ∀ ds : List Char, (∀ d ∈ ds, isBlank d = false) → ds.dropWhile isBlank = ds := by
    rintro (_ | ⟨d, ds⟩) hds
    · rfl
    · exact List.dropWhile_cons_of_neg (by simp [hds d (List.mem_cons_self ..)])
  rw [trim, hkeep cs h, hkeep cs.reverse fun c hc => h c (List.mem_reverse.mp hc),
    List.reverse_reverse]

end Text

namespace Numeral

/-- What begins neither with a digit nor with a point is no decimal. -/
theorem decimal?_eq_none {c : Char} (cs : List Char) (hdigit : c.isDigit = false)
    (hpoint : c ≠ '.') : decimal? (c :: cs) = none := by
  simp only [decimal?, List.takeWhile_cons_of_neg (by simp [hdigit] : ¬ c.isDigit = true),
    List.dropWhile_cons_of_neg (by simp [hdigit] : ¬ c.isDigit = true)]
  split
  next heq => exact absurd (List.cons.inj heq).1 hpoint
  next => rfl

end Numeral

namespace Operation.Strings

open Token

/-- The finite number that a text is read as, without the white space around it. -/
def finite? (text : String) : Option Float :=
  (Numeral.read? (String.ofList (Text.trim text.toList))).filter Float.isFinite

/-- A word is read as no finite number, even if it is a word for infinity. -/
theorem finite?_of_word {text : String} (h : Word text.toList) : finite? text = none := by
  obtain ⟨c, cs, hcs⟩ := List.exists_cons_of_ne_nil h.ne_nil
  have htrim : Text.trim text.toList = text.toList :=
    Text.trim_of_isBlank fun c hc => Text.isBlank_of_isWord (h.isWord c hc)
  have hword : Text.isWord c := h.isWord c (by simp [hcs])
  have hne {d : Char} (hd : Text.isWord d = false) : c ≠ d := by
    rintro rfl
    simp [hword] at hd
  have hdecimal : Numeral.decimal? (c :: cs) = none :=
    Numeral.decimal?_eq_none cs (h.head c (by simp [hcs])) (hne (by decide))
  have hsign : Numeral.read? (String.ofList (c :: cs)) = Numeral.unsigned? (c :: cs) := by
    rw [Numeral.read?, String.toList_ofList]
    split
    next heq => exact absurd (List.cons.inj heq).1 (hne (by decide))
    next heq => exact absurd (List.cons.inj heq).1 (hne (by decide))
    next => rfl
  rw [finite?, htrim, hcs, hsign, Numeral.unsigned?, hdecimal]
  -- What is left are the words for infinity and for the value that is no number.
  split
  · decide
  · split <;> decide

/-- The texts that are introduced as a symbol although a number stands at their front. -/
structure Misread (text : String) : Prop where
  isWord : ∀ c ∈ text.toList, Text.isWord c
  digit : ∃ c ∈ text.toList.head?, c.isDigit
  finite? : finite? text = none

theorem introduce_eq_symbol_iff {text : String} {others : List Expr} :
    introduce (.string text :: others) = .ok (.sym text) ↔
      finite? text = none ∧ isSymbolText text.toList := by
  simp only [introduce]
  rw [← finite?]
  cases finite? text with
  | some value => simp
  | none =>
      by_cases htext : isSymbolText text.toList
      · simp [htext]
      · simp [htext]

/-- What is spelled like a symbol is a word or begins with a digit. -/
theorem isSymbolText_iff {cs : List Char} :
    isSymbolText cs ↔ Word cs ∨ (∀ c ∈ cs, Text.isWord c) ∧ ∃ c ∈ cs.head?, c.isDigit := by
  cases cs with
  | nil => simp [isSymbolText, word_iff]
  | cons c cs =>
      rw [word_iff]
      cases hdigit : c.isDigit <;> simp [isSymbolText, hdigit]

/-! ### Reading symbols back -/

theorem parse_eq {table : OperatorTable} {source : String} {ts : List Token}
    (h : tokenize table.texts source = .ok ts) : parse table source = Parse.ofTokens table ts := by
  rw [parse, h]
  rfl

theorem render_sym (name : String) : (Expr.sym name).render = name := String.ofList_toList

theorem parse_word {name : String} (h : Word name.toList) (table : OperatorTable) :
    parse table (Expr.sym name).render = .ok (.sym name) := by
  rw [render_sym, parse_eq (tokenize_word h), Parse.ofTokens_eq_ok_iff, Parse.readExpression_eq,
    Parse.bind_ok (Parse.readLeading_symbol rfl), Parse.readExtension_nil]

/-- What is cut into a number first is not read as a symbol. -/
theorem parse_digits {name : String} (hword : ∀ c ∈ name.toList, Text.isWord c)
    (hdigit : ∃ c ∈ name.toList.head?, c.isDigit) (table : OperatorTable) :
    parse table (Expr.sym name).render ≠ .ok (.sym name) := by
  obtain ⟨ds, rest, -, -, -, -, htokens⟩ := tokenize_digits table.texts hword hdigit
  rw [render_sym, parse_eq htokens, Ne, Parse.ofTokens_eq_ok_iff, Parse.readExpression_eq,
    Parse.bind_eq_ok_iff]
  rintro ⟨left, others, hleading, hextension⟩
  rw [Parse.readLeading_number rfl] at hleading
  generalize Parse.numberValue _ = value? at hleading
  cases value? with
  | error error => cases hleading
  | ok value =>
      cases hleading
      -- The number stands alone, or a symbol is left behind it that extends nothing.
      by_cases hnil : rest = []
      · rw [if_pos hnil, Parse.readExtension_nil] at hextension
        cases hextension
      · rw [if_neg hnil, Parse.readExtension_other (by simp) (by simp)] at hextension
        cases hextension

/-! ### Introducing symbols -/

/-- **What is introduced as a symbol.** These are the texts that are cut into one symbol, and the
words that begin with a digit and are read as no finite number. The symbols of the former are read
back from what they are rendered as. The latter are cut into a number and a symbol, or just a
number, and not read back. -/
theorem introduce_symbol (text : String) (others : List Expr) :
    (introduce (.string text :: others) = .ok (.sym text) ↔
      tokenize [] text = .ok [⟨.symbol, text, 0⟩] ∨ Misread text) ∧
    (tokenize [] text = .ok [⟨.symbol, text, 0⟩] →
      ∀ table, parse table (Expr.sym text).render = .ok (.sym text)) ∧
    (Misread text →
      (∃ ds rest, text.toList = ds ++ rest ∧ ds ≠ [] ∧ (∀ d ∈ ds, d.isDigit) ∧
        (∀ c ∈ rest.head?, c.isDigit = false) ∧
        tokenize [] text = .ok (⟨.number, String.ofList ds, 0⟩ ::
          if rest = [] then [] else [⟨.symbol, String.ofList rest, Text.byteWidth ds⟩])) ∧
      ∀ table, parse table (Expr.sym text).render ≠ .ok (.sym text)) := by
  refine ⟨?_, fun h => parse_word (tokenize_eq_symbol_iff.mp h), fun h =>
    ⟨tokenize_digits [] h.isWord h.digit, parse_digits h.isWord h.digit⟩⟩
  rw [introduce_eq_symbol_iff, isSymbolText_iff, tokenize_eq_symbol_iff]
  constructor
  · rintro ⟨hfinite, hword | ⟨hword, hdigit⟩⟩
    · exact .inl hword
    · exact .inr ⟨hword, hdigit, hfinite⟩
  · rintro (hword | h)
    · exact ⟨finite?_of_word hword, .inl hword⟩
    · exact ⟨h.finite?, .inr ⟨h.isWord, h.digit⟩⟩

/-- A word for infinity is a symbol, and a number that is none is misread. -/
theorem introduce_symbol_infinity :
    introduce [.string "Infinity"] = .ok (.sym "Infinity") ∧
    (∀ table, parse table (Expr.sym "Infinity").render = .ok (.sym "Infinity")) ∧
    introduce [.string "1e400"] = .ok (.sym "1e400") ∧
    ∀ table, parse table (Expr.sym "1e400").render ≠ .ok (.sym "1e400") := by
  have hword : Word "Infinity".toList := by decide
  have hmisread : Misread "1e400" :=
    ⟨List.all_eq_true.mp (by decide), ⟨'1', rfl, rfl⟩, by decide +kernel⟩
  have htokens : tokenize [] "Infinity" = .ok [⟨.symbol, "Infinity", 0⟩] := tokenize_word hword
  obtain ⟨hintroduce, hparse, -⟩ := introduce_symbol "Infinity" []
  obtain ⟨hintroduce', -, hmisreads⟩ := introduce_symbol "1e400" []
  exact ⟨hintroduce.mpr (.inl htokens), hparse htokens, hintroduce'.mpr (.inr hmisread),
    (hmisreads hmisread).2⟩

/-- Not only what is cut into one symbol is introduced as one. -/
theorem introduce_number_and_symbol :
    introduce [.string "12ab"] = .ok (.sym "12ab") ∧
    tokenize [] "12ab" = .ok [⟨.number, "12", 0⟩, ⟨.symbol, "ab", 2⟩] ∧
    ¬ ∀ text, introduce [.string text] = .ok (.sym text) ↔
      tokenize [] text = .ok [⟨.symbol, text, 0⟩] := by
  have hintroduce : introduce [.string "12ab"] = .ok (.sym "12ab") :=
    introduce_eq_symbol_iff.mpr ⟨by decide, by decide⟩
  have hnumber : Cuts (longestFirst []) 0 ['1', '2'] [⟨.number, "12", 0⟩] ['a', 'b'] :=
    cuts_token (List.cons_ne_nil _ _) (by decide) (by decide)
  have hword : Word ['a', 'b'] := by decide
  have htokens : tokenize [] "12ab" = .ok [⟨.number, "12", 0⟩, ⟨.symbol, "ab", 2⟩] :=
    tokenize_of_cuts (hnumber.append (cuts_word hword))
  refine ⟨hintroduce, htokens, fun h => ?_⟩
  cases htokens.symm.trans ((h "12ab").mp hintroduce)

end Operation.Strings

end Reduct
