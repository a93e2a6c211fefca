import Reduct.Proofs.Parse.Lookahead
import Reduct.Proofs.Token.LineBreak

/-!
# Incomplete inputs

That the end of an input is unexpected means exactly that more lines can complete it, and any other
error stays whatever lines follow (`parse_incomplete_iff`). The two halves are those of the parser
on tokens (`Online`), and a line break keeps the tokens before it as they are (`tokenize_line`).
The lines that complete an input are spelled from the kinds of tokens that the parser still waits
for, one token on each line.
-/

namespace Reduct

open Token (Kind KeepsLines)

namespace Parse

variable {table : OperatorTable} {ts us : List Token} {kinds : List Kind} {error : SyntaxError}

/-! ### On tokens -/

/-- Another error than the end stays when tokens come behind. -/
theorem ofTokens_append_of_error (h : ofTokens table ts = .error error)
    (hne : error ≠ .unexpectedEnd) (hapart : Apart ts us) :
    ofTokens table (ts ++ us) = .error error := by
  have honline := (online table ts).expression none none
  rw [ofTokens_eq] at h ⊢
  split at h
  next error' hread =>
    obtain rfl := Except.error.inj h
    rw [honline.fails hread hne hapart]
  next hread => cases h
  next e t rest hread =>
    -- The token that was too much still comes first.
    rw [honline.goesOn hread hapart (by simp), List.cons_append]
    exact h

/-- Where the end is unexpected, tokens of some kinds complete the input. -/
theorem exists_completing (h : ofTokens table ts = .error .unexpectedEnd) :
    ∃ kinds, Completing kinds ∧ ∀ us, us.map Token.kind = kinds →
      ∃ e, ofTokens table (ts ++ us) = .ok e := by
  rw [ofTokens_eq] at h
  split at h
  next error hread =>
    obtain rfl := Except.error.inj h
    obtain ⟨kinds, hkinds, -, hreads⟩ := ((online table ts).expression none none).completes hread
    refine ⟨kinds, hkinds, fun us hus => ?_⟩
    obtain ⟨e, he⟩ := hreads us [] hus closed_nil
    rw [List.append_nil] at he
    exact ⟨e, ofTokens_eq_ok_iff.mpr he⟩
  next => cases h
  next => cases h

/-! ### Lines that complete an input -/

variable {operators : List String} {source : String} {kind : Kind}

/-- Each kind that can complete an input is spelled by a single character. -/
theorem exists_spelling (h : kind ∈ [Kind.symbol, .closeBracket, .closeGroup]) :
    ∃ c, Token.builtin? [c] = some (kind, 1) := by
  simp only [List.mem_cons, List.not_mem_nil, or_false] at h
  rcases h with rfl | rfl | rfl
  · exact ⟨'x', by decide⟩
  · exact ⟨']', by decide⟩
  · exact ⟨')', by decide⟩

/-- On a line of its own, the character is a token. -/
theorem exists_line (h : kind ∈ [Kind.symbol, .closeBracket, .closeGroup])
    (operators : List (List Char)) (offset : Nat) :
    ∃ c t, Token.scan operators offset [c] = .ok [t] ∧ t.kind = kind := by
  obtain ⟨c, hc⟩ := exists_spelling h
  have hlayout : kind ≠ .layout := by
    rintro rfl
    exact absurd h (by decide)
  refine ⟨c, ⟨kind, String.ofList [c], offset⟩, ?_, rfl⟩
  have hstep : Token.scan operators offset [c] =
      (Token.scan operators (offset + Text.byteWidth [c]) []).map
        (Token.emit kind [c] offset) :=
    Token.scan_builtin (List.cons_ne_nil c []) hc
  rw [hstep, Token.scan]
  simp [Except.map, Token.emit, hlayout]

/-- Tokens of all kinds that can complete an input can be had from lines behind any source. -/
theorem exists_lines (hops : KeepsLines operators) (h : Completing kinds)
    (hsource : Token.tokenize operators source = .ok ts) :
    ∃ lines us, Token.tokenize operators (source ++ "\n" ++ lines) = .ok (ts ++ us) ∧
      us.map Token.kind = kinds := by
  induction kinds generalizing source ts with
  | nil =>
      refine ⟨"", [], ?_, rfl⟩
      rw [Token.tokenize_line hops hsource, String.toList_empty, Token.scan]
      rfl
  | cons kind kinds ih =>
      obtain ⟨c, t, hc, ht⟩ := exists_line (h kind (by simp)) (Token.longestFirst operators)
        (Text.byteWidth source.toList + 1)
      have hline : Token.tokenize operators (source ++ "\n" ++ String.ofList [c]) =
          .ok (ts ++ [t]) := by
        rw [Token.tokenize_line hops hsource, String.toList_ofList, hc]
        rfl
      obtain ⟨lines, us, hlines, hus⟩ := ih (fun k hk => h k (.tail _ hk)) hline
      refine ⟨String.ofList [c] ++ "\n" ++ lines, t :: us, ?_, by simp [ht, hus]⟩
      have hsame : source ++ "\n" ++ (String.ofList [c] ++ "\n" ++ lines) =
          source ++ "\n" ++ String.ofList [c] ++ "\n" ++ lines := by
        simp only [String.append_assoc]
      rw [hsame, hlines]
      simp

/-- Between the tokens before a line break and those behind it there is a place. -/
theorem apart_of_line (hops : ∀ op ∈ operators, op ≠ "") {cs ds : List Char}
    (hts : Token.scan (Token.longestFirst operators) 0 cs = .ok ts)
    (hus : Token.scan (Token.longestFirst operators) (Text.byteWidth cs + 1) ds = .ok us) :
    Apart ts us := by
  intro u hu _ t ht
  have hafter := Token.offset_lt_of_scan hops hus u (List.mem_of_mem_head? hu)
  have hbefore := Token.offset_lt_of_scan hops hts t ht
  omega

/-! ### Sources -/

theorem parse_of_tokenize (h : Token.tokenize table.texts source = .ok ts) :
    parse table source = ofTokens table ts := by
  simp only [parse, h, bind, Except.bind]

theorem exists_tokenize_of_parse {e : Expr} (h : parse table source = .ok e) :
    ∃ ts, Token.tokenize table.texts source = .ok ts := by
  cases htokens : Token.tokenize table.texts source with
  | error error => simp [parse, htokens, bind, Except.bind] at h
  | ok ts => exact ⟨ts, rfl⟩

/-- Another error than the end stays, whatever line follows. -/
theorem parse_line_of_error (hops : KeepsLines table.texts)
    (hts : Token.tokenize table.texts source = .ok ts) (h : parse table source = .error error)
    (hne : error ≠ .unexpectedEnd) (line : String)
    (hline : ∃ all, Token.tokenize table.texts (source ++ "\n" ++ line) = .ok all) :
    parse table (source ++ "\n" ++ line) = .error error := by
  obtain ⟨all, hall⟩ := hline
  have hscan := Token.tokenize_line hops hts line
  cases hus : Token.scan (Token.longestFirst table.texts) (Text.byteWidth source.toList + 1)
      line.toList with
  | error e =>
      rw [hus, hall] at hscan
      cases hscan
  | ok us =>
      rw [hus] at hscan
      rw [parse_of_tokenize hts] at h
      rw [parse_of_tokenize hscan]
      exact ofTokens_append_of_error h hne (apart_of_line hops.ne_empty hts hus)

/-- Where the end is unexpected, some lines complete the source. -/
theorem exists_parse_lines (hops : KeepsLines table.texts)
    (hts : Token.tokenize table.texts source = .ok ts)
    (h : parse table source = .error .unexpectedEnd) :
    ∃ lines e, parse table (source ++ "\n" ++ lines) = .ok e := by
  rw [parse_of_tokenize hts] at h
  obtain ⟨kinds, hkinds, hcomplete⟩ := exists_completing h
  obtain ⟨lines, us, hlines, hus⟩ := exists_lines hops hkinds hts
  obtain ⟨e, he⟩ := hcomplete us hus
  exact ⟨lines, e, (parse_of_tokenize hlines).trans he⟩

theorem keepsLines_default : KeepsLines OperatorTable.default.texts := by
  have hall : ∀ op ∈ OperatorTable.default.texts,
      op ≠ "" ∧ '\n' ∉ op.toList ∧ op.toList.head? ≠ some '"' := by decide +kernel
  exact ⟨fun op h => (hall op h).1, fun op h => (hall op h).2.1, fun op h => (hall op h).2.2⟩

/-- **The end of an input is unexpected** exactly if the input is incomplete: it is not parsed, but
it is with some lines behind it. Any other error stays, whatever lines follow. -/
theorem parse_incomplete_iff
    (hts : Token.tokenize OperatorTable.default.texts source = .ok ts) :
    (parse .default source = .error .unexpectedEnd ↔
      (∀ e, parse .default source ≠ .ok e) ∧
        ∃ lines e, parse .default (source ++ "\n" ++ lines) = .ok e) ∧
    ∀ error, parse .default source = .error error → error ≠ .unexpectedEnd →
      ∀ lines, (∃ all, Token.tokenize OperatorTable.default.texts (source ++ "\n" ++ lines) =
          .ok all) →
        parse .default (source ++ "\n" ++ lines) = .error error := by
  have hother : ∀ error, parse .default source = .error error → error ≠ .unexpectedEnd →
      ∀ lines, (∃ all, Token.tokenize OperatorTable.default.texts (source ++ "\n" ++ lines) =
          .ok all) →
        parse .default (source ++ "\n" ++ lines) = .error error :=
    fun _ herror hne => parse_line_of_error keepsLines_default hts herror hne
  refine ⟨⟨fun hend => ?_, ?_⟩, hother⟩
  · refine ⟨fun e he => ?_, exists_parse_lines keepsLines_default hts hend⟩
    exact absurd (hend.symm.trans he) (by simp)
  · rintro ⟨hnot, lines, e, he⟩
    cases hparse : parse .default source with
    | ok e' => exact absurd hparse (hnot e')
    | error error =>
        by_contra hne
        have herror := hother error hparse (fun heq => hne (congrArg Except.error heq)) lines
          (exists_tokenize_of_parse he)
        exact absurd (herror.symm.trans he) (by simp)

/-- An open call and an open group, and a bracket too many. -/
theorem parse_incomplete_iff_call :
    (∃ ts, Token.tokenize OperatorTable.default.texts "f[(a +" = .ok ts) ∧
    (∃ lines e, parse .default ("f[(a +" ++ "\n" ++ lines) = .ok e) ∧
    (∃ ts, Token.tokenize OperatorTable.default.texts "f]" = .ok ts) ∧
    ∀ lines, (∃ all, Token.tokenize OperatorTable.default.texts ("f]" ++ "\n" ++ lines) = .ok all) →
      parse .default ("f]" ++ "\n" ++ lines) = .error (.trailing "]" 1) := by
  have hcall : Token.tokenize OperatorTable.default.texts "f[(a +" =
      .ok [⟨.symbol, "f", 0⟩, ⟨.openBracket, "[", 1⟩, ⟨.openGroup, "(", 2⟩, ⟨.symbol, "a", 3⟩,
        ⟨.operator, "+", 5⟩] := by cbv
  have hclose : Token.tokenize OperatorTable.default.texts "f]" =
      .ok [⟨.symbol, "f", 0⟩, ⟨.closeBracket, "]", 1⟩] := by cbv
  have hend : parse .default "f[(a +" = .error .unexpectedEnd := by cbv
  have htrailing : parse .default "f]" = .error (.trailing "]" 1) := by cbv
  have hcomplete := ((parse_incomplete_iff hcall).1.mp hend).2
  have hstays := (parse_incomplete_iff hclose).2 _ htrailing (by simp)
  exact ⟨⟨_, hcall⟩, hcomplete, ⟨_, hclose⟩, hstays⟩

end Parse

end Reduct
