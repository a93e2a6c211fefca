import Reduct.Proofs.Parse.Completion
import Reduct.Proofs.Parse.Parallel
import Reduct.Proofs.Text.Lines

/-!
# Where an error is

An error that carries a byte offset is about a token, or about a place at which nothing stands. A
token begins where its text stands in the source, and neither a token nor a place at which nothing
stands begins with a blank. So at the offset of an error there is a character of the source that
ends no line, and the line that is quoted with the error is the one on which it stands, with as many
characters before it as there are blanks before the caret (`parse_error_place`).

That an error of the parser is about one of its tokens comes from a single run of the parser, laid
next to itself.
-/

namespace Reduct

/-! ### Tokens do not begin with a blank -/

namespace Token

open Text

variable {operators : List String} {cs rest run : List Char} {c : Char} {kind : Kind}
  {segments : List Segment}

/-- Where a blank stands, layout stands. -/
theorem exists_builtin?_layout (hblank : isBlank c) (cs : List Char) :
    ∃ n, builtin? (c :: cs) = some (.layout, n) := by
  have hend : ∀ d ∈ ((c :: cs).dropWhile isBlank).head?, isBlank d = false := by
    intro d hd
    have hnot := List.head?_dropWhile_not isBlank (c :: cs)
    rw [hd] at hnot
    simpa using hnot
  have hne : (c :: cs).takeWhile isBlank ≠ [] := by simp [hblank]
  have hlayout := builtin?_blanks hne (fun d => List.mem_takeWhile_imp) hend
  rw [List.takeWhile_append_dropWhile] at hlayout
  exact ⟨_, hlayout⟩

theorem Prescribed.isBlank_eq_false (h : Prescribed operators (c :: cs) kind run)
    (hkind : kind ≠ .layout) : isBlank c = false := by
  rw [Bool.eq_false_iff]
  intro hblank
  obtain ⟨n, hlayout⟩ := exists_builtin?_layout hblank cs
  obtain ⟨blanks, -, -, hblanks⟩ : ∃ blanks, blanks.length = n ∧ blanks ≠ [] ∧
      Prescribed operators (c :: cs) .layout blanks := exists_of_builtin? hlayout
  exact hkind (h.unique hblanks).1

theorem isBlank_of_stuck {operators : List (List Char)} (h : piece? operators (c :: cs) = none) :
    isBlank c = false := by
  rw [Bool.eq_false_iff]
  intro hblank
  obtain ⟨n, hlayout⟩ := exists_builtin?_layout hblank cs
  rw [(piece?_eq_none_iff.mp h).1] at hlayout
  cases hlayout

theorem Tiles.exists_head (h : Tiles operators cs segments rest) :
    ∀ offset, ∀ t ∈ segmentTokens offset segments,
      ∃ d ds, t.text.toList = d :: ds ∧ isBlank d = false := by
  induction h with
  | nil => simp [segmentTokens]
  | @cons kind run cs segments rest hne hpiece _ ih =>
      intro offset t ht
      rw [segmentTokens, emit] at ht
      split at ht
      next => exact ih _ t ht
      next hkind =>
        obtain rfl | ht := List.mem_cons.mp ht
        · obtain ⟨d, ds, rfl⟩ := List.exists_cons_of_ne_nil hne
          exact ⟨d, ds, String.toList_ofList, hpiece.isBlank_eq_false hkind⟩
        · exact ih _ t ht

end Token

/-! ### What an error is about -/

namespace SyntaxError

open Token

/-- The error names the token, by its kind or by its text, and is at its place. -/
inductive IsAbout (t : Token) : SyntaxError → Prop
  | unexpected (expected : Kind) : IsAbout t (.unexpected t.kind expected t.offset)
  | noLeadingForm : IsAbout t (.noLeadingForm t.text t.offset)
  | operatorForm (form : Form) : IsAbout t (.operatorForm t.text form t.offset)
  | trailing : IsAbout t (.trailing t.text t.offset)

/-- What the error quotes, or the token that it names, stands where the source goes on with
`ahead`. -/
inductive Quotes (operators : List String) (source : String) (ahead : List Char) :
    SyntaxError → Prop
  | lexical {near : String} (offset : Nat) : near ≠ "" → near.toList <+: ahead →
      Quotes operators source ahead (.lexical offset near)
  | token {ts : List Token} {t : Token} {error : SyntaxError} :
      tokenize operators source = .ok ts → t ∈ ts → t.text ≠ "" → t.text.toList <+: ahead →
        IsAbout t error → Quotes operators source ahead error

end SyntaxError

namespace Parse

open Text Token

variable {table : OperatorTable} {source : String} {ts : List Token} {error error' : SyntaxError}
  {offset : Nat}

theorem BothAbout.exists_isAbout (h : BothAbout (fun t t' => t = t' ∧ t ∈ ts) error error')
    (hoffset : error.offset? = some offset) : ∃ t ∈ ts, t.offset = offset ∧ error.IsAbout t := by
  cases h with
  | unexpectedEnd | invalidNumber => cases hoffset
  | @unexpected t _ expected ht => exact ⟨t, ht.2, Option.some.inj hoffset, .unexpected expected⟩
  | @noLeadingForm t _ ht => exact ⟨t, ht.2, Option.some.inj hoffset, .noLeadingForm⟩
  | @operatorForm t _ form ht => exact ⟨t, ht.2, Option.some.inj hoffset, .operatorForm form⟩
  | @trailing t _ ht => exact ⟨t, ht.2, Option.some.inj hoffset, .trailing⟩

/-- **The parser's errors are about its tokens.** -/
theorem exists_isAbout (h : ofTokens table ts = .error error)
    (hoffset : error.offset? = some offset) : ∃ t ∈ ts, t.offset = offset ∧ error.IsAbout t := by
  -- The run is laid next to itself: a token is related to itself only.
  have hmatched : Matched (fun t t' => t = t' ∧ t ∈ ts) ts ts := .of_self fun t ht => ⟨rfl, ht⟩
  have halike : Alike (fun t t' => t = t' ∧ t ∈ ts) table table :=
    .of_same (fun ht => congrArg Token.kind ht.1) fun ht => congrArg Token.text ht.1
  obtain ⟨e, he, -⟩ | ⟨error₁, error₂, herror, -, hboth⟩ :=
    ofTokens_agree halike hmatched
  · cases h.symm.trans he
  · obtain rfl := Except.error.inj (h.symm.trans herror)
    exact hboth.exists_isAbout hoffset

/-- At the offset of an error the source goes on with what the error quotes, and not with a
blank. -/
theorem exists_quotes (h : parse table source = .error error)
    (hoffset : error.offset? = some offset) :
    ∃ before c after, source.toList = before ++ c :: after ∧ byteWidth before = offset ∧
      isBlank c = false ∧ error.Quotes table.texts source (c :: after) := by
  obtain ⟨segments, rest, htiles, ⟨rfl, hscan⟩ | ⟨hne, hstuck, hscan⟩⟩ :=
    scan_tiles table.texts source.toList
  · -- The text is cut into tokens, and the error is about one of them.
    rw [parse_of_tokenize (hscan 0)] at h
    obtain ⟨t, ht, rfl, habout⟩ := exists_isAbout h hoffset
    obtain ⟨o, ho, before, after, hstands, rfl⟩ := standsAt_of_mem 0 t ht
    obtain ⟨c, cs, htext, hblank⟩ := htiles.exists_head 0 t ht
    have hjoined : joined segments = source.toList := by
      rw [← htiles.joined_append, List.append_nil]
    refine ⟨before, c, cs ++ after, ?_, by rw [ho, Nat.zero_add], hblank, ?_⟩
    · rw [← hjoined, hstands, htext, List.append_assoc, List.cons_append]
    · refine .token (hscan 0) ht ?_ ?_ habout
      · rintro hempty
        simp [hempty] at htext
      · rw [htext]
        exact List.cons_prefix_cons.mpr ⟨rfl, List.prefix_append cs after⟩
  · -- Nothing stands where the error is.
    obtain ⟨c, cs, rfl⟩ := List.exists_cons_of_ne_nil hne
    have herror : error = .lexical (byteWidth (joined segments))
        (String.ofList ((c :: cs).take 12)) := by
      have hfails := hscan 0
      rw [Nat.zero_add] at hfails
      simpa [parse, tokenize, hfails, bind, Except.bind, eq_comm] using h
    subst herror
    refine ⟨joined segments, c, cs, htiles.joined_append.symm, Option.some.inj hoffset,
      isBlank_of_stuck hstuck, .lexical _ ?_ ?_⟩
    · simp [← String.toList_inj]
    · rw [String.toList_ofList]
      exact List.take_prefix 12 _

end Parse

open Text

/-- **Errors point at the place they are about.** Where parsing fails with an error that carries a
byte offset, that byte is the beginning of a character of the source, and the source goes on there
with what the error quotes. The error is shown with the line on which the character stands, with its
number, and the caret has as many blanks before it as the character has characters on its line.
Places are in the order of the text. -/
theorem parse_error_place (table : OperatorTable) (source : String) :
    (∀ error offset, parse table source = .error error → error.offset? = some offset →
      ∃ above left c right ending, LineOf source.toList offset above left c right ending ∧
        error.Quotes table.texts source (c :: right ++ ending) ∧
        error.inContext source =
          "Error at line " ++ toString ((above ++ left).count '\n' + 1) ++ ", column " ++
            toString (left.length + 1) ++ ": " ++ error.message ++ "\n  " ++
            String.ofList (left ++ c :: right) ++ "\n  " ++ SyntaxError.blanks left.length ++
            "^") ∧
    ∀ before middle after, source.toList = before ++ middle ++ after → middle ≠ [] →
      (position source (byteWidth before)).Before
        (position source (byteWidth (before ++ middle))) := by
  refine ⟨fun error offset h hoffset => ?_, fun before middle after => position_before⟩
  obtain ⟨before, c, after, hsource, rfl, hblank, hquotes⟩ := Parse.exists_quotes h hoffset
  have hline : c ≠ '\n' := by
    rintro rfl
    exact absurd hblank (by decide)
  have hreturn : c ≠ '\r' := by
    rintro rfl
    exact absurd hblank (by decide)
  obtain ⟨above, left, right, ending, rfl, hplace⟩ :=
    exists_lineOf before after hline hreturn
  rw [← hsource] at hplace
  refine ⟨above, left, c, right, ending, hplace, ?_, ?_⟩
  · have hsame : above ++ left ++ (c :: after) = above ++ left ++ (c :: right ++ ending) := by
      rw [← hsource, hplace.text_eq]
      simp
    rwa [← List.append_cancel_left hsame]
  · have hquoted := hplace.lineAt_eq
    rw [hplace.position_eq] at hquoted
    simp only [SyntaxError.inContext, hoffset, hplace.position_eq, hquoted, Nat.add_sub_cancel]

/-- A parenthesis too much, behind a string over two lines and before a comment with a carriage
return at its end. -/
theorem parse_error_place_string :
    parse .default "\"a\nä\" ) // ü\r\nb" = .error (.trailing ")" 7) ∧
    (∃ above left c right ending,
      LineOf "\"a\nä\" ) // ü\r\nb".toList 7 above left c right ending ∧
        (SyntaxError.trailing ")" 7).Quotes OperatorTable.default.texts "\"a\nä\" ) // ü\r\nb"
          (c :: right ++ ending) ∧
        (SyntaxError.trailing ")" 7).inContext "\"a\nä\" ) // ü\r\nb" =
          "Error at line " ++ toString ((above ++ left).count '\n' + 1) ++ ", column " ++
            toString (left.length + 1) ++ ": " ++ (SyntaxError.trailing ")" 7).message ++ "\n  " ++
            String.ofList (left ++ c :: right) ++ "\n  " ++ SyntaxError.blanks left.length ++
            "^") ∧
    (position "\"a\nä\" ) // ü\r\nb" 2).Before (position "\"a\nä\" ) // ü\r\nb" 5) := by
  have hfails : parse .default "\"a\nä\" ) // ü\r\nb" = .error (.trailing ")" 7) := by cbv
  obtain ⟨hplace, hbefore⟩ := parse_error_place .default "\"a\nä\" ) // ü\r\nb"
  exact ⟨hfails, hplace _ 7 hfails rfl,
    hbefore ['"', 'a'] ['\n', 'ä'] "\" ) // ü\r\nb".toList (by decide) (by decide)⟩

end Reduct
