import Reduct.Proofs.Parse.Parallel
import Reduct.Proofs.Parse.RoundTrip
import Reduct.Proofs.Token.Segments

/-!
# New operators

An operator that is added to a table is one more text that the scanner tries, at every place where
no built-in piece stands, and a text of its own for the parser. Source texts that do not use it are
parsed as before (`parse_of_unused`). At a place where another piece is taken, that piece was the
longest without the new text, too; and where nothing stands with it, nothing stood without it. So
the segments stay, and with them the tokens and the place where scanning fails. The parser asks the
table for the texts of operators among the tokens only, and there the two tables have the same.

That a source uses the operator is said by its segments (`IsUsed`), which there are also for a text
that is not scanned to its end. The text of the operator may well stand in it: inside a string, in a
comment, or as part of a longer operator.
-/

namespace Reduct

namespace Token

open Text

variable {operators operators' : List String} {text source : String} {cs rest rest' run : List Char}
  {segments segments' : List Segment} {kind : Kind} {n offset : Nat} {ts : List Token}

/-! ### Operators that are used -/

/-- The operator is one of the pieces that the source text is cut into, up to its end or up to where
nothing stands. -/
def IsUsed (operators : List String) (text source : String) : Prop :=
  ∃ segments rest, Tiles operators source.toList segments rest ∧
    ⟨.operator, text.toList⟩ ∈ segments

/-- A text is cut in one way only, as far as it is cut. -/
theorem Tiles.prefix_of_whole (h : Tiles operators cs segments rest)
    (h' : Tiles operators cs segments' []) : segments <+: segments' := by
  induction h generalizing segments' with
  | nil => exact List.nil_prefix
  | @cons kind run cs segments rest hne hpiece _ ih =>
      generalize hall : run ++ cs = all at h'
      cases h' with
      | nil => simp [hne] at hall
      | @cons kind' run' cs' segments' _ _ hpiece' htiles' =>
          rw [hall] at hpiece
          obtain ⟨rfl, rfl⟩ := hpiece.unique hpiece'
          obtain rfl := List.append_cancel_left hall
          exact (List.prefix_append_right_inj [_]).mpr (ih htiles')

/-- A segment that is no layout makes a token. -/
theorem exists_mem_segmentTokens (h : ⟨kind, run⟩ ∈ segments) (hkind : kind ≠ .layout)
    (offset : Nat) :
    ∃ t ∈ segmentTokens offset segments, t.kind = kind ∧ t.text = String.ofList run := by
  induction segments generalizing offset with
  | nil => cases h
  | cons s segments ih =>
      obtain rfl | h := List.mem_cons.mp h
      · refine ⟨⟨kind, String.ofList run, offset⟩, ?_, rfl, rfl⟩
        rw [segmentTokens, emit, if_neg hkind]
        exact List.mem_cons_self
      · obtain ⟨t, ht, heq⟩ := ih h (offset + byteWidth s.chars)
        refine ⟨t, ?_, heq⟩
        rw [segmentTokens, emit]
        split
        · exact ht
        · exact List.mem_cons_of_mem _ ht

/-- A token is made by a segment. -/
theorem mem_segments {t : Token} (h : t ∈ segmentTokens offset segments) :
    ⟨t.kind, t.text.toList⟩ ∈ segments := by
  induction segments generalizing offset with
  | nil => cases h
  | cons s segments ih =>
      rcases mem_emit h with rfl | h
      · simp
      · exact List.mem_cons_of_mem s (ih h)

/-- A text that is scanned to its end uses the operators among its tokens. -/
theorem isUsed_iff (h : tokenize operators source = .ok ts) :
    IsUsed operators text source ↔ ∃ t ∈ ts, t.kind = .operator ∧ t.text = text := by
  obtain ⟨segments, rest, htiles, ⟨rfl, hscan⟩ | ⟨-, -, hscan⟩⟩ :=
    scan_tiles operators source.toList
  · obtain rfl := Except.ok.inj ((hscan 0).symm.trans h)
    constructor
    · rintro ⟨segments', rest', htiles', hmem⟩
      have hmem := (htiles'.prefix_of_whole htiles).subset hmem
      obtain ⟨t, ht, hkind, htext⟩ := exists_mem_segmentTokens hmem (by simp) 0
      exact ⟨t, ht, hkind, by rw [htext, String.ofList_toList]⟩
    · rintro ⟨t, ht, hkind, rfl⟩
      exact ⟨segments, [], htiles, hkind ▸ mem_segments ht⟩
  · cases (hscan 0).symm.trans h

theorem Tiles.infix_of_mem (h : Tiles operators cs segments rest) (hmem : ⟨kind, run⟩ ∈ segments) :
    run <:+: cs := by
  induction h with
  | nil => cases hmem
  | @cons kind' run' cs segments rest _ _ _ ih =>
      obtain heq | hmem := List.mem_cons.mp hmem
      · obtain ⟨-, rfl⟩ := Segment.mk.inj heq
        exact (List.prefix_append run cs).isInfix
      · exact (ih hmem).trans (List.suffix_append run' cs).isInfix

/-! ### Scanning without an operator -/

section Scanning

variable (hops : ∀ op, op ∈ operators' ↔ op = text ∨ op ∈ operators)
include hops

theorem longestFirst_subset :
    ∀ op ∈ longestFirst operators, op ∈ longestFirst operators' := by
  intro op hop
  obtain ⟨t, ht, rfl⟩ := mem_longestFirst.mp hop
  exact mem_longestFirst.mpr ⟨t, (hops t).mpr (.inr ht), rfl⟩

/-- Where nothing stands with one more operator, nothing stands without it. -/
theorem piece?_eq_none_of_more (h : piece? (longestFirst operators') cs = none) :
    piece? (longestFirst operators) cs = none := by
  obtain ⟨hbuiltin, hfind⟩ := piece?_eq_none_iff.mp h
  refine piece?_eq_none_iff.mpr ⟨hbuiltin, List.find?_eq_none.mpr fun op hop => ?_⟩
  exact List.find?_eq_none.mp hfind op (longestFirst_subset hops op hop)

/-- Another piece than the new operator was there without it. -/
theorem piece?_of_more
    (h : piece? (longestFirst operators') (run ++ rest) = some (kind, run.length))
    (hother : ¬ (kind = .operator ∧ run = text.toList)) :
    piece? (longestFirst operators) (run ++ rest) = some (kind, run.length) := by
  rw [piece?] at h ⊢
  cases hbuiltin : builtin? (run ++ rest) with
  | some hit => simpa [hbuiltin] using h
  | none =>
      obtain ⟨op, hfind, hhit⟩ : ∃ op, ((longestFirst operators').find?
          fun op => !op.isEmpty && op.isPrefixOf (run ++ rest)) = some op ∧
            (.operator, op.length) = (kind, run.length) := by
        simpa [hbuiltin] using h
      obtain ⟨rfl, hlength⟩ := Prod.mk.inj hhit
      obtain ⟨hne, hlongest⟩ := longest_of_find? hfind
      obtain rfl : op = run :=
        (List.prefix_of_prefix_length_le hlongest.front (List.prefix_append run rest)
          hlength.le).eq_of_length hlength
      -- The piece is one of the operators that were there, and the longest of them.
      obtain ⟨t, ht, rfl⟩ := hlongest.holds
      have hold : t ∈ operators :=
        ((hops t).mp ht).resolve_left fun heq => hother ⟨rfl, heq ▸ rfl⟩
      have hlongest' : Longest (IsOperator operators) t.toList (t.toList ++ rest) := by
        refine ⟨hlongest.front, ⟨t, hold, rfl⟩, fun other hfront hop => ?_⟩
        obtain ⟨u, hu, rfl⟩ := hop
        exact hlongest.longest _ hfront ⟨u, (hops u).mpr (.inr hu), rfl⟩
      cases hfind' : (longestFirst operators).find?
          fun op => !op.isEmpty && op.isPrefixOf (t.toList ++ rest) with
      | none =>
          have hnot := List.find?_eq_none.mp hfind' t.toList (mem_longestFirst.mpr ⟨t, hold, rfl⟩)
          simp [hne] at hnot
      | some other =>
          obtain rfl := (longest_of_find? hfind').2.unique hlongest'
          rfl

/-- A text that does not use the new operator is scanned as before. -/
theorem scan_of_unused (hunused : ∀ segments rest, Tiles operators' cs segments rest →
      ⟨.operator, text.toList⟩ ∉ segments) (offset : Nat) :
    scan (longestFirst operators') offset cs = scan (longestFirst operators) offset cs := by
  induction cs using piece_induction operators' generalizing offset with
  | nil => rw [scan, scan]
  | stuck cs hne hpiece =>
      have hpiece' := piece?_eq_none_of_more hops hpiece
      obtain ⟨c, cs, rfl⟩ := List.exists_cons_of_ne_nil hne
      simp [scan, hpiece, hpiece']
  | piece kind run rest hne hprescribed hpiece ih =>
      have hother : ¬ (kind = .operator ∧ run = text.toList) := by
        rintro ⟨rfl, rfl⟩
        exact hunused _ rest (.cons hne hprescribed .nil) List.mem_cons_self
      have hrest := ih fun segments rest' htiles hmem =>
        hunused _ rest' (.cons hne hprescribed htiles) (List.mem_cons_of_mem _ hmem)
      rw [scan_run hne hpiece, scan_run hne (piece?_of_more hops hpiece hother), hrest]

end Scanning

end Token

/-! ### Tables with one more operator -/

/-- The second table is the first with an operator of the text added, before its operand or between
two. -/
inductive OperatorTable.Adds (text : String) (table : OperatorTable) : OperatorTable → Prop
  | leading {op : LeadingOperator} {table' : OperatorTable} :
      table.addLeading text op = .ok table' → Adds text table table'
  | joining {op : JoiningOperator} {table' : OperatorTable} :
      table.addJoining text op = .ok table' → Adds text table table'

namespace OperatorTable.Adds

variable {text other : String} {table table' : OperatorTable}

theorem mem_texts (h : table.Adds text table') :
    other ∈ table'.texts ↔ other = text ∨ other ∈ table.texts := by
  cases h with
  | leading hadd =>
      rw [eq_of_addLeading hadd, OperatorTable.mem_texts, OperatorTable.mem_texts,
        Table.mem_keys_put, or_assoc]
  | joining hadd =>
      rw [eq_of_addJoining hadd, OperatorTable.mem_texts, OperatorTable.mem_texts,
        Table.mem_keys_put, or_left_comm]

/-- The operators of the other texts stay. -/
theorem get?_of_ne (h : table.Adds text table') (hne : other ≠ text) :
    table'.leading.get? other = table.leading.get? other ∧
      table'.joining.get? other = table.joining.get? other := by
  cases h with
  | leading hadd =>
      rw [eq_of_addLeading hadd]
      exact ⟨Table.get?_put_of_ne _ hne _, rfl⟩
  | joining hadd =>
      rw [eq_of_addJoining hadd]
      exact ⟨rfl, Table.get?_put_of_ne _ hne _⟩

end OperatorTable.Adds

namespace Parse

variable {text : String} {table table' : OperatorTable} {ts : List Token}

/-! ### Parsing without an operator -/

/-- The same token, and not the operator of the text. -/
structure SameOther (text : String) (t t' : Token) : Prop where
  eq : t = t'
  other : t.kind = .operator → t.text ≠ text

theorem alike_sameOther (h : table.Adds text table') : Alike (SameOther text) table' table where
  kind ht := congrArg Token.kind ht.eq
  text ht := congrArg Token.text ht.eq
  leading ht hk := ht.eq ▸ (h.get?_of_ne (ht.other hk)).1
  joining ht hk := ht.eq ▸ (h.get?_of_ne (ht.other hk)).2

theorem BothAbout.eq_of_sameOther {error error' : SyntaxError}
    (h : BothAbout (SameOther text) error error') : error = error' := by
  cases h with
  | unexpectedEnd => rfl
  | unexpected _ ht => rw [ht.eq]
  | noLeadingForm ht => rw [ht.eq]
  | operatorForm _ ht => rw [ht.eq]
  | trailing ht => rw [ht.eq]
  | invalidNumber ht => rw [ht.eq]

theorem ofTokens_of_unused (h : table.Adds text table')
    (hts : ∀ t ∈ ts, t.kind = .operator → t.text ≠ text) :
    ofTokens table' ts = ofTokens table ts := by
  have hmatched : Matched (SameOther text) ts ts := .of_self fun t ht => ⟨rfl, hts t ht⟩
  obtain ⟨e, he, he'⟩ | ⟨error, error', herror, herror', hboth⟩ :=
    ofTokens_agree (alike_sameOther h) hmatched
  · rw [he, he']
  · rw [herror, herror', hboth.eq_of_sameOther]

/-- **A new operator is a conservative extension.** A source text that does not use it is parsed as
before, with the same expression or the same error. A text in which its text does not stand does not
use it, and one that is scanned to its end does not if it is none of the tokens. -/
theorem parse_of_unused (h : table.Adds text table') :
    (∀ source, ¬ Token.IsUsed table'.texts text source →
      parse table' source = parse table source) ∧
    (∀ source, ¬ text.toList <:+: source.toList → ¬ Token.IsUsed table'.texts text source) ∧
    ∀ source ts, Token.tokenize table'.texts source = .ok ts →
      (∀ t ∈ ts, ¬ (t.kind = .operator ∧ t.text = text)) →
        ¬ Token.IsUsed table'.texts text source := by
  refine ⟨fun source hunused => ?_, fun source hnot => ?_, fun source ts hts hnone => ?_⟩
  · have hsame : Token.tokenize table'.texts source = Token.tokenize table.texts source :=
      Token.scan_of_unused (fun _ => h.mem_texts)
        (fun segments rest htiles hmem => hunused ⟨segments, rest, htiles, hmem⟩) 0
    rw [parse, parse, ← hsame]
    cases hts : Token.tokenize table'.texts source with
    | error error => rfl
    | ok ts =>
        refine ofTokens_of_unused h fun t ht hk htext => hunused ?_
        exact (Token.isUsed_iff hts).mpr ⟨t, ht, hk, htext⟩
  · rintro ⟨segments, rest, htiles, hmem⟩
    exact hnot (htiles.infix_of_mem hmem)
  · rw [Token.isUsed_iff hts]
    rintro ⟨t, ht, hoperator⟩
    exact hnone t ht hoperator

/-- The text of the new operator stands in a longer operator, in a string and in a comment. -/
theorem parse_of_unused_longer :
    ∃ table', OperatorTable.default.Adds ":" table' ∧
      ¬ Token.IsUsed table'.texts ":" "a:=\":\"//:" ∧
      parse table' "a:=\":\"//:" = parse .default "a:=\":\"//:" := by
  let op := OperatorTable.combining 5 "Rule" false
  let table' : OperatorTable :=
    { OperatorTable.default with joining := OperatorTable.default.joining.put ":" op }
  have hadd : OperatorTable.default.addJoining ":" op = .ok table' := by cbv
  have hadds : OperatorTable.default.Adds ":" table' := .joining hadd
  have hts : Token.tokenize table'.texts "a:=\":\"//:" =
      .ok [⟨.symbol, "a", 0⟩, ⟨.operator, ":=", 1⟩, ⟨.string, "\":\"", 3⟩] := by cbv
  have hunused := (parse_of_unused hadds).2.2 _ _ hts (by decide)
  exact ⟨table', hadds, hunused, (parse_of_unused hadds).1 _ hunused⟩

end Parse

end Reduct
