import Reduct.Proofs.Text.Slices
import Reduct.Proofs.Token.Spelling

/-!
# A source text in segments

Scanning loses nothing: a text is cut into segments one behind the other, each the piece that the
priority rule prescribes where it begins, and the tokens are the segments that are not layout, each
with its place (`tokenize_segments`). Where scanning fails nothing stands at the front of what is
left, and the text up to there is cut into the same segments when it is scanned alone.

The induction is on the segments (`Tiles`): a piece is prescribed by what stands at the front, and
that is all that the induction over a text or over a part of it needs.
-/

namespace Reduct.Token

open Text

variable {operators : List String} {cs ds rest run : List Char} {offset : Nat} {kind : Kind}

/-- A piece of a source text, token or layout. -/
structure Segment where
  kind : Kind
  chars : List Char
deriving DecidableEq

/-- The text of several segments. -/
def joined (segments : List Segment) : List Char := segments.flatMap Segment.chars

@[simp] theorem joined_nil : joined [] = [] := rfl

@[simp] theorem joined_cons (s : Segment) (ss : List Segment) :
    joined (s :: ss) = s.chars ++ joined ss := rfl

/-- The tokens among segments that begin at the byte `offset`: layout is dropped. -/
def segmentTokens (offset : Nat) : List Segment → List Token
  | [] => []
  | s :: ss => emit s.kind s.chars offset (segmentTokens (offset + byteWidth s.chars) ss)

/-- The text `cs` begins with the segments, each of them the piece prescribed where it begins, and
goes on with `rest`. -/
inductive Tiles (operators : List String) : List Char → List Segment → List Char → Prop
  | nil {rest : List Char} : Tiles operators rest [] rest
  | cons {kind : Kind} {run cs : List Char} {segments : List Segment} {rest : List Char} :
      run ≠ [] → Prescribed operators (run ++ cs) kind run → Tiles operators cs segments rest →
        Tiles operators (run ++ cs) (⟨kind, run⟩ :: segments) rest

/-- The tokens of a piece and of the segments behind it, in front of whatever comes next. -/
theorem map_emit_segmentTokens (kind : Kind) (run : List Char) (segments : List Segment)
    (offset : Nat) (r : Except SyntaxError (List Token)) :
    (r.map (segmentTokens (offset + byteWidth run) segments ++ ·)).map (emit kind run offset) =
      r.map (segmentTokens offset (⟨kind, run⟩ :: segments) ++ ·) := by
  cases r with
  | error e => rfl
  | ok ts =>
      simp only [Except.map, segmentTokens, emit]
      split <;> rfl

namespace Tiles

variable {segments : List Segment}

theorem joined_append (h : Tiles operators cs segments rest) : joined segments ++ rest = cs := by
  induction h with
  | nil => rfl
  | cons _ _ _ ih => rw [joined_cons, List.append_assoc, ih]

/-- The segments are those of the text that they make up, too. -/
theorem alone (h : Tiles operators cs segments rest) :
    Tiles operators (joined segments) segments [] := by
  induction h with
  | nil => exact .nil
  | @cons kind run cs segments rest hne hpiece htiles ih =>
      have hfront : joined segments <+: cs := ⟨rest, htiles.joined_append⟩
      exact .cons hne (hpiece.of_front ((List.prefix_append_right_inj run).mpr hfront)
        (List.prefix_append run _)) ih

/-- Scanning gives the tokens of the segments and goes on behind them. -/
theorem scan_eq (h : Tiles operators cs segments rest) (hops : ∀ op ∈ operators, op ≠ "")
    (offset : Nat) :
    scan (longestFirst operators) offset cs =
      (scan (longestFirst operators) (offset + byteWidth (joined segments)) rest).map
        (segmentTokens offset segments ++ ·) := by
  induction h generalizing offset with
  | nil =>
      simp only [joined_nil, byteWidth_nil, Nat.add_zero, segmentTokens, List.nil_append]
      cases scan (longestFirst operators) offset _ <;> rfl
  | @cons kind run cs segments rest hne hpiece _ ih =>
      rw [scan_run hne (piece?_of_prescribed hops hpiece), ih, joined_cons, byteWidth_append,
        Nat.add_assoc]
      exact map_emit_segmentTokens kind run segments offset _

end Tiles

/-- **Scanning goes by pieces.** What holds of the empty text and where nothing stands, and of a
text with a piece at the front if it holds of what follows, holds of every text. -/
theorem piece_induction (operators : List String) {motive : List Char → Prop} (nil : motive [])
    (stuck : ∀ cs, cs ≠ [] → piece? (longestFirst operators) cs = none → motive cs)
    (piece : ∀ kind run rest, run ≠ [] → Prescribed operators (run ++ rest) kind run →
      piece? (longestFirst operators) (run ++ rest) = some (kind, run.length) → motive rest →
        motive (run ++ rest))
    (cs : List Char) : motive cs := by
  induction hn : cs.length using Nat.strong_induction_on generalizing cs with
  | _ n ih =>
      subst hn
      by_cases hnil : cs = []
      · exact hnil ▸ nil
      cases hpiece : piece? (longestFirst operators) cs with
      | none => exact stuck cs hnil hpiece
      | some hit =>
          obtain ⟨kind, n⟩ := hit
          obtain ⟨run, rfl, hne, hprescribed⟩ := prescribed_of_piece? hpiece
          obtain ⟨rest, rfl⟩ := hprescribed.front
          have hshorter : rest.length < (run ++ rest).length := by
            have := List.length_pos_iff.mpr hne
            rw [List.length_append]
            omega
          exact piece kind run rest hne hprescribed hpiece (ih rest.length hshorter rest rfl)

/-- **What scanning gives.** A text is cut into segments up to its end, and the tokens are theirs,
or up to where nothing stands, and the error is about that place. -/
theorem scan_tiles (operators : List String) (cs : List Char) :
    ∃ segments rest, Tiles operators cs segments rest ∧
      ((rest = [] ∧ ∀ offset,
          scan (longestFirst operators) offset cs = .ok (segmentTokens offset segments)) ∨
        (rest ≠ [] ∧ piece? (longestFirst operators) rest = none ∧ ∀ offset,
          scan (longestFirst operators) offset cs =
            .error (.lexical (offset + byteWidth (joined segments))
              (String.ofList (rest.take 12))))) := by
  induction cs using piece_induction operators with
  | nil => exact ⟨[], [], .nil, .inl ⟨rfl, fun offset => by rw [scan]; rfl⟩⟩
  | stuck cs hne hpiece =>
      refine ⟨[], cs, .nil, .inr ⟨hne, hpiece, fun offset => ?_⟩⟩
      obtain ⟨c, cs, rfl⟩ := List.exists_cons_of_ne_nil hne
      simp [scan, hpiece]
  | piece kind run ds hne hprescribed hpiece ih =>
      obtain ⟨segments, rest, htiles, hend⟩ := ih
      refine ⟨⟨kind, run⟩ :: segments, rest, .cons hne hprescribed htiles, ?_⟩
      obtain ⟨hnil, hscan⟩ | ⟨hrest, hstuck, hscan⟩ := hend
      · refine .inl ⟨hnil, fun offset => ?_⟩
        rw [scan_run hne hpiece, hscan]
        rfl
      · refine .inr ⟨hrest, hstuck, fun offset => ?_⟩
        rw [scan_run hne hpiece, hscan, joined_cons, byteWidth_append, Nat.add_assoc]
        rfl

/-- Every text is cut into segments up to its end, or up to where nothing stands. -/
theorem exists_tiles (operators : List String) (cs : List Char) :
    ∃ segments rest, Tiles operators cs segments rest ∧
      (rest = [] ∨ rest ≠ [] ∧ piece? (longestFirst operators) rest = none) := by
  obtain ⟨segments, rest, htiles, hend⟩ := scan_tiles operators cs
  exact ⟨segments, rest, htiles, hend.imp And.left fun h => ⟨h.1, h.2.1⟩⟩

/-- A text that scanning goes through is cut into segments up to its end. -/
theorem exists_tiles_of_scan {ts : List Token} (hops : ∀ op ∈ operators, op ≠ "")
    (h : scan (longestFirst operators) offset cs = .ok ts) :
    ∃ segments, Tiles operators cs segments [] ∧ ts = segmentTokens offset segments := by
  obtain ⟨segments, rest, htiles, hend⟩ := exists_tiles operators cs
  rw [htiles.scan_eq hops] at h
  rcases hend with rfl | ⟨hne, hpiece⟩
  · refine ⟨segments, htiles, ?_⟩
    simpa [scan, Except.map, eq_comm] using h
  · obtain ⟨c, cs, rfl⟩ := List.exists_cons_of_ne_nil hne
    simp [scan, hpiece, Except.map] at h

/-! ### Where the tokens are -/

/-- The text stands in the source at the byte `offset`. -/
def StandsAt (source : List Char) (text : String) (offset : Nat) : Prop :=
  ∃ before after, source = before ++ text.toList ++ after ∧ byteWidth before = offset

theorem StandsAt.behind {text : String} (h : StandsAt cs text offset) (before : List Char) :
    StandsAt (before ++ cs) text (byteWidth before + offset) := by
  obtain ⟨inner, after, rfl, rfl⟩ := h
  exact ⟨before ++ inner, after, by simp, byteWidth_append before inner⟩

theorem mem_emit {t : Token} {ts : List Token} (h : t ∈ emit kind run offset ts) :
    t = ⟨kind, String.ofList run, offset⟩ ∨ t ∈ ts := by
  rw [emit] at h
  split at h
  · exact .inr h
  · exact List.mem_cons.mp h

/-- Each token stands where it says, behind what comes before the segments. -/
theorem standsAt_of_mem {segments : List Segment} :
    ∀ offset, ∀ t ∈ segmentTokens offset segments,
      ∃ o, t.offset = offset + o ∧ StandsAt (joined segments) t.text o := by
  induction segments with
  | nil => simp [segmentTokens]
  | cons s segments ih =>
      intro offset t ht
      rcases mem_emit ht with rfl | ht
      · exact ⟨0, rfl, [], joined segments, by simp, rfl⟩
      · obtain ⟨o, ho, hstands⟩ := ih _ t ht
        exact ⟨byteWidth s.chars + o, by rw [ho, Nat.add_assoc], hstands.behind s.chars⟩

theorem Prescribed.spelled (h : Prescribed operators cs kind run) :
    kind = .operator ∨ Spelled kind (String.ofList run).toList := by
  cases h with
  | builtin _ _ hlongest => exact .inr (by simpa using hlongest.holds)
  | operator _ _ => exact .inl rfl

/-- Each token is an operator or spelled as its kind is. -/
theorem Tiles.spelled {segments : List Segment} (h : Tiles operators cs segments rest) :
    ∀ offset, ∀ t ∈ segmentTokens offset segments,
      t.kind = .operator ∨ Spelled t.kind t.text.toList := by
  induction h with
  | nil => simp [segmentTokens]
  | @cons kind run cs segments rest _ hpiece _ ih =>
      intro offset t ht
      rcases mem_emit ht with rfl | ht
      · exact hpiece.spelled
      · exact ih _ t ht

/-- Each token that scanning gives is an operator or spelled as its kind is. -/
theorem spelled_of_scan {ts : List Token} (h : scan (longestFirst operators) offset cs = .ok ts) :
    ∀ t ∈ ts, t.kind = .operator ∨ Spelled t.kind t.text.toList := by
  obtain ⟨segments, rest, htiles, ⟨-, hscan⟩ | ⟨-, -, hscan⟩⟩ := scan_tiles operators cs
  · obtain rfl := Except.ok.inj ((hscan offset).symm.trans h)
    exact htiles.spelled offset
  · cases (hscan offset).symm.trans h

/-- Each token starts in the text that is cut. -/
theorem Tiles.offset_lt {segments : List Segment} (h : Tiles operators cs segments rest) :
    ∀ offset, ∀ t ∈ segmentTokens offset segments,
      offset ≤ t.offset ∧ t.offset < offset + byteWidth cs := by
  induction h with
  | nil => simp [segmentTokens]
  | @cons kind run cs segments rest hne _ _ ih =>
      intro offset t ht
      have hpos := byteWidth_pos hne
      rw [byteWidth_append]
      rcases mem_emit ht with rfl | ht
      · exact ⟨le_rfl, by simp only; omega⟩
      · have hbounds : offset + byteWidth run ≤ t.offset ∧
            t.offset < offset + byteWidth run + byteWidth cs := ih _ t ht
        omega

/-- Each token starts behind those before it. -/
theorem Tiles.pairwise_offset {segments : List Segment} (h : Tiles operators cs segments rest) :
    ∀ offset, (segmentTokens offset segments).Pairwise (·.offset < ·.offset) := by
  induction h with
  | nil => exact fun _ => .nil
  | @cons kind run cs segments rest hne _ _ ih =>
      intro offset
      rw [segmentTokens, emit]
      split
      · exact ih _
      · refine .cons (fun t ht => ?_) (ih _)
        obtain ⟨o, ho, -⟩ := standsAt_of_mem _ t ht
        have := byteWidth_pos hne
        simp only [ho]
        omega

/-! ### Scanning a source text -/

/-- The source is cut into the segments without a rest, and the tokens are those of the
segments. -/
structure CutInto (operators : List String) (source : String) (segments : List Segment)
    (ts : List Token) : Prop where
  tiles : Tiles operators source.toList segments []
  /-- Nothing is lost. -/
  joined_eq : joined segments = source.toList
  tokens_eq : ts = segmentTokens 0 segments
  standsAt : ∀ t ∈ ts, StandsAt source.toList t.text t.offset
  increasing : ts.Pairwise (·.offset < ·.offset)

/-- After the segments nothing stands at the byte `offset` of the source; `near` is the text from
there. -/
structure StuckAt (operators : List String) (source : String) (segments : List Segment)
    (rest : List Char) (offset : Nat) (near : String) : Prop where
  tiles : Tiles operators source.toList segments rest
  joined_append : joined segments ++ rest = source.toList
  /-- The place is the boundary of a character, and the character is in the source. -/
  offset_eq : byteWidth (joined segments) = offset
  rest_ne_nil : rest ≠ []
  unrecognized : Unrecognized operators rest
  near_eq : near = String.ofList (rest.take 12)

/-- **Scanning loses nothing and keeps to its priority.** When a source text is cut into tokens,
it is made up of segments, each the piece prescribed where it begins, and the tokens are those that
are not layout, each standing where it says and behind the one before it. When it is not, scanning
stopped at a character where nothing stands, and the text before it is cut into the tokens found
up to there. -/
theorem tokenize_segments {operators : List String} (hops : ∀ op ∈ operators, op ≠ "")
    (source : String) :
    (∀ ts, tokenize operators source = .ok ts → ∃ segments, CutInto operators source segments ts) ∧
    ∀ e, tokenize operators source = .error e →
      ∃ segments rest offset near, e = .lexical offset near ∧
        StuckAt operators source segments rest offset near ∧
        tokenize operators (String.ofList (joined segments)) = .ok (segmentTokens 0 segments) := by
  refine ⟨fun ts hts => ?_, fun e he => ?_⟩
  · obtain ⟨segments, htiles, rfl⟩ := exists_tiles_of_scan hops hts
    have hjoined : joined segments = source.toList := by
      rw [← htiles.joined_append, List.append_nil]
    refine ⟨segments, htiles, hjoined, rfl, fun t ht => ?_, htiles.pairwise_offset 0⟩
    obtain ⟨o, ho, hstands⟩ := standsAt_of_mem 0 t ht
    rwa [ho, Nat.zero_add, ← hjoined]
  · obtain ⟨segments, rest, htiles, hend⟩ := exists_tiles operators source.toList
    have hscan := htiles.scan_eq hops 0
    have halone := htiles.alone.scan_eq hops 0
    rw [tokenize, hscan, Nat.zero_add] at he
    rcases hend with rfl | ⟨hne, hpiece⟩
    · simp [scan, Except.map] at he
    · -- Nothing stands behind the segments.
      have hnear : e = .lexical (byteWidth (joined segments)) (String.ofList (rest.take 12)) := by
        obtain ⟨c, cs, rfl⟩ := List.exists_cons_of_ne_nil hne
        simpa [scan, hpiece, Except.map, eq_comm] using he
      refine ⟨segments, rest, _, _, hnear, ⟨htiles, htiles.joined_append, rfl, hne,
        unrecognized_of_piece?_eq_none hops hpiece, rfl⟩, ?_⟩
      rw [tokenize, String.toList_ofList, halone, scan]
      simp [Except.map]

/-- The longer of two operators, a comment, and a character that nothing begins with. -/
theorem tokenize_segments_comment :
    (∀ op ∈ ["*", "**"], op ≠ "") ∧
    (∃ segments, CutInto ["*", "**"] "a**2 // b\n" segments
      [⟨.symbol, "a", 0⟩, ⟨.operator, "**", 1⟩, ⟨.number, "2", 3⟩]) ∧
    ∃ segments rest, StuckAt ["*", "**"] "f * $" segments rest 4 "$" ∧
      tokenize ["*", "**"] (String.ofList (joined segments)) =
        .ok (segmentTokens 0 segments) := by
  have hops : ∀ op ∈ ["*", "**"], op ≠ "" := by decide
  have hcut : tokenize ["*", "**"] "a**2 // b\n" =
      .ok [⟨.symbol, "a", 0⟩, ⟨.operator, "**", 1⟩, ⟨.number, "2", 3⟩] := by cbv
  have hstuck : tokenize ["*", "**"] "f * $" = .error (.lexical 4 "$") := by cbv
  obtain ⟨segments, rest, offset, near, heq, hat, hbefore⟩ :=
    (tokenize_segments hops "f * $").2 _ hstuck
  obtain ⟨rfl, rfl⟩ := SyntaxError.lexical.inj heq
  exact ⟨hops, (tokenize_segments hops "a**2 // b\n").1 _ hcut, segments, rest, hat, hbefore⟩

end Reduct.Token
