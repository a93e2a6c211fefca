import Mathlib.Data.List.Chain
import Reduct.Proofs.Operation.Bytes

/-!
# Splitting texts

A text that is split is cut into pieces and separators. A separator is cut off wherever one
stands, the first in the list of those that do, and a piece goes on from one separator to the next
(`Cut`). So nothing of the text is lost, and what is left of it between the separators holds none
of them (`split_segments`).

That a piece holds no separator is seen from the places it was read at: none stood at any of them,
not even one that reaches beyond the piece (`Clear`).
-/

namespace Reduct.Operation.Strings

/-- What a text that is split is cut into. -/
inductive Segment where
  | piece (chars : List Char)
  | separator (chars : List Char)

namespace Segment

def chars : Segment → List Char
  | piece chars => chars
  | separator chars => chars

def piece? : Segment → Option (List Char)
  | piece chars => some chars
  | separator _ => none

end Segment

/-- The text that segments make up. -/
def joined (segments : List Segment) : List Char := segments.flatMap Segment.chars

@[simp] theorem joined_nil : joined [] = [] := rfl

@[simp] theorem joined_cons (s : Segment) (ss : List Segment) :
    joined (s :: ss) = s.chars ++ joined ss := rfl

variable {separators : List (List Char)} {s p piece cs rest : List Char} {segments : List Segment}

/-! ### The separator at a place -/

/-- No separator stands at the front of `cs`; an empty one never does. -/
def NoneStands (separators : List (List Char)) (cs : List Char) : Prop :=
  ∀ s ∈ separators, s ≠ [] → ¬ s <+: cs

/-- Of the separators that stand at the front of `cs`, `s` is the first in the list. -/
structure FirstStands (separators : List (List Char)) (s cs : List Char) : Prop where
  ne_nil : s ≠ []
  front : s <+: cs
  first : ∃ earlier later, separators = earlier ++ s :: later ∧ NoneStands earlier cs

theorem separator?_eq_none_iff : separator? separators cs = none ↔ NoneStands separators cs := by
  simp only [separator?, List.find?_eq_none, Bool.and_eq_true, Bool.not_eq_true', NoneStands,
    List.isEmpty_eq_false_iff, List.isPrefixOf_iff_prefix, not_and]

theorem separator?_eq_some_iff :
    separator? separators cs = some s ↔ FirstStands separators s cs := by
  simp only [separator?, List.find?_eq_some_iff_append, Bool.and_eq_true, Bool.not_eq_true',
    ← Bool.not_eq_true, List.isEmpty_iff, List.isPrefixOf_iff_prefix, not_and]
  constructor
  · rintro ⟨⟨hne, hfront⟩, earlier, later, hlist, hearlier⟩
    exact ⟨hne, hfront, earlier, later, hlist, hearlier⟩
  · rintro ⟨hne, hfront, earlier, later, hlist, hearlier⟩
    exact ⟨⟨hne, hfront⟩, earlier, later, hlist, hearlier⟩

/-! ### Pieces -/

/-- No separator stands at a place of `p`, where `rest` comes behind it. -/
def Clear (separators : List (List Char)) (p rest : List Char) : Prop :=
  ∀ before after, p = before ++ after → after ≠ [] → NoneStands separators (after ++ rest)

theorem Clear.nil (separators : List (List Char)) (rest : List Char) :
    Clear separators [] rest := by
  intro before after hp hne
  exact absurd (List.append_eq_nil_iff.mp hp.symm).2 hne

/-- A character at which no separator stands goes to the piece before it. -/
theorem Clear.concat {c : Char} (h : Clear separators p (c :: cs))
    (hc : NoneStands separators (c :: cs)) : Clear separators (p ++ [c]) cs := by
  intro before after hp hne
  obtain ⟨front, d, rfl⟩ := (List.eq_nil_or_concat after).resolve_left hne
  rw [List.concat_eq_append, ← List.append_assoc] at hp
  obtain ⟨rfl, hd⟩ := List.append_inj' hp rfl
  obtain rfl := List.singleton_inj.mp hd
  rw [List.concat_eq_append, List.append_assoc, List.singleton_append]
  by_cases hfront : front = []
  · simpa [hfront] using hc
  · exact h before front rfl hfront

/-- A piece at whose places no separator stands holds none. -/
theorem Clear.free_of (h : Clear separators p rest) (hs : s ∈ separators) (hne : s ≠ []) :
    ¬ s <:+: p := by
  rintro ⟨before, after, hp⟩
  rw [List.append_assoc] at hp
  refine h before (s ++ after) hp.symm (by simp [hne]) s hs hne ?_
  rw [List.append_assoc]
  exact List.prefix_append s _

/-! ### Cuts -/

/-- A segment is in its place in front of `rest`: at a piece no separator stands, and a separator is
the one that does. -/
def Segment.Placed (separators : List (List Char)) : Segment → (rest : List Char) → Prop
  | .piece p, rest => p ≠ [] ∧ Clear separators p rest
  | .separator s, rest => FirstStands separators s (s ++ rest)

/-- The text is cut into the segments. -/
inductive Cut (separators : List (List Char)) : List Char → List Segment → Prop
  | nil : Cut separators [] []
  | separator {s cs : List Char} {segments : List Segment} :
      FirstStands separators s (s ++ cs) → Cut separators cs segments →
        Cut separators (s ++ cs) (.separator s :: segments)
  | piece {p cs : List Char} {segments : List Segment} :
      p ≠ [] → Clear separators p cs → (∀ next ∈ segments.head?, next.piece? = none) →
        Cut separators cs segments → Cut separators (p ++ cs) (.piece p :: segments)

namespace Cut

theorem joined_eq (h : Cut separators cs segments) : joined segments = cs := by
  induction h with
  | nil => rfl
  | separator _ _ ih => rw [joined_cons, ih]; rfl
  | piece _ _ _ _ ih => rw [joined_cons, ih]; rfl

/-- No two pieces come one after the other. -/
theorem isChain (h : Cut separators cs segments) :
    segments.IsChain fun a b => a.piece? = none ∨ b.piece? = none := by
  induction h with
  | nil => exact .nil
  | separator _ _ ih => exact List.isChain_cons.mpr ⟨fun _ _ => .inl rfl, ih⟩
  | piece _ _ hnext _ ih => exact List.isChain_cons.mpr ⟨fun b hb => .inr (hnext b hb), ih⟩

/-- Every segment is in its place in front of those behind it. -/
theorem placed {before after : List Segment} {segment : Segment}
    (h : Cut separators cs (before ++ segment :: after)) :
    segment.Placed separators (joined after) := by
  induction before generalizing cs with
  | nil =>
      cases h with
      | separator hs hcut => rwa [hcut.joined_eq]
      | piece hne hclear _ hcut => exact ⟨hne, by rwa [hcut.joined_eq]⟩
  | cons first before ih =>
      cases h with
      | separator _ hcut => exact ih hcut
      | piece _ _ _ hcut => exact ih hcut

end Cut

/-- A piece that a separator or the end of the text follows, unless it is empty. -/
theorem Cut.behind_piece (hclear : Clear separators p cs) (h : Cut separators cs segments)
    (hnext : ∀ next ∈ segments.head?, next.piece? = none) :
    Cut separators (p ++ cs) ((if p = [] then [] else [.piece p]) ++ segments) := by
  by_cases hp : p = []
  · simpa [hp] using h
  · simpa [hp] using Cut.piece hp hclear hnext h

/-- **The pieces of a cut.** The pieces read from a text behind a first piece are those of a cut
of both. -/
theorem exists_cut (hclear : Clear separators piece.reverse cs) :
    ∃ segments, Cut separators (piece.reverse ++ cs) segments ∧
      pieces separators piece cs = segments.filterMap Segment.piece? := by
  induction hn : cs.length using Nat.strong_induction_on generalizing piece cs with
  | _ n ih =>
      subst hn
      cases cs with
      | nil =>
          refine ⟨_, Cut.behind_piece hclear .nil (by simp), ?_⟩
          rw [pieces]
          by_cases hpiece : piece = [] <;> simp [hpiece, Segment.piece?]
      | cons c cs =>
          cases hseparator : separator? separators (c :: cs) with
          | none =>
              have hnone := separator?_eq_none_iff.mp hseparator
              have hclear' : Clear separators (c :: piece).reverse cs := by
                rw [List.reverse_cons]
                exact hclear.concat hnone
              rw [pieces_of_no_separator hseparator]
              simpa using ih cs.length (Nat.lt_succ_self _) hclear' rfl
          | some s =>
              have hfirst := separator?_eq_some_iff.mp hseparator
              obtain ⟨rest, hrest⟩ := hfirst.front
              rw [← hrest] at hseparator hfirst hclear ⊢
              have hshorter : rest.length < (c :: cs).length := by
                have := List.length_pos_iff.mpr hfirst.ne_nil
                rw [← hrest, List.length_append]
                omega
              obtain ⟨segments, hcut, hpieces⟩ :=
                @ih rest.length hshorter [] rest (Clear.nil separators rest) rfl
              refine ⟨_, Cut.behind_piece hclear (.separator hfirst hcut) ?_, ?_⟩
              · simp [Segment.piece?]
              · rw [pieces_of_separator hseparator, hpieces]
                by_cases hpiece : piece = [] <;> simp [hpiece, Segment.piece?, List.filterMap_cons]

/-! ### Splitting a string -/

/-- The arguments after the text name the separators: one by one, or as the items of a list. -/
inductive Naming : List Expr → List String → Prop
  | each (separators : List String) : Naming (separators.map .string) separators
  | listed (separators : List String) (held held' : Bool) :
      Naming [.apply (.symbol "List" held) (separators.map .string) held'] separators

theorem mapM_string?_map (texts : List String) :
    (texts.map Expr.string).mapM Expr.string? = some texts := by
  induction texts with
  | nil => rfl
  | cons text texts ih => simp [Expr.string?, ih]

theorem Naming.mapM_string? {others : List Expr} {separators : List String}
    (h : Naming others separators) :
    (separatorExprs others).mapM Expr.string? = some separators := by
  have hexprs : separatorExprs others = separators.map .string := by
    cases h with
    | each =>
        match separators with
        | [] | [_] | _ :: _ :: _ => rfl
    | listed held held' => simp [separatorExprs, Expr.isCall, Expr.symbol?, Expr.args]
  rw [hexprs, mapM_string?_map]

/-- The text is made up of the segments, which are pieces and separators by turns as the list of
separators demands. -/
structure SplitsInto (separators : List (List Char)) (text : List Char)
    (segments : List Segment) : Prop where
  /-- Nothing is lost. -/
  joined_eq : joined segments = text
  piece_ne_nil : ∀ p, .piece p ∈ segments → p ≠ []
  /-- Of two neighbours one is a separator. -/
  apart : segments.IsChain fun a b => a.piece? = none ∨ b.piece? = none
  /-- No piece holds a separator. -/
  free_of : ∀ p, .piece p ∈ segments → ∀ s ∈ separators, s ≠ [] → ¬ s <:+: p
  /-- Nor does one begin in a piece and end behind it. -/
  clear : ∀ before p after, segments = before ++ .piece p :: after →
    Clear separators p (joined after)
  /-- A separator is the first in the list of those that stand where it does. -/
  first : ∀ before s after, segments = before ++ .separator s :: after →
    FirstStands separators s (s ++ joined after)

theorem Cut.splitsInto (h : Cut separators cs segments) : SplitsInto separators cs segments where
  joined_eq := h.joined_eq
  piece_ne_nil p hp := by
    obtain ⟨before, after, rfl⟩ := List.append_of_mem hp
    exact h.placed.1
  apart := h.isChain
  free_of p hp s hs hne := by
    obtain ⟨before, after, rfl⟩ := List.append_of_mem hp
    exact h.placed.2.free_of hs hne
  clear before p after hsegments := by
    subst hsegments
    exact h.placed.2
  first before s after hsegments := by
    subst hsegments
    exact h.placed

/-- **Splitting loses nothing and leaves no separator.** The text is cut into pieces and
separators, and what is given back are the pieces of the cut. They are found by going through the
text once with two bytes kept, a round for each character at most and one at the end. -/
theorem split_segments {others : List Expr} {separators : List String}
    (h : Naming others separators) (text : String) :
    ∃ segments found, SplitsInto (separators.map String.toList) text.toList segments ∧
      found = segments.filterMap Segment.piece? ∧
      piecesFrom? (separators.map String.toList) text.toList (text.toList.length + 1) 0 0 =
        some found ∧
      split (.string text :: others) =
        .ok (.list (found.map fun p => .string (String.ofList p))) := by
  obtain ⟨segments, hcut, hpieces⟩ :=
    @exists_cut (separators.map String.toList) [] text.toList (Clear.nil _ _)
  refine ⟨segments, _, hcut.splitsInto, hpieces, piecesFrom?_zero _ _, ?_⟩
  rw [split, h.mapM_string?]

/-- Separators that overlap, and an empty one that stands nowhere. -/
theorem split_segments_overlapping :
    let others : List Expr := [.list [.string "", .string "ab", .string "b", .string "a"]]
    let separators := ["", "ab", "b", "a"]
    Naming others separators ∧
    ∃ segments, SplitsInto (separators.map String.toList) "xbaéabb".toList segments ∧
      segments.filterMap Segment.piece? = [['x'], ['é']] ∧
      split (.string "xbaéabb" :: others) = .ok (.list [.string "x", .string "é"]) := by
  intro others separators
  have hnaming : Naming others separators := .listed separators false false
  obtain ⟨segments, found, hsplits, hfound, hloop, hsplit⟩ := split_segments hnaming "xbaéabb"
  have hrun : piecesFrom? (separators.map String.toList) "xbaéabb".toList
      ("xbaéabb".toList.length + 1) 0 0 = some [['x'], ['é']] := by rfl
  obtain rfl : [['x'], ['é']] = found := Option.some.inj (hrun.symm.trans hloop)
  exact ⟨hnaming, segments, hsplits, hfound.symm, hsplit⟩

end Reduct.Operation.Strings
