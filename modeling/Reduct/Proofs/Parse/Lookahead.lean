import Reduct.Proofs.Parse.Steps

/-!
# One token of lookahead

What the parser gives depends on the tokens that it has read and on the one behind them. More tokens
behind its input therefore change little (`Online`). A reading that stopped before the end gives the
same, and one that went to the end does if the next token extends no expression. An error that is
not about the end stays the error. And where the input ended too early, there are tokens that
complete it: a symbol where an operand is missing, and then what closes the open brackets and
groups.

This goes through sequences of readers (`Online.bind`), so it is proved of each function of the
parser from its equations, by induction on the number of tokens (`online`).
-/

namespace Reduct.Parse

open Token (Kind)

variable {α β : Type} {p : Reader α} {q : α → Reader β} {ts rest us : List Token} {t u : Token}
  {table : OperatorTable} {introducer : Option String} {floor : Option Int} {left e : Expr}

/-! ### What can stand behind -/

/-- The first token extends no expression before it: it is no operator and no bracket that opens,
and no number that could belong to a sign. -/
def Closed (us : List Token) : Prop :=
  ∀ u ∈ us.head?, u.kind ∉ [Kind.operator, .openBracket, .number]

/-- The first token is no number right behind a token of `ts`. -/
def Apart (ts us : List Token) : Prop :=
  ∀ u ∈ us.head?, u.kind = .number → ∀ t ∈ ts, u.offset ≠ t.offset + 1

/-- The kinds of tokens that complete an input: operands and what closes. -/
def Completing (kinds : List Kind) : Prop :=
  ∀ k ∈ kinds, k ∈ [Kind.symbol, .closeBracket, .closeGroup]

theorem Closed.apart (h : Closed us) : Apart ts us := by
  intro u hu hnumber
  exact absurd (by simp [hnumber]) (h u hu)

theorem Apart.of_suffix (h : Apart ts us) (hrest : rest <:+ ts) : Apart rest us :=
  fun u hu hnumber t ht => h u hu hnumber t (hrest.subset ht)

theorem closed_nil : Closed [] := by simp [Closed]

theorem Completing.closed_append (h : Completing (us.map Token.kind)) (hrest : Closed rest) :
    Closed (us ++ rest) := by
  cases us with
  | nil => exact hrest
  | cons u us =>
      rintro _ ⟨⟩
      have hu := h u.kind (by simp)
      revert hu
      cases u.kind <;> decide

/-! ### Readers that more input does not change -/

/-- What `p` gives for `ts` is what it gives with more tokens behind. -/
structure Online (p : Reader α) (ts : List Token) : Prop where
  suffix : ∀ {a rest}, p ts = .ok (a, rest) → rest <:+ ts
  goesOn : ∀ {a rest us}, p ts = .ok (a, rest) → Apart ts us → (rest = [] → Closed us) →
    p (ts ++ us) = .ok (a, rest ++ us)
  fails : ∀ {error us}, p ts = .error error → error ≠ .unexpectedEnd → Apart ts us →
    p (ts ++ us) = .error error
  /-- Without any token only the end can be unexpected. -/
  ends : ts = [] → ∀ {error}, p ts = .error error → error = .unexpectedEnd
  completes : p ts = .error .unexpectedEnd → ∃ kinds, Completing kinds ∧ kinds ≠ [] ∧
    ∀ us rest, us.map Token.kind = kinds → Closed rest → ∃ a, p (ts ++ (us ++ rest)) = .ok (a, rest)

/-- What goes on with `q` can be completed from nothing, in one way for all values. -/
def Completable (q : α → Reader β) : Prop :=
  ∃ kinds, Completing kinds ∧ ∀ a us rest, us.map Token.kind = kinds → Closed rest →
    ∃ b, q a (us ++ rest) = .ok (b, rest)

theorem online_pure (a : α) (ts : List Token) : Online (pure a : Reader α) ts where
  suffix h := by
    obtain ⟨-, rfl⟩ := Prod.mk.inj (Except.ok.inj h)
    exact List.suffix_refl ts
  goesOn h _ _ := by
    obtain ⟨rfl, rfl⟩ := Prod.mk.inj (Except.ok.inj h)
    rfl
  fails h := by cases h
  ends _ _ h := by cases h
  completes h := by cases h

/-- A reader that goes on with a part of the input as another one. -/
theorem Online.of_eq {p' : Reader α} {ts' : List Token} (h : Online p' ts') (hsuffix : ts' <:+ ts)
    (heq : ∀ us, Apart ts us → p (ts ++ us) = p' (ts' ++ us)) : Online p ts := by
  have hbare : p ts = p' ts' := by
    simpa using heq [] closed_nil.apart
  constructor
  · intro a rest hp
    exact (h.suffix (hbare ▸ hp)).trans hsuffix
  · intro a rest us hp hapart hclosed
    rw [heq us hapart]
    exact h.goesOn (hbare ▸ hp) (hapart.of_suffix hsuffix) hclosed
  · intro error us hp hne hapart
    rw [heq us hapart]
    exact h.fails (hbare ▸ hp) hne (hapart.of_suffix hsuffix)
  · intro hnil error hp
    subst hnil
    exact h.ends (List.suffix_nil.mp hsuffix) (hbare ▸ hp)
  · intro hp
    obtain ⟨kinds, hkinds, hne, hreads⟩ := h.completes (hbare ▸ hp)
    refine ⟨kinds, hkinds, hne, fun us rest hus hrest => ?_⟩
    have hclosed : Closed (us ++ rest) := Completing.closed_append (hus ▸ hkinds) hrest
    rw [heq _ hclosed.apart]
    exact hreads us rest hus hrest

/-- An error about the first token. -/
theorem Online.of_error {error : SyntaxError} (hts : ts ≠ []) (hne : error ≠ .unexpectedEnd)
    (h : ∀ us, p (ts ++ us) = .error error) : Online p ts := by
  have hbare : p ts = .error error := by simpa using h []
  constructor
  · intro a rest hp
    exact absurd (hbare.symm.trans hp) (by simp)
  · intro a rest us hp
    exact absurd (hbare.symm.trans hp) (by simp)
  · intro error' us hp _ _
    obtain rfl := Except.error.inj (hbare.symm.trans hp)
    exact h us
  · exact fun hnil => absurd hnil hts
  · intro hp
    exact absurd (Except.error.inj (hbare.symm.trans hp)) hne

/-- Where a token is missing, one of the right kind completes the input. -/
theorem Online.of_nil (kind : Kind) (hkind : Completing [kind])
    (h : p [] = .error .unexpectedEnd)
    (hreads : ∀ u rest, u.kind = kind → ∃ a, p (u :: rest) = .ok (a, rest)) : Online p [] := by
  constructor
  · intro a rest hp
    exact absurd (h.symm.trans hp) (by simp)
  · intro a rest us hp
    exact absurd (h.symm.trans hp) (by simp)
  · intro error us hp hne
    exact absurd (Except.error.inj (h.symm.trans hp)).symm hne
  · intro _ error hp
    exact (Except.error.inj (h.symm.trans hp)).symm
  · intro _
    refine ⟨[kind], hkind, by simp, fun us rest hus _ => ?_⟩
    obtain ⟨u, rfl, hu⟩ := List.map_eq_singleton_iff.mp hus
    exact hreads u rest hu

/-- Where the end comes too early, the first reader is completed and the second read from nothing, or
the second one is completed. -/
theorem Online.bind_completes (hp : Online p ts)
    (hq : ∀ a rest, p ts = .ok (a, rest) → Online (q a) rest) (hcompletable : Completable q)
    (h : (p >>= q) ts = .error .unexpectedEnd) :
    ∃ kinds, Completing kinds ∧ kinds ≠ [] ∧ ∀ us rest, us.map Token.kind = kinds → Closed rest →
      ∃ b, (p >>= q) (ts ++ (us ++ rest)) = .ok (b, rest) := by
  rcases bind_eq_error_iff.mp h with ha | ⟨a, rest, ha, hb⟩
  · -- Complete the first reader, then go on from nothing.
    obtain ⟨kinds, hkinds, hne, hfirst⟩ := hp.completes ha
    obtain ⟨kinds', hkinds', hsecond⟩ := hcompletable
    refine ⟨kinds ++ kinds', ?_, by simp [hne], fun us rest hus hrest => ?_⟩
    · intro k hk
      exact (List.mem_append.mp hk).elim (hkinds k) (hkinds' k)
    · obtain ⟨us₁, us₂, rfl, hus₁, hus₂⟩ := List.map_eq_append_iff.mp hus
      have hclosed : Closed (us₂ ++ rest) := Completing.closed_append (hus₂ ▸ hkinds') hrest
      obtain ⟨a, ha⟩ := hfirst us₁ (us₂ ++ rest) hus₁ hclosed
      obtain ⟨b, hb⟩ := hsecond a us₂ rest hus₂ hrest
      exact ⟨b, by rw [List.append_assoc, bind_ok ha, hb]⟩
  · -- The first reader gives what it gave, and the second is completed.
    obtain ⟨kinds, hkinds, hne, hreads⟩ := (hq a rest ha).completes hb
    refine ⟨kinds, hkinds, hne, fun us rest' hus hrest' => ?_⟩
    have hclosed : Closed (us ++ rest') := Completing.closed_append (hus ▸ hkinds) hrest'
    obtain ⟨b, hb⟩ := hreads us rest' hus hrest'
    exact ⟨b, by rw [bind_ok (hp.goesOn ha hclosed.apart fun _ => hclosed), hb]⟩

/-- **Sequences.** Readers one after the other, if what follows the first can be completed. -/
theorem Online.bind (hp : Online p ts) (hq : ∀ a rest, p ts = .ok (a, rest) → Online (q a) rest)
    (hcompletable : Completable q) : Online (p >>= q) ts := by
  constructor
  · intro b rest' h
    obtain ⟨a, rest, ha, hb⟩ := bind_eq_ok_iff.mp h
    exact ((hq a rest ha).suffix hb).trans (hp.suffix ha)
  · intro b rest' us h hapart hclosed
    obtain ⟨a, rest, ha, hb⟩ := bind_eq_ok_iff.mp h
    -- If the first reader went to the end, so did the second.
    have hend : rest = [] → Closed us := by
      rintro rfl
      exact hclosed (List.suffix_nil.mp ((hq a [] ha).suffix hb))
    rw [bind_ok (hp.goesOn ha hapart hend)]
    exact (hq a rest ha).goesOn hb (hapart.of_suffix (hp.suffix ha)) hclosed
  · intro error us h hne hapart
    rcases bind_eq_error_iff.mp h with ha | ⟨a, rest, ha, hb⟩
    · exact bind_error (hp.fails ha hne hapart)
    · have hend : rest ≠ [] := by
        rintro rfl
        exact hne ((hq a [] ha).ends rfl hb)
      rw [bind_ok (hp.goesOn ha hapart fun hnil => absurd hnil hend)]
      exact (hq a rest ha).fails hb hne (hapart.of_suffix (hp.suffix ha))
  · intro hnil error h
    rcases bind_eq_error_iff.mp h with ha | ⟨a, rest, ha, hb⟩
    · exact hp.ends hnil ha
    · subst hnil
      exact (hq a rest ha).ends (List.suffix_nil.mp (hp.suffix ha)) hb
  · exact hp.bind_completes hq hcompletable

/-! ### What can follow -/

theorem completable_pure (f : α → β) : Completable fun a => (pure (f a) : Reader β) :=
  ⟨[], by simp [Completing], fun a us rest hus _ => ⟨f a, by
    obtain rfl := List.map_eq_nil_iff.mp hus
    rfl⟩⟩

theorem readExtension_closed (h : Closed us) :
    readExtension table introducer floor left us = .ok (left, us) := by
  cases us with
  | nil => exact readExtension_nil
  | cons u us =>
      have hu := h u rfl
      refine readExtension_other ?_ ?_
      · intro hk
        simp [hk] at hu
      · intro hk
        simp [hk] at hu

theorem completable_extension (f : α → Expr) :
    Completable fun a => readExtension table introducer floor (f a) :=
  ⟨[], by simp [Completing], fun a us rest hus hrest => ⟨f a, by
    obtain rfl := List.map_eq_nil_iff.mp hus
    exact readExtension_closed hrest⟩⟩

theorem completable_closeGroup (f : α → β) :
    Completable fun a => (do readCloseGroup; return f a : Reader β) := by
  refine ⟨[.closeGroup], by simp [Completing], fun a us rest hus _ => ⟨f a, ?_⟩⟩
  obtain ⟨u, rfl, hu⟩ := List.map_eq_singleton_iff.mp hus
  exact bind_ok (readCloseGroup_cons hu)

theorem completable_moreArguments (f : α → List Expr → β) :
    Completable fun a => (do let es ← readMoreArguments table; return f a es : Reader β) := by
  refine ⟨[.closeBracket], by simp [Completing], fun a us rest hus _ => ⟨f a [], ?_⟩⟩
  obtain ⟨u, rfl, hu⟩ := List.map_eq_singleton_iff.mp hus
  exact bind_ok (readMoreArguments_close hu)

/-! ### The functions of the parser -/

/-- All the functions of the parser are online for the tokens. -/
structure AllOnline (table : OperatorTable) (ts : List Token) : Prop where
  expression : ∀ introducer floor, Online (readExpression table introducer floor) ts
  leading : Online (readLeading table) ts
  extension : ∀ introducer floor left, Online (readExtension table introducer floor left) ts
  arguments : Online (readArguments table) ts
  moreArguments : Online (readMoreArguments table) ts

theorem numberValue_error {error : SyntaxError} (h : numberValue t = .error error) :
    error ≠ .unexpectedEnd := by
  rw [numberValue] at h
  split at h
  · cases h
  · rintro rfl
    simp at h

/-- A number token, alone or behind its sign. -/
theorem Online.of_numberValue {p : Reader Expr} {f : Float → Expr} (hts : ts ≠ [])
    (hrest : rest <:+ ts)
    (h : ∀ us, p (ts ++ us) = (numberValue t).map fun value => (f value, rest ++ us)) :
    Online p ts := by
  cases hvalue : numberValue t with
  | error error =>
      exact .of_error hts (numberValue_error hvalue) fun us => by rw [h, hvalue]; rfl
  | ok value =>
      exact .of_eq (online_pure (f value) rest) hrest fun us _ => by rw [h, hvalue]; rfl

theorem online_closeGroup (ts : List Token) : Online readCloseGroup ts := by
  cases ts with
  | nil =>
      exact .of_nil .closeGroup (by simp [Completing]) readCloseGroup_nil
        fun u rest hu => ⟨(), readCloseGroup_cons hu⟩
  | cons t rest =>
      by_cases ht : t.kind = .closeGroup
      · exact .of_eq (online_pure () rest) (List.suffix_cons t rest)
          fun us _ => readCloseGroup_cons ht
      · exact .of_error (List.cons_ne_nil t rest) (by simp) fun us => readCloseGroup_other ht

/-- A leading operator: one that is not registered, a sign with its number, or one with its
operand. -/
theorem online_leading_operator (hk : t.kind = .operator) (hrest : AllOnline table rest) :
    Online (readLeading table) (t :: rest) := by
  have hne : t :: rest ≠ [] := List.cons_ne_nil t rest
  cases hop : table.leading.get? t.text with
  | none => exact .of_error hne (by simp) fun us => readLeading_operator_none hk hop
  | some op =>
      by_cases hglued : ∃ n ∈ rest.head?, Glued t n
      · obtain ⟨n, hn, hglued⟩ := hglued
        obtain ⟨rest, rfl⟩ := List.head?_eq_some_iff.mp hn
        have hsuffix : rest <:+ t :: n :: rest :=
          (List.suffix_cons n rest).trans (List.suffix_cons t _)
        exact .of_numberValue hne hsuffix fun us => readLeading_glued hk hop hglued
      · have hoperand := hrest.expression (some t.text) (some op.power)
        refine .of_eq (.bind hoperand (fun _ _ _ => online_pure _ _) (completable_pure _))
          (List.suffix_cons t rest) fun us hapart => readLeading_operator hk hop ?_
        -- The number that comes next stands in `rest`, or apart from the sign.
        intro n hn hn'
        cases rest with
        | nil => exact hapart n hn hn'.2.1 t (by simp) hn'.2.2
        | cons n' rest => exact hglued ⟨n, hn, hn'⟩

theorem online_leading (ih : ∀ ts', ts'.length < ts.length → AllOnline table ts') :
    Online (readLeading table) ts := by
  cases ts with
  | nil =>
      exact .of_nil .symbol (by simp [Completing]) readLeading_nil
        fun u rest hu => ⟨_, readLeading_symbol hu⟩
  | cons t rest =>
      have hne : t :: rest ≠ [] := List.cons_ne_nil t rest
      have hsuffix : rest <:+ t :: rest := List.suffix_cons t rest
      have ihrest := ih rest (by simp)
      have hother : t.kind ∈ [Kind.layout, .comma, .openBracket, .closeBracket, .closeGroup] →
          Online (readLeading table) (t :: rest) :=
        fun h => .of_error hne (by simp) fun us => readLeading_other h
      cases hk : t.kind with
      | number => exact .of_numberValue hne hsuffix fun us => readLeading_number hk
      | symbol =>
          exact .of_eq (online_pure _ rest) hsuffix fun us _ => readLeading_symbol hk
      | string =>
          exact .of_eq (online_pure _ rest) hsuffix fun us _ => readLeading_string hk
      | openGroup =>
          refine .of_eq (.bind (ihrest.expression none none) (fun inner rest' _ => ?_)
            (completable_closeGroup id)) hsuffix fun us _ => readLeading_group hk
          exact .bind (online_closeGroup rest') (fun _ _ _ => online_pure _ _) (completable_pure _)
      | operator => exact online_leading_operator hk ihrest
      | layout => exact hother (by simp [hk])
      | comma => exact hother (by simp [hk])
      | openBracket => exact hother (by simp [hk])
      | closeBracket => exact hother (by simp [hk])
      | closeGroup => exact hother (by simp [hk])

theorem online_extension_nil : Online (readExtension table introducer floor left) [] where
  suffix h := by
    obtain ⟨-, rfl⟩ := Prod.mk.inj (Except.ok.inj (readExtension_nil.symm.trans h))
    exact List.suffix_refl []
  goesOn h _ hclosed := by
    obtain ⟨rfl, rfl⟩ := Prod.mk.inj (Except.ok.inj (readExtension_nil.symm.trans h))
    exact readExtension_closed (hclosed rfl)
  fails h := absurd (readExtension_nil.symm.trans h) (by simp)
  ends _ _ h := absurd (readExtension_nil.symm.trans h) (by simp)
  completes h := absurd (readExtension_nil.symm.trans h) (by simp)

theorem online_extension (ih : ∀ ts', ts'.length < ts.length → AllOnline table ts') :
    Online (readExtension table introducer floor left) ts := by
  cases ts with
  | nil => exact online_extension_nil
  | cons t rest =>
      have hsuffix : rest <:+ t :: rest := List.suffix_cons t rest
      have hleft : (∀ us, readExtension table introducer floor left (t :: rest ++ us) =
          .ok (left, t :: rest ++ us)) →
          Online (readExtension table introducer floor left) (t :: rest) :=
        fun h => .of_eq (online_pure left (t :: rest)) (List.suffix_refl _) fun us _ => h us
      have ihrest := ih rest (by simp)
      by_cases hbracket : t.kind = .openBracket
      · cases habove : isAbove bracketPower floor with
        | false => exact hleft fun us => readExtension_brackets_left hbracket habove
        | true =>
            refine .of_eq (.bind ihrest.arguments (fun args rest' hargs => ?_)
              (completable_extension _)) hsuffix fun us _ => readExtension_brackets hbracket habove
            have := length_lt_of_readArguments hargs
            exact (ih rest' (by simp only [List.length_cons]; omega)).extension _ _ _
      by_cases hoperator : t.kind = .operator
      · cases hop : table.joining.get? t.text with
        | none =>
            exact .of_error (List.cons_ne_nil t rest) (by simp)
              fun us => readExtension_operator_none hoperator hop
        | some op =>
            cases hadmits : admits introducer floor t.text op with
            | false => exact hleft fun us => readExtension_operator_left hoperator hop hadmits
            | true =>
                refine .of_eq (.bind (ihrest.expression (some t.text) (some op.power))
                  (fun right rest' hright => ?_) (completable_extension _)) hsuffix
                  fun us _ => readExtension_operator hoperator hop hadmits
                have := length_lt_of_readExpression hright
                exact (ih rest' (by simp only [List.length_cons]; omega)).extension _ _ _
      · exact hleft fun us => readExtension_other hbracket hoperator

theorem online_expression (hleading : Online (readLeading table) ts)
    (ih : ∀ ts', ts'.length < ts.length → AllOnline table ts') :
    Online (readExpression table introducer floor) ts := by
  refine .of_eq (.bind hleading (fun left rest hleft => ?_) (completable_extension id))
    (List.suffix_refl ts) fun us _ => readExpression_eq
  exact (ih rest (length_lt_of_readLeading hleft)).extension introducer floor left

theorem online_arguments (hexpression : Online (readExpression table none none) ts)
    (ih : ∀ ts', ts'.length < ts.length → AllOnline table ts') :
    Online (readArguments table) ts := by
  cases ts with
  | nil =>
      exact .of_nil .closeBracket (by simp [Completing]) readArguments_nil
        fun u rest hu => ⟨[], readArguments_close hu⟩
  | cons t rest =>
      by_cases ht : t.kind = .closeBracket
      · exact .of_eq (online_pure [] rest) (List.suffix_cons t rest)
          fun us _ => readArguments_close ht
      · refine .of_eq (.bind hexpression (fun first rest' hfirst => ?_)
          (completable_moreArguments _)) (List.suffix_refl _) fun us _ => readArguments_cons ht
        exact .bind (ih rest' (length_lt_of_readExpression hfirst)).moreArguments
          (fun _ _ _ => online_pure _ _) (completable_pure _)

theorem online_moreArguments (ih : ∀ ts', ts'.length < ts.length → AllOnline table ts') :
    Online (readMoreArguments table) ts := by
  cases ts with
  | nil =>
      exact .of_nil .closeBracket (by simp [Completing]) readMoreArguments_nil
        fun u rest hu => ⟨[], readMoreArguments_close hu⟩
  | cons t rest =>
      have hsuffix : rest <:+ t :: rest := List.suffix_cons t rest
      by_cases hclose : t.kind = .closeBracket
      · exact .of_eq (online_pure [] rest) hsuffix fun us _ => readMoreArguments_close hclose
      by_cases hcomma : t.kind = .comma
      · refine .of_eq (.bind ((ih rest (by simp)).expression none none)
          (fun next rest' hnext => ?_) (completable_moreArguments _)) hsuffix
          fun us _ => readMoreArguments_comma hcomma
        have := length_lt_of_readExpression hnext
        exact .bind (ih rest' (by simp only [List.length_cons]; omega)).moreArguments
          (fun _ _ _ => online_pure _ _) (completable_pure _)
      · exact .of_error (List.cons_ne_nil t rest) (by simp)
          fun us => readMoreArguments_other hcomma hclose

/-- **One token of lookahead.** No function of the parser changes what it gives when more tokens
come behind its input, the first of them aside. -/
theorem online (table : OperatorTable) (ts : List Token) : AllOnline table ts := by
  induction hn : ts.length using Nat.strongRecOn generalizing ts with
  | ind n ih =>
      subst hn
      have ih' : ∀ ts', ts'.length < ts.length → AllOnline table ts' :=
        fun ts' hlt => ih ts'.length hlt ts' rfl
      have hleading : Online (readLeading table) ts := online_leading ih'
      exact {
        expression := fun _ _ => online_expression hleading ih'
        leading := hleading
        extension := fun _ _ _ => online_extension ih'
        arguments := online_arguments (online_expression hleading ih') ih'
        moreArguments := online_moreArguments ih' }

end Reduct.Parse
