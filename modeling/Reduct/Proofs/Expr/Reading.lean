import Reduct.Expr.Order
import Reduct.Proofs.Expr.Atoms
import Reduct.Proofs.Number.ReadBack

/-!
# Unique readability

Two expressions are equal when they read the same. For expressions whose symbol names are
non-empty and free of brackets, commas and quotes, equal text means equal trees: `same` is then
equality of texts (`same_iff`) and with it an equivalence.

Text is taken apart from its end. A closing bracket ends an application, a quote a string
literal, and anything else a number or a symbol. The application comes last there is, after its
head, so the induction runs over heads as the text does. What stands before an expression is
nothing, an opening bracket, or a comma and a space (`Begins`), and that is enough to find where
an atom begins: none of the three can stand inside a name, and before a quote inside a literal
stands a backslash.
-/

namespace Reduct.Text

/-- The characters that tell expressions apart. -/
def isDelimiter (c : Char) : Bool := c == '[' || c == ']' || c == ',' || c == '"'

/-- The text of a name: not empty, and without delimiters. -/
structure Undelimited (cs : List Char) : Prop where
  ne_nil : cs ≠ []
  free : ∀ c ∈ cs, isDelimiter c = false

theorem undelimited_iff {cs : List Char} :
    Undelimited cs ↔ (!cs.isEmpty && cs.all fun c => !isDelimiter c) = true := by
  simp only [Bool.and_eq_true, Bool.not_eq_true', List.isEmpty_eq_false_iff, List.all_eq_true]
  exact ⟨fun h => ⟨h.ne_nil, h.free⟩, fun h => ⟨h.1, h.2⟩⟩

instance (cs : List Char) : Decidable (Undelimited cs) := decidable_of_iff _ undelimited_iff.symm

/-- A quote inside a literal has a backslash before it. -/
theorem backslash_of_escape {cs us vs : List Char} (h : escape cs = us ++ '"' :: vs) :
    ∃ us', us = us' ++ ['\\'] := by
  induction cs generalizing us with
  | nil => simp [escape] at h
  | cons c cs ih =>
      rw [escape] at h
      split at h
      next =>
        -- The backslash and the character it escapes.
        cases us with
        | nil => simp at h
        | cons u us =>
            obtain ⟨rfl, h'⟩ := List.cons.inj h
            cases us with
            | nil => exact ⟨[], rfl⟩
            | cons u us =>
                obtain ⟨us', rfl⟩ := ih (List.cons.inj h').2
                exact ⟨'\\' :: u :: us', rfl⟩
      next hc =>
        cases us with
        | nil => exact absurd (.inl (List.cons.inj h).1) hc
        | cons u us =>
            have h' : escape cs = us ++ '"' :: vs := (List.cons.inj h).2
            obtain ⟨us', rfl⟩ := ih h'
            exact ⟨u :: us', rfl⟩

theorem escape_injective {cs ds : List Char} (h : escape cs = escape ds) : cs = ds := by
  rw [← unescape_escape cs, h, unescape_escape]

/-! ### Where an expression begins -/

/-- Where an expression can begin: at the start of a text, after an opening bracket, or after a
comma and a space. -/
inductive Begins : List Char → Prop
  | start : Begins []
  | bracket (r : List Char) : Begins (r ++ ['['])
  | comma (r : List Char) : Begins (r ++ [',', ' '])

theorem Begins.last {r : List Char} {c : Char} (h : Begins (r ++ [c])) :
    c = '[' ∨ c = ' ' ∧ ∃ r', r = r' ++ [','] := by
  generalize hs : r ++ [c] = s at h
  cases h with
  | start => simp at hs
  | bracket r' => exact .inl (by simpa using (List.append_inj' hs rfl).2)
  | comma r' =>
      have hs' : r ++ [c] = (r' ++ [',']) ++ [' '] := by simpa using hs
      obtain ⟨rfl, h⟩ := List.append_inj' hs' rfl
      exact .inr ⟨by simpa using h, r', rfl⟩

/-- No second place to begin lies behind text without delimiters. -/
theorem Begins.eq_nil_of_free {r z : List Char} (hr : Begins r) (hz : Begins (r ++ z))
    (hfree : ∀ c ∈ z, isDelimiter c = false) : z = [] := by
  rcases List.eq_nil_or_concat z with rfl | ⟨z', c, rfl⟩
  · rfl
  · rw [List.concat_eq_append, ← List.append_assoc] at hz
    rcases hz.last with rfl | ⟨rfl, r', hr'⟩
    · exact absurd (hfree '[' (by simp)) (by decide)
    · rcases List.eq_nil_or_concat z' with rfl | ⟨z'', d, rfl⟩
      · -- The comma would be the last character before the first place.
        rw [List.append_nil] at hr'
        rw [hr'] at hr
        rcases hr.last with h | ⟨h, -⟩ <;> simp at h
      · rw [List.concat_eq_append, ← List.append_assoc] at hr'
        obtain ⟨-, h⟩ := List.append_inj' hr' rfl
        obtain rfl : d = ',' := by simpa using h
        exact absurd (hfree ',' (by simp)) (by decide)

/-- No second place to begin lies right before a quote inside a literal. -/
theorem Begins.eq_nil_of_quoted {r z : List Char} {cs ds : List Char} (hz : Begins (r ++ z))
    (h : quotedChars cs = z ++ quotedChars ds) : z = [] := by
  match z with
  | [] => rfl
  | q :: z =>
      obtain ⟨rfl, h⟩ := List.cons.inj h
      have h' : escape cs ++ ['"'] = (z ++ '"' :: escape ds) ++ ['"'] := by
        simpa [quotedChars] using h
      obtain ⟨us, rfl⟩ := backslash_of_escape (List.append_cancel_right h')
      rw [← List.cons_append, ← List.append_assoc] at hz
      rcases hz.last with h | ⟨h, -⟩ <;> simp at h

/-- The text of an atom: a name or a number without delimiters, or a string literal. -/
inductive Atomic : List Char → Prop
  | plain {cs : List Char} : Undelimited cs → Atomic cs
  | literal (cs : List Char) : Atomic (quotedChars cs)

theorem Atomic.last {r : List Char} {c : Char} (h : Atomic (r ++ [c])) :
    c = '"' ∨ isDelimiter c = false := by
  generalize hs : r ++ [c] = s at h
  cases h with
  | plain h => exact .inr (h.free c (by simp [← hs]))
  | literal cs =>
      have hs' : r ++ [c] = ('"' :: escape cs) ++ ['"'] := by simpa [quotedChars] using hs
      exact .inl (by simpa using (List.append_inj' hs' rfl).2)

theorem Atomic.exists_concat {x : List Char} (h : Atomic x) : ∃ r c, x = r ++ [c] := by
  cases h with
  | plain h => exact ⟨_, _, (List.dropLast_concat_getLast h.ne_nil).symm⟩
  | literal cs => exact ⟨'"' :: escape cs, '"', by simp [quotedChars]⟩

/-- No atom that stands at a place to begin is the end of a longer one. -/
theorem Atomic.eq_nil {r z y : List Char} (hr : Begins r) (hz : Begins (r ++ z)) (hy : Atomic y)
    (hx : Atomic (z ++ y)) : z = [] := by
  generalize hs : z ++ y = s at hx
  cases hx with
  | plain hx => exact hr.eq_nil_of_free hz fun c hc => hx.free c (by simp [← hs, hc])
  | literal cs =>
      cases hy with
      | plain hy =>
          -- The closing quote would stand in the shorter one.
          obtain ⟨y, c, rfl⟩ := (Atomic.plain hy).exists_concat
          have hs' : (z ++ y) ++ [c] = ('"' :: escape cs) ++ ['"'] := by
            simpa [quotedChars] using hs
          obtain rfl : c = '"' := by simpa using (List.append_inj' hs' rfl).2
          exact absurd (hy.free '"' (by simp)) (by decide)
      | literal ds => exact hz.eq_nil_of_quoted hs.symm

/-- **An atom is told apart from what stands before it.** -/
theorem Atomic.unique {r r' x y : List Char} (hr : Begins r) (hr' : Begins r') (hx : Atomic x)
    (hy : Atomic y) (h : r ++ x = r' ++ y) : r = r' ∧ x = y := by
  rcases List.append_eq_append_iff.mp h with ⟨z, rfl, rfl⟩ | ⟨z, rfl, rfl⟩
  · obtain rfl := Atomic.eq_nil hr hr' hy hx
    simp
  · obtain rfl := Atomic.eq_nil hr' hr hx hy
    simp

end Reduct.Text

namespace Reduct

open Text

namespace Numeral

theorem isDelimiter_of_isDigit {c : Char} (h : c.isDigit) : isDelimiter c = false := by
  simp only [isDelimiter, Bool.or_eq_false_iff, beq_eq_false_iff_ne]
  refine ⟨⟨⟨?_, ?_⟩, ?_⟩, ?_⟩ <;> rintro rfl <;> exact absurd h (by decide)

theorem Plain.undelimited {cs : List Char} (h : Plain cs) : Undelimited cs := by
  obtain ⟨c, rest, hcs, -⟩ := h.exists_cons
  refine ⟨by simp [hcs], fun d hd => ?_⟩
  cases h with
  | whole _ hds => exact isDelimiter_of_isDigit (hds d hd)
  | pointed _ hds _ hfs =>
      rcases List.mem_append.mp hd with hd | hd
      · exact isDelimiter_of_isDigit (hds d hd)
      · rcases List.mem_cons.mp hd with rfl | hd
        · decide
        · exact isDelimiter_of_isDigit (hfs d hd)

theorem undelimited_minus {cs : List Char} (h : Undelimited cs) : Undelimited ('-' :: cs) :=
  ⟨by simp, List.forall_mem_cons.mpr ⟨by decide, h.free⟩⟩

/-- The text of a number has no delimiters. -/
theorem undelimited_chars (x : Float) : Undelimited (chars x) := by
  by_cases hx : x.isFinite
  · obtain ⟨ds, y, hplain, -, ⟨htext, -⟩ | ⟨htext, -⟩⟩ := chars_finite hx
    · exact htext ▸ hplain.undelimited
    · exact htext ▸ undelimited_minus hplain.undelimited
  · rcases chars_of_not_finite hx with ⟨htext, -⟩ | ⟨htext, -⟩ | ⟨htext, -⟩ <;> rw [htext] <;> decide

end Numeral

namespace Expr

/-- Every symbol name is not empty and free of delimiters. -/
abbrev Readable : Expr → Prop :=
  Atoms (fun _ => True) (fun name => Undelimited name.toList)

/-- Is the expression no application? -/
def isAtom : Expr → Bool
  | .apply .. => false
  | _ => true

theorem Readable.atomic {a : Expr} (ha : a.Readable) (hatom : a.isAtom) : Atomic a.chars := by
  cases ha with
  | number _ => exact .plain (Numeral.undelimited_chars _)
  | string => exact .literal _
  | symbol h => exact .plain h
  | apply _ _ => exact absurd hatom (by simp [isAtom])

/-- No expression ends with an opening bracket. -/
theorem Readable.last {a : Expr} (ha : a.Readable) :
    ∃ r c, a.chars = r ++ [c] ∧ c ≠ '[' ∧ (a.isAtom → c ≠ ']') := by
  by_cases hatom : a.isAtom
  · have h := ha.atomic hatom
    obtain ⟨r, c, hc⟩ := h.exists_concat
    refine ⟨r, c, hc, ?_, fun _ => ?_⟩ <;> rintro rfl <;>
      exact absurd (hc ▸ h).last (by decide)
  · match a, hatom with
    | .apply head args _, _ =>
        refine ⟨head.chars ++ '[' :: argChars args, ']', by simp [chars], by decide, ?_⟩
        simp [isAtom]

/-! ### The test for equality -/

mutual

/-- The test for equality is symmetric. -/
theorem same_comm : ∀ a b : Expr, a.same b = b.same a
  | .apply f as _, .apply g bs _ => by rw [same, same, same_comm f g, sameAll_comm as bs]
  | .apply .., .symbol .. | .symbol .., .apply .. => by
      rw [same, same]
      exact congrArg (_ && ·) BEq.comm
  | .apply .., .number _ | .apply .., .string _ | .number _, .apply .. | .string _, .apply .. => by
      simp [same]
  | .number _, .number _ | .number _, .string _ | .number _, .symbol .. | .string _, .number _
  | .string _, .string _ | .string _, .symbol .. | .symbol .., .number _ | .symbol .., .string _
  | .symbol .., .symbol .. => BEq.comm

theorem sameAll_comm : ∀ as bs : List Expr, sameAll as bs = sameAll bs as
  | [], [] | [], _ :: _ | _ :: _, [] => rfl
  | a :: as, b :: bs => by rw [sameAll, sameAll, same_comm a b, sameAll_comm as bs]

end

/-! ### Equality from text -/

/-- Atoms are the same when their texts are. -/
theorem same_iff_of_isAtom {a b : Expr} (ha : a.isAtom) (hb : b.isAtom) :
    a.same b ↔ a.chars = b.chars := by
  cases a with
  | apply head args held => simp [isAtom] at ha
  | number x =>
      cases b with
      | apply head args held => simp [isAtom] at hb
      | number y =>
          simp only [same, chars, beq_iff_eq]
          rw [Float.toBits_inj]
          exact ⟨fun h => congrArg _ h, fun h => Numeral.chars_injective h⟩
      | _ => simp [same]
  | string s =>
      cases b with
      | apply head args held => simp [isAtom] at hb
      | string t =>
          simp only [same, chars, beq_iff_eq]
          refine ⟨fun h => by rw [h], fun h => ?_⟩
          exact String.toList_inj.mp (escape_injective (by simpa [quotedChars] using h))
      | _ => simp [same]
  | symbol name held =>
      cases b with
      | apply head args held => simp [isAtom] at hb
      | symbol name' held' => simp [same, chars, String.toList_inj]
      | _ => simp [same]

mutual

/-- Expressions that are the same have the same text. -/
theorem chars_eq_of_same : ∀ {a b : Expr}, a.same b → a.chars = b.chars
  | .apply f as _, .apply g bs _, h => by
      rw [same, Bool.and_eq_true] at h
      rw [chars, chars, chars_eq_of_same h.1, argChars_eq_of_sameAll h.2]
  | .apply .., .symbol .., h => by
      rw [same, Bool.and_eq_true, beq_iff_eq, beq_iff_eq] at h
      exact h.2
  | .symbol .., .apply .., h => by
      rw [same, Bool.and_eq_true, beq_iff_eq, beq_iff_eq] at h
      exact h.2
  | .apply .., .number _, h | .apply .., .string _, h => by simp [same] at h
  | .number _, .apply .., h | .string _, .apply .., h => by simp [same] at h
  | .number _, .number _, h | .number _, .string _, h | .number _, .symbol .., h
  | .string _, .number _, h | .string _, .string _, h | .string _, .symbol .., h
  | .symbol .., .number _, h | .symbol .., .string _, h | .symbol .., .symbol .., h =>
      (same_iff_of_isAtom rfl rfl).mp h

/-- Lists of expressions that are the same one by one have the same text. -/
theorem argChars_eq_of_sameAll : ∀ {as bs : List Expr}, sameAll as bs → argChars as = argChars bs
  | [], [], _ => rfl
  | [_], [_], h => by
      rw [sameAll, Bool.and_eq_true] at h
      exact chars_eq_of_same h.1
  | _ :: a :: as, _ :: b :: bs, h => by
      rw [sameAll, Bool.and_eq_true] at h
      rw [argChars_cons (List.cons_ne_nil a as), argChars_cons (List.cons_ne_nil b bs),
        chars_eq_of_same h.1, argChars_eq_of_sameAll h.2]
  | [], _ :: _, h | _ :: _, [], h | [_], _ :: _ :: _, h | _ :: _ :: _, [_], h => by
      simp [sameAll] at h

end

theorem same_eq_false_of_length_ne {a b : Expr} (h : a.chars.length ≠ b.chars.length) :
    a.same b = false := by
  by_contra hsame
  exact h (congrArg List.length (chars_eq_of_same (by simpa using hsame)))

theorem sameAll_concat {a b : Expr} {as bs : List Expr} :
    sameAll (as ++ [a]) (bs ++ [b]) = (sameAll as bs && a.same b) := by
  induction as generalizing bs with
  | nil =>
      cases bs with
      | nil => simp [sameAll]
      | cons _ bs => cases bs <;> simp [sameAll]
  | cons _ as ih =>
      cases bs with
      | nil => cases as <;> simp [sameAll]
      | cons _ bs => simp [sameAll, ih, Bool.and_assoc]

/-- The text in front of the last of several arguments, from the opening bracket on. -/
def beforeLast : List Expr → List Char
  | [] => ['[']
  | es => '[' :: (argChars es ++ [',', ' '])

theorem beforeLast_of_ne {es : List Expr} (h : es ≠ []) :
    beforeLast es = ('[' :: argChars es) ++ [',', ' '] := by
  cases es with
  | nil => exact absurd rfl h
  | cons _ _ => rfl

theorem argChars_eq_beforeLast {e : Expr} {es : List Expr} :
    '[' :: argChars (es ++ [e]) = beforeLast es ++ e.chars := by
  by_cases hes : es = []
  · subst hes
    rfl
  · rw [argChars_concat hes, beforeLast_of_ne hes]
    simp

theorem begins_beforeLast (r : List Char) (es : List Expr) : Begins (r ++ beforeLast es) := by
  by_cases hes : es = []
  · subst hes
    exact .bracket r
  · rw [beforeLast_of_ne hes, ← List.append_assoc]
    exact .comma _

theorem of_beforeLast_eq {r r' : List Char} {as bs : List Expr}
    (h : r ++ beforeLast as = r' ++ beforeLast bs) :
    r ++ '[' :: argChars as = r' ++ '[' :: argChars bs := by
  have hmixed {r r' : List Char} {es : List Expr} (hes : es ≠ []) :
      r ++ ['['] ≠ r' ++ beforeLast es := by
    intro h
    have h' : r ++ ['['] = (r' ++ '[' :: argChars es ++ [',']) ++ [' '] := by
      simpa [beforeLast_of_ne hes] using h
    exact absurd (List.append_inj' h' rfl).2 (by decide)
  by_cases has : as = []
  · subst has
    by_cases hbs : bs = []
    · subst hbs
      exact h
    · exact absurd h (hmixed hbs)
  · by_cases hbs : bs = []
    · subst hbs
      exact absurd h.symm (hmixed has)
    · rw [beforeLast_of_ne has, beforeLast_of_ne hbs, ← List.append_assoc,
        ← List.append_assoc] at h
      exact List.append_cancel_right h

/-- No other expression ends a text that ends with the text of the expression. -/
def Determined (a : Expr) : Prop :=
  ∀ {b : Expr} {r r' : List Char}, b.Readable → Begins r → Begins r' →
    r ++ a.chars = r' ++ b.chars → r = r' ∧ a.same b

/-- Arguments do not end with the bracket that opens them. -/
theorem ne_of_concat {r r' : List Char} {b : Expr} {bs : List Expr} (hb : b.Readable) :
    r ++ '[' :: argChars [] ≠ r' ++ '[' :: argChars (bs ++ [b]) := by
  intro h
  obtain ⟨s, c, hc, hne, -⟩ := hb.last
  have h' : r ++ ['['] = (r' ++ beforeLast bs ++ s) ++ [c] := by
    rw [argChars_eq_beforeLast, hc] at h
    simpa [argChars] using h
  exact hne (by simpa using (List.append_inj' h' rfl).2.symm)

/-- Arguments are told apart from what stands before them, the last one first. -/
theorem sameAll_of_append {as : List Expr} (has : ∀ a ∈ as, a.Readable)
    (hdet : ∀ a ∈ as, Determined a) {bs : List Expr} {r r' : List Char}
    (hbs : ∀ b ∈ bs, b.Readable) (h : r ++ '[' :: argChars as = r' ++ '[' :: argChars bs) :
    r = r' ∧ sameAll as bs := by
  induction as using List.reverseRecOn generalizing bs with
  | nil =>
      rcases List.eq_nil_or_concat bs with rfl | ⟨bs, b, rfl⟩
      · exact ⟨List.append_cancel_right h, rfl⟩
      · rw [List.concat_eq_append] at h hbs
        exact absurd h (ne_of_concat (hbs b (by simp)))
  | append_singleton as a ih =>
      rcases List.eq_nil_or_concat bs with rfl | ⟨bs, b, rfl⟩
      · exact absurd h.symm (ne_of_concat (has a (by simp)))
      · rw [List.concat_eq_append] at h hbs ⊢
        rw [argChars_eq_beforeLast, argChars_eq_beforeLast, ← List.append_assoc,
          ← List.append_assoc] at h
        obtain ⟨hbefore, hsame⟩ := hdet a (by simp) (hbs b (by simp)) (begins_beforeLast r as)
          (begins_beforeLast r' bs) h
        obtain ⟨hr, hall⟩ := ih (fun a ha => has a (by simp [ha]))
          (fun a ha => hdet a (by simp [ha])) (fun b hb => hbs b (by simp [hb]))
          (of_beforeLast_eq hbefore)
        exact ⟨hr, by rw [sameAll_concat, hall, hsame]; rfl⟩

/-- A text that ends with an atom does not end with an application. -/
theorem isAtom_of_append {a b : Expr} {r r' : List Char} (ha : a.Readable) (hatom : a.isAtom)
    (h : r ++ a.chars = r' ++ b.chars) : b.isAtom := by
  cases b with
  | apply head args held =>
      obtain ⟨s, c, hc, -, hne⟩ := ha.last
      have h' : (r ++ s) ++ [c] = (r' ++ head.chars ++ '[' :: argChars args) ++ [']'] := by
        simpa [hc, chars] using h
      exact absurd (by simpa using (List.append_inj' h' rfl).2) (hne hatom)
  | _ => rfl

theorem Readable.determined_of_isAtom {a : Expr} (ha : a.Readable) (hatom : a.isAtom) :
    Determined a := by
  intro b r r' hb hr hr' h
  have hbatom := isAtom_of_append ha hatom h
  obtain ⟨hrr, hchars⟩ := Atomic.unique hr hr' (ha.atomic hatom) (hb.atomic hbatom) h
  exact ⟨hrr, (same_iff_of_isAtom hatom hbatom).mpr hchars⟩

theorem Readable.determined {a : Expr} (ha : a.Readable) : Determined a := by
  induction ha with
  | number h => exact determined_of_isAtom (.number h) rfl
  | string => exact determined_of_isAtom .string rfl
  | symbol h => exact determined_of_isAtom (.symbol h) rfl
  | @apply head args held hhead hargs ihhead ihargs =>
      intro b r r' hb hr hr' h
      cases hb with
      | @apply head' args' held' hhead' hargs' =>
          -- The closing brackets go, then the arguments, then the heads.
          have h' : ((r ++ head.chars) ++ '[' :: argChars args) ++ [']'] =
              ((r' ++ head'.chars) ++ '[' :: argChars args') ++ [']'] := by
            simpa [chars] using h
          obtain ⟨hheads, hall⟩ :=
            sameAll_of_append hargs ihargs hargs' (List.append_cancel_right h')
          obtain ⟨hrr, hsame⟩ := ihhead hhead' hr hr' hheads
          exact ⟨hrr, by rw [same, hsame, hall]; rfl⟩
      | number h' => exact absurd (isAtom_of_append (.number h') rfl h.symm) (by simp [isAtom])
      | string => exact absurd (isAtom_of_append .string rfl h.symm) (by simp [isAtom])
      | symbol h' => exact absurd (isAtom_of_append (.symbol h') rfl h.symm) (by simp [isAtom])

/-- **Unique readability.** Readable expressions are the same exactly when they have the same
text. -/
theorem same_iff {a b : Expr} (ha : a.Readable) (hb : b.Readable) :
    a.same b ↔ a.chars = b.chars :=
  ⟨chars_eq_of_same, fun h => (ha.determined hb .start .start h).2⟩

theorem same_congr_left {a a' b : Expr} (ha : a.Readable) (ha' : a'.Readable) (hb : b.Readable)
    (h : a.same a') : a.same b = a'.same b := by
  rw [Bool.eq_iff_iff, same_iff ha hb, same_iff ha' hb, (same_iff ha ha').mp h]

theorem same_congr_right {a b b' : Expr} (ha : a.Readable) (hb : b.Readable) (hb' : b'.Readable)
    (h : b.same b') : a.same b = a.same b' := by
  rw [same_comm, same_congr_left hb hb' ha h, same_comm]

end Expr

end Reduct
