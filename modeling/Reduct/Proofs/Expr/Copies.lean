import Reduct.Operation.Control
import Reduct.Proofs.Expr.Names

/-!
# Names of copies

A copy of a local symbol is named after the symbol and a number, with a dollar sign between them.
The number is read off the end of the name (`IsCopy.unique`): there is no dollar sign among its
digits. So copies with different numbers have different names whatever the symbols, copies of
different symbols have too, and a name that was made with one number is that of no copy with a
later one.

Giving the local symbols of an expression the names of their copies is a replacement by rules from
symbols to symbols. It renames these symbols, wherever they stand, and does nothing else
(`Expr.releaseHold_replaceAll`).
-/

namespace Reduct

open Operation.Control (freshName)

variable {m n c : Nat} {x y name : String}

/-! ### Reading the number -/

/-- The name ends like those of the copies with the number `n`. -/
def IsCopy (n : Nat) (name : String) : Prop := '$' :: Nat.toDigits 10 n <:+ name.toList

instance : Decidable (IsCopy n name) := inferInstanceAs (Decidable (_ <:+ _))

/-- The name of a copy can have no number after `c`. -/
def CopiesTo (c : Nat) (name : String) : Prop := ∀ n, IsCopy n name → n ≤ c

theorem toList_freshName (name : String) (n : Nat) :
    (freshName name n).toList = name.toList ++ '$' :: Nat.toDigits 10 n := by
  simp [freshName, toString, Nat.repr]

theorem dollar_notMem_toDigits (n : Nat) : '$' ∉ Nat.toDigits 10 n := by
  intro h
  exact absurd (Nat.isDigit_of_mem_toDigits (by decide) (by decide) h) (by decide)

/-- The part behind the last dollar sign is determined. -/
theorem append_dollar_inj {as bs ds es : List Char} (hds : '$' ∉ ds) (hes : '$' ∉ es)
    (h : as ++ '$' :: ds = bs ++ '$' :: es) : as = bs ∧ ds = es := by
  induction as generalizing bs with
  | nil =>
      cases bs with
      | nil => exact ⟨rfl, (List.cons.inj h).2⟩
      | cons b bs =>
          have hds' : ds = bs ++ '$' :: es := (List.cons.inj h).2
          exact absurd (by simp [hds']) hds
  | cons a as ih =>
      cases bs with
      | nil =>
          have hes' : as ++ '$' :: ds = es := (List.cons.inj h).2
          exact absurd (by simp [← hes']) hes
      | cons b bs =>
          rw [List.cons_append, List.cons_append] at h
          obtain ⟨rfl, htail⟩ := List.cons.inj h
          obtain ⟨has, hds⟩ := ih htail
          exact ⟨by rw [has], hds⟩

theorem toDigits_inj (h : Nat.toDigits 10 m = Nat.toDigits 10 n) : m = n := by
  rw [← @Nat.ofDigitChars_ten_toDigits m, h, Nat.ofDigitChars_ten_toDigits]

/-- The end of a name tells the number. -/
theorem IsCopy.unique (h : IsCopy m name) (h' : IsCopy n name) : m = n := by
  obtain ⟨as, has⟩ := h
  obtain ⟨bs, hbs⟩ := h'
  exact toDigits_inj (append_dollar_inj (dollar_notMem_toDigits m) (dollar_notMem_toDigits n)
    (has.trans hbs.symm)).2

theorem isCopy_freshName (name : String) (n : Nat) : IsCopy n (freshName name n) :=
  ⟨name.toList, (toList_freshName name n).symm⟩

/-- **Copies of different symbols, or with different numbers, have different names.** -/
theorem freshName_inj : freshName x m = freshName y n ↔ x = y ∧ m = n := by
  refine ⟨fun h => ?_, fun ⟨hxy, hmn⟩ => by rw [hxy, hmn]⟩
  have hmn : m = n := (isCopy_freshName x m).unique (h ▸ isCopy_freshName y n)
  have hlists := congrArg String.toList h
  rw [toList_freshName, toList_freshName] at hlists
  exact ⟨String.toList_inj.mp (append_dollar_inj (dollar_notMem_toDigits m)
    (dollar_notMem_toDigits n) hlists).1, hmn⟩

theorem CopiesTo.mono (hc : m ≤ n) (h : CopiesTo m name) : CopiesTo n name :=
  fun k hk => Nat.le_trans (h k hk) hc

theorem CopiesTo.not_isCopy (h : CopiesTo c name) (hn : c < n) : ¬ IsCopy n name :=
  fun hcopy => Nat.not_lt.mpr (h n hcopy) hn

/-- Names without a dollar sign are no names of copies. -/
theorem copiesTo_of_plain (c : Nat) : HoldsOfPlain (CopiesTo c) :=
  fun _ h _ hn => absurd (hn.subset (List.mem_cons_self ..)) h

theorem copiesTo_freshName (name : String) (n : Nat) : CopiesTo n (freshName name n) :=
  fun _ hm => Nat.le_of_eq (hm.unique (isCopy_freshName name n))

/-! ### Renaming -/

/-- The new name of a symbol when those listed are renamed. -/
def renamed (names : List String) (n : Nat) (name : String) : String :=
  if name ∈ names then freshName name n else name

namespace Expr

mutual

/-- The expression with the name of every symbol changed by `f`. -/
def mapNames (f : String → String) : Expr → Expr
  | .number value => .number value
  | .string text => .string text
  | .symbol name held => .symbol (f name) held
  | .apply head args held => .apply (head.mapNames f) (mapNamesAll f args) held

/-- `mapNames` of each expression. -/
def mapNamesAll (f : String → String) : List Expr → List Expr
  | [] => []
  | e :: es => e.mapNames f :: mapNamesAll f es

end

section Replacing

open Replace

variable (names : List String) (n : Nat)

/-- The rules from symbols to their copies. -/
abbrev copyRules : List Rule := names.map fun name => ⟨.sym name, .sym (freshName name n)⟩

theorem outcome?_copyRules_symbol (name : String) (held : Bool) :
    outcome? (copyRules names n) (.symbol name held) =
      if name ∈ names then some (.became (.sym (freshName name n))) else none := by
  induction names with
  | nil => rfl
  | cons x names ih =>
      rw [outcome?, copyRules, List.map_cons, List.findSome?_cons]
      by_cases hx : x = name
      · subst hx
        simp [Rule.resolve?, Pattern.match?, Pattern.extend?, Pattern.acceptsAtom,
          Captures.instantiate, Captures.instantiate?, Captures.binding?, Rule.isIdentity,
          Pattern.key?, Sharing.never]
      · have hnone : Rule.resolve? ⟨.sym x, .sym (freshName x n)⟩ (.symbol name held)
            Sharing.never.made = none := by
          simp [Rule.resolve?, Pattern.match?, Pattern.extend?, Pattern.acceptsAtom, hx]
        rw [hnone, Option.map_none]
        simp only [List.mem_cons, Ne.symm hx, false_or]
        exact ih

/-- The rules accept nothing but symbols. -/
theorem outcome?_copyRules_other {e : Expr} (h : e.symbol? = none) :
    outcome? (copyRules names n) e = none := by
  rw [outcome?, List.findSome?_eq_none_iff]
  intro rule hrule
  obtain ⟨x, -, rfl⟩ := List.mem_map.mp hrule
  have hnone : Pattern.acceptsAtom (.sym x) e = false := by
    cases e with
    | symbol name held => simp [symbol?] at h
    | _ => rfl
  simp [Rule.resolve?, Pattern.match?, Pattern.extend?, hnone]

mutual

/-- **Giving symbols the names of their copies renames them wherever they stand,** and changes
nothing else, hold marks aside. -/
theorem releaseHold_replaceAll : ∀ e : Expr,
    (e.replaceAll (copyRules names n)).releaseHold = (e.mapNames (renamed names n)).releaseHold
  | .number _ | .string _ => by
      rw [replaceAll, replaceAll?, visit?, Option.getD_none, outcome?_copyRules_other names n rfl]
      · rfl
      · simp
  | .symbol name held => by
      rw [replaceAll, replaceAll?, visit?, Option.getD_none, outcome?_copyRules_symbol, mapNames,
        renamed]
      · by_cases hname : name ∈ names
        · simp only [if_pos hname]
          rfl
        · simp only [if_neg hname]
          rfl
      · simp
  | .apply head args held => by
      have hargs := releaseHolds_replaceAll args
      rw [replaceAll, replaceAll?, visit?]
      simp only [Sharing.turn_never]
      have hnode : ((rebuilt? head args (replaceAll? (copyRules names n) head)
          (replaceAllIn? (copyRules names n) args)).getD (.apply head args held)).symbol? =
            none := by
        rw [getD_rebuilt?]
        rfl
      rw [outcome?_copyRules_other names n hnode]
      have hpass : (replaceAllIn? (copyRules names n) args).getD args =
          args.map (replaceAll (copyRules names n) ·) :=
        @getD_passAll (replaceAll? (copyRules names n) ·) (replaceAllIn? (copyRules names n) ·) rfl
          (fun _ _ => rfl) args
      simp only [getD_rebuilt?, hpass, releaseHold, mapNames]
      rw [← replaceAll, releaseHold_replaceAll head, hargs]

theorem releaseHolds_replaceAll : ∀ es : List Expr,
    releaseHolds (es.map (replaceAll (copyRules names n) ·)) =
      releaseHolds (mapNamesAll (renamed names n) es)
  | [] => rfl
  | e :: es => by
      rw [List.map_cons, releaseHolds, mapNamesAll, releaseHolds, releaseHold_replaceAll e,
        releaseHolds_replaceAll es]

end

end Replacing

end Expr

end Reduct
