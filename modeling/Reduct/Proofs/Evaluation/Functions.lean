import Mathlib.Data.List.Pairwise
import Reduct.Evaluator
import Reduct.Proofs.Pattern.Substitution

/-!
# Applying functions

Every application of a function has one of four outcomes: the function has not two parts, its
parameter part is an atom that is no symbol, the arguments do not fit the parameters, or the body
comes back with the arguments put in for the parameters (`Expr.applyFunction_classified`).

The arguments fit if there are as many as parameters and each of them is equal to the first one that
faces an equal parameter. Parameters are bound like the keys of a pattern, from left to right, and a
parameter that comes again keeps its first argument (`Captures.bindAll?_cases`). That these bindings
are what the pairs of parameters and arguments say needs that parameters which are equal to one
another are equal to the same expressions (`Captures.Interchangeable`). It holds of symbols, and of
what comes once.
-/

namespace Reduct

open Reduct.Expr

namespace Captures

variable {captures pairs : Captures} {c : Expr × Expr} {e bound : Expr}

/-! ### Binding keys that come again -/

/-- Keys that are equal to one another are equal to the same expressions. -/
def Interchangeable (pairs : Captures) : Prop :=
  ∀ c ∈ pairs, ∀ d ∈ pairs, c.1.same d.1 → ∀ e, c.1.same e = d.1.same e

theorem Interchangeable.of_subset {captures' : Captures} (h : captures.Interchangeable)
    (hsubset : captures' ⊆ captures) : captures'.Interchangeable := by
  intro c hc d hd
  exact h c (hsubset hc) d (hsubset hd)

/-- A key that comes again binds nothing that is not bound. -/
theorem binding?_append_bound (h : Interchangeable (captures ++ c :: pairs))
    (hbound : captures.binding? c.1 = some bound) (e : Expr) :
    (captures ++ c :: pairs : Captures).binding? e =
      (captures ++ pairs : Captures).binding? e := by
  rw [binding?_append, binding?_append, binding?_cons]
  split
  next hce =>
    obtain ⟨d, hd, hdc, -⟩ := exists_of_binding? hbound
    have hde : d.1.same e := by
      rw [h d (List.mem_append_left _ hd) c (by simp) hdc, hce]
    obtain ⟨first, hfirst⟩ := exists_binding? hd hde
    rw [hfirst, Option.some_or, Option.some_or]
  next => rfl

/-- The value of a new key agrees with itself. -/
theorem agrees_append_new (hnew : captures.binding? c.1 = none) :
    Agrees (captures ++ c :: pairs) (c :: pairs) ↔ Agrees (captures ++ c :: pairs) pairs := by
  refine ⟨fun h d hd => h d (List.mem_cons_of_mem c hd), fun h d hd => ?_⟩
  rcases List.mem_cons.mp hd with rfl | hd
  · intro bound hbound
    rw [binding?_append, hnew, Option.none_or, binding?_cons, if_pos (same_refl d.1)] at hbound
    exact Option.some.inj hbound ▸ same_refl d.2
  · exact h d hd

/-- The value of a key that comes again has to agree with the first one. -/
theorem agrees_append_bound (h : Interchangeable (captures ++ c :: pairs))
    (hbound : captures.binding? c.1 = some bound) :
    Agrees (captures ++ c :: pairs) (c :: pairs) ↔
      bound.same c.2 ∧ Agrees (captures ++ pairs) pairs := by
  have hself : (captures ++ c :: pairs : Captures).binding? c.1 = some bound := by
    rw [binding?_append, hbound, Option.some_or]
  constructor
  · intro hagrees
    refine ⟨hagrees c List.mem_cons_self bound hself, fun d hd bound' hbound' => ?_⟩
    exact hagrees d (List.mem_cons_of_mem c hd) bound'
      (by rw [binding?_append_bound h hbound, hbound'])
  · rintro ⟨hsame, hagrees⟩ d hd bound' hbound'
    rcases List.mem_cons.mp hd with rfl | hd
    · obtain rfl := Option.some.inj (hself.symm.trans hbound')
      exact hsame
    · exact hagrees d hd bound' (by rw [← binding?_append_bound h hbound, hbound'])

/-- **Binding in order** succeeds if the values agree with the first ones for their keys, and then
an expression is bound to what the first key faces that is equal to it. -/
theorem bindAll?_cases (h : Interchangeable (captures ++ pairs)) :
    (∃ result, captures.bindAll? pairs = some result ∧ Agrees (captures ++ pairs) pairs ∧
      ∀ e, result.binding? e = (captures ++ pairs : Captures).binding? e) ∨
    captures.bindAll? pairs = none ∧ ¬ Agrees (captures ++ pairs) pairs := by
  induction pairs generalizing captures with
  | nil =>
      refine .inl ⟨captures, rfl, fun d hd => absurd hd List.not_mem_nil, fun e => ?_⟩
      rw [List.append_nil]
  | cons c pairs ih =>
      rw [bindAll?, bind?]
      -- A new key goes to the end of what is bound, a key that comes again is dropped.
      cases hc : captures.binding? c.1 with
      | none =>
          have hassoc : captures ++ c :: pairs = (captures ++ [c]) ++ pairs := by simp
          rw [agrees_append_new hc]
          rw [hassoc] at h ⊢
          exact ih h
      | some bound =>
          have hrest : Interchangeable (captures ++ pairs) := h.of_subset (by simp)
          rw [agrees_append_bound h hc]
          by_cases hsame : bound.same c.2
          · simp only [hsame, true_and, binding?_append_bound h hc]
            exact ih hrest
          · refine .inr ⟨?_, fun hagrees => hsame hagrees.1⟩
            simp only [if_neg hsame]

/-- Of values that can be compared, each agrees with the first one for its key exactly if those of
equal keys are all equal. -/
theorem agrees_self_iff (h : Interchangeable pairs) (hvalues : ∀ c ∈ pairs, c.2.Readable) :
    Agrees pairs pairs ↔ Consistent pairs := by
  constructor
  · intro hagrees c hc d hd hsame
    obtain ⟨first, hfirst⟩ := exists_binding? hc (same_refl c.1)
    have hother : pairs.binding? d.1 = some first := by
      rw [← hfirst, binding?, binding?]
      congr 1
      refine List.find?_congr fun x hx => ?_
      rw [same_comm, ← h c hc d hd hsame, same_comm]
    obtain ⟨x, hx, -, rfl⟩ := exists_of_binding? hfirst
    rw [← same_congr_left (hvalues x hx) (hvalues c hc) (hvalues d hd) (hagrees c hc _ hfirst)]
    exact hagrees d hd _ hother
  · intro hconsistent d hd bound hbound
    obtain ⟨c, hc, hsame, rfl⟩ := exists_of_binding? hbound
    exact hconsistent c hc d hd hsame

end Captures

/-- Captures as patterns bind what they face, if there are as many expressions. -/
theorem Pattern.extendAll?_captures (params args : List Expr) (captures : Captures) :
    extendAll? (params.map fun param => Expr.call "Pattern" [param]) args captures =
      if params.length = args.length then captures.bindAll? (params.zip args) else none := by
  induction params generalizing args captures with
  | nil => cases args <;> rfl
  | cons param params ih =>
      cases args with
      | nil => rfl
      | cons arg args =>
          have hextend : extend? (Expr.call "Pattern" [param]) arg captures =
              captures.bind? param arg := rfl
          rw [List.map_cons, extendAll?, hextend, List.zip_cons_cons, Captures.bindAll?]
          cases captures.bind? param arg with
          | none => simp
          | some captures => simpa using ih args captures

namespace Expr

/-! ### The outcome -/

section Outcome

open Captures

variable {spec body call : Expr} {params args : List Expr}

/-- Symbols that are equal are equal to the same expressions. -/
theorem same_eq_of_symbols {p q : Expr} (h : p.same q) (hp : p.symbol?.isSome)
    (hq : q.symbol?.isSome) (e : Expr) : p.same e = q.same e := by
  obtain ⟨name, hname⟩ := Option.isSome_iff_exists.mp hp
  obtain ⟨other, hother⟩ := Option.isSome_iff_exists.mp hq
  obtain ⟨held, rfl⟩ := symbol?_eq_some_iff.mp hname
  obtain ⟨held', rfl⟩ := symbol?_eq_some_iff.mp hother
  obtain rfl : name = other := by simpa [same] using h
  cases e <;> rfl

/-- Symbols can come again as parameters, and other expressions can come once. -/
theorem interchangeable_zip
    (h : params.Pairwise fun p q => p.same q → p.symbol?.isSome ∧ q.symbol?.isSome)
    (args : List Expr) : Interchangeable (params.zip args) := by
  have hsymm : Std.Symm fun p q : Expr => p.same q → ∀ e, p.same e = q.same e := by
    refine ⟨fun p q hpq hqp e => ?_⟩
    rw [same_comm] at hqp
    exact (hpq hqp e).symm
  intro c hc d hd
  have hall : params.Pairwise fun p q => p.same q → ∀ e, p.same e = q.same e := by
    refine h.imp fun {p q} hpq hsame e => ?_
    obtain ⟨hp, hq⟩ := hpq hsame
    exact same_eq_of_symbols hsame hp hq e
  exact hall.forall_of_forall (fun _ _ _ _ => rfl) (List.of_mem_zip hc).1 (List.of_mem_zip hd).1

/-- Parameters and arguments that fit are put in. -/
theorem applyFunction_of_agrees (hparams : spec.parameters? = some params)
    (hlength : params.length = args.length) (h : Interchangeable (params.zip args))
    (hagrees : Agrees (params.zip args) (params.zip args)) (s : Sharing) :
    applyFunction call [spec, body] args s =
      .fired (Captures.instantiate (params.zip args) body s) := by
  obtain ⟨result, hresult, -, hbinding⟩ | ⟨-, hnot⟩ := @bindAll?_cases [] (params.zip args) h
  · simp only [applyFunction, hparams, Pattern.extendAll?_captures, if_pos hlength, hresult]
    rw [Captures.instantiate, Captures.instantiate, instantiate?_congr hbinding]
    rfl
  · exact absurd hagrees hnot

theorem applyFunction_of_not_agrees (hparams : spec.parameters? = some params)
    (h : Interchangeable (params.zip args))
    (hnot : params.length ≠ args.length ∨ ¬ Agrees (params.zip args) (params.zip args))
    (s : Sharing) :
    applyFunction call [spec, body] args s =
      .plain (call.abort Failure.functionArguments.message) := by
  have hnone : Pattern.extendAll? (params.map fun param => Expr.call "Pattern" [param]) args [] =
      none := by
    rw [Pattern.extendAll?_captures]
    split
    next hlength =>
      obtain ⟨-, -, hagrees, -⟩ | ⟨hnone, -⟩ := @bindAll?_cases [] (params.zip args) h
      · exact absurd hagrees (hnot.resolve_left (not_not_intro hlength))
      · exact hnone
    next => rfl
  simp only [applyFunction, hparams, hnone]

/-- A function has two parts. -/
theorem applyFunction_of_length_ne {parts : List Expr} (h : parts.length ≠ 2) (s : Sharing) :
    applyFunction call parts args s = .plain (call.abort Failure.functionArity.message) := by
  match parts with
  | [] | [_] | _ :: _ :: _ :: _ => rfl
  | [_, _] => exact absurd rfl h

end Outcome

/-- **Applying a function, completely.** Without exactly two parts it fails, and so it does if the
first part is neither a symbol nor an application. The parameters are otherwise the symbol, or the
arguments of the application; let those that are no symbols come once. If there are not as many
arguments, or if one of them is not equal to the first that faces an equal parameter, the
application fails. Else it fires, and gives the body with everything in it replaced that is equal to
a parameter, outermost first, by the first argument that the parameter faces. Readable arguments are
equal to the first for their parameter exactly if no two for equal parameters are unequal. All this
holds whichever nodes are shared. -/
theorem applyFunction_classified (marked held : Bool) (parts args : List Expr) (s : Sharing) :
    let application := app (.apply (.symbol "Func" marked) parts held) args
    let result := applyFunction application parts args s
    let failed (message : String) : Reduced :=
      .plain (call "Abort" [application, .string message])
    (parts.length ≠ 2 → result = failed "Func requires two arguments") ∧
    ∀ spec body, parts = [spec, body] →
      (spec.symbol? = none → spec.application? = none →
        result = failed "Invalid lambda argument spec") ∧
      ∀ params, (spec.symbol?.isSome ∧ params = [spec] ∨
          ∃ head, spec.application? = some (head, params)) →
        params.Pairwise (fun p q => p.same q → p.symbol?.isSome ∧ q.symbol?.isSome) →
        let pairs : Captures := params.zip args
        (params.length ≠ args.length ∨ ¬ pairs.Agrees pairs →
          result = failed "Inconsistent lambda application") ∧
        (params.length = args.length → pairs.Agrees pairs →
          result = .fired (pairs.instantiate body s) ∧
            body.Outermost (fun _ => pairs.binding?) s (pairs.instantiate body s)) ∧
        ((∀ a ∈ args, a.Readable) → (pairs.Agrees pairs ↔ Captures.Consistent pairs)) := by
  intro application result failed
  refine ⟨fun hparts => ?_, ?_⟩
  · exact applyFunction_of_length_ne hparts s
  · rintro spec body rfl
    refine ⟨fun hsymbol happlication => ?_, fun params hspec hrepeated => ?_⟩
    · cases spec with
      | number _ | string _ => rfl
      | symbol _ _ => simp [symbol?] at hsymbol
      | apply _ _ _ => simp [application?] at happlication
    · have hparams : spec.parameters? = some params := by
        cases spec with
        | number _ | string _ => simp [symbol?, application?] at hspec
        | symbol name held => simpa [symbol?, application?, parameters?, eq_comm] using hspec
        | apply head args held => simpa [symbol?, application?, parameters?] using hspec
      have hinterchangeable := interchangeable_zip hrepeated args
      refine ⟨fun hnot => applyFunction_of_not_agrees hparams hinterchangeable hnot s,
        fun hlength hagrees => ?_, fun hargs => ?_⟩
      · exact ⟨applyFunction_of_agrees hparams hlength hinterchangeable hagrees s,
          (Captures.isPass_instantiate? _).outermost s body⟩
      · exact Captures.agrees_self_iff hinterchangeable fun c hc => hargs c.2 (List.of_mem_zip hc).2

/-- A parameter that comes twice needs equal arguments. -/
theorem applyFunction_classified_repeated :
    let parts : List Expr := [list [sym "x", sym "y", sym "x"], call "f" [sym "y", sym "x"]]
    let fitting : List Expr := [sym "a", sym "b", sym "a"]
    let unequal : List Expr := [sym "a", sym "b", sym "b"]
    let application (args : List Expr) : Expr := app (call "Func" parts) args
    applyFunction (application fitting) parts fitting = .fired (call "f" [sym "b", sym "a"]) ∧
      applyFunction (application unequal) parts unequal =
        .plain (call "Abort"
          [application unequal, .string "Inconsistent lambda application"]) := by
  intro parts fitting unequal application
  have hsymbols : List.Pairwise
      (fun p q : Expr => p.same q → p.symbol?.isSome ∧ q.symbol?.isSome)
      [sym "x", sym "y", sym "x"] := by decide
  have hreadable (args : List String)
      (h : ∀ name ∈ args, Text.Undelimited name.toList) :
      ∀ a ∈ args.map sym, a.Readable := by
    intro a ha
    obtain ⟨name, hname, rfl⟩ := List.mem_map.mp ha
    exact .symbol (h name hname)
  obtain ⟨-, hfitting⟩ := applyFunction_classified false false parts fitting .never
  obtain ⟨-, hunequal⟩ := applyFunction_classified false false parts unequal .never
  obtain ⟨-, hfires, hagrees⟩ := (hfitting _ _ rfl).2 _ (.inr ⟨_, rfl⟩) hsymbols
  obtain ⟨hfails, -, hdiffers⟩ := (hunequal _ _ rfl).2 _ (.inr ⟨_, rfl⟩) hsymbols
  refine ⟨(hfires rfl ((hagrees (hreadable ["a", "b", "a"] (by decide))).mpr (by decide))).1, ?_⟩
  exact hfails (.inr fun h =>
    absurd ((hdiffers (hreadable ["a", "b", "b"] (by decide))).mp h) (by decide))

/-- Parameters are not checked: an application is taken for one and stands for the argument. And
where equality is not transitive, because a symbol is spelled like two different applications, two
arguments for one parameter may differ, as long as both are equal to the first. -/
theorem applyFunction_unchecked :
    let compound : Expr := call "f" [sym "x"]
    let parts : List Expr := [list [compound], call "g" [compound]]
    let spelled : Expr := sym "h[s, t]"
    let two : Expr := call "h" [sym "s", sym "t"]
    let one : Expr := call "h" [sym "s, t"]
    let repeated : List Expr := [list [sym "x", sym "x", sym "x"], sym "x"]
    compound.symbol? = none ∧
      applyFunction (app (call "Func" parts) [sym "a"]) parts [sym "a"] =
        .fired (call "g" [sym "a"]) ∧
      two.same one = false ∧
      applyFunction (app (call "Func" repeated) [spelled, two, one]) repeated
        [spelled, two, one] = .fired spelled := by
  intro compound parts spelled two one repeated
  refine ⟨rfl, ?_, ?_, ?_⟩ <;> cbv

end Expr

end Reduct
