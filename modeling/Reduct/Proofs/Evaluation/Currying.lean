import Reduct.Proofs.Evaluation.Functions

/-!
# Functions of several parameters

A function of several parameters can be written as a function of the first one that gives a function
of the others (`Expr.curried`). If no argument holds a parameter, both come to the same
(`Captures.Independent.instantiate_in_turn`): applying the one puts all the arguments into the body
at once, applying the other puts them in one after the other. The functions that are left on the way
keep their form, because no parameter stands for `Func` or for another parameter.
-/

namespace Reduct

open Reduct.Expr

namespace Expr

/-- What applying a function to arguments gives, if it fires. -/
def appliedTo? (func : Expr) (args : List Expr) (s : Sharing := .never) : Option Expr :=
  let result := applyFunction (app func args) func.args args s
  if func.isCall "Func" && result.isFired then some result.expr else none

/-- The function of one parameter after the other. -/
def curried (params : List Expr) (body : Expr) : Expr :=
  params.foldr (fun param body => call "Func" [param, body]) body

/-- Applying a function whose arguments agree gives the body with the arguments put in. -/
theorem appliedTo?_of_agrees {spec : Expr} {params args : List Expr}
    (hparams : spec.parameters? = some params) (hlength : params.length = args.length)
    (h : Captures.Interchangeable (params.zip args))
    (hagrees : Captures.Agrees (params.zip args) (params.zip args)) (body : Expr) (s : Sharing) :
    appliedTo? (call "Func" [spec, body]) args s =
      some (Captures.instantiate (params.zip args) body s) := by
  have hfired := @applyFunction_of_agrees spec body (app (call "Func" [spec, body]) args) params
    args hparams hlength h hagrees s
  have hparts : (call "Func" [spec, body]).args = [spec, body] := rfl
  simp only [appliedTo?, hparts, hfired]
  rfl

end Expr

namespace Captures

variable {captures : Captures} {c d : Expr × Expr} {params : List Expr}

/-- Where nothing is put in for `Func` or the parameters, it is the body that changes. -/
theorem HasVariables.instantiate_curried (h : captures.HasVariables)
    (hfunc : ∀ c ∈ captures, c.1.symbol? ≠ some "Func")
    (hparams : ∀ param ∈ params, captures.instantiate param = param) (body : Expr) :
    captures.instantiate (curried params body) = curried params (captures.instantiate body) := by
  have hhead : captures.instantiate (sym "Func") = sym "Func" := by
    have hnone : captures.binding? (sym "Func") = none := h.binding?_eq_none hfunc
    rw [instantiate, instantiate?_atom rfl, hnone, Option.getD_none]
  induction params with
  | nil => rfl
  | cons param params ih =>
      have hparam := hparams param List.mem_cons_self
      have hrest := ih fun q hq => hparams q (List.mem_cons_of_mem param hq)
      calc captures.instantiate (curried (param :: params) body)
          = call "Func" [captures.instantiate param,
              captures.instantiate (curried params body)] := by
            rw [curried, List.foldr_cons, Expr.call, h.instantiate_app, hhead]
            rfl
        _ = curried (param :: params) (captures.instantiate body) := by
            rw [hparam, hrest]
            rfl

namespace Independent

/-- Only one pair has a key that is equal to a given key. -/
theorem eq_of_same (h : captures.Independent) (hc : c ∈ captures) (hd : d ∈ captures)
    (hsame : c.1.same d.1) : c = d := by
  obtain ⟨name, hname, hvariable⟩ := h.hasVariables c hc
  have hsymbol : c.1.symbol? = d.1.symbol? := by
    rw [hname, (same_variable_iff hvariable hname d.1).mp hsame]
  have hsymm : Std.Symm fun c d : Expr × Expr => c.1.symbol? ≠ d.1.symbol? :=
    ⟨fun _ _ => Ne.symm⟩
  by_contra hne
  exact h.distinct.forall hc hd hne hsymbol

theorem interchangeable (h : captures.Independent) : captures.Interchangeable := by
  intro c hc d hd hsame e
  rw [h.eq_of_same hc hd hsame]

theorem agrees (h : captures.Independent) : captures.Agrees captures := by
  intro d hd bound hbound
  obtain ⟨c, hc, hsame, rfl⟩ := exists_of_binding? hbound
  exact h.eq_of_same hc hd hsame ▸ same_refl c.2

/-- Nothing is put in for another variable. -/
theorem instantiate_key (h : Independent (c :: captures)) (hd : d ∈ captures) :
    instantiate [c] d.1 = d.1 := by
  obtain ⟨name, hname, -⟩ := h.hasVariables d (List.mem_cons_of_mem c hd)
  have hatom : d.1.application? = none := by
    obtain ⟨held, hkey⟩ := symbol?_eq_some_iff.mp hname
    rw [hkey]
    rfl
  have hone : HasVariables [c] := h.hasVariables.of_subset (by simp)
  have hnone : binding? [c] d.1 = none := by
    refine hone.binding?_eq_none fun c' hc' => ?_
    obtain rfl := List.mem_singleton.mp hc'
    exact (List.pairwise_cons.mp h.distinct).1 d hd
  rw [instantiate, instantiate?_atom hatom, hnone, Option.getD_none]

/-- A function of variables, applied to arguments that do not hold them. -/
theorem appliedTo?_list (h : captures.Independent) (body : Expr) (s : Sharing) :
    appliedTo? (call "Func" [list (captures.map Prod.fst), body]) (captures.map Prod.snd) s =
      some (captures.instantiate body) := by
  have hzip : (captures.map Prod.fst).zip (captures.map Prod.snd) = captures := by
    rw [List.zip_map', List.map_id']
  have happlied := @appliedTo?_of_agrees (list (captures.map Prod.fst)) (captures.map Prod.fst)
    (captures.map Prod.snd) rfl (by simp)
  rw [hzip] at happlied
  rw [happlied h.interchangeable h.agrees body s, h.instantiate_eq]

theorem appliedTo?_single (h : Independent (c :: captures)) (body : Expr) (s : Sharing) :
    appliedTo? (call "Func" [c.1, body]) [c.2] s = some (instantiate [c] body) := by
  obtain ⟨name, hname, -⟩ := h.hasVariables c List.mem_cons_self
  have hparams : c.1.parameters? = some [c.1] := by
    obtain ⟨held, hkey⟩ := symbol?_eq_some_iff.mp hname
    rw [hkey]
    rfl
  have hone : Independent [c] := h.of_sublist (by simp)
  rw [@appliedTo?_of_agrees c.1 [c.1] [c.2] hparams rfl hone.interchangeable hone.agrees body s]
  exact congrArg some (hone.instantiate_eq body s)

/-- Each application of the curried function puts in one argument, and leaves the curried function
of the other parameters. -/
theorem foldlM_appliedTo? (h : captures.Independent)
    (hfunc : ∀ c ∈ captures, c.1.symbol? ≠ some "Func") (sharing : Expr × Expr → Sharing)
    (body : Expr) :
    captures.foldlM (fun func c => func.appliedTo? [c.2] (sharing c))
      (curried (captures.map Prod.fst) body) = some (captures.instantiate body) := by
  induction captures generalizing body with
  | nil =>
      rw [← h.foldl_instantiate]
      rfl
  | cons c captures ih =>
      have hone : HasVariables [c] := h.hasVariables.of_subset (by simp)
      have hparams : ∀ param ∈ captures.map Prod.fst, instantiate [c] param = param := by
        intro param hparam
        obtain ⟨d, hd, rfl⟩ := List.mem_map.mp hparam
        exact h.instantiate_key hd
      have hfirst : appliedTo? (curried ((c :: captures).map Prod.fst) body) [c.2] (sharing c) =
          some (curried (captures.map Prod.fst) (instantiate [c] body)) := by
        rw [← hone.instantiate_curried (by simpa using hfunc c List.mem_cons_self) hparams]
        exact h.appliedTo?_single _ _
      rw [List.foldlM_cons, hfirst, Option.bind_eq_bind, Option.bind_some,
        ih h.of_cons fun d hd => hfunc d (List.mem_cons_of_mem c hd), h.instantiate_cons]

/-- **Putting in one at a time, and all at once.** Bindings for different variables which do not
occur in any of them can be put into a template one after the other, in any order. And if none of
the variables is `Func`, a function of all of them comes to the same as the curried function that is
applied to one argument after another: both fire, and give the body with the arguments put in. All
this holds whichever nodes are shared, at once and at each turn. -/
theorem instantiate_in_turn (captures : Captures) (h : captures.Independent) (s : Sharing)
    (sharing : Expr × Expr → Sharing) :
    (∀ captures' : Captures, captures'.Perm captures → ∀ template,
      captures'.foldl (fun template c => instantiate [c] template (sharing c)) template =
        captures.instantiate template s) ∧
    ((∀ c ∈ captures, c.1.symbol? ≠ some "Func") → ∀ body,
      let params := captures.map Prod.fst
      let args := captures.map Prod.snd
      appliedTo? (call "Func" [list params, body]) args s = some (captures.instantiate body s) ∧
      captures.foldlM (fun func c => func.appliedTo? [c.2] (sharing c)) (curried params body) =
        some (captures.instantiate body s)) := by
  constructor
  · intro captures' hperm template
    exact h.foldl_instantiate_perm hperm sharing template s
  · intro hfunc body params args
    rw [h.instantiate_eq]
    exact ⟨h.appliedTo?_list body s, h.foldlM_appliedTo? hfunc sharing body⟩

/-- The body is itself a function of one of the variables, and both have to be put in there too. -/
theorem instantiate_in_turn_nested :
    let captures : Captures := [(sym "x", sym "a"), (sym "y", call "f" [sym "b"])]
    let body : Expr := call "Func" [sym "y", call "g" [sym "y", sym "x"]]
    let result : Expr :=
      call "Func" [call "f" [sym "b"], call "g" [call "f" [sym "b"], sym "a"]]
    captures.Independent ∧
      captures.reverse.foldl (fun template c => instantiate [c] template) body = result ∧
      captures.foldlM (fun func c => func.appliedTo? [c.2])
        (curried [sym "x", sym "y"] body) = some result := by
  intro captures body result
  have hx : IsVariable "x" := .of_head (by simp [Text.isWord]) (by decide)
  have hy : IsVariable "y" := .of_head (by simp [Text.isWord]) (by decide)
  have h : captures.Independent := {
    hasVariables := by simpa [HasVariables, captures, symbol?] using ⟨hx, hy⟩
    distinct := by simp [captures, symbol?]
    apart := by simp [captures, symbol?] }
  have hresult : captures.instantiate body = result := by cbv
  obtain ⟨horder, hfunctions⟩ := instantiate_in_turn captures h .never fun _ => .never
  obtain ⟨-, hturns⟩ := hfunctions (by simp [captures, symbol?]) body
  exact ⟨h, (horder _ captures.reverse_perm body).trans hresult, hturns.trans (by rw [hresult])⟩

end Independent

end Captures

end Reduct
