import Reduct.Proofs.Expr.Kept
import Reduct.Proofs.Rule.Sharing

/-!
# What rewriting keeps

A property that evaluation keeps is hereditary. So if it holds of an expression, of bindings and of
the values of rules, it holds of what comes of putting bindings in, of using rules, of replacing and
of applying a function.
-/

namespace Reduct

open Reduct.Expr

variable {P : String → Prop} {Q : Expr → Prop}

/-- The property holds of the pattern and of the value. -/
structure Rule.Holds (Q : Expr → Prop) (rule : Rule) : Prop where
  pattern : Q rule.pattern
  value : Q rule.value

theorem Rule.Holds.mono {Q' : Expr → Prop} (hQ : ∀ e, Q e → Q' e) {rule : Rule} (h : rule.Holds Q) :
    rule.Holds Q' :=
  ⟨hQ _ h.pattern, hQ _ h.value⟩

namespace Expr.Hereditary

variable {rules : List Rule} {e result : Expr} {s : Sharing} (hQ : Hereditary Q)
include hQ

theorem resolve? {rule : Rule} (h : rule.Holds Q) (he : Q e)
    (hresult : rule.resolve? e s = some result) : Q result := by
  obtain ⟨captures, hmatch, rfl⟩ := Option.map_eq_some_iff.mp hresult
  exact (captures.substitutes_instantiate rule.value s).hereditary hQ h.value
    (Pattern.hereditary_match? hQ he hmatch)

theorem replace (hrules : ∀ rule ∈ rules, rule.Holds Q) (he : Q e) : Q (e.replace rules s) :=
  (e.replacesTo_replace rules s).hereditary hQ he fun rule hrule => (hrules rule hrule).value

theorem replaceAll (hrules : ∀ rule ∈ rules, rule.Holds Q) (he : Q e) : Q (e.replaceAll rules s) :=
  (e.replacesAllTo_replaceAll rules s).hereditary hQ he fun rule hrule => (hrules rule hrule).value

end Expr.Hereditary

theorem Expr.Kept.applyFunction {call : Expr} {parts args : List Expr} (hQ : Kept P Q)
    (hcall : Q call) (hparts : ∀ part ∈ parts, Q part) (hargs : ∀ a ∈ args, Q a) (s : Sharing) :
    Q (applyFunction call parts args s).expr := by
  have hfailed (failure : Failure) : Q (Reduced.plain (call.abort failure.message)).expr :=
    hQ.abort hcall _
  match parts with
  | [params, body] =>
      cases hparams : params.parameters? with
      | none => simpa only [Expr.applyFunction, hparams] using hfailed _
      | some params' =>
          simp only [Expr.applyFunction, hparams]
          split
          next captures hmatch =>
            exact (captures.substitutes_instantiate body s).hereditary hQ.toHereditary
              (hparts body (by simp)) (Pattern.hereditary_matchAll? hQ.toHereditary hargs hmatch)
          next => exact hfailed _
  | [] | [_] | _ :: _ :: _ :: _ => exact hfailed _

end Reduct
