import Reduct.Proofs.Expr.Copies
import Reduct.Proofs.Pattern.Keys
import Reduct.Proofs.Rule.Marks

/-!
# The names of the variables of a rule

A variable of a rule is a symbol that is the key of a capture. Renaming it means giving the new name
to these keys and to the symbol in the value (`Rule.renameVariable`). The symbol where it stands for
itself in the pattern, and what a rule is applied to, keep the name.

Matching binds the same to the new key as to the old one (`Pattern.extend?_renameKeys`), and these
bindings are put into the new value at the same places, unless another key interferes. Keys are
equal to what they read like, so a key that is a symbol can be spelled like an application of the
variable, and then it is not equal any more to the renamed one (`Rule.renameVariable_spelled`).

What is bound can be the very symbol in the value that it is put in the place of, and is not the
renamed one then. So the results are equal, but a node that is handed back with its hold mark in the
one can be built anew in the other.
-/

namespace Reduct

open Reduct.Expr

/-! ### Renaming a symbol -/

namespace Expr

/-- The expression with every symbol of the one name given the other. -/
def rename (x y : String) : Expr → Expr := mapNames fun name => if name = x then y else name

variable {x y : String} {e head : Expr} {args : List Expr}

theorem mapNamesAll_eq_map (f : String → String) (es : List Expr) :
    mapNamesAll f es = es.map (mapNames f) := by
  induction es with
  | nil => rfl
  | cons e es ih => rw [mapNamesAll, ih, List.map_cons]

theorem rename_apply (held : Bool) :
    (apply head args held).rename x y = .apply (head.rename x y) (args.map (rename x y)) held := by
  rw [rename, mapNames, mapNamesAll_eq_map]

theorem symbol?_rename (e : Expr) :
    (e.rename x y).symbol? = e.symbol?.map fun name => if name = x then y else name := by
  cases e <;> rfl

/-- The new name stands where the old one stood. -/
theorem symbol?_rename_eq_iff (hy : e.symbol? ≠ some y) :
    (e.rename x y).symbol? = some y ↔ e.symbol? = some x := by
  rw [symbol?_rename, Option.map_eq_some_iff]
  constructor
  · rintro ⟨name, hname, hrenamed⟩
    by_cases hx : name = x
    · rw [hname, hx]
    · rw [if_neg hx] at hrenamed
      exact absurd (hname.trans (congrArg some hrenamed)) hy
  · intro hx
    exact ⟨x, hx, if_pos rfl⟩

theorem rename_of_names (h : e.Names (· ≠ x)) : e.rename x y = e := by
  induction h with
  | number _ | string => rfl
  | symbol hname => rw [rename, mapNames, if_neg hname]
  | apply _ _ ihhead ihargs => rw [rename_apply, ihhead, List.map_congr_left ihargs, List.map_id']

mutual

/-- What does not hold the new name did not hold the old one. -/
theorem names_of_rename : ∀ {e : Expr}, (e.rename x y).Names (· ≠ y) → e.Names (· ≠ x)
  | .number _, _ => names_number _
  | .string _, _ => names_string _
  | .symbol name held, h => by
      refine names_symbol.mpr fun hname => h.of_symbol? ?_ rfl
      rw [symbol?_rename, symbol?, Option.map_some, if_pos hname]
  | .apply head args held, h => by
      rw [rename_apply] at h
      refine .apply (names_of_rename h.head_of_apply) (all_names_of_rename fun a ha => ?_)
      exact h.of_mem_args (List.mem_map_of_mem ha)

theorem all_names_of_rename : ∀ {es : List Expr},
    (∀ e ∈ es, (e.rename x y).Names (· ≠ y)) → ∀ e ∈ es, e.Names (· ≠ x)
  | [], _ => fun _ he => absurd he List.not_mem_nil
  | e :: es, h => List.forall_mem_cons.mpr
      ⟨names_of_rename (h e (by simp)), all_names_of_rename fun e he => h e (by simp [he])⟩

end

end Expr

/-! ### Renaming keys -/

namespace Pattern

/-- A key with its name changed if it is the variable. Other keys are left alone. -/
def renameKey (x y : String) (key : Expr) : Expr :=
  if key.symbol? = some x then key.rename x y else key

mutual

/-- The pattern with the key of every capture renamed. Nothing else in it changes. -/
def renameKeys (x y : String) : Expr → Expr
  | .apply head args held =>
    match key? (.apply head args held) with
    | some key => .apply head (renameKey x y key :: args.tail) held
    | none => .apply (renameKeys x y head) (renameKeysAll x y args) held
  | atom => atom

/-- `renameKeys` of each pattern. -/
def renameKeysAll (x y : String) : List Expr → List Expr
  | [] => []
  | p :: ps => renameKeys x y p :: renameKeysAll x y ps

end

variable {x y : String} {key other e e' : Expr}

theorem symbol?_renameKey_eq_iff (hkey : key.Names (· ≠ y)) :
    (renameKey x y key).symbol? = some y ↔ key.symbol? = some x := by
  rw [renameKey]
  split
  next => exact symbol?_rename_eq_iff fun hsymbol => hkey.of_symbol? hsymbol rfl
  next h =>
    exact ⟨fun hsymbol => absurd rfl (hkey.of_symbol? hsymbol), fun hsymbol => absurd hsymbol h⟩

/-- The renamed variable is to the one expression what the variable is to the other. -/
theorem same_renameKey_of_symbol (hx : IsVariable x) (hy : IsVariable y)
    (hkey : key.symbol? = some x) (he : e'.symbol? = some y ↔ e.symbol? = some x) :
    (renameKey x y key).same e' = key.same e := by
  have hkey' : (renameKey x y key).symbol? = some y := by
    rw [renameKey, if_pos hkey, symbol?_rename, hkey, Option.map_some, if_pos rfl]
  rw [Bool.eq_iff_iff, same_variable_iff hy hkey', same_variable_iff hx hkey, he]

/-- Renaming does not change which keys are equal. -/
theorem same_renameKey (hx : IsVariable x) (hy : IsVariable y) (hkey : key.Names (· ≠ y))
    (hother : other.Names (· ≠ y)) :
    (renameKey x y key).same (renameKey x y other) = key.same other := by
  by_cases h : key.symbol? = some x
  · exact same_renameKey_of_symbol hx hy h (symbol?_renameKey_eq_iff hother)
  by_cases h' : other.symbol? = some x
  · rw [same_comm, same_renameKey_of_symbol hx hy h' (symbol?_renameKey_eq_iff hkey), same_comm]
  · rw [renameKey, renameKey, if_neg h, if_neg h']

theorem key?_renameKeys (p : Expr) : key? (renameKeys x y p) = (key? p).map (renameKey x y) := by
  cases p with
  | number _ | string _ | symbol _ _ => rfl
  | apply head args held =>
      rw [renameKeys]
      split
      next key hkey =>
        obtain ⟨others, held, held', heq⟩ := key?_eq_some_iff.mp hkey
        cases heq
        rfl
      next hkey =>
        -- The head is `Pattern` afterwards only if it was, and then there are no arguments.
        rw [hkey, Option.map_none, ← Option.not_isSome_iff_eq_none, Option.isSome_iff_exists]
        rintro ⟨key, hrenamed⟩
        obtain ⟨others, marked, held', heq⟩ := key?_eq_some_iff.mp hrenamed
        injection heq with hhead hargs
        cases args with
        | nil => simp [renameKeysAll] at hargs
        | cons arg args =>
            cases head with
            | symbol name marked' =>
                obtain ⟨rfl, rfl⟩ : name = "Pattern" ∧ marked' = marked := by
                  simpa [renameKeys] using hhead
                simp [key?] at hkey
            | number _ | string _ => simp [renameKeys] at hhead
            | apply _ _ _ =>
                rw [renameKeys] at hhead
                split at hhead <;> simp at hhead

end Pattern

namespace Captures

open Pattern

variable {x y : String} {captures : Captures} {key value e e' : Expr}

/-- The pairs with their keys renamed. -/
def renameKeys (x y : String) (captures : Captures) : Captures :=
  captures.map fun c => (renameKey x y c.1, c.2)

/-- What the renamed keys are to the one expression, and the keys to the other, has one binding. -/
theorem binding?_renameKeys (h : ∀ c ∈ captures, (renameKey x y c.1).same e' = c.1.same e) :
    (captures.renameKeys x y).binding? e' = captures.binding? e := by
  rw [binding?, renameKeys, List.find?_map, Option.map_map, binding?]
  rw [← List.find?_congr h]
  rfl

theorem bind?_renameKeys (hx : IsVariable x) (hy : IsVariable y)
    (hcaptures : ∀ c ∈ captures, c.1.Names (· ≠ y)) (hkey : key.Names (· ≠ y)) :
    (captures.renameKeys x y).bind? (renameKey x y key) value =
      (captures.bind? key value).map (renameKeys x y) := by
  have hbinding : (captures.renameKeys x y).binding? (renameKey x y key) =
      captures.binding? key :=
    binding?_renameKeys fun c hc => same_renameKey hx hy (hcaptures c hc) hkey
  rw [bind?, bind?, hbinding]
  cases captures.binding? key with
  | none => simp [renameKeys]
  | some bound =>
      dsimp only
      split <;> rfl

end Captures

namespace Pattern

mutual

/-- **Matching binds to the new keys what it binds to the old ones.** -/
theorem extend?_renameKeys {x y : String} (hx : IsVariable x) (hy : IsVariable y) :
    ∀ {p : Expr} (e : Expr) {captures : Captures}, p.Names (· ≠ y) →
      (∀ c ∈ captures, c.1.Names (· ≠ y)) →
      extend? (renameKeys x y p) e (captures.renameKeys x y) =
        (extend? p e captures).map (Captures.renameKeys x y)
  | .apply f as held, e, captures, hp, hcaptures => by
      have hkey := @key?_renameKeys x y (.apply f as held)
      cases hkey' : key? (.apply f as held) with
      | some key =>
          have hnames : key.Names (· ≠ y) := names_keys hp key (by simp [keys, hkey'])
          simp only [renameKeys, hkey', Option.map_some] at hkey
          simp only [renameKeys, extend?, hkey', hkey]
          exact Captures.bind?_renameKeys hx hy hcaptures hnames
      | none =>
          simp only [renameKeys, hkey', Option.map_none] at hkey
          cases e with
          | apply g bs held' =>
              simp only [renameKeys, extend?, hkey', hkey,
                extend?_renameKeys hx hy g hp.head_of_apply hcaptures]
              cases hmiddle : extend? f g captures with
              | none => rfl
              | some middle =>
                  -- The head has bound keys of the pattern only, and none holds the new name.
                  exact extendAll?_renameKeys hx hy bs (fun _ => hp.of_mem_args)
                    (names_of_extend? hcaptures hp.head_of_apply hmiddle)
          | number _ | string _ | symbol _ _ => simp only [renameKeys, extend?, hkey', hkey]; rfl
  | .number _, e, captures, _, _ | .string _, e, captures, _, _
  | .symbol .., e, captures, _, _ => by
      rw [renameKeys, extend?_of_atom rfl, extend?_of_atom rfl]
      · split <;> rfl
      · simp

theorem extendAll?_renameKeys {x y : String} (hx : IsVariable x) (hy : IsVariable y) :
    ∀ {ps : List Expr} (es : List Expr) {captures : Captures}, (∀ p ∈ ps, p.Names (· ≠ y)) →
      (∀ c ∈ captures, c.1.Names (· ≠ y)) →
      extendAll? (renameKeysAll x y ps) es (captures.renameKeys x y) =
        (extendAll? ps es captures).map (Captures.renameKeys x y)
  | [], [], _, _, _ | [], _ :: _, _, _, _ | _ :: _, [], _, _, _ => rfl
  | p :: ps, e :: es, captures, hps, hcaptures => by
      have hp := hps p List.mem_cons_self
      rw [renameKeysAll, extendAll?, extendAll?, extend?_renameKeys hx hy e hp hcaptures]
      cases hmiddle : extend? p e captures with
      | none => rfl
      | some middle =>
          exact extendAll?_renameKeys hx hy es (fun p hp => hps p (List.mem_cons_of_mem _ hp))
            (names_of_extend? hcaptures hp hmiddle)

end

end Pattern

namespace Weight

mutual

theorem ofPattern_renameKeys (x y : String) :
    ∀ p : Expr, ofPattern (Pattern.renameKeys x y p) = ofPattern p
  | .apply head args held => by
      have hkey := @Pattern.key?_renameKeys x y (.apply head args held)
      cases hkey' : Pattern.key? (.apply head args held) with
      | some key =>
          simp only [Pattern.renameKeys, hkey', Option.map_some] at hkey
          simp only [Pattern.renameKeys, ofPattern, hkey', hkey]
      | none =>
          simp only [Pattern.renameKeys, hkey', Option.map_none] at hkey
          simp only [Pattern.renameKeys, ofPattern, hkey', hkey, ofPattern_renameKeys x y head,
            ofPatterns_renameKeysAll x y args]
  | .number _ | .string _ | .symbol .. => rfl

theorem ofPatterns_renameKeysAll (x y : String) :
    ∀ ps : List Expr, ofPatterns (Pattern.renameKeysAll x y ps) = ofPatterns ps
  | [] => rfl
  | p :: ps => by
      rw [Pattern.renameKeysAll, ofPatterns, ofPatterns, ofPattern_renameKeys x y p,
        ofPatterns_renameKeysAll x y ps]

end

end Weight

/-! ### Bindings in a renamed template -/

namespace Captures

variable {x y : String} {captures renamed : Captures}

/-- What is put together from results shows no difference where there is none without a result. -/
theorem rebuilt?_congr {head head₁ : Expr} {args args₁ : List Expr} {head' : Option Expr}
    {args' : Option (List Expr)} (hhead : head' = none → head₁ = head)
    (hargs : args' = none → args₁ = args) :
    rebuilt? head₁ args₁ head' args' = rebuilt? head args head' args' ∧
      (rebuilt? head args head' args' = none → head₁ = head ∧ args₁ = args) := by
  cases head' <;> cases args' <;> simp_all [rebuilt?]

theorem rebuiltArgs?_congr {e e₁ : Expr} {es es₁ : List Expr} {e' : Option Expr}
    {es' : Option (List Expr)} (he : e' = none → e₁ = e) (hes : es' = none → es₁ = es) :
    rebuiltArgs? e₁ es₁ e' es' = rebuiltArgs? e es e' es' ∧
      (rebuiltArgs? e es e' es' = none → e₁ = e ∧ es₁ = es) := by
  cases e' <;> cases es' <;> simp_all [rebuiltArgs?]

mutual

/-- **Bindings that correspond are put in at the same places.** What nothing is put into does not
hold the symbol. -/
theorem instantiate?_rename (hbound : ∀ held, captures.binding? (.symbol x held) ≠ none) :
    ∀ {template : Expr}, (template.Everywhere fun part =>
      renamed.binding? (part.rename x y) = captures.binding? part) →
    renamed.instantiate? (template.rename x y) = captures.instantiate? template ∧
      (captures.instantiate? template = none → template.rename x y = template)
  | .apply head args held, h => by
      have hself := h.self
      obtain ⟨hhead, hhead'⟩ := instantiate?_rename hbound h.head
      obtain ⟨hargs, hargs'⟩ := instantiateAll?_rename hbound fun _ => h.arg
      rw [rename_apply] at hself ⊢
      rw [instantiate?_apply, instantiate?_apply, hself]
      cases hbinding : captures.binding? (.apply head args held) with
      | some value => exact ⟨rfl, fun hnone => absurd hnone (Option.some_ne_none value)⟩
      | none =>
          -- A part without a result is kept as it was, so it must not hold the symbol.
          simp only [Sharing.turn_never, hhead, hargs]
          obtain ⟨heq, hsame⟩ := rebuilt?_congr hhead' hargs'
          refine ⟨heq, fun hnone => ?_⟩
          obtain ⟨hhead, hargs⟩ := hsame hnone
          rw [hhead, hargs]
  | .symbol name held, h => by
      refine ⟨?_, fun hnone => ?_⟩
      · have hatom : ((symbol name held).rename x y).application? = none := rfl
        rw [instantiate?_atom hatom, instantiate?_atom rfl, h.self]
      · refine rename_of_names (names_symbol.mpr fun hname => ?_)
        rw [instantiate?_atom rfl] at hnone
        exact hbound held (hname ▸ hnone)
  | .number _, h | .string _, h =>
      ⟨(instantiate?_atom rfl).trans (h.self.trans (instantiate?_atom rfl).symm), fun _ => rfl⟩

theorem instantiateAll?_rename (hbound : ∀ held, captures.binding? (.symbol x held) ≠ none) :
    ∀ {templates : List Expr}, (∀ template ∈ templates, template.Everywhere fun part =>
      renamed.binding? (part.rename x y) = captures.binding? part) →
    renamed.instantiateAll? (templates.map (rename x y)) = captures.instantiateAll? templates ∧
      (captures.instantiateAll? templates = none → templates.map (rename x y) = templates)
  | [], _ => ⟨rfl, fun _ => rfl⟩
  | e :: es, h => by
      obtain ⟨hfirst, hfirst'⟩ := instantiate?_rename hbound (h e List.mem_cons_self)
      obtain ⟨hothers, hothers'⟩ :=
        instantiateAll?_rename hbound fun e he => h e (List.mem_cons_of_mem _ he)
      obtain ⟨heq, hsame⟩ := rebuiltArgs?_congr hfirst' hothers'
      simp only [List.map_cons, instantiateAll?, Sharing.turn_never, hfirst, hothers]
      refine ⟨heq, fun hnone => ?_⟩
      obtain ⟨hfirst, hothers⟩ := hsame hnone
      rw [hfirst, hothers]

end

end Captures

/-! ### Rules -/

namespace Expr

mutual

/-- What is equal to a key holds a variable only if the key does, unless a symbol in the key is
spelled like an application. -/
theorem names_of_same {x : String} (hx : IsVariable x) : ∀ {key e : Expr}, key.same e →
    key.Names (· ≠ x) → key.Names (·.toList.getLast? ≠ some ']') → e.Names (· ≠ x)
  | key, .symbol name held, h, hkey, _ => by
      refine names_symbol.mpr fun hname => ?_
      have hsymbol : (symbol name held).symbol? = some x := congrArg some hname
      rw [same_comm] at h
      exact hkey.of_symbol? ((same_variable_iff hx hsymbol key).mp h) rfl
  | .apply f as _, .apply g bs _, h, hkey, hspelling => by
      rw [same, Bool.and_eq_true] at h
      exact .apply (names_of_same hx h.1 hkey.head_of_apply hspelling.head_of_apply)
        (names_of_sameAll hx h.2 (fun _ => hkey.of_mem_args) fun _ => hspelling.of_mem_args)
  | .symbol name _, .apply g bs _, h, _, hspelling => by
      rw [same, Bool.and_eq_true, beq_iff_eq] at h
      exact absurd h.1 (names_symbol.mp hspelling)
  | .number _, .apply .., h, _, _ | .string _, .apply .., h, _, _ => by simp [same] at h
  | _, .number _, _, _, _ => names_number _
  | _, .string _, _, _, _ => names_string _

theorem names_of_sameAll {x : String} (hx : IsVariable x) : ∀ {keys es : List Expr},
    sameAll keys es → (∀ key ∈ keys, key.Names (· ≠ x)) →
    (∀ key ∈ keys, key.Names (·.toList.getLast? ≠ some ']')) → ∀ e ∈ es, e.Names (· ≠ x)
  | _, [], _, _, _ => fun _ he => absurd he List.not_mem_nil
  | key :: keys, e :: es, h, hkeys, hspelling => by
      rw [sameAll, Bool.and_eq_true] at h
      refine List.forall_mem_cons.mpr ⟨?_, ?_⟩
      · exact names_of_same hx h.1 (hkeys key (by simp)) (hspelling key (by simp))
      · exact names_of_sameAll hx h.2 (fun key hkey => hkeys key (by simp [hkey]))
          fun key hkey => hspelling key (by simp [hkey])
  | [], _ :: _, h, _, _ => by simp [sameAll] at h

end

end Expr

namespace Rule

open Captures Pattern

/-- The rule with a variable renamed: the keys that are the symbol, and the symbol in the value. -/
def renameVariable (rule : Rule) (x y : String) : Rule :=
  ⟨renameKeys x y rule.pattern, rule.value.rename x y⟩

/-- No other key is equal to a part of the value and not to the renamed part, or the other way
round. -/
def Separates (rule : Rule) (x y : String) : Prop :=
  ∀ key ∈ keys rule.pattern, key.symbol? ≠ some x →
    rule.value.Everywhere fun part => key.same (part.rename x y) = key.same part

variable {rule : Rule} {x y : String}

/-- Parts of the value are bound to the same, whichever name the variable has. -/
theorem binding?_rename (hx : IsVariable x) (hy : IsVariable y)
    (hvalue : rule.value.Names (· ≠ y)) (hseparates : rule.Separates x y) {captures : Captures}
    (hkeys : ∀ c ∈ captures, c.1 ∈ keys rule.pattern) :
    rule.value.Everywhere fun part =>
      (captures.renameKeys x y).binding? (part.rename x y) = captures.binding? part := by
  intro path part hpart
  refine binding?_renameKeys fun c hc => ?_
  by_cases hkey : c.1.symbol? = some x
  · refine same_renameKey_of_symbol hx hy hkey (symbol?_rename_eq_iff fun hsymbol => ?_)
    exact Everywhere.of_names hvalue path part hpart y hsymbol rfl
  · rw [renameKey, if_neg hkey]
    exact hseparates c.1 (hkeys c hc) hkey path part hpart

/-- A rule makes the same of everything, whichever name the variable has. -/
theorem resolve?_renameVariable (hx : IsVariable x) (hy : IsVariable y)
    (hpattern : rule.pattern.Names (· ≠ y)) (hvalue : rule.value.Names (· ≠ y))
    (hkey : ∃ key ∈ keys rule.pattern, key.symbol? = some x) (hseparates : rule.Separates x y)
    (e : Expr) : (rule.renameVariable x y).resolve? e = rule.resolve? e := by
  have hmatch : match? (renameKeys x y rule.pattern) e =
      (match? rule.pattern e).map (Captures.renameKeys x y) :=
    extend?_renameKeys hx hy e hpattern fun _ hc => absurd hc List.not_mem_nil
  rw [resolve?, resolve?, renameVariable, hmatch, Option.map_map]
  cases hcaptures : match? rule.pattern e with
  | none => rfl
  | some captures =>
      obtain ⟨hmem, hpairs⟩ := match?_spec hcaptures
      have hbound (held : Bool) : captures.binding? (.symbol x held) ≠ none := by
        obtain ⟨key, hkey, hsymbol⟩ := hkey
        obtain ⟨c, hc, hsame⟩ := hpairs key hkey
        rw [same_comm, same_variable_iff hx hsymbol] at hsame
        have hvariable : c.1.same (.symbol x held) := (same_variable_iff hx hsame _).mpr rfl
        obtain ⟨value, hvalue⟩ := exists_binding? hc hvariable
        rw [hvalue]
        exact Option.some_ne_none value
      obtain ⟨hinstance, hunchanged⟩ := instantiate?_rename hbound
        (binding?_rename hx hy hvalue hseparates hmem)
      simp only [Option.map_some, Function.comp_apply, instantiate, hinstance]
      cases hresult : captures.instantiate? rule.value with
      | none => rw [hunchanged hresult]
      | some result => rfl

/-- Ordinary keys separate: those that do not hold the variable, nor a symbol that is spelled like
an application. -/
theorem separates_of_names (hx : IsVariable x) (hy : IsVariable y)
    (hpattern : rule.pattern.Names (· ≠ y))
    (hkeys : ∀ key ∈ keys rule.pattern, key.symbol? ≠ some x →
      key.Names (· ≠ x) ∧ key.Names (·.toList.getLast? ≠ some ']')) : rule.Separates x y := by
  intro key hkey hne path part _
  obtain ⟨hnames, hspelling⟩ := hkeys key hkey hne
  rw [Bool.eq_iff_iff]
  constructor
  · intro h
    have hpart := names_of_rename (names_of_same hy h (names_keys hpattern key hkey) hspelling)
    rwa [rename_of_names hpart] at h
  · intro h
    rwa [rename_of_names (names_of_same hx h hnames hspelling)]

/-- **Rules do not depend on the names of their variables.** A rule whose variable is given a name
that occurs nowhere in it has the same weight, and makes an equal expression of everything that it
accepts, whichever nodes are shared, provided that it separates the variable from its other keys.
This can fail only for a key that holds the variable, or a symbol which is spelled like an
application. -/
theorem renameVariable_independent (rule : Rule) (hx : IsVariable x) (hy : IsVariable y)
    (hpattern : rule.pattern.Names (· ≠ y)) (hvalue : rule.value.Names (· ≠ y))
    (hkey : ∃ key ∈ keys rule.pattern, key.symbol? = some x) :
    (rule.renameVariable x y).weight = rule.weight ∧
    (rule.Separates x y → ∀ e s s', Option.Rel (fun d d' => d.same d')
      ((rule.renameVariable x y).resolve? e s) (rule.resolve? e s')) ∧
    ((∀ key ∈ keys rule.pattern, key.symbol? ≠ some x →
        key.Names (· ≠ x) ∧ key.Names (·.toList.getLast? ≠ some ']')) →
      rule.Separates x y) := by
  refine ⟨Weight.ofPattern_renameKeys x y rule.pattern, ?_, ?_⟩
  · intro hseparates e s s'
    refine optionRel_of_map_eq (fun _ _ => Alike.same) ?_
    rw [map_resolve? _ e s .never, map_resolve? _ e s' .never,
      resolve?_renameVariable hx hy hpattern hvalue hkey hseparates]
  · intro hkeys
    exact separates_of_names hx hy hpattern hkeys

/-- The symbol stands for itself in the pattern too, where it keeps its name, and the expression
holds both names. -/
theorem renameVariable_independent_literal :
    let capture (name : String) : Expr := call "Pattern" [sym name]
    let rule : Rule := ⟨call "f" [capture "x", sym "x", capture "z"],
      call "g" [sym "x", call "Func" [sym "x", sym "z"]]⟩
    let renamed : Rule := ⟨call "f" [capture "y", sym "x", capture "z"],
      call "g" [sym "y", call "Func" [sym "y", sym "z"]]⟩
    let e : Expr := call "f" [sym "y", sym "x", sym "x"]
    rule.renameVariable "x" "y" = renamed ∧ renamed.weight = rule.weight ∧
      rule.Separates "x" "y" ∧
      Option.Rel (fun d d' => d.same d') (renamed.resolve? e)
        (some (call "g" [sym "y", call "Func" [sym "y", sym "x"]])) := by
  intro capture rule renamed e
  have hx : IsVariable "x" := .of_head (by simp [Text.isWord]) (by decide)
  have hy : IsVariable "y" := .of_head (by simp [Text.isWord]) (by decide)
  have hrenamed : rule.renameVariable "x" "y" = renamed := by cbv
  have hkeys : keys rule.pattern = [sym "x", sym "z"] := by cbv
  obtain ⟨hweight, hresolve, hordinary⟩ := rule.renameVariable_independent hx hy
    (by simp [rule, capture]) (by simp [rule]) ⟨sym "x", by simp [hkeys], rfl⟩
  have hseparates : rule.Separates "x" "y" :=
    hordinary (by rw [hkeys]; simp [symbol?])
  have hresult : rule.resolve? e = some (call "g" [sym "y", call "Func" [sym "y", sym "x"]]) := by
    cbv
  rw [hrenamed] at hweight hresolve
  exact ⟨hrenamed, hweight, hseparates, hresult ▸ hresolve hseparates e .never .never⟩

/-- The results differ in a mark: the symbol in the value is bound to the node that it is, and the
value is handed back, while the renamed one is built anew. -/
example :
    let rule : Rule := ⟨call "g" [call "Pattern" [sym "x"]], (call "f" [sym "x"]).holdForm⟩
    let e : Expr := call "g" [.symbol "x" true]
    rule.resolve? e .ofAtoms = some (call "f" [sym "x"]).holdForm ∧
      (rule.renameVariable "x" "y").resolve? e .ofAtoms =
        some (.app (.symbol "f" true) [.symbol "x" true]) := by
  intro rule e
  constructor <;> cbv

/-- A key that is a symbol can be spelled like an application of the variable. The value is equal to
it, and is not any more when the variable is renamed. -/
theorem renameVariable_spelled :
    let capture (name : String) : Expr := call "Pattern" [sym name]
    let rule : Rule := ⟨call "g" [capture "x", capture "f[x]"], call "f" [sym "x"]⟩
    let renamed : Rule := ⟨call "g" [capture "y", capture "f[x]"], call "f" [sym "y"]⟩
    let e : Expr := call "g" [sym "a", sym "b"]
    IsVariable "x" ∧ IsVariable "y" ∧ rule.pattern.Names (· ≠ "y") ∧ rule.value.Names (· ≠ "y") ∧
      keys rule.pattern = [sym "x", sym "f[x]"] ∧ (sym "f[x]").Names (· ≠ "x") ∧
      rule.renameVariable "x" "y" = renamed ∧ rule.resolve? e = some (sym "b") ∧
      renamed.resolve? e = some (call "f" [sym "a"]) ∧
      (sym "b").same (call "f" [sym "a"]) = false := by
  intro capture rule renamed e
  have hx : IsVariable "x" := .of_head (by simp [Text.isWord]) (by decide)
  have hy : IsVariable "y" := .of_head (by simp [Text.isWord]) (by decide)
  refine ⟨hx, hy, by simp [rule, capture], by simp [rule], ?_, by simp, ?_, ?_, ?_, ?_⟩ <;> cbv

end Rule

end Reduct
