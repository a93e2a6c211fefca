import Reduct.Pattern
import Reduct.Proofs.Expr.Reading

/-!
# Matching is sound and complete

What a pattern accepts is said in two parts. `Fits` is the shape: the expression is built like
the pattern down to the captures, which accept anything. `faced` lists the captures met on the
way, heads before arguments and arguments from left to right, each with its key and the
expression it faces. The pattern accepts an expression that fits, provided that captures with
equal keys face equal expressions (`Consistent`), and then binds each key to what it faced first
(`firsts`).

The matcher is one pass that carries the bindings along. `extend?_eq_some_iff` cuts it in two,
for any bindings: the shape, and binding what `faced` lists in order. `bindAll?_eq_some_iff` says
what binding in order does to the bindings there are, and that is where keys and values have to
be readable, so that `same` is an equivalence.
-/

namespace Reduct

namespace Captures

/-- Binds keys to values from left to right. -/
def bindAll? (captures : Captures) : List (Expr × Expr) → Option Captures
  | [] => some captures
  | pair :: pairs =>
      match captures.bind? pair.1 pair.2 with
      | some captures => bindAll? captures pairs
      | none => none

/-- The first pair for each key. -/
def firsts : List (Expr × Expr) → Captures
  | [] => []
  | pair :: pairs => pair :: (firsts pairs).filter fun other => !pair.1.same other.1

/-- Pairs with equal keys have equal values. -/
def Consistent (pairs : List (Expr × Expr)) : Prop :=
  ∀ x ∈ pairs, ∀ y ∈ pairs, x.1.same y.1 → x.2.same y.2

instance (pairs : List (Expr × Expr)) : Decidable (Consistent pairs) :=
  inferInstanceAs (Decidable (∀ x ∈ pairs, ∀ y ∈ pairs, x.1.same y.1 → x.2.same y.2))

/-- Keys and values are readable. -/
def Readable (pairs : List (Expr × Expr)) : Prop :=
  ∀ pair ∈ pairs, pair.1.Readable ∧ pair.2.Readable

end Captures

namespace Pattern

open Captures

/-- An atom binds nothing. -/
theorem extend?_of_atom {p e : Expr} {captures : Captures} (h : p.application? = none) :
    extend? p e captures = if acceptsAtom p e then some captures else none := by
  cases p with
  | apply head args held => simp [Expr.application?] at h
  | number _ | string _ | symbol _ _ => rfl

/-! ### What a pattern accepts -/

mutual

/-- The expression has the shape of the pattern, down to its captures. -/
inductive Fits : Expr → Expr → Prop
  | capture {key : Expr} {others : List Expr} {held held' : Bool} {e : Expr} :
      Fits (.apply (.symbol "Pattern" held) (key :: others) held') e
  | number {x y : Float} : x == y → Fits (.number x) (.number y)
  | string {text : String} : Fits (.string text) (.string text)
  | symbol {name : String} {held held' : Bool} : Fits (.symbol name held) (.symbol name held')
  | apply {f g : Expr} {as bs : List Expr} {held held' : Bool} :
      key? (.apply f as held) = none → Fits f g → FitsAll as bs →
        Fits (.apply f as held) (.apply g bs held')

/-- The expressions have the shapes of as many patterns, one by one. -/
inductive FitsAll : List Expr → List Expr → Prop
  | nil : FitsAll [] []
  | cons {p e : Expr} {ps es : List Expr} : Fits p e → FitsAll ps es → FitsAll (p :: ps) (e :: es)

end

mutual

/-- The captures of the pattern in the order in which they are met, each as its key and the
part of the expression it faces. -/
def faced : Expr → Expr → List (Expr × Expr)
  | .apply f as held, e =>
    match key? (.apply f as held) with
    | some key => [(key, e)]
    | none =>
      match e with
      | .apply g bs _ => faced f g ++ facedAll as bs
      | _ => []
  | _, _ => []

/-- The captures of several patterns, from left to right. -/
def facedAll : List Expr → List Expr → List (Expr × Expr)
  | p :: ps, e :: es => faced p e ++ facedAll ps es
  | _, _ => []

end

theorem key?_eq_some_iff {p key : Expr} :
    key? p = some key ↔
      ∃ others held held', p = .apply (.symbol "Pattern" held) (key :: others) held' := by
  constructor
  · intro h
    unfold key? at h
    split at h
    next held key' others held' =>
      obtain rfl := Option.some.inj h
      exact ⟨others, held, held', rfl⟩
    next => simp at h
  · rintro ⟨others, held, held', rfl⟩
    rfl

/-- What an application that is no capture accepts. -/
theorem fits_apply_iff {f e : Expr} {as : List Expr} {held : Bool}
    (hkey : key? (.apply f as held) = none) :
    Fits (.apply f as held) e ↔
      ∃ g bs held', e = .apply g bs held' ∧ Fits f g ∧ FitsAll as bs := by
  constructor
  · intro h
    cases h with
    | capture => simp [key?] at hkey
    | apply _ hf has => exact ⟨_, _, _, rfl, hf, has⟩
  · rintro ⟨g, bs, held', rfl, hf, has⟩
    exact .apply hkey hf has

/-- An atom accepts what has its shape. -/
theorem acceptsAtom_iff {p e : Expr} (hp : p.isAtom) : acceptsAtom p e ↔ Fits p e := by
  constructor
  · intro h
    unfold acceptsAtom at h
    split at h
    next => exact .number h
    next => exact beq_iff_eq.mp h ▸ .string
    next => exact beq_iff_eq.mp h ▸ .symbol
    next => simp at h
  · intro h
    cases h with
    | capture | apply => simp [Expr.isAtom] at hp
    | number h => exact h
    | string | symbol => exact beq_self_eq_true _

end Pattern

/-! ### Matching as binding in order -/

theorem Captures.bindAll?_append {captures : Captures} {xs ys : List (Expr × Expr)} :
    captures.bindAll? (xs ++ ys) = (captures.bindAll? xs).bind (·.bindAll? ys) := by
  induction xs generalizing captures with
  | nil => rfl
  | cons x xs ih =>
      simp only [List.cons_append, bindAll?]
      cases captures.bind? x.1 x.2 with
      | none => rfl
      | some captures => exact ih

namespace Pattern

open Captures

/-- An atom has no captures. -/
theorem extend?_atom {p e : Expr} {captures result : Captures} (hp : p.isAtom) :
    extend? p e captures = some result ↔
      Fits p e ∧ captures.bindAll? (faced p e) = some result := by
  have hextend : extend? p e captures = if acceptsAtom p e then some captures else none := by
    cases p with
    | apply => simp [Expr.isAtom] at hp
    | _ => rfl
  have hfaced : faced p e = [] := by
    cases p with
    | apply => simp [Expr.isAtom] at hp
    | _ => rfl
  rw [hextend, hfaced, ← acceptsAtom_iff hp, bindAll?]
  split <;> simp_all

mutual

/-- **Matching is having the shape and binding in order** what the captures face. -/
theorem extend?_eq_some_iff : ∀ {p e : Expr} {captures result : Captures},
    extend? p e captures = some result ↔
      Fits p e ∧ captures.bindAll? (faced p e) = some result
  | .apply f as held, e, captures, result => by
      cases hkey : key? (.apply f as held) with
      | some key =>
          -- A capture fits whatever it faces, and binding its key is all there is to do.
          obtain ⟨others, held, held', hp⟩ := key?_eq_some_iff.mp hkey
          have hbind : captures.bindAll? [(key, e)] = captures.bind? key e := by
            simp only [bindAll?]
            cases captures.bind? key e <;> rfl
          simp only [extend?, faced, hkey, hbind]
          exact (and_iff_right (hp ▸ .capture)).symm
      | none =>
          rw [fits_apply_iff hkey]
          cases e with
          | apply g bs held' =>
              -- The arguments start from the bindings that the head leaves.
              have hstep : extend? (.apply f as held) (.apply g bs held') captures = some result ↔
                  ∃ middle, extend? f g captures = some middle ∧
                    extendAll? as bs middle = some result := by
                simp only [extend?, hkey]
                cases extend? f g captures <;> simp
              have hfaced : faced (.apply f as held) (.apply g bs held') =
                  faced f g ++ facedAll as bs := by
                simp only [faced, hkey]
              simp only [hstep, hfaced, bindAll?_append, Option.bind_eq_some_iff,
                extend?_eq_some_iff, extendAll?_eq_some_iff]
              constructor
              · rintro ⟨middle, ⟨hf, hmiddle⟩, has, hresult⟩
                exact ⟨⟨g, bs, held', rfl, hf, has⟩, middle, hmiddle, hresult⟩
              · rintro ⟨⟨g, bs, held', heq, hf, has⟩, middle, hmiddle, hresult⟩
                cases heq
                exact ⟨middle, ⟨hf, hmiddle⟩, has, hresult⟩
          | _ => simp [extend?, hkey]
  | .number _, _, _, _ | .string _, _, _, _ | .symbol .., _, _, _ => extend?_atom rfl

/-- Matching several patterns is having their shapes and binding in order. -/
theorem extendAll?_eq_some_iff : ∀ {ps es : List Expr} {captures result : Captures},
    extendAll? ps es captures = some result ↔
      FitsAll ps es ∧ captures.bindAll? (facedAll ps es) = some result
  | [], [], captures, result => by
      simp [extendAll?, facedAll, bindAll?, FitsAll.nil]
  | p :: ps, e :: es, captures, result => by
      have hstep : extendAll? (p :: ps) (e :: es) captures = some result ↔
          ∃ middle, extend? p e captures = some middle ∧
            extendAll? ps es middle = some result := by
        rw [extendAll?]
        cases extend? p e captures <;> simp
      simp only [hstep, facedAll, bindAll?_append, Option.bind_eq_some_iff, extend?_eq_some_iff,
        extendAll?_eq_some_iff]
      constructor
      · rintro ⟨middle, ⟨hp, hmiddle⟩, hps, hresult⟩
        exact ⟨.cons hp hps, middle, hmiddle, hresult⟩
      · rintro ⟨hfits, middle, hmiddle, hresult⟩
        cases hfits with
        | cons hp hps => exact ⟨middle, ⟨hp, hmiddle⟩, hps, hresult⟩
  | [], _ :: _, _, _ | _ :: _, [], _, _ => by
      simp only [extendAll?, reduceCtorEq, false_iff]
      rintro ⟨h, -⟩
      cases h

end

end Pattern

/-! ### Binding in order -/

namespace Captures

variable {captures result : Captures} {pairs : List (Expr × Expr)} {x y : Expr × Expr}

/-- The values agree with the bindings their keys have. -/
def Agrees (captures : Captures) (pairs : List (Expr × Expr)) : Prop :=
  ∀ y ∈ pairs, ∀ bound, captures.binding? y.1 = some bound → bound.same y.2

theorem Readable.of_cons (h : Readable (x :: pairs)) : Readable pairs := fun y hy =>
  h y (List.mem_cons_of_mem x hy)

theorem Readable.concat (hc : Readable captures) (hx : x.1.Readable ∧ x.2.Readable) :
    Readable (captures ++ [x]) := by
  intro y hy
  rcases List.mem_append.mp hy with hy | hy
  · exact hc y hy
  · exact List.mem_singleton.mp hy ▸ hx

theorem readable_of_binding? {key bound : Expr} (hc : Readable captures)
    (h : captures.binding? key = some bound) : bound.Readable := by
  obtain ⟨x, hx, rfl⟩ := Option.map_eq_some_iff.mp h
  exact (hc x (List.mem_of_find?_eq_some hx)).2

/-- Equal keys have the same binding. -/
theorem binding?_congr {key key' : Expr} (hc : Readable captures) (hkey : key.Readable)
    (hkey' : key'.Readable) (h : key.same key') :
    captures.binding? key = captures.binding? key' := by
  have hfind : captures.find? (·.1.same key) = captures.find? (·.1.same key') := by
    induction captures with
    | nil => rfl
    | cons x captures ih =>
        rw [List.find?_cons, List.find?_cons, ih hc.of_cons,
          Expr.same_congr_right (hc x (by simp)).1 hkey hkey' h]
  rw [binding?, hfind, binding?]

theorem binding?_cons (c : Expr × Expr) (captures : Captures) (e : Expr) :
    Captures.binding? (c :: captures) e =
      if c.1.same e then some c.2 else captures.binding? e := by
  rw [binding?, List.find?_cons]
  cases c.1.same e <;> rfl

theorem binding?_append (captures pairs : Captures) (e : Expr) :
    (captures ++ pairs : Captures).binding? e = (captures.binding? e).or (pairs.binding? e) := by
  rw [binding?, List.find?_append, binding?, binding?]
  cases captures.find? (·.1.same e) <;> rfl

/-- A new pair gives its key a binding and leaves the bindings there are. -/
theorem binding?_concat {key : Expr} :
    (captures ++ [x] : Captures).binding? key =
      (captures.binding? key).or (if x.1.same key then some x.2 else none) := by
  rw [binding?_append, binding?_cons]
  rfl

theorem mem_of_mem_firsts (h : x ∈ firsts pairs) : x ∈ pairs := by
  induction pairs with
  | nil => exact h
  | cons y pairs ih =>
      rcases List.mem_cons.mp h with rfl | h
      · exact List.mem_cons_self
      · exact List.mem_cons_of_mem y (ih (List.mem_of_mem_filter h))

theorem consistent_cons_iff (hp : Readable (x :: pairs)) :
    Consistent (x :: pairs) ↔
      (∀ y ∈ pairs, x.1.same y.1 → x.2.same y.2) ∧ Consistent pairs := by
  constructor
  · intro h
    exact ⟨fun y hy => h x (by simp) y (by simp [hy]),
      fun y hy z hz => h y (by simp [hy]) z (by simp [hz])⟩
  · rintro ⟨hx, hpairs⟩ y hy z hz hsame
    have hxr := hp x (by simp)
    rcases List.mem_cons.mp hy with rfl | hy'
    · rcases List.mem_cons.mp hz with rfl | hz'
      · exact Expr.same_refl _
      · exact hx z hz' hsame
    · rcases List.mem_cons.mp hz with rfl | hz'
      · rw [Expr.same_comm]
        exact hx y hy' ((Expr.same_comm ..).symm.trans hsame)
      · exact hpairs y hy' z hz' hsame

/-- Binding a new key puts off to the rest of the pairs what its value has to agree with. -/
theorem agrees_concat_iff (hc : Readable captures) (hp : Readable (x :: pairs))
    (hnone : captures.binding? x.1 = none) :
    Agrees (captures ++ [x]) pairs ↔
      Agrees captures (x :: pairs) ∧ ∀ y ∈ pairs, x.1.same y.1 → x.2.same y.2 := by
  have hcongr (y) (hy : y ∈ pairs) (h : x.1.same y.1) : captures.binding? y.1 = none := by
    rw [← binding?_congr hc (hp x (by simp)).1 (hp y (by simp [hy])).1 h, hnone]
  constructor
  · intro h
    refine ⟨fun y hy bound hbound => ?_, fun y hy hsame => ?_⟩
    · rcases List.mem_cons.mp hy with rfl | hy
      · simp [hnone] at hbound
      · exact h y hy bound (by simp [binding?_concat, hbound])
    · exact h y hy x.2 (by simp [binding?_concat, hcongr y hy hsame, hsame])
  · rintro ⟨hagrees, hx⟩ y hy bound hbound
    rw [binding?_concat] at hbound
    cases hy' : captures.binding? y.1 with
    | some bound' =>
        obtain rfl : bound' = bound := by simpa [hy'] using hbound
        exact hagrees y (by simp [hy]) _ hy'
    | none =>
        obtain ⟨hsame, rfl⟩ : x.1.same y.1 ∧ x.2 = bound := by simpa [hy'] using hbound
        exact hx y hy hsame

/-- What an equal key faces agrees with the binding as soon as the first does. -/
theorem agrees_cons_iff {bound : Expr} (hc : Readable captures) (hp : Readable (x :: pairs))
    (hbound : captures.binding? x.1 = some bound) (hsame : bound.same x.2) :
    Agrees captures pairs ↔
      Agrees captures (x :: pairs) ∧ ∀ y ∈ pairs, x.1.same y.1 → x.2.same y.2 := by
  have hxr := hp x (by simp)
  constructor
  · intro h
    refine ⟨fun y hy bound' hbound' => ?_, fun y hy hkey => ?_⟩
    · rcases List.mem_cons.mp hy with rfl | hy
      · obtain rfl := Option.some.inj (hbound.symm.trans hbound')
        exact hsame
      · exact h y hy bound' hbound'
    · have hyr := hp y (by simp [hy])
      rw [← Expr.same_congr_left (readable_of_binding? hc hbound) hxr.2 hyr.2 hsame]
      exact h y hy bound (binding?_congr hc hxr.1 hyr.1 hkey ▸ hbound)
  · rintro ⟨h, -⟩ y hy
    exact h y (by simp [hy])

/-- **Binding in order** succeeds when the values agree with the bindings there are and with one
another, and adds the first pair for each new key. -/
theorem bindAll?_eq_some_iff (hc : Readable captures) (hp : Readable pairs) :
    captures.bindAll? pairs = some result ↔
      Agrees captures pairs ∧ Consistent pairs ∧
        result = captures ++ (firsts pairs).filter fun y => (captures.binding? y.1).isNone := by
  induction pairs generalizing captures with
  | nil =>
      have hagrees : Agrees captures [] := by simp [Agrees]
      have hconsistent : Consistent [] := by simp [Consistent]
      simp [bindAll?, firsts, hagrees, hconsistent, eq_comm]
  | cons x pairs ih =>
      have hxr := hp x (by simp)
      rw [consistent_cons_iff hp, firsts, bindAll?]
      cases hx : captures.binding? x.1 with
      | none =>
          -- The key is new: it is bound, and the later pairs with it are no first ones.
          have hfilter : (firsts pairs).filter
                (fun y => ((captures ++ [x] : Captures).binding? y.1).isNone) =
              ((firsts pairs).filter fun y => !x.1.same y.1).filter
                fun y => (captures.binding? y.1).isNone := by
            rw [List.filter_filter]
            refine List.filter_congr fun y _ => ?_
            rw [binding?_concat]
            cases captures.binding? y.1 <;> cases x.1.same y.1 <;> simp
          simp only [bind?, hx]
          rw [ih (hc.concat hxr) hp.of_cons, agrees_concat_iff hc hp hx, hfilter,
            List.filter_cons_of_pos (by simp [hx])]
          simp [and_assoc]
      | some bound =>
          simp only [bind?, hx]
          by_cases hsame : bound.same x.2
          · -- The key is bound, so no pair with it is added, neither this one nor a later one.
            have hfilter : (firsts pairs).filter (fun y => (captures.binding? y.1).isNone) =
                ((firsts pairs).filter fun y => !x.1.same y.1).filter
                  fun y => (captures.binding? y.1).isNone := by
              rw [List.filter_filter]
              refine List.filter_congr fun y hy => ?_
              cases hkey : x.1.same y.1 with
              | false => simp
              | true =>
                  have hyr := hp y (by simp [mem_of_mem_firsts hy])
                  simp [← binding?_congr hc hxr.1 hyr.1 hkey, hx]
            simp only [if_pos hsame]
            rw [ih hc hp.of_cons, agrees_cons_iff hc hp hx hsame, hfilter,
              List.filter_cons_of_neg (by simp [hx])]
            simp [and_assoc]
          · simp only [if_neg hsame]
            constructor
            · simp
            · rintro ⟨h, -⟩
              exact absurd (h x (by simp) bound hx) hsame

end Captures

namespace Pattern

open Captures Text

mutual

/-- Keys and what they face are parts of the pattern and of the expression. -/
theorem readable_faced : ∀ {p e : Expr}, p.Readable → e.Readable → Readable (faced p e)
  | .apply f as held, e, hp, he => by
      cases hkey : key? (.apply f as held) with
      | some key =>
          obtain ⟨others, held, held', heq⟩ := key?_eq_some_iff.mp hkey
          cases heq
          simp only [faced, hkey]
          exact List.forall_mem_singleton.mpr ⟨hp.of_mem_args (by simp), he⟩
      | none =>
          cases e with
          | apply g bs held' =>
              simp only [faced, hkey]
              exact List.forall_mem_append.mpr
                ⟨readable_faced hp.head_of_apply he.head_of_apply,
                  readable_facedAll (fun _ => hp.of_mem_args) (fun _ => he.of_mem_args)⟩
          | _ => simp [faced, hkey, Captures.Readable]
  | .number _, _, _, _ | .string _, _, _, _ | .symbol .., _, _, _ => by
      simp [faced, Captures.Readable]

theorem readable_facedAll : ∀ {ps es : List Expr}, (∀ p ∈ ps, p.Readable) →
    (∀ e ∈ es, e.Readable) → Readable (facedAll ps es)
  | p :: ps, e :: es, hps, hes =>
      List.forall_mem_append.mpr
        ⟨readable_faced (hps p (by simp)) (hes e (by simp)),
          readable_facedAll (fun p hp => hps p (by simp [hp])) (fun e he => hes e (by simp [he]))⟩
  | [], _, _, _ | _ :: _, [], _, _ => by simp [facedAll, Captures.Readable]

end

/-- **Matching is sound and complete.** A pattern matches exactly what has its shape and faces
equal keys with equal expressions, and binds each key to what it faces first. -/
theorem match?_eq_some_iff {p e : Expr} {captures : Captures} (hp : p.Readable)
    (he : e.Readable) :
    match? p e = some captures ↔
      Fits p e ∧ Consistent (faced p e) ∧ captures = firsts (faced p e) := by
  have hempty : Captures.Readable [] := by simp [Captures.Readable]
  rw [match?, extend?_eq_some_iff, bindAll?_eq_some_iff hempty (readable_faced hp he)]
  simp [Agrees, binding?]

/-- A capture as the head and one key for both arguments. -/
theorem match?_repeated_key :
    let capture (name : String) : Expr := .call "Pattern" [.sym name]
    let p : Expr := .app (capture "h") [capture "x", capture "x"]
    let e : Expr := .call "f" [.sym "a", .sym "a"]
    p.Readable ∧ e.Readable ∧
      match? p e = some [(.sym "h", .sym "f"), (.sym "x", .sym "a")] := by
  intro capture p e
  have hsym {name : String} (h : Undelimited name.toList) : (Expr.sym name).Readable := .symbol h
  have hcapture {name : String} (h : Undelimited name.toList) : (capture name).Readable :=
    .apply (hsym (by decide)) (List.forall_mem_singleton.mpr (hsym h))
  have hp : p.Readable :=
    .apply (hcapture (by decide)) fun _ ha => by
      obtain rfl : _ = capture "x" := by simpa using ha
      exact hcapture (by decide)
  have he : e.Readable :=
    .apply (hsym (by decide)) fun _ ha => by
      obtain rfl : _ = Expr.sym "a" := by simpa using ha
      exact hsym (by decide)
  have hfits : Fits p e := .apply rfl .capture (.cons .capture (.cons .capture .nil))
  exact ⟨hp, he, (match?_eq_some_iff hp he).mpr ⟨hfits, by decide, rfl⟩⟩

end Pattern

end Reduct
