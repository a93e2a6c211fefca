import Reduct.Expr.Sharing
import Reduct.Proofs.Expr.Names

/-!
# Positions in an expression

A path leads from an expression to a part of it. At each application it turns to the head or to one
of the arguments (`Expr.at?`).

Putting bindings into a template and replacing by rules are passes of one kind: they come from the
top, and a node for which they know something to put there is not looked into (`IsPass`). What they
are told of shared nodes has no say in where they put something. What such a pass makes of an
expression is said position by position (`Expr.Outermost`), without following the pass: what is
hit, and lies in nothing else that is hit, is replaced, what holds no hit is as it was, and what
lies between keeps its form.
-/

namespace Reduct

/-- A turn on the way to a part of an expression. -/
inductive Turn where
  | toHead
  | toArg (index : Nat)

namespace Expr

/-- The part of an application that a turn leads to. -/
def part? (e : Expr) : Turn → Option Expr
  | .toHead => e.application?.map Prod.fst
  | .toArg index => e.args[index]?

/-- The part of an expression at the end of a path. -/
def at? (e : Expr) : List Turn → Option Expr
  | [] => some e
  | turn :: path => (e.part? turn).bind (at? · path)

/-- The property holds of every part of the expression, of the expression itself to begin with. -/
def Everywhere (P : Expr → Prop) (e : Expr) : Prop := ∀ path d, e.at? path = some d → P d

section Everywhere

variable {P : Expr → Prop} {e f : Expr} {as : List Expr} {held : Bool}

theorem part?_eq_none (h : e.application? = none) (turn : Turn) : e.part? turn = none := by
  cases e with
  | apply head args held => simp [application?] at h
  | number _ | string _ | symbol _ _ => cases turn <;> rfl

theorem Everywhere.self (h : e.Everywhere P) : P e := h [] e rfl

theorem Everywhere.part {c : Expr} {turn : Turn} (h : e.Everywhere P)
    (hc : e.part? turn = some c) : c.Everywhere P := by
  intro path d hd
  refine h (turn :: path) d ?_
  rw [at?, hc, Option.bind_some, hd]

theorem Everywhere.of_atom (hatom : e.application? = none) (h : P e) : e.Everywhere P := by
  intro path d hd
  cases path with
  | nil => exact Option.some.inj hd ▸ h
  | cons turn path =>
      rw [at?, part?_eq_none hatom] at hd
      simp at hd

theorem Everywhere.of_apply (h : P (apply f as held)) (hf : f.Everywhere P)
    (has : ∀ a ∈ as, a.Everywhere P) : (apply f as held).Everywhere P := by
  intro path d hd
  cases path with
  | nil => exact Option.some.inj hd ▸ h
  | cons turn path =>
      obtain ⟨c, hc, hpath⟩ := Option.bind_eq_some_iff.mp hd
      cases turn with
      | toHead =>
          obtain rfl : f = c := Option.some.inj hc
          exact hf path d hpath
      | toArg index => exact has c (List.mem_of_getElem? hc) path d hpath

theorem Everywhere.head (h : (apply f as held).Everywhere P) : f.Everywhere P :=
  have hpart : (apply f as held).part? .toHead = some f := rfl
  h.part hpart

theorem Everywhere.arg {a : Expr} (h : (apply f as held).Everywhere P) (ha : a ∈ as) :
    a.Everywhere P := by
  obtain ⟨index, hindex⟩ := List.mem_iff_getElem?.mp ha
  have hpart : (apply f as held).part? (.toArg index) = some a := hindex
  exact h.part hpart

end Everywhere

end Expr

/-! ### Answers about shared nodes -/

namespace Sharing

/-- The answers in an item of a list. -/
def item (s : Sharing) : Nat → Sharing
  | 0 => s.first
  | index + 1 => s.rest.item index

/-- The answers in the part that a turn leads to. -/
def part (s : Sharing) : Turn → Sharing
  | .toHead => s.first
  | .toArg index => s.rest.item index

/-- The answers at the end of a path. -/
def along (s : Sharing) (path : List Turn) : Sharing := path.foldl part s

end Sharing

/-! ### Passes from the top -/

/-- The pass puts something in the place of every node that is hit, and looks into the others. -/
structure IsPass (hit pass : Sharing → Expr → Option Expr)
    (passAll : Sharing → List Expr → Option (List Expr)) : Prop where
  /-- What is told of shared nodes has no say in what is hit. -/
  decided {s : Sharing} {e : Expr} (s' : Sharing) : hit s e = none → hit s' e = none
  nil (s : Sharing) : passAll s [] = none
  cons (s : Sharing) (e : Expr) (es : List Expr) :
    passAll s (e :: es) = Expr.rebuiltArgs? e es (pass s.first e) (passAll s.rest es)
  replaced {s : Sharing} {e v : Expr} : hit s e = some v → (pass s e).getD e = v
  atom {s : Sharing} {e : Expr} : hit s e = none → e.application? = none → pass s e = none
  apply {s : Sharing} {head : Expr} {args : List Expr} {held : Bool} :
    hit s (.apply head args held) = none → pass s (.apply head args held) =
      Expr.rebuilt? head args (pass s.first head) (passAll s.rest args)

/-- Nothing is hit in which the place at the end of the path lies. -/
def Expr.ReachedBy (hit : Expr → Option Expr) (e : Expr) (path : List Turn) : Prop :=
  ∀ above turn below, path = above ++ turn :: below → ∀ c, e.at? above = some c → hit c = none

theorem Expr.reachedBy_nil (hit : Expr → Option Expr) (e : Expr) : e.ReachedBy hit [] := by
  intro above turn below hpath
  simp at hpath

theorem Expr.reachedBy_cons {hit : Expr → Option Expr} {e c : Expr} {turn : Turn}
    {path : List Turn} (hc : e.part? turn = some c) :
    e.ReachedBy hit (turn :: path) ↔ hit e = none ∧ c.ReachedBy hit path := by
  constructor
  · intro h
    refine ⟨h [] turn path rfl e rfl, fun above turn' below hpath c' hc' => ?_⟩
    refine h (turn :: above) turn' below (by rw [hpath, List.cons_append]) c' ?_
    rw [at?, hc, Option.bind_some, hc']
  · rintro ⟨hnone, h⟩ above turn' below hpath c' hc'
    cases above with
    | nil => exact Option.some.inj hc' ▸ hnone
    | cons first above =>
        obtain ⟨rfl, hbelow⟩ := List.cons.inj hpath
        rw [at?, hc, Option.bind_some] at hc'
        exact h above turn' below hbelow c' hc'

/-- What a pass from the top makes of an expression, position by position. What is put in depends
on the answers about shared nodes at the position. -/
structure Expr.Outermost (hit : Sharing → Expr → Option Expr) (s : Sharing) (e result : Expr) :
    Prop where
  /-- What is hit, and lies in nothing that is hit, is replaced. -/
  replaced (path : List Turn) (d v : Expr) : e.at? path = some d → e.ReachedBy (hit s) path →
    hit (s.along path) d = some v → result.at? path = some v
  /-- What holds nothing that is hit is as it was, marks and all. -/
  untouched (path : List Turn) (d : Expr) : e.at? path = some d → e.ReachedBy (hit s) path →
    d.Everywhere (hit s · = none) → result.at? path = some d
  /-- What is not hit itself stays an application of as many arguments, with no mark it did not
  have. -/
  between (path : List Turn) (head : Expr) (args : List Expr) (held : Bool) :
    e.at? path = some (.apply head args held) → e.ReachedBy (hit s) path →
    hit s (.apply head args held) = none → ∃ head' args' held',
      result.at? path = some (.apply head' args' held') ∧ args'.length = args.length ∧
        (held' → held)

namespace IsPass

variable {hit pass : Sharing → Expr → Option Expr}
  {passAll : Sharing → List Expr → Option (List Expr)} (h : IsPass hit pass passAll)
  {s s' : Sharing}
include h

theorem decided_iff (s s' : Sharing) (e : Expr) : hit s e = none ↔ hit s' e = none :=
  ⟨h.decided s', h.decided s⟩

theorem reachedBy_iff (s s' : Sharing) (e : Expr) (path : List Turn) :
    e.ReachedBy (hit s) path ↔ e.ReachedBy (hit s') path := by
  simp only [Expr.ReachedBy, h.decided_iff s s']

theorem getD_passAll (s : Sharing) (es : List Expr) :
    (passAll s es).getD es = es.mapIdx fun index e => (pass (s.item index) e).getD e := by
  induction es generalizing s with
  | nil => simp [h.nil]
  | cons e es ih => rw [h.cons, Expr.getD_rebuiltArgs?, ih, List.mapIdx_cons]; rfl

theorem getD_apply {head : Expr} {args : List Expr} {held : Bool}
    (hnone : hit s (.apply head args held) = none) :
    (pass s (.apply head args held)).getD (.apply head args held) =
      .apply ((pass s.first head).getD head)
        (args.mapIdx fun index a => (pass (s.rest.item index) a).getD a)
        (held && (pass s.first head).isNone && (passAll s.rest args).isNone) := by
  rw [h.apply hnone, Expr.getD_rebuilt?, h.getD_passAll]

mutual

/-- **Where nothing is hit, the very expression comes through.** -/
theorem eq_none : ∀ {e : Expr} {s s' : Sharing}, e.Everywhere (hit s · = none) → pass s' e = none
  | .apply head args held, _, s', he => by
      rw [h.apply (h.decided s' he.self), eq_none he.head, all_eq_none fun _ => he.arg]
      rfl
  | .number _, _, s', he | .string _, _, s', he | .symbol .., _, s', he =>
      h.atom (h.decided s' he.self) rfl

theorem all_eq_none : ∀ {es : List Expr} {s s' : Sharing},
    (∀ e ∈ es, e.Everywhere (hit s · = none)) → passAll s' es = none
  | [], _, s', _ => h.nil s'
  | e :: es, _, _, hes => by
      rw [h.cons, eq_none (hes e (by simp)), all_eq_none fun e he => hes e (by simp [he])]
      rfl

end

/-- A pass that looks into an expression works on its parts. -/
theorem part?_getD {e c : Expr} {turn : Turn} (hnone : hit s e = none)
    (hc : e.part? turn = some c) :
    ((pass s e).getD e).part? turn = some ((pass (s.part turn) c).getD c) := by
  cases e with
  | number _ | string _ | symbol _ _ =>
      rw [Expr.part?_eq_none rfl] at hc
      simp at hc
  | apply head args held =>
      rw [h.getD_apply hnone]
      cases turn with
      | toHead =>
          obtain rfl : head = c := Option.some.inj hc
          rfl
      | toArg index =>
          have hindex : args[index]? = some c := hc
          simp only [Expr.part?, Expr.args, List.getElem?_mapIdx, hindex, Option.map_some,
            Sharing.part]

/-- A place that the pass reaches holds what the pass makes of what was there. -/
theorem at?_getD {e d : Expr} {path : List Turn} (hd : e.at? path = some d)
    (hreached : e.ReachedBy (hit s) path) :
    ((pass s e).getD e).at? path = some ((pass (s.along path) d).getD d) := by
  induction path generalizing e s with
  | nil =>
      obtain rfl : e = d := Option.some.inj hd
      rfl
  | cons turn path ih =>
      obtain ⟨c, hc, hd⟩ := Option.bind_eq_some_iff.mp hd
      obtain ⟨hnone, hreached⟩ := (Expr.reachedBy_cons hc).mp hreached
      rw [Expr.at?, h.part?_getD hnone hc, Option.bind_some,
        ih hd ((h.reachedBy_iff s (s.part turn) c path).mp hreached)]
      rfl

/-- **A pass from the top replaces what is outermost,** and nothing else. -/
theorem outermost (s : Sharing) (e : Expr) : e.Outermost hit s ((pass s e).getD e) where
  replaced path d v hd hreached hv := by rw [h.at?_getD hd hreached, h.replaced hv]
  untouched path d hd hreached hnone := by rw [h.at?_getD hd hreached, h.eq_none hnone]; rfl
  between path head args held hd hreached hnone := by
    rw [h.at?_getD hd hreached, h.getD_apply (h.decided _ hnone)]
    refine ⟨_, _, _, rfl, List.length_mapIdx, ?_⟩
    simp only [Bool.and_eq_true]
    intro hheld
    exact hheld.1.1

end IsPass

end Reduct
