import Mathlib.Data.List.Sort
import Reduct.Proofs.Scope.Footprint
import Reduct.Proofs.Scope.Levels

/-!
# What is visible

The symbols with an attribute can be found by looking up every symbol, each from the innermost scope
on, or by one walk over all scopes, in which a symbol counts when it is met first (`collect`). Both
give the same, in whatever order the walk comes by the symbols of a scope, once what it has found is
sorted: a list in the order of the names is given by what is in it (`Reachable.listsAttribute`).

The invariant is that every scope keeps its versions in ascending order, so a name stands once in
it. Then to look a name up is to find its only pair, and a table merged over another answers first.
-/

namespace Reduct

/-! ### Tables in which a name stands once -/

namespace Table

variable {α : Type} {t u : Table α} {key : String} {value : α} {pairs pairs' : List (String × α)}

/-- Where every name stands once, what is looked up is what is there. -/
theorem lookup_eq_some_iff_mem (h : (pairs.map Prod.fst).Nodup) :
    pairs.lookup key = some value ↔ (key, value) ∈ pairs := by
  induction pairs with
  | nil => simp
  | cons pair pairs ih =>
      obtain ⟨name, first⟩ := pair
      obtain ⟨hname, hpairs⟩ := List.nodup_cons.mp h
      by_cases hkey : key = name
      · subst hkey
        have hnot : (key, value) ∉ pairs := fun hmem => hname (List.mem_map.mpr ⟨_, hmem, rfl⟩)
        simp [hnot, eq_comm]
      · have hbeq : (key == name) = false := beq_false_of_ne hkey
        rw [List.lookup_cons, hbeq, ih hpairs]
        simp [hkey]

/-- The order of the pairs does not matter then. -/
theorem lookup_eq_of_perm (hperm : pairs.Perm pairs') (h : (pairs'.map Prod.fst).Nodup) :
    pairs.lookup key = pairs'.lookup key := by
  have h' : (pairs.map Prod.fst).Nodup := (hperm.map Prod.fst).nodup_iff.mpr h
  refine Option.ext fun value => ?_
  rw [lookup_eq_some_iff_mem h, lookup_eq_some_iff_mem h', hperm.mem_iff]

theorem IsAscending.nodup (h : t.IsAscending) : t.keys.Nodup := List.Pairwise.nodup h

theorem IsAscending.get?_eq_some_iff (h : t.IsAscending) :
    t.get? key = some value ↔ (key, value) ∈ t.entries :=
  lookup_eq_some_iff_mem h.nodup

theorem IsAscending.merge (h : t.IsAscending) (u : Table α) : (t.merge u).IsAscending :=
  List.foldlRecOn u.entries _ h fun _ hs pair _ => hs.put pair.1 pair.2

/-- Pairs that are put into a table are found before what is in it. -/
theorem get?_foldl_put_of_nodup (h : (pairs.map Prod.fst).Nodup) (t : Table α) (key : String) :
    (pairs.foldl (fun table pair => table.put pair.1 pair.2) t).get? key =
      (pairs.lookup key).or (t.get? key) := by
  induction pairs generalizing t with
  | nil => rfl
  | cons pair pairs ih =>
      obtain ⟨name, value⟩ := pair
      obtain ⟨hname, hpairs⟩ := List.nodup_cons.mp h
      rw [List.foldl_cons, ih hpairs]
      by_cases hkey : key = name
      · subst hkey
        have hnone : pairs.lookup key = none := by
          refine Option.eq_none_iff_forall_ne_some.mpr fun other hother => hname ?_
          exact List.mem_map.mpr ⟨_, (lookup_eq_some_iff_mem hpairs).mp hother, rfl⟩
        rw [hnone, get?_put_self, List.lookup_cons, BEq.rfl]
        rfl
      · have hbeq : (key == name) = false := beq_false_of_ne hkey
        rw [get?_put_of_ne t hkey, List.lookup_cons, hbeq]

/-- A table that is merged over another one answers first. -/
theorem IsAscending.get?_merge (h : u.IsAscending) (t : Table α) (key : String) :
    (t.merge u).get? key = (u.get? key).or (t.get? key) :=
  get?_foldl_put_of_nodup h.nodup t key

end Table

namespace Scopes

variable {s s' : Scopes} {name key : String} {attr : Expr} {frames : List Scope}
  {entries : List (String × Version)} {orders : List (List (String × Version))}
  {seen : List String}

/-! ### Scopes keep their versions in order -/

/-- The names in every scope ascend. -/
def Ascending (frames : List Scope) : Prop := ∀ scope ∈ frames, scope.versions.IsAscending

theorem ascending_push (locals : List String) (h : Ascending s.frames) :
    Ascending (s.push locals).frames := by
  refine List.forall_mem_cons.mpr ⟨?_, h⟩
  exact List.foldlRecOn locals _ List.Pairwise.nil fun _ hs name _ => hs.put name _

theorem ascending_pop (h : Ascending s.frames) : Ascending (s.pop?.getD s).frames := by
  obtain ⟨frames⟩ := s
  match frames with
  | [] | [_] => exact h
  | _ :: _ :: _ => exact (List.forall_mem_cons.mp h).2

theorem ascending_modify (hne : s.frames ≠ []) (name : String) (change : Version → Version)
    (h : Ascending s.frames) : Ascending (s.modify name change).frames := by
  obtain ⟨above, scope, around, hframes, -, -, hwrite⟩ := exists_write_eq name change hne
  rw [hframes] at h
  obtain ⟨habove, hinside⟩ := List.forall_mem_append.mp h
  obtain ⟨hscope, haround⟩ := List.forall_mem_cons.mp hinside
  rw [modify, hwrite]
  refine List.forall_mem_append.mpr ⟨habove, List.forall_mem_cons.mpr ⟨?_, haround⟩⟩
  exact hscope.put name _

/-- **Scopes keep their versions in order.** -/
theorem Reachable.ascending (hs : Reachable s) : Ascending s.frames := by
  induction hs with
  | root => exact List.forall_mem_singleton.mpr .nil
  | @step s a hs ih =>
      cases a with
      | push locals => exact ascending_push locals ih
      | pop => exact ascending_pop ih
      | write w =>
          rw [Action.run]
          cases howner : w.owner? with
          | none => rwa [Write.run_of_no_owner howner]
          | some name =>
              rw [Write.run_of_owner howner]
              exact ascending_modify hs.frames_ne_nil name w.change ih

/-! ### The versions that are visible -/

theorem isAscending_visible (s : Scopes) : s.visible.IsAscending := by
  obtain ⟨frames⟩ := s
  induction frames with
  | nil => exact List.Pairwise.nil
  | cons scope around ih => exact ih.merge scope.versions

/-- The visible version of a symbol is the one that is looked up. -/
theorem get?_visible (h : Ascending s.frames) (name : String) :
    s.visible.get? name = s.version? name := by
  rw [version?_eq]
  obtain ⟨frames⟩ := s
  induction frames with
  | nil => rfl
  | cons scope around ih =>
      obtain ⟨hscope, haround⟩ := List.forall_mem_cons.mp h
      have hmerge := hscope.get?_merge (visible ⟨around⟩) name
      rw [ih haround] at hmerge
      refine hmerge.trans ?_
      cases hget : scope.versions.get? name with
      | none => rw [bindings_of_unbound hget, Option.none_or]
      | some version => rw [bindings_of_bound hget, Option.some_or, List.head?_cons]

theorem mem_withAttribute (h : Ascending s.frames) :
    (name, attr) ∈ s.withAttribute key ↔ s.attribute? name key = some attr := by
  rw [withAttribute, List.mem_filterMap, attribute?, ← get?_visible h, Option.bind_eq_some_iff]
  constructor
  · rintro ⟨⟨found, version⟩, hmem, hfound⟩
    obtain ⟨attr', hget, heq⟩ := Option.map_eq_some_iff.mp hfound
    obtain ⟨rfl, rfl⟩ := Prod.mk.inj heq
    exact ⟨version, s.isAscending_visible.get?_eq_some_iff.mpr hmem, hget⟩
  · rintro ⟨version, hmem, hget⟩
    exact ⟨(name, version), s.isAscending_visible.get?_eq_some_iff.mp hmem, by simp [hget]⟩

theorem pairwise_withAttribute (s : Scopes) (key : String) :
    (s.withAttribute key).Pairwise (·.1 < ·.1) := by
  refine List.Pairwise.filterMap _ ?_ (List.pairwise_map.mp s.isAscending_visible)
  rintro ⟨name, version⟩ ⟨name', version'⟩ hlt found hfound found' hfound'
  obtain ⟨attr, -, rfl⟩ := Option.map_eq_some_iff.mp hfound
  obtain ⟨attr', -, rfl⟩ := Option.map_eq_some_iff.mp hfound'
  exact hlt

/-! ### A single walk over all scopes -/

/-- Walks over versions and collects the attributes under a name. Only the first version of a symbol
counts, with the attribute or without it, and none of a symbol that was seen before. -/
def collect (key : String) (seen : List String) : List (String × Version) → List (String × Expr)
  | [] => []
  | (name, version) :: rest =>
    if name ∈ seen then collect key seen rest
    else
      match version.attributes.get? key with
      | some attr => (name, attr) :: collect key (name :: seen) rest
      | none => collect key (name :: seen) rest

theorem mem_collect :
    (name, attr) ∈ collect key seen entries ↔ name ∉ seen ∧
      ∃ version, entries.lookup name = some version ∧ version.attributes.get? key = some attr := by
  induction entries generalizing seen with
  | nil => simp [collect]
  | cons entry rest ih =>
      obtain ⟨first, version⟩ := entry
      rw [collect]
      by_cases hname : name = first
      · subst hname
        split
        next hseen => simp [ih, hseen]
        next hnew =>
          have hnot : (name, attr) ∉ collect key (name :: seen) rest := by simp [ih]
          cases hget : version.attributes.get? key with
          | none => simp [hnot, hget]
          | some attr' => simp [hnot, hget, hnew, eq_comm]
      · have hbeq : (name == first) = false := beq_false_of_ne hname
        rw [List.lookup_cons, hbeq]
        split
        next => exact ih
        next =>
          cases version.attributes.get? key with
          | none => simp [ih, hname]
          | some attr' => simp [ih, hname]

/-- A symbol is collected once at most. -/
theorem nodup_collect : ((collect key seen entries).map Prod.fst).Nodup := by
  induction entries generalizing seen with
  | nil => exact .nil
  | cons entry rest ih =>
      obtain ⟨first, version⟩ := entry
      rw [collect]
      split
      next => exact ih
      next =>
        cases version.attributes.get? key with
        | none => exact ih
        | some attr =>
            refine List.nodup_cons.mpr ⟨fun hmem => ?_, ih⟩
            obtain ⟨⟨_, attr'⟩, hcollected, rfl⟩ := List.mem_map.mp hmem
            exact (mem_collect.mp hcollected).1 List.mem_cons_self

/-- In the walk the first version of a symbol is the visible one. -/
theorem lookup_flatten (h : Ascending frames)
    (horders : List.Forall₂ (fun order scope => order.Perm scope.versions.entries) orders frames) :
    orders.flatten.lookup name = (bindings name frames).head? := by
  induction horders with
  | nil => rfl
  | @cons order scope orders around horder _ ih =>
      obtain ⟨hscope, haround⟩ := List.forall_mem_cons.mp h
      have hfirst : order.lookup name = scope.versions.get? name :=
        Table.lookup_eq_of_perm horder hscope.nodup
      rw [List.flatten_cons, List.lookup_append, hfirst, ih haround]
      cases hget : scope.versions.get? name with
      | none => rw [bindings_of_unbound hget, Option.none_or]
      | some version => rw [bindings_of_bound hget, Option.some_or, List.head?_cons]

/-- What was collected is strictly in order once it is sorted. -/
theorem pairwise_mergeSort_collect :
    ((collect key seen entries).mergeSort fun a b => a.1 ≤ b.1).Pairwise (·.1 < ·.1) := by
  have hsorted : ((collect key seen entries).mergeSort fun a b => a.1 ≤ b.1).Pairwise
      fun a b => decide (a.1 ≤ b.1) = true := by
    refine List.pairwise_mergeSort (fun a b c hab hbc => ?_) (fun a b => ?_) _
    · exact decide_eq_true (String.le_trans (of_decide_eq_true hab) (of_decide_eq_true hbc))
    · simpa using String.le_total a.1 b.1
  have hnodup : ((collect key seen entries).mergeSort fun a b => a.1 ≤ b.1).Pairwise
      fun a b => a.1 ≠ b.1 :=
    List.pairwise_map.mp (((List.mergeSort_perm _ _).map Prod.fst).nodup_iff.mpr nodup_collect)
  exact hsorted.imp₂ (fun a b hle hne => Std.lt_of_le_of_ne (of_decide_eq_true hle) hne) hnodup

/-- **Visible attributes.** The list has the symbols that have the attribute now, each once, in the
order of their names. -/
structure ListsAttribute (s : Scopes) (key : String) (found : List (String × Expr)) : Prop where
  sorted : found.Pairwise (·.1 < ·.1)
  mem_iff {name : String} {attr : Expr} :
    (name, attr) ∈ found ↔ s.attribute? name key = some attr
  /-- A single walk over the scopes finds the same, by whatever order it goes in each scope. -/
  any_order {orders : List (List (String × Version))} :
    List.Forall₂ (fun order scope => order.Perm scope.versions.entries) orders s.frames →
      (collect key [] orders.flatten).mergeSort (fun a b => a.1 ≤ b.1) = found
  /-- A version without the attribute hides those further out that have it. -/
  hidden {above around : List Scope} {scope : Scope} {name : String} {version : Version} :
    s.frames = above ++ scope :: around →
      (∀ inner ∈ above, inner.versions.get? name = none) →
        scope.versions.get? name = some version → version.attributes.get? key = none →
          ∀ attr, (name, attr) ∉ found

/-- Two states with the same visible attributes under a name have the same list of them. -/
theorem ListsAttribute.unique {found found' : List (String × Expr)}
    (h : ListsAttribute s key found) (h' : ListsAttribute s' key found')
    (hsame : ∀ name, s'.attribute? name key = s.attribute? name key) : found' = found := by
  refine h'.sorted.eq_of_mem_iff h.sorted fun (name, attr) => ?_
  rw [h.mem_iff, h'.mem_iff, hsame]

theorem Reachable.listsAttribute (hs : Reachable s) (key : String) :
    ListsAttribute s key (s.withAttribute key) where
  sorted := pairwise_withAttribute s key
  mem_iff := mem_withAttribute hs.ascending
  any_order horders := by
    refine pairwise_mergeSort_collect.eq_of_mem_iff (pairwise_withAttribute s key)
      fun (name, attr) => ?_
    rw [List.mem_mergeSort, mem_collect, lookup_flatten hs.ascending horders,
      mem_withAttribute hs.ascending, attribute?, version?_eq, Option.bind_eq_some_iff]
    simp
  hidden := by
    intro above around scope name version hframes habove hget hnone attr hmem
    rw [mem_withAttribute hs.ascending, attribute?, version?_eq, hframes, bindings_append,
      bindings_eq_nil habove, List.nil_append, bindings_of_bound hget, List.head?_cons,
      Option.bind_some, hnone] at hmem
    cases hmem

end Scopes

end Reduct
