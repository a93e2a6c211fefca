import Reduct.Proofs.Scope.Footprint

/-!
# Clearing attributes

The operation that takes attributes away is given expressions for them, and takes those that are
known by the symbol of one: an expression that is a symbol, or applies one, names the attribute of
that symbol, and every other expression names nothing. What is named goes and what is not stays, for
the symbol and for all others, as long as something is named (`clearAttributes_iff`).

If there are expressions and none of them names anything, no name is left to be handed on, and that
means the same as giving none: all attributes go (`clearAttributes_unnamed`).
-/

namespace Reduct

namespace Table

variable {α : Type} {key name : String}

theorem get?_erase (t : Table α) (key name : String) :
    (t.erase key).get? name = if name = key then none else t.get? name := by
  obtain ⟨entries⟩ := t
  simp only [erase, get?]
  induction entries with
  | nil => simp
  | cons entry rest ih =>
      by_cases hentry : entry.1 = key
      · rw [List.filter_cons_of_neg (by simp [hentry]), ih, List.lookup_cons, hentry]
        by_cases hname : name = key
        · rw [if_pos hname, if_pos hname]
        · rw [if_neg hname, if_neg hname, beq_false_of_ne hname]
      · rw [List.filter_cons_of_pos (by simpa using hentry), List.lookup_cons, List.lookup_cons, ih]
        by_cases hname : name = entry.1
        · simp [hname, hentry]
        · rw [beq_false_of_ne hname]

theorem get?_foldl_erase (t : Table α) (keys : List String) (name : String) :
    (keys.foldl erase t).get? name = if name ∈ keys then none else t.get? name := by
  induction keys generalizing t with
  | nil => simp
  | cons key keys ih =>
      rw [List.foldl_cons, ih, get?_erase]
      by_cases hmem : name ∈ keys
      · simp [hmem]
      · by_cases hname : name = key <;> simp [hmem, hname]

end Table

namespace Scopes

variable {name : String}

/-- What is left of the attributes of a symbol: none if no names are given, and otherwise those that
are not among the names. -/
theorem attribute?_clearAttributes (s : Scopes) (name : String) (keys : List String)
    (key : String) :
    (s.clearAttributes name keys).attribute? name key =
      if keys = [] ∨ key ∈ keys then none else s.attribute? name key := by
  by_cases hne : s.frames = []
  · obtain ⟨frames⟩ := s
    obtain rfl : frames = [] := hne
    split <;> rfl
  · rw [clearAttributes, attribute?_modify hne, attribute?_eq hne]
    cases keys with
    | nil => rfl
    | cons first others =>
        dsimp only [List.isEmpty_cons]
        rw [if_neg (by simp), Table.get?_foldl_erase]
        simp

/-- Between `s` and `s'`, the attributes of the symbol that the expressions name are gone, and no
others. -/
def ClearsNamed (name : String) (keys : List Expr) (s s' : Scopes) : Prop :=
  ∀ key, s'.attribute? name key =
    if ∃ k ∈ keys, k.owner? = some key then none else s.attribute? name key

end Scopes

namespace Operation.Definition

open Scopes (ClearsNamed attribute?_clearAttributes attribute?_modify_of_ne version?_modify_of_ne)

/-- **What is named is cleared and nothing else, exactly if something is named** or there is nothing
to clear. Other symbols keep their attributes in any case. If no expression names anything, no
attribute is left. -/
theorem clearAttributes_iff (name : String) (held : Bool) (keys : List Expr) (m : Machine) :
    let run := (clearAttributes (.symbol name held :: keys)).run m
    let s := m.scopes
    let s' := run.2.scopes
    run = (.ok .null, { m with scopes := s' }) ∧
    (∀ other ≠ name, s'.attributes other = s.attributes other ∧
      ∀ key, s'.attribute? other key = s.attribute? other key) ∧
    (ClearsNamed name keys s s' ↔
      (∃ k ∈ keys, k.owner?.isSome) ∨ ∀ key, s.attribute? name key = none) ∧
    ((∀ k ∈ keys, k.owner? = none) → ∀ key, s'.attribute? name key = none) := by
  intro run s s'
  let named := keys.filterMap Expr.owner?
  have hs' : s' = s.clearAttributes name named := rfl
  have hmem : ∀ key, key ∈ named ↔ ∃ k ∈ keys, k.owner? = some key := fun _ => List.mem_filterMap
  have hnil : named = [] ↔ ∀ k ∈ keys, k.owner? = none := List.filterMap_eq_nil_iff
  refine ⟨rfl, fun other hother => ⟨?_, fun key => ?_⟩, ⟨fun hclears => ?_, fun hsome key => ?_⟩,
    fun hnone key => ?_⟩
  · rw [hs', Scopes.clearAttributes, Scopes.attributes, Scopes.attributes,
      version?_modify_of_ne hother]
  · exact attribute?_modify_of_ne hother _ s key
  · -- If nothing is named everything is cleared, so there was nothing.
    by_cases hempty : named = []
    · refine .inr fun key => ?_
      have hkey := hclears key
      rw [hs', attribute?_clearAttributes, if_pos (.inl hempty), if_neg] at hkey
      · exact hkey.symm
      · rw [← hmem, hempty]
        exact List.not_mem_nil
    · rw [hnil] at hempty
      push Not at hempty
      simpa only [Option.isSome_iff_ne_none] using Or.inl hempty
  · rw [hs', attribute?_clearAttributes]
    obtain ⟨k, hk, howner⟩ | hnone := hsome
    · have hne : named ≠ [] := fun hempty => by simp [hnil.mp hempty k hk] at howner
      simp only [hne, false_or, hmem]
    · simp only [hnone, ite_self]
  · rw [hs', attribute?_clearAttributes, if_pos (.inl (hnil.mpr hnone))]

/-- One attribute is named by an application of its symbol, and the number beside it names
nothing. -/
theorem clearAttributes_iff_mixed :
    let keys : List Expr := [.number 1, .call "BinaryOp" [.string "+++"]]
    let attributes : List Expr := [.sym "Flat", .call "BinaryOp" [.string "+++", .number 5]]
    let m : Machine := { scopes := (Scopes.setAttributes {} "s" attributes) }
    let m' := ((clearAttributes (.sym "s" :: keys)).run m).2
    "t" ≠ "s" ∧ (∃ k ∈ keys, k.owner?.isSome) ∧
    m'.scopes.attributes "t" = m.scopes.attributes "t" ∧
    ClearsNamed "s" keys m.scopes m'.scopes ∧ m'.scopes.attributes "s" = [.sym "Flat"] := by
  intro keys attributes m m'
  have hnamed : ∃ k ∈ keys, k.owner?.isSome := ⟨_, List.mem_cons_of_mem _ List.mem_cons_self, rfl⟩
  obtain ⟨-, hothers, hclears, -⟩ := clearAttributes_iff "s" false keys m
  exact ⟨by decide, hnamed, (hothers "t" (by decide)).1, hclears.mpr (.inl hnamed),
    by with_unfolding_all rfl⟩

/-- **If nothing is named everything is cleared.** A number is given, which names no attribute, and
the one that the symbol has is gone. -/
theorem clearAttributes_unnamed :
    let m : Machine := { scopes := (Scopes.setAttributes {} "s" [.sym "Flat"]) }
    let m' := ((clearAttributes [.sym "s", .number 1]).run m).2
    m.scopes.attributes "s" = [.sym "Flat"] ∧ m'.scopes.attributes "s" = [] ∧
      ¬ ClearsNamed "s" [.number 1] m.scopes m'.scopes := by
  intro m m'
  refine ⟨by with_unfolding_all rfl, by with_unfolding_all rfl, fun hclears => ?_⟩
  have hflat := hclears "Flat"
  have hbefore : m.scopes.attribute? "s" "Flat" = some (.sym "Flat") := by with_unfolding_all rfl
  have hafter : m'.scopes.attribute? "s" "Flat" = none := by with_unfolding_all rfl
  rw [hafter, hbefore, if_neg (by simp [Expr.owner?])] at hflat
  cases hflat

end Operation.Definition

end Reduct
