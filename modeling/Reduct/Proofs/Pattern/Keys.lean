import Reduct.Proofs.Expr.Names
import Reduct.Proofs.Pattern.Substitution

/-!
# Which keys are bound

A pattern that accepts an expression binds each of its keys, and nothing else: there is a pair for
every key, and the key of every pair is one of the pattern (`Pattern.match?_spec`). Keys that are
equal share a pair. None of this needs names that can be read back.
-/

namespace Reduct

open Reduct.Expr

namespace Pattern

variable {P : String → Prop}

mutual

/-- The keys of the captures in a pattern, in the order in which they are met. -/
def keys : Expr → List Expr
  | .apply head args held =>
    match key? (.apply head args held) with
    | some key => [key]
    | none => keys head ++ keysAll args
  | _ => []

/-- The keys of the captures in several patterns. -/
def keysAll : List Expr → List Expr
  | [] => []
  | p :: ps => keys p ++ keysAll ps

end

mutual

/-- The captures that are met are those of the pattern, in the same order. -/
theorem map_fst_faced : ∀ {p e : Expr}, Fits p e → (faced p e).map Prod.fst = keys p
  | .apply f as held, e, h => by
      cases hkey : key? (.apply f as held) with
      | some key =>
          simp only [faced, keys, hkey]
          rfl
      | none =>
          obtain ⟨g, bs, held', rfl, hf, has⟩ := (fits_apply_iff hkey).mp h
          simp only [faced, keys, hkey, List.map_append, map_fst_faced hf, map_fst_facedAll has]
  | .number _, _, _ | .string _, _, _ | .symbol .., _, _ => rfl

theorem map_fst_facedAll : ∀ {ps es : List Expr}, FitsAll ps es →
    (facedAll ps es).map Prod.fst = keysAll ps
  | [], [], _ => rfl
  | p :: ps, e :: es, h => by
      cases h with
      | cons hp hps =>
          rw [facedAll, keysAll, List.map_append, map_fst_faced hp, map_fst_facedAll hps]
  | [], _ :: _, h | _ :: _, [], h => by cases h

end

mutual

theorem names_keys : ∀ {p : Expr}, p.Names P → ∀ key ∈ keys p, key.Names P
  | .apply head args held, hp => by
      rw [keys]
      split
      next key hkey =>
        obtain ⟨others, held, held', heq⟩ := key?_eq_some_iff.mp hkey
        cases heq
        exact List.forall_mem_singleton.mpr (hp.of_mem_args List.mem_cons_self)
      next =>
        exact List.forall_mem_append.mpr
          ⟨names_keys hp.head_of_apply, names_keysAll fun _ => hp.of_mem_args⟩
  | .number _, _ | .string _, _ | .symbol .., _ => fun _ hkey => absurd hkey List.not_mem_nil

theorem names_keysAll : ∀ {ps : List Expr}, (∀ p ∈ ps, p.Names P) → ∀ key ∈ keysAll ps, key.Names P
  | [], _ => fun _ hkey => absurd hkey List.not_mem_nil
  | p :: ps, hps => List.forall_mem_append.mpr
      ⟨names_keys (hps p (by simp)), names_keysAll fun p hp => hps p (by simp [hp])⟩

end

end Pattern

namespace Captures

variable {captures result : Captures} {pairs : List (Expr × Expr)} {key value : Expr}

/-- Binding a key adds it, unless an equal one is bound. -/
theorem bind?_cases (h : captures.bind? key value = some result) :
    result = captures ++ [(key, value)] ∨ result = captures ∧ ∃ c ∈ captures, c.1.same key := by
  rw [bind?] at h
  split at h
  next => exact .inl (Option.some.inj h).symm
  next bound hbound =>
    split at h
    · obtain ⟨c, hc, hsame, -⟩ := exists_of_binding? hbound
      exact .inr ⟨(Option.some.inj h).symm, c, hc, hsame⟩
    · simp at h

/-- **What binding in order leaves:** the pairs there were and some of the others, with a pair for
each key. -/
theorem bindAll?_spec (h : captures.bindAll? pairs = some result) :
    captures ⊆ result ∧ (∀ c ∈ result, c ∈ captures ∨ c ∈ pairs) ∧
      ∀ c ∈ pairs, ∃ d ∈ result, d.1.same c.1 := by
  induction pairs generalizing captures with
  | nil =>
      obtain rfl : captures = result := Option.some.inj h
      exact ⟨List.Subset.refl _, fun _ => .inl, fun _ hc => absurd hc List.not_mem_nil⟩
  | cons c pairs ih =>
      rw [bindAll?] at h
      split at h
      next middle hmiddle =>
        obtain ⟨hsubset, hmem, hkeys⟩ := ih h
        obtain rfl | ⟨rfl, d, hd, hsame⟩ := bind?_cases hmiddle
        · obtain ⟨hcaptures, hc⟩ := List.append_subset.mp hsubset
          refine ⟨hcaptures, fun d hd => ?_, List.forall_mem_cons.mpr ⟨⟨c, ?_, ?_⟩, hkeys⟩⟩
          · simpa [or_assoc] using hmem d hd
          · exact hc List.mem_cons_self
          · exact same_refl c.1
        · refine ⟨hsubset, fun d hd => ?_, List.forall_mem_cons.mpr ⟨⟨d, ?_, hsame⟩, hkeys⟩⟩
          · exact (hmem d hd).imp_right (List.mem_cons_of_mem c)
          · exact hsubset hd
      next => simp at h

end Captures

namespace Pattern

variable {P : String → Prop} {p e : Expr} {captures result : Captures}

/-- What matching adds are keys of the pattern, and for each of them there is a pair in the end. -/
theorem extend?_spec (h : extend? p e captures = some result) :
    (∀ c ∈ result, c ∈ captures ∨ c.1 ∈ keys p) ∧
      ∀ key ∈ keys p, ∃ c ∈ result, c.1.same key := by
  obtain ⟨hfits, hbind⟩ := extend?_eq_some_iff.mp h
  obtain ⟨-, hmem, hkeys⟩ := Captures.bindAll?_spec hbind
  rw [← map_fst_faced hfits]
  refine ⟨fun c hc => ?_, List.forall_mem_map.mpr hkeys⟩
  exact (hmem c hc).imp_right fun hfaced => List.mem_map_of_mem hfaced

theorem names_of_extend? (hcaptures : ∀ c ∈ captures, c.1.Names P) (hp : p.Names P)
    (h : extend? p e captures = some result) : ∀ c ∈ result, c.1.Names P := by
  intro c hc
  obtain hold | hnew := (extend?_spec h).1 c hc
  · exact hcaptures c hold
  · exact names_keys hp c.1 hnew

/-- **The keys of the pattern are what is bound.** -/
theorem match?_spec (h : match? p e = some captures) :
    (∀ c ∈ captures, c.1 ∈ keys p) ∧ ∀ key ∈ keys p, ∃ c ∈ captures, c.1.same key := by
  obtain ⟨hmem, hkeys⟩ := extend?_spec h
  exact ⟨fun c hc => (hmem c hc).resolve_left List.not_mem_nil, hkeys⟩

end Pattern

end Reduct
