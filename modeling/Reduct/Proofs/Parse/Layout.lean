import Reduct.Proofs.Parse.Completion
import Reduct.Proofs.Parse.Parallel

/-!
# Layout does not matter

White space and comments make no tokens, but they move the places of the tokens behind them. The
parser looks at a place in two cases only: a number right behind a minus sign is one literal with
it, and an error tells where it is. So two source texts with the same tokens, the places aside, are
parsed alike if their signs and numbers stand together in both or in neither (`parse_layout`).
-/

namespace Reduct

/-- The token `n` begins where `t` ends. -/
def Token.Adjacent (t n : Token) : Prop := n.offset = t.offset + Text.byteWidth t.text.toList

instance (t n : Token) : Decidable (t.Adjacent n) := instDecidableEqNat _ _

/-- The error, about another byte of the source if it is about one. -/
def SyntaxError.movedTo (offset : Nat) : SyntaxError → SyntaxError
  | .lexical _ near => .lexical offset near
  | .unexpected found expected _ => .unexpected found expected offset
  | .noLeadingForm token _ => .noLeadingForm token offset
  | .operatorForm operator form _ => .operatorForm operator form offset
  | .trailing token _ => .trailing token offset
  | error => error

namespace Parse

variable {table : OperatorTable} {ts ts' : List Token} {t t' n n' : Token}
  {error error' : SyntaxError}

/-! ### The same tokens at other places -/

/-- The same token, perhaps at another place. -/
structure SameToken (t t' : Token) : Prop where
  kind_eq : t.kind = t'.kind
  text_eq : t.text = t'.text

/-- A minus sign and a number next to it in the row are adjacent in both texts or in neither. -/
def SameSigns (ts ts' : List Token) : Prop :=
  ∀ (i : Nat) (sign number sign' number' : Token), ts[i]? = some sign → ts[i + 1]? = some number →
    ts'[i]? = some sign' → ts'[i + 1]? = some number' →
      sign.kind = .operator → sign.text = "-" → number.kind = .number →
        (sign.Adjacent number ↔ sign'.Adjacent number')

/-- The sign takes a single byte. -/
theorem glued_iff : Glued t n ↔ t.text = "-" ∧ n.kind = .number ∧ t.Adjacent n := by
  refine and_congr_right fun ht => and_congr_right fun _ => ?_
  have hwidth : Text.byteWidth "-".toList = 1 := by decide
  rw [Token.Adjacent, ht, hwidth]

theorem SameSigns.tail (h : SameSigns (t :: ts) (t' :: ts')) : SameSigns ts ts' :=
  fun i sign number sign' number' hs hn hs' hn' =>
    h (i + 1) sign number sign' number' hs hn hs' hn'

/-- The signs at the front have their numbers in both texts or in neither. -/
theorem SameSigns.glued_head (h : SameSigns (t :: ts) (t' :: ts')) (ht : SameToken t t')
    (hk : t.kind = .operator) (hn : n ∈ ts.head?) (hn' : n' ∈ ts'.head?) (hsame : SameToken n n') :
    Glued t n ↔ Glued t' n' := by
  rw [glued_iff, glued_iff, ← ht.text_eq, ← hsame.kind_eq]
  refine and_congr_right fun htext => and_congr_right fun hnumber => ?_
  have hget : (t :: ts)[0 + 1]? = some n := by
    rw [List.getElem?_cons_succ, ← List.head?_eq_getElem?]
    exact hn
  have hget' : (t' :: ts')[0 + 1]? = some n' := by
    rw [List.getElem?_cons_succ, ← List.head?_eq_getElem?]
    exact hn'
  exact h 0 t n t' n' rfl hget rfl hget' hk htext hnumber

theorem matched_of_same (hkinds : ts.map Token.kind = ts'.map Token.kind)
    (htexts : ts.map Token.text = ts'.map Token.text) (hsigns : SameSigns ts ts') :
    Matched SameToken ts ts' := by
  induction ts generalizing ts' with
  | nil =>
      obtain rfl := List.map_eq_nil_iff.mp hkinds.symm
      exact .nil
  | cons t ts ih =>
      obtain ⟨t', ts', rfl, hkind, hkinds⟩ := List.map_eq_cons_iff.mp hkinds.symm
      obtain ⟨htext, htexts⟩ := List.cons.inj htexts
      have hrest := ih hkinds.symm htexts hsigns.tail
      have ht : SameToken t t' := ⟨hkind.symm, htext⟩
      refine .cons ht (fun hk n hn n' hn' => ?_) hrest
      obtain ⟨m, hm, hsame⟩ := hrest.exists_head hn'
      obtain rfl : m = n := Option.mem_unique hm hn
      exact hsigns.glued_head ht hk hn hn' hsame

/-- Errors about the same tokens differ in their places only. -/
theorem BothAbout.exists_movedTo (h : BothAbout SameToken error error') :
    ∃ offset, error' = error.movedTo offset := by
  cases h with
  | unexpectedEnd => exact ⟨0, rfl⟩
  | @unexpected t t' expected ht => exact ⟨t'.offset, by rw [ht.kind_eq]; rfl⟩
  | @noLeadingForm t t' ht => exact ⟨t'.offset, by rw [ht.text_eq]; rfl⟩
  | @operatorForm t t' form ht => exact ⟨t'.offset, by rw [ht.text_eq]; rfl⟩
  | @trailing t t' ht => exact ⟨t'.offset, by rw [ht.text_eq]; rfl⟩
  | @invalidNumber t t' ht => exact ⟨0, by rw [ht.text_eq]; rfl⟩

/-! ### Source texts -/

/-- **Layout does not matter.** Two source texts whose tokens have the same kinds and texts, and in
which each minus sign and the number next to it are adjacent in both or in neither, are parsed to
the same expression, or to errors that differ at most in the byte they are about. -/
theorem parse_layout {source source' : String}
    (hts : Token.tokenize table.texts source = .ok ts)
    (hts' : Token.tokenize table.texts source' = .ok ts')
    (hkinds : ts.map Token.kind = ts'.map Token.kind)
    (htexts : ts.map Token.text = ts'.map Token.text) (hsigns : SameSigns ts ts') :
    (∃ e, parse table source = .ok e ∧ parse table source' = .ok e) ∨
      ∃ error error', parse table source = .error error ∧ parse table source' = .error error' ∧
        ∃ offset, error' = error.movedTo offset := by
  rw [parse_of_tokenize hts, parse_of_tokenize hts']
  refine (ofTokens_agree (.of_same SameToken.kind_eq SameToken.text_eq)
    (matched_of_same hkinds htexts hsigns)).imp_right ?_
  rintro ⟨error, error', herror, herror', hboth⟩
  exact ⟨error, error', herror, herror', hboth.exists_movedTo⟩

/-- A comment moves the token that is too much, and the sign behind it keeps its number. -/
theorem parse_layout_comment :
    ∃ ts ts', Token.tokenize OperatorTable.default.texts "f // x\n) -1" = .ok ts ∧
      Token.tokenize OperatorTable.default.texts "f)-1" = .ok ts' ∧
      ts.map Token.kind = ts'.map Token.kind ∧ ts.map Token.text = ts'.map Token.text ∧
      SameSigns ts ts' ∧
      ∃ error, parse .default "f // x\n) -1" = .error error ∧
        ∃ offset, parse .default "f)-1" = .error (error.movedTo offset) := by
  have hts : Token.tokenize OperatorTable.default.texts "f // x\n) -1" =
      .ok [⟨.symbol, "f", 0⟩, ⟨.closeGroup, ")", 7⟩, ⟨.operator, "-", 9⟩, ⟨.number, "1", 10⟩] := by
    cbv
  have hts' : Token.tokenize OperatorTable.default.texts "f)-1" =
      .ok [⟨.symbol, "f", 0⟩, ⟨.closeGroup, ")", 1⟩, ⟨.operator, "-", 2⟩, ⟨.number, "1", 3⟩] := by
    cbv
  have hsigns : SameSigns
      [⟨.symbol, "f", 0⟩, ⟨.closeGroup, ")", 7⟩, ⟨.operator, "-", 9⟩, ⟨.number, "1", 10⟩]
      [⟨.symbol, "f", 0⟩, ⟨.closeGroup, ")", 1⟩, ⟨.operator, "-", 2⟩, ⟨.number, "1", 3⟩] := by
    intro i sign number sign' number' hs hn hs' hn' hk _ _
    -- The only operator is the third token.
    rcases i with _ | _ | _ | _ | i
    · obtain rfl := Option.some.inj hs
      cases hk
    · obtain rfl := Option.some.inj hs
      cases hk
    · obtain rfl := Option.some.inj hs
      obtain rfl := Option.some.inj hn
      obtain rfl := Option.some.inj hs'
      obtain rfl := Option.some.inj hn'
      decide
    · cases hn
    · cases hs
  refine ⟨_, _, hts, hts', rfl, rfl, hsigns, ?_⟩
  obtain ⟨e, he, -⟩ | ⟨error, -, herror, herror', offset, rfl⟩ :=
    parse_layout hts hts' rfl rfl hsigns
  · have hfails : parse .default "f // x\n) -1" = .error (.trailing ")" 7) := by cbv
    exact absurd (hfails.symm.trans he) (by simp)
  · exact ⟨error, herror, offset, herror'⟩

end Parse

end Reduct
