import Reduct.Proofs.Token.Segments

/-!
# Tokens by bytes

A scanner that counts bytes keeps an offset into the source text, slices the text from there on,
and slices the text of the piece off its front. Here every such slice is checked
(`tokenizeBytes?`). None of them fails, whatever the text, and the tokens are the same
(`tokenizeBytes?_eq`): the offset is always the width of the segments passed. Nor does the slice
between the quotes of a string token fail, which has two quotes at least.
-/

namespace Reduct.Token

open Text

variable {operators : List String} {source : String} {before cs : List Char} {kind : Kind}

/-- The piece that stands at the front, and how many bytes it takes. -/
def pieceBytes? (operators : List (List Char)) (cs : List Char) : Option (Kind × Nat) :=
  (builtin? cs).map (fun (kind, length) => (kind, byteWidth (cs.take length))) <|>
    (operators.find? fun op => !op.isEmpty && op.isPrefixOf cs).map fun op =>
      (.operator, byteWidth op)

/-- The tokens of a source text from a byte on, with so many rounds at most. -/
def cutBytes? (operators : List (List Char)) (source : List Char) :
    (rounds offset : Nat) → Option (Except SyntaxError (List Token))
  | 0, _ => none
  | rounds + 1, offset =>
    if offset < byteWidth source then do
      let (_, rest) ← splitAtByte? offset source
      match pieceBytes? operators rest with
      | none => return .error (.lexical offset (String.ofList (rest.take 12)))
      | some (kind, length) =>
        let (run, _) ← splitAtByte? length rest
        let tokens ← cutBytes? operators source rounds (offset + length)
        return tokens.map (emit kind run offset)
    else return .ok []

/-- The tokens of a source text. A round passes one character at least. -/
def tokenizeBytes? (operators : List String) (source : String) :
    Option (Except SyntaxError (List Token)) :=
  cutBytes? (longestFirst operators) source.toList (source.toList.length + 1) 0

theorem pieceBytes?_eq (operators : List (List Char)) (cs : List Char) :
    pieceBytes? operators cs =
      (piece? operators cs).map fun (kind, length) => (kind, byteWidth (cs.take length)) := by
  rw [pieceBytes?, piece?]
  cases builtin? cs with
  | some hit => rfl
  | none =>
      cases hfind : operators.find? fun op => !op.isEmpty && op.isPrefixOf cs with
      | none => rfl
      | some op =>
          -- What an operator takes at the front is the operator.
          have hop := List.find?_some hfind
          have hfront : op <+: cs := by
            simp only [Bool.and_eq_true, List.isPrefixOf_iff_prefix] at hop
            exact hop.2
          have htake : cs.take op.length = op := (List.prefix_iff_eq_take.mp hfront).symm
          simp [htake]

/-- In each round the offset is the width of what was passed. -/
theorem cutBytes?_eq {rounds : Nat} (h : cs.length < rounds) :
    cutBytes? (longestFirst operators) (before ++ cs) rounds (byteWidth before) =
      some (scan (longestFirst operators) (byteWidth before) cs) := by
  induction rounds generalizing before cs with
  | zero => omega
  | succ rounds ih =>
      rw [cutBytes?]
      by_cases hnil : cs = []
      · subst hnil
        simp [scan]
      have hlt : byteWidth before < byteWidth (before ++ cs) := by
        have := byteWidth_pos hnil
        rw [byteWidth_append]
        omega
      rw [if_pos hlt, splitAtByte?_append]
      dsimp only [Option.bind_eq_bind, Option.bind_some]
      cases hpiece : piece? (longestFirst operators) cs with
      | none =>
          obtain ⟨c, cs, rfl⟩ := List.exists_cons_of_ne_nil hnil
          simp [scan, pieceBytes?_eq, hpiece]
      | some hit =>
          obtain ⟨kind, n⟩ := hit
          obtain ⟨run, rfl, hne, hprescribed⟩ := prescribed_of_piece? hpiece
          obtain ⟨rest, rfl⟩ := hprescribed.front
          have hshorter : rest.length < rounds := by
            have := List.length_pos_iff.mpr hne
            rw [List.length_append] at h
            omega
          have hothers := @ih (before ++ run) rest hshorter
          rw [byteWidth_append, List.append_assoc] at hothers
          have hbytes : pieceBytes? (longestFirst operators) (run ++ rest) =
              some (kind, byteWidth run) := by
            simp [pieceBytes?_eq, hpiece]
          rw [hbytes, scan_run hne hpiece]
          dsimp only
          rw [splitAtByte?_append, Option.bind_some, hothers]
          rfl

/-- **No slice of the scanner fails,** and cutting by bytes gives the same tokens. -/
theorem tokenizeBytes?_eq (operators : List String) (source : String) :
    tokenizeBytes? operators source = some (tokenize operators source) :=
  @cutBytes?_eq operators [] source.toList _ (Nat.lt_succ_self _)

/-- A string token has its quotes. -/
theorem unquote?_of_tokenize {ts : List Token} {t : Token} (h : tokenize operators source = .ok ts)
    (ht : t ∈ ts) (hkind : t.kind = .string) : unquote? t.text = some (unquote t.text) := by
  obtain hoperator | hspelled := spelled_of_scan h t ht
  · rw [hkind] at hoperator
    cases hoperator
  · rw [hkind] at hspelled
    generalize hchars : t.text.toList = run at hspelled
    cases hspelled with
    | string _ => exact unquote?_of_quotes hchars

end Reduct.Token
