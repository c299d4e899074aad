import TaskCage.Foundation.Json

/-!
# Base64 texts

The standard alphabet with padding.
-/

namespace TaskCage
namespace Base64

/-- The symbol of six bits. -/
def symbol (bits : ℕ) : Char :=
  if bits < 26 then Char.ofNat (65 + bits)
  else if bits < 52 then Char.ofNat (71 + bits)
  else if bits < 62 then Char.ofNat (bits - 4)
  else if bits = 62 then '+'
  else '/'

/-- Three bytes make four symbols; the rest is padded. -/
def encode : List UInt8 → List Char
  | [] => []
  | [first] =>
      [symbol (first.toNat / 4), symbol (first.toNat % 4 * 16), '=', '=']
  | [first, second] =>
      [symbol (first.toNat / 4),
        symbol (first.toNat % 4 * 16 + second.toNat / 16),
        symbol (second.toNat % 16 * 4), '=']
  | first :: second :: third :: rest =>
      symbol (first.toNat / 4) ::
        symbol (first.toNat % 4 * 16 + second.toNat / 16) ::
        symbol (second.toNat % 16 * 4 + third.toNat / 64) ::
        symbol (third.toNat % 64) :: encode rest

theorem length_encode (bytes : List UInt8) :
    (encode bytes).length = 4 * ((bytes.length + 2) / 3) := by
  fun_induction encode bytes with
  | case1 => rfl
  | case2 first => simp
  | case3 first second => simp
  | case4 first second third rest inductionHypothesis =>
      simp only [List.length_cons, inductionHypothesis]
      omega

theorem plain_symbol (bits : ℕ) : Json.Plain (symbol bits) := by
  by_cases small : bits < 63
  · have checked : ∀ bits, bits < 63 → (symbol bits).utf8Size = 1 ∧
        Json.escapeChar (symbol bits) = [symbol bits] := by
      decide
    exact checked bits small
  · have last : symbol bits = '/' := by
      unfold symbol
      repeat rw [if_neg (by omega)]
    rw [last]
    exact ⟨by decide, by decide⟩

theorem plain_of_mem_encode {bytes : List UInt8} {char : Char}
    (member : char ∈ encode bytes) : Json.Plain char := by
  have padding : Json.Plain '=' := ⟨by decide, by decide⟩
  revert member
  fun_induction encode bytes with
  | case1 => simp
  | case2 first =>
      simp only [List.mem_cons, List.not_mem_nil, or_false]
      rintro (rfl | rfl | rfl | rfl)
      · exact plain_symbol _
      · exact plain_symbol _
      · exact padding
      · exact padding
  | case3 first second =>
      simp only [List.mem_cons, List.not_mem_nil, or_false]
      rintro (rfl | rfl | rfl | rfl)
      · exact plain_symbol _
      · exact plain_symbol _
      · exact plain_symbol _
      · exact padding
  | case4 first second third rest inductionHypothesis =>
      simp only [List.mem_cons]
      rintro (rfl | rfl | rfl | rfl | member)
      · exact plain_symbol _
      · exact plain_symbol _
      · exact plain_symbol _
      · exact plain_symbol _
      · exact inductionHypothesis member

end Base64
end TaskCage
