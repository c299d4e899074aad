import TaskCage.Core.Task

/-!
# Captured output

Raw tails of the two output streams, and their conversion to public text.  The
conversion replaces every maximal invalid piece of UTF-8 by one replacement
character, as the standard library's lossy decoding does.
-/

namespace TaskCage

namespace Utf8

/-- The decoder inside a multi-byte character: how many bytes are missing, the
range of the next one, and the bits read so far. -/
structure Pending where
  missing : ℕ
  low : ℕ
  high : ℕ
  bits : ℕ
deriving DecidableEq

/-- The character that stands for an invalid piece. -/
def replacement : Char :=
  Char.ofNat 0xFFFD

/-- The decoder at a first byte: a character, or what the byte announces. -/
def start (byte : ℕ) : Char ⊕ Pending :=
  if byte < 0x80 then .inl (Char.ofNat byte)
  else if byte < 0xC2 then .inl replacement
  else if byte < 0xE0 then .inr ⟨1, 0x80, 0xBF, byte - 0xC0⟩
  else if byte = 0xE0 then .inr ⟨2, 0xA0, 0xBF, 0⟩
  else if byte = 0xED then .inr ⟨2, 0x80, 0x9F, byte - 0xE0⟩
  else if byte < 0xF0 then .inr ⟨2, 0x80, 0xBF, byte - 0xE0⟩
  else if byte = 0xF0 then .inr ⟨3, 0x90, 0xBF, 0⟩
  else if byte < 0xF4 then .inr ⟨3, 0x80, 0xBF, byte - 0xF0⟩
  else if byte = 0xF4 then .inr ⟨3, 0x80, 0x8F, 4⟩
  else .inl replacement

/-- Decode bytes, after the beginning of a character if there is one. -/
def decode : Option Pending → List UInt8 → List Char
  | none, [] => []
  | some _, [] => [replacement]
  | none, byte :: bytes =>
      match start byte.toNat with
      | .inl char => char :: decode none bytes
      | .inr pending => decode (some pending) bytes
  | some pending, byte :: bytes =>
      if pending.low ≤ byte.toNat ∧ byte.toNat ≤ pending.high then
        let bits := pending.bits * 64 + (byte.toNat - 0x80)
        if pending.missing = 1 then
          Char.ofNat bits :: decode none bytes
        else
          decode (some ⟨pending.missing - 1, 0x80, 0xBF, bits⟩) bytes
      else
        -- The byte that does not fit begins the next character.
        replacement ::
          match start byte.toNat with
          | .inl char => char :: decode none bytes
          | .inr next => decode (some next) bytes

/-- Text of arbitrary bytes. -/
def fromUtf8Lossy (bytes : List UInt8) : String :=
  String.ofList (decode none bytes)

/-- How many characters a decoder may still owe for bytes it has read. -/
def owed : Option Pending → ℕ
  | none => 0
  | some _ => 1

/-- Every character stands for at least one byte: an invalid piece becomes one
character, and the byte that ends it is decoded on its own. -/
theorem length_decode_le (pending : Option Pending) (bytes : List UInt8) :
    (decode pending bytes).length ≤ owed pending + bytes.length := by
  induction bytes generalizing pending with
  | nil => cases pending <;> exact Nat.le_refl _
  | cons byte bytes inductionHypothesis =>
      have whole := inductionHypothesis none
      have begun (next : Pending) := inductionHypothesis (some next)
      simp only [owed] at whole begun
      have first : (match start byte.toNat with
          | .inl char => char :: decode none bytes
          | .inr next => decode (some next) bytes).length ≤
            bytes.length + 1 := by
        split
        · rw [List.length_cons]
          omega
        · rename_i next _
          have := begun next
          omega
      cases pending with
      | none =>
          rw [decode, owed, List.length_cons]
          omega
      | some pending =>
          rw [decode, owed, List.length_cons]
          dsimp only
          split
          · split
            · rw [List.length_cons]
              omega
            · have := begun
                ⟨pending.missing - 1, 0x80, 0xBF,
                  pending.bits * 64 + (byte.toNat - 0x80)⟩
              omega
          · rw [List.length_cons]
            omega

theorem length_fromUtf8Lossy_le (bytes : List UInt8) :
    (fromUtf8Lossy bytes).toList.length ≤ bytes.length := by
  have bound := length_decode_le none bytes
  rw [fromUtf8Lossy, String.toList_ofList]
  rwa [owed, Nat.zero_add] at bound

end Utf8

/-- The kept tail of one stream, and whether anything before it was lost. -/
structure CapturedStream where
  tail : List UInt8
  truncated : Bool
deriving DecidableEq

/-- The kept tails of both streams. -/
structure CapturedOutput where
  stdout : CapturedStream
  stderr : CapturedStream
deriving DecidableEq

namespace CapturedOutput

/-- The public form of a captured output. -/
def intoTaskOutput (captured : CapturedOutput) : TaskOutput where
  stdoutTail := Utf8.fromUtf8Lossy captured.stdout.tail
  stderrTail := Utf8.fromUtf8Lossy captured.stderr.tail
  stdoutTruncated := captured.stdout.truncated
  stderrTruncated := captured.stderr.truncated

end CapturedOutput
end TaskCage
