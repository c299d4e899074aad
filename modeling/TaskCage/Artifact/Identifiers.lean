import Mathlib.Data.Nat.Bitwise
import TaskCage.Capsule.Plan

/-!
# Generated identifiers

The identifiers of artifacts and of tasks are made of the time, the process id
and a counter.  Two bits of the counter are overwritten by the variant of a
UUID; the other 62 keep the identifiers of one process apart, whatever the
clock says.
-/

namespace TaskCage
namespace Identifiers

open Capsule (isTaskId)

/-- The bytes of a word, the most significant one first. -/
def toBeBytes (word : UInt64) : List UInt8 :=
  [56, 48, 40, 32, 24, 16, 8, 0].map fun shift =>
    UInt8.ofNat (word.toNat / 2 ^ shift)

/-- A byte in two hexadecimal digits. -/
def hexByte (byte : UInt8) : List Char :=
  [(byte.toNat / 16).digitChar, (byte.toNat % 16).digitChar]

def hexGroup (bytes : List UInt8) (start count : ℕ) : List Char :=
  ((bytes.drop start).take count).flatMap hexByte

/-- Sixteen bytes as a UUID is written. -/
def formatBytes (bytes : List UInt8) : String :=
  String.ofList (hexGroup bytes 0 4 ++ '-' :: hexGroup bytes 4 2 ++
    '-' :: hexGroup bytes 6 2 ++ '-' :: hexGroup bytes 8 2 ++
    '-' :: hexGroup bytes 10 6)

/-- The bytes of an identifier: two words, stamped with the version and the
variant of a UUID. -/
def stampedBytes (time processSequence : UInt64) : List UInt8 :=
  let bytes := toBeBytes time ++ toBeBytes processSequence
  let versioned := bytes.modify 6 fun byte => (byte &&& 0x0f) ||| 0x40
  versioned.modify 8 fun byte => (byte &&& 0x3f) ||| 0x80

/-- The identifier that is made of a reading of the clock, in nanoseconds since
the epoch unless it lies before, a process id and the value of a counter. -/
def newIdentifier (clock : Option ℕ) (processId : UInt32) (sequence : UInt64) :
    String :=
  let time := UInt64.ofNat (clock.getD 0)
  let processSequence := (processId.toUInt64 <<< 32) ^^^ sequence
  formatBytes (stampedBytes time processSequence)

section

variable (clock : ℕ → Option ℕ) (processId : UInt32) (call : ℕ)

/-- The identifier of an artifact that a call of the process gives; the counter
starts at zero and wraps around. -/
def newUuid : String :=
  newIdentifier (clock call) processId (UInt64.ofNat call)

/-- The identifier of a task that a call of the process gives, with a counter of
its own. -/
def newTaskId : String :=
  newIdentifier (clock call) processId (UInt64.ofNat call)

end

/-! ### Form -/

theorem digitChar_range {digit : ℕ} (small : digit < 16) :
    digit < 10 ∨ 'a' ≤ digit.digitChar ∧ digit.digitChar ≤ 'f' := by
  revert digit
  decide

/-- Sixteen bytes are written as a task id. -/
theorem isTaskId_formatBytes {bytes : List UInt8}
    (sixteen : bytes.length = 16) : isTaskId (formatBytes bytes) = true := by
  have high (byte : UInt8) := digitChar_range
    (Nat.div_lt_of_lt_mul byte.toNat_lt : byte.toNat / 16 < 16)
  have low (byte : UInt8) := digitChar_range
    (Nat.mod_lt byte.toNat (by decide) : byte.toNat % 16 < 16)
  match bytes, sixteen with
  | [_, _, _, _, _, _, _, _, _, _, _, _, _, _, _, _], _ =>
      simp [isTaskId, formatBytes, hexGroup, hexByte, List.zipIdx_cons, high,
        low]

/-- Task ids are UUIDs in lower case. -/
theorem isUuid_of_isTaskId {text : String} (valid : isTaskId text = true) :
    Names.isUuid text = true := by
  unfold isTaskId at valid
  unfold Names.isUuid
  rw [Bool.and_eq_true, List.all_eq_true] at valid ⊢
  refine ⟨valid.1, fun (char, index) member => ?_⟩
  have here := valid.2 (char, index) member
  simp only [List.mem_cons, List.not_mem_nil, or_false] at here ⊢
  split at here
  · rename_i dash
    rw [if_pos dash]
    exact here
  · rename_i digit
    rw [if_neg digit, Names.isHexDigit, here, Bool.true_or]

/-! ### Freshness -/

theorem digitChar_inj {first second : ℕ} (firstSmall : first < 16)
    (secondSmall : second < 16)
    (same : first.digitChar = second.digitChar) : first = second := by
  have every : ∀ first < 16, ∀ second < 16,
      Nat.digitChar first = Nat.digitChar second → first = second := by
    decide
  exact every first firstSmall second secondSmall same

theorem hexByte_inj {first second : UInt8}
    (same : hexByte first = hexByte second) : first = second := by
  have firstSmall := first.toNat_lt
  have secondSmall := second.toNat_lt
  simp only [hexByte, List.cons.injEq, and_true] at same
  have high := digitChar_inj (by omega) (by omega) same.1
  have low := digitChar_inj (by omega) (by omega) same.2
  exact UInt8.toNat_inj.mp (by omega)

/-- The digits determine the bytes. -/
theorem flatMap_hexByte_inj {first second : List UInt8}
    (same : first.flatMap hexByte = second.flatMap hexByte) :
    first = second := by
  induction first generalizing second with
  | nil =>
      cases second with
      | nil => rfl
      | cons byte second => cases same
  | cons byte first inductionHypothesis =>
      cases second with
      | nil => cases same
      | cons other second =>
          rw [List.flatMap_cons, List.flatMap_cons] at same
          obtain ⟨here, later⟩ := List.append_inj same rfl
          rw [hexByte_inj here, inductionHypothesis later]

/-- A text determines the last eight bytes it was written from. -/
theorem drop_eq_of_formatBytes {first second : List UInt8}
    (firstSixteen : first.length = 16) (secondSixteen : second.length = 16)
    (same : formatBytes first = formatBytes second) :
    (first.drop 8).take 2 = (second.drop 8).take 2 ∧
      (first.drop 10).take 6 = (second.drop 10).take 6 := by
  have lengths (start count : ℕ) : (hexGroup first start count).length =
      (hexGroup second start count).length := by
    simp [hexGroup, hexByte, List.length_flatMap, firstSixteen, secondSixteen]
  obtain ⟨front, last⟩ := List.append_inj' (String.ofList_injective same)
    (by rw [List.length_cons, List.length_cons, lengths])
  obtain ⟨-, fourth⟩ := List.append_inj' front
    (by rw [List.length_cons, List.length_cons, lengths])
  exact ⟨flatMap_hexByte_inj (List.cons.inj fourth).2,
    flatMap_hexByte_inj (List.cons.inj last).2⟩

/-- The variant replaces the upper two bits. -/
theorem variant_toNat (byte : UInt8) :
    ((byte &&& 0x3f) ||| 0x80).toNat = 128 + byte.toNat % 64 := by
  have stamp : ∀ low < 64, low ||| 128 = 128 + low := by
    decide
  have mask : byte.toNat &&& 63 = byte.toNat % 64 :=
    Nat.and_two_pow_sub_one_eq_mod byte.toNat 6
  rw [UInt8.toNat_or, UInt8.toNat_and]
  change (byte.toNat &&& 63) ||| 128 = _
  rw [mask]
  exact stamp _ (Nat.mod_lt _ (by decide))

/-- The last eight bytes keep 62 bits of the second word. -/
theorem mod_eq_of_stampedBytes
    {firstTime firstWord secondTime secondWord : UInt64}
    (same : formatBytes (stampedBytes firstTime firstWord) =
      formatBytes (stampedBytes secondTime secondWord)) :
    firstWord.toNat % 2 ^ 62 = secondWord.toNat % 2 ^ 62 := by
  obtain ⟨upper, lower⟩ := drop_eq_of_formatBytes rfl rfl same
  simp only [stampedBytes, toBeBytes, List.map_cons, List.map_nil,
    List.cons_append, List.nil_append, List.modify_succ_cons,
    List.modify_zero_cons, List.drop_succ_cons, List.drop_zero,
    List.take_succ_cons, List.take_zero, List.cons.injEq, and_true,
    ← UInt8.toNat_inj, variant_toNat, UInt8.toNat_ofNat'] at upper lower
  omega

/-- The process id is mixed into the counter by an exclusive or, which can be
undone. -/
theorem sequence_of_newIdentifier {firstClock secondClock : Option ℕ}
    {processId : UInt32} {first second : UInt64}
    (same : newIdentifier firstClock processId first =
      newIdentifier secondClock processId second) :
    first.toNat % 2 ^ 62 = second.toNat % 2 ^ 62 := by
  have kept := mod_eq_of_stampedBytes same
  rw [UInt64.toNat_xor, UInt64.toNat_xor, Nat.xor_mod_two_pow,
    Nat.xor_mod_two_pow] at kept
  exact Nat.xor_right_inj.mp kept

/-- What the identifiers that the calls of a process give are good for: they are
apart, they pass the checks of identifiers, and a new one names nothing that
lives under an earlier one. -/
structure Fresh (identifier : ℕ → String) : Prop where
  apart : ∀ first < 2 ^ 62, ∀ second < 2 ^ 62,
    identifier first = identifier second → first = second
  isUuid : ∀ call, Names.isUuid (identifier call) = true
  isTaskId : ∀ call, isTaskId (identifier call) = true
  unused : ∀ call < 2 ^ 62, ∀ live : List String,
    (∀ text ∈ live, ∃ earlier < call, text = identifier earlier) →
    identifier call ∉ live

theorem fresh_newIdentifier (clock : ℕ → Option ℕ) (processId : UInt32) :
    Fresh fun call =>
      newIdentifier (clock call) processId (UInt64.ofNat call) := by
  have apart (first second : ℕ) (firstEarly : first < 2 ^ 62)
      (secondEarly : second < 2 ^ 62)
      (same : newIdentifier (clock first) processId (UInt64.ofNat first) =
        newIdentifier (clock second) processId (UInt64.ofNat second)) :
      first = second := by
    have kept := sequence_of_newIdentifier same
    rw [UInt64.toNat_ofNat', UInt64.toNat_ofNat'] at kept
    omega
  refine ⟨fun first firstEarly second => apart first second firstEarly,
    fun call => isUuid_of_isTaskId (isTaskId_formatBytes rfl),
    fun call => isTaskId_formatBytes rfl, ?_⟩
  intro call early live names member
  obtain ⟨earlier, before, same⟩ := names _ member
  have equal := apart call earlier early (Nat.lt_trans before early) same
  omega

/-- The identifiers of artifacts and of tasks are fresh, whatever the clock
says. -/
theorem identifiers_fresh (clock : ℕ → Option ℕ) (processId : UInt32) :
    Fresh (newUuid clock processId) ∧ Fresh (newTaskId clock processId) :=
  ⟨fresh_newIdentifier clock processId, fresh_newIdentifier clock processId⟩

end Identifiers
end TaskCage
