import Mathlib.Data.String.Basic
import Mathlib.Tactic.SplitIfs

/-! # The order of texts is that of their bytes

Texts are ordered by the codes of their characters. The bytes of a character are the digits of its
code to base 64, behind a first byte that is the greater the more there are of them. So of two
characters the one with the smaller code has the smaller byte where their bytes begin to differ,
and texts stand in the same order as their bytes.
-/

namespace SchemaDefaults.Text

/-- The bytes of a text in UTF-8. -/
def bytes (text : String) : List UInt8 :=
  text.toUTF8.data.toList

theorem bytes_eq (text : String) : bytes text = text.toList.flatMap String.utf8EncodeChar := by
  have whole : text.toUTF8 = (text.toList.flatMap String.utf8EncodeChar).toByteArray := by
    conv_lhs => rw [← String.ofList_toList (s := text)]
    rw [String.toUTF8_eq_toByteArray, String.toByteArray_ofList, List.utf8Encode]
  rw [bytes, whole, List.data_toByteArray]

/-! ## Characters -/

/-- Bytes are smaller than others, whatever follows on either. -/
def Ahead (left right : List UInt8) : Prop :=
  ∀ more others, left ++ more < right ++ others

theorem Ahead.append {left right : List UInt8} (ahead : Ahead left right)
    (leftMore rightMore : List UInt8) : Ahead (left ++ leftMore) (right ++ rightMore) := by
  intro more others
  rw [List.append_assoc, List.append_assoc]
  exact ahead _ _

theorem Ahead.prepend {left right : List UInt8} (ahead : Ahead left right)
    (common : List UInt8) : Ahead (common ++ left) (common ++ right) := by
  intro more others
  rw [List.append_assoc, List.append_assoc]
  exact List.append_left_lt (ahead _ _)

theorem ahead_cons {a b : Nat} (less : a < b) (byte : b < 256) (left right : List UInt8) :
    Ahead (UInt8.ofNat a :: left) (UInt8.ofNat b :: right) := by
  intro more others
  apply List.cons_lt_cons_iff.mpr
  left
  rw [UInt8.lt_iff_toNat_lt, UInt8.toNat_ofNat', UInt8.toNat_ofNat']
  omega

/-- The last digit counts where the leading ones are equal. -/
theorem ahead_digit {v w : Nat} (less : v < w) (leading : Nat → List UInt8)
    (ahead : v / 64 < w / 64 → Ahead (leading (v / 64)) (leading (w / 64))) :
    Ahead (leading (v / 64) ++ [UInt8.ofNat (v % 64 + 128)])
      (leading (w / 64) ++ [UInt8.ofNat (w % 64 + 128)]) := by
  have digits : v / 64 < w / 64 ∨ v / 64 = w / 64 ∧ v % 64 < w % 64 := by omega
  cases digits with
  | inl before => exact (ahead before).append _ _
  | inr last =>
      obtain ⟨same, lower⟩ := last
      rw [same]
      exact (ahead_cons (by omega) (by omega) [] []).prepend _

theorem ahead_encode {c d : Char} (less : c < d) :
    Ahead (String.utf8EncodeChar c) (String.utf8EncodeChar d) := by
  have order : c.val.toNat < d.val.toNat := less
  have bound : d.val.toNat < 0x110000 := d.valid.elim (by omega) (by omega)
  have third : ∀ n : Nat, n / 4096 = n / 64 / 64 := by omega
  have fourth : ∀ n : Nat, n / 262144 = n / 64 / 64 / 64 := by omega
  unfold String.utf8EncodeChar
  simp only [third, fourth]
  generalize c.val.toNat = v at *
  generalize d.val.toNat = w at *
  -- Unless both have as many bytes, from two on, the first bytes differ.
  split_ifs
  all_goals first | omega | exact ahead_cons (by omega) (by omega) _ _ | skip
  · apply ahead_digit order fun u => [UInt8.ofNat (u % 32 + 192)]
    intro leading
    exact ahead_cons (by omega) (by omega) _ _
  · apply ahead_digit order fun u => [UInt8.ofNat (u / 64 % 16 + 224), UInt8.ofNat (u % 64 + 128)]
    intro leading
    apply ahead_digit leading fun u => [UInt8.ofNat (u % 16 + 224)]
    intro first
    exact ahead_cons (by omega) (by omega) _ _
  · apply ahead_digit order fun u => [UInt8.ofNat (u / 64 / 64 % 8 + 240),
      UInt8.ofNat (u / 64 % 64 + 128), UInt8.ofNat (u % 64 + 128)]
    intro leading
    apply ahead_digit leading fun u =>
      [UInt8.ofNat (u / 64 % 8 + 240), UInt8.ofNat (u % 64 + 128)]
    intro leading
    apply ahead_digit leading fun u => [UInt8.ofNat (u % 8 + 240)]
    intro first
    exact ahead_cons (by omega) (by omega) _ _

/-! ## Texts -/

theorem encode_lt {left right : List Char} (less : left < right) :
    left.flatMap String.utf8EncodeChar < right.flatMap String.utf8EncodeChar := by
  induction less with
  | @nil c rest =>
      rw [List.flatMap_cons]
      cases first : String.utf8EncodeChar c with
      | nil => exact absurd first String.utf8EncodeChar_ne_nil
      | cons byte others => exact .nil
  | rel before => exact ahead_encode before _ _
  | cons _ ih => exact List.append_left_lt ih

theorem lt_iff_bytes_lt (left right : String) : left < right ↔ bytes left < bytes right := by
  have keeps : ∀ {left right : String}, left < right → bytes left < bytes right := by
    intro left right less
    rw [bytes_eq, bytes_eq]
    exact encode_lt (String.lt_iff.mp less)
  constructor
  · exact keeps
  · intro less
    rcases lt_trichotomy left right with before | same | behind
    · exact before
    · subst same
      exact absurd less (List.lt_irrefl _)
    · exact absurd (keeps behind) (List.lt_asymm less)

end SchemaDefaults.Text
