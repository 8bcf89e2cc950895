import Mathlib.Algebra.Group.Nat.Defs

/-! # The order of texts

Texts are ordered by the code points of their characters. This is the order of their bytes in UTF-8
(`bytes_lt_iff`): the first byte of a character tells how many bytes follow, more for a greater code
point, and the bytes hold the digits of the code point from the highest one on.
-/

namespace CatalogQuery.Text

def bytes (s : String) : List UInt8 := s.toUTF8.data.toList

theorem bytes_eq (s : String) : bytes s = s.toList.flatMap String.utf8EncodeChar := by
  have encoded : s.toUTF8 = s.toList.utf8Encode := by
    rw [String.toUTF8_eq_toByteArray, ← String.toByteArray_ofList, String.ofList_toList]
  rw [bytes, encoded, List.utf8Encode, List.data_toByteArray, List.toList_toArray]

/-! ## Characters -/

/-- The last digits of a number to the base 64, each in a byte that continues a character. -/
def continuation : Nat → Nat → List UInt8
  | 0, _ => []
  | count + 1, n => UInt8.ofNat (n / 64 ^ count % 64 + 128) :: continuation count n

section
variable {a b m n : Nat} {s t : List UInt8}

theorem ofNat_cons_lt (bound : b < 256) (lt : a < b) : UInt8.ofNat a :: s < UInt8.ofNat b :: t := by
  rw [List.cons_lt_cons_iff, UInt8.lt_iff_toNat_lt, UInt8.toNat_ofNat', UInt8.toNat_ofNat']
  left
  omega

theorem ofNat_cons_lt_of_lt (same : a = b) (lt : s < t) :
    UInt8.ofNat a :: s < UInt8.ofNat b :: t := by
  rw [List.cons_lt_cons_iff]
  exact .inr ⟨by rw [same], lt⟩

theorem continuation_lt {count : Nat} (lt : m % 64 ^ count < n % 64 ^ count) :
    continuation count m ++ s < continuation count n ++ t := by
  induction count with
  | zero => simp [Nat.mod_one] at lt
  | succ count ih =>
    simp only [continuation, List.cons_append]
    rw [Nat.pow_succ, Nat.mod_mul, Nat.mod_mul] at lt
    -- The highest of the digits decides, or else it is the same and the others decide.
    have least := Nat.mod_lt m (Nat.pow_pos (n := count) (show 0 < 64 by omega))
    have most := Nat.mod_lt n (Nat.pow_pos (n := count) (show 0 < 64 by omega))
    rcases Nat.lt_trichotomy (m / 64 ^ count % 64) (n / 64 ^ count % 64) with less | same | greater
    · exact ofNat_cons_lt (by omega) (by omega)
    · rw [same] at lt
      exact ofNat_cons_lt_of_lt (by rw [same]) (ih (by omega))
    · have step := Nat.mul_le_mul_left (64 ^ count) (Nat.succ_le_of_lt greater)
      rw [Nat.mul_succ] at step
      omega

theorem marked_lt {count mark : Nat} (lt : m < n) (bound : n / 64 ^ count + mark < 256) :
    UInt8.ofNat (m / 64 ^ count + mark) :: (continuation count m ++ s) <
      UInt8.ofNat (n / 64 ^ count + mark) :: (continuation count n ++ t) := by
  have order := Nat.div_le_div_right (c := 64 ^ count) (Nat.le_of_lt lt)
  by_cases same : m / 64 ^ count = n / 64 ^ count
  · have first := Nat.div_add_mod m (64 ^ count)
    have second := Nat.div_add_mod n (64 ^ count)
    rw [same] at first
    exact ofNat_cons_lt_of_lt (by rw [same]) (continuation_lt (by omega))
  · exact ofNat_cons_lt bound (by omega)

/-- How many bytes continue a character with the code point, and the least first byte of those. -/
def form (n : Nat) : Nat × Nat :=
  if n ≤ 127 then (0, 0) else if n ≤ 2047 then (1, 192) else if n ≤ 65535 then (2, 224) else (3, 240)

def firstByte (n : Nat) : Nat := n / 64 ^ (form n).1 + (form n).2

theorem firstByte_lt_of_ne (lt : m < n) (other : form m ≠ form n) : firstByte m < firstByte n := by
  unfold firstByte form at *
  grind

theorem toNat_lt (c : Char) : c.toNat < 0x110000 := by
  have valid : c.toNat < 0xd800 ∨ 0xdfff < c.toNat ∧ c.toNat < 0x110000 := c.valid
  omega

theorem firstByte_toNat_lt (c : Char) : firstByte c.toNat < 256 := by
  have bound := toNat_lt c
  unfold firstByte form
  grind

theorem utf8EncodeChar_eq (c : Char) :
    String.utf8EncodeChar c =
      UInt8.ofNat (firstByte c.toNat) :: continuation (form c.toNat).1 c.toNat := by
  have bound := toNat_lt c
  unfold String.utf8EncodeChar firstByte form
  rw [show c.val.toNat = c.toNat from rfl]
  dsimp only
  split
  · simp [continuation]
  · split
    · rw [Nat.mod_eq_of_lt (by omega)]
      simp [continuation]
    · split
      · rw [Nat.mod_eq_of_lt (by omega)]
        simp [continuation]
      · rw [Nat.mod_eq_of_lt (by omega)]
        simp [continuation]

end

theorem utf8EncodeChar_lt {c d : Char} (lt : c < d) (s t : List UInt8) :
    String.utf8EncodeChar c ++ s < String.utf8EncodeChar d ++ t := by
  rw [utf8EncodeChar_eq, utf8EncodeChar_eq]
  have bound := firstByte_toNat_lt d
  by_cases same : form c.toNat = form d.toNat
  · unfold firstByte at *
    rw [same]
    exact marked_lt lt bound
  · exact ofNat_cons_lt bound (firstByte_lt_of_ne lt same)

theorem flatMap_lt {s t : List Char} (lt : s < t) :
    s.flatMap String.utf8EncodeChar < t.flatMap String.utf8EncodeChar := by
  induction s generalizing t with
  | nil =>
    cases t with
    | nil => exact absurd lt (List.lt_irrefl [])
    | cons d t => simp [utf8EncodeChar_eq]
  | cons c s ih =>
    cases t with
    | nil => exact absurd lt (List.not_lt_nil _)
    | cons d t =>
      rw [List.flatMap_cons, List.flatMap_cons]
      rcases List.cons_lt_cons_iff.mp lt with less | ⟨rfl, less⟩
      · exact utf8EncodeChar_lt less _ _
      · exact List.append_left_lt (ih less)

theorem bytes_lt_iff {s t : String} : bytes s < bytes t ↔ s < t := by
  have mono : ∀ {s t : String}, s < t → bytes s < bytes t := by
    intro s t lt
    rw [bytes_eq, bytes_eq]
    exact flatMap_lt (String.lt_iff.mp lt)
  refine ⟨fun less => ?_, mono⟩
  apply Decidable.byContradiction
  intro notLess
  by_cases same : s = t
  · rw [same] at less
    exact List.lt_irrefl _ less
  · have greater : t < s := Std.lt_of_le_of_ne notLess (Ne.symm same)
    exact List.lt_asymm less (mono greater)

theorem bytes_le_iff {s t : String} : bytes s ≤ bytes t ↔ s ≤ t := by
  rw [← List.not_lt, bytes_lt_iff, String.not_lt]

end CatalogQuery.Text
