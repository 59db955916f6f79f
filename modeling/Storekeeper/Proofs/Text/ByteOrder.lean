import Storekeeper.Proofs.Mongo.Reading

/-!
# The order of texts by their bytes

Texts are compared character by character.  This is the order of their bytes in UTF-8: the lesser
of two characters is encoded by fewer bytes with a lesser first one, or by as many bytes with the
lesser digits.
-/

open String (utf8EncodeChar)

namespace Storekeeper

namespace Text

theorem lt_digits {m n : Nat} (h : m < n) :
  m / 64 < n / 64 ∨ m / 64 = n / 64 ∧ m % 64 < n % 64
  := by
  omega

/-- The digits to the base 64 of the lesser of two numbers come first. -/
theorem lt_four_digits {m n : Nat} (h : m < n) :
  m / 262144 < n / 262144 ∨ m / 262144 = n / 262144
    ∧ (m / 4096 % 64 < n / 4096 % 64 ∨ m / 4096 % 64 = n / 4096 % 64
      ∧ (m / 64 % 64 < n / 64 % 64 ∨ m / 64 % 64 = n / 64 % 64 ∧ m % 64 < n % 64))
  := by
  have hdiv : ∀ k, k / 4096 = k / 64 / 64 ∧ k / 262144 = k / 64 / 64 / 64 := by
    intro k
    rw [Nat.div_div_eq_div_mul, Nat.div_div_eq_div_mul]
    exact ⟨rfl, rfl⟩
  rw [(hdiv m).1, (hdiv m).2, (hdiv n).1, (hdiv n).2]
  rcases lt_digits h with h | ⟨heq, h⟩
  · rcases lt_digits h with h | ⟨heq, h⟩
    · rcases lt_digits h with h | ⟨heq, h⟩
      · left
        exact h
      · right
        exact ⟨heq, .inl h⟩
    · simp [heq, h]
  · simp [heq, h]

/-- The bytes of the lesser of two characters come first, whatever follows them. -/
theorem utf8EncodeChar_lt {a b : Char} (h : a < b) (s t : List UInt8) :
  utf8EncodeChar a ++ s < utf8EncodeChar b ++ t
  := by
  have hlt : a.val.toNat < b.val.toNat := UInt32.lt_iff_toNat_lt.mp (Char.lt_def.mp h)
  have hb : b.val.toNat < 1114112 := by
    rcases b.valid with hb | hb
    · exact hb.trans (by decide)
    · exact hb.2
  dsimp only [utf8EncodeChar]
  generalize a.val.toNat = m at hlt
  generalize b.val.toNat = n at hlt hb
  have hdigits := lt_four_digits hlt
  have hnext : ∀ k, (k % 64 + 128) % 2 ^ 8 = k % 64 + 128 := by omega
  have hfirst : ∀ k, k ≤ n → (k / 262144 % 8 + 240) % 2 ^ 8 = k / 262144 + 240 := by omega
  -- one case for each pair of lengths
  split_ifs
  all_goals
    simp only [List.cons_append, List.nil_append, List.cons_lt_cons_iff, UInt8.lt_iff_toNat_lt,
      ← UInt8.toNat_inj, UInt8.toNat_ofNat', hnext, hfirst m hlt.le, hfirst n le_rfl]
    omega

theorem flatMap_utf8EncodeChar_lt {s t : List Char} (h : s < t) :
  s.flatMap utf8EncodeChar < t.flatMap utf8EncodeChar
  := by
  induction h with
  | nil =>
    obtain ⟨b, bs, hbytes⟩ := List.exists_cons_of_ne_nil String.utf8EncodeChar_ne_nil
    rw [List.flatMap_cons, hbytes]
    apply List.nil_lt_cons
  | rel h =>
    rw [List.flatMap_cons, List.flatMap_cons]
    apply utf8EncodeChar_lt h
  | cons h ih =>
    rw [List.flatMap_cons, List.flatMap_cons]
    apply List.append_left_lt ih

/-- The bytes of the lesser of two texts come first. -/
theorem toUTF8_lt {s t : String} (h : s < t) :
  s.toUTF8.toList < t.toUTF8.toList
  := by
  rw [Url.toList_toUTF8, Url.toList_toUTF8]
  exact flatMap_utf8EncodeChar_lt (String.lt_iff.mp h)

end Text

end Storekeeper
