import Mathlib.Data.String.Basic
import Mathlib.Tactic.SplitIfs

/-!
# The order of keys

Strings are compared character by character. That is the order of their UTF-8 bytes: of two characters
the lesser one has the lesser bytes, and they tell before either ends.
-/
namespace HomeHub.Text

def utf8 (s : String) : List UInt8 := s.toUTF8.data.toList

theorem utf8_eq (s : String) : utf8 s = s.toList.flatMap String.utf8EncodeChar := by
  rw [utf8, String.toUTF8, ← String.utf8Encode_toList, List.utf8Encode, List.data_toByteArray]

theorem append_lt_append_of_length_eq {bytes bytes' : List UInt8} (h : bytes < bytes')
    (hlength : bytes.length = bytes'.length) (rest rest' : List UInt8) :
    bytes ++ rest < bytes' ++ rest' := by
  induction bytes generalizing bytes' with
  | nil =>
    rw [List.eq_nil_of_length_eq_zero hlength.symm] at h
    exact absurd h (List.lt_irrefl _)
  | cons b bytes ih =>
    cases bytes' with
    | nil => cases hlength
    | cons b' bytes' =>
      rcases List.cons_lt_cons_iff.mp h with hb | ⟨rfl, htail⟩
      · exact List.cons_lt_cons_iff.mpr (.inl hb)
      · exact List.cons_lt_cons_iff.mpr (.inr ⟨rfl, ih htail (Nat.succ.inj hlength)⟩)

/-- One to four bytes, with a first one that tells how many. -/
theorem utf8EncodeChar_cases (c : Char) :
    c.toNat < 0x80 ∧ String.utf8EncodeChar c = [UInt8.ofNat c.toNat] ∨
    (0x80 ≤ c.toNat ∧ c.toNat < 0x800) ∧ String.utf8EncodeChar c =
      [UInt8.ofNat (c.toNat / 64 % 32 + 192), UInt8.ofNat (c.toNat % 64 + 128)] ∨
    (0x800 ≤ c.toNat ∧ c.toNat < 0x10000) ∧ String.utf8EncodeChar c =
      [UInt8.ofNat (c.toNat / 4096 % 16 + 224), UInt8.ofNat (c.toNat / 64 % 64 + 128),
        UInt8.ofNat (c.toNat % 64 + 128)] ∨
    (0x10000 ≤ c.toNat ∧ c.toNat < 0x110000) ∧ String.utf8EncodeChar c =
      [UInt8.ofNat (c.toNat / 262144 % 8 + 240), UInt8.ofNat (c.toNat / 4096 % 64 + 128),
        UInt8.ofNat (c.toNat / 64 % 64 + 128), UInt8.ofNat (c.toNat % 64 + 128)] := by
  have hvalid : c.toNat < 0xD800 ∨ 0xDFFF < c.toNat ∧ c.toNat < 0x110000 := c.valid
  have hvalue : c.val.toNat = c.toNat := rfl
  simp only [String.utf8EncodeChar, hvalue]
  split_ifs with hone htwo hthree
  · exact .inl ⟨by omega, rfl⟩
  · exact .inr (.inl ⟨by omega, rfl⟩)
  · exact .inr (.inr (.inl ⟨by omega, rfl⟩))
  · exact .inr (.inr (.inr ⟨by omega, rfl⟩))

theorem utf8EncodeChar_append_lt {c d : Char} (h : c < d) (rest rest' : List UInt8) :
    String.utf8EncodeChar c ++ rest < String.utf8EncodeChar d ++ rest' := by
  have hlt : c.toNat < d.toNat := h
  have hfirst {m n : Nat} (hm : m % 256 < n % 256) (tail tail' : List UInt8) :
      UInt8.ofNat m :: tail < UInt8.ofNat n :: tail' :=
    List.cons_lt_cons_iff.mpr (.inl (UInt8.lt_iff_toNat_lt.mpr (by simpa using hm)))
  rcases utf8EncodeChar_cases c with ⟨hc, hbytes⟩ | ⟨hc, hbytes⟩ | ⟨hc, hbytes⟩ | ⟨hc, hbytes⟩ <;>
    rcases utf8EncodeChar_cases d with ⟨hd, hbytes'⟩ | ⟨hd, hbytes'⟩ | ⟨hd, hbytes'⟩ | ⟨hd, hbytes'⟩ <;>
    rw [hbytes, hbytes']
  all_goals first
    | omega
    | exact hfirst (by omega) _ _
    | refine append_lt_append_of_length_eq ?_ (by rfl) rest rest'
      simp (disch := omega) only [List.cons_lt_cons_iff, List.lt_irrefl, and_false, or_false,
        UInt8.lt_iff_toNat_lt, ← UInt8.toNat_inj, UInt8.toNat_ofNat', Nat.mod_eq_of_lt]
      omega

theorem flatMap_utf8EncodeChar_lt {cs ds : List Char} (h : cs < ds) :
    cs.flatMap String.utf8EncodeChar < ds.flatMap String.utf8EncodeChar := by
  induction cs generalizing ds with
  | nil =>
    cases ds with
    | nil => exact absurd h (List.lt_irrefl _)
    | cons d ds =>
      have hne : (d :: ds).flatMap String.utf8EncodeChar ≠ [] := by simp
      obtain ⟨b, bytes, hbytes⟩ := List.exists_cons_of_ne_nil hne
      rw [hbytes]
      exact List.nil_lt_cons b bytes
  | cons c cs ih =>
    cases ds with
    | nil => exact absurd h (List.not_lt_nil _)
    | cons d ds =>
      rcases List.cons_lt_cons_iff.mp h with hc | ⟨rfl, htail⟩
      · exact utf8EncodeChar_append_lt hc _ _
      · exact List.append_left_lt (ih htail)

theorem utf8_lt {s t : String} (h : s < t) : utf8 s < utf8 t := by
  rw [utf8_eq, utf8_eq]
  exact flatMap_utf8EncodeChar_lt (String.lt_iff_toList_lt.mp h)

/-- Keys are in the order of their bytes. -/
theorem compare_eq_lt_iff_utf8_lt {s t : String} : compare s t = .lt ↔ utf8 s < utf8 t := by
  rw [compare_lt_iff_lt]
  refine ⟨utf8_lt, fun h => ?_⟩
  rcases lt_trichotomy s t with hlt | rfl | hgt
  · exact hlt
  · exact absurd h (List.lt_irrefl _)
  · exact absurd (utf8_lt hgt) (List.lt_asymm h)

end HomeHub.Text
