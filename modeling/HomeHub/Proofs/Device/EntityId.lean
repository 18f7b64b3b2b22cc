import HomeHub.Device.EntityId

/-!
# Texts that are entity ids

An entity id is in order exactly when it is two words of letters, digits and underscores with a point
between them.
-/
namespace HomeHub.Device

def IsIdLetter (c : Char) : Prop := ('a' ≤ c ∧ c ≤ 'z') ∨ ('0' ≤ c ∧ c ≤ '9') ∨ c = '_'

/-- A point between two words of letters. -/
def IsIdText (id : String) : Prop :=
  ∃ domain object, id.toList = domain ++ '.' :: object ∧ domain ≠ [] ∧ object ≠ [] ∧
    ∀ c ∈ domain ++ object, IsIdLetter c

theorem isIdChar_iff {c : Char} : isIdChar c ↔ IsIdLetter c := by
  have hlower : c.isLower = (decide ('a' ≤ c) && decide (c ≤ 'z')) := rfl
  have hdigit : c.isDigit = (decide ('0' ≤ c) && decide (c ≤ '9')) := rfl
  simp [isIdChar, IsIdLetter, hlower, hdigit, or_assoc]

theorem isIdPart_iff {part : List Char} : isIdPart part ↔ part ≠ [] ∧ ∀ c ∈ part, IsIdLetter c := by
  simp [isIdPart, isIdChar_iff]

theorem not_isIdLetter_point : ¬IsIdLetter '.' := by
  rw [← isIdChar_iff]
  decide

theorem isEntityId_iff {id : String} : isEntityId id ↔ IsIdText id := by
  unfold isEntityId
  constructor
  · intro h
    split at h
    · cases h
    · rename_i c object hdrop
      obtain ⟨hdomain, hobject⟩ := Bool.and_eq_true_iff.mp h
      rw [isIdPart_iff] at hdomain hobject
      obtain rfl : c = '.' := by
        have hfirst := List.head?_dropWhile_not (· ≠ '.') id.toList
        rw [hdrop] at hfirst
        simpa using hfirst
      refine ⟨_, object, ?_, hdomain.1, hobject.1, fun c hc => ?_⟩
      · rw [← hdrop, List.takeWhile_append_dropWhile]
      · exact (List.mem_append.mp hc).elim (hdomain.2 c) (hobject.2 c)
  · rintro ⟨domain, object, htext, hdomain, hobject, hletters⟩
    have hbefore : ∀ c ∈ domain, decide (c ≠ '.') := fun c hc => decide_eq_true fun heq =>
      not_isIdLetter_point (heq ▸ hletters c (List.mem_append_left _ hc))
    have hdrop : id.toList.dropWhile (· ≠ '.') = '.' :: object := by
      rw [htext, List.dropWhile_append_of_pos hbefore]
      rfl
    have htake : id.toList.takeWhile (· ≠ '.') = domain := by
      rw [htext, List.takeWhile_append_of_pos hbefore]
      simp
    rw [hdrop, htake]
    exact Bool.and_eq_true_iff.mpr
      ⟨isIdPart_iff.mpr ⟨hdomain, fun c hc => hletters c (List.mem_append_left _ hc)⟩,
        isIdPart_iff.mpr ⟨hobject, fun c hc => hletters c (List.mem_append_right _ hc)⟩⟩

end HomeHub.Device
