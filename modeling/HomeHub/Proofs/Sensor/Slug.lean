import HomeHub.Proofs.Device.EntityId
import HomeHub.Proofs.Sensor.EntityId
import Mathlib.Data.List.Chain

/-!
# Slugs of names

The slug of a name has its letters and digits in lower case, and underscores only one by one between
them. The name of a sensor ends with a letter of its kind's title, so there is always something left for
an entity id.
-/
namespace HomeHub.Sensor

open Device (IsIdLetter)

/-- Lower-case letters and digits, with single underscores between them. -/
structure IsSlug (word : List Char) : Prop where
  ne_nil : word ≠ []
  letters : ∀ c ∈ word, IsIdLetter c
  head : word.head? ≠ some '_'
  last : word.getLast? ≠ some '_'
  single : ∀ before after, word ≠ before ++ '_' :: '_' :: after

/-- Not both are underscores. -/
def Apart (a b : Char) : Prop := ¬(a = '_' ∧ b = '_')

/-- The letters and digits of a name, those of ASCII, in lower case. -/
def kept (name : List Char) : List Char := (name.filter Char.isAlphanum).map Char.toLower

theorem toNat_toLower_range {c : Char} (h : c.isAlphanum) :
    97 ≤ c.toLower.toNat ∧ c.toLower.toNat ≤ 122 ∨ 48 ≤ c.toLower.toNat ∧ c.toLower.toNat ≤ 57 := by
  have hval : (decide (65 ≤ c.val ∧ c.val ≤ 90) || (97 ≤ c.val && c.val ≤ 122) ||
    (48 ≤ c.val && c.val ≤ 57)) = true := h
  simp only [Bool.or_eq_true, Bool.and_eq_true, decide_eq_true_eq, UInt32.le_iff_toNat_le] at hval
  unfold Char.toLower
  split_ifs with hupper
  · have hlower : (c.val + ('a'.val - 'A'.val)).toNat = (c.val.toNat + 32) % 2 ^ 32 :=
      UInt32.toNat_add _ _
    have hrange : 65 ≤ c.val.toNat ∧ c.val.toNat ≤ 90 := hupper
    change 97 ≤ (c.val + ('a'.val - 'A'.val)).toNat ∧ (c.val + ('a'.val - 'A'.val)).toNat ≤ 122 ∨ _
    omega
  · have hrange : ¬(65 ≤ c.val.toNat ∧ c.val.toNat ≤ 90) := hupper
    have hcases : (65 ≤ c.val.toNat ∧ c.val.toNat ≤ 90 ∨ 97 ≤ c.val.toNat ∧ c.val.toNat ≤ 122) ∨
      48 ≤ c.val.toNat ∧ c.val.toNat ≤ 57 := hval
    change 97 ≤ c.val.toNat ∧ c.val.toNat ≤ 122 ∨ 48 ≤ c.val.toNat ∧ c.val.toNat ≤ 57
    omega

theorem isIdLetter_toLower {c : Char} (h : c.isAlphanum) : IsIdLetter c.toLower ∧ c.toLower ≠ '_' := by
  have hrange := toNat_toLower_range h
  constructor
  · exact hrange.imp_right .inl
  · intro heq
    rw [heq] at hrange
    exact absurd hrange (by decide)

/-- A reversed slug of a name, maybe with underscores at its ends. -/
structure IsDraft (name reversed : List Char) : Prop where
  letters : ∀ c ∈ reversed, IsIdLetter c
  apart : reversed.IsChain Apart
  kept : reversed.filter (· ≠ '_') = (kept name).reverse

theorem IsDraft.slugStep {name reversed : List Char} (h : IsDraft name reversed) (c : Char) :
    IsDraft (name ++ [c]) (slugStep reversed c) := by
  unfold Sensor.slugStep
  split_ifs with hc hlast
  · obtain ⟨hletter, hne⟩ := isIdLetter_toLower hc
    refine ⟨List.forall_mem_cons.mpr ⟨hletter, h.letters⟩, ?_, ?_⟩
    · exact List.isChain_cons.mpr ⟨fun d _ hboth => hne hboth.1, h.apart⟩
    · simpa [Sensor.kept, hc, hne] using h.kept
  · exact ⟨h.letters, h.apart, by simpa [Sensor.kept, hc] using h.kept⟩
  · refine ⟨List.forall_mem_cons.mpr ⟨.inr (.inr rfl), h.letters⟩, ?_, ?_⟩
    · refine List.isChain_cons.mpr ⟨fun d hd hboth => hlast ?_, h.apart⟩
      rw [← hboth.2]
      exact hd
    · simpa [Sensor.kept, hc] using h.kept

theorem isDraft_foldl (name : List Char) : IsDraft name (name.foldl slugStep []) := by
  induction name using List.reverseRecOn with
  | nil => exact ⟨fun _ h => absurd h List.not_mem_nil, List.isChain_nil, rfl⟩
  | append_singleton name c ih =>
    rw [List.foldl_append]
    exact ih.slugStep c

theorem filter_dropWhile_underscore (word : List Char) :
    (word.dropWhile (· == '_')).filter (· ≠ '_') = word.filter (· ≠ '_') := by
  induction word with
  | nil => rfl
  | cons c rest ih =>
    by_cases hc : c = '_'
    · simpa [hc] using ih
    · simp [hc]

theorem head?_dropWhile_underscore (word : List Char) : (word.dropWhile (· == '_')).head? ≠ some '_' := by
  intro h
  have hfirst := List.head?_dropWhile_not (· == '_') word
  rw [h] at hfirst
  exact absurd hfirst (by decide)

theorem getLast?_dropWhile_underscore {word : List Char} (h : word.getLast? ≠ some '_') :
    (word.dropWhile (· == '_')).getLast? ≠ some '_' := by
  intro hlast
  obtain ⟨before, hword⟩ := List.dropWhile_suffix (· == '_') (l := word)
  rw [← hword, List.getLast?_append, hlast] at h
  exact h rfl

/-- Trimming cuts a draft at both ends and takes nothing out of it. -/
theorem exists_reverse_draft_eq (name : List Char) :
    ∃ front back, (name.foldl slugStep []).reverse = front ++ slug name ++ back := by
  obtain ⟨back, hback⟩ := List.dropWhile_suffix (· == '_') (l := name.foldl slugStep [])
  obtain ⟨front, hfront⟩ := List.dropWhile_suffix (· == '_')
    (l := ((name.foldl slugStep []).dropWhile (· == '_')).reverse)
  refine ⟨front, back.reverse, ?_⟩
  calc (name.foldl slugStep []).reverse
    _ = ((name.foldl slugStep []).dropWhile (· == '_')).reverse ++ back.reverse := by
      rw [← List.reverse_append, hback]
    _ = front ++ slug name ++ back.reverse := by rw [slug, hfront]

theorem isSlug_slug {name : List Char} (h : ∃ c ∈ name, c.isAlphanum) :
    IsSlug (slug name) ∧ (slug name).filter (· ≠ '_') = kept name := by
  have hdraft := isDraft_foldl name
  have hkept : (slug name).filter (· ≠ '_') = kept name := by
    rw [slug, filter_dropWhile_underscore, List.filter_reverse, filter_dropWhile_underscore,
      hdraft.kept, List.reverse_reverse]
  have hne : slug name ≠ [] := by
    intro hnil
    obtain ⟨c, hc, hletter⟩ := h
    have hmem : c.toLower ∈ kept name := List.mem_map_of_mem (List.mem_filter.mpr ⟨hc, hletter⟩)
    rw [← hkept, hnil] at hmem
    exact List.not_mem_nil hmem
  obtain ⟨front, back, hparts⟩ := exists_reverse_draft_eq name
  refine ⟨⟨hne, ?_, head?_dropWhile_underscore _, ?_, ?_⟩, hkept⟩
  · intro c hc
    refine hdraft.letters c (List.mem_reverse.mp ?_)
    rw [hparts]
    exact List.mem_append_left _ (List.mem_append_right _ hc)
  · refine getLast?_dropWhile_underscore ?_
    rw [List.getLast?_reverse]
    exact head?_dropWhile_underscore _
  · intro before after hslug
    have hchain : (name.foldl slugStep []).reverse.IsChain Apart :=
      List.isChain_reverse.mpr (hdraft.apart.imp fun _ _ hab hba => hab hba.symm)
    rw [hparts] at hchain
    replace hchain := hchain.left_of_append.right_of_append
    rw [hslug] at hchain
    exact (List.isChain_append_cons_cons.mp hchain).2.1 ⟨rfl, rfl⟩

theorem exists_isAlphanum_name (s : Sensor) : ∃ c ∈ s.name.toList, c.isAlphanum := by
  obtain ⟨first, rest, htitle, hfirst⟩ := exists_title_eq_cons s.kind
  refine ⟨first, ?_, hfirst⟩
  simp [name, htitle]

theorem isEntityId_entityId {s : Sensor} (h : IsSlug (slug s.name.toList)) :
    Device.isEntityId s.entityId := by
  have hletters : "sensor".toList.all Device.isIdChar := by decide
  rw [Device.isEntityId_iff]
  refine ⟨"sensor".toList, slug s.name.toList, ?_, by decide, h.ne_nil, fun c hc => ?_⟩
  · simp [entityId]
  · rcases List.mem_append.mp hc with hc | hc
    · exact Device.isIdChar_iff.mp (List.all_eq_true.mp hletters c hc)
    · exact h.letters c hc

/-- The entity id of a sensor is a slug behind its domain, whatever its client is called. It is in order
and says all that the name says in letters and digits, and no sensor of another kind has it at one
client. -/
theorem entityId_wellFormed (s : Sensor) :
    (∃ word, s.entityId = "sensor." ++ String.ofList word ∧ IsSlug word ∧
      word.filter (· ≠ '_') = (s.name.toList.filter Char.isAlphanum).map Char.toLower) ∧
    Device.isEntityId s.entityId ∧
    ∀ other : Sensor, other.client = s.client → other.kind ≠ s.kind → other.entityId ≠ s.entityId := by
  obtain ⟨hslug, hkept⟩ := isSlug_slug (exists_isAlphanum_name s)
  refine ⟨⟨_, rfl, hslug, hkept⟩, isEntityId_entityId hslug, fun other hclient hkind hsame => ?_⟩
  exact hkind ((entityId_eq_iff hclient).mp hsame)

/-- A client whose name begins and ends with what no slug has. -/
def islandFog : Sensor := .ofKind "__Ærø  -- 7_" .fog

def islandSymbol : Sensor := .ofKind "__Ærø  -- 7_" .symbol

theorem islandFog_wellFormed :
    islandSymbol.client = islandFog.client ∧ islandSymbol.kind ≠ islandFog.kind ∧
      islandFog.entityId = "sensor.r_7_fog" ∧ islandSymbol.entityId ≠ islandFog.entityId ∧
      Device.isEntityId islandFog.entityId := by
  have hkinds : islandSymbol.kind ≠ islandFog.kind := by decide
  obtain ⟨-, hid, hother⟩ := entityId_wellFormed islandFog
  exact ⟨rfl, hkinds, by decide +kernel, hother islandSymbol rfl hkinds, hid⟩

end HomeHub.Sensor
