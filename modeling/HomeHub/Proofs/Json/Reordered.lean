import HomeHub.Proofs.Json.Outline

/-!
# Members in another order

Objects are kept in key order, so outlines that differ in the order of members stand for the same value
as long as those members have different names. At any depth all their texts are read alike.
-/
namespace HomeHub.Json

namespace Outline

/-- Outlines that differ in the order of members, in one object or in several at any depth. -/
inductive Reordered : Outline → Outline → Prop
  | refl (o : Outline) : Reordered o o
  | trans {o o' o'' : Outline} : Reordered o o' → Reordered o' o'' → Reordered o o''
  | members {members members' : List (String × Outline)} : members.Perm members' →
      (members.map Prod.fst).Nodup → Reordered (.object members) (.object members')
  | inItem {before after : List Outline} {o o' : Outline} : Reordered o o' →
      Reordered (.array (before ++ o :: after)) (.array (before ++ o' :: after))
  | inMember {before after : List (String × Outline)} {name : String} {o o' : Outline} :
      Reordered o o' →
      Reordered (.object (before ++ (name, o) :: after)) (.object (before ++ (name, o') :: after))

end Outline

section

variable {α β : Type} {f : α → Option β}

theorem mapM_eq_filterMap (as : List α) :
    as.mapM f = if as.all (fun a => (f a).isSome) then some (as.filterMap f) else none := by
  induction as with
  | nil => rfl
  | cons a as ih =>
    cases ha : f a with
    | none => simp [ha]
    | some b =>
      rw [List.mapM_cons, ih]
      by_cases hall : as.all fun a => (f a).isSome <;> simp [ha, hall]

/-- What is made of all elements depends on their order as far as it is made of a list. -/
theorem map_mapM_eq_of_perm {γ : Type} {g : List β → γ} {as as' : List α} (h : as.Perm as')
    (hg : ∀ bs, (as.filterMap f).Perm bs → g (as.filterMap f) = g bs) :
    (as.mapM f).map g = (as'.mapM f).map g := by
  rw [mapM_eq_filterMap, mapM_eq_filterMap, h.all_eq]
  split_ifs
  · exact congrArg some (hg _ (h.filterMap f))
  · rfl

end

/-- What outlines stand for does not depend on the order of their members. -/
theorem Outline.Reordered.value?_eq {o o' : Outline} (h : Reordered o o') (levels : Nat) :
    o.value? levels = o'.value? levels := by
  induction h generalizing levels with
  | refl o => rfl
  | trans _ _ ih ih' => exact (ih levels).trans (ih' levels)
  | @members members members' hperm hnames =>
    cases levels with
    | zero => rfl
    | succ levels =>
      refine map_mapM_eq_of_perm hperm fun entries hentries => ?_
      -- a name that came twice would have the value of its last member, which the order decides
      have hkeys : ((members.filterMap fun m => (value? levels m.2).map fun v => (m.1, v)).map
          Prod.fst).Nodup := by
        refine List.pairwise_map.mpr (List.Pairwise.filterMap _ (fun m m' hne e he e' he' => ?_)
          (List.pairwise_map.mp hnames))
        obtain ⟨_, -, rfl⟩ := Option.map_eq_some_iff.mp he
        obtain ⟨_, -, rfl⟩ := Option.map_eq_some_iff.mp he'
        exact hne
      rw [SortedMap.ofList_eq_of_perm hentries hkeys]
  | inItem _ ih =>
    cases levels with
    | zero => rfl
    | succ levels => simp [value?, valueWith?, List.mapM_append, ih]
  | inMember _ ih =>
    cases levels with
    | zero => rfl
    | succ levels => simp [value?, valueWith?, List.mapM_append, ih]

/-- Texts whose outlines differ in the order of members are read as the same value, or refused both. -/
theorem Outline.Reordered.read_eq_ok_iff {o o' : Outline} (h : Reordered o o') {text text' : String}
    (htext : o.HasText text) (htext' : o'.HasText text') {j : Json} :
    Json.read text = .ok j ↔ Json.read text' = .ok j := by
  rw [htext.read_eq_ok_iff, htext'.read_eq_ok_iff, h.value?_eq]

end HomeHub.Json
