import HomeHub.Sensor.Basic
import Mathlib.Data.List.Nodup

/-!
# Entity ids of sensors

The slug of a sensor's name is a stem, which the client alone determines, followed by the slug of the
kind's title. Sensors of one client therefore have one entity id only if they have one kind.
-/
namespace HomeHub.Sensor

theorem slugStep_of_isAlphanum {c : Char} (h : c.isAlphanum) (before : List Char) :
    slugStep before c = c.toLower :: before := by
  rw [slugStep, if_pos h]

theorem slugStep_ne_nil {taken : List Char} (h : taken ≠ []) (c : Char) : slugStep taken c ≠ [] := by
  unfold slugStep
  split
  · simp
  · split <;> simp [h]

theorem slugStep_append {taken : List Char} (h : taken ≠ []) (before : List Char) (c : Char) :
    slugStep (taken ++ before) c = slugStep taken c ++ before := by
  obtain ⟨last, rest, rfl⟩ := List.exists_cons_of_ne_nil h
  unfold slugStep
  rw [List.cons_append, List.head?_cons, List.head?_cons]
  split
  · rfl
  · split <;> rfl

/-- Once a slug has a character, what stands before it no longer matters. -/
theorem foldl_slugStep_append {taken : List Char} (h : taken ≠ []) (before name : List Char) :
    name.foldl slugStep (taken ++ before) = name.foldl slugStep taken ++ before := by
  induction name generalizing taken with
  | nil => rfl
  | cons c rest ih =>
    rw [List.foldl_cons, List.foldl_cons, slugStep_append h, ih (slugStep_ne_nil h c)]

/-- The reversed slug of a title. -/
def titleSlug (kind : SensorKind) : List Char := kind.title.toList.foldl slugStep []

theorem exists_title_eq_cons (kind : SensorKind) :
    ∃ first rest, kind.title.toList = first :: rest ∧ first.isAlphanum := by
  cases kind <;> exact ⟨_, _, rfl, rfl⟩

/-- A title begins with a letter, so its slug is added to any other as it is. -/
theorem foldl_slugStep_title (before : List Char) (kind : SensorKind) :
    kind.title.toList.foldl slugStep before = titleSlug kind ++ before := by
  obtain ⟨first, rest, htitle, hfirst⟩ := exists_title_eq_cons kind
  have hadd : ∀ taken : List Char,
      kind.title.toList.foldl slugStep taken = rest.foldl slugStep (first.toLower :: taken) := by
    intro taken
    rw [htitle, List.foldl_cons, slugStep_of_isAlphanum hfirst]
  rw [titleSlug, hadd, hadd, ← foldl_slugStep_append (List.cons_ne_nil _ _)]
  rfl

theorem dropWhile_titleSlug (kind : SensorKind) :
    (titleSlug kind).dropWhile (· == '_') = titleSlug kind := by
  cases kind <;> rfl

theorem dropWhile_reverse_titleSlug (kind : SensorKind) :
    (titleSlug kind).reverse.dropWhile (· == '_') = (titleSlug kind).reverse := by
  cases kind <;> rfl

theorem titleSlug_injective : Function.Injective titleSlug := by
  intro a b h
  have hnodup : (SensorKind.all.map titleSlug).Nodup := by decide
  exact List.inj_on_of_nodup_map hnodup (SensorKind.mem_all a) (SensorKind.mem_all b) h

/-- What a slug has of the client and the blank behind it. -/
def stem (client : String) : List Char :=
  ((client.toList ++ [' ']).foldl slugStep []).reverse.dropWhile (· == '_')

theorem titleSlug_ne_nil (kind : SensorKind) : titleSlug kind ≠ [] := by
  cases kind <;> exact List.cons_ne_nil _ _

theorem slug_name (s : Sensor) :
    slug s.name.toList = stem s.client ++ (titleSlug s.kind).reverse := by
  have hname : s.name.toList = (s.client.toList ++ [' ']) ++ s.kind.title.toList := by
    simp [name]
  have hslug := dropWhile_titleSlug s.kind
  have hreverse := dropWhile_reverse_titleSlug s.kind
  have hne : (titleSlug s.kind).isEmpty = false := by simp [titleSlug_ne_nil]
  unfold slug stem
  dsimp only
  rw [hname, List.foldl_append, foldl_slugStep_title, List.dropWhile_append, hslug, hne,
    if_neg Bool.false_ne_true, List.reverse_append, List.dropWhile_append]
  split
  · rename_i hstem
    rw [hreverse, List.isEmpty_iff.mp hstem, List.nil_append]
  · rfl

theorem entityId_eq_iff {a b : Sensor} (hclient : a.client = b.client) :
    a.entityId = b.entityId ↔ a.kind = b.kind := by
  constructor
  · intro h
    have hslug : slug a.name.toList = slug b.name.toList := by
      have hlist := congrArg String.toList h
      simpa [entityId] using hlist
    rw [slug_name, slug_name, hclient] at hslug
    exact titleSlug_injective (List.reverse_inj.mp (List.append_cancel_left hslug))
  · intro hkind
    rw [entityId, entityId, name, name, hclient, hkind]

end HomeHub.Sensor
