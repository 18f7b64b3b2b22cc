import HomeHub.Forecast.Selection

/-!
# The nearest entry

Ranked entries stand in strictly ascending order of score and position. The first of them that has a
variable is therefore the least of all that have it, and a selection can be told without any sorting.
-/
namespace HomeHub.Forecast

/-- The distances of an entry's ends from a target, in whole milliseconds each, added up. -/
def endDistance (entry : Entry) (target : Instant) : Nat :=
  (entry.validTo.nanosSince target).natAbs / 1000000 +
    (entry.validFrom.nanosSince target).natAbs / 1000000

theorem distanceScore_eq_endDistance (entry : Entry) (target : Instant) :
    distanceScore entry target = endDistance entry target := by
  have hmillis (t : Instant) :
      (t.millisSince target).natAbs = (t.nanosSince target).natAbs / 1000000 :=
    Int.natAbs_tdiv _ _
  simp only [distanceScore, endDistance, hmillis, Int.natCast_add]

def Ranked.Before (a b : Ranked) : Prop :=
  a.score < b.score ∨ (a.score = b.score ∧ a.position < b.position)

def noWorse (a b : Ranked) : Bool := decide (a.score ≤ b.score)

theorem noWorse_trans (a b c : Ranked) (hab : noWorse a b) (hbc : noWorse b c) : noWorse a c := by
  simp only [noWorse, decide_eq_true_eq] at *
  omega

theorem noWorse_total (a b : Ranked) : noWorse a b || noWorse b a := by
  simp only [noWorse, Bool.or_eq_true, decide_eq_true_eq]
  omega

/-- The entries that end after now in document order, with their scores. -/
def scored (document : Document) (now target : Instant) : List Ranked :=
  (document.entries.zipIdx.filter fun (entry, _) => decide (now < entry.validTo)).map
    fun (entry, position) => ⟨distanceScore entry target, position, entry⟩

theorem rank_eq_mergeSort (document : Document) (now target : Instant) :
    rank document now target = (scored document now target).mergeSort noWorse := rfl

theorem mem_rank {document : Document} {now target : Instant} {r : Ranked} :
    r ∈ rank document now target ↔ document.entries[r.position]? = some r.entry ∧
      now < r.entry.validTo ∧ r.score = distanceScore r.entry target := by
  obtain ⟨score, position, entry⟩ := r
  simp only [rank_eq_mergeSort, List.mem_mergeSort, scored, List.mem_map, List.mem_filter,
    Prod.exists, List.mem_zipIdx_iff_getElem?, decide_eq_true_eq, Ranked.mk.injEq]
  constructor
  · rintro ⟨e, i, ⟨hi, hnow⟩, rfl, rfl, rfl⟩
    exact ⟨hi, hnow, rfl⟩
  · rintro ⟨hi, hnow, rfl⟩
    exact ⟨entry, position, ⟨hi, hnow⟩, rfl, rfl, rfl⟩

theorem mem_rank_of_getElem? {document : Document} {now : Instant} (target : Instant) {position : Nat}
    {entry : Entry} (h : document.entries[position]? = some entry) (hnow : now < entry.validTo) :
    ⟨distanceScore entry target, position, entry⟩ ∈ rank document now target :=
  mem_rank.mpr ⟨h, hnow, rfl⟩

theorem pairwise_zipIdx (entries : List Entry) (start : Nat) :
    (entries.zipIdx start).Pairwise fun a b => a.2 < b.2 := by
  induction entries generalizing start with
  | nil => simp
  | cons entry rest ih =>
    rw [List.zipIdx_cons, List.pairwise_cons]
    exact ⟨fun b hb => List.le_snd_of_mem_zipIdx hb, ih (start + 1)⟩

theorem pairwise_position_scored (document : Document) (now target : Instant) :
    (scored document now target).Pairwise fun a b => a.position < b.position := by
  rw [scored, List.pairwise_map]
  exact (pairwise_zipIdx document.entries 0).filter _

theorem pairwise_score_rank (document : Document) (now target : Instant) :
    (rank document now target).Pairwise fun a b => a.score ≤ b.score := by
  have h := List.pairwise_mergeSort noWorse_trans noWorse_total (scored document now target)
  exact h.imp fun hab => of_decide_eq_true hab

/-- Sorting is stable: entries of one score keep document order. -/
theorem filter_score_rank (document : Document) (now target : Instant) (score : Int) :
    (rank document now target).filter (fun r => r.score = score) =
      (scored document now target).filter fun r => r.score = score := by
  let same := (scored document now target).filter fun r => decide (r.score = score)
  have hsame : same.Pairwise fun a b => noWorse a b = true := by
    refine List.pairwise_of_forall_mem_list fun a ha b hb => ?_
    have ha := (List.mem_filter.mp ha).2
    have hb := (List.mem_filter.mp hb).2
    simp only [decide_eq_true_eq] at ha hb
    simp [noWorse, ha, hb]
  have hsub : same.Sublist (rank document now target) :=
    List.sublist_mergeSort noWorse_trans noWorse_total hsame List.filter_sublist
  have hperm : (rank document now target).Perm (scored document now target) :=
    List.mergeSort_perm _ _
  have hlen := (hperm.filter fun r => decide (r.score = score)).length_eq
  have hfilter := hsub.filter fun r => decide (r.score = score)
  rw [show same.filter (fun r => decide (r.score = score)) = same by simp [same]] at hfilter
  exact (hfilter.eq_of_length hlen.symm).symm

/-- The ranked entries ascend strictly, by score and then by position. -/
theorem pairwise_before_rank (document : Document) (now target : Instant) :
    (rank document now target).Pairwise Ranked.Before := by
  refine List.pairwise_of_forall_sublist fun {a b} hab => ?_
  have hle := (pairwise_score_rank document now target).forall_sublist hab
  rcases Int.lt_or_eq_of_le hle with hlt | heq
  · exact Or.inl hlt
  · refine Or.inr ⟨heq, ?_⟩
    have h := hab.filter fun r => decide (r.score = b.score)
    rw [filter_score_rank] at h
    simp only [heq, decide_true, List.filter_cons_of_pos, List.filter_nil] at h
    exact ((pairwise_position_scored document now target).filter _).forall_sublist h

theorem rank_eq_nil_iff {document : Document} {now target : Instant} :
    rank document now target = [] ↔ ∀ entry ∈ document.entries, entry.validTo ≤ now := by
  constructor
  · intro h entry he
    obtain ⟨i, hi⟩ := List.getElem?_of_mem he
    rw [← Instant.not_lt]
    intro hlt
    have hr := mem_rank_of_getElem? target hi hlt
    rw [h] at hr
    exact List.not_mem_nil hr
  · intro h
    refine List.eq_nil_iff_forall_not_mem.mpr fun r hr => ?_
    obtain ⟨hi, hlt, -⟩ := mem_rank.mp hr
    exact Instant.not_lt.mpr (h r.entry (List.mem_of_getElem? hi)) hlt

/-- An entry that ends after now and has a variable, with its position in the document. -/
structure IsCandidate (document : Document) (now : Instant) (key : String) (position : Nat)
    (entry : Entry) : Prop where
  placed : document.entries[position]? = some entry
  retained : now < entry.validTo
  carries : (entry.conditions.get? key).isSome

/-- The candidate that is least by distance of its ends, and then by position. -/
structure IsNearest (document : Document) (now target : Instant) (key : String) (position : Nat)
    (entry : Entry) : Prop extends IsCandidate document now key position entry where
  least {otherPosition : Nat} {other : Entry} :
    IsCandidate document now key otherPosition other →
      endDistance entry target < endDistance other target ∨
        (endDistance entry target = endDistance other target ∧ position ≤ otherPosition)

/-- What a sensor reads: what its kind extracts from the nearest entry that has its variable, be it
nothing, and nothing if there is no such entry. -/
inductive IsReading (document : Document) (now target : Instant) (kind : SensorKind) :
    Option Reading → Prop
  | nearest {position : Nat} {entry : Entry} {v : Variable} :
    IsNearest document now target kind.key position entry →
      entry.conditions.get? kind.key = some v →
      IsReading document now target kind (kind.extract v)
  | absent :
    (∀ position entry, ¬IsCandidate document now kind.key position entry) →
      IsReading document now target kind none

theorem IsNearest.unique {document : Document} {now target : Instant} {key : String}
    {i j : Nat} {a b : Entry} (ha : IsNearest document now target key i a)
    (hb : IsNearest document now target key j b) : a = b := by
  have hij : i = j := by
    have h₁ := ha.least hb.toIsCandidate
    have h₂ := hb.least ha.toIsCandidate
    omega
  subst hij
  exact Option.some.inj (ha.placed.symm.trans hb.placed)

theorem IsReading.unique {document : Document} {now target : Instant} {kind : SensorKind}
    {a b : Option Reading} (ha : IsReading document now target kind a)
    (hb : IsReading document now target kind b) : a = b := by
  cases ha with
  | nearest hna hva =>
    cases hb with
    | nearest hnb hvb =>
      rw [hna.unique hnb] at hva
      rw [Option.some.inj (hva.symm.trans hvb)]
    | absent hnone => exact (hnone _ _ hna.toIsCandidate).elim
  | absent hnone =>
    cases hb with
    | nearest hnb _ => exact (hnone _ _ hnb.toIsCandidate).elim
    | absent _ => rfl

theorem isCandidate_of_mem_rank {document : Document} {now target : Instant} {key : String}
    {r : Ranked} {v : Variable} (hr : r ∈ rank document now target)
    (hv : r.entry.conditions.get? key = some v) :
    IsCandidate document now key r.position r.entry := by
  obtain ⟨hi, hnow, -⟩ := mem_rank.mp hr
  exact ⟨hi, hnow, by simp [hv]⟩

/-- The first ranked entry that has a variable is the nearest one that has it. -/
theorem isNearest_of_findSome? {document : Document} {now target : Instant} {key : String}
    {v : Variable}
    (h : (rank document now target).findSome? (fun r => r.entry.conditions.get? key) = some v) :
    ∃ position entry, IsNearest document now target key position entry ∧
      entry.conditions.get? key = some v := by
  obtain ⟨before, r, after, hrank, hv, hbefore⟩ := List.findSome?_eq_some_iff.mp h
  have hr : r ∈ rank document now target := by simp [hrank]
  refine ⟨r.position, r.entry, ⟨isCandidate_of_mem_rank hr hv, ?_⟩, hv⟩
  intro j other hc
  let o : Ranked := ⟨distanceScore other target, j, other⟩
  have ho : o ∈ rank document now target := mem_rank_of_getElem? target hc.placed hc.retained
  have hscore : r.score = endDistance r.entry target :=
    (mem_rank.mp hr).2.2.trans (distanceScore_eq_endDistance _ _)
  have hoscore : o.score = endDistance other target := distanceScore_eq_endDistance _ _
  rw [hrank, List.mem_append, List.mem_cons] at ho
  rcases ho with hmem | heq | hmem
  · have hsome := hc.carries
    rw [show other.conditions.get? key = none from hbefore o hmem] at hsome
    simp at hsome
  · subst heq
    exact Or.inr ⟨rfl, Nat.le_refl _⟩
  · have hpair := pairwise_before_rank document now target
    rw [hrank, List.pairwise_append, List.pairwise_cons] at hpair
    have hlt : r.Before o := hpair.2.1.1 o hmem
    have hpos : o.position = j := rfl
    unfold Ranked.Before at hlt
    omega

theorem isReading_selectReading (document : Document) (now target : Instant) (kind : SensorKind) :
    IsReading document now target kind (selectReading (rank document now target) kind) := by
  unfold selectReading
  cases h : (rank document now target).findSome? fun r => r.entry.conditions.get? kind.key with
  | some v =>
    obtain ⟨position, entry, hnear, hv⟩ := isNearest_of_findSome? h
    exact .nearest hnear hv
  | none =>
    refine .absent fun position entry hc => ?_
    have hr := mem_rank_of_getElem? target hc.placed hc.retained
    have hnone := List.findSome?_eq_none_iff.mp h _ hr
    have hsome := hc.carries
    rw [hnone] at hsome
    simp at hsome

theorem map_fst_select {document : Document} {now target : Instant} {kinds : List SensorKind}
    (h : rank document now target ≠ []) :
    (select document now target kinds).map Prod.fst = SensorKind.all.filter kinds.contains := by
  simp [select, h, Function.comp_def]

theorem mem_select {document : Document} {now target : Instant} {kinds : List SensorKind}
    {kind : SensorKind} {reading : Option Reading}
    (h : (kind, reading) ∈ select document now target kinds) :
    reading = selectReading (rank document now target) kind := by
  simp only [select] at h
  split at h
  · simp at h
  · obtain ⟨k, -, hk⟩ := List.mem_map.mp h
    injection hk with h₁ h₂
    rw [← h₂, h₁]

theorem select_eq_nil_iff {document : Document} {now target : Instant} {kinds : List SensorKind} :
    select document now target kinds = [] ↔ kinds = [] ∨ rank document now target = [] := by
  by_cases h : rank document now target = []
  · simp [select, h]
  · rw [← List.map_eq_nil_iff (f := Prod.fst), map_fst_select h, List.filter_eq_nil_iff]
    simp only [h, or_false, List.contains_iff_mem]
    constructor
    · intro hall
      refine List.eq_nil_iff_forall_not_mem.mpr fun kind hk => ?_
      exact hall kind (SensorKind.mem_all kind) hk
    · rintro rfl kind _
      exact List.not_mem_nil

/-- A selection is empty exactly when nothing is asked for or every entry is over. Otherwise it has
each kind that is asked for once, and gives it the reading of the nearest entry that has its variable. -/
theorem select_nearest (document : Document) (now target : Instant) (kinds : List SensorKind) :
    (select document now target kinds = [] ↔
      kinds = [] ∨ ∀ entry ∈ document.entries, entry.validTo ≤ now) ∧
    ((select document now target kinds).map Prod.fst).Nodup ∧
    (select document now target kinds ≠ [] → ∀ kind,
      (kind ∈ (select document now target kinds).map Prod.fst ↔ kind ∈ kinds) ∧
      ∀ reading, (kind, reading) ∈ select document now target kinds ↔
        kind ∈ kinds ∧ IsReading document now target kind reading) := by
  have hkeys (hne : select document now target kinds ≠ []) (kind : SensorKind) :
      kind ∈ (select document now target kinds).map Prod.fst ↔ kind ∈ kinds := by
    have hrank : rank document now target ≠ [] := fun h => hne (select_eq_nil_iff.mpr (.inr h))
    simp [map_fst_select hrank, List.mem_filter, SensorKind.mem_all]
  refine ⟨select_eq_nil_iff.trans (or_congr_right rank_eq_nil_iff), ?_, fun hne kind =>
    ⟨hkeys hne kind, fun reading => ⟨fun h => ?_, fun ⟨hk, hr⟩ => ?_⟩⟩⟩
  · by_cases h : rank document now target = []
    · simp [select, h]
    · rw [map_fst_select h]
      exact List.Nodup.sublist List.filter_sublist (by decide)
  · refine ⟨(hkeys hne kind).mp (List.mem_map_of_mem h), ?_⟩
    rw [mem_select h]
    exact isReading_selectReading document now target kind
  · obtain ⟨⟨k, selected⟩, hmem, rfl⟩ := List.mem_map.mp ((hkeys hne kind).mpr hk)
    have hsel := isReading_selectReading document now target k
    rw [← mem_select hmem] at hsel
    rwa [hr.unique hsel]

end HomeHub.Forecast
