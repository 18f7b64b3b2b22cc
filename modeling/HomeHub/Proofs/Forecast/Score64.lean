import HomeHub.Proofs.Forecast.Nearest
import HomeHub.Proofs.Time.Span

/-!
# Scores in 64 bits

Targets, scores and rankings as they are computed in 64 bits, with no result where a step overflows. For
instants in the years that are kept no step does, and the results are those of unbounded numbers.
-/
namespace HomeHub.Forecast

structure Entry.IsRepresentable (entry : Entry) : Prop where
  validFrom : entry.validFrom.isRepresentable
  validTo : entry.validTo.isRepresentable

/-- The instant so many hours from now, or now itself if the hours are no span or lead out of the years
that are kept. -/
def targetInstant64 (hours : Int64) (now : Instant) : Option Instant :=
  match Span.ofHours? hours with
  | none => some now
  | some span => (now.addSpan64 span).map fun target => if target.isRepresentable then target else now

/-- The distances of both ends from the target, in whole milliseconds each, added up. -/
def distanceScore64 (entry : Entry) (target : Instant) : Option Int64 := do
  let toEnd ← checkedAbs64 (← entry.validTo.spanSince? target).millis
  let toStart ← checkedAbs64 (← entry.validFrom.spanSince? target).millis
  checkedAdd64 toEnd toStart

structure Ranked64 where
  score : Int64
  position : Nat
  entry : Entry
  deriving DecidableEq, Repr

def Ranked64.toRanked (r : Ranked64) : Ranked := ⟨r.score.toInt, r.position, r.entry⟩

def noWorse64 (a b : Ranked64) : Bool := decide (a.score ≤ b.score)

def scored64 (target : Instant) (retained : List (Entry × Nat)) : Option (List Ranked64) :=
  retained.mapM fun (entry, position) =>
    (distanceScore64 entry target).map fun score => ⟨score, position, entry⟩

/-- The entries that end after now, best first by their scores in 64 bits. -/
def rank64 (document : Document) (now target : Instant) : Option (List Ranked64) :=
  let retained := document.entries.zipIdx.filter fun (entry, _) => decide (now < entry.validTo)
  (scored64 target retained).map fun scored => scored.mergeSort noWorse64

variable {now target : Instant} {entry : Entry}

/-- Hours are a span where their milliseconds fit in 64 bits. -/
theorem natAbs_hours_le_iff (hours : Int) : (hours * 3600000000000).natAbs ≤ longestSpan * 1000000 ↔
    ((hours * 3600000).natAbs : Int) ≤ offsetLimit := by
  unfold longestSpan offsetLimit
  omega

theorem targetInstant64_eq (hnow : now.isRepresentable) (hours : Int64) :
    targetInstant64 hours now = some (targetInstant hours.toInt now) := by
  by_cases hspan : (hours.toInt * 3600000000000).natAbs ≤ longestSpan * 1000000
  · have hhours : Span.ofHours? hours = some ⟨hours.toInt * 3600000000000, hspan⟩ :=
      (Span.ofHours?_eq hours).trans (dif_pos hspan)
    have hoffset := (natAbs_hours_le_iff hours.toInt).mp hspan
    simp only [targetInstant64, targetInstant, hhours, Instant.addSpan64_hours hnow hspan,
      Option.map_some, hoffset, true_and]
  · have hhours : Span.ofHours? hours = none := (Span.ofHours?_eq hours).trans (dif_neg hspan)
    have hoffset := mt (natAbs_hours_le_iff hours.toInt).mpr hspan
    simp only [targetInstant64, targetInstant, hhours, hoffset, false_and, if_false]

theorem isRepresentable_targetInstant (hnow : now.isRepresentable) (hours : Int) :
    (targetInstant hours now).isRepresentable := by
  simp only [targetInstant]
  split
  · next h => exact h.2
  · exact hnow

/-- What is computed for a score is in the range of 64 bits at every step. -/
structure ScoreFits (entry : Entry) (target : Instant) : Prop where
  endMillis : IsSigned64 (entry.validTo.millisSince target)
  startMillis : IsSigned64 (entry.validFrom.millisSince target)
  endMagnitude : IsSigned64 (entry.validTo.millisSince target).natAbs
  startMagnitude : IsSigned64 (entry.validFrom.millisSince target).natAbs
  sum : IsSigned64 (distanceScore entry target)

section

variable (hentry : entry.IsRepresentable) (htarget : target.isRepresentable)

include hentry htarget

theorem scoreFits : ScoreFits entry target := by
  have hend := Instant.natAbs_millisSince_lt_calendar hentry.validTo htarget
  have hstart := Instant.natAbs_millisSince_lt_calendar hentry.validFrom htarget
  constructor <;> simp only [IsSigned64, distanceScore] <;> omega

theorem exists_distanceScore64 : ∃ score, distanceScore64 entry target = some score ∧
    score.toInt = distanceScore entry target := by
  have hfits := scoreFits hentry htarget
  obtain ⟨toEnd, hend, hendMillis⟩ := Instant.exists_spanSince? hentry.validTo htarget
  obtain ⟨toStart, hstart, hstartMillis⟩ := Instant.exists_spanSince? hentry.validFrom htarget
  obtain ⟨endMagnitude, hendMagnitude⟩ := exists_toInt_eq hfits.endMagnitude
  obtain ⟨startMagnitude, hstartMagnitude⟩ := exists_toInt_eq hfits.startMagnitude
  obtain ⟨score, hscore⟩ := exists_toInt_eq hfits.sum
  have hendAbs : checkedAbs64 toEnd.millis = some endMagnitude :=
    checkedAbs64_eq_some_iff.mpr (hendMagnitude.trans (by rw [hendMillis]))
  have hstartAbs : checkedAbs64 toStart.millis = some startMagnitude :=
    checkedAbs64_eq_some_iff.mpr (hstartMagnitude.trans (by rw [hstartMillis]))
  have hsum : checkedAdd64 endMagnitude startMagnitude = some score := by
    rw [checkedAdd64_eq_some_iff, hscore, hendMagnitude, hstartMagnitude]
    rfl
  refine ⟨score, ?_, hscore⟩
  simp only [distanceScore64, hend, hstart, Option.bind_eq_bind, Option.bind_some, hendAbs, hstartAbs,
    hsum]

end

theorem exists_scored64 (htarget : target.isRepresentable) (retained : List (Entry × Nat))
    (h : ∀ placed ∈ retained, placed.1.IsRepresentable) :
    ∃ scored, scored64 target retained = some scored ∧ scored.map Ranked64.toRanked =
      retained.map fun (entry, position) => ⟨distanceScore entry target, position, entry⟩ := by
  induction retained with
  | nil => exact ⟨[], rfl, rfl⟩
  | cons placed rest ih =>
    obtain ⟨scored, hscored, hmap⟩ := ih fun p hp => h p (List.mem_cons_of_mem placed hp)
    obtain ⟨score, hscore, hvalue⟩ := exists_distanceScore64 (h placed List.mem_cons_self) htarget
    refine ⟨⟨score, placed.2, placed.1⟩ :: scored, ?_, ?_⟩
    · unfold scored64 at hscored ⊢
      simp [List.mapM_cons, hscore, hscored]
    · rw [List.map_cons, List.map_cons, hmap, Ranked64.toRanked, hvalue]

theorem noWorse64_eq (a b : Ranked64) : noWorse64 a b = noWorse a.toRanked b.toRanked :=
  decide_eq_decide.mpr Int64.le_iff_toInt_le

theorem exists_rank64 {document : Document} (h : ∀ entry ∈ document.entries, entry.IsRepresentable)
    (now : Instant) (htarget : target.isRepresentable) :
    ∃ ranked, rank64 document now target = some ranked ∧
      ranked.map Ranked64.toRanked = rank document now target := by
  obtain ⟨scored, hscored, hmap⟩ := exists_scored64 htarget
    (document.entries.zipIdx.filter fun (entry, _) => decide (now < entry.validTo))
    fun placed hplaced => h _ (List.fst_mem_of_mem_zipIdx (List.mem_filter.mp hplaced).1)
  refine ⟨scored.mergeSort noWorse64, ?_, ?_⟩
  · simp only [rank64, hscored, Option.map_some]
  · rw [List.map_mergeSort fun a _ b _ => noWorse64_eq a b, hmap]
    rfl

/-- The order by distance and then by position, told without any bounds. -/
theorem pairwise_endDistance {document : Document} {ranked : List Ranked64}
    (h : ranked.map Ranked64.toRanked = rank document now target) :
    ranked.Pairwise fun first later =>
      endDistance first.entry target < endDistance later.entry target ∨
        (endDistance first.entry target = endDistance later.entry target ∧
          first.position < later.position) := by
  have hscore : ∀ r ∈ ranked, r.toRanked.score = endDistance r.entry target := by
    intro r hr
    have hmem : r.toRanked ∈ rank document now target := h ▸ List.mem_map_of_mem hr
    exact (mem_rank.mp hmem).2.2.trans (distanceScore_eq_endDistance _ _)
  have hbefore := pairwise_before_rank document now target
  rw [← h, List.pairwise_map] at hbefore
  refine hbefore.imp_of_mem fun {first later} hfirst hlater hlt => ?_
  have hpositions : first.toRanked.position = first.position ∧
      later.toRanked.position = later.position := ⟨rfl, rfl⟩
  have hfirst := hscore first hfirst
  have hlater := hscore later hlater
  unfold Ranked.Before at hlt
  omega

/-- In the years -262143 to 262142 nothing overflows 64 bits: any number of hours has a target in those
years, every step to a score fits, and entries are ranked by the sums of unbounded numbers, and then by
their positions. -/
theorem rank64_by_distance (hours : Int64) {now : Instant} (hnow : now.isRepresentable) :
    (∀ t : Instant, t.isRepresentable ↔ -262143 ≤ t.date.year ∧ t.date.year ≤ 262142) ∧
    (targetInstant64 hours now = some (targetInstant hours.toInt now) ∧
      (targetInstant hours.toInt now).isRepresentable) ∧
    ∀ target : Instant, target.isRepresentable →
      (∀ entry : Entry, entry.IsRepresentable → ScoreFits entry target ∧
        ∃ score, distanceScore64 entry target = some score ∧
          score.toInt = distanceScore entry target) ∧
      ∀ document : Document, (∀ entry ∈ document.entries, entry.IsRepresentable) →
        ∃ ranked, rank64 document now target = some ranked ∧
          ranked.map Ranked64.toRanked = rank document now target ∧
          ranked.Pairwise fun first later =>
            endDistance first.entry target < endDistance later.entry target ∨
              (endDistance first.entry target = endDistance later.entry target ∧
                first.position < later.position) := by
  refine ⟨fun _ => Instant.isRepresentable_iff_year, ⟨targetInstant64_eq hnow hours,
    isRepresentable_targetInstant hnow hours.toInt⟩, fun target htarget =>
      ⟨fun entry hentry => ?_, fun document hentries => ?_⟩⟩
  · exact ⟨scoreFits hentry htarget, exists_distanceScore64 hentry htarget⟩
  · obtain ⟨ranked, hranked, hmap⟩ := exists_rank64 hentries now htarget
    exact ⟨ranked, hranked, hmap, pairwise_endDistance hmap⟩

/-- The first instant that is kept, and the last one, in a leap second. -/
def firstMoment : Instant := .ofSecond (-8334601228800)

def lastMoment : Instant := ⟨8210266876799, 1999999999, by decide⟩

/-- All the years that are kept, and nothing but their end. -/
def allTime : Entry := ⟨firstMoment, lastMoment, .empty⟩

def endOfTime : Entry := ⟨lastMoment, lastMoment, .empty⟩

/-- From the first instant the ends of that last entry are as far away as they can be. An offset of more
hours than a span has leaves the target there. -/
theorem endOfTime_ranked :
    (firstMoment.isRepresentable ∧ firstMoment.date = ⟨-262143, 1, 1⟩ ∧
      lastMoment.isLeap ∧ lastMoment.date = ⟨262142, 12, 31⟩ ∧
      ∀ entry ∈ [endOfTime, allTime], entry.IsRepresentable) ∧
    targetInstant64 (Int64.maxValue / 3600) firstMoment = some firstMoment ∧
    ScoreFits endOfTime firstMoment ∧
    distanceScore64 endOfTime firstMoment = some 33089736211201998 ∧
    ∃ ranked, rank64 ⟨firstMoment, [endOfTime, allTime]⟩ firstMoment firstMoment = some ranked ∧
      ranked.map Ranked64.toRanked =
        [⟨16544868105600999, 1, allTime⟩, ⟨33089736211201998, 0, endOfTime⟩] := by
  have hfirst : firstMoment.isRepresentable := by decide
  have hend : endOfTime.IsRepresentable := ⟨by decide, by decide⟩
  have hall : allTime.IsRepresentable := ⟨by decide, by decide⟩
  have hentries : ∀ entry ∈ [endOfTime, allTime], entry.IsRepresentable := by
    intro entry hentry
    simp only [List.mem_cons, List.not_mem_nil, or_false] at hentry
    rcases hentry with rfl | rfl
    · exact hend
    · exact hall
  obtain ⟨-, ⟨htarget, -⟩, hrest⟩ := rank64_by_distance (Int64.maxValue / 3600) hfirst
  have hnow : targetInstant (Int64.maxValue / 3600).toInt firstMoment = firstMoment := by decide
  obtain ⟨hscores, hranks⟩ := hrest firstMoment hfirst
  obtain ⟨hfits, score, hscore, hvalue⟩ := hscores endOfTime hend
  have hlargest : score = 33089736211201998 :=
    Int64.toInt_inj.mp (hvalue.trans (by decide))
  obtain ⟨ranked, hranked, hmap, -⟩ := hranks ⟨firstMoment, [endOfTime, allTime]⟩ hentries
  have hscored : scored ⟨firstMoment, [endOfTime, allTime]⟩ firstMoment firstMoment =
      [⟨33089736211201998, 0, endOfTime⟩, ⟨16544868105600999, 1, allTime⟩] := by decide
  have horder : rank ⟨firstMoment, [endOfTime, allTime]⟩ firstMoment firstMoment =
      [⟨16544868105600999, 1, allTime⟩, ⟨33089736211201998, 0, endOfTime⟩] := by
    rw [rank_eq_mergeSort, hscored]
    simp [List.mergeSort, noWorse]
  exact ⟨⟨hfirst, by decide, by decide, by decide, hentries⟩, hnow ▸ htarget, hfits,
    hlargest ▸ hscore, ranked, hranked, hmap.trans horder⟩

end HomeHub.Forecast
