import HomeHub.Proofs.Refresh.Update

/-!
# Refreshers and the responses they were given

After any run of updates the forecast is that of the last response that has one, and the next run is
known exactly when that was the last response of all.
-/
namespace HomeHub

namespace Feed

def afterFetches (f : Feed) : Nat → Feed
  | 0 => f
  | n + 1 => (f.afterFetches n).fetch.2

/-- The responses that a feed gives to its first fetches, in order. -/
def given (f : Feed) : Nat → List Response
  | 0 => []
  | n + 1 => f.given n ++ [(f.afterFetches n).fetch.1]

theorem fst_fetch (f : Feed) :
    f.fetch.1 = f.pending.head?.getD (.error (.transport "no more responses")) := by
  unfold fetch
  split <;> simp [*]

theorem pending_fetch (f : Feed) : f.fetch.2.pending = f.pending.tail := by
  unfold fetch
  split <;> simp [*]

theorem pending_afterFetches (responses : List Response) (n : Nat) :
    ((ofList responses).afterFetches n).pending = responses.drop n := by
  induction n with
  | zero => rfl
  | succ n ih => rw [afterFetches, pending_fetch, ih, List.tail_drop]

theorem given_ofList (responses : List Response) (n : Nat) :
    (ofList responses).given n = (List.range n).map fun k =>
      responses[k]?.getD (.error (.transport "no more responses")) := by
  induction n with
  | zero => rfl
  | succ n ih =>
    rw [given, ih, fst_fetch, pending_afterFetches, List.head?_drop, List.range_succ, List.map_append]
    rfl

end Feed

def forecastOf : Response → Option Forecast.Document
  | .ok text => (Forecast.Document.read text).toOption
  | .error _ => none

theorem forecastOf_eq_some_iff {response : Response} {document : Forecast.Document} :
    forecastOf response = some document ↔
      ∃ text, response = .ok text ∧ Forecast.Document.read text = .ok document := by
  cases response with
  | error fault => simp [forecastOf]
  | ok text => cases hread : Forecast.Document.read text <;> simp [forecastOf, hread, Except.toOption]

theorem forecastOf_eq_none_iff {response : Response} :
    forecastOf response = none ↔
      ∀ text document, response = .ok text → Forecast.Document.read text ≠ .ok document := by
  simp only [Option.eq_none_iff_forall_ne_some, ne_eq, forecastOf_eq_some_iff]
  constructor
  · intro h text document hresponse hread
    exact h document ⟨text, hresponse, hread⟩
  · rintro h document ⟨text, hresponse, hread⟩
    exact h text document hresponse hread

namespace Refresher

theorem toOption_readResponse (response : Response) :
    (readResponse response).toOption = forecastOf response := by
  cases response with
  | error fault => rfl
  | ok text =>
    rw [readResponse, forecastOf]
    cases Forecast.Document.read text <;> rfl

theorem readResponse_eq_ok_iff {response : Response} {document : Forecast.Document} :
    readResponse response = .ok document ↔ forecastOf response = some document := by
  rw [← toOption_readResponse]
  cases readResponse response <;> simp [Except.toOption]

theorem exists_readResponse_eq_error_iff {response : Response} :
    (∃ fault, readResponse response = .error fault) ↔ forecastOf response = none := by
  rw [← toOption_readResponse]
  cases readResponse response <;> simp [Except.toOption]

end Refresher

/-- The forecast of the last response that has one. -/
def lastForecast (fetched : List Response) : Option Forecast.Document :=
  fetched.reverse.findSome? forecastOf

theorem lastForecast_append_singleton (fetched : List Response) (response : Response) :
    lastForecast (fetched ++ [response]) = (forecastOf response).or (lastForecast fetched) := by
  cases h : forecastOf response <;> simp [lastForecast, h]

/-- The next run that the last response of all tells. -/
def lastNextRun (fetched : List Response) : Option Instant :=
  (fetched.getLast?.bind forecastOf).map Forecast.Document.nextRun

theorem lastNextRun_append_singleton (fetched : List Response) (response : Response) :
    lastNextRun (fetched ++ [response]) =
      (forecastOf response).map Forecast.Document.nextRun := by
  rw [lastNextRun, List.getLast?_concat, Option.bind_some]

theorem lastForecast_of_getLast? {fetched : List Response} {response : Response}
    {document : Forecast.Document} (hlast : fetched.getLast? = some response)
    (hresponse : forecastOf response = some document) : lastForecast fetched = some document := by
  obtain ⟨before, rfl⟩ := List.getLast?_eq_some_iff.mp hlast
  rw [lastForecast_append_singleton, hresponse]
  rfl

namespace FedRefresher

/-- A refresher holds what the responses say that its feed, once `source`, has given so far. -/
structure Recorded (source : Feed) (r : FedRefresher) : Prop where
  feed : r.feed = source.afterFetches r.feed.fetches
  document : r.refresher.document = lastForecast (source.given r.feed.fetches)
  nextRun : r.refresher.nextRun = lastNextRun (source.given r.feed.fetches)

theorem recorded_ofSensors (hours : Int) (sensors : List Sensor) (responses : List Response) :
    Recorded (.ofList responses) (ofSensors hours sensors responses) :=
  ⟨rfl, rfl, rfl⟩

theorem Recorded.given_succ {source : Feed} {r : FedRefresher} (h : r.Recorded source) :
    source.given (r.feed.fetches + 1) = source.given r.feed.fetches ++ [r.feed.fetch.1] := by
  rw [Feed.given, ← h.feed]

theorem Recorded.afterFetches_succ {source : Feed} {r : FedRefresher} (h : r.Recorded source) :
    r.feed.fetch.2 = source.afterFetches r.feed.fetch.2.fetches := by
  rw [Feed.fetches_fetch, Feed.afterFetches, ← h.feed]

theorem Recorded.updates {source : Feed} {r : FedRefresher} (h : r.Recorded source) {now : Instant}
    {result : FedRefresher × RefreshOutcome × List SensorUpdate} (hu : r.Updates now result) :
    result.1.Recorded source := by
  cases hu with
  | held _ =>
    refine ⟨h.feed, ?_, ?_⟩
    · rw [Refresher.document_selectHeld]
      exact h.document
    · rw [Refresher.nextRun_selectHeld]
      exact h.nextRun
  | @fetched document _ hr =>
    have hforecast : forecastOf r.feed.fetch.1 = some document :=
      Refresher.readResponse_eq_ok_iff.mp hr
    refine ⟨h.afterFetches_succ, ?_, ?_⟩
    · rw [Refresher.document_selectHeld, Feed.fetches_fetch, h.given_succ,
        lastForecast_append_singleton, hforecast]
      rfl
    · rw [Refresher.nextRun_selectHeld, Feed.fetches_fetch, h.given_succ,
        lastNextRun_append_singleton, hforecast]
      rfl
  | @failed fault _ hr =>
    have hforecast : forecastOf r.feed.fetch.1 = none :=
      Refresher.exists_readResponse_eq_error_iff.mp ⟨fault, hr⟩
    refine ⟨h.afterFetches_succ, ?_, ?_⟩
    · rw [Feed.fetches_fetch, h.given_succ, lastForecast_append_singleton, hforecast, Option.none_or,
        ← h.document]
      rfl
    · rw [Feed.fetches_fetch, h.given_succ, lastNextRun_append_singleton, hforecast]
      rfl

theorem Recorded.run {source : Feed} {r : FedRefresher} (h : r.Recorded source)
    (nows : List Instant) : (r.run nows).Recorded source := by
  induction nows generalizing r with
  | nil => exact h
  | cons now rest ih => exact ih (h.updates (r.updates_update now))

/-- The next run is known exactly when the last response of all has a forecast, which is then held. -/
theorem Recorded.nextRun_eq_some_iff {source : Feed} {r : FedRefresher} (h : r.Recorded source)
    {t : Instant} : r.refresher.nextRun = some t ↔ ∃ text document,
      (source.given r.feed.fetches).getLast? = some (.ok text) ∧
      Forecast.Document.read text = .ok document ∧ r.refresher.document = some document ∧
      document.nextRun = t := by
  rw [h.nextRun, h.document, lastNextRun]
  constructor
  · intro ht
    obtain ⟨document, hbind, rfl⟩ := Option.map_eq_some_iff.mp ht
    obtain ⟨response, hlast, hresponse⟩ := Option.bind_eq_some_iff.mp hbind
    obtain ⟨text, rfl, hread⟩ := forecastOf_eq_some_iff.mp hresponse
    exact ⟨text, document, hlast, hread, lastForecast_of_getLast? hlast hresponse, rfl⟩
  · rintro ⟨text, document, hlast, hread, -, rfl⟩
    rw [hlast, Option.bind_some, forecastOf_eq_some_iff.mpr ⟨text, rfl, hread⟩]
    rfl

theorem Recorded.document_isSome {source : Feed} {r : FedRefresher} (h : r.Recorded source)
    {now : Instant} (hn : ¬r.refresher.needsFetch now) : r.refresher.document ≠ none := by
  intro hnone
  rw [Refresher.needsFetch_iff] at hn
  obtain ⟨t, ht⟩ := Option.ne_none_iff_exists'.mp fun hnext => hn (Or.inl hnext)
  obtain ⟨-, document, -, -, hdocument, -⟩ := h.nextRun_eq_some_iff.mp ht
  rw [hnone] at hdocument
  cases hdocument

/-- What holds of an update after any run. The responses are given in their order, and the forecast is
that of the last one that has one. The next run is known exactly when the last response of all has a
forecast. The feed is asked once if no next run is known or it has come, and else not at all. A failure
keeps forecast and sensors, publishes nothing, forgets the next run, and asks for the retry. No update
ends well without a forecast. -/
theorem update_after_run (hours : Int) (sensors : List Sensor) (responses : List Response)
    (nows : List Instant) (now : Instant) :
    let source := Feed.ofList responses
    let before := (ofSensors hours sensors responses).run nows
    let after := (before.update now).1
    let outcome := (before.update now).2.1
    let updates := (before.update now).2.2
    let asks := before.refresher.nextRun = none ∨ ∃ t, before.refresher.nextRun = some t ∧ t ≤ now
    (∀ n, source.given n = (List.range n).map fun k =>
      responses[k]?.getD (.error (.transport "no more responses"))) ∧
    after.refresher.document = lastForecast (source.given after.feed.fetches) ∧
    (∀ t, after.refresher.nextRun = some t ↔ ∃ text document,
      (source.given after.feed.fetches).getLast? = some (.ok text) ∧
      Forecast.Document.read text = .ok document ∧ after.refresher.document = some document ∧
      document.nextRun = t) ∧
    ((asks → after.feed = before.feed.fetch.2 ∧ after.feed.fetches = before.feed.fetches + 1) ∧
      (¬asks → after.feed = before.feed)) ∧
    (asks → (∀ text document, before.feed.fetch.1 = .ok text →
        Forecast.Document.read text ≠ .ok document) →
      after.refresher = { before.refresher with nextRun := none } ∧ updates = [] ∧
      outcome = match retryAt now with
        | some t => .retryScheduled t
        | none => .retryDropped) ∧
    (after.refresher.document = none → ∀ changed, outcome ≠ .updated changed) := by
  intro source before after outcome updates asks
  have hbefore : before.Recorded source := (recorded_ofSensors hours sensors responses).run nows
  have hu : before.Updates now (before.update now) := before.updates_update now
  have hafter : after.Recorded source := hbefore.updates hu
  have hasks : before.refresher.needsFetch now ↔ asks := Refresher.needsFetch_iff
  refine ⟨Feed.given_ofList responses, hafter.document, fun t => hafter.nextRun_eq_some_iff,
    ⟨fun hn => ?_, fun hn => ?_⟩, ?_, ?_⟩
  · have hfeed : after.feed = before.feed.fetch.2 := hu.feed_of_needsFetch (hasks.mpr hn)
    exact ⟨hfeed, by rw [hfeed, Feed.fetches_fetch]⟩
  · exact hu.feed_of_not_needsFetch (mt hasks.mp hn)
  · intro hn hunread
    obtain ⟨fault, hr⟩ :=
      Refresher.exists_readResponse_eq_error_iff.mpr (forecastOf_eq_none_iff.mpr hunread)
    have hfail := hu.eq_of_error (hasks.mpr hn) hr
    exact ⟨congrArg (·.1.refresher) hfail, congrArg (·.2.2) hfail, congrArg (·.2.1) hfail⟩
  · intro hnone changed houtcome
    obtain ⟨document, hdocument⟩ := hu.document_of_updated hbefore.document_isSome houtcome
    rw [show after.refresher.document = some document from hdocument] at hnone
    cases hnone

/-- A forecast of no entries, to be fetched again at six in the morning. -/
def bareForecast : String :=
  "<weatherdata><meta><model nextrun='2026-01-01T06:00:00Z'/></meta><product/></weatherdata>"

def bareDocument : Forecast.Document := ⟨.ofSecond 1767247200, []⟩

theorem forecastOf_bareForecast : forecastOf (.ok bareForecast) = some bareDocument := by
  decide +kernel

def bareResponses : List Response := [.ok bareForecast, .error (.timeout 10)]

/-- The forecast that is fetched at midnight is kept when the next fetch fails at six. -/
theorem bareForecast_kept :
    let before := (ofSensors 0 [.ofKind "yr" .fog] bareResponses).run [.ofSecond 1767225600]
    let after := (before.update (.ofSecond 1767247200)).1
    (before.refresher.document = some bareDocument ∧
      before.refresher.nextRun = some (.ofSecond 1767247200) ∧ before.feed.fetches = 1) ∧
    (after.refresher.document = some bareDocument ∧ after.refresher.nextRun = none ∧
      after.refresher.sensors = before.refresher.sensors ∧ after.feed.fetches = 2) ∧
    (before.update (.ofSecond 1767247200)).2 = (.retryScheduled (.ofSecond 1767248100), []) := by
  intro before after
  obtain ⟨text, htext, hread⟩ := forecastOf_eq_some_iff.mp forecastOf_bareForecast
  obtain ⟨hgiven, hdocument, hnext, ⟨hasked, -⟩, -, -⟩ :=
    update_after_run 0 [.ofKind "yr" .fog] bareResponses [] (.ofSecond 1767225600)
  obtain ⟨hfeed, hfetches⟩ := hasked (Or.inl rfl)
  have hone : before.feed.fetches = 1 := hfetches
  have hfirst : (Feed.ofList bareResponses).given before.feed.fetches = [.ok bareForecast] := by
    rw [hone, hgiven]
    rfl
  have hheld : before.refresher.document = some bareDocument := by
    refine hdocument.trans ?_
    change lastForecast ((Feed.ofList bareResponses).given before.feed.fetches) = _
    rw [hfirst]
    exact lastForecast_of_getLast? rfl forecastOf_bareForecast
  have hdue : before.refresher.nextRun = some (.ofSecond 1767247200) := by
    refine (hnext _).mpr ⟨text, bareDocument, ?_, hread, hheld, rfl⟩
    change ((Feed.ofList bareResponses).given before.feed.fetches).getLast? = _
    rw [hfirst, ← htext]
    rfl
  obtain ⟨-, -, -, ⟨hasked', -⟩, hfailed, -⟩ :=
    update_after_run 0 [.ofKind "yr" .fog] bareResponses [.ofSecond 1767225600] (.ofSecond 1767247200)
  have hasks : before.refresher.nextRun = none ∨
      ∃ t, before.refresher.nextRun = some t ∧ t ≤ .ofSecond 1767247200 :=
    Or.inr ⟨_, hdue, by decide⟩
  have hsecond : before.feed.fetch.1 = .error (.timeout 10) := by
    rw [show before.feed = _ from hfeed]
    rfl
  obtain ⟨hafter, hupdates, houtcome⟩ := hfailed hasks fun text document htext => by
    cases hsecond.symm.trans htext
  have hkept : after.refresher = { before.refresher with nextRun := none } := hafter
  have htwo : after.feed.fetches = before.feed.fetches + 1 := (hasked' hasks).2
  refine ⟨⟨hheld, hdue, hone⟩, ⟨?_, ?_, ?_, ?_⟩, Prod.ext houtcome hupdates⟩
  · rw [hkept]
    exact hheld
  · rw [hkept]
  · rw [hkept]
  · rw [htwo, hone]

end FedRefresher

end HomeHub
