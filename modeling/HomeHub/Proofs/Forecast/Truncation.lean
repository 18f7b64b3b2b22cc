import HomeHub.Proofs.Forecast.AcceptedText
import HomeHub.Proofs.Forecast.WrittenDocument
import HomeHub.Proofs.Markup.Unclosed
import HomeHub.Refresh.Refresher

/-!
# Truncated forecasts

A forecast that is cut before its end is refused: inside of a tag by what reads the tags, and between tags
at the end of the assembly, which finds an element open or none begun.
-/
namespace HomeHub.Forecast
open Markup

theorem Document.not_isRefused_forest {document : Document} (h : document.IsWritable) :
    ¬IsRefused document.forest := by
  obtain ⟨root, head, product, helements, hroot, -, hproduct⟩ := document.elements_forest
  exact not_isRefused_of_isSound (fun p => isSound_of_mem_elements h)
    ⟨root, by simp [helements], decide_eq_true hroot.1⟩
    ⟨product, by simp [helements], decide_eq_true hproduct⟩ (isDocumentOf_forest h)

theorem Document.exists_write_forest {document : Document} (h : document.IsWritable)
    (selfClosing : Bool) : ∃ text, document.forest.write selfClosing = text ++ ['>'] ∧
      IsUnclosed (plainTag "weatherdata") document.parts text := by
  obtain ⟨hroot, hparts, -⟩ := allTags_forest h
  refine ⟨_, ?_, .intro (.stray List.not_mem_nil) hroot.isTagText hroot.noSlash
    (Forest.hasText_write hparts selfClosing) hroot.isClosedBy_name⟩
  simp [forest, parts, Forest.write, Tag.opening, Tag.closing]

theorem exists_foldlM_of_isPrefix {before events : List Event} (hbefore : before <+: events)
    {a c : Assembly} (h : events.foldlM Assembly.step a = .ok c) :
    ∃ b, before.foldlM Assembly.step a = .ok b := by
  obtain ⟨after, rfl⟩ := hbefore
  rw [List.foldlM_append] at h
  obtain ⟨b, hrun, -⟩ := bind_eq_ok_iff.mp h
  exact ⟨b, hrun⟩

/-- How a text is refused that stops too early: inside of a tag, or before its root has begun, or with
elements left open. -/
def cutFault (tags : Events) : DocumentFault :=
  match tags.fault with
  | some fault => .text fault
  | none => if tags.events = [] then .noRoot else .unfinished

theorem Assembly.finish_of_path_ne {a : Assembly} (h : a.path ≠ []) :
    a.finish = .error .unfinished := by
  simp [finish, h]

theorem Document.read_eq_cutFault {text : String} {a : Assembly}
    (hrun : (Events.ofText text.toList).events.foldlM Assembly.step .start = .ok a)
    (hopen : (Events.ofText text.toList).events = [] ∨
      (Events.ofText text.toList).events.foldl openBehind [] ≠ []) :
    Document.read text = .error (cutFault (Events.ofText text.toList)) := by
  unfold Document.read
  generalize Events.ofText text.toList = tags at hrun hopen ⊢
  obtain ⟨events, fault⟩ := tags
  dsimp only at hrun hopen ⊢
  cases fault with
  | some fault =>
    rw [hrun]
    rfl
  | none =>
    rcases hopen with rfl | hopen
    · rfl
    · have hpath : a.path = (events.foldl openBehind []).map String.ofList :=
        Assembly.path_run hrun rfl
      have hne : events ≠ [] := fun hnil => hopen (by rw [hnil]; rfl)
      have hfinish : a.finish = .error .unfinished :=
        Assembly.finish_of_path_ne (by rw [hpath]; exact mt List.map_eq_nil_iff.mp hopen)
      rw [hrun, cutFault, if_neg hne]
      exact hfinish

/-- A text that is accepted and ends in the end tag of its only root is refused when any of its end is
missing. -/
theorem Document.read_of_isPrefix {tag : Tag} {inside : Forest} {text : List Char}
    (h : IsUnclosed tag inside text) {document : Document}
    (haccepted : Document.read (String.ofList (text ++ ['>'])) = .ok document) {cut : String}
    (hcut : cut.toList <+: text) :
    Document.read cut = .error (cutFault (Events.ofText cut.toList)) := by
  obtain ⟨events, htext, hassemble⟩ := read_eq_ok_iff.mp haccepted
  have hprefix : (Events.ofText cut.toList).events <+: events := by
    obtain ⟨more, hmore⟩ := hcut.trans (List.prefix_append text ['>'])
    have hevents := eventsFrom_isPrefix [] cut.toList more
    rwa [hmore, ← Forest.ofText_eq, ← Forest.ofText_eq, ← String.toList_ofList (l := text ++ ['>']),
      htext] at hevents
  obtain ⟨c, hall, -⟩ := bind_eq_ok_iff.mp hassemble
  obtain ⟨a, hrun⟩ := exists_foldlM_of_isPrefix hprefix hall
  exact read_eq_cutFault hrun (h.events_of_isPrefix hcut)

/-- However much of the end of a written forecast is missing, it is refused. -/
theorem Document.read_truncated {document : Document} (h : document.IsWritable) (selfClosing : Bool)
    {cut : String} (hcut : cut.toList <+: (document.render selfClosing).toList)
    (hne : cut ≠ document.render selfClosing) :
    Document.read cut = .error (cutFault (Events.ofText cut.toList)) ∧
      Refresher.readResponse (.ok cut) =
        .error (.content (cutFault (Events.ofText cut.toList)).message) := by
  obtain ⟨text, hwrite, hunclosed⟩ := exists_write_forest h selfClosing
  have haccepted : Document.read (String.ofList (text ++ ['>'])) = .ok document := by
    rw [← hwrite, read_eq_ok_iff_exists_forest, String.toList_ofList]
    exact ⟨document.forest, Forest.hasText_write (allTags_forest h) selfClosing,
      not_isRefused_forest h, isDocumentOf_forest h⟩
  have hproper : cut.toList <+: text := by
    rw [render, String.toList_ofList, hwrite, List.prefix_concat_iff] at hcut
    refine hcut.resolve_left fun heq => hne ?_
    rw [render, hwrite, ← heq, String.ofList_toList]
  have hread := read_of_isPrefix hunclosed haccepted hproper
  refine ⟨hread, ?_⟩
  rw [Refresher.readResponse, hread]
  rfl

def calmForecast : Document := ⟨.ofSecond 3600, []⟩

/-- The first cut is inside of an attribute value, the second one in front of the last end tag. -/
theorem calmForecast_truncated :
    let start := "<weatherdata><meta><model nextrun=\"1970-01"
    let more := "-01T01:00:00Z\"/></meta><product/>"
    calmForecast.IsWritable ∧ calmForecast.render true = start ++ more ++ "</weatherdata>" ∧
      Document.read start = .error (.text .openTag) ∧
      Document.read (start ++ more) = .error .unfinished := by
  intro start more
  have hwritable : calmForecast.IsWritable := by
    refine ⟨by decide +kernel, ?_⟩
    simp [calmForecast]
  have hrender : calmForecast.render true = start ++ more ++ "</weatherdata>" := by decide +kernel
  have hread (cut : String) (hcut : cut.toList <+: (start ++ more ++ "</weatherdata>").toList)
      (hne : cut ≠ start ++ more ++ "</weatherdata>") :
      Document.read cut = .error (cutFault (Events.ofText cut.toList)) := by
    rw [← hrender] at hcut hne
    exact (Document.read_truncated hwritable true hcut hne).1
  refine ⟨hwritable, hrender, (hread start ?_ (by decide +kernel)).trans (by decide +kernel),
    (hread (start ++ more) ?_ (by decide +kernel)).trans (by decide +kernel)⟩
  · simp only [String.toList_append, List.append_assoc, List.prefix_append]
  · simp only [String.toList_append, List.prefix_append]

end HomeHub.Forecast
