import HomeHub.Proofs.Forecast.ForestDocument
import HomeHub.Proofs.Markup.WrittenForest
import HomeHub.Proofs.Time.Timestamp

/-!
# Written forecasts

A forecast as a text: its next run in a model, then one product with a time element for each entry,
whose one location has an element for each variable. A written forecast is read back to the document,
every attribute text included.
-/
namespace HomeHub.Forecast
open Markup

def writeInstant (t : Instant) : String := String.ofList (Timestamp.write t)

def plainTag (name : String) : Tag := .write name.toList []

def modelTag (nextRun : Instant) : Tag :=
  .write "model".toList [("nextrun", writeInstant nextRun)]

def timeTag (entry : Entry) : Tag :=
  .write "time".toList
    [("from", writeInstant entry.validFrom), ("to", writeInstant entry.validTo)]

def variableTag (v : String × Variable) : Tag := .write v.1.toList v.2.entries

def variableForest : List (String × Variable) → Forest
  | [] => .nil
  | v :: rest => .cons (variableTag v) .nil (variableForest rest)

def locationForest (entry : Entry) : Forest :=
  .cons (plainTag "location") (variableForest entry.conditions.entries) .nil

def entryForest : List Entry → Forest
  | [] => .nil
  | entry :: rest => .cons (timeTag entry) (locationForest entry) (entryForest rest)

namespace Document

def parts (document : Document) : Forest :=
  .cons (plainTag "meta") (.cons (modelTag document.nextRun) .nil .nil)
    (.cons (plainTag "product") (entryForest document.entries) .nil)

def forest (document : Document) : Forest := .cons (plainTag "weatherdata") document.parts .nil

/-- The text of a forecast; elements with nothing inside are empty tags or not. -/
def render (selfClosing : Bool) (document : Document) : String :=
  String.ofList (document.forest.write selfClosing)

end Document

structure Entry.IsWritable (entry : Entry) : Prop where
  validFrom : Timestamp.HasPlainYear entry.validFrom
  validTo : Timestamp.HasPlainYear entry.validTo
  names : ∀ v ∈ entry.conditions.entries, isXmlName v.1.toList
  attributes : ∀ v ∈ entry.conditions.entries, ∀ a ∈ v.2.entries, isXmlName a.1.toList

/-- Instants lie in years of four digits, and variables and attributes have XML names. -/
structure Document.IsWritable (document : Document) : Prop where
  nextRun : Timestamp.HasPlainYear document.nextRun
  entries : ∀ entry ∈ document.entries, entry.IsWritable

theorem areAttributes_entries {v : Variable} (h : ∀ a ∈ v.entries, isXmlName a.1.toList) :
    AreAttributes v.entries := by
  refine ⟨h, v.inOrder.imp ?_⟩
  rintro a b hlt heq
  rw [heq] at hlt
  exact compare_self_ne_lt b.1 hlt

theorem attributes_variableTag {v : String × Variable} (hname : isXmlName v.1.toList)
    (h : ∀ a ∈ v.2.entries, isXmlName a.1.toList) : (variableTag v).attributes = .ok v.2 := by
  rw [variableTag, Tag.attributes_write hname _ (areAttributes_entries h), SortedMap.ofList_entries]

theorem read_writeInstant {t : Instant} (h : Timestamp.HasPlainYear t) :
    Timestamp.read (writeInstant t).toList = .ok t := by
  rw [writeInstant, String.toList_ofList, Timestamp.read_write h]

theorem hasTimestamp_modelTag {t : Instant} (h : Timestamp.HasPlainYear t) :
    HasTimestamp (modelTag t) "nextrun" t := by
  have hattributes : AreAttributes [("nextrun", writeInstant t)] :=
    ⟨by simp; decide, List.pairwise_singleton _ _⟩
  have hread := Tag.attributes_write (show isXmlName "model".toList by decide) _ hattributes
  exact ⟨_, _, hread, by simp [SortedMap.ofList], read_writeInstant h⟩

theorem hasTimestamp_timeTag {entry : Entry} (h : entry.IsWritable) :
    HasTimestamp (timeTag entry) "from" entry.validFrom ∧
      HasTimestamp (timeTag entry) "to" entry.validTo := by
  have hattributes : AreAttributes
      [("from", writeInstant entry.validFrom), ("to", writeInstant entry.validTo)] :=
    ⟨by simp; decide, by simp⟩
  have hread := Tag.attributes_write (show isXmlName "time".toList by decide) _ hattributes
  refine ⟨⟨_, _, hread, ?_, read_writeInstant h.validFrom⟩,
    ⟨_, _, hread, ?_, read_writeInstant h.validTo⟩⟩ <;>
  simp [SortedMap.ofList, SortedMap.get?_insert]

theorem isPlain_plainTag {name : String} (h : isXmlName name.toList) : (plainTag name).IsPlain :=
  Tag.isPlain_write h fun _ ha => absurd ha List.not_mem_nil

theorem allTags_variableForest {vs : List (String × Variable)}
    (hnames : ∀ v ∈ vs, isXmlName v.1.toList)
    (hattributes : ∀ v ∈ vs, ∀ a ∈ v.2.entries, isXmlName a.1.toList) :
    (variableForest vs).AllTags Tag.IsPlain := by
  induction vs with
  | nil => trivial
  | cons v rest ih =>
    have htag : (variableTag v).IsPlain :=
      Tag.isPlain_write (hnames v List.mem_cons_self) (hattributes v List.mem_cons_self)
    exact ⟨htag, trivial, ih (fun u hu => hnames u (List.mem_cons_of_mem v hu))
      fun u hu => hattributes u (List.mem_cons_of_mem v hu)⟩

theorem allTags_entryForest {entries : List Entry} (h : ∀ entry ∈ entries, entry.IsWritable) :
    (entryForest entries).AllTags Tag.IsPlain := by
  induction entries with
  | nil => trivial
  | cons entry rest ih =>
    have hentry := h entry List.mem_cons_self
    have htime : (timeTag entry).IsPlain :=
      Tag.isPlain_write (show isXmlName "time".toList by decide) (by simp; decide)
    exact ⟨htime,
      ⟨isPlain_plainTag (by decide), allTags_variableForest hentry.names hentry.attributes, trivial⟩,
      ih fun other ho => h other (List.mem_cons_of_mem entry ho)⟩

theorem Document.allTags_forest {document : Document} (h : document.IsWritable) :
    document.forest.AllTags Tag.IsPlain := by
  have hmodel : (modelTag document.nextRun).IsPlain :=
    Tag.isPlain_write (show isXmlName "model".toList by decide) (by simp; decide)
  exact ⟨isPlain_plainTag (by decide),
    ⟨isPlain_plainTag (by decide), ⟨hmodel, trivial, trivial⟩,
      isPlain_plainTag (by decide), allTags_entryForest h.entries, trivial⟩, trivial⟩

def timeElement (entry : Entry) : Element :=
  ⟨["weatherdata", "product"], timeTag entry, locationForest entry⟩

def locationElement (entry : Entry) : Element :=
  ⟨["weatherdata", "product", "time"], plainTag "location",
    variableForest entry.conditions.entries⟩

def variableElement (v : String × Variable) : Element :=
  ⟨["weatherdata", "product", "time", "location"], variableTag v, .nil⟩

theorem elements_variableForest (vs : List (String × Variable)) :
    (variableForest vs).elements ["weatherdata", "product", "time", "location"] =
      vs.map variableElement := by
  induction vs with
  | nil => rfl
  | cons v rest ih => simp [variableForest, Forest.elements, ih, variableElement]

theorem name_write {name : String} (h : isXmlName name.toList)
    (attributes : List (String × String)) :
    String.ofList (Tag.write name.toList attributes).name = name := by
  rw [Tag.name_write h, String.ofList_toList]

theorem below_timeElement (entry : Entry) : (timeElement entry).below =
    locationElement entry :: entry.conditions.entries.map variableElement := by
  have htime : (timeElement entry).name = "time" := name_write (by decide) _
  have hlocation : String.ofList (plainTag "location").name = "location" := name_write (by decide) _
  rw [Element.below, htime]
  simp only [timeElement, locationForest, Forest.elements, hlocation, List.cons_append,
    List.nil_append, List.append_nil, elements_variableForest]
  rfl

theorem elements_entryForest (entries : List Entry) :
    (entryForest entries).elements ["weatherdata", "product"] =
      entries.flatMap fun entry => timeElement entry :: (timeElement entry).below := by
  induction entries with
  | nil => rfl
  | cons entry rest ih =>
    rw [entryForest, Forest.elements, ih, List.flatMap_cons]
    rfl

def modelElement (nextRun : Instant) : Element :=
  ⟨["weatherdata", "meta"], modelTag nextRun, .nil⟩

theorem Document.elements_forest (document : Document) : ∃ root head product : Element,
    document.forest.elements [] = root :: head :: modelElement document.nextRun :: product ::
      document.entries.flatMap (fun entry => timeElement entry :: (timeElement entry).below) ∧
    (root.around = [] ∧ root.name = "weatherdata") ∧
    (head.around = ["weatherdata"] ∧ head.name = "meta") ∧
    (product.around = ["weatherdata"] ∧ product.name = "product") := by
  have hroot : String.ofList (plainTag "weatherdata").name = "weatherdata" := name_write (by decide) _
  have hhead : String.ofList (plainTag "meta").name = "meta" := name_write (by decide) _
  have hproduct : String.ofList (plainTag "product").name = "product" := name_write (by decide) _
  refine ⟨⟨[], plainTag "weatherdata", document.parts⟩,
    ⟨["weatherdata"], plainTag "meta", .cons (modelTag document.nextRun) .nil .nil⟩,
    ⟨["weatherdata"], plainTag "product", entryForest document.entries⟩, ?_,
    ⟨rfl, hroot⟩, ⟨rfl, hhead⟩, rfl, hproduct⟩
  simp only [forest, parts, Forest.elements, hroot, hhead, hproduct, List.nil_append, List.cons_append,
    List.append_nil, elements_entryForest]
  rfl

/-- Nothing is asked of an element where no attribute is read. -/
theorem isSound_of_around {p : Element} (hname : isRoot p → p.name = "weatherdata")
    (haround : p.around ≠ ["weatherdata", "product", "time", "location"])
    (hmodel : ¬isModel p) (htime : ¬isTime p) : IsSound p :=
  ⟨hname, fun h => absurd h hmodel, fun h => absurd h htime, fun h => absurd h htime,
    fun h => absurd (of_decide_eq_true h) haround⟩

theorem isSound_modelElement {t : Instant} (h : Timestamp.HasPlainYear t) :
    IsSound (modelElement t) := by
  have htag : (modelElement t).tag = modelTag t := rfl
  refine ⟨fun h => ?_, fun _ => ⟨t, hasTimestamp_modelTag h⟩, fun h => ?_, fun h => ?_, fun h => ?_⟩ <;>
    simp [isRoot, isTime, isVariable, modelElement] at h

theorem isSound_timeElement {entry : Entry} (h : entry.IsWritable) :
    IsSound (timeElement entry) := by
  obtain ⟨hfrom, hto⟩ := hasTimestamp_timeTag h
  refine ⟨fun h => ?_, fun h => ?_, fun _ => ⟨_, hfrom⟩, fun _ => ⟨_, hto⟩, fun h => ?_⟩ <;>
    simp [isRoot, isModel, isVariable, timeElement] at h

theorem isSound_variableElement {v : String × Variable} (hname : isXmlName v.1.toList)
    (h : ∀ a ∈ v.2.entries, isXmlName a.1.toList) : IsSound (variableElement v) := by
  refine ⟨fun h => ?_, fun h => ?_, fun h => ?_, fun h => ?_,
    fun _ => ⟨_, attributes_variableTag hname h⟩⟩ <;>
    simp [isRoot, isModel, isTime, variableElement] at h

theorem isSound_of_mem_below {entry : Entry} (h : entry.IsWritable) {p : Element}
    (hp : p ∈ (timeElement entry).below) : IsSound p := by
  rw [below_timeElement, List.mem_cons, List.mem_map] at hp
  rcases hp with rfl | ⟨v, hv, rfl⟩
  · refine isSound_of_around ?_ ?_ ?_ ?_ <;> simp [locationElement, isRoot, isModel, isTime]
  · exact isSound_variableElement (h.names v hv) (h.attributes v hv)

theorem Document.isSound_of_mem_elements {document : Document} (h : document.IsWritable)
    {p : Element} (hp : p ∈ document.forest.elements []) : IsSound p := by
  obtain ⟨root, head, product, helements, hroot, hhead, hproduct⟩ := document.elements_forest
  rw [helements] at hp
  simp only [List.mem_cons, List.mem_flatMap] at hp
  rcases hp with rfl | rfl | rfl | rfl | ⟨entry, hentry, rfl | hbelow⟩
  · refine isSound_of_around (fun _ => hroot.2) ?_ ?_ ?_ <;> simp [hroot, isModel, isTime]
  · refine isSound_of_around ?_ ?_ ?_ ?_ <;> simp [hhead, isRoot, isModel, isTime]
  · exact isSound_modelElement h.nextRun
  · refine isSound_of_around ?_ ?_ ?_ ?_ <;> simp [hproduct, isRoot, isModel, isTime]
  · exact isSound_timeElement (h.entries entry hentry)
  · exact isSound_of_mem_below (h.entries entry hentry) hbelow

theorem find?_variableElement {vs : List (String × Variable)}
    (hnames : ∀ v ∈ vs, isXmlName v.1.toList)
    (hattributes : ∀ v ∈ vs, ∀ a ∈ v.2.entries, isXmlName a.1.toList) (name : String) :
    ((vs.map variableElement).find? fun p => p.name = name).bind
      (fun p => p.tag.attributes.toOption) = lookupEntry name vs := by
  induction vs with
  | nil => rfl
  | cons v rest ih =>
    obtain ⟨key, value⟩ := v
    have hkey : (variableElement (key, value)).name = key := name_write (hnames _ List.mem_cons_self) _
    have hread : (variableElement (key, value)).tag.attributes = .ok value :=
      attributes_variableTag (hnames _ List.mem_cons_self) (hattributes _ List.mem_cons_self)
    have hrest := ih (fun u hu => hnames u (List.mem_cons_of_mem _ hu))
      fun u hu => hattributes u (List.mem_cons_of_mem _ hu)
    rw [List.map_cons, lookupEntry]
    by_cases hname : key = name
    · subst hname
      simp [hkey, hread, Except.toOption]
    · have hcompare : compare name key ≠ .eq := fun heq =>
        hname (Std.LawfulEqCmp.eq_of_compare heq).symm
      rw [List.find?_cons_of_neg (by simpa [hkey] using hname), hrest, if_neg hcompare]

theorem isEntryOf_timeElement {entry : Entry} (h : entry.IsWritable) :
    IsEntryOf (timeElement entry) entry := by
  obtain ⟨hfrom, hto⟩ := hasTimestamp_timeTag h
  refine ⟨hfrom, hto, fun name => ?_⟩
  have hvariables : (timeElement entry).below.filter isVariable =
      entry.conditions.entries.map variableElement := by
    rw [below_timeElement, List.filter_cons_of_neg (by simp [isVariable, locationElement]),
      List.filter_eq_self]
    intro p hp
    obtain ⟨v, -, rfl⟩ := List.mem_map.mp hp
    rfl
  rw [hvariables, find?_variableElement h.names h.attributes]
  rfl

theorem filter_isTime_flatMap (entries : List Entry) :
    (entries.flatMap fun entry => timeElement entry :: (timeElement entry).below).filter isTime =
      entries.map timeElement := by
  induction entries with
  | nil => rfl
  | cons entry rest ih =>
    have htime : isTime (timeElement entry) := decide_eq_true ⟨rfl, name_write (by decide) _⟩
    rw [List.flatMap_cons, List.filter_append, List.filter_cons_of_pos htime,
      Assembly.filter_isTime_below htime, ih]
    rfl

theorem Document.isDocumentOf_forest {document : Document} (h : document.IsWritable) :
    IsDocumentOf document.forest document := by
  obtain ⟨root, head, product, helements, hroot, hhead, hproduct⟩ := document.elements_forest
  have hmodel : isModel (modelElement document.nextRun) :=
    decide_eq_true ⟨rfl, name_write (by decide) _⟩
  refine ⟨⟨modelElement document.nextRun, ?_, hasTimestamp_modelTag h.nextRun⟩, ?_⟩
  · rw [helements, List.find?_cons_of_neg (by simp [isModel, hroot]),
      List.find?_cons_of_neg (by simp [isModel, hhead]), List.find?_cons_of_pos hmodel]
  · have htimes : (document.forest.elements []).filter isTime =
        document.entries.map timeElement := by
      rw [helements, List.filter_cons_of_neg (by simp [isTime, hroot]),
        List.filter_cons_of_neg (by simp [isTime, hhead]),
        List.filter_cons_of_neg (by simp [isTime, modelElement]),
        List.filter_cons_of_neg (by simp [isTime, hproduct]), filter_isTime_flatMap]
    rw [htimes, List.forall₂_map_left_iff, List.forall₂_same]
    exact fun entry hentry => isEntryOf_timeElement (h.entries entry hentry)

/-- A forest of sound elements with a document is not refused unless it lacks a part. -/
theorem not_isRefused_of_isSound {f : Forest} (hsound : ∀ p ∈ f.elements [], IsSound p)
    (hroot : ∃ p ∈ f.elements [], isRoot p) (hproduct : ∃ p ∈ f.elements [], isProduct p)
    {document : Document} (hdocument : IsDocumentOf f document) : ¬IsRefused f := by
  obtain ⟨model, hfind, -⟩ := hdocument.nextRun
  have hmodel : ∃ p ∈ f.elements [], isModel p :=
    ⟨model, List.mem_of_find?_eq_some hfind, List.find?_some hfind⟩
  refine not_isRefused_iff.mpr ⟨fun p hp => hsound p ?_, hroot, hmodel, hproduct⟩
  rcases mem_consulted.mp hp with ⟨hmem, -⟩ | hfirst
  · exact hmem
  · exact List.mem_of_find?_eq_some hfirst

/-- Events that spell sound elements, no part missing, are assembled to the document of the forest. -/
theorem assemble_eq_ok {f : Forest} {events : List Event} (h : f.Spells events)
    (hsound : ∀ p ∈ f.elements [], IsSound p) (hroot : ∃ p ∈ f.elements [], isRoot p)
    (hproduct : ∃ p ∈ f.elements [], isProduct p) {document : Document}
    (hdocument : IsDocumentOf f document) : assemble events = .ok document :=
  (assemble_eq_ok_iff h).mpr ⟨not_isRefused_of_isSound hsound hroot hproduct hdocument, hdocument⟩

/-- A written forecast is read back to the document. -/
theorem Document.read_render {document : Document} (h : document.IsWritable)
    (selfClosing : Bool) : Document.read (document.render selfClosing) = .ok document := by
  obtain ⟨events, hspells, htext⟩ := Forest.exists_ofText_write (allTags_forest h) selfClosing
  obtain ⟨root, head, product, helements, hroot, -, hproduct⟩ := document.elements_forest
  have hassemble : assemble events = .ok document := by
    refine assemble_eq_ok hspells (fun p => isSound_of_mem_elements h)
      ⟨root, by simp [helements], decide_eq_true hroot.1⟩
      ⟨product, by simp [helements], decide_eq_true hproduct⟩ (isDocumentOf_forest h)
  have hread : Document.read (document.render selfClosing) = assemble events := by
    rw [Document.read, render, String.toList_ofList, htext]
    rfl
  rw [hread, hassemble]

/-- A leap second, a year before 1000, a value of markup and quotes, and an entry of no variables. -/
def mixedDocument : Document :=
  let leap : Instant := ⟨1483228799, 1500000000, by decide⟩
  let early : Instant := ⟨-62167219200, 1000, by decide⟩
  ⟨leap, [⟨early, leap, .ofList [("fog", .ofList [("percent", "<5 & '\"\n"), ("id", "")])]⟩,
    ⟨leap, early, .empty⟩]⟩

theorem mixedDocument_read : mixedDocument.IsWritable ∧
    Document.read (mixedDocument.render true) = .ok mixedDocument ∧
    Document.read (mixedDocument.render false) = .ok mixedDocument := by
  have h : mixedDocument.IsWritable := by
    refine ⟨by decide +kernel, ?_⟩
    simp only [mixedDocument, List.mem_cons, List.not_mem_nil, or_false, forall_eq_or_imp, forall_eq]
    refine ⟨⟨by decide +kernel, by decide +kernel, by decide +kernel, by decide +kernel⟩,
      ⟨by decide +kernel, by decide +kernel, by decide +kernel, by decide +kernel⟩⟩
  exact ⟨h, Document.read_render h true, Document.read_render h false⟩

end HomeHub.Forecast
