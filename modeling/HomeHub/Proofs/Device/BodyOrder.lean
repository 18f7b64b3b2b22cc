import HomeHub.Proofs.Device.Refusal
import HomeHub.Proofs.Json.Reordered
import HomeHub.Proofs.Text.ByteOrder

/-!
# Bodies with members in another order

An update does not depend on the order of the members of its body, nor on its spacing. Of several members
that are no options, the refusal names the first in the order of their bytes.
-/
namespace HomeHub.Device

open Json Json.Scan

/-- A body that is a text of an outline. -/
def IsBodyOf (o : Outline) (body : ByteArray) : Prop :=
  ∃ written, String.fromUTF8? body = some written ∧ o.HasText written

/-- A member that is no option, and the fault that says so. -/
inductive IsOffence (m : String × Json) : DataFault → Prop
  | unknownOption : m.1 ≠ "ignored" → m.1 ≠ "polling_intensity" → IsOffence m (.unknownOption m.1)
  | badIgnored : m.1 = "ignored" → ¬isBooleanLike m.2 → IsOffence m (.badValue m.1 m.2)
  | badPolling : m.1 = "polling_intensity" → ¬isPollingIntensity m.2 → IsOffence m (.badValue m.1 m.2)

theorem memberFault?_eq_some_iff_isOffence {m : String × Json} {fault : DataFault} :
    memberFault? m.1 m.2 = some fault ↔ IsOffence m fault := by
  rw [memberFault?_eq_some_iff]
  constructor
  · rintro (⟨hignored, hpolling, rfl⟩ | ⟨hname, hvalue, rfl⟩ | ⟨hname, hvalue, rfl⟩)
    · exact .unknownOption hignored hpolling
    · exact .badIgnored hname hvalue
    · exact .badPolling hname hvalue
  · rintro (⟨hignored, hpolling⟩ | ⟨hname, hvalue⟩ | ⟨hname, hvalue⟩)
    · exact .inl ⟨hignored, hpolling, rfl⟩
    · exact .inr (.inl ⟨hname, hvalue, rfl⟩)
    · exact .inr (.inr ⟨hname, hvalue, rfl⟩)

/-- The first fault of options in key order is that of the least member that is no option. -/
theorem exists_isOffence_of_entries {options : Options} {fault : DataFault}
    (h : (options.entries.findSome? fun m => memberFault? m.1 m.2) = some fault) :
    ∃ m ∈ options.entries, IsOffence m fault ∧
      ∀ m' ∈ options.entries, ¬IsOption m' → m' ≠ m → Text.utf8 m.1 < Text.utf8 m'.1 := by
  obtain ⟨before, m, after, hentries, hfault, hbefore⟩ := List.findSome?_eq_some_iff.mp h
  refine ⟨m, by simp [hentries], memberFault?_eq_some_iff_isOffence.mp hfault,
    fun m' hm' hoffends hne => ?_⟩
  have horder : InKeyOrder (before ++ m :: after) := hentries ▸ options.inOrder
  have hnot : m' ∉ before := fun hmem => hoffends (memberFault?_eq_none_iff.mp (hbefore m' hmem))
  have hafter : m' ∈ after := by
    rw [hentries] at hm'
    simpa [hnot, hne] using hm'
  exact Text.compare_eq_lt_iff_utf8_lt.mp
    ((List.pairwise_cons.mp (List.pairwise_append.mp horder).2.1).1 m' hafter)

theorem exists_isOffence {members : List (String × Json)} {fault : DataFault}
    (hnames : (members.map Prod.fst).Nodup) (h : readOptions (.object members) = .error fault) :
    ∃ m ∈ members, IsOffence m fault ∧
      ∀ m' ∈ members, ¬IsOption m' → m' ≠ m → Text.utf8 m.1 < Text.utf8 m'.1 := by
  have hmem (m : String × Json) : m ∈ (SortedMap.ofList members).entries ↔ m ∈ members := by
    rw [SortedMap.mem_entries, SortedMap.get?_ofList_eq_some_iff hnames]
  have hfirst : ((SortedMap.ofList members).entries.findSome? fun m => memberFault? m.1 m.2) =
      some fault := by
    simp only [readOptions] at h
    split at h
    · rename_i other hother
      cases h
      exact hother
    · cases h
  obtain ⟨m, hm, hoffence, hleast⟩ := exists_isOffence_of_entries hfirst
  exact ⟨m, (hmem m).mp hm, hoffence, fun m' hm' => hleast m' ((hmem m').mpr hm')⟩

theorem readBody_eq_of_reordered {o o' : Outline} (h : o.Reordered o') {body body' : ByteArray}
    (hbody : IsBodyOf o body) (hbody' : IsBodyOf o' body') : readBody body = readBody body' := by
  obtain ⟨written, hutf, htext⟩ := hbody
  obtain ⟨written', hutf', htext'⟩ := hbody'
  have hread (data : Json) : Json.read written = .ok data ↔ Json.read written' = .ok data :=
    h.read_eq_ok_iff htext htext'
  simp only [readBody, hutf, hutf']
  cases hresult : Json.read written with
  | ok data => rw [(hread data).mp hresult]
  | error e =>
    cases hresult' : Json.read written' with
    | ok data => cases hresult.symm.trans ((hread data).mpr hresult')
    | error e' => rfl

/-- An update answers alike, with the same fault if any, and leaves the same file for bodies that differ
in the order of their members and in their spacing only. When options are refused, the fault is that of
the member whose name has the least bytes among all that are unknown or have a value that is not
accepted. -/
theorem update_ignores_order {o o' : Outline} (h : o.Reordered o') {body body' : ByteArray}
    (hbody : IsBodyOf o body) (hbody' : IsBodyOf o' body') :
    (∀ id file, (Call.update id body).perform file = (Call.update id body').perform file) ∧
    ∀ members fault, (members.map Prod.fst).Nodup → readOptions (.object members) = .error fault →
      ∃ m ∈ members, IsOffence m fault ∧
        ∀ m' ∈ members, ¬IsOption m' → m' ≠ m → Text.utf8 m.1 < Text.utf8 m'.1 := by
  refine ⟨fun id file => ?_, fun members fault hnames hfault => exists_isOffence hnames hfault⟩
  have hread : readUpdate id body = readUpdate id body' := by
    simp only [readUpdate, readBody_eq_of_reordered h hbody hbody']
  simp only [Call.perform, update, hread]

def tidyOutline : Outline := .object [("ignored", .null), ("extra", .boolean true)]

def looseOutline : Outline := .object [("extra", .boolean true), ("ignored", .null)]

def tidyBody : ByteArray := "\x7b\"ignored\":null,\"extra\":true\x7d".toUTF8

def looseBody : ByteArray := "\x7b \"extra\" : true ,\n\t\"ignored\":null \x7d\n".toUTF8

theorem isBodyOf_tidyBody : IsBodyOf tidyOutline tidyBody := by
  have hignored : IsMemberText "ignored" (Outline.IsSpelled 1 .null) "\"ignored\":null".toList :=
    ⟨_, [], [], _, isLiteral_writeText _, isBlank_nil, isBlank_nil, rfl, by decide +kernel⟩
  have hextra : IsMemberText "extra" (Outline.IsSpelled 1 (.boolean true)) "\"extra\":true".toList :=
    ⟨_, [], [], _, isLiteral_writeText _, isBlank_nil, isBlank_nil, rfl, by decide +kernel⟩
  refine ⟨"\x7b\"ignored\":null,\"extra\":true\x7d", by decide +kernel, 2, [], _, [], isBlank_nil,
    ⟨_, ⟨[], _, _, isBlank_nil, hignored, ⟨[], [], _, [], isBlank_nil, isBlank_nil, hextra, isBlank_nil,
      rfl⟩, rfl⟩, rfl⟩, isBlank_nil, by decide +kernel⟩

theorem isBodyOf_looseBody : IsBodyOf looseOutline looseBody := by
  have hbreak : IsBlank ['\n', '\t'] := by simp [IsBlank, Cursor.isJsonBlank]
  have hend : IsBlank ['\n'] := isBlank_newLine 0
  have hextra : IsMemberText "extra" (Outline.IsSpelled 1 (.boolean true)) "\"extra\" : true".toList :=
    ⟨_, [' '], [' '], _, isLiteral_writeText _, isBlank_space, isBlank_space, rfl, by decide +kernel⟩
  have hignored : IsMemberText "ignored" (Outline.IsSpelled 1 .null) "\"ignored\":null".toList :=
    ⟨_, [], [], _, isLiteral_writeText _, isBlank_nil, isBlank_nil, rfl, by decide +kernel⟩
  refine ⟨"\x7b \"extra\" : true ,\n\t\"ignored\":null \x7d\n", by decide +kernel, 2, [], _, ['\n'],
    isBlank_nil, ⟨_, ⟨[' '], _, _, isBlank_space, hextra, ⟨[' '], ['\n', '\t'], _, [' '],
      isBlank_space, hbreak, hignored, isBlank_space, rfl⟩, rfl⟩, rfl⟩, hend, by decide +kernel⟩

/-- Both bodies are refused for their first member in key order. -/
theorem tidyBody_looseBody :
    (Call.update "light.a" tidyBody).perform .absent =
      (Call.update "light.a" looseBody).perform .absent ∧
    readOptions (.object [("ignored", .null), ("extra", .boolean true)]) =
      .error (.unknownOption "extra") ∧
    Text.utf8 "extra" < Text.utf8 "ignored" := by
  have hsame : tidyOutline.Reordered looseOutline := .members (.swap _ _ _) (by decide)
  obtain ⟨halike, hleast⟩ := update_ignores_order hsame isBodyOf_tidyBody isBodyOf_looseBody
  have hrefused : readOptions (.object [("ignored", .null), ("extra", .boolean true)]) =
      .error (.unknownOption "extra") := by decide +kernel
  obtain ⟨m, hm, hoffence, hless⟩ := hleast _ _ (by decide) hrefused
  have hignored : ¬IsOption ("ignored", .null) := fun h => by
    cases memberFault?_eq_none_iff.mpr h
  have hname : m.1 = "extra" := by
    generalize hfault : DataFault.unknownOption "extra" = fault at hoffence
    cases hoffence with
    | unknownOption => exact (DataFault.unknownOption.inj hfault).symm
    | badIgnored | badPolling => cases hfault
  have hne : ("ignored", Json.null) ≠ m := by
    rintro rfl
    exact absurd hname (by decide)
  exact ⟨halike _ _, hrefused, hname ▸ hless _ (by simp) hignored hne⟩

end HomeHub.Device
