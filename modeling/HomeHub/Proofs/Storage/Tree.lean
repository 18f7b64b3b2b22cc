import HomeHub.Storage.Tree
import Mathlib.Tactic.SplitIfs

/-!
# Writing in the tree

A write at one path changes what is read at no other path, unless both lead to one place. It can block
paths that go through the file, but they led nowhere before.
-/
namespace HomeHub

namespace File

/-- The bytes of a file, none where there is no file. -/
def content : File → Option (List UInt8)
  | text written => some written.toUTF8.toList
  | binary bytes => some bytes
  | absent | directory | unreachable .. => none

def isWritable : File → Bool
  | absent | text _ | binary _ => true
  | directory | unreachable .. => false

theorem write_of_isWritable {file : File} (h : file.isWritable) (written : String) :
    file.write written = .ok (.text written) := by
  cases file <;> first | rfl | cases h

theorem write_eq_ok_iff {file after : File} {written : String} :
    file.write written = .ok after ↔ file.isWritable ∧ after = .text written := by
  cases file <;> simp [write, isWritable, eq_comm]

theorem read_eq_ok_iff {file : File} {written : String} :
    file.read = .ok written ↔ file = .text written := by
  cases file <;> simp [read]

/-- Whether a file can be written does not depend on what is written. -/
theorem write_eq_error_iff {file : File} {written : String} {fault : StorageFault} :
    file.write written = .error fault ↔ file.write "" = .error fault := by
  cases file <;> simp [write]

theorem exists_write_eq_error {file : File} (h : ¬file.isWritable) :
    ∃ fault, file.write "" = .error fault := by
  cases file with
  | absent | text _ | binary _ => exact absurd rfl h
  | directory | unreachable _ _ => exact ⟨_, rfl⟩

end File

namespace Storage

variable {s : Storage} {at_ location : Location} {written : String}

theorem lookup_filter_ne {files : List (Location × File)} (hne : location ≠ at_) :
    (files.filter fun entry => entry.1 ≠ at_).lookup location = files.lookup location := by
  induction files with
  | nil => rfl
  | cons entry files ih =>
    obtain ⟨place, file⟩ := entry
    by_cases hplace : place = at_
    · have hother : (location == place) = false := by simpa [hplace] using hne
      rw [List.filter_cons_of_neg (by simpa using hplace), ih, List.lookup_cons, hother]
    · rw [List.filter_cons_of_pos (by simpa using hplace), List.lookup_cons, List.lookup_cons, ih]

theorem get_set_of_ne (hne : location ≠ at_) (file : File) :
    (s.set at_ file).get location = s.get location := by
  have hother : (location == at_) = false := by simpa using hne
  simp only [get, set, List.lookup_cons, hother, lookup_filter_ne hne]

theorem get_set_self (h : (s.get at_).isWritable) (file : File) : (s.set at_ file).get at_ = file := by
  unfold get at h
  split_ifs at h with hdirectory hname
  · cases h
  · cases h
  · simp only [get, set, if_neg hdirectory, if_neg hname, List.lookup_cons_self, Option.getD_some]

/-- One can go on neither from a file nor from what is missing. -/
theorem obstacle?_set (h : (s.get at_).isWritable) (location : Location) :
    ((s.set at_ (.text written)).obstacle? location).isNone = (s.obstacle? location).isNone := by
  by_cases hplace : location = at_
  · subst hplace
    have hbefore : (s.obstacle? location).isNone = false := by
      unfold obstacle?
      cases hget : s.get location <;> simp_all [File.isWritable]
    rw [hbefore, obstacle?, get_set_self h]
    rfl
  · simp only [obstacle?, get_set_of_ne hplace]

theorem walk_set (h : (s.get at_).isWritable) (steps : List String) (start location : Location) :
    (s.set at_ (.text written)).walk start steps = .ok location ↔
      s.walk start steps = .ok location := by
  induction steps generalizing start with
  | nil => rfl
  | cons step rest ih =>
    have hgo : ((s.set at_ (.text written)).obstacle? start).isNone = (s.obstacle? start).isNone :=
      obstacle?_set h start
    unfold walk
    cases hbefore : s.obstacle? start with
    | some fault =>
      obtain ⟨other, hafter⟩ : ∃ other, (s.set at_ (.text written)).obstacle? start = some other := by
        rw [hbefore] at hgo
        exact Option.isNone_eq_false_iff.mp hgo |> Option.isSome_iff_exists.mp
      simp [hafter]
    | none =>
      have hafter : (s.set at_ (.text written)).obstacle? start = none := by
        rw [hbefore] at hgo
        exact Option.isNone_iff_eq_none.mp hgo
      simp only [hafter]
      split_ifs <;> exact ih _

theorem locate_set (h : (s.get at_).isWritable) (path : String) (location : Location) :
    (s.set at_ (.text written)).locate path = .ok location ↔ s.locate path = .ok location := by
  unfold locate
  split
  · rfl
  · exact walk_set h _ _ _

/-- Two paths that lead to one place. -/
def Together (s : Storage) (path other : String) : Prop :=
  ∃ location, s.locate path = .ok location ∧ s.locate other = .ok location

section

variable {path other : String}

theorem Together.symm (h : s.Together path other) : s.Together other path := by
  obtain ⟨location, hpath, hother⟩ := h
  exact ⟨location, hother, hpath⟩

/-- A path to what can be written has no slash behind it. -/
theorem exists_locate_of_isWritable (h : (s.find path).isWritable) :
    ∃ location, s.locate path = .ok location ∧ (s.get location).isWritable ∧
      path.endsWith "/" = false := by
  unfold find at h
  split at h
  · cases h
  · rename_i location hlocate
    split_ifs at h with hslash
    · cases hget : s.get location <;> simp [hget, asDirectory, File.isWritable] at h
    · exact ⟨location, hlocate, h, by simpa using hslash⟩

theorem put_of_locate (h : s.locate path = .ok location) (file : File) :
    s.put path file = s.set location file := by
  simp [put, h]

theorem find_put_self (h : (s.find path).isWritable) (written : String) :
    (s.put path (.text written)).find path = .text written := by
  obtain ⟨location, hlocate, hwritable, hslash⟩ := exists_locate_of_isWritable h
  rw [put_of_locate hlocate, find, (locate_set hwritable path location).mpr hlocate]
  simp [hslash, get_set_self hwritable]

theorem together_put (h : (s.find path).isWritable) (written first second : String) :
    (s.put path (.text written)).Together first second ↔ s.Together first second := by
  obtain ⟨location, hlocate, hwritable, -⟩ := exists_locate_of_isWritable h
  rw [put_of_locate hlocate]
  simp only [Together, locate_set hwritable]

/-- Writing at a path leaves the bytes that other paths lead to. -/
theorem content_find_put (h : (s.find path).isWritable) (written : String)
    (hapart : ¬s.Together path other) :
    ((s.put path (.text written)).find other).content = (s.find other).content := by
  obtain ⟨location, hlocate, hwritable, -⟩ := exists_locate_of_isWritable h
  rw [put_of_locate hlocate]
  have hafter : ∀ place, (s.set location (.text written)).locate other = .ok place ↔
      s.locate other = .ok place := locate_set hwritable other
  cases hbefore : s.locate other with
  | ok place =>
    have hplace : place ≠ location := fun heq => hapart ⟨location, hlocate, heq ▸ hbefore⟩
    simp only [find, hbefore, (hafter place).mpr hbefore, get_set_of_ne hplace]
  | error fault =>
    cases hnow : (s.set location (.text written)).locate other with
    | ok place => rw [(hafter place).mp hnow] at hbefore; cases hbefore
    | error => simp only [find, hbefore, hnow, File.content]

end

end Storage

end HomeHub
