import HomeHub.Json.Record
import HomeHub.Toml.Decoder

/-!
# Sections of settings

A section is a record in which every setting can be left out, and that can be left out as a whole. The
same list of settings reads it from JSON and from TOML, by name or by position, and writes it as JSON.
-/
namespace HomeHub

/-- How a value stands in either data format. -/
structure Format (β : Type) where
  readJson : Json.Decoder β
  readToml : Toml.Decoder β
  write : β → Json

namespace Format

variable {β : Type}

/-- A string, called `expected` in faults. -/
def textAs (expected : String) : Format String :=
  ⟨Json.Decoder.textAs expected, Toml.Decoder.textAs expected, .text⟩

def text : Format String := textAs "a string"

def path : Format String := textAs "path string"

def word16 : Format UInt16 :=
  ⟨Json.Decoder.word16, Toml.Decoder.word16, fun n => .ofNat n.toNat⟩

def signed64 : Format Int64 :=
  ⟨Json.Decoder.signed64, Toml.Decoder.signed64, fun n => .number (.integer n.toInt)⟩

def real : Format Binary64 :=
  ⟨Json.Decoder.real, Toml.Decoder.real, fun x => .number (.real x)⟩

/-- No value is null in JSON and cannot be written in TOML. -/
def optional (format : Format β) : Format (Option β) :=
  ⟨format.readJson.optional, format.readToml.optional, fun
    | none => .null
    | some value => format.write value⟩

def list (format : Format β) : Format (List β) :=
  ⟨format.readJson.list, format.readToml.list, fun values => .array (values.map format.write)⟩

end Format

/-- A value of a section, with its name and how it is read into the section and written. -/
structure Setting (α : Type) where
  name : String
  /-- Puts in what is meant when the setting is missing. -/
  reset : α → α
  readJson : Json.Decoder (α → α)
  readToml : Toml.Decoder (α → α)
  write : α → Json

namespace Setting

variable {α β : Type}

def of (name : String) (format : Format β) (missing : β) (get : α → β) (put : β → α → α) : Setting α :=
  ⟨name, put missing, format.readJson.map put, fun v => (format.readToml v).map put,
    fun a => format.write (get a)⟩

/-- The field of a JSON object, written always and missing at will. -/
def field (s : Setting α) : Json.Field α := ⟨s.name, .defaulted, s.readJson, fun a => some (s.write a)⟩

end Setting

structure SettingSection (α : Type) where
  title : String
  /-- What is meant when the section is missing. -/
  defaults : α
  settings : List (Setting α)

namespace SettingSection

variable {α : Type}

/-- The section in which every setting is missing. -/
def unset (s : SettingSection α) : α := s.settings.foldl (fun a setting => setting.reset a) s.defaults

def record (s : SettingSection α) : Json.Record α := ⟨s.title, s.unset, s.settings.map Setting.field⟩

/-- Reads one member of a table; unknown ones say nothing. -/
def readMember (s : SettingSection α) (a : α) (member : String × Located Toml) :
    Except Toml.Misfit α :=
  match s.settings.find? (·.name = member.1) with
  | none => .ok a
  | some setting => (setting.readToml member.2).map fun set => set a

/-- Reads a table, or an array with the settings by position and any others ignored. -/
def readToml (s : SettingSection α) : Toml.Decoder α := fun v =>
  match v.value with
  | .table members => members.foldlM s.readMember s.unset
  | .array items =>
    (s.settings.zip items).foldlM (fun a (setting, item) =>
      (setting.readToml item).map fun set => set a) s.unset
  | .moment => .ok s.unset
  | _ => Toml.Decoder.mismatch v s.record.expected

def format (s : SettingSection α) : Format α := ⟨s.record.decoder, s.readToml, s.record.toJson⟩

end SettingSection

end HomeHub
