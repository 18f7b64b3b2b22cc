import HomeHub.Number.Digits
import HomeHub.Time.Calendar
import HomeHub.Text.Parser

/-!
# Dates and times

A date, a time of day, or both; with both there may be an offset.
-/
namespace HomeHub.Toml.Grammar

open HomeHub.Parser

def twoDigits (low high : Nat) : Parser Nat :=
  refine (takeExactly 2 Char.isDigit) fun digits =>
    let n := digitsValue digits
    if low ≤ n ∧ n ≤ high then some n else none

def dayOf (year month : Nat) : Parser Nat :=
  refine (twoDigits 1 31) fun day => if Date.isValid ⟨year, month, day⟩ then some day else none

def date : Parser Unit := do
  let year ← takeExactly 4 Char.isDigit
  let _ ← char '-'
  commit do
    let month ← twoDigits 1 12
    let _ ← char '-'
    let _ ← dayOf (digitsValue year) month

/-- Second 60 is a leap second. -/
def timeOfDay : Parser Unit := do
  let _ ← twoDigits 0 23
  let _ ← char ':'
  commit do
    let _ ← twoDigits 0 59
    let _ ← char ':'
    let _ ← twoDigits 0 60
    let _ ← optional do
      let _ ← char '.'
      let _ ← charThat Char.isDigit
      takeAll Char.isDigit

def offset : Parser Unit :=
  orElse
    (do
      let _ ← charThat fun c => c = 'Z' || c = 'z')
    (do
      let _ ← charThat fun c => c = '+' || c = '-'
      commit do
        let _ ← twoDigits 0 23
        let _ ← char ':'
        let _ ← twoDigits 0 59)

def moment : Parser Unit :=
  orElse
    (do
      date
      let _ ← optional do
        let _ ← charThat fun c => c = 'T' || c = 't' || c = ' '
        timeOfDay
        optional offset)
    timeOfDay

end HomeHub.Toml.Grammar
