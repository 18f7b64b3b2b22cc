import HomeHub.Number.Shortest

/-!
# JSON values

Members of an object stand in the order in which they are written. Objects of unknown content keep
their members in key order; records keep them in the order of their fields.
-/
namespace HomeHub

/-- Numbers written without fraction and exponent stay integers if they fit in 64 bits. -/
inductive JsonNumber where
  | integer (value : Int)
  | real (value : Binary64)
  deriving DecidableEq, Repr

inductive Json where
  | null
  | boolean (value : Bool)
  | number (value : JsonNumber)
  | text (value : String)
  | array (items : List Json)
  | object (members : List (String × Json))
  deriving Repr, Inhabited

namespace Json

mutual

def decEq : (a b : Json) → Decidable (a = b)
  | null, null => isTrue rfl
  | boolean a, boolean b => decidable_of_iff (a = b) (by simp)
  | number a, number b => decidable_of_iff (a = b) (by simp)
  | text a, text b => decidable_of_iff (a = b) (by simp)
  | array a, array b =>
    have := decEqItems a b
    decidable_of_iff (a = b) (by simp)
  | object a, object b =>
    have := decEqMembers a b
    decidable_of_iff (a = b) (by simp)
  | null, boolean _ | null, number _ | null, text _ | null, array _ | null, object _
  | boolean _, null | boolean _, number _ | boolean _, text _ | boolean _, array _
  | boolean _, object _ | number _, null | number _, boolean _ | number _, text _
  | number _, array _ | number _, object _ | text _, null | text _, boolean _ | text _, number _
  | text _, array _ | text _, object _ | array _, null | array _, boolean _ | array _, number _
  | array _, text _ | array _, object _ | object _, null | object _, boolean _ | object _, number _
  | object _, text _ | object _, array _ => isFalse (by simp)

def decEqItems : (a b : List Json) → Decidable (a = b)
  | [], [] => isTrue rfl
  | [], _ :: _ | _ :: _, [] => isFalse (by simp)
  | a :: as, b :: bs =>
    have := decEq a b
    have := decEqItems as bs
    decidable_of_iff (a = b ∧ as = bs) (by simp)

def decEqMembers : (a b : List (String × Json)) → Decidable (a = b)
  | [], [] => isTrue rfl
  | [], _ :: _ | _ :: _, [] => isFalse (by simp)
  | (k, a) :: as, (l, b) :: bs =>
    have := decEq a b
    have := decEqMembers as bs
    decidable_of_iff (k = l ∧ a = b ∧ as = bs) (by simp [and_assoc])

end

instance : DecidableEq Json := decEq

def ofNat (n : Nat) : Json := number (.integer n)

end Json

end HomeHub
