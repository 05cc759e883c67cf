/-
# Core.Json -- the values of a JSON column

`params`, `result`, `labels` and the other free-form columns hold what
`json.loads` returns: `None`, booleans, integers, finite floats, strings, lists
and dictionaries with string keys.  A float is kept as the rational it denotes.
-/
import Mathlib.Data.Rat.Init

namespace Lcp

set_option autoImplicit false

inductive Json where
  | null
  | bool (value : Bool)
  | int (value : Int)
  | float (value : Rat)
  | str (value : String)
  | list (items : List Json)
  | dict (entries : List (String × Json))

/-- A dictionary column, in insertion order. -/
abbrev JsonDict := List (String × Json)

namespace Json

mutual

/-- Python `==` on two column values of one shape. -/
def decEq : (a b : Json) → Decidable (a = b)
  | .null, .null => isTrue rfl
  | .bool a, .bool b => decidable_of_iff (a = b) (by simp)
  | .int a, .int b => decidable_of_iff (a = b) (by simp)
  | .float a, .float b => decidable_of_iff (a = b) (by simp)
  | .str a, .str b => decidable_of_iff (a = b) (by simp)
  | .list a, .list b => @decidable_of_iff _ (a = b) (by simp) (decEqList a b)
  | .dict a, .dict b => @decidable_of_iff _ (a = b) (by simp) (decEqDict a b)
  | .null, .bool _ | .null, .int _ | .null, .float _ | .null, .str _ | .null, .list _
  | .null, .dict _ | .bool _, .null | .bool _, .int _ | .bool _, .float _ | .bool _, .str _
  | .bool _, .list _ | .bool _, .dict _ | .int _, .null | .int _, .bool _ | .int _, .float _
  | .int _, .str _ | .int _, .list _ | .int _, .dict _ | .float _, .null | .float _, .bool _
  | .float _, .int _ | .float _, .str _ | .float _, .list _ | .float _, .dict _ | .str _, .null
  | .str _, .bool _ | .str _, .int _ | .str _, .float _ | .str _, .list _ | .str _, .dict _
  | .list _, .null | .list _, .bool _ | .list _, .int _ | .list _, .float _ | .list _, .str _
  | .list _, .dict _ | .dict _, .null | .dict _, .bool _ | .dict _, .int _ | .dict _, .float _
  | .dict _, .str _ | .dict _, .list _ => isFalse nofun

def decEqList : (a b : List Json) → Decidable (a = b)
  | [], [] => isTrue rfl
  | [], _ :: _ => isFalse nofun
  | _ :: _, [] => isFalse nofun
  | a :: as, b :: bs =>
      @decidable_of_iff _ (a = b ∧ as = bs) (by simp)
        (@instDecidableAnd _ _ (decEq a b) (decEqList as bs))

def decEqDict : (a b : JsonDict) → Decidable (a = b)
  | [], [] => isTrue rfl
  | [], _ :: _ => isFalse nofun
  | _ :: _, [] => isFalse nofun
  | (k, a) :: as, (l, b) :: bs =>
      @decidable_of_iff _ (k = l ∧ a = b ∧ as = bs) (by simp [and_assoc])
        (@instDecidableAnd _ _ (instDecidableEqString k l)
          (@instDecidableAnd _ _ (decEq a b) (decEqDict as bs)))

end

instance : DecidableEq Json := decEq

/-- `dict.get(key)`; a key bound to `None` reads as absent, as it does in Python. -/
def get? (entries : JsonDict) (key : String) : Option Json :=
  match entries.find? fun entry => entry.1 == key with
  | some (_, .null) => none
  | some (_, value) => some value
  | none => none

/-- The value of `dict.get(key, default)`; a key bound to `None` is present. -/
def getOr (entries : JsonDict) (key : String) (default : Json) : Json :=
  match entries.find? fun entry => entry.1 == key with
  | some (_, value) => value
  | none => default

end Json

end Lcp
