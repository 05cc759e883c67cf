/-
# Core.Python -- exceptions and conversions of the interpreter

The worker records an exception by its class name and `str(exc)`, and the
executors coerce free-form parameters with `int()`.  These are the parts of the
language that such code leans on.
-/
import Lcp.Core.Json

namespace Lcp

set_option autoImplicit false

/-- An exception, as far as a handler reads it. -/
structure PyException where
  className : String
  message : String
deriving DecidableEq, Repr

namespace PyException

def valueError (message : String) : PyException := ⟨"ValueError", message⟩
def typeError (message : String) : PyException := ⟨"TypeError", message⟩
def overflowError (message : String) : PyException := ⟨"OverflowError", message⟩
def attributeError (message : String) : PyException := ⟨"AttributeError", message⟩

end PyException

/-- The `!r` rendering of a string that needs no escape. -/
def pyRepr (s : String) : String := "'" ++ s ++ "'"

/-- The `!r` rendering of an optional string. -/
def pyReprOption : Option String → String
  | some s => pyRepr s
  | none => "None"

/-- The `!r` rendering of a list of such strings. -/
def pyReprList (items : List String) : String := "[" ++ ", ".intercalate (items.map pyRepr) ++ "]"

/-- The parts of `s.split(sep)` for a separator of one character. -/
def pySplit (sep : Char) : List Char → List (List Char)
  | [] => [[]]
  | c :: rest =>
      if c = sep then [] :: pySplit sep rest
      else
        match pySplit sep rest with
        | part :: parts => (c :: part) :: parts
        | [] => [[c]]

/-- No part has the separator in it. -/
theorem notMem_of_mem_pySplit {sep : Char} {text part : List Char}
    (member : part ∈ pySplit sep text) : sep ∉ part := by
  induction text generalizing part with
  | nil =>
      obtain rfl := List.mem_singleton.1 member
      exact List.not_mem_nil
  | cons c rest ih =>
      simp only [pySplit] at member
      split at member
      · rcases List.mem_cons.1 member with rfl | later
        · exact List.not_mem_nil
        · exact ih later
      · rename_i other
        split at member
        · rename_i first parts split_
          rw [split_] at ih
          rcases List.mem_cons.1 member with rfl | later
          · intro inside
            rcases List.mem_cons.1 inside with same | inFirst
            · exact other same.symm
            · exact ih List.mem_cons_self inFirst
          · exact ih (List.mem_cons_of_mem _ later)
        · obtain rfl := List.mem_singleton.1 member
          intro inside
          exact other (List.mem_singleton.1 inside).symm

/-- A part without the separator ends at the next separator. -/
theorem pySplit_append {sep : Char} {part : List Char} (absent : sep ∉ part) (rest : List Char) :
    pySplit sep (part ++ sep :: rest) = part :: pySplit sep rest := by
  induction part with
  | nil => simp [pySplit]
  | cons c part ih =>
      have other : c ≠ sep := fun same => absent (same ▸ List.mem_cons_self)
      have later := ih fun inside => absent (List.mem_cons_of_mem _ inside)
      rw [List.cons_append, pySplit, if_neg other, later]

/-- The first part ends at the first separator. -/
theorem head?_pySplit (sep : Char) (text : List Char) :
    (pySplit sep text).head? = some (text.takeWhile (· ≠ sep)) := by
  induction text with
  | nil => rfl
  | cons c rest ih =>
      rw [pySplit]
      by_cases same : c = sep
      · rw [if_pos same, List.takeWhile_cons, if_neg (by simp [same])]
        rfl
      · rw [if_neg same, List.takeWhile_cons, if_pos (by simp [same])]
        cases parts : pySplit sep rest with
        | nil =>
            rw [parts] at ih
            cases ih
        | cons part later =>
            rw [parts] at ih
            obtain rfl := Option.some.inj ih
            rfl

/-- The characters that `str.strip()` strips. -/
def pyIsSpace (c : Char) : Bool :=
  c.toNat ∈ [0x9, 0xa, 0xb, 0xc, 0xd, 0x1c, 0x1d, 0x1e, 0x1f, 0x20, 0x85, 0xa0, 0x1680, 0x2000,
    0x2001, 0x2002, 0x2003, 0x2004, 0x2005, 0x2006, 0x2007, 0x2008, 0x2009, 0x200a, 0x2028, 0x2029,
    0x202f, 0x205f, 0x3000]

/-- The characters around an `int` literal: the separators of ASCII are not among them. -/
def pyIsIntSpace (c : Char) : Bool := pyIsSpace c && c.toNat ∉ [0x1c, 0x1d, 0x1e, 0x1f]

/-- The zeros of the decimal digits of Unicode 14; the other nine follow each of them. -/
def decimalZeros : List Nat :=
  [0x30, 0x660, 0x6f0, 0x7c0, 0x966, 0x9e6, 0xa66, 0xae6, 0xb66, 0xbe6, 0xc66, 0xce6, 0xd66,
    0xde6, 0xe50, 0xed0, 0xf20, 0x1040, 0x1090, 0x17e0, 0x1810, 0x1946, 0x19d0, 0x1a80, 0x1a90,
    0x1b50, 0x1bb0, 0x1c40, 0x1c50, 0xa620, 0xa8d0, 0xa900, 0xa9d0, 0xa9f0, 0xaa50, 0xabf0,
    0xff10, 0x104a0, 0x10d30, 0x11066, 0x110f0, 0x11136, 0x111d0, 0x112f0, 0x11450, 0x114d0,
    0x11650, 0x116c0, 0x11730, 0x118e0, 0x11950, 0x11c50, 0x11d50, 0x11da0, 0x16a60, 0x16ac0,
    0x16b50, 0x1d7ce, 0x1d7d8, 0x1d7e2, 0x1d7ec, 0x1d7f6, 0x1e140, 0x1e2f0, 0x1e950, 0x1fbf0]

/-- The value of a decimal digit. -/
def pyDecimal (c : Char) : Option Nat :=
  (decimalZeros.find? fun start => start ≤ c.toNat && c.toNat < start + 10).map fun start =>
    c.toNat - start

/-- Digits with single underscores between them, as an `int` literal has them. -/
def pyDigits (acc : Nat) : List Char → Option Nat
  | [] => some acc
  | '_' :: c :: rest =>
      match pyDecimal c with
      | some digit => pyDigits (10 * acc + digit) rest
      | none => none
  | c :: rest =>
      match pyDecimal c with
      | some digit => pyDigits (10 * acc + digit) rest
      | none => none

/-- A nonempty digit string that starts with a digit, of 4300 digits at most. -/
def pyNat : List Char → Option Nat
  | [] => none
  | c :: rest =>
      if (pyDecimal c).isSome && ((c :: rest).filter (· != '_')).length ≤ 4300 then
        pyDigits 0 (c :: rest)
      else none

/-- The value of `int(s)`. -/
def pyIntOfString (s : String) : Option Int :=
  match ((s.toList.dropWhile pyIsIntSpace).reverse.dropWhile pyIsIntSpace).reverse with
  | '-' :: digits => (pyNat digits).map fun n => -(n : Int)
  | '+' :: digits => (pyNat digits).map fun n => (n : Int)
  | digits => (pyNat digits).map fun n => (n : Int)

namespace Json

/-- The name of the value's Python type. -/
def typeName : Json → String
  | .null => "NoneType"
  | .bool _ => "bool"
  | .int _ => "int"
  | .float _ => "float"
  | .str _ => "str"
  | .list _ => "list"
  | .dict _ => "dict"

mutual

/-- The rendering `repr(value)`, with the interpreter's rendering of floats. -/
def repr (floatRepr : Rat → String) : Json → String
  | .null => "None"
  | .bool b => if b then "True" else "False"
  | .int n => toString n
  | .float q => floatRepr q
  | .str s => pyRepr s
  | .list items => "[" ++ ", ".intercalate (reprItems floatRepr items) ++ "]"
  | .dict entries => "\x7b" ++ ", ".intercalate (reprEntries floatRepr entries) ++ "\x7d"

def reprItems (floatRepr : Rat → String) : List Json → List String
  | [] => []
  | item :: rest => item.repr floatRepr :: reprItems floatRepr rest

def reprEntries (floatRepr : Rat → String) : JsonDict → List String
  | [] => []
  | (key, value) :: rest =>
      (pyRepr key ++ ": " ++ value.repr floatRepr) :: reprEntries floatRepr rest

end

/-- The rendering `str(value)`, which is also that of an f-string. -/
def pyStr (floatRepr : Rat → String) : Json → String
  | .str s => s
  | value => value.repr floatRepr

/-- The truth value of `bool(value)`. -/
def truthy : Json → Bool
  | .null => false
  | .bool b => b
  | .int n => n ≠ 0
  | .float q => q ≠ 0
  | .str s => s ≠ ""
  | .list items => !items.isEmpty
  | .dict entries => !entries.isEmpty

/-- The value of `int(value)`: a float is truncated, a string parsed. -/
def toInt : Json → Except PyException Int
  | .bool b => .ok (if b then 1 else 0)
  | .int n => .ok n
  | .float q => .ok (q.num.tdiv q.den)
  | .str s =>
      match pyIntOfString s with
      | some n => .ok n
      | none => .error (.valueError ("invalid literal for int() with base 10: " ++ pyRepr s))
  | value =>
      .error (.typeError ("int() argument must be a string, a bytes-like object or a real " ++
        "number, not " ++ pyRepr value.typeName))

/-- The value `value[key]` for a string key. -/
def subscript (value : Json) (key : String) : Except PyException Json :=
  match value with
  | .dict entries =>
      match entries.find? fun entry => entry.1 == key with
      | some (_, item) => .ok item
      | none => .error ⟨"KeyError", pyRepr key⟩
  | .list _ => .error (.typeError "list indices must be integers or slices, not str")
  | .str _ => .error (.typeError "string indices must be integers, not 'str'")
  | value => .error (.typeError (pyRepr value.typeName ++ " object is not subscriptable"))

/-- The items of `for item in value`. -/
def iterate : Json → Except PyException (List Json)
  | .list items => .ok items
  | .dict entries => .ok (entries.map fun entry => .str entry.1)
  | .str s => .ok (s.toList.map fun c => .str (String.singleton c))
  | value => .error (.typeError (pyRepr value.typeName ++ " object is not iterable"))

/-- The value of `len(value)`. -/
def len : Json → Except PyException Nat
  | .list items => .ok items.length
  | .dict entries => .ok entries.length
  | .str s => .ok s.length
  | value =>
      .error (.typeError ("object of type " ++ pyRepr value.typeName ++ " has no len()"))

end Json

/-! ## PATCH bodies -/

/-- A field of `model_dump(exclude_unset=True)`: omitted, or set to null or to a value. -/
abbrev Patched (α : Type) := Option (Option α)

/-- The nullable column after `setattr`. -/
def Patched.onto {α : Type} (field : Patched α) (old : Option α) : Option α := field.getD old

/-- The NOT NULL column after `setattr`; `none` is the null that the UPDATE will refuse. -/
def Patched.ontoRequired {α : Type} (field : Patched α) (old : α) : Option α :=
  field.getD (some old)

theorem eq_ok_of_toOption {ε α : Type} {result : Except ε α} {a : α}
    (some_ : result.toOption = some a) : result = .ok a := by
  cases result with
  | error e => simp [Except.toOption] at some_
  | ok b =>
      obtain rfl : b = a := by simpa [Except.toOption] using some_
      rfl

/-- A sequence that returned ran its first part to the end. -/
theorem bind_eq_ok {ε α β : Type} {first : Except ε α} {next : α → Except ε β} {b : β}
    (ran : first >>= next = .ok b) : ∃ a, first = .ok a ∧ next a = .ok b := by
  cases first with
  | error e => cases ran
  | ok a => exact ⟨a, rfl, ran⟩

theorem map_eq_ok {ε α β : Type} {first : Except ε α} {f : α → β} {b : β}
    (ran : first.map f = .ok b) : ∃ a, first = .ok a ∧ f a = b := by
  cases first with
  | error e => cases ran
  | ok a => exact ⟨a, rfl, Except.ok.inj ran⟩

/-- What is returned is not what the renaming of exceptions is about. -/
theorem mapError_eq_ok {ε ε' α : Type} {result : Except ε α} {f : ε → ε'} {a : α} :
    result.mapError f = .ok a ↔ result = .ok a := by
  cases result with
  | error e => exact iff_of_false (fun same => by cases same) (fun same => by cases same)
  | ok b =>
      exact ⟨fun same => congrArg Except.ok (Except.ok.inj same),
        fun same => congrArg Except.ok (Except.ok.inj same)⟩

end Lcp
