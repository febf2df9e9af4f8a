import Redeploy.Table

/-
  JSON values.

  Key definitions include:
    * `Json`
    * `Json.Text`
    * `Json.Members`

  A value keeps what its text says and a reader may need:
    * the members of an object in order, repetitions
      included;
    * a number as it is written;
    * whether a string names characters at all.  The escape
      for one half of a surrogate pair is well formed but
      names none.
-/

------------------------------------------------------------
-- Values
------------------------------------------------------------

namespace Redeploy

/- What a string denotes: nothing if it holds the escape of
   half a surrogate pair. -/
abbrev Json.Text := Option String

inductive Json where
  | null
  | bool (value : Bool)
  | number (literal : String)
  | string (text : Json.Text)
  | array (items : List Json)
  | object (members : List (Json.Text × Json))

namespace Json

instance : Inhabited Json := ⟨.null⟩

mutual

/- Values are compared as they are written: members in order,
   numbers by their literals. -/
private def decEq
    (a b : Json) : Decidable (a = b) :=
  match a, b with
  | .null, .null => isTrue rfl
  | .bool a, .bool b =>
      decidable_of_iff (a = b) (by simp)
  | .number a, .number b =>
      decidable_of_iff (a = b) (by simp)
  | .string a, .string b =>
      decidable_of_iff (a = b) (by simp)
  | .array as, .array bs =>
      haveI := decEqItems as bs
      decidable_of_iff (as = bs) (by simp)
  | .object as, .object bs =>
      haveI := decEqMembers as bs
      decidable_of_iff (as = bs) (by simp)
  | .null, .bool _ | .null, .number _ | .null, .string _
  | .null, .array _ | .null, .object _
  | .bool _, .null | .bool _, .number _ | .bool _, .string _
  | .bool _, .array _ | .bool _, .object _
  | .number _, .null | .number _, .bool _
  | .number _, .string _ | .number _, .array _
  | .number _, .object _
  | .string _, .null | .string _, .bool _
  | .string _, .number _ | .string _, .array _
  | .string _, .object _
  | .array _, .null | .array _, .bool _ | .array _, .number _
  | .array _, .string _ | .array _, .object _
  | .object _, .null | .object _, .bool _
  | .object _, .number _ | .object _, .string _
  | .object _, .array _ => isFalse nofun

private def decEqItems
    (as bs : List Json) : Decidable (as = bs) :=
  match as, bs with
  | [], [] => isTrue rfl
  | a :: as, b :: bs =>
      haveI := decEq a b
      haveI := decEqItems as bs
      decidable_of_iff (a = b ∧ as = bs) (by simp)
  | [], _ :: _ | _ :: _, [] => isFalse nofun

private def decEqMembers
    (as bs : List (Json.Text × Json)) :
    Decidable (as = bs) :=
  match as, bs with
  | [], [] => isTrue rfl
  | (k, a) :: as, (l, b) :: bs =>
      haveI := decEq a b
      haveI := decEqMembers as bs
      decidable_of_iff ((k = l ∧ a = b) ∧ as = bs) (by simp)
  | [], _ :: _ | _ :: _, [] => isFalse nofun

end

instance : DecidableEq Json := decEq

/- The string of a text. -/
def ofText
    (s : String) : Json :=
  .string (some s)

/- The number that an integer is written as. -/
def ofInt
    (n : Int) : Json :=
  .number (toString n)

/- An object with the members that have a value. -/
def ofMembers
    (members : List (String × Option Json)) : Json :=
  .object (members.filterMap fun m =>
    m.2.map fun value => (some m.1, value))

/- Members by key, for what is only passed on. -/
abbrev Members := Table String Json

/- All of some members, in the order of their keys. -/
def Members.listed
    (members : Members) : List (String × Option Json) :=
  members.toList.map fun m => (m.1, some m.2)

end Json

end Redeploy
