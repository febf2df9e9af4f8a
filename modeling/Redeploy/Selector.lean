import Redeploy.Object.Metadata
import Redeploy.Text.Space

/-
  Label selectors: terms `key=value` between commas, all of
  which have to hold.

  Key definitions include:
    * `Labels.selector`
    * `Selector.terms`
    * `Selector.selects`

  White space around terms, keys and values is ignored, and
  so are empty terms; a term without an equals sign holds of
  nothing.
-/

------------------------------------------------------------
-- Writing
------------------------------------------------------------

namespace Redeploy

/- A term that asks for one label. -/
def Selector.term
    (key value : String) : String :=
  key ++ "=" ++ value

/- The selector that asks for every label of a table. -/
def Labels.selector
    (labels : Labels) : String :=
  ",".intercalate
    (labels.toList.map fun e => Selector.term e.1 e.2)

end Redeploy

------------------------------------------------------------
-- Matching
------------------------------------------------------------

namespace Redeploy

namespace Selector

open Text (trim)

/- The terms of a selector that say anything. -/
def terms
    (selector : String) : List (List Char) :=
  ((selector.toList.splitOn ',').map trim).filter
    (fun term => !term.isEmpty)

/- Split a term at its first equals sign. -/
def splitTerm
    (term : List Char) : Option (String × String) :=
  match term.dropWhile (· != '=') with
  | _ :: value =>
      some
        (String.ofList (trim (term.takeWhile (· != '='))),
          String.ofList (trim value))
  | [] => none

/- Whether a term holds of some labels. -/
def holds
    (labels : Option Labels)
    (term : List Char) : Bool :=
  match splitTerm term with
  | some (key, value) =>
      labels.bind (·.get? key) == some value
  | none => false

/- Whether a selector selects an object with these labels. -/
def selects
    (selector : String)
    (labels : Option Labels) : Bool :=
  (terms selector).all (holds labels)

end Selector

end Redeploy
