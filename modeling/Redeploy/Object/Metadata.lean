import Redeploy.Json.Basic

/-
  What every object of a cluster carries.

  Key definitions include:
    * `Labels`
    * `ObjectKey`
    * `Metadata`
    * `Metadata.key`
    * `Metadata.path`
    * `Metadata.withoutIdentity`
    * `Labels.withoutController`

  An absent field differs from an empty one; the key of an
  object takes an absent name or namespace for the empty
  text.

  A record has a field for each member that something here
  looks at or changes.  Its other members are its rest, which
  is passed on as it is.
-/

------------------------------------------------------------
-- Keys
------------------------------------------------------------

namespace Redeploy

/- Label or annotation values by key. -/
abbrev Labels := Table String String

/- The place of a namespaced object. -/
@[ext]
structure ObjectKey where
  ns : String
  name : String
deriving DecidableEq, Inhabited

namespace ObjectKey

/- By namespace, then by name. -/
instance : Ord ObjectKey where
  compare :=
    compareLex (compareOn (·.ns)) (compareOn (·.name))

instance : Std.TransOrd ObjectKey :=
  inferInstanceAs (Std.TransCmp
    (compareLex (compareOn ObjectKey.ns)
      (compareOn ObjectKey.name)))

instance : Std.LawfulEqOrd ObjectKey where
  eq_of_compare := by
    intro a b h
    have h :
        (compare a.ns b.ns).then
          (compare a.name b.name) = .eq := h
    rw [Ordering.then_eq_eq] at h
    exact ObjectKey.ext
      (Std.compare_eq_iff_eq.mp h.1)
      (Std.compare_eq_iff_eq.mp h.2)

end ObjectKey

end Redeploy

------------------------------------------------------------
-- Metadata
------------------------------------------------------------

namespace Redeploy

structure Metadata where
  name : Option String := none
  ns : Option String := none
  uid : Option String := none
  resourceVersion : Option String := none
  selfLink : Option String := none
  generateName : Option String := none
  labels : Option Labels := none
  annotations : Option Labels := none
  /- Owners, finalizers, times, the generation and who
     manages which field. -/
  rest : Json.Members := .empty
deriving DecidableEq, Inhabited

namespace Metadata

def nameText
    (m : Metadata) : String :=
  m.name.getD ""

def nsText
    (m : Metadata) : String :=
  m.ns.getD ""

def key
    (m : Metadata) : ObjectKey where
  ns := m.nsText
  name := m.nameText

/- Drop what only the server assigns, so that the object can
   be created again. -/
def withoutIdentity
    (m : Metadata) : Metadata :=
  { m with
    uid := none
    selfLink := none
    resourceVersion := none }

/- One annotation, if it is there. -/
def annotationText?
    (m : Metadata)
    (key : String) : Option String :=
  m.annotations.bind (·.get? key)

/- Set one annotation. -/
def annotate
    (m : Metadata)
    (key value : String) : Metadata :=
  { m with
    annotations :=
      some ((m.annotations.getD .empty).insert key value) }

end Metadata

/- `ns/name`, or the name alone in no namespace. -/
def ObjectKey.path
    (k : ObjectKey) : String :=
  if k.ns = "" then k.name else k.ns ++ "/" ++ k.name

/- How messages call the object. -/
def Metadata.path
    (m : Metadata) : String :=
  m.key.path

end Redeploy

------------------------------------------------------------
-- Controller Labels
------------------------------------------------------------

namespace Redeploy

/- The labels by which a running job marks its own pods. -/
def controllerLabels : List String :=
  ["controller-uid", "batch.kubernetes.io/controller-uid"]

/- Drop the labels that tie a selector or a template to one
   running job. -/
def Labels.withoutController
    (labels : Labels) : Labels :=
  controllerLabels.foldl (·.erase ·) labels

end Redeploy
