import Redeploy.CreatedBy
import Redeploy.Proofs.Json.Writing

/-
  A record of who created a pod is read back as it was
  written.

  Key definitions include:
    * `Json.ofFields`
    * `Json.present`

  Main results:
    * `Json.fold_ofFields`
    * `OwnerReference.ofJson_toJson`
    * `CreatedBy.parse_render`
    * `CreatedBy.ofRecordText_owner`

  Members that are absent are not written, and a member that
  is not read leaves its field absent.
-/

------------------------------------------------------------
-- Members
------------------------------------------------------------

namespace Redeploy

namespace Json

/- An object whose keys are texts. -/
def ofFields
    (members : List (String × Json)) : Json :=
  .object (members.map fun m => (some m.1, m.2))

/- The members that have a value. -/
def present
    (members : List (String × Option Json)) :
    List (String × Json) :=
  members.filterMap fun m =>
    m.2.map fun value => (m.1, value)

theorem ofMembers_eq
    (members : List (String × Option Json)) :
    ofMembers members = ofFields (present members) := by
  simp only [ofMembers, ofFields, present,
    List.map_filterMap, Option.map_map]
  rfl

/- Every key that is a text is kept. -/
theorem named_texts
    (members : List (String × Json)) :
    named (members.map fun m => (some m.1, m.2)) =
      .ok members := by
  induction members with
  | nil => rfl
  | cons member members ih =>
      rw [named] at ih ⊢
      rw [List.map_cons, List.mapM_cons, ih]
      rfl

theorem fold_ofFields
    {α : Type}
    (start : α)
    (accept : α → String → Json → Except Fault α)
    (members : List (String × Json)) :
    fold start accept (ofFields members) =
      members.foldlM
        (fun record member =>
          accept record member.1 member.2)
        start := by
  rw [ofFields, fold, named_texts]
  rfl

theorem legibleMembers_of_forall
    {members : List (String × Json)}
    (h : ∀ m ∈ members, m.2.Legible) :
    LegibleMembers
      (members.map fun m => (some m.1, m.2)) := by
  induction members with
  | nil => trivial
  | cons member members ih =>
      exact ⟨rfl, h member List.mem_cons_self,
        ih fun m hMem => h m (List.mem_cons_of_mem _ hMem)⟩

/- An object is legible if its members are. -/
theorem legible_ofMembers
    {members : List (String × Option Json)}
    (h : ∀ m ∈ members, ∀ value ∈ m.2, value.Legible) :
    (ofMembers members).Legible := by
  rw [ofMembers_eq]
  apply legibleMembers_of_forall
  intro member hMember
  rcases List.mem_filterMap.mp hMember with ⟨m, hMem, hEq⟩
  rcases Option.map_eq_some_iff.mp hEq with
    ⟨value, hValue, rfl⟩
  exact h m hMem value hValue

/- A text is legible, and so is one that is absent. -/
theorem legible_of_mem_text
    {text : Option String}
    {value : Json}
    (h : value ∈ text.map ofText) :
    value.Legible := by
  rcases Option.map_eq_some_iff.mp h with ⟨s, _, rfl⟩
  rfl

end Json

end Redeploy

------------------------------------------------------------
-- References
------------------------------------------------------------

namespace Redeploy

open Json (present legible_of_mem_text)

namespace OwnerReference

theorem legible_toJson
    (r : OwnerReference) :
    r.toJson.Legible := by
  apply Json.legible_ofMembers
  intro m hMem value hValue
  simp only [List.mem_cons, List.not_mem_nil, or_false]
    at hMem
  rcases hMem with rfl | rfl | rfl | rfl | rfl | rfl | rfl <;>
    exact legible_of_mem_text hValue

/- A text is entered into its field, and one that is absent
   leaves the field absent. -/
private theorem foldlM_accept_text
    {text : Option String}
    {members : List (String × Option Json)}
    (key : String)
    (enter : Option String → OwnerReference)
    (hEnter :
      ∀ s, (enter none).accept key (.ofText s) =
        .ok (enter (some s))) :
    (present ((key, text.map .ofText) :: members)).foldlM
        (fun r member => r.accept member.1 member.2)
        (enter none) =
      (present members).foldlM
        (fun r member => r.accept member.1 member.2)
        (enter text) := by
  cases text with
  | none => rfl
  | some s =>
      have hFirst :
          present ((key, some (.ofText s)) :: members) =
            (key, .ofText s) :: present members :=
        rfl
      rw [Option.map_some, hFirst, List.foldlM_cons, hEnter]
      rfl

/- A reference is read back from the object written for
   it. -/
theorem ofJson_toJson
    (r : OwnerReference) :
    ofJson r.toJson = .ok r := by
  rcases r with
    ⟨apiVersion, fieldPath, kind, name, ns,
      resourceVersion, uid⟩
  rw [ofJson, toJson, Json.ofMembers_eq,
    Json.fold_ofFields]
  -- one field after the other, in the order of the members
  rw [foldlM_accept_text "apiVersion"
      (fun apiVersion => { apiVersion }) fun _ => rfl]
  rw [foldlM_accept_text "fieldPath"
      (fun fieldPath => { apiVersion, fieldPath })
      fun _ => rfl]
  rw [foldlM_accept_text "kind"
      (fun kind => { apiVersion, fieldPath, kind })
      fun _ => rfl]
  rw [foldlM_accept_text "name"
      (fun name => { apiVersion, fieldPath, kind, name })
      fun _ => rfl]
  rw [foldlM_accept_text "namespace"
      (fun ns =>
        { apiVersion, fieldPath, kind, name, ns })
      fun _ => rfl]
  rw [foldlM_accept_text "resourceVersion"
      (fun resourceVersion =>
        { apiVersion, fieldPath, kind, name, ns,
          resourceVersion })
      fun _ => rfl]
  rw [foldlM_accept_text "uid"
      (fun uid =>
        { apiVersion, fieldPath, kind, name, ns,
          resourceVersion, uid })
      fun _ => rfl]
  rfl

end OwnerReference

end Redeploy

------------------------------------------------------------
-- Records
------------------------------------------------------------

namespace Redeploy

namespace CreatedBy

open Json (present legible_of_mem_text)

theorem legible_toJson
    (c : CreatedBy) :
    c.toJson.Legible := by
  apply Json.legible_ofMembers
  intro m hMem value hValue
  rcases List.mem_cons.mp hMem with rfl | hMem
  · exact legible_of_mem_text hValue
  rcases List.mem_cons.mp hMem with rfl | hMem
  · exact legible_of_mem_text hValue
  rcases List.mem_singleton.mp hMem with rfl
  rcases Option.some.inj hValue with rfl
  exact c.reference.legible_toJson

/- A record is read back from the object written for it. -/
theorem ofJson_toJson
    (c : CreatedBy) :
    ofJson c.toJson = .ok c := by
  rcases c with ⟨kind, apiVersion, reference⟩
  let members :=
    present
      [("kind", kind.map .ofText),
       ("apiVersion", apiVersion.map .ofText),
       ("reference", some reference.toJson)]
  have hKind : field "kind" members = .ok kind := by
    cases kind <;> cases apiVersion <;> rfl
  have hApiVersion :
      field "apiVersion" members = .ok apiVersion := by
    cases kind <;> cases apiVersion <;> rfl
  have hReference :
      Json.only "reference" members =
        .ok reference.toJson := by
    cases kind <;> cases apiVersion <;> rfl
  rw [toJson, Json.ofMembers_eq, Json.ofFields, ofJson,
    Json.named_texts]
  simp only [bind, Except.bind]
  rw [hReference, hKind, hApiVersion]
  simp only [reference.ofJson_toJson]
  rfl

/- A record is read back from its text. -/
theorem parse_render
    (c : CreatedBy) :
    parse c.render = .ok c := by
  rw [parse, render, Json.parse?_render c.legible_toJson]
  exact c.ofJson_toJson

/- An annotation names the owner that it was written for,
   whatever characters the owner's texts have. -/
theorem ofRecordText_owner
    (kind ns name uid : String) :
    OwnerReference.ofRecordText
        (owner kind ns name uid).render =
      .ok
        { apiVersion := none
          fieldPath := none
          kind := some kind
          name := some name
          ns := some ns
          resourceVersion := none
          uid := some uid } := by
  rw [OwnerReference.ofRecordText, parse_render]
  rfl

end CreatedBy

end Redeploy
