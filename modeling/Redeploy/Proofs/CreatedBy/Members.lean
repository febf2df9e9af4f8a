import Redeploy.Proofs.CreatedBy
import Redeploy.Proofs.Json.Exactness

/-
  What is read of a record that others wrote.

  Key definitions include:
    * `Json.TextOrNull`
    * `Json.lastText`
    * `OwnerReference.ofLast`
    * `CreatedBy.Holds`

  Main results:
    * `OwnerReference.accept_ofLast`
    * `OwnerReference.ofJson_ofFields`
    * `CreatedBy.Holds.ofJson_ofFields`
    * `CreatedBy.ofRecordText_members`

  Neither the order of the members nor the blanks between
  them matter, and members of other names are skipped,
  whatever their values are.  Of the members of a reference
  the last one of a key counts, also if it is null.
-/

------------------------------------------------------------
-- Values
------------------------------------------------------------

namespace Redeploy

namespace Json

/- Whether a value is null, or a string that names
   characters. -/
inductive TextOrNull : Json → Prop where
  | null :
      TextOrNull .null
  | text
      (s : String) :
      TextOrNull (.string (some s))

/- The characters that a value names. -/
def text? : Json → Option String
  | .string text => text
  | _ => none

theorem TextOrNull.optional_eq
    {value : Json}
    (h : value.TextOrNull) :
    optional asText value = .ok value.text? := by
  cases h with
  | null => rfl
  | text s => rfl

end Json

end Redeploy

------------------------------------------------------------
-- Members
------------------------------------------------------------

namespace Redeploy

namespace Json

/- What the last member of a key names: nothing if it is
   null, or if there is none. -/
def lastText
    (key : String)
    (members : List (String × Json)) : Option String :=
  (members.filter (·.1 == key)).getLast?.bind (·.2.text?)

/- Whether there is at most one member of a key, and it is a
   text or null. -/
structure MayHave
    (key : String)
    (members : List (String × Json)) : Prop where
  once : (members.filter (·.1 == key)).length ≤ 1
  textOrNull :
    ∀ m ∈ members, m.1 = key → m.2.TextOrNull

/- A member that is added counts for its own key only. -/
theorem lastText_concat
    (key : String)
    (members : List (String × Json))
    (m : String × Json) :
    lastText key (members ++ [m]) =
      if m.1 = key then m.2.text?
      else lastText key members := by
  unfold lastText
  rw [List.filter_append]
  by_cases hKey : m.1 = key
  · rw [if_pos hKey, List.filter_cons_of_pos (by simp [hKey]),
      List.filter_nil, List.getLast?_concat]
    rfl
  · rw [if_neg hKey, List.filter_cons_of_neg (by simp [hKey]),
      List.filter_nil, List.append_nil]

/- Members of other keys do not count. -/
theorem lastText_filter
    {key : String}
    {keep : String × Json → Bool}
    (hKeep : ∀ m, m.1 = key → keep m = true)
    (members : List (String × Json)) :
    lastText key (members.filter keep) =
      lastText key members := by
  unfold lastText
  rw [List.filter_filter]
  have hBoth :
      (fun m : String × Json => m.1 == key && keep m) =
        fun m => m.1 == key := by
    funext m
    by_cases hKey : m.1 = key
    · simp [hKey, hKeep m hKey]
    · simp [hKey]
  rw [hBoth]

end Json

end Redeploy

------------------------------------------------------------
-- References
------------------------------------------------------------

namespace Redeploy

open Json (lastText lastText_concat TextOrNull)

namespace OwnerReference

/- The keys of the members that a reference takes in. -/
def keys : List String :=
  ["apiVersion", "fieldPath", "kind", "name", "namespace",
    "resourceVersion", "uid"]

/- The reference that the last members of each key make. -/
def ofLast
    (members : List (String × Json)) : OwnerReference where
  apiVersion := lastText "apiVersion" members
  fieldPath := lastText "fieldPath" members
  kind := lastText "kind" members
  name := lastText "name" members
  ns := lastText "namespace" members
  resourceVersion := lastText "resourceVersion" members
  uid := lastText "uid" members

/- The members that a reference takes in. -/
def known
    (members : List (String × Json)) : List (String × Json) :=
  members.filter (·.1 ∈ keys)

/- A member overrides those before it, and one of another
   name changes nothing. -/
theorem accept_ofLast
    {key : String}
    {value : Json}
    (hText : key ∈ keys → value.TextOrNull)
    (members : List (String × Json)) :
    (ofLast members).accept key value =
      .ok (ofLast (members ++ [(key, value)])) := by
  unfold accept
  split
  case h_8 hApiVersion hFieldPath hKind hName hNs hVersion
      hUid =>
    simp only [ofLast, lastText_concat, if_neg hApiVersion,
      if_neg hFieldPath, if_neg hKind, if_neg hName,
      if_neg hNs, if_neg hVersion, if_neg hUid]
    rfl
  -- a key of the reference, whose field is set
  all_goals
    rw [(hText (by decide)).optional_eq]
    simp only [ofLast, lastText_concat]
    rfl

theorem ofJson_ofFields
    {members : List (String × Json)}
    (hText :
      ∀ m ∈ members, m.1 ∈ keys → m.2.TextOrNull) :
    ofJson (.ofFields members) = .ok (ofLast members) := by
  rw [ofJson, Json.fold_ofFields]
  -- members come in at the end, so the list is built there
  induction members using List.reverseRecOn with
  | nil => rfl
  | append_singleton members m ih =>
      have hBefore :
          ∀ m' ∈ members, m'.1 ∈ keys → m'.2.TextOrNull :=
        fun m' hMem => hText m' (List.mem_append_left _ hMem)
      have hLast : m.1 ∈ keys → m.2.TextOrNull :=
        hText m (by simp)
      rw [List.foldlM_append, ih hBefore]
      change (ofLast members).accept m.1 m.2 >>= pure = _
      rw [bind_pure]
      exact accept_ofLast hLast members

theorem ofLast_known
    (members : List (String × Json)) :
    ofLast (known members) = ofLast members := by
  have hKey
      (key : String)
      (h : key ∈ keys) :
      lastText key (known members) = lastText key members :=
    Json.lastText_filter
      (fun m hSame => by simpa [hSame] using h) members
  unfold ofLast
  rw [hKey "apiVersion" (by decide),
    hKey "fieldPath" (by decide), hKey "kind" (by decide),
    hKey "name" (by decide), hKey "namespace" (by decide),
    hKey "resourceVersion" (by decide),
    hKey "uid" (by decide)]

end OwnerReference

end Redeploy

------------------------------------------------------------
-- Records
------------------------------------------------------------

namespace Redeploy

open Json (lastText Padded TextOrNull)

namespace CreatedBy

/- Whether the members of an object, among any others, are
   those of a record whose reference has some members. -/
structure Holds
    (members reference : List (String × Json)) : Prop where
  kind : Json.MayHave "kind" members
  apiVersion : Json.MayHave "apiVersion" members
  referenceOnce :
    members.filter (·.1 == "reference") =
      [("reference", .ofFields reference)]
  textOrNull :
    ∀ m ∈ reference, m.1 ∈ OwnerReference.keys →
      m.2.TextOrNull

/- A member that may be left out is read. -/
theorem exists_field
    {key : String}
    {members : List (String × Json)}
    (h : Json.MayHave key members) :
    ∃ text, field key members = .ok text := by
  unfold field Json.only?
  have hOnce := h.once
  cases hFilter : members.filter (·.1 == key) with
  | nil => exact ⟨none, rfl⟩
  | cons m others =>
      rw [hFilter] at hOnce
      have hAlone : others = [] :=
        List.eq_nil_of_length_eq_zero (by
          rw [List.length_cons] at hOnce
          omega)
      have hMem : m ∈ members.filter (·.1 == key) := by
        rw [hFilter]
        exact List.mem_cons_self
      rcases List.mem_filter.mp hMem with ⟨hMem, hKey⟩
      subst hAlone
      refine ⟨m.2.text?, ?_⟩
      exact (h.textOrNull m hMem
        (beq_iff_eq.mp hKey)).optional_eq

variable {members reference : List (String × Json)}

/- Such members are read as a record. -/
theorem Holds.ofJson_ofFields
    (h : Holds members reference) :
    ∃ record, ofJson (.ofFields members) = .ok record ∧
      record.reference = .ofLast reference := by
  rcases exists_field h.kind with ⟨kind, hKind⟩
  rcases exists_field h.apiVersion with
    ⟨apiVersion, hApiVersion⟩
  have hOnly :
      Json.only "reference" members =
        .ok (.ofFields reference) := by
    unfold Json.only Json.only?
    rw [h.referenceOnce]
    rfl
  refine ⟨⟨kind, apiVersion, .ofLast reference⟩, ?_, rfl⟩
  rw [Json.ofFields, ofJson, Json.named_texts]
  simp only [bind, Except.bind]
  rw [hOnly, hKind, hApiVersion]
  simp only [OwnerReference.ofJson_ofFields h.textOrNull]
  rfl

theorem Holds.ofRecordText_eq
    {text : String}
    (hText : Padded (.ofFields members) text.toList)
    (h : Holds members reference) :
    OwnerReference.ofRecordText text =
      .ok (.ofLast reference) := by
  rcases h.ofJson_ofFields with ⟨record, hRead, hReference⟩
  rw [OwnerReference.ofRecordText, parse,
    Json.parse?_of_padded hText]
  simp only [hRead, hReference]

/-
  Any text of a record names an owner, whose fields are what
  the last members of their keys say.  So two texts that
  agree on those members name the same one.
-/
theorem ofRecordText_members
    {text : String}
    (hText : Padded (.ofFields members) text.toList)
    (hHolds : Holds members reference) :
    OwnerReference.ofRecordText text =
      .ok
        { apiVersion := lastText "apiVersion" reference
          fieldPath := lastText "fieldPath" reference
          kind := lastText "kind" reference
          name := lastText "name" reference
          ns := lastText "namespace" reference
          resourceVersion :=
            lastText "resourceVersion" reference
          uid := lastText "uid" reference } ∧
    ∀ (text' : String)
      (members' reference' : List (String × Json)),
      Padded (.ofFields members') text'.toList →
      Holds members' reference' →
      OwnerReference.known reference' =
        OwnerReference.known reference →
      OwnerReference.ofRecordText text' =
        OwnerReference.ofRecordText text := by
  refine ⟨hHolds.ofRecordText_eq hText, ?_⟩
  intro text' members' reference' hText' hHolds' hKnown
  rw [hHolds.ofRecordText_eq hText,
    hHolds'.ofRecordText_eq hText',
    ← OwnerReference.ofLast_known reference',
    ← OwnerReference.ofLast_known reference, hKnown]

/- Blanks, an escaped key, half of a surrogate pair, a number
   beyond all doubles, a key that is repeated and one that is
   null are no obstacle. -/
theorem ofRecordText_members_awkward :
    OwnerReference.ofRecordText
        ("\x7b\"x\":[1e999, \"\\ud800\"],\r\n\"reference\" :" ++
          "\x7b\"uid\":\"a\", \"name\":null,\t" ++
          "\"kind\":\"Job\",\"\\u0075id\":\"b\"\x7d\x7d") =
      .ok { kind := some "Job", uid := some "b" } := by
  let reference : List (String × Json) :=
    [("uid", .ofText "a"), ("name", .null),
     ("kind", .ofText "Job"), ("uid", .ofText "b")]
  let members : List (String × Json) :=
    [("x", .array [.number "1e999", .string none]),
     ("reference", .ofFields reference)]
  have hHolds : Holds members reference :=
    { kind := ⟨by decide, by simp [members]⟩
      apiVersion := ⟨by decide, by simp [members]⟩
      referenceOnce := rfl
      textOrNull := by
        simp [reference, Json.ofText, TextOrNull.null,
          TextOrNull.text] }
  refine (ofRecordText_members ?_ hHolds).1
  rw [String.toList_append, String.toList_append]
  change Padded _ ((String.ofList _).toList ++
    (String.ofList _).toList ++ (String.ofList _).toList)
  rw [String.toList_ofList, String.toList_ofList,
    String.toList_ofList]
  exact Json.padded_of_readValue 200 rfl Json.blanks_nil

end CreatedBy

end Redeploy
