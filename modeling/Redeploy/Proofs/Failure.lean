import Redeploy.Failure

/-
  What a failed request amounts to.

  Key definitions include:
    * `StatusDetails.Tells`
    * `Status.Says`
    * `Annotation`
    * `Failure.Classifies`
    * `Failure.Retells`

  Main results:
    * `StatusDetails.text_eq_empty_iff`
    * `Failure.classed_ofClient`
    * `ClientError.annotated_objects`
    * `Failure.ofClient_classifies`

  The code and the reason of a status decide on the class of
  a failure.  What is said of the attempt and of the object
  shows in the text alone; a failure without a class is the
  error itself.
-/

------------------------------------------------------------
-- Details
------------------------------------------------------------

namespace Redeploy

/- Joined parts say nothing only if there is none of them. -/
theorem intercalate_eq_empty_iff
    {separator : String}
    {parts : List String}
    (hParts : ∀ part ∈ parts, part ≠ "") :
    separator.intercalate parts = "" ↔ parts = [] := by
  cases parts with
  | nil => simp
  | cons part rest =>
      have hPart : part ≠ "" := hParts part (by simp)
      cases rest with
      | nil => simpa using hPart
      | cons next rest =>
          simp [String.append_eq_empty_iff, hPart]

namespace StatusDetails

/- Whether details say anything at all. -/
def Tells
    (d : StatusDetails) : Prop :=
  d.name ≠ "" ∨ d.group ≠ "" ∨ d.kind ≠ "" ∨ d.causes ≠ []

theorem isEmpty_iff
    {d : StatusDetails} :
    d.isEmpty = true ↔ ¬ d.Tells := by
  simp [isEmpty, Tells, and_assoc]

theorem part_eq_nil_iff
    {label value : String} :
    part label value = [] ↔ value = "" := by
  unfold part
  split <;> simp_all

/- A part that is there has at least its equals sign. -/
theorem ne_empty_of_mem_part
    {label value text : String}
    (h : text ∈ part label value) :
    text ≠ "" := by
  unfold part at h
  split at h
  · cases h
  · rw [List.mem_singleton.mp h]
    simp [String.append_eq_empty_iff]

/- The part that tells of causes, if there are any. -/
def causesPart
    (causes : List StatusCause) : List String :=
  if causes.isEmpty then []
  else
    ["causes=[" ++
      "; ".intercalate (causes.map StatusCause.text) ++ "]"]

theorem causesPart_eq_nil_iff
    {causes : List StatusCause} :
    causesPart causes = [] ↔ causes = [] := by
  simp [causesPart]

theorem ne_empty_of_mem_causesPart
    {causes : List StatusCause}
    {text : String}
    (h : text ∈ causesPart causes) :
    text ≠ "" := by
  unfold causesPart at h
  split at h
  · cases h
  · rw [List.mem_singleton.mp h]
    simp [String.append_eq_empty_iff]

/- The parts that the text is joined from. -/
def parts
    (d : StatusDetails) : List String :=
  part "name" d.name ++ part "group" d.group ++
    part "kind" d.kind ++ causesPart d.causes

theorem text_eq_intercalate
    (d : StatusDetails) :
    d.text = ", ".intercalate d.parts :=
  rfl

theorem parts_eq_nil_iff
    {d : StatusDetails} :
    d.parts = [] ↔ ¬ d.Tells := by
  simp [parts, Tells, part_eq_nil_iff,
    causesPart_eq_nil_iff]

theorem ne_empty_of_mem_parts
    {d : StatusDetails}
    {text : String}
    (h : text ∈ d.parts) :
    text ≠ "" := by
  simp only [parts, List.mem_append] at h
  rcases h with ((hName | hGroup) | hKind) | hCauses
  · exact ne_empty_of_mem_part hName
  · exact ne_empty_of_mem_part hGroup
  · exact ne_empty_of_mem_part hKind
  · exact ne_empty_of_mem_causesPart hCauses

/- The text is empty exactly for details without content. -/
theorem text_eq_empty_iff
    {d : StatusDetails} :
    d.text = "" ↔ ¬ d.Tells := by
  rw [text_eq_intercalate,
    intercalate_eq_empty_iff fun _ => ne_empty_of_mem_parts]
  exact parts_eq_nil_iff

end StatusDetails

end Redeploy

------------------------------------------------------------
-- Texts
------------------------------------------------------------

namespace Redeploy

/-
  Whether a text says what a status does: the attempt first
  if it is told, then the message, and then the details if
  they say anything.
-/
def Status.Says
    (s : Status)
    (context text : String) : Prop :=
  ∃ opening closing,
    text = opening ++ s.message ++ closing ∧
    (opening = if context = "" then "" else context ++ ": ") ∧
    (∀ d, s.details = some d → d.Tells →
      closing = ", details: " ++ d.text) ∧
    ((∀ d, s.details = some d → ¬ d.Tells) → closing = "")

namespace Failure

/- Without a context a status speaks for itself. -/
theorem says_statusText
    (s : Status) :
    s.Says "" (statusText s) := by
  unfold statusText
  cases hDetails : s.details with
  | none => exact ⟨"", "", by simp, rfl, by simp [hDetails]⟩
  | some details =>
      dsimp only
      split
      next hEmpty =>
        have hSilent := StatusDetails.isEmpty_iff.mp hEmpty
        refine ⟨"", "", by simp, rfl, ?_, fun _ => rfl⟩
        intro d hSome hTells
        rw [hDetails] at hSome
        cases hSome
        exact absurd hTells hSilent
      next hFull =>
        have hTells : details.Tells := by
          rw [StatusDetails.isEmpty_iff] at hFull
          exact Classical.not_not.mp hFull
        refine ⟨"", ", details: " ++ details.text, ?_, rfl,
          ?_, ?_⟩
        · simp [String.append_assoc]
        · intro d hSome _
          rw [hDetails] at hSome
          cases hSome
          rfl
        · intro hSilent
          exact absurd hTells (hSilent details hDetails)

theorem says_contextText
    (context : String)
    (s : Status) :
    s.Says context (contextText context s) := by
  unfold contextText
  split
  next hEmpty =>
    rw [hEmpty]
    exact says_statusText s
  next hContext =>
    rcases says_statusText s with
      ⟨opening, closing, hText, hOpening, hTold, hSilent⟩
    refine ⟨context ++ ": ", closing, ?_, ?_, hTold,
      hSilent⟩
    · rw [hText, hOpening]
      simp [String.append_assoc]
    · rw [if_neg hContext]

end Failure

end Redeploy

------------------------------------------------------------
-- Annotations
------------------------------------------------------------

namespace Redeploy

/- What can be said of the object of a failed request: some
   details of its status, or a name for an object without
   details. -/
inductive Annotation where
  | details (details : StatusDetails)
  | object (kind name : String)

/- Details that a status has are not replaced by the name of
   an object. -/
theorem Status.about_eq
    (s : Status)
    (kind name : String) :
    s.about kind name =
      { s with
        details :=
          s.details.or (some (.about kind name)) } := by
  rcases s with ⟨code, reason, message, details⟩
  cases details <;> rfl

namespace ClientError

/- An error to which an annotation was added. -/
def annotate : ClientError → Annotation → ClientError
  | e, .object kind name => e.about kind name
  | .status s, .details details =>
      .status (s.withDetails details)
  | e, .details _ => e

/- An error to which annotations were added, from first to
   last. -/
def annotated
    (e : ClientError)
    (annotations : List Annotation) : ClientError :=
  annotations.foldl annotate e

/- A status stays the same status with other details. -/
theorem annotated_status
    (s : Status)
    (annotations : List Annotation) :
    ∃ details,
      (ClientError.status s).annotated annotations =
        .status { s with details } := by
  induction annotations generalizing s with
  | nil => exact ⟨s.details, rfl⟩
  | cons annotation rest ih =>
      have hFirst :
          ∃ details,
            (ClientError.status s).annotate annotation =
              .status { s with details } := by
        cases annotation with
        | details details => exact ⟨some details, rfl⟩
        | object kind name =>
            exact ⟨_, congrArg status (s.about_eq kind name)⟩
      rcases hFirst with ⟨details, hFirst⟩
      rw [annotated, List.foldl_cons, hFirst]
      exact ih { s with details }

/- Any other error stays as it is. -/
theorem annotated_of_status?_eq_none
    {e : ClientError}
    (h : e.status? = none)
    (annotations : List Annotation) :
    e.annotated annotations = e := by
  induction annotations with
  | nil => rfl
  | cons annotation rest ih =>
      have hFirst : e.annotate annotation = e := by
        cases e with
        | status s => cases h
        | transport cause => cases annotation <;> rfl
        | encoding cause => cases annotation <;> rfl
      rw [annotated, List.foldl_cons, hFirst]
      exact ih

/- Of several names for the object, a status without details
   keeps the first one; details that it has stay. -/
theorem annotated_objects
    (s : Status)
    (objects : List (String × String)) :
    (ClientError.status s).annotated
        (objects.map fun o => .object o.1 o.2) =
      .status
        { s with
          details :=
            s.details.or
              (objects.head?.map fun o =>
                .about o.1 o.2) } := by
  induction objects generalizing s with
  | nil => simp [annotated]
  | cons object rest ih =>
      have hFirst :
          (ClientError.status s).annotate
              (.object object.1 object.2) =
            .status (s.about object.1 object.2) :=
        rfl
      rw [List.map_cons, annotated, List.foldl_cons, hFirst,
        Status.about_eq]
      refine (ih _).trans ?_
      cases s.details <;> rfl

end ClientError

end Redeploy

------------------------------------------------------------
-- Classification
------------------------------------------------------------

namespace Redeploy

namespace Failure

/- Whether a failure has the class of an error.  The code of
   a status decides, and for conflicts its reason as well. -/
structure Classifies
    (e : ClientError)
    (failure : Failure) : Prop where
  notFound_iff :
    failure.kind = .notFound ↔
      ∃ s, e = .status s ∧ s.code = 404
  accessDenied_iff :
    failure.kind = .accessDenied ↔
      ∃ s, e = .status s ∧ s.code = 403
  alreadyExists_iff :
    failure.kind = .alreadyExists ↔
      ∃ s, e = .status s ∧ s.code = 409 ∧
        s.reason = "AlreadyExists"
  unknown_iff :
    failure.kind = .unknown ↔
      ∀ s, e = .status s →
        s.code ≠ 404 ∧ s.code ≠ 403 ∧
          ¬ (s.code = 409 ∧ s.reason = "AlreadyExists")

/- Whether a failure tells all that an error says of an
   attempt, in a text of its own or by being that error. -/
structure Retells
    (context : String)
    (e : ClientError)
    (failure : Failure) : Prop where
  kept :
    failure.kind = .unknown → failure = .client e
  told :
    failure.kind ≠ .unknown →
      ∃ s text, e = .status s ∧ s.Says context text ∧
        (failure = .notFound text ∨
          failure = .accessDenied text ∨
          failure = .alreadyExists text)

/- The ways in which a failed request is classified. -/
inductive Classed
    (context : String) :
    ClientError → Failure → Prop where
  | notFound
      {s : Status}
      {text : String}
      (hCode : s.code = 404)
      (hText : s.Says context text) :
      Classed context (.status s) (.notFound text)
  | accessDenied
      {s : Status}
      {text : String}
      (hCode : s.code = 403)
      (hText : s.Says context text) :
      Classed context (.status s) (.accessDenied text)
  | alreadyExists
      {s : Status}
      {text : String}
      (hCode : s.code = 409)
      (hReason : s.reason = "AlreadyExists")
      (hText : s.Says context text) :
      Classed context (.status s) (.alreadyExists text)
  | unknown
      {e : ClientError}
      (hNone :
        ∀ s, e = .status s →
          s.code ≠ 404 ∧ s.code ≠ 403 ∧
            ¬ (s.code = 409 ∧ s.reason = "AlreadyExists")) :
      Classed context e (.client e)

theorem classed_ofClient
    (context : String)
    (e : ClientError) :
    Classed context e (ofClient context e) := by
  cases e with
  | status s =>
      have hText := says_contextText context s
      rw [ofClient]
      split
      next hConflict =>
        exact .alreadyExists hConflict.1 hConflict.2 hText
      next hConflict =>
        split
        next hCode => exact .notFound hCode hText
        next hMissing =>
          split
          next hCode => exact .accessDenied hCode hText
          next hDenied =>
            refine .unknown fun s' hSame => ?_
            cases hSame
            exact ⟨hMissing, hDenied, hConflict⟩
  | transport cause => exact .unknown (by simp)
  | encoding cause => exact .unknown (by simp)

variable {context : String}
variable {e : ClientError}
variable {failure : Failure}

theorem Classed.classifies
    (h : Classed context e failure) :
    Classifies e failure := by
  cases h with
  | notFound hCode =>
      constructor <;> simp [kind, hCode]
  | accessDenied hCode =>
      constructor <;> simp [kind, hCode]
  | alreadyExists hCode hReason =>
      constructor <;> simp [kind, hCode, hReason]
  | unknown hNone =>
      constructor
      · simpa [kind] using fun s hSame => (hNone s hSame).1
      · simpa [kind] using fun s hSame => (hNone s hSame).2.1
      · simpa [kind] using fun s hSame hCode hReason =>
          (hNone s hSame).2.2 ⟨hCode, hReason⟩
      · simpa [kind] using hNone

theorem Classed.retells
    (h : Classed context e failure) :
    Retells context e failure := by
  cases h with
  | notFound hCode hText =>
      refine ⟨fun hKind => ?_,
        fun _ => ⟨_, _, rfl, hText, .inl rfl⟩⟩
      cases hKind
  | accessDenied hCode hText =>
      refine ⟨fun hKind => ?_,
        fun _ => ⟨_, _, rfl, hText, .inr (.inl rfl)⟩⟩
      cases hKind
  | alreadyExists hCode hReason hText =>
      refine ⟨fun hKind => ?_,
        fun _ => ⟨_, _, rfl, hText, .inr (.inr rfl)⟩⟩
      cases hKind
  | unknown =>
      exact ⟨fun _ => rfl, fun h => absurd rfl h⟩

/- Annotations have no part in the class. -/
theorem classifies_annotated
    (annotations : List Annotation)
    (h : Classifies (e.annotated annotations) failure) :
    Classifies e failure := by
  cases e with
  | status s =>
      rcases ClientError.annotated_status s annotations with
        ⟨details, hStatus⟩
      rw [hStatus] at h
      constructor
      · simpa using h.notFound_iff
      · simpa using h.accessDenied_iff
      · simpa using h.alreadyExists_iff
      · simpa using h.unknown_iff
  | transport cause =>
      rwa [ClientError.annotated_of_status?_eq_none rfl] at h
  | encoding cause =>
      rwa [ClientError.annotated_of_status?_eq_none rfl] at h

/- The classes that a failed request can have. -/
theorem Classifies.known
    (h : Classifies e failure) :
    failure.kind = .notFound ∨
      failure.kind = .accessDenied ∨
      failure.kind = .alreadyExists ∨
      failure.kind = .unknown := by
  by_cases hFound : failure.kind = .notFound
  · exact .inl hFound
  by_cases hAllowed : failure.kind = .accessDenied
  · exact .inr (.inl hAllowed)
  by_cases hNew : failure.kind = .alreadyExists
  · exact .inr (.inr (.inl hNew))
  right; right; right
  rw [h.notFound_iff] at hFound
  rw [h.accessDenied_iff] at hAllowed
  rw [h.alreadyExists_iff] at hNew
  rw [h.unknown_iff]
  intro s hSame
  exact ⟨fun hCode => hFound ⟨s, hSame, hCode⟩,
    fun hCode => hAllowed ⟨s, hSame, hCode⟩,
    fun hConflict => hNew ⟨s, hSame, hConflict⟩⟩

/- Failures that have the class of one error are of the same
   kind. -/
theorem Classifies.kind_eq
    {failure' : Failure}
    (h : Classifies e failure)
    (h' : Classifies e failure') :
    failure.kind = failure'.kind := by
  rcases h.known with hKind | hKind | hKind | hKind
  · rw [hKind, h'.notFound_iff.mpr (h.notFound_iff.mp hKind)]
  · rw [hKind,
      h'.accessDenied_iff.mpr (h.accessDenied_iff.mp hKind)]
  · rw [hKind,
      h'.alreadyExists_iff.mpr
        (h.alreadyExists_iff.mp hKind)]
  · rw [hKind, h'.unknown_iff.mpr (h.unknown_iff.mp hKind)]

/-
  Whatever the context is and whatever an error was annotated
  with, the failure that it amounts to has the class of the
  error and tells all that the annotated error says.  Details
  show in a text exactly if they say anything, and of names
  for the object only the first one counts.
-/
theorem ofClient_classifies
    (context : String)
    (e : ClientError)
    (annotations : List Annotation) :
    Classifies e (ofClient context (e.annotated annotations)) ∧
    Retells context (e.annotated annotations)
      (ofClient context (e.annotated annotations)) ∧
    (∀ context',
      (ofClient context (e.annotated annotations)).kind =
        (ofClient context' e).kind) ∧
    (∀ d : StatusDetails, d.text = "" ↔ ¬ d.Tells) ∧
    (∀ (s : Status) (objects : List (String × String)),
      (ClientError.status s).annotated
          (objects.map fun o => .object o.1 o.2) =
        .status
          { s with
            details :=
              s.details.or
                (objects.head?.map fun o =>
                  .about o.1 o.2) }) := by
  have hClassed :=
    classed_ofClient context (e.annotated annotations)
  have hClass :=
    classifies_annotated annotations hClassed.classifies
  refine ⟨hClass, hClassed.retells, fun context' => ?_,
    fun d => d.text_eq_empty_iff,
    ClientError.annotated_objects⟩
  exact hClass.kind_eq
    (classed_ofClient context' e).classifies

end Failure

end Redeploy
