import Redeploy.Proofs.Cluster.Request
import Redeploy.Readiness

/-
  What a selector that is written for some labels selects.

  Key definitions include:
    * `Text.Trimmed`
    * `Labels.Expressible`
    * `Labels.IncludedIn`
    * `Labels.Valid`

  Main results:
    * `Selector.splitTerm_term`
    * `Selector.terms_selector`
    * `Labels.selects_selector_iff`
    * `Labels.Valid.expressible`
    * `Labels.selector_exact`

  A selector is read by splitting at its commas, trimming the
  terms and splitting each at its first equals sign.  Labels
  that cannot be mistaken for any of these come back as they
  were written, so an object is selected exactly if it has
  all of them.
-/

------------------------------------------------------------
-- Expressible Labels
------------------------------------------------------------

namespace Redeploy

/- Whether a text neither begins nor ends with white space. -/
structure Text.Trimmed
    (text : String) : Prop where
  head : ∀ c ∈ text.toList.head?, Text.isSpace c = false
  last : ∀ c ∈ text.toList.getLast?, Text.isSpace c = false

theorem Text.Trimmed.trim_eq
    {text : String}
    (h : Text.Trimmed text) :
    Text.trim text.toList = text.toList :=
  Text.trim_eq_self h.head h.last

/- Whether a term that asks for a label can be told from the
   terms beside it, and the key of the label from its
   value. -/
structure Selector.Expressible
    (key value : String) : Prop where
  no_comma_key : ',' ∉ key.toList
  no_equals_key : '=' ∉ key.toList
  no_comma_value : ',' ∉ value.toList
  trimmed_key : Text.Trimmed key
  trimmed_value : Text.Trimmed value

instance
    (text : String) :
    Decidable (Text.Trimmed text) :=
  decidable_of_iff
    (text.toList.head?.all (!Text.isSpace ·) = true ∧
      text.toList.getLast?.all (!Text.isSpace ·) = true)
    (by
      simp only [Option.all_eq_true, Bool.not_eq_true']
      exact ⟨fun ⟨hHead, hLast⟩ => ⟨hHead, hLast⟩,
        fun h => ⟨h.head, h.last⟩⟩)

instance
    (key value : String) :
    Decidable (Selector.Expressible key value) :=
  decidable_of_iff
    (',' ∉ key.toList ∧ '=' ∉ key.toList ∧
      ',' ∉ value.toList ∧ Text.Trimmed key ∧
      Text.Trimmed value)
    ⟨fun ⟨h₁, h₂, h₃, h₄, h₅⟩ => ⟨h₁, h₂, h₃, h₄, h₅⟩,
      fun h => ⟨h.no_comma_key, h.no_equals_key,
        h.no_comma_value, h.trimmed_key, h.trimmed_value⟩⟩

namespace Labels

/- Whether a selector can ask for all of these labels. -/
def Expressible
    (wanted : Labels) : Prop :=
  ∀ key value, wanted.get? key = some value →
    Selector.Expressible key value

instance
    (wanted : Labels) :
    Decidable wanted.Expressible :=
  decidable_of_iff
    (∀ e ∈ wanted.toList, Selector.Expressible e.1 e.2)
    ⟨fun h key value hGet =>
        h (key, value) (Table.get?_eq_some_iff.mp hGet),
      fun h e hEntry =>
        h e.1 e.2 (Table.get?_eq_some_iff.mpr hEntry)⟩

/- Whether an object has all labels that are asked for; one
   without labels has the empty table. -/
def IncludedIn
    (wanted : Labels)
    (labels : Option Labels) : Prop :=
  ∀ key value, wanted.get? key = some value →
    (labels.getD .empty).get? key = some value

end Labels

end Redeploy

------------------------------------------------------------
-- Terms
------------------------------------------------------------

namespace Redeploy

namespace Selector

open Text (trim isSpace)

variable {key value : String}

theorem toList_term
    (key value : String) :
    (term key value).toList =
      key.toList ++ '=' :: value.toList := by
  simp [term]

/- White space at the ends of a term would be that of its key
   or of its value. -/
theorem trim_term
    (h : Expressible key value) :
    trim (term key value).toList =
      (term key value).toList := by
  have hEquals : isSpace '=' = false := by decide
  rw [toList_term]
  apply Text.trim_eq_self
  · intro c hHead
    rw [List.head?_append] at hHead
    cases hKey : key.toList.head? with
    | none =>
        rw [hKey] at hHead
        cases hHead
        exact hEquals
    | some first =>
        rw [hKey] at hHead
        exact h.trimmed_key.head c (hKey.trans hHead)
  · intro c hLast
    rw [List.getLast?_append, List.getLast?_cons] at hLast
    cases hValue : value.toList.getLast? with
    | none =>
        rw [hValue] at hLast
        cases hLast
        exact hEquals
    | some last =>
        rw [hValue] at hLast
        cases hLast
        exact h.trimmed_value.last last hValue

theorem comma_not_mem_term
    (h : Expressible key value) :
    ',' ∉ (term key value).toList := by
  rw [toList_term, List.mem_append, List.mem_cons]
  rintro (hKey | hEquals | hValue)
  · exact h.no_comma_key hKey
  · cases hEquals
  · exact h.no_comma_value hValue

/- A term is split where it was joined, whatever equals signs
   the value has. -/
theorem splitTerm_term
    (h : Expressible key value) :
    splitTerm (term key value).toList = some (key, value) := by
  have hNone : ∀ c ∈ key.toList, (c != '=') = true := by
    intro c hKey
    rw [bne_iff_ne]
    rintro rfl
    exact h.no_equals_key hKey
  have hTake :
      (term key value).toList.takeWhile (· != '=') =
        key.toList := by
    rw [toList_term, List.takeWhile_append_of_pos hNone]
    simp
  have hDrop :
      (term key value).toList.dropWhile (· != '=') =
        '=' :: value.toList := by
    rw [toList_term, List.dropWhile_append_of_pos hNone]
    simp
  unfold splitTerm
  rw [hTake, hDrop]
  dsimp only
  rw [h.trimmed_key.trim_eq, h.trimmed_value.trim_eq,
    String.ofList_toList, String.ofList_toList]

theorem holds_term_iff
    {labels : Option Labels}
    (h : Expressible key value) :
    holds labels (term key value).toList = true ↔
      (labels.getD .empty).get? key = some value := by
  unfold holds
  rw [splitTerm_term h]
  cases labels with
  | none => simp
  | some labels => simp

end Selector

end Redeploy

------------------------------------------------------------
-- Selectors
------------------------------------------------------------

namespace Redeploy

open Text (trim)

variable {wanted : Labels}

theorem Labels.Expressible.of_mem
    (h : wanted.Expressible)
    {e : String × String}
    (hEntry : e ∈ wanted.toList) :
    Selector.Expressible e.1 e.2 :=
  h e.1 e.2 (Table.get?_eq_some_iff.mpr hEntry)

/- The terms that are read are those that were written.  No
   labels are written as one empty term, which says
   nothing. -/
theorem Selector.terms_selector
    (h : wanted.Expressible) :
    terms wanted.selector =
      wanted.toList.map fun e => (term e.1 e.2).toList := by
  let written : List (List Char) :=
    wanted.toList.map fun e => (term e.1 e.2).toList
  have hText :
      wanted.selector.toList = [','].intercalate written := by
    unfold Labels.selector
    rw [String.toList_intercalate, List.map_map]
    rfl
  have hCommas : ∀ text ∈ written, ',' ∉ text := by
    intro text hText
    rcases List.mem_map.mp hText with ⟨e, hEntry, rfl⟩
    exact comma_not_mem_term (h.of_mem hEntry)
  have hTrim : written.map trim = written := by
    rw [List.map_map]
    apply List.map_congr_left
    intro e hEntry
    exact trim_term (h.of_mem hEntry)
  have hSaying : ∀ text ∈ written, (!text.isEmpty) = true := by
    intro text hText
    rcases List.mem_map.mp hText with ⟨e, -, rfl⟩
    rw [toList_term]
    simp
  unfold terms
  rw [hText]
  change _ = written
  by_cases hNone : written = []
  · rw [hNone]
    rfl
  · rw [List.splitOn_intercalate ',' hCommas hNone, hTrim]
    exact List.filter_eq_self.mpr hSaying

namespace Labels

/- A selector selects exactly the objects that have all the
   labels that it was written for. -/
theorem selects_selector_iff
    (h : wanted.Expressible)
    (labels : Option Labels) :
    Selector.selects wanted.selector labels = true ↔
      wanted.IncludedIn labels := by
  unfold Selector.selects
  rw [Selector.terms_selector h, List.all_eq_true]
  constructor
  · intro hHolds key value hGet
    rw [← Selector.holds_term_iff (h key value hGet)]
    apply hHolds
    rw [List.mem_map]
    exact ⟨(key, value), Table.get?_eq_some_iff.mp hGet, rfl⟩
  · intro hIncluded text hText
    rcases List.mem_map.mp hText with ⟨e, hEntry, rfl⟩
    exact (Selector.holds_term_iff (h.of_mem hEntry)).mpr
      (hIncluded e.1 e.2 (Table.get?_eq_some_iff.mpr hEntry))

end Labels

end Redeploy

------------------------------------------------------------
-- Valid Labels
------------------------------------------------------------

namespace Redeploy

namespace Labels

variable {wanted : Labels}

/- The characters that servers accept in the keys and values
   of labels: letters, digits, hyphens, dots, slashes and
   underscores. -/
def labelRanges : List Text.CharRange :=
  [(0x002D, 0x0039), (0x0041, 0x005A), (0x005F, 0x005F),
   (0x0061, 0x007A)]

def isLabelChar
    (c : Char) : Bool :=
  Text.inRanges labelRanges c

/- Whether labels are written in these characters only. -/
def Valid
    (labels : Labels) : Prop :=
  ∀ key value, labels.get? key = some value →
    (∀ c ∈ key.toList, isLabelChar c = true) ∧
      ∀ c ∈ value.toList, isLabelChar c = true

theorem isSpace_labelChar
    {c : Char}
    (h : isLabelChar c = true) :
    Text.isSpace c = false := by
  rw [Bool.eq_false_iff]
  intro hSpace
  simp only [isLabelChar, labelRanges, Text.isSpace,
    Text.spaceRanges, Text.inRanges, List.any_cons,
    List.any_nil, Bool.or_eq_true, Bool.and_eq_true,
    decide_eq_true_eq, Bool.false_eq_true, or_false]
    at h hSpace
  omega

theorem trimmed_labelText
    {text : String}
    (h : ∀ c ∈ text.toList, isLabelChar c = true) :
    Text.Trimmed text where
  head c hHead :=
    isSpace_labelChar (h c (List.mem_of_mem_head? hHead))
  last c hLast :=
    isSpace_labelChar (h c (List.mem_of_mem_getLast? hLast))

/- A selector can ask for all labels that are valid. -/
theorem Valid.expressible
    (h : wanted.Valid) :
    wanted.Expressible := by
  intro key value hGet
  rcases h key value hGet with ⟨hKey, hValue⟩
  exact
    { no_comma_key := fun hComma => by
        cases hKey _ hComma
      no_equals_key := fun hEquals => by
        cases hKey _ hEquals
      no_comma_value := fun hComma => by
        cases hValue _ hComma
      trimmed_key := trimmed_labelText hKey
      trimmed_value := trimmed_labelText hValue }

end Labels

end Redeploy

------------------------------------------------------------
-- Listed Objects
------------------------------------------------------------

namespace Redeploy

variable {wanted : Labels}

/- The pods that such a selector selects are those of the
   namespace that have the labels. -/
theorem Cluster.lists_labelled
    (h : wanted.Expressible)
    (c : Cluster)
    (ns : String) :
    c.pods.Lists
      (fun key pod =>
        key.ns = ns ∧ wanted.IncludedIn pod.metadata.labels)
      (c.selected ns wanted.selector) := by
  simpa only [Labels.selects_selector_iff h] using
    c.lists_selected ns wanted.selector

theorem Cluster.lists_labelledNodes
    (h : wanted.Expressible)
    (c : Cluster) :
    c.nodes.Lists
      (fun _ node => wanted.IncludedIn node.metadata.labels)
      (c.selectedNodes wanted.selector) := by
  simpa only [Labels.selects_selector_iff h] using
    c.lists_selectedNodes wanted.selector

/- Without a node selector a pod may run on every node. -/
theorem PodSpec.selector_eq
    (spec : PodSpec) :
    spec.selector =
      (spec.nodeSelector.getD .empty).selector := by
  rw [PodSpec.selector]
  cases spec.nodeSelector with
  | none => rfl
  | some labels => rfl

/- Nodes are asked for once, and nothing else happens. -/
theorem PodSpec.run_nodes
    (spec : PodSpec)
    {w : World Cluster}
    (hPass : w.system.failure? .listNodes = none) :
    (spec.nodes Cluster.client).run w =
      (.ok (w.system.selectedNodes spec.selector),
        { w with
          system :=
            w.system.heard (.listNodes spec.selector) }) := by
  rw [PodSpec.nodes, Client.request, Act.run_mapError]
  change
    ((Cluster.listNodes spec.selector w.system).1.mapError _,
      { w with
        system :=
          (Cluster.listNodes spec.selector w.system).2 }) = _
  rw [Cluster.listNodes_of_pass hPass]
  rfl

namespace Labels

/-
  Selecting by some labels, valid ones among others, is
  asking for objects that have them all, and a cluster in
  memory that is asked without a scripted failure lists
  exactly these, in the order of their keys.
-/
theorem selector_exact
    (hWanted : wanted.Expressible) :
    (∀ valid : Labels, valid.Valid → valid.Expressible) ∧
    (∀ labels,
      Selector.selects wanted.selector labels = true ↔
        wanted.IncludedIn labels) ∧
    (wanted = .empty →
      ∀ labels,
        Selector.selects wanted.selector labels = true) ∧
    (∀ (ns : String) (w : World Cluster),
      w.system.failure? .listPods = none →
      ∃ pods,
        (Cluster.client.listPods ns wanted.selector).run w =
          (.ok pods,
            { w with
              system :=
                w.system.heard
                  (.listPods ns wanted.selector) }) ∧
        w.system.pods.Lists
          (fun key pod =>
            key.ns = ns ∧
              wanted.IncludedIn pod.metadata.labels)
          pods) ∧
    ∀ (spec : PodSpec) (w : World Cluster),
      spec.nodeSelector.getD .empty = wanted →
      w.system.failure? .listNodes = none →
      ∃ nodes,
        (spec.nodes Cluster.client).run w =
          (.ok nodes,
            { w with
              system :=
                w.system.heard
                  (.listNodes wanted.selector) }) ∧
        w.system.nodes.Lists
          (fun _ node =>
            wanted.IncludedIn node.metadata.labels)
          nodes := by
  have hSelects := selects_selector_iff hWanted
  refine ⟨fun _ hValid => hValid.expressible, hSelects,
    ?_, ?_, ?_⟩
  · rintro rfl labels
    rw [hSelects]
    intro key value hGet
    cases hGet
  · intro ns w hPass
    refine ⟨w.system.selected ns wanted.selector, ?_,
      w.system.lists_labelled hWanted ns⟩
    change
      ((Cluster.listPods ns wanted.selector w.system).1,
        { w with
          system :=
            (Cluster.listPods ns wanted.selector
              w.system).2 }) = _
    rw [Cluster.listPods_of_pass hPass]
  · intro spec w hSpec hPass
    have hRun := spec.run_nodes hPass
    rw [spec.selector_eq, hSpec] at hRun
    exact ⟨_, hRun, w.system.lists_labelledNodes hWanted⟩

end Labels

end Redeploy

namespace Redeploy

namespace Sample

/- A label without a key, and one whose value looks like a
   term. -/
def awkward : Labels :=
  .ofList [("", ""), ("app", "a=b =")]

/- Two pods, one of which has these labels. -/
def labelled : World Cluster where
  system :=
    (({} : Cluster).storePod
      (.bound ⟨"a", "p"⟩ "n" awkward)).storePod
        (.bound ⟨"a", "q"⟩ "n" .empty)

end Sample

namespace Labels

/- Labels that look like more than they are can be asked for,
   and the pod that has them is listed. -/
theorem selector_awkward :
    Sample.awkward.Expressible ∧
      Selector.selects Sample.awkward.selector
        (some Sample.awkward) = true ∧
      Sample.labelled.system.failure? .listPods = none ∧
      ∃ pods,
        ((Cluster.client.listPods "a"
          Sample.awkward.selector).run
            Sample.labelled).1 = .ok pods ∧
        Sample.labelled.system.pods.Lists
          (fun key pod =>
            key.ns = "a" ∧
              Sample.awkward.IncludedIn pod.metadata.labels)
          pods := by
  have hAwkward : Sample.awkward.Expressible := by decide
  rcases selector_exact hAwkward with
    ⟨-, hSelects, -, hPods, -⟩
  rcases hPods "a" Sample.labelled rfl with
    ⟨pods, hRun, hLists⟩
  refine ⟨hAwkward, ?_, rfl, pods, ?_, hLists⟩
  · exact (hSelects (some Sample.awkward)).mpr
      fun _ _ hGet => hGet
  · rw [hRun]

end Labels

end Redeploy
