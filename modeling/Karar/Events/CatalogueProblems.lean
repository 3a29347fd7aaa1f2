import Karar.Events.EventGovernance
import Mathlib.Data.List.Perm.Subperm

/-!
# The problems of a catalogue document

`parseEventCatalogue` promises every problem of a document at once. Each entry adds its own problems to
one shared list, and an entry is read as usable only while that list is empty. The problems of an entry
do not depend on the list. A repeated name is looked for among usable entries only, so that it goes
unreported after any other problem, and in an entry that has other problems (`catalogueLaw_iff`).
-/

namespace Karar.Events

/-! ### A list that is added to -/

/-- What is computed does not depend on the problems so far, and new ones come after them. -/
def Appending {α : Type} (f : List String → α × List String) : Prop :=
  ∀ problems, f problems = ((f []).1, problems ++ (f []).2)

section Appending

variable {α β : Type}

theorem appending_return (value : α) : Appending fun problems ↦ (value, problems) := by
  intro problems
  simp

theorem appending_problem (value : α) (problem : String) :
    Appending fun problems ↦ (value, problems ++ [problem]) := by
  intro problems
  simp

theorem Appending.bind {f : List String → α × List String} {g : α → List String → β × List String}
    (hf : Appending f) (hg : ∀ value, Appending (g value)) :
    Appending fun problems ↦ g (f problems).1 (f problems).2 := by
  intro problems
  dsimp only
  rw [hf problems, hg (f []).1 (problems ++ (f []).2), hg (f []).1 (f []).2, List.append_assoc]

theorem Appending.ofProblem {f : List String → α × List String} (hf : Appending f) (problem : String) :
    Appending fun problems ↦ f (problems ++ [problem]) :=
  (appending_problem () problem).bind fun _ ↦ hf

theorem Appending.ofRequire {f : List String → α × List String} (hf : Appending f) (ok : Prop)
    [Decidable ok] (problem : String) : Appending fun problems ↦ f (require ok problem problems) := by
  unfold require
  split_ifs
  · exact hf
  · exact hf.ofProblem problem

end Appending

theorem appending_parseProperties (at_ : String) (fields : List (String × Json))
    (properties : Properties) : Appending (parseProperties at_ fields properties) := by
  induction fields generalizing properties with
  | nil => exact appending_return properties
  | cons field rest ih =>
    obtain ⟨name, spec⟩ := field
    show Appending fun problems ↦ parseProperties at_ ((name, spec) :: rest) properties problems
    simp only [parseProperties]
    cases fieldType spec with
    | none => exact (ih properties).ofProblem _
    | some type => exact ih _

theorem appending_parseRequired (at_ : String) (properties : Properties) (entries : List Json)
    (required : List String) : Appending (parseRequired at_ properties entries required) := by
  induction entries generalizing required with
  | nil => exact appending_return required
  | cons entry rest ih =>
    show Appending fun problems ↦ parseRequired at_ properties (entry :: rest) required problems
    simp only [parseRequired]
    cases nonEmptyString (some entry) with
    | none => exact (ih required).ofProblem _
    | some field =>
      dsimp only
      split_ifs
      · exact ih _
      · exact (ih required).ofProblem _

/-- The properties of a schema, as far as they are an object. -/
def propertiesOf (at_ : String) (found : Option Json) (problems : List String) :
    Properties × List String :=
  match found with
  | some (.object fields) => parseProperties at_ fields .empty problems
  | _ => (.empty, problems ++ [s!"{at_}: payloadSchema.properties must be an object"])

/-- The required names of a schema, as far as they are an array. -/
def requiredOf (at_ : String) (properties : Properties) (found : Option Json)
    (problems : List String) : List String × List String :=
  match found with
  | some (.array entries) => parseRequired at_ properties entries [] problems
  | _ => ([], problems ++ [s!"{at_}: payloadSchema.required must be an array"])

theorem appending_propertiesOf (at_ : String) (found : Option Json) :
    Appending (propertiesOf at_ found) := by
  unfold propertiesOf
  split
  · exact appending_parseProperties _ _ _
  · exact appending_problem _ _

theorem appending_requiredOf (at_ : String) (properties : Properties) (found : Option Json) :
    Appending (requiredOf at_ properties found) := by
  unfold requiredOf
  split
  · exact appending_parseRequired _ _ _ _
  · exact appending_problem _ _

theorem appending_parsePayloadSchema (at_ : String) (raw : Option Json) :
    Appending (parsePayloadSchema at_ raw) := by
  unfold parsePayloadSchema
  split
  · rename_i schema
    have hproperties := appending_propertiesOf at_ (property schema "properties")
    have hrequired (properties : Properties) :=
      appending_requiredOf at_ properties (property schema "required")
    exact ((hproperties.bind fun properties ↦ (hrequired properties).bind fun required ↦
      appending_return (⟨properties, required⟩ : EventPayloadSchema)).ofRequire _ _).ofRequire _ _
  · exact appending_problem _ _

theorem appending_parseExemption (at_ : String) (raw : Option Json) :
    Appending (parseExemption at_ raw) := by
  unfold parseExemption
  split
  · exact appending_return none
  · exact appending_return none
  · dsimp only
    split
    · exact appending_return _
    · exact appending_problem _ _

theorem Appending.ofGovernance {α : Type} {f : List String → α × List String} (hf : Appending f)
    (at_ : String) (classification : Option EventClassification)
    (payloadRule : Option EventPayloadRule) (exemption : Option EventPayloadExemption) :
    Appending fun problems ↦
      f (governanceProblems at_ classification payloadRule exemption problems) := by
  unfold governanceProblems
  split_ifs
  · exact (hf.ofRequire _ _).ofRequire _ _
  · exact hf.ofRequire _ _
  · exact hf.ofRequire _ _

/-! ### One entry -/

/-- The problems of an entry by itself. -/
def entryProblems (index : ℕ) (raw : Json) : List String := (parseEntry index raw []).2

/-- The name of an entry, if it is valid. -/
def entryName (raw : Json) : Option String :=
  raw.record.bind fun fields ↦ nameOf (property fields "name")

theorem Appending.append {α : Type} {f : List String → α × List String} (hf : Appending f)
    (first second : List String) : f (first ++ second) = ((f second).1, first ++ (f second).2) := by
  rw [hf, hf second, List.append_assoc]

theorem Appending.eq_nil {α : Type} {f : List String → α × List String} (hf : Appending f)
    {problems : List String} (hnone : (f problems).2 = []) : problems = [] := by
  rw [hf] at hnone
  exact (List.append_eq_nil_iff.mp hnone).1

theorem require_append (ok : Prop) [Decidable ok] (problem : String) (first second : List String) :
    require ok problem (first ++ second) = first ++ require ok problem second := by
  unfold require
  split_ifs
  · rfl
  · rw [List.append_assoc]

theorem governanceProblems_append (at_ : String) (classification : Option EventClassification)
    (payloadRule : Option EventPayloadRule) (exemption : Option EventPayloadExemption)
    (first second : List String) :
    governanceProblems at_ classification payloadRule exemption (first ++ second) =
      first ++ governanceProblems at_ classification payloadRule exemption second := by
  have happend := ((appending_return ()).ofGovernance at_ classification payloadRule exemption).append
    first second
  exact congrArg Prod.snd happend

/-- An entry adds its own problems, and is usable only if there are no others before. -/
theorem parseEntry_append (index : ℕ) (raw : Json) (problems : List String) :
    parseEntry index raw problems =
      (if problems = [] then (parseEntry index raw []).1 else none,
        problems ++ entryProblems index raw) := by
  unfold entryProblems parseEntry
  split
  · rename_i fields
    split
    · simp
    · rename_i name hname
      -- The problems before are moved to the front of all that the checks add.
      conv_lhs => rw [← List.append_nil problems]
      cases consumersOf (property fields "allowedConsumers") with
      | none =>
        simp only [require_append, governanceProblems_append, List.append_assoc,
          (appending_parseExemption _ _).append problems,
          (appending_parsePayloadSchema _ _).append problems]
        generalize governanceProblems _ _ _ _ _ = own
        cases problems with
        | nil => simp
        | cons problem rest => simp
      | some consumers =>
        simp only [require_append, governanceProblems_append,
          (appending_parseExemption _ _).append problems,
          (appending_parsePayloadSchema _ _).append problems]
        generalize governanceProblems _ _ _ _ _ = own
        cases problems with
        | nil => simp
        | cons problem rest =>
          simp only [List.cons_append, reduceCtorEq, if_false, Prod.mk.injEq, true_and,
            List.cons.injEq, List.append_cancel_left_eq]
          split
          · rfl
          · rfl
  · simp

theorem eq_nil_of_governanceProblems {at_ : String} {classification : Option EventClassification}
    {payloadRule : Option EventPayloadRule} {exemption : Option EventPayloadExemption}
    {problems : List String}
    (hnone : governanceProblems at_ classification payloadRule exemption problems = []) :
    problems = [] :=
  ((appending_return ()).ofGovernance at_ classification payloadRule exemption).eq_nil hnone

/-- An entry without problems is usable, and has a valid name. -/
theorem parseEntry_of_valid {index : ℕ} {raw : Json} (hvalid : entryProblems index raw = []) :
    ∃ entry, parseEntry index raw [] = (some entry, []) ∧ entryName raw = some entry.name := by
  unfold entryProblems at hvalid
  generalize hresult : parseEntry index raw [] = result at hvalid ⊢
  unfold parseEntry at hresult
  split at hresult
  · rename_i fields
    split at hresult
    · rw [← hresult] at hvalid
      simp at hvalid
    · rename_i name hname
      dsimp only at hresult
      split at hresult
      · exact ⟨_, hresult.symm, hname⟩
      · -- Without a problem every field is there.
        rename_i hmissing
        rw [← hresult] at hvalid
        dsimp only at hvalid
        have hschema := eq_nil_of_governanceProblems hvalid
        have hexemption := (appending_parsePayloadSchema _ _).eq_nil hschema
        obtain ⟨hrule, hnone⟩ := require_eq_nil ((appending_parseExemption _ _).eq_nil hexemption)
        obtain ⟨hretention, hnone⟩ := require_eq_nil hnone
        cases hconsumers : consumersOf (property fields "allowedConsumers") with
        | none =>
          rw [hconsumers] at hnone
          simp at hnone
        | some consumers =>
          rw [hconsumers] at hnone
          obtain ⟨-, hnone⟩ := require_eq_nil hnone
          obtain ⟨hflag, hnone⟩ := require_eq_nil hnone
          obtain ⟨hclassification, hnone⟩ := require_eq_nil hnone
          obtain ⟨howner, hnone⟩ := require_eq_nil hnone
          obtain ⟨hversion, -⟩ := require_eq_nil hnone
          obtain ⟨version, hversion⟩ := Option.ne_none_iff_exists'.mp hversion
          obtain ⟨owner, howner⟩ := Option.ne_none_iff_exists'.mp howner
          obtain ⟨classification, hclassification⟩ := Option.ne_none_iff_exists'.mp hclassification
          obtain ⟨flag, hflag⟩ := Option.ne_none_iff_exists'.mp hflag
          obtain ⟨retention, hretention⟩ := Option.ne_none_iff_exists'.mp hretention
          obtain ⟨rule, hrule⟩ := Option.ne_none_iff_exists'.mp hrule
          exact (hmissing version owner classification flag consumers retention rule hvalid hversion
            howner hclassification hflag hconsumers hretention hrule).elim
  · rw [← hresult] at hvalid
    simp at hvalid

theorem parseEntry_of_invalid {index : ℕ} {raw : Json} (hinvalid : entryProblems index raw ≠ []) :
    (parseEntry index raw []).1 = none := by
  unfold entryProblems at hinvalid
  generalize hresult : parseEntry index raw [] = result at hinvalid ⊢
  unfold parseEntry at hresult
  split at hresult
  · split at hresult
    · rw [← hresult]
    · dsimp only at hresult
      split at hresult
      · rw [← hresult] at hinvalid
        exact absurd rfl hinvalid
      · rw [← hresult]
  · rw [← hresult]

/-! ### All entries -/

/-- The problems that the entries have by themselves. -/
def ownProblems : ℕ → List Json → List String
  | _, [] => []
  | index, raw :: rest => entryProblems index raw ++ ownProblems (index + 1) rest

def duplicateProblem (index : ℕ) (name : String) : String :=
  s!"events[{index}]: duplicate event '{name}'"

/-- The problem of a repeated name, given the names of the entries before. -/
def duplicateProblems (index : ℕ) (raw : Json) (names : List String) : List String :=
  match entryName raw with
  | some name => if name ∈ names then [duplicateProblem index name] else []
  | none => []

/-- Every problem of the entries: their own ones, and one for each valid name that repeats the valid
name of an entry before. -/
def documentProblems : ℕ → List Json → List String → List String
  | _, [], _ => []
  | index, raw :: rest, names =>
    entryProblems index raw ++ duplicateProblems index raw names ++
      documentProblems (index + 1) rest (names ++ (entryName raw).toList)

/-- The entry at a place has a valid name that repeats one before. -/
def Repeats (names : List String) (events : List Json) (place : ℕ) : Prop :=
  ∃ raw name, events[place]? = some raw ∧ entryName raw = some name ∧
    name ∈ names ++ (events.take place).filterMap entryName

/-- Every entry that repeats a name is the first one to do so, and neither it nor an entry before it has
a problem of its own. -/
def RepeatsFirst (index : ℕ) (names : List String) (events : List Json) : Prop :=
  ∀ place, Repeats names events place →
    (∀ earlier ≤ place, ∀ raw, events[earlier]? = some raw →
      entryProblems (index + earlier) raw = []) ∧
      ∀ earlier < place, ¬ Repeats names events earlier

variable {names : List String} {raw : Json} {rest : List Json}

theorem repeats_zero : Repeats names (raw :: rest) 0 ↔
    ∃ name, entryName raw = some name ∧ name ∈ names := by
  simp [Repeats]

theorem repeats_succ {place : ℕ} : Repeats names (raw :: rest) (place + 1) ↔
    Repeats (names ++ (entryName raw).toList) rest place := by
  have hnames : names ++ ((raw :: rest).take (place + 1)).filterMap entryName =
      names ++ (entryName raw).toList ++ (rest.take place).filterMap entryName := by
    rw [List.take_succ_cons, List.append_assoc]
    cases hname : entryName raw with
    | none => simp [hname]
    | some name => simp [hname]
  rw [Repeats, Repeats, hnames, List.getElem?_cons_succ]

theorem duplicateProblems_eq_nil_iff {index : ℕ} (rest : List Json) :
    duplicateProblems index raw names = [] ↔ ¬ Repeats names (raw :: rest) 0 := by
  rw [repeats_zero, duplicateProblems]
  cases entryName raw with
  | none => simp
  | some name => simp

/-- Without a repeated name the entries have their own problems only, and with one they have more. -/
theorem documentProblems_of_none {index : ℕ} {events : List Json}
    (hnone : ∀ place, ¬ Repeats names events place) :
    documentProblems index events names = ownProblems index events := by
  induction events generalizing index names with
  | nil => rfl
  | cons raw rest ih =>
    rw [documentProblems, ownProblems, (duplicateProblems_eq_nil_iff rest).mpr (hnone 0),
      List.append_nil, ih fun place ↦ mt repeats_succ.mpr (hnone (place + 1))]

theorem length_ownProblems_le (index : ℕ) (events : List Json) (names : List String) :
    (ownProblems index events).length ≤ (documentProblems index events names).length := by
  induction events generalizing index names with
  | nil => exact Nat.le_refl 0
  | cons raw rest ih =>
    have hrest := ih (index + 1) (names ++ (entryName raw).toList)
    rw [ownProblems, documentProblems, List.length_append, List.length_append, List.length_append]
    omega

theorem length_ownProblems_lt (index : ℕ) {events : List Json} {place : ℕ}
    (hrepeats : Repeats names events place) :
    (ownProblems index events).length < (documentProblems index events names).length := by
  induction events generalizing index names place with
  | nil =>
    obtain ⟨raw, -, hraw, -⟩ := hrepeats
    simp at hraw
  | cons raw rest ih =>
    rw [ownProblems, documentProblems, List.length_append, List.length_append, List.length_append]
    cases place with
    | zero =>
      have hsome : duplicateProblems index raw names ≠ [] :=
        fun hnone ↦ (duplicateProblems_eq_nil_iff rest).mp hnone hrepeats
      have hpos := List.length_pos_of_ne_nil hsome
      have hrest := length_ownProblems_le (index + 1) rest (names ++ (entryName raw).toList)
      omega
    | succ place =>
      have hrest := ih (index + 1) (repeats_succ.mp hrepeats)
      omega

theorem subperm_ownProblems_iff {index : ℕ} {events : List Json} :
    (documentProblems index events names).Subperm (ownProblems index events) ↔
      ∀ place, ¬ Repeats names events place := by
  constructor
  · intro hsubperm place hrepeats
    have hlength := hsubperm.length_le
    have hmore := length_ownProblems_lt index hrepeats
    omega
  · intro hnone
    rw [documentProblems_of_none hnone]

/-! ### The loop -/

/-- After a problem no entry is usable, and none is found to be a duplicate. -/
theorem parseEntries_of_problem {problems : List String} (hproblems : problems ≠ []) (index : ℕ)
    (events : List Json) (entries : List EventCatalogueEntry) :
    parseEntries index events entries problems = (entries, problems ++ ownProblems index events) := by
  induction events generalizing index problems with
  | nil => simp [parseEntries, ownProblems]
  | cons raw rest ih =>
    rw [parseEntries, parseEntry_append, if_neg hproblems]
    dsimp only
    rw [ih (List.append_ne_nil_of_left_ne_nil hproblems _), ownProblems, List.append_assoc]

/-- What the loop does at its first entry, before any problem. -/
theorem parseEntries_cons (index : ℕ) (raw : Json) (rest : List Json)
    (entries : List EventCatalogueEntry) :
    (entryProblems index raw ≠ [] ∧ (parseEntries index (raw :: rest) entries []).2 =
      entryProblems index raw ++ ownProblems (index + 1) rest) ∨
    (entryProblems index raw = [] ∧ Repeats (entries.map (·.name)) (raw :: rest) 0 ∧
      (parseEntries index (raw :: rest) entries []).2 =
        duplicateProblems index raw (entries.map (·.name)) ++ ownProblems (index + 1) rest) ∨
    entryProblems index raw = [] ∧ ¬ Repeats (entries.map (·.name)) (raw :: rest) 0 ∧
      ∃ entry, entryName raw = some entry.name ∧ parseEntries index (raw :: rest) entries [] =
        parseEntries (index + 1) rest (entries ++ [entry]) [] := by
  rw [parseEntries]
  by_cases hvalid : entryProblems index raw = []
  · obtain ⟨entry, hparse, hname⟩ := parseEntry_of_valid hvalid
    rw [hparse]
    dsimp only
    by_cases hrepeats : entry.name ∈ entries.map (·.name)
    · refine .inr (.inl ⟨hvalid, repeats_zero.mpr ⟨_, hname, hrepeats⟩, ?_⟩)
      rw [if_pos hrepeats, List.nil_append, parseEntries_of_problem (List.cons_ne_nil _ _),
        duplicateProblems, hname]
      dsimp only
      rw [if_pos hrepeats]
      rfl
    · refine .inr (.inr ⟨hvalid, ?_, entry, hname, if_neg hrepeats⟩)
      rw [repeats_zero]
      rintro ⟨name, hsome, hmem⟩
      rw [hname, Option.some.injEq] at hsome
      exact hrepeats (hsome ▸ hmem)
  · refine .inl ⟨hvalid, ?_⟩
    rw [parseEntry_append, if_pos rfl, parseEntry_of_invalid hvalid]
    dsimp only
    rw [List.nil_append, parseEntries_of_problem hvalid]

/-- A valid first entry with a fresh name changes nothing for those after it. -/
theorem repeatsFirst_cons_iff {index : ℕ} (hvalid : entryProblems index raw = [])
    (hfresh : ¬ Repeats names (raw :: rest) 0) : RepeatsFirst index names (raw :: rest) ↔
      RepeatsFirst (index + 1) (names ++ (entryName raw).toList) rest := by
  constructor
  · intro hfirst place hrepeats
    obtain ⟨hbefore, hnone⟩ := hfirst (place + 1) (repeats_succ.mpr hrepeats)
    refine ⟨fun earlier hle other hother ↦ ?_, fun earlier hlt ↦ ?_⟩
    · rw [Nat.add_right_comm, Nat.add_assoc]
      exact hbefore (earlier + 1) (by omega) other hother
    · exact mt repeats_succ.mpr (hnone (earlier + 1) (by omega))
  · intro hfirst place hrepeats
    cases place with
    | zero => exact absurd hrepeats hfresh
    | succ place =>
      obtain ⟨hbefore, hnone⟩ := hfirst place (repeats_succ.mp hrepeats)
      refine ⟨fun earlier hle other hother ↦ ?_, fun earlier hlt ↦ ?_⟩
      · cases earlier with
        | zero =>
          obtain rfl : raw = other := by simpa using hother
          exact hvalid
        | succ earlier =>
          rw [← Nat.add_assoc, Nat.add_right_comm]
          exact hbefore earlier (by omega) other hother
      · cases earlier with
        | zero => exact hfresh
        | succ earlier => exact mt repeats_succ.mp (hnone earlier (by omega))

/-- The loop reports every problem iff a repeated name stands before every other problem. -/
theorem subperm_parseEntries_iff (index : ℕ) (events : List Json)
    (entries : List EventCatalogueEntry) :
    (documentProblems index events (entries.map (·.name))).Subperm
        (parseEntries index events entries []).2 ↔
      RepeatsFirst index (entries.map (·.name)) events := by
  induction events generalizing index entries with
  | nil =>
    refine iff_of_true (List.Subperm.refl []) ?_
    rintro place ⟨raw, -, hraw, -⟩
    simp at hraw
  | cons raw rest ih =>
    rcases parseEntries_cons index raw rest entries with ⟨hinvalid, hproblems⟩ |
      ⟨hvalid, hrepeats, hproblems⟩ | ⟨hvalid, hfresh, entry, hname, hparse⟩
    · rw [hproblems, ← ownProblems, subperm_ownProblems_iff]
      constructor
      · intro hnone place hplace
        exact absurd hplace (hnone place)
      · intro hfirst place hplace
        exact hinvalid ((hfirst place hplace).1 0 (Nat.zero_le place) raw rfl)
    · rw [hproblems, documentProblems, hvalid, List.nil_append, List.subperm_append_left,
        subperm_ownProblems_iff]
      constructor
      · intro hnone place hplace
        cases place with
        | zero =>
          refine ⟨fun earlier hle other hother ↦ ?_, fun earlier hlt ↦ absurd hlt (Nat.not_lt_zero _)⟩
          obtain rfl : earlier = 0 := Nat.le_zero.mp hle
          obtain rfl : raw = other := by simpa using hother
          exact hvalid
        | succ place => exact absurd (repeats_succ.mp hplace) (hnone place)
      · intro hfirst place hplace
        exact (hfirst (place + 1) (repeats_succ.mpr hplace)).2 0 (Nat.succ_pos place) hrepeats
    · have hnames : entries.map (·.name) ++ (entryName raw).toList =
          (entries ++ [entry]).map (·.name) := by
        rw [hname, List.map_append]
        rfl
      rw [hparse, documentProblems, hvalid, (duplicateProblems_eq_nil_iff rest).mpr hfresh,
        repeatsFirst_cons_iff hvalid hfresh, hnames]
      exact ih (index + 1) (entries ++ [entry])

/-- Every entry is valid by itself, and none repeats a name. -/
theorem documentProblems_eq_nil_iff (index : ℕ) (events : List Json) (names : List String) :
    documentProblems index events names = [] ↔
      (∀ place raw, events[place]? = some raw → entryProblems (index + place) raw = []) ∧
        ∀ place, ¬ Repeats names events place := by
  induction events generalizing index names with
  | nil => simp [documentProblems, Repeats]
  | cons raw rest ih =>
    rw [documentProblems, List.append_eq_nil_iff, List.append_eq_nil_iff, ih,
      duplicateProblems_eq_nil_iff rest]
    constructor
    · rintro ⟨⟨hvalid, hfresh⟩, hrest, hnone⟩
      refine ⟨fun place other hother ↦ ?_, fun place ↦ ?_⟩
      · cases place with
        | zero =>
          obtain rfl : raw = other := by simpa using hother
          exact hvalid
        | succ place =>
          rw [← Nat.add_assoc, Nat.add_right_comm]
          exact hrest place other hother
      · cases place with
        | zero => exact hfresh
        | succ place => exact mt repeats_succ.mp (hnone place)
    · rintro ⟨hvalid, hnone⟩
      refine ⟨⟨hvalid 0 raw rfl, hnone 0⟩, fun place other hother ↦ ?_, fun place ↦ ?_⟩
      · rw [Nat.add_right_comm, Nat.add_assoc]
        exact hvalid (place + 1) other hother
      · exact mt repeats_succ.mpr (hnone (place + 1))

/-- The loop finds no problem iff there is none. -/
theorem parseEntries_eq_nil_iff (index : ℕ) (events : List Json)
    (entries : List EventCatalogueEntry) : (parseEntries index events entries []).2 = [] ↔
      documentProblems index events (entries.map (·.name)) = [] := by
  induction events generalizing index entries with
  | nil => exact iff_of_true rfl rfl
  | cons raw rest ih =>
    rw [documentProblems]
    rcases parseEntries_cons index raw rest entries with ⟨hinvalid, hproblems⟩ |
      ⟨hvalid, hrepeats, hproblems⟩ | ⟨hvalid, hfresh, entry, hname, hparse⟩
    · rw [hproblems]
      simp [hinvalid]
    · have hsome : duplicateProblems index raw (entries.map (·.name)) ≠ [] :=
        mt (duplicateProblems_eq_nil_iff rest).mp (not_not.mpr hrepeats)
      rw [hproblems]
      simp [hsome]
    · have hnames : entries.map (·.name) ++ (entryName raw).toList =
          (entries ++ [entry]).map (·.name) := by
        rw [hname, List.map_append]
        rfl
      rw [hparse, hvalid, (duplicateProblems_eq_nil_iff rest).mpr hfresh, hnames]
      exact ih (index + 1) (entries ++ [entry])

/-! ### Documents -/

/-- The entries of a document. -/
def eventsOf (document : Json) : Option (List Json) :=
  match document.record.bind fun fields ↦ property fields "events" with
  | some (.array events) => some events
  | _ => none

/-- The list of problems that is thrown. -/
def problemsOf (document : Json) : List String :=
  match eventsOf document with
  | some events => (parseEntries 0 events [] []).2
  | none => ["catalogue must be an object with an 'events' array"]

/-- An object with an array of events, each valid by itself, none with the name of one before. -/
def ValidDocument (document : Json) : Prop :=
  ∃ events, eventsOf document = some events ∧
    (∀ place raw, events[place]? = some raw → entryProblems place raw = []) ∧
    ∀ place, ¬ Repeats [] events place

/-- The documented promise: valid documents are accepted, and otherwise the list that is thrown has all
the problems of the entries and one for each repeated name. -/
structure CatalogueLaw (document : Json) : Prop where
  accepted : (∃ catalogue, parseEventCatalogue document = .ok catalogue) ↔ ValidDocument document
  named {failure : EventCatalogueError} : parseEventCatalogue document = .error failure →
    failure = invalidCatalogue (problemsOf document) ∧
      ∀ events, eventsOf document = some events →
        (documentProblems 0 events []).Subperm (problemsOf document)

theorem parseEventCatalogue_eq (document : Json) : parseEventCatalogue document =
    match eventsOf document with
    | some events =>
      match parseEntries 0 events [] [] with
      | (entries, []) => .ok ⟨entries⟩
      | (_, problems) => .error (invalidCatalogue problems)
    | none => .error (invalidCatalogue ["catalogue must be an object with an 'events' array"]) := by
  unfold parseEventCatalogue eventsOf
  cases document.record.bind fun fields ↦ property fields "events" with
  | none => rfl
  | some value => cases value <;> rfl

theorem parseEventCatalogue_cases (document : Json) :
    (problemsOf document = [] ∧ ∃ catalogue, parseEventCatalogue document = .ok catalogue) ∨
      (problemsOf document ≠ [] ∧
        parseEventCatalogue document = .error (invalidCatalogue (problemsOf document))) := by
  rw [problemsOf, parseEventCatalogue_eq]
  cases eventsOf document with
  | none => exact .inr ⟨by simp, rfl⟩
  | some events =>
    dsimp only
    obtain ⟨entries, problems⟩ := parseEntries 0 events [] []
    cases problems with
    | nil => exact .inl ⟨rfl, _, rfl⟩
    | cons problem problems => exact .inr ⟨by simp, rfl⟩

/-- A document is accepted iff it is valid. -/
theorem accepted_iff (document : Json) :
    (∃ catalogue, parseEventCatalogue document = .ok catalogue) ↔ ValidDocument document := by
  have hnone : problemsOf document = [] ↔ ValidDocument document := by
    unfold problemsOf ValidDocument
    cases eventsOf document with
    | none => simp
    | some events =>
      have hdocument := documentProblems_eq_nil_iff 0 events []
      simp only [Nat.zero_add] at hdocument
      simp only [Option.some.injEq, exists_eq_left']
      rw [parseEntries_eq_nil_iff, List.map_nil, hdocument]
  rw [← hnone]
  rcases parseEventCatalogue_cases document with ⟨hproblems, haccepted⟩ | ⟨hproblems, hrefused⟩
  · exact iff_of_true haccepted hproblems
  · refine iff_of_false ?_ hproblems
    rintro ⟨catalogue, hok⟩
    rw [hrefused] at hok
    simp at hok

/-- Every problem of a document is named iff the first repeated name, if there is one, stands in a
valid entry after valid entries only, and there is no second one. -/
theorem catalogueLaw_iff (document : Json) : CatalogueLaw document ↔
    ∀ events, eventsOf document = some events → RepeatsFirst 0 [] events := by
  have hreported {events : List Json} (hevents : eventsOf document = some events) :
      (documentProblems 0 events []).Subperm (problemsOf document) ↔ RepeatsFirst 0 [] events := by
    have hloop := subperm_parseEntries_iff 0 events []
    rw [List.map_nil] at hloop
    rw [problemsOf, hevents]
    exact hloop
  constructor
  · intro hlaw events hevents
    rw [← hreported hevents]
    rcases parseEventCatalogue_cases document with ⟨-, haccepted⟩ | ⟨-, hrefused⟩
    · obtain ⟨events', hevents', hvalid, hfresh⟩ := hlaw.accepted.mp haccepted
      rw [hevents, Option.some.injEq] at hevents'
      subst hevents'
      rw [hreported hevents]
      intro place hrepeats
      exact absurd hrepeats (hfresh place)
    · exact (hlaw.named hrefused).2 events hevents
  · intro hfirst
    refine ⟨accepted_iff document, ?_⟩
    intro failure hfailure
    rcases parseEventCatalogue_cases document with ⟨-, catalogue, haccepted⟩ | ⟨-, hrefused⟩
    · rw [haccepted] at hfailure
      simp at hfailure
    · rw [hrefused, Except.error.injEq] at hfailure
      exact ⟨hfailure.symm, fun events hevents ↦ (hreported hevents).mpr (hfirst events hevents)⟩

/-- A valid entry. -/
def ping : Json :=
  .object
    [("name", .string "ping"), ("schemaVersion", .number (.finite 1)),
      ("ownerModule", .string "platform"), ("classification", .string "INTERNAL"),
      ("piiFlag", .boolean false), ("allowedConsumers", .array [.string "worker"]),
      ("retention", .string "P7D"), ("payloadRule", .string "payload-permitted"),
      ("payloadExemption", .null), ("payloadSchema", NotedPing.schema)]

/-- Something that is no entry, and a valid entry twice. -/
def pingTwice : Json := .object [("events", .array [.null, ping, ping])]

/-- The second `ping` goes unreported. -/
theorem pingTwice_unreported : ¬ CatalogueLaw pingTwice := by
  intro hlaw
  have hproblems : problemsOf pingTwice = ["events[0]: entry must be an object"] := by decide
  have hrefused : parseEventCatalogue pingTwice =
      .error (invalidCatalogue (problemsOf pingTwice)) := by decide
  have hall : documentProblems 0 [.null, ping, ping] [] =
      ["events[0]: entry must be an object", "events[2]: duplicate event 'ping'"] := by
    decide
  have hsubperm := (hlaw.named hrefused).2 [.null, ping, ping] rfl
  rw [hproblems, hall] at hsubperm
  exact absurd hsubperm.length_le (by decide)

end Karar.Events
