import Karar.Platform.Redaction

/-!
# What redaction hides and what it keeps

A position is a way into a log object along keys that are not redacted; it carries the objects it has
passed. `Hides` says that nothing under a credential-shaped key shows, for the log objects that agree
apart from such keys. `Keeps` says that what stands at a position, off any cycle and within the depth,
is printed as it is. `complete_iff` says which log objects have both.
-/

namespace Karar.Platform.Redaction

variable {n : ℕ} {graph other : Graph n}

/-! ### Positions -/

/-- The walk goes on into an entry with this key. -/
def Visible (kind : Kind) (key : String) : Prop := kind = .array ∨ isCredentialKey key = false

/-- A way from a value to another one: the keys it goes along, and the objects passed, latest first.
It enters no object twice, and none beyond the depth. -/
inductive Leads (graph : Graph n) :
    List (Fin n) → Value n → List String → List (Fin n) → Value n → Prop
  | here {passed : List (Fin n)} {value : Value n} : Leads graph passed value [] passed value
  | into {passed later : List (Fin n)} {id : Fin n} {kind : Kind} {entries : List (String × Value n)}
      {distinct : (entries.map (·.1)).Nodup} {key : String} {value target : Value n}
      {path : List String} (hnode : graph id = .fields kind entries distinct)
      (hkind : kind ≠ .error) (hfresh : id ∉ passed) (hdepth : passed.length < MAX_REDACTION_DEPTH)
      (hentry : (key, value) ∈ entries) (hvisible : Visible kind key)
      (hrest : Leads graph (id :: passed) value path later target) :
    Leads graph passed (.object id) (key :: path) later target

/-- A value that is not an object passed before, and not an object beyond the depth. -/
def Opens (passed : List (Fin n)) (value : Value n) : Prop :=
  ∀ id, value = .object id → id ∉ passed ∧ passed.length < MAX_REDACTION_DEPTH

theorem Leads.trans {passed middle later : List (Fin n)} {start value target : Value n}
    {path rest : List String} (hfirst : Leads graph passed start path middle value)
    (hsecond : Leads graph middle value rest later target) :
    Leads graph passed start (path ++ rest) later target := by
  induction hfirst with
  | here => exact hsecond
  | into hnode hkind hfresh hdepth hentry hvisible _ ih =>
    exact .into hnode hkind hfresh hdepth hentry hvisible (ih hsecond)

/-- What was passed stays passed. -/
theorem Leads.subset {passed later : List (Fin n)} {start target : Value n} {path : List String}
    (hleads : Leads graph passed start path later target) : passed ⊆ later := by
  induction hleads with
  | here => exact List.Subset.refl _
  | into _ _ _ _ _ _ _ ih => exact fun id hid ↦ ih (List.mem_cons_of_mem _ hid)

/-- Entries of one object with one key are one. -/
theorem eq_of_nodup {entries : List (String × Value n)} (distinct : (entries.map (·.1)).Nodup)
    {key : String} {first second : Value n} (hfirst : (key, first) ∈ entries)
    (hsecond : (key, second) ∈ entries) : first = second := by
  have hsame := List.inj_on_of_nodup_map distinct hfirst hsecond rfl
  exact congrArg Prod.snd hsame

/-! ### The loop over the entries -/

section Entries

variable {walk : Value n → List (Fin n) → Redacted n × List (Fin n)} {isArray : Bool}

/-- An entry of the loop that the walk goes into. -/
def Walked (isArray : Bool) (key : String) : Prop := isArray = true ∨ isCredentialKey key = false

theorem walked_of_not_hidden {key : String} (hshown : ¬ (!isArray && isCredentialKey key) = true) :
    Walked isArray key := by
  unfold Walked
  cases isArray <;> simp_all

theorem Walked.not_hidden {key : String} (hwalked : Walked isArray key) :
    ¬ (!isArray && isCredentialKey key) = true := by
  rcases hwalked with harray | hkey
  · simp [harray]
  · simp [hkey]

/-- The objects seen before the walk goes into an entry. -/
def seenBefore (walk : Value n → List (Fin n) → Redacted n × List (Fin n)) (isArray : Bool)
    (target : String) : List (String × Value n) → List (Fin n) → List (Fin n)
  | [], seen => seen
  | (key, value) :: rest, seen =>
    if key = target then seen
    else if !isArray && isCredentialKey key then seenBefore walk isArray target rest seen
    else seenBefore walk isArray target rest (walk value seen).2

/-- What the loop keeps: an invariant of the objects seen, and where each of them was seen. -/
theorem redactEntries_seen {invariant : List (Fin n) → Prop} {fact : String → Fin n → Prop}
    {entries : List (String × Value n)} {seen : List (Fin n)}
    (hwalk : ∀ key value seen, (key, value) ∈ entries → Walked isArray key → invariant seen →
      invariant (walk value seen).2 ∧ ∀ id ∈ (walk value seen).2, id ∈ seen ∨ fact key id)
    (hinvariant : invariant seen) :
    invariant (redactEntries walk isArray entries seen).2 ∧
      ∀ id ∈ (redactEntries walk isArray entries seen).2, id ∈ seen ∨
        ∃ entry ∈ entries, Walked isArray entry.1 ∧ fact entry.1 id := by
  induction entries generalizing seen with
  | nil => exact ⟨hinvariant, fun id hid ↦ .inl hid⟩
  | cons entry rest ih =>
    obtain ⟨key, value⟩ := entry
    have hrest := fun key value seen hentry ↦
      hwalk key value seen (List.mem_cons_of_mem _ hentry)
    unfold redactEntries
    split_ifs with hhidden
    · obtain ⟨hlater, hids⟩ := ih hrest hinvariant
      refine ⟨hlater, fun id hid ↦ ?_⟩
      rcases hids id hid with hseen | ⟨entry, hentry, hfact⟩
      · exact .inl hseen
      · exact .inr ⟨entry, List.mem_cons_of_mem _ hentry, hfact⟩
    · have hwalked : Walked isArray key := walked_of_not_hidden hhidden
      obtain ⟨hnext, hnew⟩ := hwalk key value seen List.mem_cons_self hwalked hinvariant
      obtain ⟨hlater, hids⟩ := ih hrest hnext
      refine ⟨hlater, fun id hid ↦ ?_⟩
      rcases hids id hid with hseen | ⟨entry, hentry, hfact⟩
      · rcases hnew id hseen with hearlier | hfact
        · exact .inl hearlier
        · exact .inr ⟨(key, value), List.mem_cons_self, hwalked, hfact⟩
      · exact .inr ⟨entry, List.mem_cons_of_mem _ hentry, hfact⟩

/-- What has been seen before an entry was seen before the loop or in another entry. -/
theorem seenBefore_seen {invariant : List (Fin n) → Prop} {fact : String → Fin n → Prop}
    {entries : List (String × Value n)} {seen : List (Fin n)} {target : String}
    (hwalk : ∀ key value seen, (key, value) ∈ entries → Walked isArray key → invariant seen →
      invariant (walk value seen).2 ∧ ∀ id ∈ (walk value seen).2, id ∈ seen ∨ fact key id)
    (hinvariant : invariant seen) :
    invariant (seenBefore walk isArray target entries seen) ∧
      ∀ id ∈ seenBefore walk isArray target entries seen, id ∈ seen ∨
        ∃ key ≠ target, Walked isArray key ∧ fact key id := by
  induction entries generalizing seen with
  | nil => exact ⟨hinvariant, fun id hid ↦ .inl hid⟩
  | cons entry rest ih =>
    obtain ⟨key, value⟩ := entry
    have hrest := fun key value seen hentry ↦
      hwalk key value seen (List.mem_cons_of_mem _ hentry)
    unfold seenBefore
    split_ifs with hkey hhidden
    · exact ⟨hinvariant, fun id hid ↦ .inl hid⟩
    · exact ih hrest hinvariant
    · have hwalked : Walked isArray key := walked_of_not_hidden hhidden
      obtain ⟨hnext, hnew⟩ := hwalk key value seen List.mem_cons_self hwalked hinvariant
      obtain ⟨hlater, hids⟩ := ih hrest hnext
      refine ⟨hlater, fun id hid ↦ ?_⟩
      rcases hids id hid with hseen | hfact
      · rcases hnew id hseen with hearlier | hfact
        · exact .inl hearlier
        · exact .inr ⟨key, hkey, hwalked, hfact⟩
      · exact .inr hfact

/-- The entry of a copy with a key. -/
def entryAt (key : String) (entries : List (String × Redacted n)) : Option (Redacted n) :=
  (entries.find? (·.1 = key)).map (·.2)

theorem entryAt_assign_self {key : String} {value : Redacted n} {out : List (String × Redacted n)}
    (hkept : isArray = true ∨ key ≠ "__proto__") :
    entryAt key (assign isArray key value out) = some value := by
  unfold assign
  rw [if_neg]
  · simp [entryAt]
  · cases isArray <;> simp_all

theorem entryAt_assign_of_ne {key target : String} {value : Redacted n}
    {out : List (String × Redacted n)} (hne : key ≠ target) :
    entryAt target (assign isArray key value out) = entryAt target out := by
  unfold assign
  split_ifs with hproto
  · rfl
  · simp [entryAt, hne]

/-- The entry of a copy is what the walk returned for it, after the objects seen before. -/
theorem entryAt_redactEntries {entries : List (String × Value n)} {seen : List (Fin n)}
    (distinct : (entries.map (·.1)).Nodup) {key : String} {value : Value n}
    (hentry : (key, value) ∈ entries) (hwalked : Walked isArray key)
    (hkept : isArray = true ∨ key ≠ "__proto__") :
    entryAt key (redactEntries walk isArray entries seen).1 =
      some (walk value (seenBefore walk isArray key entries seen)).1 := by
  induction entries generalizing seen with
  | nil => exact absurd hentry List.not_mem_nil
  | cons first rest ih =>
    obtain ⟨firstKey, firstValue⟩ := first
    obtain ⟨hfirst, hrest⟩ := List.nodup_cons.mp distinct
    unfold redactEntries seenBefore
    rcases List.mem_cons.mp hentry with heq | hlater
    · obtain ⟨rfl, rfl⟩ := Prod.mk.inj heq
      rw [if_neg hwalked.not_hidden, if_pos rfl]
      exact entryAt_assign_self hkept
    · have hne : firstKey ≠ key := by
        intro hsame
        exact hfirst (List.mem_map.mpr ⟨_, hlater, hsame.symm⟩)
      rw [if_neg hne]
      split_ifs
      · exact (entryAt_assign_of_ne hne).trans (ih hrest hlater)
      · exact (entryAt_assign_of_ne hne).trans (ih hrest hlater)

theorem subset_seenBefore (hgrows : ∀ value seen, seen ⊆ (walk value seen).2) (target : String)
    (entries : List (String × Value n)) (seen : List (Fin n)) :
    seen ⊆ seenBefore walk isArray target entries seen := by
  induction entries generalizing seen with
  | nil => exact List.Subset.refl _
  | cons entry rest ih =>
    obtain ⟨key, value⟩ := entry
    unfold seenBefore
    split_ifs
    · exact List.Subset.refl _
    · exact ih seen
    · exact List.Subset.trans (hgrows value seen) (ih _)

/-- What is seen in the first entry is seen before a later one. -/
theorem subset_seenBefore_cons (hgrows : ∀ value seen, seen ⊆ (walk value seen).2)
    {first second : String} {value : Value n} {rest : List (String × Value n)}
    {seen : List (Fin n)} (hne : first ≠ second) (hwalked : Walked isArray first) :
    (walk value (seenBefore walk isArray first ((first, value) :: rest) seen)).2 ⊆
      seenBefore walk isArray second ((first, value) :: rest) seen := by
  simp only [seenBefore, if_true]
  rw [if_neg hne, if_neg hwalked.not_hidden]
  exact subset_seenBefore hgrows second rest _

/-- Of two entries, what is seen in one is seen before the other. -/
theorem seenBefore_total (hgrows : ∀ value seen, seen ⊆ (walk value seen).2)
    {entries : List (String × Value n)} {seen : List (Fin n)} {first second : String}
    {u v : Value n} (hne : first ≠ second) (distinct : (entries.map (·.1)).Nodup)
    (hfirst : (first, u) ∈ entries) (hsecond : (second, v) ∈ entries)
    (hwalkedFirst : Walked isArray first) (hwalkedSecond : Walked isArray second) :
    (walk u (seenBefore walk isArray first entries seen)).2 ⊆
        seenBefore walk isArray second entries seen ∨
      (walk v (seenBefore walk isArray second entries seen)).2 ⊆
        seenBefore walk isArray first entries seen := by
  induction entries generalizing seen with
  | nil => exact absurd hfirst List.not_mem_nil
  | cons entry rest ih =>
    obtain ⟨key, value⟩ := entry
    by_cases hatFirst : key = first
    · subst hatFirst
      obtain rfl := eq_of_nodup distinct hfirst List.mem_cons_self
      exact .inl (subset_seenBefore_cons hgrows hne hwalkedFirst)
    · by_cases hatSecond : key = second
      · subst hatSecond
        obtain rfl := eq_of_nodup distinct hsecond List.mem_cons_self
        exact .inr (subset_seenBefore_cons hgrows hne.symm hwalkedSecond)
      · have hlater : ∀ target w, target ≠ key → (target, w) ∈ (key, value) :: rest →
            (target, w) ∈ rest := by
          intro target w htarget hmem
          rcases List.mem_cons.mp hmem with heq | hrest
          · exact absurd (congrArg Prod.fst heq) htarget
          · exact hrest
        have hrest := hlater _ _ (Ne.symm hatFirst) hfirst
        have hrest' := hlater _ _ (Ne.symm hatSecond) hsecond
        simp only [seenBefore, if_neg hatFirst, if_neg hatSecond]
        split_ifs
        · exact ih (List.nodup_cons.mp distinct).2 hrest hrest'
        · exact ih (List.nodup_cons.mp distinct).2 hrest hrest'

/-- What is seen in an entry has been seen after the loop. -/
theorem subset_redactEntries (hgrows : ∀ value seen, seen ⊆ (walk value seen).2)
    {entries : List (String × Value n)} {seen : List (Fin n)} :
    seen ⊆ (redactEntries walk isArray entries seen).2 ∧
      ∀ key value, (entries.map (·.1)).Nodup → (key, value) ∈ entries → Walked isArray key →
        (walk value (seenBefore walk isArray key entries seen)).2 ⊆
          (redactEntries walk isArray entries seen).2 := by
  induction entries generalizing seen with
  | nil => exact ⟨List.Subset.refl _, fun _ _ _ hentry ↦ absurd hentry List.not_mem_nil⟩
  | cons entry rest ih =>
    obtain ⟨first, u⟩ := entry
    unfold redactEntries
    split_ifs with hhidden
    · refine ⟨ih.1, fun key value distinct hentry hwalked ↦ ?_⟩
      have hne : first ≠ key := by
        rintro rfl
        exact hwalked.not_hidden hhidden
      simp only [seenBefore, if_neg hne, if_pos hhidden]
      rcases List.mem_cons.mp hentry with heq | hlater
      · exact absurd (congrArg Prod.fst heq).symm hne
      · exact ih.2 key value (List.nodup_cons.mp distinct).2 hlater hwalked
    · refine ⟨List.Subset.trans (hgrows u seen) ih.1, fun key value distinct hentry hwalked ↦ ?_⟩
      by_cases hsame : first = key
      · subst hsame
        obtain rfl := eq_of_nodup distinct hentry List.mem_cons_self
        simp only [seenBefore, if_true]
        exact ih.1
      · simp only [seenBefore, if_neg hsame, if_neg hhidden]
        rcases List.mem_cons.mp hentry with heq | hlater
        · exact absurd (congrArg Prod.fst heq).symm hsame
        · exact ih.2 key value (List.nodup_cons.mp distinct).2 hlater hwalked

/-- A copy keeps every key, but for the key `__proto__` of an object that is no array. -/
theorem keys_redactEntries {entries : List (String × Value n)} {seen : List (Fin n)} :
    (redactEntries walk isArray entries seen).1.map (·.1) =
      (entries.map (·.1)).filter fun key ↦ isArray || key ≠ "__proto__" := by
  have hassign : ∀ key value (out : List (String × Redacted n)),
      (assign isArray key value out).map (·.1) =
        [key].filter (fun key ↦ isArray || key ≠ "__proto__") ++ out.map (·.1) := by
    intro key value out
    unfold assign
    by_cases harray : isArray = true
    · simp [harray]
    · by_cases hproto : key = "__proto__" <;> simp [harray, hproto]
  induction entries generalizing seen with
  | nil => rfl
  | cons entry rest ih =>
    obtain ⟨key, value⟩ := entry
    unfold redactEntries
    split_ifs
    · rw [hassign, ih, ← List.filter_append]
      rfl
    · rw [hassign, ih, ← List.filter_append]
      rfl

end Entries

/-! ### The walk -/

section Walk

/-- An object that the walk returns as it is. -/
def IsOriginal : Node n → Prop
  | .carrier _ => True
  | .fields kind _ _ => kind = .error

theorem node_cases (node : Node n) :
    IsOriginal node ∨
      ∃ kind entries distinct, node = .fields kind entries distinct ∧ kind ≠ .error := by
  cases node with
  | carrier result => exact .inl trivial
  | fields kind entries distinct =>
    by_cases hkind : kind = .error
    · exact .inl hkind
    · exact .inr ⟨kind, entries, distinct, rfl, hkind⟩

variable {remaining : ℕ} {seen : List (Fin n)} {id : Fin n}

theorem walked_iff_visible {kind : Kind} {key : String} :
    Walked (kind = .array) key ↔ Visible kind key := by
  simp [Walked, Visible]

theorem redactTree_object_seen (hseen : id ∈ seen) :
    redactTree graph remaining (.object id) seen = (.primitive (.string "[circular]"), seen) := by
  cases remaining <;> simp [redactTree, hseen]

theorem redactTree_object_zero (hfresh : id ∉ seen) :
    redactTree graph 0 (.object id) seen = (.primitive (.string "[depth-limit]"), seen) := by
  simp [redactTree, hfresh]

theorem redactTree_original (hfresh : id ∉ seen) (horiginal : IsOriginal (graph id)) :
    redactTree graph (remaining + 1) (.object id) seen = (.original id, id :: seen) := by
  unfold redactTree
  rw [if_neg hfresh]
  unfold IsOriginal at horiginal
  split at horiginal
  · rename_i hnode
    simp only [hnode]
  · rename_i hnode
    subst horiginal
    simp only [hnode]

theorem redactTree_fields (hfresh : id ∉ seen) {kind : Kind} {entries : List (String × Value n)}
    {distinct : (entries.map (·.1)).Nodup} (hnode : graph id = .fields kind entries distinct)
    (hkind : kind ≠ .error) :
    redactTree graph (remaining + 1) (.object id) seen =
      (.copy (kind = .array)
          (redactEntries (redactTree graph remaining) (kind = .array) entries (id :: seen)).1,
        (redactEntries (redactTree graph remaining) (kind = .array) entries (id :: seen)).2) := by
  rw [redactTree, if_neg hfresh]
  cases kind <;> simp_all

/-- The walk forgets nothing. -/
theorem subset_redactTree (remaining : ℕ) (value : Value n) (seen : List (Fin n)) :
    seen ⊆ (redactTree graph remaining value seen).2 := by
  induction remaining generalizing value seen with
  | zero =>
    cases value with
    | primitive primitive => exact List.Subset.refl _
    | object id =>
      by_cases hseen : id ∈ seen
      · rw [redactTree_object_seen hseen]
        exact List.Subset.refl _
      · rw [redactTree_object_zero hseen]
        exact List.Subset.refl _
  | succ remaining ih =>
    cases value with
    | primitive primitive => exact List.Subset.refl _
    | object id =>
      by_cases hseen : id ∈ seen
      · rw [redactTree_object_seen hseen]
        exact List.Subset.refl _
      · have hnode : seen ⊆ id :: seen := List.subset_cons_self _ _
        rcases node_cases (graph id) with horiginal | ⟨kind, entries, distinct, hgraph, hkind⟩
        · rw [redactTree_original hseen horiginal]
          exact hnode
        · rw [redactTree_fields hseen hgraph hkind]
          exact List.Subset.trans hnode (subset_redactEntries ih).1

/-- What stands at a position of what the walk returns. -/
def showAt : List String → Redacted n → Option (Redacted n)
  | [], out => some out
  | key :: path, .copy _ entries => (entryAt key entries).bind (showAt path)
  | _ :: _, _ => none

/-- A position beyond an object leads through its copy. -/
theorem showAt_cons {key : String} {path : List String} {out : Redacted n}
    (hshow : showAt (key :: path) (redactTree graph remaining (.object id) seen).1 = some out)
    {kind : Kind} {entries : List (String × Value n)} {distinct : (entries.map (·.1)).Nodup}
    (hnode : graph id = .fields kind entries distinct) {value : Value n}
    (hentry : (key, value) ∈ entries) (hvisible : Visible kind key) :
    ∃ rest, remaining = rest + 1 ∧ id ∉ seen ∧ kind ≠ .error ∧
      showAt path (redactTree graph rest value
        (seenBefore (redactTree graph rest) (kind = .array) key entries (id :: seen))).1 =
          some out := by
  by_cases hseen : id ∈ seen
  · rw [redactTree_object_seen hseen] at hshow
    cases hshow
  · cases remaining with
    | zero =>
      rw [redactTree_object_zero hseen] at hshow
      cases hshow
    | succ rest =>
      by_cases hkind : kind = .error
      · rw [redactTree_original hseen (by rw [hnode]; exact hkind)] at hshow
        cases hshow
      · rw [redactTree_fields hseen hnode hkind] at hshow
        obtain ⟨found, hfound, hshow⟩ := Option.bind_eq_some_iff.mp hshow
        by_cases hkept : decide (kind = .array) = true ∨ key ≠ "__proto__"
        · rw [entryAt_redactEntries distinct hentry (walked_iff_visible.mpr hvisible) hkept]
            at hfound
          obtain rfl := Option.some.inj hfound
          exact ⟨rest, rfl, hseen, hkind, hshow⟩
        · -- An entry that is dropped stands nowhere.
          rw [not_or, not_not] at hkept
          have hkey : key ∈ (redactEntries (redactTree graph rest) (kind = .array) entries
              (id :: seen)).1.map (·.1) := by
            obtain ⟨entry, hentry, -⟩ := Option.map_eq_some_iff.mp hfound
            have hsame : entry.1 = key := by simpa using List.find?_some hentry
            exact hsame ▸ List.mem_map_of_mem (List.mem_of_find?_eq_some hentry)
          rw [keys_redactEntries] at hkey
          have hdropped := (List.mem_filter.mp hkey).2
          simp [hkept.1, hkept.2] at hdropped

/-- What stands at a position is what the walk returned there. -/
theorem exists_of_showAt {passed later : List (Fin n)} {start target : Value n}
    {path : List String} (hleads : Leads graph passed start path later target)
    {out : Redacted n} (hshow : showAt path (redactTree graph remaining start seen).1 = some out) :
    ∃ rest before, seen ⊆ before ∧ out = (redactTree graph rest target before).1 ∧
      (redactTree graph rest target before).2 ⊆ (redactTree graph remaining start seen).2 := by
  induction hleads generalizing remaining seen with
  | here =>
    exact ⟨remaining, seen, List.Subset.refl _, (Option.some.inj hshow).symm, List.Subset.refl _⟩
  | into hnode _ _ _ hentry hvisible _ ih =>
    obtain ⟨rest, rfl, hfresh, hkind, hshow⟩ := showAt_cons hshow hnode hentry hvisible
    obtain ⟨depth, before, hbefore, hout, hlater⟩ := ih hshow
    have hgrows : ∀ (value : Value n) (seen : List (Fin n)),
        seen ⊆ (redactTree graph rest value seen).2 := subset_redactTree rest
    refine ⟨depth, before, ?_, hout, ?_⟩
    · exact List.Subset.trans (List.subset_cons_self _ _)
        (List.Subset.trans (subset_seenBefore hgrows _ _ _) hbefore)
    · rw [redactTree_fields hfresh hnode hkind]
      exact List.Subset.trans hlater ((subset_redactEntries hgrows).2 _ _ ‹_› hentry
        (walked_iff_visible.mpr hvisible))

end Walk

/-! ### What is kept -/

/-- What the walk shows for a value it keeps. -/
def Shows (graph : Graph n) (value : Value n) (out : Redacted n) : Prop :=
  match value with
  | .primitive primitive => out = .primitive primitive
  | .object id =>
    match graph id with
    | .carrier _ => out = .original id
    | .fields kind entries _ =>
      if kind = .error then out = .original id
      else ∃ copies, out = .copy (kind = .array) copies ∧ copies.map (·.1) = entries.map (·.1)

/-- Every value on a way that enters no object twice is kept, within the depth. -/
def Keeps (graph : Graph n) (root : Fin n) : Prop :=
  ∀ path passed value, Leads graph [] (.object root) path passed value → Opens passed value →
    ∃ out, showAt path (redactLogObject graph root) = some out ∧ Shows graph value out

/-- No object is reached along two ways. -/
def OnePath (graph : Graph n) (root : Fin n) : Prop :=
  ∀ first second passed later id, Leads graph [] (.object root) first passed (.object id) →
    Opens passed (.object id) → Leads graph [] (.object root) second later (.object id) →
      Opens later (.object id) → first = second

/-- No object that the walk copies has a field `__proto__`. -/
def NoPrototypeField (graph : Graph n) (root : Fin n) : Prop :=
  ∀ path passed id kind entries distinct, Leads graph [] (.object root) path passed (.object id) →
    Opens passed (.object id) → graph id = .fields kind entries distinct → kind ≠ .error →
      kind ≠ .array → "__proto__" ∉ entries.map (·.1)

section Keeps

variable {remaining : ℕ} {seen passed later : List (Fin n)} {id root : Fin n} {value : Value n}

/-- An object that shows was not seen before, and is seen from there on. -/
theorem fresh_of_shows {out : Redacted n}
    (hout : out = (redactTree graph remaining (.object id) seen).1)
    (hshows : Shows graph (.object id) out) :
    id ∉ seen ∧ id ∈ (redactTree graph remaining (.object id) seen).2 := by
  have hnot : ∀ primitive, out ≠ .primitive primitive := by
    rintro primitive rfl
    unfold Shows at hshows
    dsimp only at hshows
    split at hshows
    · cases hshows
    · split_ifs at hshows
      obtain ⟨_, hcopy, _⟩ := hshows
      cases hcopy
  by_cases hseen : id ∈ seen
  · rw [redactTree_object_seen hseen] at hout
    exact absurd hout (hnot _)
  · refine ⟨hseen, ?_⟩
    cases remaining with
    | zero =>
      rw [redactTree_object_zero hseen] at hout
      exact absurd hout (hnot _)
    | succ remaining =>
      rcases node_cases (graph id) with horiginal | ⟨kind, entries, distinct, hgraph, hkind⟩
      · rw [redactTree_original hseen horiginal]
        exact List.mem_cons_self
      · rw [redactTree_fields hseen hgraph hkind]
        exact (subset_redactEntries (subset_redactTree remaining)).1 List.mem_cons_self

/-- An object that shows beyond a value was not seen before the value, and is seen after it. -/
theorem seen_of_shows {path : List String} (hleads : Leads graph passed value path later (.object id))
    {out : Redacted n} (hshow : showAt path (redactTree graph remaining value seen).1 = some out)
    (hshows : Shows graph (.object id) out) :
    id ∉ seen ∧ id ∈ (redactTree graph remaining value seen).2 := by
  obtain ⟨rest, before, hbefore, hout, hlater⟩ := exists_of_showAt hleads hshow
  obtain ⟨hfresh, hseen⟩ := fresh_of_shows hout hshows
  exact ⟨fun hid ↦ hfresh (hbefore hid), hlater hseen⟩

/-- Two ways on which one object shows are one. -/
theorem eq_of_shows {first second : List String} {middle : List (Fin n)}
    (hfirst : Leads graph passed value first middle (.object id)) (hopensFirst : Opens middle (.object id))
    (hsecond : Leads graph passed value second later (.object id))
    (hopensSecond : Opens later (.object id)) {out out' : Redacted n}
    (hshow : showAt first (redactTree graph remaining value seen).1 = some out)
    (hshows : Shows graph (.object id) out)
    (hshow' : showAt second (redactTree graph remaining value seen).1 = some out')
    (hshows' : Shows graph (.object id) out') : first = second := by
  induction first generalizing remaining seen passed value second with
  | nil =>
    cases hfirst
    cases hsecond with
    | here => rfl
    | into _ _ _ _ _ _ hrest =>
      have hpassed := hrest.subset List.mem_cons_self
      exact absurd hpassed (hopensSecond id rfl).1
  | cons key path ih =>
    cases hfirst with
    | into hnode hkind hfresh hdepth hentry hvisible hrest =>
      cases hsecond with
      | here => exact absurd (hrest.subset List.mem_cons_self) (hopensFirst _ rfl).1
      | @into _ _ _ kind' entries' distinct' key' value' _ path' hnode' _ _ _ hentry' hvisible' hrest' =>
        obtain ⟨rfl, rfl⟩ : _ ∧ _ := by
          simpa using hnode.symm.trans hnode'
        obtain ⟨rest, hremaining, hseen, -, hshow⟩ := showAt_cons hshow hnode hentry hvisible
        obtain ⟨rest', hremaining', -, -, hshow'⟩ := showAt_cons hshow' hnode hentry' hvisible'
        obtain rfl : rest = rest' := by omega
        by_cases hkey : key = key'
        · subst hkey
          obtain rfl := eq_of_nodup distinct' hentry hentry'
          rw [ih hrest hrest' hshow hshow']
        · -- One of the two entries comes first, and the object was seen there.
          obtain ⟨hfreshFirst, hseenFirst⟩ := seen_of_shows hrest hshow hshows
          obtain ⟨hfreshSecond, hseenSecond⟩ := seen_of_shows hrest' hshow' hshows'
          rcases seenBefore_total (subset_redactTree rest) hkey distinct' hentry hentry'
            (walked_iff_visible.mpr hvisible) (walked_iff_visible.mpr hvisible') with hle | hle
          · exact absurd (hle hseenFirst) hfreshSecond
          · exact absurd (hle hseenSecond) hfreshFirst

/-- An object opens on a way from a value. -/
def OpensFrom (graph : Graph n) (passed : List (Fin n)) (value : Value n) (id : Fin n) : Prop :=
  ∃ path later, Leads graph passed value path later (.object id) ∧ Opens later (.object id)

/-- An object opens on a way through an entry. -/
def OpensThrough (graph : Graph n) (passed : List (Fin n)) (entries : List (String × Value n))
    (key : String) (id : Fin n) : Prop :=
  ∃ value, (key, value) ∈ entries ∧ OpensFrom graph passed value id

/-- What a walk of some depth sees opens on a way from there. -/
def SeesWhatOpens (graph : Graph n) (remaining : ℕ) : Prop :=
  ∀ passed value seen, passed.length + remaining = MAX_REDACTION_DEPTH → passed ⊆ seen →
    ∀ id ∈ (redactTree graph remaining value seen).2, id ∈ seen ∨ OpensFrom graph passed value id

/-- The walk into an entry. -/
theorem SeesWhatOpens.entry (hsees : SeesWhatOpens graph remaining)
    (hdepth : passed.length + remaining = MAX_REDACTION_DEPTH)
    (entries : List (String × Value n)) (isArray : Bool) :
    ∀ key value seen, (key, value) ∈ entries → Walked isArray key → passed ⊆ seen →
      passed ⊆ (redactTree graph remaining value seen).2 ∧
        ∀ id ∈ (redactTree graph remaining value seen).2,
          id ∈ seen ∨ OpensThrough graph passed entries key id := by
  intro key value seen hentry _ hpassed
  refine ⟨List.Subset.trans hpassed (subset_redactTree remaining value seen), fun id hid ↦ ?_⟩
  rcases hsees passed value seen hdepth hpassed id hid with hearlier | hopens
  · exact .inl hearlier
  · exact .inr ⟨value, hentry, hopens⟩

/-- An object seen in a walk was seen before, or opens on a way from there. -/
theorem seesWhatOpens (graph : Graph n) (remaining : ℕ) : SeesWhatOpens graph remaining := by
  induction remaining with
  | zero =>
    intro passed value seen _ _ id hid
    cases value with
    | primitive primitive => exact .inl hid
    | object object =>
      by_cases hseen : object ∈ seen
      · rw [redactTree_object_seen hseen] at hid
        exact .inl hid
      · rw [redactTree_object_zero hseen] at hid
        exact .inl hid
  | succ remaining ih =>
    intro passed value seen hdepth hpassed id hid
    cases value with
    | primitive primitive => exact .inl hid
    | object object =>
      by_cases hseen : object ∈ seen
      · rw [redactTree_object_seen hseen] at hid
        exact .inl hid
      · have hopens : Opens passed (.object object) := by
          rintro _ ⟨⟩
          exact ⟨fun hmem ↦ hseen (hpassed hmem), by omega⟩
        have hhere : id ∈ object :: seen → id ∈ seen ∨ OpensFrom graph passed (.object object) id := by
          intro hid
          rcases List.mem_cons.mp hid with rfl | hearlier
          · exact .inr ⟨[], passed, .here, hopens⟩
          · exact .inl hearlier
        rcases node_cases (graph object) with horiginal | ⟨kind, entries, distinct, hgraph, hkind⟩
        · rw [redactTree_original hseen horiginal] at hid
          exact hhere hid
        · rw [redactTree_fields hseen hgraph hkind] at hid
          have hlength : (object :: passed).length + remaining = MAX_REDACTION_DEPTH := by
            rw [List.length_cons]
            omega
          rcases (redactEntries_seen (ih.entry hlength entries _)
            (List.cons_subset_cons _ hpassed)).2 id hid with
            hearlier | ⟨entry, -, hwalked, value, hentry, path, later, hleads, hlater⟩
          · exact hhere hearlier
          · refine .inr ⟨entry.1 :: path, later, ?_, hlater⟩
            exact .into hgraph hkind (hopens object rfl).1 (hopens object rfl).2 hentry
              (walked_iff_visible.mp hwalked) hleads

/-- What has been seen at the end of a way was passed, or opens on another way. -/
def SeenElsewhere (graph : Graph n) (root : Fin n) (here : List String)
    (passed seen : List (Fin n)) : Prop :=
  ∀ id ∈ seen, id ∈ passed ∨ ∃ way middle, Leads graph [] (.object root) way middle (.object id) ∧
    Opens middle (.object id) ∧ ¬ here <+: way

/-- Where no object is reached along two ways, an object that opens is seen for the first time. -/
theorem OnePath.fresh (hpaths : OnePath graph root) {here : List String}
    (hreached : Leads graph [] (.object root) here passed (.object id))
    (hopens : Opens passed (.object id)) (hseen : SeenElsewhere graph root here passed seen) :
    id ∉ seen := by
  intro hid
  rcases hseen id hid with hpassed | ⟨way, middle, hway, hmiddle, hother⟩
  · exact (hopens id rfl).1 hpassed
  · exact hother (hpaths _ _ _ _ _ hreached hopens hway hmiddle ▸ List.prefix_refl _)

/-- One entry further, what has been seen still was passed or opens on another way. -/
theorem SeenElsewhere.into {here : List String}
    (hseen : SeenElsewhere graph root here passed seen)
    (hreached : Leads graph [] (.object root) here passed (.object id))
    (hopens : Opens passed (.object id)) {kind : Kind} {entries : List (String × Value n)}
    {distinct : (entries.map (·.1)).Nodup} (hnode : graph id = .fields kind entries distinct)
    (hkind : kind ≠ .error) {key : String} {before : List (Fin n)}
    (hbefore : ∀ other ∈ before, other ∈ id :: seen ∨
      ∃ other' ≠ key, Walked (kind = .array) other' ∧
        OpensThrough graph (id :: passed) entries other' other) :
    SeenElsewhere graph root (here ++ [key]) (id :: passed) before := by
  intro other hother
  rcases hbefore other hother with hearlier |
    ⟨otherKey, hne, hwalked, value, hentry, path, later, hleads, hopensLater⟩
  · rcases List.mem_cons.mp hearlier with rfl | hseenOther
    · exact .inl List.mem_cons_self
    · rcases hseen other hseenOther with hpassed | ⟨way, middle, hway, hmiddle, hother⟩
      · exact .inl (List.mem_cons_of_mem _ hpassed)
      · refine .inr ⟨way, middle, hway, hmiddle, fun hprefix ↦ hother ?_⟩
        exact (List.prefix_append _ _).trans hprefix
  · have hstep : Leads graph passed (.object id) (otherKey :: path) later (.object other) :=
      .into hnode hkind (hopens id rfl).1 (hopens id rfl).2 hentry
        (walked_iff_visible.mp hwalked) hleads
    refine .inr ⟨_, later, hreached.trans hstep, hopensLater, fun hprefix ↦ hne ?_⟩
    rw [List.prefix_append_right_inj] at hprefix
    exact (List.cons_prefix_cons.mp hprefix).1.symm

/-- What shows for a value whose object is seen for the first time, above the depth limit. -/
theorem shows_here (hfields : NoPrototypeField graph root) {here : List String}
    (hreached : Leads graph [] (.object root) here passed value) (hopens : Opens passed value)
    (hfresh : ∀ id, value = .object id → id ∉ seen) :
    Shows graph value (redactTree graph (remaining + 1) value seen).1 := by
  cases value with
  | primitive primitive => rfl
  | object id =>
    have hid := hfresh id rfl
    unfold Shows
    dsimp only
    cases hnode : graph id with
    | carrier result => rw [redactTree_original hid (by rw [hnode]; trivial)]
    | fields kind entries distinct =>
      dsimp only
      split_ifs with hkind
      · rw [redactTree_original hid (by rw [hnode]; exact hkind)]
      · rw [redactTree_fields hid hnode hkind]
        refine ⟨_, rfl, ?_⟩
        rw [keys_redactEntries]
        refine List.filter_eq_self.mpr fun key hkey ↦ ?_
        by_cases harray : kind = .array
        · simp [harray]
        · have hproto := hfields _ _ _ _ _ _ hreached hopens hnode hkind harray
          have hne : key ≠ "__proto__" := fun h ↦ hproto (h ▸ hkey)
          simp [hne]

/-- Where no object is reached along two ways, a walk at the end of a way keeps what lies beyond
it. -/
theorem shows_of_onePath (hpaths : OnePath graph root) (hfields : NoPrototypeField graph root)
    {here path : List String} {start target : Value n}
    (hreached : Leads graph [] (.object root) here passed start)
    (hdepth : passed.length + remaining = MAX_REDACTION_DEPTH) (hpassed : passed ⊆ seen)
    (hseen : SeenElsewhere graph root here passed seen)
    (hleads : Leads graph passed start path later target) (hopens : Opens later target) :
    ∃ out, showAt path (redactTree graph remaining start seen).1 = some out ∧
      Shows graph target out := by
  induction remaining generalizing here path passed start seen with
  | zero =>
    cases hleads with
    | here =>
      cases target with
      | primitive primitive => exact ⟨_, rfl, rfl⟩
      | object id => exact absurd (hopens id rfl).2 (by omega)
    | into _ _ _ hless => exact absurd hless (by omega)
  | succ remaining ih =>
    cases hleads with
    | here =>
      refine ⟨_, rfl, shows_here hfields hreached hopens ?_⟩
      rintro id rfl
      exact hpaths.fresh hreached hopens hseen
    | @into _ _ id kind entries distinct key value _ path hnode hkind hid hless hentry hvisible hrest =>
      have hopensId : Opens passed (.object id) := by
        rintro _ ⟨⟩
        exact ⟨hid, hless⟩
      have hlength : (id :: passed).length + remaining = MAX_REDACTION_DEPTH := by
        rw [List.length_cons]
        omega
      have hkept : decide (kind = .array) = true ∨ key ≠ "__proto__" := by
        by_cases harray : kind = .array
        · exact .inl (by simpa using harray)
        · have hproto := hfields _ _ _ _ _ _ hreached hopensId hnode hkind harray
          exact .inr fun h ↦ hproto (h ▸ List.mem_map_of_mem hentry)
      have hbefore : id :: passed ⊆ seenBefore (redactTree graph remaining) (kind = .array) key
          entries (id :: seen) ∧ _ :=
        seenBefore_seen ((seesWhatOpens graph remaining).entry hlength entries (kind = .array))
          (List.cons_subset_cons id hpassed)
      have hstep : Leads graph passed (.object id) [key] (id :: passed) value :=
        .into hnode hkind hid hless hentry hvisible .here
      rw [redactTree_fields (hpaths.fresh hreached hopensId hseen) hnode hkind]
      show ∃ out, Option.bind _ _ = some out ∧ _
      rw [entryAt_redactEntries distinct hentry (walked_iff_visible.mpr hvisible) hkept]
      exact ih (hreached.trans hstep) hlength hbefore.1
        (hseen.into hreached hopensId hnode hkind hbefore.2) hrest

theorem keeps_iff : Keeps graph root ↔ OnePath graph root ∧ NoPrototypeField graph root := by
  constructor
  · intro hkeeps
    constructor
    · intro first second passed later id hfirst hopensFirst hsecond hopensSecond
      obtain ⟨out, hshow, hshows⟩ := hkeeps _ _ _ hfirst hopensFirst
      obtain ⟨out', hshow', hshows'⟩ := hkeeps _ _ _ hsecond hopensSecond
      exact eq_of_shows hfirst hopensFirst hsecond hopensSecond hshow hshows hshow' hshows'
    · intro path passed id kind entries distinct hleads hopens hnode hkind harray hproto
      obtain ⟨out, hshow, hshows⟩ := hkeeps _ _ _ hleads hopens
      obtain ⟨rest, before, -, hout, -⟩ := exists_of_showAt hleads hshow
      obtain ⟨hfresh, -⟩ := fresh_of_shows hout hshows
      unfold Shows at hshows
      simp only [hnode, if_neg hkind] at hshows
      obtain ⟨copies, rfl, hkeys⟩ := hshows
      cases rest with
      | zero =>
        rw [redactTree_object_zero hfresh] at hout
        cases hout
      | succ rest =>
        rw [redactTree_fields hfresh hnode hkind] at hout
        obtain ⟨-, rfl⟩ := Redacted.copy.inj hout
        rw [keys_redactEntries] at hkeys
        rw [← hkeys] at hproto
        simp [harray] at hproto
  · rintro ⟨hpaths, hfields⟩ path passed value hleads hopens
    exact shows_of_onePath hpaths hfields .here rfl (List.nil_subset _)
      (fun _ hid ↦ absurd hid List.not_mem_nil) hleads hopens

end Keeps

/-! ### What is hidden -/

/-- The serialization prints an entry of an object, and its key is credential-shaped. -/
def Hidden (kind : Kind) (key : String) : Prop := ¬ Visible kind key

/-- The same objects, apart from values under credential-shaped keys. -/
inductive AgreesNode : Node n → Node n → Prop
  | carrier (result : Value n) : AgreesNode (.carrier result) (.carrier result)
  | fields {kind : Kind} {entries others : List (String × Value n)}
      {distinct : (entries.map (·.1)).Nodup} {distinct' : (others.map (·.1)).Nodup}
      (hentries : List.Forall₂
        (fun first second ↦ first.1 = second.1 ∧ (Visible kind first.1 → first.2 = second.2))
        entries others) :
    AgreesNode (.fields kind entries distinct) (.fields kind others distinct')

/-- Log objects of one shape that differ only in values held under credential-shaped keys. -/
def Agrees (graph other : Graph n) : Prop := ∀ id, AgreesNode (graph id) (other id)

/-- Whatever stands under credential-shaped keys, the same is printed. -/
def Hides (graph : Graph n) (root : Fin n) : Prop :=
  ∀ other, Agrees graph other → ∀ depth,
    serialize graph depth (redactLogObject graph root) =
      serialize other depth (redactLogObject other root)

/-- An object that is printed as it is prints an entry under a credential-shaped key. -/
inductive Exposes (graph : Graph n) : Fin n → Prop
  | here {id : Fin n} {kind : Kind} {entries : List (String × Value n)}
      {distinct : (entries.map (·.1)).Nodup} {key : String} {value : Value n}
      (hnode : graph id = .fields kind entries distinct) (hentry : (key, value) ∈ entries)
      (hhidden : Hidden kind key) : Exposes graph id
  | entry {id child : Fin n} {kind : Kind} {entries : List (String × Value n)}
      {distinct : (entries.map (·.1)).Nodup} {key : String}
      (hnode : graph id = .fields kind entries distinct) (hentry : (key, .object child) ∈ entries)
      (hvisible : Visible kind key) (hchild : Exposes graph child) : Exposes graph id
  | result {id child : Fin n} (hnode : graph id = .carrier (.object child))
      (hchild : Exposes graph child) : Exposes graph id

/-- No `Error` and no object with a method `toJSON` at the end of a way exposes anything. -/
def NothingExposed (graph : Graph n) (root : Fin n) : Prop :=
  ∀ path passed id, Leads graph [] (.object root) path passed (.object id) →
    Opens passed (.object id) → IsOriginal (graph id) → ¬ Exposes graph id

section Hides

variable {remaining : ℕ} {root : Fin n}

theorem redactEntries_congr {walk walk' : Value n → List (Fin n) → Redacted n × List (Fin n)}
    (hwalk : ∀ value seen, walk value seen = walk' value seen) {kind : Kind}
    {entries others : List (String × Value n)} {seen : List (Fin n)}
    (hentries : List.Forall₂
      (fun first second ↦ first.1 = second.1 ∧ (Visible kind first.1 → first.2 = second.2))
      entries others) :
    redactEntries walk (kind = .array) entries seen =
      redactEntries walk' (kind = .array) others seen := by
  induction hentries generalizing seen with
  | nil => rfl
  | @cons first second _ _ hfirst _ ih =>
    obtain ⟨key, value⟩ := first
    obtain ⟨key', value'⟩ := second
    obtain ⟨rfl, hvalue⟩ : key = key' ∧ (Visible kind key → value = value') := hfirst
    unfold redactEntries
    by_cases hhidden : (!decide (kind = .array) && isCredentialKey key) = true
    · simp only [if_pos hhidden, ih]
    · obtain rfl := hvalue (walked_iff_visible.mp (walked_of_not_hidden hhidden))
      simp only [if_neg hhidden, hwalk, ih]

/-- The walk does not read what stands under credential-shaped keys. -/
theorem redactTree_congr (hagrees : Agrees graph other) (remaining : ℕ) (value : Value n)
    (seen : List (Fin n)) :
    redactTree graph remaining value seen = redactTree other remaining value seen := by
  induction remaining generalizing value seen with
  | zero =>
    cases value with
    | primitive primitive => rfl
    | object id =>
      by_cases hseen : id ∈ seen
      · rw [redactTree_object_seen hseen, redactTree_object_seen hseen]
      · rw [redactTree_object_zero hseen, redactTree_object_zero hseen]
  | succ remaining ih =>
    cases value with
    | primitive primitive => rfl
    | object id =>
      by_cases hseen : id ∈ seen
      · rw [redactTree_object_seen hseen, redactTree_object_seen hseen]
      · have hnode := hagrees id
        generalize hgraph : graph id = node at hnode
        generalize hother : other id = node' at hnode
        cases hnode with
        | carrier result =>
          rw [redactTree_original hseen (by rw [hgraph]; trivial),
            redactTree_original hseen (by rw [hother]; trivial)]
        | @fields kind entries others _ _ hentries =>
          by_cases hkind : kind = .error
          · rw [redactTree_original hseen (by rw [hgraph]; exact hkind),
              redactTree_original hseen (by rw [hother]; exact hkind)]
          · rw [redactTree_fields hseen hgraph hkind, redactTree_fields hseen hother hkind,
              redactEntries_congr ih hentries]

theorem eq_of_visible {kind : Kind} {entries others : List (String × Value n)}
    (hentries : List.Forall₂
      (fun first second ↦ first.1 = second.1 ∧ (Visible kind first.1 → first.2 = second.2))
      entries others) (hvisible : ∀ entry ∈ entries, Visible kind entry.1) : entries = others := by
  induction hentries with
  | nil => rfl
  | cons hfirst _ ih =>
    obtain ⟨hfirstVisible, hrest⟩ := List.forall_mem_cons.mp hvisible
    rw [ih hrest, Prod.ext hfirst.1 (hfirst.2 hfirstVisible)]

/-- An object that exposes nothing prints the same. -/
theorem render_congr (hagrees : Agrees graph other) (depth : ℕ) {value : Value n}
    (hnothing : ∀ id, value = .object id → ¬ Exposes graph id) :
    render graph depth value = render other depth value := by
  induction depth generalizing value with
  | zero => cases value <;> rfl
  | succ depth ih =>
    cases value with
    | primitive primitive => rfl
    | object id =>
      have hid := hnothing id rfl
      have hnode := hagrees id
      unfold render
      generalize hgraph : graph id = node at hnode
      generalize hother : other id = node' at hnode
      cases hnode with
      | carrier result =>
        refine ih fun child hchild hexposes ↦ hid ?_
        exact .result (hchild ▸ hgraph) hexposes
      | @fields kind entries others _ _ hentries =>
        have hvisible : ∀ entry ∈ entries, Visible kind entry.1 := fun entry hentry ↦
          Classical.byContradiction fun hhidden ↦ hid (.here hgraph hentry hhidden)
        obtain rfl := eq_of_visible hentries hvisible
        refine congrArg (Printed.node _) (List.map_congr_left fun entry hentry ↦ ?_)
        rw [ih fun child hchild hexposes ↦ hid ?_]
        exact .entry hgraph (hchild ▸ hentry) (hvisible entry hentry) hexposes

/-- The copies and the objects as they are that a printed tree has in it. -/
inductive Holds (id : Fin n) : Redacted n → Prop
  | original : Holds id (.original id)
  | copy {isArray : Bool} {entries : List (String × Redacted n)} {entry : String × Redacted n}
      (hentry : entry ∈ entries) (hholds : Holds id entry.2) : Holds id (.copy isArray entries)

theorem serialize_copy (depth : ℕ) (isArray : Bool) (entries : List (String × Redacted n)) :
    serialize graph depth (.copy isArray entries) =
      .node isArray (entries.map fun entry ↦ (entry.1, serialize graph depth entry.2)) := by
  let print : String × Redacted n → String × Printed :=
    fun entry ↦ (entry.1, serialize graph depth entry.2)
  have hentries : entries.attach.map (fun entry ↦ print entry.1) = entries.map print :=
    List.attach_map_val
  rw [serialize]
  exact congrArg (Printed.node isArray) hentries

/-- What is printed depends on the objects that are printed as they are. -/
theorem serialize_congr {depth : ℕ} (out : Redacted n)
    (hsame : ∀ id, Holds id out →
      render graph depth (.object id) = render other depth (.object id)) :
    serialize graph depth out = serialize other depth out := by
  match out, hsame with
  | .primitive primitive, _ =>
    rw [serialize, serialize]
  | .original id, hsame =>
    rw [serialize, serialize]
    exact hsame id .original
  | .copy isArray entries, hsame =>
    rw [serialize_copy, serialize_copy]
    refine congrArg (Printed.node _) (List.map_congr_left fun entry hentry ↦ ?_)
    rw [serialize_congr entry.2 fun id hholds ↦ hsame id (.copy hentry hholds)]
termination_by sizeOf out
decreasing_by exact sizeOf_lt_copy hentry

/-- What the loop returns for an entry is the marker, or what the walk returned. -/
theorem mem_redactEntries {walk : Value n → List (Fin n) → Redacted n × List (Fin n)}
    (hgrows : ∀ value seen, seen ⊆ (walk value seen).2) {isArray : Bool}
    {entries : List (String × Value n)} {seen : List (Fin n)} {entry : String × Redacted n}
    (hentry : entry ∈ (redactEntries walk isArray entries seen).1) :
    entry.2 = .primitive REDACTED ∨ ∃ value before, (entry.1, value) ∈ entries ∧
      Walked isArray entry.1 ∧ seen ⊆ before ∧ entry.2 = (walk value before).1 := by
  have hassign : ∀ {key value} {out : List (String × Redacted n)},
      entry ∈ assign isArray key value out → entry = (key, value) ∨ entry ∈ out := by
    intro key value out hmem
    unfold assign at hmem
    split_ifs at hmem
    · exact .inr hmem
    · exact List.mem_cons.mp hmem
  induction entries generalizing seen with
  | nil => exact absurd hentry List.not_mem_nil
  | cons first rest ih =>
    obtain ⟨key, value⟩ := first
    unfold redactEntries at hentry
    split_ifs at hentry with hhidden
    · rcases hassign hentry with rfl | hlater
      · exact .inl rfl
      · rcases ih hlater with hmarker | ⟨value, before, hmem, hwalked, hseen, hout⟩
        · exact .inl hmarker
        · exact .inr ⟨value, before, List.mem_cons_of_mem _ hmem, hwalked, hseen, hout⟩
    · rcases hassign hentry with rfl | hlater
      · exact .inr ⟨value, seen, List.mem_cons_self, walked_of_not_hidden hhidden,
          List.Subset.refl _, rfl⟩
      · rcases ih hlater with hmarker | ⟨value, before, hmem, hwalked, hseen, hout⟩
        · exact .inl hmarker
        · exact .inr ⟨value, before, List.mem_cons_of_mem _ hmem, hwalked,
            List.Subset.trans (hgrows _ _) hseen, hout⟩

/-- An object returned as it is opens on a way from the walk. -/
theorem opensFrom_of_holds {passed seen : List (Fin n)} {value : Value n}
    (hdepth : passed.length + remaining = MAX_REDACTION_DEPTH) (hpassed : passed ⊆ seen)
    {id : Fin n} (hholds : Holds id (redactTree graph remaining value seen).1) :
    IsOriginal (graph id) ∧ OpensFrom graph passed value id := by
  induction remaining generalizing passed value seen with
  | zero =>
    cases value with
    | primitive primitive => cases hholds
    | object object =>
      by_cases hseen : object ∈ seen
      · rw [redactTree_object_seen hseen] at hholds
        cases hholds
      · rw [redactTree_object_zero hseen] at hholds
        cases hholds
  | succ remaining ih =>
    cases value with
    | primitive primitive => cases hholds
    | object object =>
      by_cases hseen : object ∈ seen
      · rw [redactTree_object_seen hseen] at hholds
        cases hholds
      · have hopens : Opens passed (.object object) := by
          rintro _ ⟨⟩
          exact ⟨fun hmem ↦ hseen (hpassed hmem), by omega⟩
        rcases node_cases (graph object) with horiginal | ⟨kind, entries, distinct, hgraph, hkind⟩
        · rw [redactTree_original hseen horiginal] at hholds
          cases hholds
          exact ⟨horiginal, [], passed, .here, hopens⟩
        · rw [redactTree_fields hseen hgraph hkind] at hholds
          cases hholds with
          | @copy _ _ entry hentry hholds =>
            rcases mem_redactEntries (subset_redactTree remaining) hentry with
              hmarker | ⟨value, before, hmem, hwalked, hbefore, hout⟩
            · rw [hmarker] at hholds
              cases hholds
            · rw [hout] at hholds
              have hlength : (object :: passed).length + remaining = MAX_REDACTION_DEPTH := by
                rw [List.length_cons]
                omega
              obtain ⟨horiginal, path, later, hleads, hlater⟩ :=
                ih hlength (List.Subset.trans (List.cons_subset_cons _ hpassed) hbefore) hholds
              refine ⟨horiginal, entry.1 :: path, later, ?_, hlater⟩
              exact .into hgraph hkind (hopens object rfl).1 (hopens object rfl).2 hmem
                (walked_iff_visible.mp hwalked) hleads

/-- Where nothing is exposed, redaction hides. -/
theorem hides_of_nothingExposed (hnothing : NothingExposed graph root) : Hides graph root := by
  intro other hagrees depth
  unfold redactLogObject
  rw [← redactTree_congr hagrees]
  refine serialize_congr _ fun id hholds ↦ render_congr hagrees depth ?_
  rintro _ ⟨⟩
  obtain ⟨horiginal, path, passed, hleads, hopens⟩ :=
    opensFrom_of_holds rfl (List.nil_subset _) hholds
  exact hnothing path passed id hleads hopens horiginal

/-! ### What is exposed -/

theorem AgreesNode.refl (node : Node n) : AgreesNode node node := by
  cases node with
  | carrier result => exact .carrier result
  | fields kind entries distinct => exact .fields (List.forall₂_same.mpr fun _ _ ↦ ⟨rfl, fun _ ↦ rfl⟩)

/-- An entry with another value under its key. -/
def replaced (key : String) (value : Value n) (entry : String × Value n) : String × Value n :=
  if entry.1 = key then (entry.1, value) else entry

theorem map_fst_replaced (key : String) (value : Value n) (entries : List (String × Value n)) :
    (entries.map (replaced key value)).map (·.1) = entries.map (·.1) := by
  rw [List.map_map]
  refine List.map_congr_left fun entry _ ↦ ?_
  show (replaced key value entry).1 = entry.1
  unfold replaced
  split_ifs <;> rfl

theorem exists_of_map_eq {kind : Kind} {entries others : List (String × Value n)}
    {first second : String × Value n → Printed}
    (hentries : List.Forall₂
      (fun first second ↦ first.1 = second.1 ∧ (Visible kind first.1 → first.2 = second.2))
      entries others)
    (hmap : entries.map (fun entry ↦ (entry.1, first entry)) =
      others.map fun entry ↦ (entry.1, second entry)) {key : String} {value : Value n}
    (hmem : (key, value) ∈ entries) (hvisible : Visible kind key) :
    first (key, value) = second (key, value) := by
  induction hentries with
  | nil => exact absurd hmem List.not_mem_nil
  | @cons entry entry' _ _ hentry _ ih =>
    obtain ⟨hhead, hrest⟩ := List.cons.inj hmap
    rcases List.mem_cons.mp hmem with rfl | hlater
    · have hsame : entry' = (key, value) := Prod.ext hentry.1.symm (hentry.2 hvisible).symm
      rw [hsame] at hhead
      exact (Prod.mk.inj hhead).2
    · exact ih hrest hlater

/-- An object that exposes something prints it. -/
theorem exists_render_ne {id : Fin n} (hexposes : Exposes graph id) :
    ∃ other, Agrees graph other ∧
      ∃ depth, render graph depth (.object id) ≠ render other depth (.object id) := by
  induction hexposes with
  | @here id kind entries distinct key value hnode hentry hhidden =>
    obtain ⟨primitive, hprimitive⟩ : ∃ primitive, Printed.leaf primitive ≠ render graph 1 value := by
      by_cases htrue : Printed.leaf (.other "true") = render graph 1 value
      · refine ⟨.other "false", fun hfalse ↦ ?_⟩
        have hsame := Printed.leaf.inj (htrue.trans hfalse.symm)
        simp at hsame
      · exact ⟨.other "true", htrue⟩
    have hdistinct : ((entries.map (replaced key (.primitive primitive))).map (·.1)).Nodup := by
      rw [map_fst_replaced]
      exact distinct
    refine ⟨Function.update graph id (.fields kind _ hdistinct), fun other ↦ ?_, 2, fun hsame ↦ ?_⟩
    · by_cases hother : other = id
      · subst hother
        rw [Function.update_self, hnode]
        refine .fields ?_
        rw [List.forall₂_map_right_iff]
        refine List.forall₂_same.mpr fun entry _ ↦ ?_
        unfold replaced
        split_ifs with hkey
        · exact ⟨rfl, fun hvisible ↦ absurd (hkey ▸ hvisible) hhidden⟩
        · exact ⟨rfl, fun _ ↦ rfl⟩
      · rw [Function.update_of_ne hother]
        exact .refl _
    · simp only [render, hnode, Function.update_self, Printed.node.injEq, true_and, List.map_map]
        at hsame
      have hpoint := List.map_inj_left.mp hsame (key, value) hentry
      simp only [Function.comp, replaced, if_true, Prod.mk.injEq, true_and] at hpoint
      exact hprimitive hpoint.symm
  | @entry id child kind entries distinct key hnode hentry hvisible _ ih =>
    obtain ⟨other, hagrees, depth, hne⟩ := ih
    refine ⟨other, hagrees, depth + 1, fun hsame ↦ hne ?_⟩
    have hid := hagrees id
    rw [hnode] at hid
    generalize hother : other id = node at hid
    cases hid with
    | fields hentries =>
      simp only [render, hnode, hother, Printed.node.injEq, true_and] at hsame
      exact exists_of_map_eq hentries hsame hentry hvisible
  | @result id child hnode _ ih =>
    obtain ⟨other, hagrees, depth, hne⟩ := ih
    refine ⟨other, hagrees, depth + 1, fun hsame ↦ hne ?_⟩
    have hid := hagrees id
    rw [hnode] at hid
    generalize hother : other id = node at hid
    cases hid with
    | carrier => simpa only [render, hnode, hother] using hsame

/-- What is printed the same as a whole is printed the same at every position. -/
theorem serialize_eq_at {depth : ℕ} {path : List String} {out shown : Redacted n}
    (hsame : serialize graph depth out = serialize other depth out)
    (hshow : showAt path out = some shown) :
    serialize graph depth shown = serialize other depth shown := by
  induction path generalizing out with
  | nil => exact Option.some.inj hshow ▸ hsame
  | cons key path ih =>
    cases out with
    | primitive primitive => cases hshow
    | original id => cases hshow
    | copy isArray entries =>
      obtain ⟨value, hentry, hshow⟩ := Option.bind_eq_some_iff.mp hshow
      obtain ⟨entry, hfind, rfl⟩ := Option.map_eq_some_iff.mp hentry
      rw [serialize_copy, serialize_copy, Printed.node.injEq] at hsame
      have hpoint := List.map_inj_left.mp hsame.2 entry (List.mem_of_find?_eq_some hfind)
      exact ih (Prod.mk.inj hpoint).2 hshow

/-- Where everything is kept and hidden, nothing is exposed. -/
theorem nothingExposed_of_hides (hkeeps : Keeps graph root) (hhides : Hides graph root) :
    NothingExposed graph root := by
  intro path passed id hleads hopens horiginal hexposes
  obtain ⟨other, hagrees, depth, hne⟩ := exists_render_ne hexposes
  obtain ⟨out, hshow, hshows⟩ := hkeeps _ _ _ hleads hopens
  have hout : out = .original id := by
    unfold Shows at hshows
    unfold IsOriginal at horiginal
    dsimp only at hshows
    split at hshows
    · exact hshows
    · rename_i hnode
      rw [hnode] at horiginal
      simpa [horiginal] using hshows
  have hsame := hhides other hagrees depth
  unfold redactLogObject at hsame hshow
  rw [← redactTree_congr hagrees] at hsame
  have hprinted := serialize_eq_at hsame (hout ▸ hshow)
  rw [serialize, serialize] at hprinted
  exact hne hprinted

end Hides

/-- Redaction keeps and hides what it should exactly where no object is reached along two ways, none
that is copied has a field `__proto__`, and nothing that is returned as it is exposes a
credential-shaped key. -/
theorem complete_iff (graph : Graph n) (root : Fin n) :
    (Hides graph root ∧ Keeps graph root) ↔
      (OnePath graph root ∧ NoPrototypeField graph root ∧ NothingExposed graph root) := by
  constructor
  · rintro ⟨hhides, hkeeps⟩
    obtain ⟨hpaths, hfields⟩ := keeps_iff.mp hkeeps
    exact ⟨hpaths, hfields, nothingExposed_of_hides hkeeps hhides⟩
  · rintro ⟨hpaths, hfields, hnothing⟩
    exact ⟨hides_of_nothingExposed hnothing, keeps_iff.mpr ⟨hpaths, hfields⟩⟩

/-! A failed request, logged with the error of the client that sent it and with one request object
under two names. -/

namespace FailedRequest

/-- The error carries the bearer token of its request. -/
def objects (token : String) : Graph 3
  | 0 => .fields .plain [("err", .object 1), ("request", .object 2), ("original", .object 2)]
    (by decide)
  | 1 => .fields .error [("token", .primitive (.string token))] (by simp)
  | 2 => .fields .plain [("path", .primitive (.string "/v1/me"))] (by decide)

theorem agrees : Agrees (objects "eyJhbGciOi") (objects "c2VjcmV0") := by
  intro id
  match id with
  | 0 => exact .refl _
  | 2 => exact .refl _
  | 1 =>
    refine .fields (.cons ⟨rfl, fun hvisible ↦ ?_⟩ .nil)
    have hhidden : ¬ Visible .error "token" := by
      unfold Visible
      decide
    exact absurd hvisible hhidden

theorem redactLogObject_objects (token : String) :
    redactLogObject (objects token) 0 =
      .copy false [("err", .original 1),
        ("request", .copy false [("path", .primitive (.string "/v1/me"))]),
        ("original", .primitive (.string "[circular]"))] := by
  have herr : isCredentialKey "err" = false := by decide
  have hrequest : isCredentialKey "request" = false := by decide
  have horiginal : isCredentialKey "original" = false := by decide
  have hpath : isCredentialKey "path" = false := by decide
  simp [redactLogObject, MAX_REDACTION_DEPTH, redactTree, objects, redactEntries, assign, herr,
    hrequest, horiginal, hpath]

end FailedRequest

/-- The token of the error is printed, and the second name of the request is not. -/
theorem not_complete_failedRequest :
    ¬ Hides (FailedRequest.objects "eyJhbGciOi") 0 ∧
      ¬ Keeps (FailedRequest.objects "eyJhbGciOi") 0 := by
  constructor
  · intro hhides
    have hsame := hhides _ FailedRequest.agrees 1
    rw [FailedRequest.redactLogObject_objects, FailedRequest.redactLogObject_objects] at hsame
    simp [serialize, render, FailedRequest.objects] at hsame
  · intro hkeeps
    have horiginal : Visible .plain "original" := by
      unfold Visible
      decide
    have hleads : Leads (FailedRequest.objects "eyJhbGciOi") [] (.object 0) ["original"] [0]
        (.object 2) := by
      refine .into rfl (by decide) List.not_mem_nil (by decide) ?_ horiginal .here
      simp
    have hopens : Opens [(0 : Fin 3)] (.object 2) := by
      rintro _ ⟨⟩
      decide
    obtain ⟨out, hshow, copies, hcopy, -⟩ := hkeeps _ _ _ hleads hopens
    rw [FailedRequest.redactLogObject_objects] at hshow
    simp [showAt, entryAt, hcopy] at hshow

end Karar.Platform.Redaction
