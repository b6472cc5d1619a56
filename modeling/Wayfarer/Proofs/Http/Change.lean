import Mathlib
import Wayfarer.Proofs.Http.Order

/-!
Header tables after any changes.

* `Headers.Change`, `Headers.run`: a change of a table, and the table that changes make of the
  empty one;
* `Headers.valuesAfter`, `Headers.lastAbsent`: what changes leave under a name, and the last moment
  at which that was nothing;
* `Headers.getAll_run`: the table has under a name what the changes leave there;
* `Headers.pairwise_run`: its names stand in the order in which they came to stay;
* `Headers.ofPairs_toList`: the pairs of a table make the table again;
* `Headers.records_of_changes`: a table is **an ordered multimap** of what was done to it.
-/

namespace Wayfarer

/-! ### Names and values from texts and bytes -/

namespace FieldName

variable {text : String} {name name' : FieldName}

/-- A text spells the name that it is in small letters. -/
lemma ofString?_eq_some_iff : ofString? text = some name ↔ lowered text = name.text := by
  rw [ofString?]
  split_ifs with valid
  · rw [Option.some.injEq, mk.injEq]
  · refine iff_of_false nofun fun same => valid ?_
    rw [same]
    exact name.valid

lemma lowered_ne_of_none (spells : ofString? text = none) : lowered text ≠ name.text := by
  intro same
  rw [ofString?_eq_some_iff.mpr same] at spells
  cases spells

lemma lowered_eq_iff_of_some (spells : ofString? text = some name) :
    lowered text = name'.text ↔ name' = name := by
  rw [← ofString?_eq_some_iff, spells, Option.some.injEq, eq_comm]

lemma eq_lowered_iff_of_some (spells : ofString? text = some name) :
    name'.text = lowered text ↔ name' = name :=
  eq_comm.trans (lowered_eq_iff_of_some spells)

lemma toLower_of_isNameChar {c : Char} (inside : isNameChar c = true) : c.toLower = c := by
  rw [Char.toLower, dif_neg]
  rw [isNameChar, Bool.or_eq_true, Bool.or_eq_true] at inside
  rcases inside with (letter | digit) | mark
  · have last : 'Z'.val.toNat < 'a'.val.toNat := by decide
    simp only [Char.isLower, Bool.and_eq_true, decide_eq_true_eq, ge_iff_le,
      UInt32.le_iff_toNat_le] at letter ⊢
    omega
  · have first : '9'.val.toNat < 'A'.val.toNat := by decide
    simp only [Char.isDigit, Bool.and_eq_true, decide_eq_true_eq, ge_iff_le,
      UInt32.le_iff_toNat_le] at digit ⊢
    omega
  · have marks : "!#$%&'*+-.^_\x60|~".toList.all (!·.isUpper) = true := by decide
    have small := List.all_eq_true.mp marks c (List.contains_iff_mem.mp mark)
    exact of_decide_eq_false (Bool.not_eq_true' _ ▸ small)

/-- A name is in small letters. -/
lemma lowered_text (name : FieldName) : lowered name.text = name.text := by
  have chars : ∀ c ∈ name.text.toList, isNameChar c = true := by
    have valid := name.valid
    rw [isFieldName, Bool.and_eq_true] at valid
    exact List.all_eq_true.mp valid.2
  have small : name.text.toList.map Char.toLower = name.text.toList :=
    (List.map_congr_left fun c mem => toLower_of_isNameChar (chars c mem)).trans (List.map_id _)
  rw [lowered, small, String.ofList_toList]

lemma ofString?_text (name : FieldName) : ofString? name.text = some name :=
  ofString?_eq_some_iff.mpr name.lowered_text

end FieldName

lemma FieldValue.ofBytes?_bytes (value : FieldValue) : ofBytes? value.bytes = some value :=
  dif_pos value.valid

namespace Headers

/-! ### Changes -/

/-- A change of a table. -/
inductive Change where
  | append (name : FieldName) (value : FieldValue)
  | appendRaw (text : String) (bytes : Bytes)
  | insert (name : FieldName) (value : FieldValue)
  | erase (text : String)
  | retain (p : FieldName → Bool)

variable {h : Headers} {name : FieldName} {change : Change} {changes : List Change}

/-- The table after a change. What is no field is left out. -/
def Change.apply (h : Headers) : Change → Headers
  | .append name value => h.append name value
  | .appendRaw text bytes => (h.appendRaw? text bytes).getD h
  | .insert name value => h.insert name value
  | .erase text => h.eraseText text
  | .retain p => h.retain p

/-- The table that changes make of the empty one. -/
def run (changes : List Change) : Headers :=
  changes.foldl Change.apply empty

lemma run_concat (changes : List Change) (change : Change) :
    run (changes ++ [change]) = change.apply (run changes) :=
  List.foldl_concat ..

/-! ### What is left under a name -/

/-- What a change leaves of the values under a name. -/
def Change.leaves (name : FieldName) (values : List FieldValue) : Change → List FieldValue
  | .append appended value => if name = appended then values ++ [value] else values
  | .appendRaw text bytes =>
      if lowered text = name.text then values ++ (FieldValue.ofBytes? bytes).toList else values
  | .insert inserted value => if name = inserted then [value] else values
  | .erase text => if lowered text = name.text then [] else values
  | .retain p => if p name then values else []

/-- What changes leave under a name, where there was nothing before them. -/
def valuesAfter (changes : List Change) (name : FieldName) : List FieldValue :=
  changes.foldl (Change.leaves name) []

/-- The last moment at which there was nothing under a name. -/
def lastAbsent (changes : List Change) (name : FieldName) : Nat :=
  Nat.findGreatest (fun k => valuesAfter (changes.take k) name = []) changes.length

lemma getAll_apply (h : Headers) (change : Change) (name : FieldName) :
    (change.apply h).getAll name = change.leaves name (h.getAll name) := by
  cases change with
  | append appended value => exact getAll_append h appended value name
  | appendRaw text bytes =>
      rw [Change.apply, Change.leaves, appendRaw?]
      cases spells : FieldName.ofString? text with
      | none => simp [FieldName.lowered_ne_of_none spells]
      | some spelled =>
          cases FieldValue.ofBytes? bytes with
          | none => simp
          | some value => simp [getAll_append, FieldName.lowered_eq_iff_of_some spells]
  | insert inserted value => exact getAll_insert h inserted value name
  | erase text =>
      rw [Change.apply, Change.leaves, eraseText]
      cases spells : FieldName.ofString? text with
      | none => simp [FieldName.lowered_ne_of_none spells]
      | some spelled => simp [getAll_erase, FieldName.lowered_eq_iff_of_some spells]
  | retain p => exact getAll_retain h p name

/-- The table has under a name what the changes leave there. -/
theorem getAll_run (changes : List Change) (name : FieldName) :
    (run changes).getAll name = valuesAfter changes name :=
  (List.foldl_hom (fun h : Headers => h.getAll name)
    fun h change => (getAll_apply h change name).symm).symm

lemma mem_names_run : name ∈ (run changes).names ↔ valuesAfter changes name ≠ [] := by
  rw [← getAll_run, Ne, getAll_eq_nil_iff, Classical.not_not]

/-! ### When a name came -/

lemma lastAbsent_le (changes : List Change) (name : FieldName) :
    lastAbsent changes name ≤ changes.length :=
  Nat.findGreatest_le _

lemma valuesAfter_take_lastAbsent (changes : List Change) (name : FieldName) :
    valuesAfter (changes.take (lastAbsent changes name)) name = [] :=
  Nat.findGreatest_spec (P := fun k => valuesAfter (changes.take k) name = [])
    (Nat.zero_le changes.length) rfl

lemma lastAbsent_of_absent (absent : valuesAfter changes name = []) :
    lastAbsent changes name = changes.length := by
  refine Nat.findGreatest_eq ?_
  rwa [List.take_length]

lemma lastAbsent_lt_of_present (present : valuesAfter changes name ≠ []) :
    lastAbsent changes name < changes.length := by
  refine lt_of_le_of_ne (lastAbsent_le changes name) fun last => present ?_
  have absent := valuesAfter_take_lastAbsent changes name
  rwa [last, List.take_length] at absent

/-- A change that leaves something under a name is no moment of its absence. -/
lemma lastAbsent_concat (present : valuesAfter (changes ++ [change]) name ≠ []) :
    lastAbsent (changes ++ [change]) name = lastAbsent changes name := by
  have length : (changes ++ [change]).length = changes.length + 1 := List.length_append
  have ended : ¬valuesAfter ((changes ++ [change]).take (changes.length + 1)) name = [] := by
    rwa [← length, List.take_length]
  rw [lastAbsent, length, Nat.findGreatest_of_not ended, Nat.findGreatest_eq_iff]
  refine ⟨lastAbsent_le changes name, fun _ => ?_, fun k after within => ?_⟩
  · rw [List.take_append_of_le_length (lastAbsent_le changes name)]
    exact valuesAfter_take_lastAbsent changes name
  · rw [List.take_append_of_le_length within]
    exact Nat.findGreatest_is_greatest after within

/-! ### The order of the names -/

/-- The names of a table `k` are some of those of `h`, in their order, and at most one new one after
them. -/
def Succeeds (h k : Headers) : Prop :=
  ∃ (kept : List FieldName) (new : Option FieldName), kept.Sublist h.names ∧
    (∀ name ∈ new, name ∉ h.names) ∧ k.names = kept ++ new.toList

lemma succeeds_refl (h : Headers) : h.Succeeds h :=
  ⟨h.names, none, .refl _, nofun, (List.append_nil _).symm⟩

lemma succeeds_of_names {k : Headers}
    (names : k.names = if name ∈ h.names then h.names else h.names ++ [name]) : h.Succeeds k := by
  split_ifs at names with mem
  · exact ⟨h.names, none, .refl _, nofun, names.trans (List.append_nil _).symm⟩
  · refine ⟨h.names, some name, .refl _, ?_, names⟩
    rintro _ ⟨⟩
    exact mem

lemma succeeds_retain (h : Headers) (p : FieldName → Bool) : h.Succeeds (h.retain p) := by
  refine ⟨h.names.filter p, none, List.filter_sublist, nofun, ?_⟩
  rw [names_retain]
  exact (List.append_nil _).symm

lemma succeeds_apply (h : Headers) (change : Change) : h.Succeeds (change.apply h) := by
  cases change with
  | append name value => exact succeeds_of_names (names_append h name value)
  | appendRaw text bytes =>
      rw [Change.apply, appendRaw?]
      split
      · exact succeeds_of_names (names_append h _ _)
      · exact h.succeeds_refl
  | insert name value => exact succeeds_of_names (names_insert h name value)
  | erase text =>
      rw [Change.apply, eraseText]
      cases FieldName.ofString? text with
      | none => exact h.succeeds_refl
      | some name => exact h.succeeds_retain (· ≠ name)
  | retain p => exact h.succeeds_retain p

/-- **The names of a table** stand in the order in which they came, each of them counted from the
last time that it was absent. -/
theorem pairwise_run (changes : List Change) :
    (run changes).names.Pairwise fun m n => lastAbsent changes m < lastAbsent changes n := by
  induction changes using List.reverseRecOn with
  | nil => exact .nil
  | append_singleton changes change ih =>
      have stays : ∀ name ∈ (run (changes ++ [change])).names,
          lastAbsent (changes ++ [change]) name = lastAbsent changes name :=
        fun name mem => lastAbsent_concat (mem_names_run.mp mem)
      have ordered : (run (changes ++ [change])).names.Pairwise
          fun m n => lastAbsent changes m < lastAbsent changes n := by
        obtain ⟨kept, new, sub, absent, names⟩ := succeeds_apply (run changes) change
        rw [run_concat, names, List.pairwise_append]
        refine ⟨ih.sublist sub, by cases new <;> simp, ?_⟩
        intro m old n came
        have before : lastAbsent changes m < changes.length :=
          lastAbsent_lt_of_present (mem_names_run.mp (sub.subset old))
        have now : lastAbsent changes n = changes.length := by
          have gone : n ∉ (run changes).names := absent n (Option.mem_toList.mp came)
          rw [mem_names_run, Classical.not_not] at gone
          exact lastAbsent_of_absent gone
        rwa [now]
      refine ordered.imp_of_mem fun hm hn before => ?_
      rwa [stays _ hm, stays _ hn]

/-! ### Looking up by a text -/

/-- The values under a name are those of the pairs with that name. -/
lemma getAll_eq_toList (h : Headers) (name : FieldName) :
    h.getAll name = (h.toList.filter fun field => field.1 = name).map Prod.snd := by
  have distinct : h.names.Nodup := h.distinct
  have pairs := toList_retain h (· = name)
  rw [← pairs, toList_eq, names_retain, List.filter_eq]
  by_cases mem : name ∈ h.names
  · rw [List.count_eq_one_of_mem distinct mem]
    simp [getAll_retain, Function.comp_def]
  · rw [List.count_eq_zero_of_not_mem mem, getAll_eq_nil_iff.mpr mem]
    rfl

lemma getAllText_eq (h : Headers) (text : String) :
    h.getAllText text =
      (h.toList.filter fun field => field.1.text = lowered text).map Prod.snd := by
  rw [getAllText]
  cases spells : FieldName.ofString? text with
  | none => simp [(FieldName.lowered_ne_of_none spells).symm]
  | some name =>
      simp only [FieldName.eq_lowered_iff_of_some spells]
      exact getAll_eq_toList h name

lemma getText?_eq (h : Headers) (text : String) : h.getText? text = (h.getAllText text).head? := by
  rw [getText?, getAllText]
  cases FieldName.ofString? text <;> rfl

lemma containsText_iff {text : String} : h.containsText text = true ↔ h.getAllText text ≠ [] := by
  rw [containsText, getAllText]
  cases FieldName.ofString? text with
  | none => simp
  | some name => exact contains_iff

lemma toList_eraseText (h : Headers) (text : String) :
    (h.eraseText text).toList = h.toList.filter fun field => field.1.text ≠ lowered text := by
  rw [eraseText]
  cases spells : FieldName.ofString? text with
  | none => simp [(FieldName.lowered_ne_of_none spells).symm]
  | some name =>
      simp only [Ne, FieldName.eq_lowered_iff_of_some spells]
      exact toList_retain h (· ≠ name)

lemma isSome_appendRaw? (h : Headers) (text : String) (bytes : Bytes) :
    (h.appendRaw? text bytes).isSome = (isFieldName (lowered text) && bytes.all isValueByte) := by
  rw [appendRaw?, FieldName.ofString?, FieldValue.ofBytes?]
  split_ifs <;> simp [*]

/-! ### A table from its pairs -/

/-- A field as a text and bytes. -/
def asRaw (field : FieldName × FieldValue) : String × Bytes :=
  (field.1.text, field.2.bytes)

lemma appendPairs_asRaw (h : Headers) (fields : List (FieldName × FieldValue)) :
    h.appendPairs (fields.map asRaw) =
      fields.foldl (fun h field => h.append field.1 field.2) h := by
  rw [appendPairs, List.foldl_map]
  congr 1
  funext h field
  change (h.appendRaw? field.1.text field.2.bytes).getD h = _
  rw [appendRaw?, FieldName.ofString?_text, FieldValue.ofBytes?_bytes, Option.getD_some]

lemma append_add (h : Headers) (e : Entry) (new : e.name ∉ h.names) (value : FieldValue) :
    (h.add e new).append e.name value = h.add (e.push value) new := by
  have mem : e.name ∈ (h.add e new).names := by simp [names_add]
  have others : ∀ e' ∈ h.entries, e'.name ≠ e.name :=
    fun e' mem same => new (same ▸ List.mem_map_of_mem mem)
  refine eq_of_entries ?_
  rw [append, dif_pos mem]
  change (h.entries ++ [e]).map _ = h.entries ++ [e.push value]
  rw [List.map_append, List.map_singleton, if_pos rfl]
  congr 1
  refine (List.map_congr_left fun e' mem => ?_).trans (List.map_id _)
  exact if_neg (others e' mem)

/-- The pairs of an entry make the entry. -/
lemma foldl_pairs (h : Headers) (e : Entry) (new : e.name ∉ h.names) :
    e.pairs.foldl (fun h field => h.append field.1 field.2) h = h.add e new := by
  have follow (rest values : List FieldValue) :
      (values.map (e.name, ·)).foldl (fun h field => h.append field.1 field.2)
        (h.add ⟨e.name, e.first, rest⟩ new) = h.add ⟨e.name, e.first, rest ++ values⟩ new := by
    induction values generalizing rest with
    | nil => simp
    | cons value values ih =>
        have next := append_add h ⟨e.name, e.first, rest⟩ new value
        rw [List.map_cons, List.foldl_cons, next, ← List.singleton_append, ← List.append_assoc]
        exact ih (rest ++ [value])
  rw [Entry.pairs, Entry.values, List.map_cons, List.foldl_cons, append, dif_neg new]
  exact follow [] e.rest

lemma foldl_entries (h : Headers) (entries : List Entry)
    (distinct : (h.names ++ entries.map Entry.name).Nodup) :
    ((entries.flatMap Entry.pairs).foldl (fun h field => h.append field.1 field.2) h).entries =
      h.entries ++ entries := by
  induction entries generalizing h with
  | nil => simp
  | cons e entries ih =>
      have new : e.name ∉ h.names := by
        intro mem
        exact (List.nodup_append.mp distinct).2.2 _ mem _ List.mem_cons_self rfl
      rw [List.flatMap_cons, List.foldl_append, foldl_pairs h e new, ih]
      · exact List.append_assoc ..
      · rw [names_add, List.append_assoc]
        exact distinct

/-- The pairs of a table make the table. -/
theorem ofPairs_toList (h : Headers) : ofPairs (h.toList.map asRaw) = h := by
  refine eq_of_entries ?_
  rw [ofPairs, appendPairs_asRaw]
  exact foldl_entries empty h.entries h.distinct

/-! ### Tables as ordered multimaps -/

/-- What a table tells of the changes that made it. -/
structure Records (changes : List Change) (h : Headers) : Prop where
  /-- No name stands twice. -/
  distinct : h.names.Nodup
  /-- The names are valid and in small letters. -/
  lower : ∀ name ∈ h.names, isFieldName name.text = true ∧ lowered name.text = name.text
  /-- The names are those under which the changes leave a value. -/
  present : ∀ name, name ∈ h.names ↔ valuesAfter changes name ≠ []
  /-- They stand in the order in which they came, each since it was absent last. -/
  ordered : h.names.Pairwise fun m n => lastAbsent changes m < lastAbsent changes n
  /-- The values of a name stand together, as the changes leave them. -/
  pairs : h.toList = h.names.flatMap fun name => (valuesAfter changes name).map (name, ·)
  /-- A name that is overwritten keeps its place. -/
  kept : ∀ name ∈ h.names, ∀ value, (h.insert name value).names = h.names
  /-- What stays behind after a name is erased keeps its order. -/
  erased : ∀ text,
    (h.eraseText text).toList = h.toList.filter fun field => field.1.text ≠ lowered text
  /-- So does what is retained. -/
  retained : ∀ p, (h.retain p).toList = h.toList.filter fun field => p field.1
  /-- A text and bytes are appended exactly if they are valid. -/
  accepted : ∀ text bytes,
    (h.appendRaw? text bytes).isSome = (isFieldName (lowered text) && bytes.all isValueByte)
  /-- Otherwise nothing changes. -/
  refused : ∀ text bytes, h.appendRaw? text bytes = none → (Change.appendRaw text bytes).apply h = h
  /-- A text in any case finds the values of the pairs with that name. -/
  found : ∀ text, h.getAllText text =
    (h.toList.filter fun field => field.1.text = lowered text).map Prod.snd
  /-- The first of them is the one that is found alone. -/
  first : ∀ text, h.getText? text = (h.getAllText text).head?
  /-- The table has a name just if one value is found under it. -/
  holds_iff_first : ∀ text, h.containsText text = true ↔ (h.getText? text).isSome = true
  /-- That is so just if some are. -/
  holds_iff_found : ∀ text, h.containsText text = true ↔ h.getAllText text ≠ []
  /-- The pairs make the same table again. -/
  rebuilt : ofPairs (h.toList.map asRaw) = h

/-- **A table of header fields is an ordered multimap.** After any changes it has exactly the names
under which they leave a value, in the order in which each of them came since it was absent last,
with the values that they leave there; its names are found in any case of their letters, and its
pairs make the same table again. -/
theorem records_of_changes (changes : List Change) : Records changes (run changes) where
  distinct := (run changes).distinct
  lower name _ := ⟨name.valid, name.lowered_text⟩
  present _ := mem_names_run
  ordered := pairwise_run changes
  pairs := by
    simp only [← getAll_run]
    exact toList_eq _
  kept name mem value := (names_insert _ name value).trans (if_pos mem)
  erased := toList_eraseText _
  retained := toList_retain _
  accepted := isSome_appendRaw? _
  refused text bytes invalid := by rw [Change.apply, invalid, Option.getD_none]
  found := getAllText_eq _
  first := getText?_eq _
  holds_iff_first text := by rw [containsText_iff, getText?_eq, List.isSome_head?]
  holds_iff_found _ := containsText_iff
  rebuilt := ofPairs_toList _

-- A name that was erased comes back at the end.
example (v : FieldValue) : (run [.append .cookie v, .append .location v, .insert .cookie v,
    .erase "COOKIE", .append .cookie v]).names = [.location, .cookie] := by rfl

end Headers

end Wayfarer
