import Mathlib.Tactic
import Wayfarer.Http.Headers

/-!
The order of a header table.

* `Headers.names_append`, `Headers.names_insert`, `Headers.names_retain`: what each change does to
  the names: a new one comes last, one that is there keeps its place, and the rest keep theirs;
* `Headers.toList_eq`: the pairs of a table are the values under each name, name after name;
* `Headers.toList_retain`: what is retained is a part of the pairs in their order;
* `Headers.retain_retain`, `Headers.retain_erase`, `Headers.retain_insert`: the fields of a class do
  not notice what happens to other ones;
* `Headers.retain_eq_of_erase_eq`, `Headers.getAll_eq_of_erase_eq`: tables that differ in one name
  only.
-/

namespace Wayfarer.Headers

variable {h k : Headers} {name : FieldName} {p q : FieldName → Bool}

lemma eq_of_entries (same : h.entries = k.entries) : h = k := by
  cases h
  cases k
  cases same
  rfl

/-! ### Names -/

lemma names_modify (h : Headers) (f : Entry → Entry) (keeps : ∀ e, (f e).name = e.name) :
    (h.modify f keeps).names = h.names := by
  simp [names, modify, Function.comp_def, keeps]

lemma names_add (h : Headers) (e : Entry) (new : e.name ∉ h.names) :
    (h.add e new).names = h.names ++ [e.name] :=
  List.map_append

/-- A name that is appended to keeps its place, and a new one comes last. -/
theorem names_append (h : Headers) (name : FieldName) (value : FieldValue) :
    (h.append name value).names = if name ∈ h.names then h.names else h.names ++ [name] := by
  rw [append]
  split_ifs with mem
  · exact names_modify h _ _
  · exact names_add h _ mem

/-- A name that is overwritten keeps its place, and a new one comes last. -/
theorem names_insert (h : Headers) (name : FieldName) (value : FieldValue) :
    (h.insert name value).names = if name ∈ h.names then h.names else h.names ++ [name] := by
  rw [insert]
  split_ifs with mem
  · exact names_modify h _ _
  · exact names_add h _ mem

/-- The names that stay keep their order. -/
theorem names_retain (h : Headers) (p : FieldName → Bool) :
    (h.retain p).names = h.names.filter p :=
  (List.filter_map ..).symm

/-! ### Pairs -/

/-- An entry has the values that are found under its name. -/
lemma getAll_of_mem {e : Entry} (mem : e ∈ h.entries) : h.getAll e.name = e.values := by
  rw [getAll]
  cases found : h.entries.find? (·.name = e.name) with
  | none => simpa using List.find?_eq_none.mp found e mem
  | some e' =>
      have named : e'.name = e.name := by simpa using List.find?_some found
      have same := List.inj_on_of_nodup_map h.distinct (List.mem_of_find?_eq_some found) mem named
      rw [same]

/-- **The pairs of a table** are the values under each name, name after name. -/
theorem toList_eq (h : Headers) :
    h.toList = h.names.flatMap fun name => (h.getAll name).map (name, ·) := by
  rw [toList, names, List.flatMap_map]
  refine List.flatMap_congr fun e mem => ?_
  rw [getAll_of_mem mem]
  rfl

/-- The pairs of the names that stay keep their order. -/
theorem toList_retain (h : Headers) (p : FieldName → Bool) :
    (h.retain p).toList = h.toList.filter fun field => p field.1 := by
  have pairs (e : Entry) :
      e.pairs.filter (fun field => p field.1) = if p e.name then e.pairs else [] := by
    rw [Entry.pairs, List.filter_map]
    cases stays : p e.name <;> simp [Function.comp_def, stays]
  change (h.entries.filter fun e => p e.name).flatMap Entry.pairs =
    (h.entries.flatMap Entry.pairs).filter _
  rw [List.filter_flatMap]
  induction h.entries with
  | nil => rfl
  | cons e entries ih =>
      rw [List.flatMap_cons, ← ih, pairs, List.filter_cons]
      split_ifs <;> rfl

/-! ### Fields of a class -/

/-- What a class leaves is all the same to a smaller class. -/
lemma retain_retain (sub : ∀ name, q name = true → p name = true) :
    (h.retain p).retain q = h.retain q := by
  refine eq_of_entries ?_
  change (h.entries.filter _).filter _ = h.entries.filter _
  rw [List.filter_filter]
  refine List.filter_congr fun e _ => ?_
  rw [Bool.and_eq_left_iff_imp]
  exact sub e.name

/-- A class does not notice that a name beyond it is erased. -/
lemma retain_erase (beyond : q name = false) : (h.erase name).retain q = h.retain q := by
  refine retain_retain fun other inside => ?_
  rw [decide_eq_true_eq]
  rintro rfl
  rw [beyond] at inside
  cases inside

/-- Nor that one is overwritten. -/
lemma retain_insert (beyond : q name = false) (value : FieldValue) :
    (h.insert name value).retain q = h.retain q := by
  refine eq_of_entries ?_
  rw [insert]
  split_ifs with mem
  · change (h.entries.map _).filter _ = h.entries.filter _
    have untouched : ∀ e : Entry, q e.name = true →
        (if e.name = name then (⟨e.name, value, []⟩ : Entry) else e) = e := by
      intro e inside
      refine if_neg ?_
      rintro rfl
      rw [beyond] at inside
      cases inside
    rw [List.filter_map]
    have names : ((fun e : Entry => q e.name) ∘
        fun e => if e.name = name then (⟨e.name, value, []⟩ : Entry) else e) =
          fun e => q e.name := by
      funext e
      rw [Function.comp_apply]
      split_ifs <;> rfl
    rw [names]
    refine (List.map_congr_left fun e inside => ?_).trans (List.map_id _)
    exact untouched e (List.mem_filter.mp inside).2
  · change (h.entries ++ [_]).filter _ = h.entries.filter _
    rw [List.filter_append, List.filter_singleton, beyond]
    exact List.append_nil _

lemma erase_erase (h : Headers) (name : FieldName) : (h.erase name).erase name = h.erase name :=
  retain_erase (decide_eq_false (Classical.not_not.mpr rfl))

lemma erase_insert (h : Headers) (name : FieldName) (value : FieldValue) :
    (h.insert name value).erase name = h.erase name :=
  retain_insert (decide_eq_false (Classical.not_not.mpr rfl)) value

/-- Tables that differ in one name only agree on every class without it. -/
lemma retain_eq_of_erase_eq (same : h.erase name = k.erase name) (beyond : q name = false) :
    h.retain q = k.retain q := by
  rw [← retain_erase beyond, same, retain_erase beyond]

/-- They have the same values under every other name. -/
lemma getAll_eq_of_erase_eq {other : FieldName} (same : h.erase name = k.erase name)
    (differs : other ≠ name) : h.getAll other = k.getAll other := by
  have values (table : Headers) : (table.erase name).getAll other = table.getAll other := by
    rw [getAll_erase, if_neg differs]
  rw [← values h, same, values k]

end Wayfarer.Headers
