import Wayfarer.Http.Field

/-!
The header table: field names, each with one or more values.

* `Headers`: entries in the order in which their names first came, no name twice;
* `Headers.append`, `Headers.insert`, `Headers.erase`, `Headers.retain`: a value more, one value
  alone, a name less, only some names;
* `Headers.get?`, `Headers.getAll`, `Headers.contains`: what stands under a name;
* `Headers.getAll_append`, `Headers.getAll_insert`, `Headers.getAll_erase`,
  `Headers.getAll_retain`: what each change does to the values under a name;
* `Headers.toList`: the pairs of the table, the values of a name together;
* `Headers.appendRaw?`, `Headers.ofPairs`: the table that texts and bytes describe, pairs that are
  no fields left out;
* `Headers.getText?`, `Headers.getAllText`, `Headers.containsText`, `Headers.eraseText`: the same
  questions and changes for a name that is spelled in any case;
* `Headers.agrees`: the same values under the same names, in any order of the names;
* `Headers.inspect`: the table as one line of text.
-/

namespace Wayfarer

namespace Headers

/-- A name with its values, the first of them apart. -/
structure Entry where
  name : FieldName
  first : FieldValue
  rest : List FieldValue
deriving DecidableEq

/-- All values of an entry. -/
def Entry.values (e : Entry) : List FieldValue :=
  e.first :: e.rest

/-- An entry with one value more. -/
def Entry.push (e : Entry) (value : FieldValue) : Entry :=
  { e with rest := e.rest ++ [value] }

/-- The pairs of an entry. -/
def Entry.pairs (e : Entry) : List (FieldName × FieldValue) :=
  e.values.map fun v => (e.name, v)

end Headers

/-- A table of header fields. -/
structure Headers where
  entries : List Headers.Entry
  distinct : (entries.map Headers.Entry.name).Nodup
deriving DecidableEq

namespace Headers

/-- The table without fields. -/
def empty : Headers :=
  ⟨[], List.nodup_nil⟩

instance : Inhabited Headers := ⟨empty⟩

/-- The names of the table in order. -/
def names (h : Headers) : List FieldName :=
  h.entries.map Entry.name

/-- The number of names. -/
def size (h : Headers) : Nat :=
  h.entries.length

/-! ### Looking up -/

/-- The values under a name. -/
def getAll (h : Headers) (name : FieldName) : List FieldValue :=
  match h.entries.find? (·.name = name) with
  | some e => e.values
  | none => []

/-- The first value under a name. -/
def get? (h : Headers) (name : FieldName) : Option FieldValue :=
  (h.getAll name).head?

/-- Whether the table has a name. -/
def contains (h : Headers) (name : FieldName) : Bool :=
  name ∈ h.names

/-- The pairs of the table in order. -/
def toList (h : Headers) : List (FieldName × FieldValue) :=
  h.entries.flatMap Entry.pairs

/-! ### Changing -/

/-- Entries changed in a way that keeps their names. -/
def modify (h : Headers) (f : Entry → Entry) (keeps : ∀ e, (f e).name = e.name) : Headers where
  entries := h.entries.map f
  distinct := by
    have : (h.entries.map f).map Entry.name = h.entries.map Entry.name := by
      simp [Function.comp_def, keeps]
    rw [this]
    exact h.distinct

/-- The table with an entry at its end, under a name that it does not have. -/
def add (h : Headers) (e : Entry) (new : e.name ∉ h.names) : Headers where
  entries := h.entries ++ [e]
  distinct := by
    rw [List.map_append, List.nodup_append]
    refine ⟨h.distinct, by simp, fun a ha b hb => ?_⟩
    have hb : b = e.name := by simpa using hb
    exact fun hab => new (hb ▸ hab ▸ ha)

/-- Only the names of the class `p`. -/
def retain (h : Headers) (p : FieldName → Bool) : Headers where
  entries := h.entries.filter fun e => p e.name
  distinct := h.distinct.sublist (List.filter_sublist.map _)

/-- The table without a name. -/
def erase (h : Headers) (name : FieldName) : Headers :=
  h.retain (· ≠ name)

/-- One value more under a name, after the ones that it has. -/
def append (h : Headers) (name : FieldName) (value : FieldValue) : Headers :=
  if mem : name ∈ h.names then
    h.modify (fun e => if e.name = name then e.push value else e)
      fun e => by split <;> rfl
  else h.add ⟨name, value, []⟩ mem

/-- One value alone under a name, in the place that the name has. -/
def insert (h : Headers) (name : FieldName) (value : FieldValue) : Headers :=
  if mem : name ∈ h.names then
    h.modify (fun e => if e.name = name then ⟨e.name, value, []⟩ else e)
      fun e => by split <;> rfl
  else h.add ⟨name, value, []⟩ mem

/-! ### The values under a name -/

/-- A name has values just if the table has it. -/
theorem getAll_eq_nil_iff {h : Headers} {name : FieldName} :
    h.getAll name = [] ↔ name ∉ h.names := by
  unfold getAll names
  cases hf : h.entries.find? (·.name = name) with
  | none => simpa using hf
  | some e =>
    have mem := List.mem_of_find?_eq_some hf
    have named : e.name = name := by simpa using List.find?_some hf
    have : name ∈ h.entries.map Entry.name := List.mem_map.2 ⟨e, mem, named⟩
    simp [Entry.values, this]

/-- The table has a name just if the name has values. -/
theorem contains_iff {h : Headers} {name : FieldName} :
    h.contains name = true ↔ h.getAll name ≠ [] := by
  rw [Ne, getAll_eq_nil_iff, Classical.not_not, contains, decide_eq_true_eq]

/-- Names of the class keep their values, all others lose them. -/
theorem getAll_retain (h : Headers) (p : FieldName → Bool) (name : FieldName) :
    (h.retain p).getAll name = if p name then h.getAll name else [] := by
  unfold getAll retain
  simp only [List.find?_filter]
  cases hp : p name with
  | true =>
    have : (fun e : Entry => p e.name && decide (e.name = name)) =
        fun e => decide (e.name = name) := by
      funext e
      by_cases he : e.name = name <;> simp [he, hp]
    simp [this]
  | false =>
    have : h.entries.find? (fun e => p e.name && decide (e.name = name)) = none := by
      refine List.find?_eq_none.2 fun e _ => ?_
      by_cases he : e.name = name <;> simp [he, hp]
    simp [this]

/-- An erased name has no values, all others keep theirs. -/
theorem getAll_erase (h : Headers) (erased name : FieldName) :
    (h.erase erased).getAll name = if name = erased then [] else h.getAll name := by
  rw [erase, getAll_retain]
  by_cases hn : name = erased <;> simp [hn]

/-- What a change of the entry of one name does to the values. -/
theorem getAll_modify (h : Headers) (changed : FieldName) (f : Entry → Entry)
    (keeps : ∀ e, (if e.name = changed then f e else e).name = e.name) (mem : changed ∈ h.names)
    (g : List FieldValue → List FieldValue) (hg : ∀ e, (f e).values = g e.values)
    (name : FieldName) :
    (h.modify (fun e => if e.name = changed then f e else e) keeps).getAll name =
      if name = changed then g (h.getAll name) else h.getAll name := by
  unfold getAll modify
  simp only [List.find?_map, Function.comp_def, keeps]
  cases hf : h.entries.find? (·.name = name) with
  | none =>
    have : name ≠ changed := by
      rintro rfl
      obtain ⟨e, he, named⟩ := List.mem_map.1 mem
      simpa [named] using List.find?_eq_none.1 hf e he
    simp [this]
  | some e =>
    have named : e.name = name := by simpa using List.find?_some hf
    by_cases hn : name = changed
    · simp [named, hn, hg]
    · simp [named, hn]

/-- A new entry gives its name its values. -/
theorem getAll_add (h : Headers) (e : Entry) (new : e.name ∉ h.names) (name : FieldName) :
    (h.add e new).getAll name = if name = e.name then e.values else h.getAll name := by
  unfold getAll add
  simp only [List.find?_append]
  by_cases hn : name = e.name
  · subst hn
    have : h.entries.find? (·.name = e.name) = none := by
      refine List.find?_eq_none.2 fun e' he' => ?_
      have : e'.name ≠ e.name := fun same => new (List.mem_map.2 ⟨e', he', same⟩)
      simpa using this
    simp [this]
  · have : ¬e.name = name := fun same => hn same.symm
    cases h.entries.find? (·.name = name) <;> simp [this, hn]

/-- The inserted value stands alone under its name. -/
theorem getAll_insert (h : Headers) (inserted : FieldName) (value : FieldValue)
    (name : FieldName) :
    (h.insert inserted value).getAll name =
      if name = inserted then [value] else h.getAll name := by
  unfold insert
  split
  · next mem =>
    exact getAll_modify h inserted (fun e => ⟨e.name, value, []⟩) _ mem (fun _ => [value])
      (fun _ => rfl) name
  · exact getAll_add h ⟨inserted, value, []⟩ _ name

/-- The appended value comes after the others under its name. -/
theorem getAll_append (h : Headers) (appended : FieldName) (value : FieldValue)
    (name : FieldName) :
    (h.append appended value).getAll name =
      if name = appended then h.getAll name ++ [value] else h.getAll name := by
  unfold append
  split
  · next mem =>
    exact getAll_modify h appended (·.push value) _ mem (· ++ [value]) (fun _ => rfl) name
  · next new =>
    rw [getAll_add]
    by_cases hn : name = appended
    · subst hn
      simp [Entry.values, getAll_eq_nil_iff.2 new]
    · simp [hn]

/-! ### Texts and bytes -/

/-- One field more, where the text is a name and the bytes are a value. -/
def appendRaw? (h : Headers) (name : String) (value : Bytes) : Option Headers :=
  match FieldName.ofString? name, FieldValue.ofBytes? value with
  | some n, some v => some (h.append n v)
  | _, _ => none

/-- The table with pairs added; a pair that is no field is left out. -/
def appendPairs (h : Headers) (pairs : List (String × Bytes)) : Headers :=
  pairs.foldl (fun h (name, value) => (h.appendRaw? name value).getD h) h

/-- The table of a list of pairs. -/
def ofPairs (pairs : List (String × Bytes)) : Headers :=
  empty.appendPairs pairs

/-- The first value under the name that a text spells. -/
def getText? (h : Headers) (text : String) : Option FieldValue :=
  (FieldName.ofString? text).bind h.get?

/-- The values under the name that a text spells. -/
def getAllText (h : Headers) (text : String) : List FieldValue :=
  (FieldName.ofString? text).elim [] h.getAll

/-- Whether the table has the name that a text spells. -/
def containsText (h : Headers) (text : String) : Bool :=
  (FieldName.ofString? text).any h.contains

/-- The table without the name that a text spells. -/
def eraseText (h : Headers) (text : String) : Headers :=
  (FieldName.ofString? text).elim h h.erase

/-- The pairs of the table as texts. -/
def texts (h : Headers) : List (String × String) :=
  h.toList.map fun (name, value) => (name.text, value.text)

/-! ### Comparing and showing -/

/-- Whether two tables have the same values under the same names, in any order of the names. -/
def agrees (h k : Headers) : Bool :=
  h.size = k.size && h.entries.all fun e => k.getAll e.name = e.values

/-- A byte of a value between quotes: visible ASCII and tabs as they are, a quote after a
backslash, all else in hexadecimal digits. -/
def inspectByte (b : UInt8) : List Char :=
  if b = 0x22 then ['\\', '"']
  else if b = 9 || (32 ≤ b && b < 127) then [Char.ofNat b.toNat]
  else '\\' :: 'x' :: (Nat.toDigits 16 b.toNat)

/-- A field as a name and a value between quotes. -/
def inspectField (field : FieldName × FieldValue) : String :=
  let value := String.ofList (field.2.bytes.flatMap inspectByte)
  "\"" ++ field.1.text ++ "\": \"" ++ value ++ "\""

/-- The table as one line of text. -/
def inspect (h : Headers) : String :=
  "\x7b" ++ ", ".intercalate (h.toList.map inspectField) ++ "\x7d"

end Headers

end Wayfarer
