import Mathlib.Tactic
import Wayfarer.Hop.Target
import Wayfarer.Proofs.Hop.Escaped
import Wayfarer.Proofs.Url.Read

/-!
Targets that name no place of their own.

* `Url.NamesScheme`: a text that begins with a scheme and its colon;
* `Url.exists_joinReference`: a reference without a scheme, two slashes or a backslash is read, and
  leaves the scheme and the authority of the base;
* `Target.StaysWithin`: **what a target cannot change**: without a scheme and without two slashes
  at the front it leads to the authority of the base, and with two slashes to its scheme;
* `Url.IsRead.staysWithin`: every field value and every text stays within a URL of the web.
-/

namespace Wayfarer

variable {base : Url} {charset : Charset} {cs : List Char}

/-! ### References -/

namespace Url

/-- A letter, further characters of a scheme, and a colon. -/
def NamesScheme (cs : List Char) : Prop :=
  ∃ c name rest, cs = (c :: name) ++ ':' :: rest ∧ c.isAlpha = true ∧
    ∀ d ∈ name, isSchemeChar d = true

/-- A scheme is split off a text that names one. -/
lemma namesScheme_of_splitScheme {split : String × List Char} (h : splitScheme cs = some split) :
    NamesScheme cs := by
  rw [splitScheme] at h
  split at h
  · next rest behind =>
      split_ifs at h with letter
      have whole := List.takeWhile_append_dropWhile (p := isSchemeChar) (l := cs)
      have all : ∀ d ∈ cs.takeWhile isSchemeChar, isSchemeChar d = true :=
        fun d mem => List.mem_takeWhile_imp mem
      rw [behind] at whole
      cases front : cs.takeWhile isSchemeChar with
      | nil =>
          rw [front] at letter
          cases letter
      | cons c name =>
          rw [front] at letter whole all
          exact ⟨c, name, rest, whole.symm, letter, fun d mem => all d (List.mem_cons_of_mem c mem)⟩
  · cases h

/-- A reference without two slashes or backslashes leaves the place of the base. -/
lemma exists_joinReference (hierarchical : base.isHierarchical = true)
    (remote : base.scheme ≠ Scheme.file) (single : ¬ ['/', '/'] <+: cs) (forward : '\\' ∉ cs) :
    ∃ u, joinReference base cs = .ok u ∧ u.scheme = base.scheme ∧
      u.authority = base.authority := by
  have slash : ∀ d ∈ cs, isSlash true d = true → d = '/' := by
    intro d mem found
    rw [isSlash, Bool.true_and, Bool.or_eq_true, decide_eq_true_eq, decide_eq_true_eq] at found
    exact found.resolve_right fun back => forward (back ▸ mem)
  rw [joinReference]
  split_ifs with fragment opaquely
  · exact ⟨_, rfl, scheme_withTail _ _, authority_withTail base cs⟩
  · rw [hierarchical] at opaquely
    cases opaquely
  · rw [joinRelative.eq_def]
    split
    · exact ⟨_, rfl, rfl, rfl⟩
    · exact ⟨_, rfl, scheme_withTail _ _, authority_withTail _ _⟩
    · exact ⟨_, rfl, scheme_withTail _ _, authority_withTail base _⟩
    · split_ifs with first
      · split
        · next d after =>
            -- A second slash would make two at the front.
            split_ifs with second
            · refine absurd ?_ single
              rw [slash _ List.mem_cons_self first, slash d (by simp) second]
              exact ⟨after, rfl⟩
            · exact ⟨_, rfl, scheme_withPath _ _ _, authority_withPath _ _ _⟩
        · exact ⟨_, rfl, scheme_withPath _ _ _, authority_withPath _ _ _⟩
      · exact ⟨_, rfl, scheme_withPath _ _ _, authority_withPath _ _ _⟩

/-- Two URLs of one scheme and one authority have one origin. -/
lemma sameOrigin_of_eq {u v : Url} (scheme : u.scheme = v.scheme)
    (authority : u.authority = v.authority) : u.sameOrigin v = true := by
  rw [sameOrigin, decide_eq_true_eq, Origin.of, Origin.of, hostText?, hostText?, host?, host?,
    effectivePort?, effectivePort?, port?, port?, scheme, authority]

end Url

/-! ### Targets -/

namespace Target

/-- What a target, without the blanks at its ends, cannot change about the URL it starts from. -/
structure StaysWithin (base : Url) (cs : List Char) (found : Except TargetError Url) : Prop where
  /-- Without a scheme and two slashes it is read, and leads to the place of the base: the same
  scheme, and the same credentials, host and port. -/
  within : cs ≠ [] → ¬ ['/', '/'] <+: cs → ¬ Url.NamesScheme cs →
    ∃ u, found = .ok u ∧ u.scheme = base.scheme ∧ u.authority = base.authority ∧
      u.sameOrigin base = true
  /-- With two slashes it leads to the scheme of the base, if anywhere. -/
  across : ['/', '/'] <+: cs → ∀ u, found = .ok u → u.scheme = base.scheme

/-- A written target names a scheme only if the target does. -/
lemma namesScheme_of_escaped (holds : charset.Holds cs)
    (h : Url.NamesScheme (escaped cs charset)) : Url.NamesScheme cs := by
  obtain ⟨c, name, rest, written, letter, all⟩ := h
  have free : '%' ∉ (c :: name) ++ [':'] := by
    intro mem
    rcases List.mem_append.mp mem with front | colon
    · rcases List.mem_cons.mp front with rfl | inside
      · cases letter
      · cases all _ inside
    · exact absurd (List.mem_singleton.mp colon) (by decide)
  rw [List.append_cons] at written
  obtain ⟨tail, rfl, -⟩ := exists_of_escaped_eq_append holds free written
  exact ⟨c, name, tail, (List.append_cons ..).symm, letter, all⟩

/-- Nor does it begin with two slashes unless the target does. -/
lemma slashes_of_escaped (holds : charset.Holds cs) (h : ['/', '/'] <+: escaped cs charset) :
    ['/', '/'] <+: cs := by
  obtain ⟨rest, written⟩ := h
  obtain ⟨tail, rfl, -⟩ := exists_of_escaped_eq_append holds (by decide) written.symm
  exact ⟨tail, rfl⟩

/-- A target without two slashes is a reference as it stands. -/
lemma reference_of_not_slashes (base : Url) (single : ¬ ['/', '/'] <+: cs) :
    reference base cs = String.ofList cs := by
  rw [reference.eq_def]
  split
  · exact absurd ⟨_, rfl⟩ single
  · rfl

/-- A target that is not empty leads where its reference does. -/
lemma resolveIn_eq_ok_iff {u : Url} (filled : cs ≠ []) :
    resolveIn charset base cs = .ok u ↔ base.join (reference base (escaped cs charset)) = .ok u := by
  rw [resolveIn, if_neg (by rwa [List.isEmpty_iff])]
  dsimp only
  cases base.join (reference base (escaped cs charset)) with
  | ok v => simp only [Except.ok.injEq]
  | error e => exact ⟨nofun, nofun⟩

/-- What stands for the two slashes at the front is a text behind the scheme of the base. -/
lemma splitScheme_reference {rest : List Char} (web : base.scheme = "http" ∨ base.scheme = "https")
    (written : ∀ c ∈ rest, IsWritten c) :
    Url.splitScheme (Url.significant (reference base ('/' :: '/' :: rest))) =
      some (base.scheme, '/' :: '/' :: rest.dropWhile (· = '/')) := by
  have text : reference base ('/' :: '/' :: rest) =
      String.ofList (base.scheme.toList ++ ':' :: '/' :: '/' :: rest.dropWhile (· = '/')) := by
    rw [reference, String.append_assoc, ← String.toList_inj]
    simp
  have plain : ∀ c ∈ base.scheme.toList ++ ':' :: '/' :: '/' :: rest.dropWhile (· = '/'),
      IsWritten c := by
    have front : ∀ c ∈ base.scheme.toList, IsWritten c := by
      rcases web with http | https
      · simp [http, IsWritten]
      · simp [https, IsWritten]
    have behind : ∀ c ∈ rest.dropWhile (· = '/'), IsWritten c :=
      fun c mem => written c ((List.dropWhile_sublist _).subset mem)
    have slash : IsWritten '/' := by decide
    have colon : IsWritten ':' := by decide
    simpa [or_imp, forall_and, slash, colon] using ⟨front, behind⟩
  rw [text, Url.significant_of_isWritten plain]
  rcases web with http | https
  · rw [http]
    rfl
  · rw [https]
    rfl

/-- A text of any charset stays within a URL of the web. -/
lemma staysWithin_resolveIn (read : base.IsRead) (web : base.isHttp = true)
    (holds : charset.Holds cs) : StaysWithin base cs (resolveIn charset base cs) where
  within filled single bare := by
    have unslashed := fun h => single (slashes_of_escaped holds h)
    have forward : '\\' ∉ escaped cs charset := fun mem => (isWritten_of_mem_escaped mem).2 rfl
    obtain ⟨u, joins, scheme, authority⟩ := Url.exists_joinReference
      (read.isHierarchical_of_isHttp web) (read.ne_file_of_isHttp web) unslashed forward
    refine ⟨u, (resolveIn_eq_ok_iff filled).mpr ?_, scheme, authority,
      Url.sameOrigin_of_eq scheme authority⟩
    rw [reference_of_not_slashes base unslashed, Url.join,
      Url.significant_of_isWritten fun _ => isWritten_of_mem_escaped]
    split
    · next split =>
        exact absurd (namesScheme_of_escaped holds (Url.namesScheme_of_splitScheme split)) bare
    · exact joins
  across slashes u found := by
    have filled : cs ≠ [] := by
      rintro rfl
      exact absurd slashes (by decide)
    obtain ⟨rest, written⟩ := exists_escaped_of_slashes charset slashes
    have visible : ∀ c ∈ rest, IsWritten c := by
      intro c mem
      have here : c ∈ escaped cs charset := by simp [written, mem]
      exact isWritten_of_mem_escaped here
    have joins := (resolveIn_eq_ok_iff filled).mp found
    rw [written, Url.join, splitScheme_reference (read.eq_of_isHttp web) visible] at joins
    exact (Url.frame_of_ofScheme (fun b same => by cases same; exact read.isSound) joins).1

end Target

/-- **A target without a place of its own stays within a URL of the web**, whatever its bytes or
characters are: backslashes, tabs, line breaks and control characters do not lead out of it. -/
theorem Url.IsRead.staysWithin (read : base.IsRead) (web : base.isHttp = true) :
    (∀ raw, Target.StaysWithin base (trim isBlank (Target.decode raw).1)
      (Target.resolve base raw)) ∧
    ∀ text, Target.StaysWithin base (trim isBlank text.toList) (Target.resolveText base text) := by
  constructor
  · intro raw
    have holds := (Target.holds_decode raw).subset (trim_subset isBlank _)
    exact Target.staysWithin_resolveIn read web holds
  · intro text
    exact Target.staysWithin_resolveIn read web trivial

/-- A slash, a tab, a slash, a backslash and a byte that is no UTF-8 lead to the place of the base
with its credentials and its port; two slashes and a host lead to its scheme. -/
theorem place_kept_behind_backslash :
    ∃ base, Url.parse "http://user:pw@[::1]:8080/a/b" = .ok base ∧
      (∃ u, Target.resolve base [0x2F, 0x09, 0x2F, 0x5C, 0xE9] = .ok u ∧
        u.scheme = "http" ∧
        u.authority = some ⟨"user", "pw", some (.ipv6 [0, 0, 0, 0, 0, 0, 0, 1]), some 8080⟩ ∧
        u.sameOrigin base = true) ∧
      ∃ v, Target.resolveText base "//[::2]/" = .ok v ∧ v.scheme = "http" := by
  have parses : Url.parse "http://user:pw@[::1]:8080/a/b" = .ok ⟨"http",
      some ⟨"user", "pw", some (.ipv6 [0, 0, 0, 0, 0, 0, 0, 1]), some 8080⟩,
      .names ["a", "b"], none, none⟩ := by
    decide +kernel
  have kept := Url.IsRead.staysWithin (.parse parses) (by decide +kernel)
  have text : trim isBlank (Target.decode [0x2F, 0x09, 0x2F, 0x5C, 0xE9]).1 =
      ['/', '\t', '/', '\\', 'é'] := by
    decide +kernel
  refine ⟨_, parses, ?_, _, rfl, (kept.2 "//[::2]/").across ?_ _ rfl⟩
  · have here := (kept.1 [0x2F, 0x09, 0x2F, 0x5C, 0xE9]).within
    rw [text] at here
    refine here (by decide) (by decide) ?_
    rintro ⟨c, name, rest, same, letter, -⟩
    obtain ⟨rfl, -⟩ := List.cons_eq_cons.mp same
    cases letter
  · decide +kernel

end Wayfarer
