import Mathlib
import Wayfarer.Proofs.Text.Visible
import Wayfarer.Url.Origin
import Wayfarer.Url.Parse

/-!
URLs that are read from texts.

* `Url.significant_eq_self`: all characters count of a text without control characters and spaces;
* `Url.IsRead`: a URL that a text is, or names relative to another such URL;
* `Url.frame_of_joinReference`: a text without a scheme has the one of the base, and a path of
  names if the base has one;
* `Url.frame_of_ofScheme`: the scheme in front of a text is the one of its URL, and under a special
  one the path has names;
* `Url.IsRead.eq_of_isHttp`, `Url.IsRead.isHierarchical_of_isHttp`: **a URL of the web** that is
  read has its scheme in small letters and a path of names.
-/

namespace Wayfarer

/-- A computation in two parts succeeds if both do. -/
lemma exists_of_bind {ε α β : Type} {x : Except ε α} {f : α → Except ε β} {result : β}
    (h : x >>= f = .ok result) : ∃ a, x = .ok a ∧ f a = .ok result := by
  cases x with
  | error e => cases h
  | ok a => exact ⟨a, rfl, h⟩

namespace Url

variable {base u : Url} {scheme : String} {cs : List Char}

/-- All characters count of a text without control characters and spaces. -/
lemma significant_eq_self (above : ∀ c ∈ cs, 0x20 < c.toNat) :
    significant (String.ofList cs) = cs := by
  have inner : ∀ c ∈ cs, isPadding c = false :=
    fun c mem => decide_eq_false (Nat.not_le.mpr (above c mem))
  rw [significant, String.toList_ofList, trim_eq_self inner, List.filter_eq_self]
  intro c mem
  have high := above c mem
  rw [Bool.not_eq_true', isFolding, Bool.or_eq_false_iff, Bool.or_eq_false_iff]
  refine ⟨⟨decide_eq_false ?_, decide_eq_false ?_⟩, decide_eq_false ?_⟩ <;>
    · rintro rfl
      revert high
      decide

/-- A URL that is read from a text, by itself or relative to another one that is read. -/
inductive IsRead : Url → Prop
  | parse {text : String} {u : Url} (parses : Url.parse text = .ok u) : IsRead u
  | join {base u : Url} {text : String} (read : IsRead base) (joins : base.join text = .ok u) :
      IsRead u

/-! ### What the parts of a text change -/

/-- The end of a text decides on the query and the fragment only. -/
lemma exists_withTail (u : Url) (cs : List Char) :
    ∃ query fragment, withTail u cs = { u with query, fragment } := by
  rw [withTail.eq_def]
  split <;> exact ⟨_, _, rfl⟩

@[simp] lemma scheme_withTail (u : Url) (cs : List Char) : (withTail u cs).scheme = u.scheme := by
  obtain ⟨query, fragment, eq⟩ := exists_withTail u cs
  rw [eq]

@[simp] lemma authority_withTail (u : Url) (cs : List Char) :
    (withTail u cs).authority = u.authority := by
  obtain ⟨query, fragment, eq⟩ := exists_withTail u cs
  rw [eq]

@[simp] lemma isHierarchical_withTail (u : Url) (cs : List Char) :
    (withTail u cs).isHierarchical = u.isHierarchical := by
  obtain ⟨query, fragment, eq⟩ := exists_withTail u cs
  rw [eq]
  rfl

@[simp] lemma scheme_withPath (base : Url) (names : List String) (cs : List Char) :
    (withPath base names cs).scheme = base.scheme :=
  scheme_withTail _ _

@[simp] lemma authority_withPath (base : Url) (names : List String) (cs : List Char) :
    (withPath base names cs).authority = base.authority :=
  authority_withTail _ _

@[simp] lemma isHierarchical_withPath (base : Url) (names : List String) (cs : List Char) :
    (withPath base names cs).isHierarchical = true :=
  isHierarchical_withTail _ _

@[simp] lemma scheme_localUrl (host : Option Host) (names : List String) (cs : List Char) :
    (localUrl host names cs).scheme = Scheme.file :=
  scheme_withTail _ _

@[simp] lemma isHierarchical_localUrl (host : Option Host) (names : List String)
    (cs : List Char) : (localUrl host names cs).isHierarchical = true :=
  isHierarchical_withTail _ _

@[simp] lemma scheme_ofPlainPath (scheme : String) (cs : List Char) :
    (ofPlainPath scheme cs).scheme = scheme := by
  rw [ofPlainPath.eq_def]
  split <;> exact scheme_withTail _ _

/-- What stands behind an authority is a path of names. -/
lemma frame_of_ofAuthority (h : ofAuthority scheme cs = .ok u) :
    u.scheme = scheme ∧ u.isHierarchical = true := by
  rw [ofAuthority] at h
  obtain ⟨_, _, h⟩ := exists_of_bind h
  cases h
  exact ⟨scheme_withTail _ _, isHierarchical_withTail _ _⟩

/-! ### References -/

/-- A reference to a path, a query or a fragment keeps the scheme and a path of names. -/
lemma frame_of_joinRelative (hierarchical : base.isHierarchical = true)
    (h : joinRelative base cs = .ok u) : u.scheme = base.scheme ∧ u.isHierarchical = true := by
  rw [joinRelative.eq_def] at h
  split at h
  · cases h
    exact ⟨rfl, hierarchical⟩
  · cases h
    simp [hierarchical]
  · cases h
    exact ⟨scheme_withTail _ _, (isHierarchical_withTail base _).trans hierarchical⟩
  · split_ifs at h
    · split at h
      · split_ifs at h
        · exact frame_of_ofAuthority h
        · cases h
          simp
      · cases h
        simp
    · cases h
      simp

/-- The local URL of a path from the root. -/
lemma frame_underRoot (base : Option Url) (cs : List Char) :
    (joinLocal.underRoot base cs).scheme = Scheme.file ∧
      (joinLocal.underRoot base cs).isHierarchical = true := by
  rw [joinLocal.underRoot.eq_def]
  split
  · simp
  · dsimp only
    split_ifs <;> simp

/-- A reference to a local file is local, with a path of names. -/
lemma frame_of_joinLocal {base : Option Url}
    (sound : ∀ b, base = some b → b.scheme = Scheme.file ∧ b.isHierarchical = true)
    (h : joinLocal base cs = .ok u) : u.scheme = Scheme.file ∧ u.isHierarchical = true := by
  cases cs with
  | nil =>
      cases base with
      | none =>
          cases h
          simp
      | some b =>
          cases h
          exact sound b rfl
  | cons c rest =>
      rw [joinLocal.eq_def] at h
      dsimp only at h
      by_cases rooted : isSlash true c = true
      · rw [if_pos rooted] at h
        cases rest with
        | nil =>
            cases h
            exact frame_underRoot _ _
        | cons d after =>
            dsimp only at h
            by_cases placed : isSlash true d = true
            · rw [if_pos placed] at h
              obtain ⟨_, _, h⟩ := exists_of_bind h
              cases h
              simp
            · rw [if_neg placed] at h
              cases h
              exact frame_underRoot _ _
      · rw [if_neg rooted] at h
        cases base with
        | none =>
            cases h
            simp
        | some b =>
            obtain ⟨scheme, hierarchical⟩ := sound b rfl
            dsimp only at h
            split_ifs at h <;> cases h
            · simp [scheme, hierarchical]
            · exact ⟨(scheme_withTail _ _).trans scheme,
                (isHierarchical_withTail b _).trans hierarchical⟩
            · simp
            · simp [scheme]

/-- A text without a scheme has the one of the base, and like it a path of names or not. -/
lemma frame_of_joinReference (h : joinReference base cs = .ok u) :
    u.scheme = base.scheme ∧ u.isHierarchical = base.isHierarchical := by
  rw [joinReference] at h
  split_ifs at h with fragment opaquely filed
  · cases h
    exact ⟨scheme_withTail _ _, isHierarchical_withTail base _⟩
  · rw [Bool.not_eq_true', Bool.not_eq_false] at opaquely
    rw [filed, opaquely]
    refine frame_of_joinLocal (fun b same => ?_) h
    cases same
    exact ⟨filed, opaquely⟩
  · rw [Bool.not_eq_true', Bool.not_eq_false] at opaquely
    rw [opaquely]
    exact frame_of_joinRelative opaquely h

/-! ### Whole texts -/

/-- What holds of every URL that is read: its scheme is in small letters, and under a special one
its path has names. -/
structure IsSound (u : Url) : Prop where
  lower : lowered u.scheme = u.scheme
  hierarchical : Scheme.isSpecial u.scheme = true → u.isHierarchical = true

/-- A text behind a scheme has that scheme, and under a special one a path of names. -/
lemma frame_of_ofScheme {base : Option Url} (sound : ∀ b, base = some b → b.IsSound)
    (h : ofScheme base scheme cs = .ok u) :
    u.scheme = scheme ∧ (Scheme.isSpecial scheme = true → u.isHierarchical = true) := by
  rw [ofScheme.eq_def] at h
  dsimp only at h
  have hierarchical : ∀ b, base.filter (·.scheme = scheme) = some b → b.scheme = scheme ∧
      (Scheme.isSpecial scheme = true → b.isHierarchical = true) := by
    intro b filtered
    obtain ⟨same, alike⟩ := Option.filter_eq_some_iff.mp filtered
    rw [decide_eq_true_eq] at alike
    exact ⟨alike, fun special => (sound b same).hierarchical (alike ▸ special)⟩
  by_cases filed : scheme = Scheme.file
  · rw [if_pos filed] at h
    obtain ⟨same, names⟩ := frame_of_joinLocal (fun b filtered => by
      obtain ⟨alike, names⟩ := hierarchical b filtered
      exact ⟨alike.trans filed, names (filed ▸ by decide)⟩) h
    exact ⟨same.trans filed.symm, fun _ => names⟩
  · rw [if_neg filed] at h
    by_cases special : Scheme.isSpecial scheme = true
    · rw [if_pos special] at h
      have placed : ∀ cs, ofAuthority scheme cs = .ok u →
          u.scheme = scheme ∧ (Scheme.isSpecial scheme = true → u.isHierarchical = true) :=
        fun cs h => (frame_of_ofAuthority h).imp id fun names _ => names
      cases known : base.filter (·.scheme = scheme) with
      | none =>
          rw [known] at h
          exact placed _ h
      | some b =>
          rw [known] at h
          dsimp only at h
          obtain ⟨alike, names⟩ := hierarchical b known
          split_ifs at h
          · obtain ⟨same, names⟩ := frame_of_joinRelative (names special) h
            exact ⟨same.trans alike, fun _ => names⟩
          · exact placed _ h
    · rw [if_neg special] at h
      refine ⟨?_, fun special' => absurd special' special⟩
      split at h
      · exact (frame_of_ofAuthority h).1
      · cases h
        exact scheme_ofPlainPath _ _

/-- A scheme is read in small letters. -/
lemma lowered_of_splitScheme {rest : List Char} (h : splitScheme cs = some (scheme, rest)) :
    lowered scheme = scheme := by
  rw [splitScheme] at h
  split at h
  · split_ifs at h
    cases h
    rw [lowered, String.toList_ofList, List.map_map]
    congr 2
    funext c
    exact Char.toLower_toLower_eq_toLower c
  · cases h

lemma IsRead.isSound (read : u.IsRead) : u.IsSound := by
  induction read with
  | parse parses =>
      rw [Url.parse] at parses
      split at parses
      · next scheme rest split =>
          obtain ⟨same, names⟩ := frame_of_ofScheme (fun _ same => by cases same) parses
          rw [← same] at split names
          exact ⟨lowered_of_splitScheme split, names⟩
      · cases parses
  | join _ joins ih =>
      rw [Url.join] at joins
      split at joins
      · next scheme rest split =>
          obtain ⟨same, names⟩ := frame_of_ofScheme (fun b same => by cases same; exact ih) joins
          rw [← same] at split names
          exact ⟨lowered_of_splitScheme split, names⟩
      · obtain ⟨same, names⟩ := frame_of_joinReference joins
        exact ⟨by rw [same, ih.lower], by rw [same, names]; exact ih.hierarchical⟩

/-- A URL of the web is read with one of its two schemes. -/
lemma IsRead.eq_of_isHttp (read : u.IsRead) (web : u.isHttp = true) :
    u.scheme = "http" ∨ u.scheme = "https" := by
  rw [isHttp, HttpScheme.ofString?, sameLetters, sameLetters, read.isSound.lower] at web
  split_ifs at web with http https
  · exact .inl (beq_iff_eq.mp http)
  · exact .inr (beq_iff_eq.mp https)
  · cases web

/-- A URL of the web is no local file. -/
lemma IsRead.ne_file_of_isHttp (read : u.IsRead) (web : u.isHttp = true) :
    u.scheme ≠ Scheme.file := by
  rcases read.eq_of_isHttp web with http | https
  · rw [http]
    decide
  · rw [https]
    decide

lemma IsRead.isSpecial_of_isHttp (read : u.IsRead) (web : u.isHttp = true) :
    Scheme.isSpecial u.scheme = true := by
  rcases read.eq_of_isHttp web with http | https
  · rw [http]
    decide
  · rw [https]
    decide

/-- A URL of the web is read with a path of names. -/
lemma IsRead.isHierarchical_of_isHttp (read : u.IsRead) (web : u.isHttp = true) :
    u.isHierarchical = true :=
  read.isSound.hierarchical (read.isSpecial_of_isHttp web)

end Url

end Wayfarer
