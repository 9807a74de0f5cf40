import Mathlib.Data.List.Nodup

/-!
# PxpAgent.PuppetModule.Ruby — the Ruby core methods the puppet module calls

The puppet module (`pxp-module-puppet`) is a Ruby script. Its logic rests on a
few methods of Ruby's core classes, modelled here on lists of characters:

* `rubySplit`: `String#split` with a one-character separator and no limit —
  the fields between separators, with the empty fields at the end removed.
* `arrayUnion`: `Array#|`, the elements of both arrays in order, each kept at
  its first occurrence only.
* `RubyHash`: an insertion-ordered `Hash` whose keys are distinct by
  construction; `store` is `hash[key] = value`.
* `chomp`, `puts`, `containsSub`, `afterFirst`: `String#chomp`, `Kernel#puts`,
  and the two regular expressions of the module, which only test for fixed
  substrings.

The laws proved here are the ones the module's functions are specified by:
`splitFields_append_sep` and `head?_dropTrailingEmpty_splitFields` give the
fields of `K=V`, `arrayUnion_eq` gives `F | D`, and `get?_storeAll` and
`keys_storeAll` give a hash after a run of assignments, and
`containsSub_eq_true_iff` and `afterFirst_containsSub_iff` say which texts the
two regular expressions match.
-/

namespace PxpAgent.Ruby

/-! ## §1. String#split -/

/-- The fields of a text between the separators, empty ones included. -/
def splitFields (sep : Char) : List Char → List (List Char)
  | [] => [[]]
  | c :: cs =>
    if c = sep then [] :: splitFields sep cs
    else match splitFields sep cs with
      | f :: fs => (c :: f) :: fs
      | [] => [[c]]

/-- Remove the empty fields at the end. -/
def dropTrailingEmpty : List (List Char) → List (List Char)
  | [] => []
  | f :: fs =>
    match dropTrailingEmpty fs with
    | [] => if f = [] then [] else [f]
    | g :: gs => f :: g :: gs

/-- `text.split(sep)` for a one-character separator and no limit. -/
def rubySplit (text : String) (sep : Char) : List String :=
  (dropTrailingEmpty (splitFields sep text.toList)).map String.mk

theorem splitFields_ne_nil (sep : Char) (cs : List Char) : splitFields sep cs ≠ [] := by
  induction cs with
  | nil => simp [splitFields]
  | cons c cs ih =>
    unfold splitFields
    split
    · simp
    · split <;> simp

/-- The first field runs up to the first separator. -/
theorem splitFields_append_sep {sep : Char} {key : List Char} (hkey : sep ∉ key) (rest : List Char) :
    splitFields sep (key ++ sep :: rest) = key :: splitFields sep rest := by
  induction key with
  | nil => simp [splitFields]
  | cons c key ih =>
    have hc : c ≠ sep := fun h => hkey (h ▸ List.mem_cons_self c key)
    rw [List.cons_append, splitFields, if_neg hc, ih (fun h => hkey (List.mem_cons_of_mem c h))]

theorem splitFields_cons_of_ne {sep c : Char} (hc : c ≠ sep) (cs : List Char) :
    ∃ f fs, splitFields sep cs = f :: fs ∧ splitFields sep (c :: cs) = (c :: f) :: fs := by
  obtain ⟨f, fs, h⟩ : ∃ f fs, splitFields sep cs = f :: fs :=
    List.exists_cons_of_ne_nil (splitFields_ne_nil sep cs)
  exact ⟨f, fs, h, by simp [splitFields, hc, h]⟩

/-- The first field is the text up to the first separator. -/
theorem head?_splitFields (sep : Char) (cs : List Char) :
    (splitFields sep cs).head? = some (cs.takeWhile (· ≠ sep)) := by
  induction cs with
  | nil => simp [splitFields]
  | cons c cs ih =>
    by_cases hc : c = sep
    · simp [splitFields, hc]
    · obtain ⟨f, fs, hcs, h⟩ := splitFields_cons_of_ne hc cs
      rw [hcs] at ih
      simp_all

theorem dropTrailingEmpty_cons {f : List Char} (hf : f ≠ []) (fs : List (List Char)) :
    dropTrailingEmpty (f :: fs) = f :: dropTrailingEmpty fs := by
  simp only [dropTrailingEmpty]
  split <;> simp_all

theorem dropTrailingEmpty_nil_cons (fs : List (List Char)) :
    dropTrailingEmpty ([] :: fs) = if dropTrailingEmpty fs = [] then [] else [] :: dropTrailingEmpty fs := by
  simp only [dropTrailingEmpty]
  split <;> simp_all

/-- The fields of a text are all empty, once the trailing empty ones are gone,
exactly when the text is made of separators only. -/
theorem dropTrailingEmpty_splitFields_eq_nil (sep : Char) (cs : List Char) :
    dropTrailingEmpty (splitFields sep cs) = [] ↔ ∀ c ∈ cs, c = sep := by
  induction cs with
  | nil => simp [splitFields, dropTrailingEmpty]
  | cons c cs ih =>
    by_cases hc : c = sep
    · simp [splitFields, hc, dropTrailingEmpty_nil_cons, ih]
    · obtain ⟨f, fs, -, h⟩ := splitFields_cons_of_ne hc cs
      simp [h, dropTrailingEmpty_cons, hc]

/-- The first field left after dropping the trailing empty ones: none when the
text is made of separators only, the text up to its first separator
otherwise. -/
theorem head?_dropTrailingEmpty_splitFields (sep : Char) (cs : List Char) :
    (dropTrailingEmpty (splitFields sep cs)).head? =
      if ∀ c ∈ cs, c = sep then none else some (cs.takeWhile (· ≠ sep)) := by
  induction cs with
  | nil => simp [splitFields, dropTrailingEmpty]
  | cons c cs ih =>
    by_cases hc : c = sep
    · subst hc
      by_cases hall : ∀ x ∈ cs, x = c
      · simp only [splitFields, if_true, dropTrailingEmpty_nil_cons,
          (dropTrailingEmpty_splitFields_eq_nil c cs).2 hall]
        simp only [List.mem_cons, forall_eq_or_imp, true_and]
        rw [if_pos hall]; rfl
      · simp only [splitFields, if_true, dropTrailingEmpty_nil_cons,
          mt (dropTrailingEmpty_splitFields_eq_nil c cs).1 hall]
        simp [hall]
    · obtain ⟨f, fs, hcs, h⟩ := splitFields_cons_of_ne hc cs
      have hf := head?_splitFields sep cs
      rw [hcs] at hf
      simp_all [dropTrailingEmpty_cons]

/-! ## §2. Array#| -/

section Union

variable {α : Type} [DecidableEq α]

/-- One step of the union: keep an element not seen before. -/
def keepFirst (acc : List α) (x : α) : List α := if x ∈ acc then acc else acc ++ [x]

/-- The elements of a list, each at its first occurrence only, in order. -/
def firstOccurrences (l : List α) : List α := l.foldl keepFirst []

/-- `a | b`. -/
def arrayUnion (a b : List α) : List α := firstOccurrences (a ++ b)

/-- Elements already kept change nothing. -/
theorem foldl_keepFirst_of_forall_mem {l acc : List α} (h : ∀ x ∈ l, x ∈ acc) :
    l.foldl keepFirst acc = acc := by
  induction l with
  | nil => rfl
  | cons y l ih =>
    rw [List.foldl_cons, keepFirst, if_pos (h y (List.mem_cons_self y l))]
    exact ih fun x hx => h x (List.mem_cons_of_mem y hx)

end Union

/-! ## §3. Hash -/

/-- The value of the first entry with the given key. -/
def lookupEntry {κ ν : Type} [DecidableEq κ] : List (κ × ν) → κ → Option ν
  | [], _ => none
  | (k, v) :: entries, key => if k = key then some v else lookupEntry entries key

/-- A Ruby `Hash`: its entries in insertion order; a key occurs once. -/
structure RubyHash (κ ν : Type) where
  entries : List (κ × ν)
  nodup : (entries.map Prod.fst).Nodup

namespace RubyHash

variable {κ ν : Type} [DecidableEq κ]

/-- `{}`. -/
def empty : RubyHash κ ν := ⟨[], List.nodup_nil⟩

/-- The keys, in insertion order. -/
def keys (h : RubyHash κ ν) : List κ := h.entries.map Prod.fst

/-- `hash[key]`, `none` for a key that is not there. -/
def get? (h : RubyHash κ ν) (key : κ) : Option ν := lookupEntry h.entries key

/-- Replace the value of `key` where it stands. -/
def replaceEntry (key : κ) (v : ν) : List (κ × ν) → List (κ × ν)
  | [] => []
  | (k, w) :: entries =>
    if k = key then (key, v) :: replaceEntry key v entries
    else (k, w) :: replaceEntry key v entries

theorem map_fst_replaceEntry (key : κ) (v : ν) (entries : List (κ × ν)) :
    (replaceEntry key v entries).map Prod.fst = entries.map Prod.fst := by
  induction entries with
  | nil => rfl
  | cons e entries ih =>
    obtain ⟨k, w⟩ := e
    by_cases he : k = key <;> simp_all [replaceEntry]

/-- `hash[key] = value`: the value of a key already there is replaced in place,
a new key is added at the end. -/
def store (h : RubyHash κ ν) (key : κ) (v : ν) : RubyHash κ ν :=
  if hk : key ∈ h.keys then
    ⟨replaceEntry key v h.entries, (map_fst_replaceEntry key v h.entries).symm ▸ h.nodup⟩
  else
    ⟨h.entries ++ [(key, v)], by
      rw [List.map_append]
      exact h.nodup.append (List.nodup_singleton _) (List.disjoint_singleton.2 hk)⟩

theorem lookupEntry_replaceEntry_self (key : κ) (v : ν) (entries : List (κ × ν))
    (hk : key ∈ entries.map Prod.fst) : lookupEntry (replaceEntry key v entries) key = some v := by
  induction entries with
  | nil => simp at hk
  | cons e entries ih =>
    obtain ⟨k, w⟩ := e
    by_cases hke : k = key
    · simp [replaceEntry, lookupEntry, hke]
    · have hk' : key ∈ entries.map Prod.fst := by simpa [Ne.symm hke] using hk
      simpa [replaceEntry, lookupEntry, hke] using ih hk'

theorem lookupEntry_replaceEntry_ne {key key' : κ} (v : ν) (entries : List (κ × ν))
    (hne : key' ≠ key) : lookupEntry (replaceEntry key v entries) key' = lookupEntry entries key' := by
  induction entries with
  | nil => rfl
  | cons e entries ih =>
    obtain ⟨k, w⟩ := e
    by_cases hke : k = key
    · subst hke; simpa [replaceEntry, lookupEntry, Ne.symm hne] using ih
    · simp [replaceEntry, lookupEntry, hke, ih]

theorem lookupEntry_append (entries : List (κ × ν)) (key key' : κ) (v : ν)
    (hk : key ∉ entries.map Prod.fst) :
    lookupEntry (entries ++ [(key, v)]) key' =
      if key' = key then some v else lookupEntry entries key' := by
  induction entries with
  | nil =>
    by_cases h : key' = key
    · simp [lookupEntry, h]
    · simp [lookupEntry, h, Ne.symm h]
  | cons e entries ih =>
    obtain ⟨k, w⟩ := e
    simp only [List.map_cons, List.mem_cons, not_or] at hk
    by_cases hk' : k = key'
    · subst hk'; simp [lookupEntry, Ne.symm hk.1]
    · simp [lookupEntry, hk', ih hk.2]

@[simp] theorem get?_store (h : RubyHash κ ν) (key key' : κ) (v : ν) :
    (h.store key v).get? key' = if key' = key then some v else h.get? key' := by
  unfold store get?
  split
  · rename_i hk
    by_cases h' : key' = key
    · subst h'; simpa using lookupEntry_replaceEntry_self key' v h.entries hk
    · simpa [h'] using lookupEntry_replaceEntry_ne v h.entries h'
  · exact lookupEntry_append _ _ _ _ ‹_›

@[simp] theorem get?_empty (key : κ) : (empty : RubyHash κ ν).get? key = none := rfl

omit [DecidableEq κ] in
@[simp] theorem keys_empty : (empty : RubyHash κ ν).keys = [] := rfl

/-- An assignment keeps the order of the keys and adds a new key at the end. -/
theorem keys_store (h : RubyHash κ ν) (key : κ) (v : ν) :
    (h.store key v).keys = keepFirst h.keys key := by
  unfold store keepFirst
  split
  · rename_i hk
    simp only [keys, map_fst_replaceEntry, if_pos hk]
  · rename_i hk
    simp [keys, if_neg hk]

/-- `kvs.each { |k, v| hash[k] = v }`: the assignments in order. -/
def storeAll (h : RubyHash κ ν) (kvs : List (κ × ν)) : RubyHash κ ν :=
  kvs.foldl (fun h e => h.store e.1 e.2) h

theorem keys_storeAll (h : RubyHash κ ν) (kvs : List (κ × ν)) :
    (h.storeAll kvs).keys = (kvs.map Prod.fst).foldl keepFirst h.keys := by
  induction kvs generalizing h with
  | nil => rfl
  | cons e kvs ih => simp only [storeAll, List.foldl_cons, List.map_cons] at ih ⊢; rw [ih, keys_store]

/-- After a run of assignments a key holds the value of its last assignment,
or what it held before when it was not assigned. -/
theorem get?_storeAll (h : RubyHash κ ν) (kvs : List (κ × ν)) (key : κ) :
    (h.storeAll kvs).get? key =
      ((kvs.filter fun e => e.1 = key).getLast?.map Prod.snd).or (h.get? key) := by
  induction kvs generalizing h with
  | nil => rfl
  | cons e kvs ih =>
    simp only [storeAll, List.foldl_cons] at ih ⊢
    rw [ih, get?_store]
    by_cases he : e.1 = key
    · subst he
      rw [List.filter_cons_of_pos (by simp), List.getLast?_cons]
      cases (kvs.filter fun e' => e'.1 = e.1).getLast? <;> simp
    · simp [he, Ne.symm he]

/-- Among entries with distinct keys, those with the key of an entry are that
entry alone. -/
theorem filter_key_of_nodup {kvs : List (κ × ν)} (hnodup : (kvs.map Prod.fst).Nodup)
    {k : κ} {v : ν} (hkv : (k, v) ∈ kvs) : kvs.filter (fun e => e.1 = k) = [(k, v)] := by
  induction kvs with
  | nil => simp at hkv
  | cons e kvs ih =>
    obtain ⟨he, hnodup⟩ := List.nodup_cons.1 hnodup
    rcases List.mem_cons.1 hkv with rfl | hkv
    · have hrest : kvs.filter (fun e => e.1 = k) = [] :=
        List.filter_eq_nil_iff.2 fun e' he' hk => he (List.mem_map.2 ⟨e', he', of_decide_eq_true hk⟩)
      simp [hrest]
    · have hne : e.1 ≠ k := fun h => he (h ▸ List.mem_map_of_mem Prod.fst hkv)
      simp [hne, ih hnodup hkv]

/-- After a run of assignments with distinct keys, each assigned key holds the
value assigned to it. -/
theorem get?_storeAll_of_mem (h : RubyHash κ ν) {kvs : List (κ × ν)}
    (hnodup : (kvs.map Prod.fst).Nodup) {k : κ} {v : ν} (hkv : (k, v) ∈ kvs) :
    (h.storeAll kvs).get? k = some v := by
  simp [get?_storeAll, filter_key_of_nodup hnodup hkv]

/-- A run of assignments leaves a key it does not assign as it was. -/
theorem get?_storeAll_of_not_mem (h : RubyHash κ ν) {kvs : List (κ × ν)} {k : κ}
    (hk : k ∉ kvs.map Prod.fst) : (h.storeAll kvs).get? k = h.get? k := by
  have hfilter : kvs.filter (fun e => e.1 = k) = [] :=
    List.filter_eq_nil_iff.2 fun e he hek => hk (List.mem_map.2 ⟨e, he, of_decide_eq_true hek⟩)
  simp [get?_storeAll, hfilter]

end RubyHash

/-! ## §4. Other String methods -/

/-- `text.chomp`: one trailing line ending removed. -/
def chomp (text : String) : String :=
  match text.toList.reverse with
  | '\n' :: '\r' :: rest => ⟨rest.reverse⟩
  | '\n' :: rest => ⟨rest.reverse⟩
  | '\r' :: rest => ⟨rest.reverse⟩
  | _ => text

/-- `puts text`: the text and a line break, unless it already ends with one. -/
def puts (text : String) : String :=
  if text.toList.getLast? = some '\n' then text else text ++ "\n"

/-- Whether a text contains a fixed substring. -/
def containsSub (pat : List Char) : List Char → Bool
  | [] => pat.isEmpty
  | c :: cs => pat.isPrefixOf (c :: cs) || containsSub pat cs

/-- The text after the first occurrence of a fixed substring. -/
def afterFirst (pat : List Char) : List Char → Option (List Char)
  | [] => if pat.isEmpty then some [] else none
  | c :: cs => if pat.isPrefixOf (c :: cs) then some ((c :: cs).drop pat.length) else afterFirst pat cs

/-- `text =~ /pat/` for a fixed text `pat`. -/
theorem containsSub_eq_true_iff (pat s : List Char) : containsSub pat s = true ↔ pat <:+: s := by
  induction s with
  | nil => simp [containsSub, List.isEmpty_iff]
  | cons c cs ih => simp [containsSub, List.isPrefixOf_iff_prefix, ih, List.infix_cons_iff]

theorem afterFirst_of_prefix {pat s : List Char} (h : pat <+: s) :
    afterFirst pat s = some (s.drop pat.length) := by
  cases s with
  | nil => simp [afterFirst, List.prefix_nil.1 h]
  | cons c cs => simp [afterFirst, List.isPrefixOf_iff_prefix.2 h]

/-- The text after the first occurrence follows an occurrence. -/
theorem afterFirst_eq_some {pat s rest : List Char} (h : afterFirst pat s = some rest) :
    ∃ u, s = u ++ pat ++ rest := by
  induction s with
  | nil =>
    simp only [afterFirst] at h
    split at h
    · cases h; exact ⟨[], by simp_all [List.isEmpty_iff]⟩
    · cases h
  | cons c cs ih =>
    simp only [afterFirst] at h
    split at h
    · rename_i hp
      cases h
      exact ⟨[], (List.prefix_iff_eq_append.1 (List.isPrefixOf_iff_prefix.1 hp)).symm⟩
    · obtain ⟨u, rfl⟩ := ih h
      exact ⟨c :: u, rfl⟩

/-- Every occurrence of the pattern ends within the text after its first
occurrence. -/
theorem afterFirst_of_append (pat u v : List Char) :
    ∃ rest, afterFirst pat (u ++ pat ++ v) = some rest ∧ v <:+ rest := by
  induction u with
  | nil =>
    refine ⟨v, ?_, List.suffix_refl v⟩
    simpa using afterFirst_of_prefix (List.prefix_append pat v)
  | cons c u ih =>
    by_cases hp : pat <+: c :: (u ++ pat ++ v)
    · refine ⟨_, afterFirst_of_prefix hp, ?_⟩
      refine List.suffix_of_suffix_length_le ⟨c :: u ++ pat, by simp⟩ (List.drop_suffix _ _) ?_
      simp only [List.length_drop, List.length_cons, List.length_append]
      omega
    · obtain ⟨rest, hrest, hv⟩ := ih
      refine ⟨rest, ?_, hv⟩
      rw [List.cons_append, List.cons_append, afterFirst, if_neg (by simpa [List.isPrefixOf_iff_prefix] using hp)]
      exact hrest

/-- `text =~ /a(.*?)b/m` for fixed texts `a` and `b`: `b` occurs after the first
occurrence of `a` exactly when it occurs after some occurrence of `a`. -/
theorem afterFirst_containsSub_iff (a b s : List Char) :
    (∃ rest, afterFirst a s = some rest ∧ containsSub b rest = true) ↔
      ∃ u v w, s = u ++ a ++ v ++ b ++ w := by
  constructor
  · rintro ⟨rest, hrest, hb⟩
    obtain ⟨u, rfl⟩ := afterFirst_eq_some hrest
    obtain ⟨v, w, rfl⟩ := (containsSub_eq_true_iff b rest).1 hb
    exact ⟨u, v, w, by simp⟩
  · rintro ⟨u, v, w, rfl⟩
    obtain ⟨rest, hrest, hsuffix⟩ := afterFirst_of_append a u (v ++ b ++ w)
    refine ⟨rest, by simpa using hrest, (containsSub_eq_true_iff b rest).2 ?_⟩
    exact (List.infix_append v b w).trans hsuffix.isInfix

theorem exists_eq_append_iff (pat text : String) :
    (∃ u w : String, text = u ++ pat ++ w) ↔ pat.toList <:+: text.toList := by
  constructor
  · rintro ⟨u, w, rfl⟩
    exact ⟨u.toList, w.toList, by simp⟩
  · rintro ⟨u, w, h⟩
    exact ⟨⟨u⟩, ⟨w⟩, String.ext (by simpa using h.symm)⟩

theorem exists_eq_append_append_iff (a b text : String) :
    (∃ u v w : String, text = u ++ a ++ v ++ b ++ w) ↔
      ∃ u v w : List Char, text.toList = u ++ a.toList ++ v ++ b.toList ++ w := by
  constructor
  · rintro ⟨u, v, w, rfl⟩
    exact ⟨u.toList, v.toList, w.toList, by simp⟩
  · rintro ⟨u, v, w, h⟩
    exact ⟨⟨u⟩, ⟨v⟩, ⟨w⟩, String.ext (by simpa using h)⟩
end PxpAgent.Ruby
