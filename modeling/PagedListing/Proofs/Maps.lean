import Mathlib.Data.List.Induction
import Mathlib.Tactic.Lemma
import PagedListing.OrderedMap
import PagedListing.SortedMap

/-!
# Maps as lists of entries

A map of either kind has an entry exactly where the look-up finds it. A list of entries with distinct
names is an ordered map as it stands (`OrderedMap.entries_ofList`), a new name goes to the end
(`OrderedMap.entries_insert_new`), and in a sorted map under another one the other map decides where
it has an entry (`SortedMap.get?_insertAll`).
-/

namespace PagedListing

/-- An entry under a new name stands at the end. -/
lemma putEntry_new {β : Type} {name : String} {value : β} {entries : List (String × β)}
    (h : name ∉ entryNames entries) :
    putEntry name value entries = entries ++ [(name, value)] := by
  induction entries with
  | nil => rfl
  | cons entry rest ih =>
    simp only [entryNames, List.map_cons, List.mem_cons, not_or] at h
    obtain ⟨hne, hrest⟩ := h
    rw [putEntry, if_neg (fun e => hne e.symm), ih hrest, List.cons_append]

/-- Putting an entry that is not read reads the same. -/
lemma filterMap_putEntry {β γ : Type} {f : String × β → Option γ} {name : String}
    (h : ∀ value, f (name, value) = none) (value : β) (entries : List (String × β)) :
    (putEntry name value entries).filterMap f = entries.filterMap f := by
  induction entries with
  | nil => exact List.filterMap_cons_none (h value)
  | cons entry rest ih =>
    rw [putEntry]
    split
    · rename_i hname
      have hentry : f entry = none := by
        rw [← h entry.2, ← hname]
      rw [List.filterMap_cons_none (h value), List.filterMap_cons_none hentry]
    · cases hentry : f entry with
      | none => rw [List.filterMap_cons_none hentry, List.filterMap_cons_none hentry, ih]
      | some read => rw [List.filterMap_cons_some hentry, List.filterMap_cons_some hentry, ih]

/-- Names that stand once do so with a new one behind them. -/
lemma nodup_concat {β : Type} {entries : List (String × β)} {name : String}
    (nd : (entryNames entries).Nodup) (h : name ∉ entryNames entries) (value : β) :
    (entryNames (entries ++ [(name, value)])).Nodup := by
  rw [entryNames, List.map_append, List.map_singleton, List.nodup_append]
  refine ⟨nd, List.pairwise_singleton _ _, ?_⟩
  rintro other hmem last hlast rfl
  have e : other = name := List.mem_singleton.mp hlast
  exact h (e ▸ hmem)

/-- An entry is found under its name if every name stands once. -/
lemma find?_eq_some_of_mem {β : Type} {entries : List (String × β)} {entry : String × β}
    (nd : (entryNames entries).Nodup) (h : entry ∈ entries) :
    entries.find? (·.1 = entry.1) = some entry := by
  induction entries with
  | nil => cases h
  | cons first rest ih =>
    simp only [entryNames, List.map_cons, List.nodup_cons] at nd
    obtain ⟨hnew, nd⟩ := nd
    cases List.mem_cons.mp h with
    | inl e => subst e; simp
    | inr hmem =>
      have hne : first.1 ≠ entry.1 := fun e => hnew (e ▸ List.mem_map_of_mem hmem)
      rw [List.find?_cons_of_neg (by simpa using hne)]
      exact ih nd hmem

/-- An entry is the only one under its name if every name stands once. -/
lemma filter_eq_singleton_of_mem {β : Type} {entries : List (String × β)} {entry : String × β}
    (nd : (entryNames entries).Nodup) (h : entry ∈ entries) :
    entries.filter (·.1 = entry.1) = [entry] := by
  induction entries with
  | nil => cases h
  | cons first rest ih =>
    simp only [entryNames, List.map_cons, List.nodup_cons] at nd
    obtain ⟨hnew, nd⟩ := nd
    cases List.mem_cons.mp h with
    | inl e =>
      subst e
      have hnone : rest.filter (·.1 = entry.1) = [] :=
        List.filter_eq_nil_iff.mpr fun other hother hname =>
          hnew (of_decide_eq_true hname ▸ List.mem_map_of_mem hother)
      rw [List.filter_cons_of_pos (by simp), hnone]
    | inr hmem =>
      have hne : first.1 ≠ entry.1 := fun e => hnew (e ▸ List.mem_map_of_mem hmem)
      rw [List.filter_cons_of_neg (by simpa using hne)]
      exact ih nd hmem

/-- The entries are what look-ups find if every name stands once. -/
lemma mem_entries_iff_find? {β : Type} {entries : List (String × β)}
    (nd : (entryNames entries).Nodup) (name : String) (value : β) :
    (name, value) ∈ entries ↔ (entries.find? (·.1 = name)).map (·.2) = some value := by
  constructor
  · intro h
    rw [find?_eq_some_of_mem nd h]
    rfl
  · intro h
    obtain ⟨entry, hfind, rfl⟩ := Option.map_eq_some_iff.mp h
    have hname : entry.1 = name := by simpa using List.find?_some hfind
    exact hname ▸ List.mem_of_find?_eq_some hfind

/-- What of the elements depends on something else of them is the same where that is. -/
lemma map_eq_map_of_imp {α β γ : Type} {f : α → β} {g : α → γ} (hfg : ∀ a b, f a = f b → g a = g b)
    {l l' : List α} (h : l.map f = l'.map f) : l.map g = l'.map g := by
  induction l generalizing l' with
  | nil =>
    rw [List.map_nil] at h
    rw [List.map_eq_nil_iff.mp h.symm]
  | cons a l ih =>
    cases l' with
    | nil => cases h
    | cons b l' =>
      obtain ⟨hhead, htail⟩ := List.cons_eq_cons.mp h
      rw [List.map_cons, List.map_cons, hfg a b hhead, ih htail]

namespace OrderedMap

variable {β : Type}

/-- An entry of a map is what the look-up of its name finds. -/
lemma mem_entries_iff (m : OrderedMap β) (name : String) (value : β) :
    (name, value) ∈ m.entries ↔ m.get? name = some value :=
  mem_entries_iff_find? m.nodup name value

/-- A map has the names under which it has a value. -/
lemma mem_names_iff (m : OrderedMap β) (name : String) :
    name ∈ m.names ↔ ∃ value, m.get? name = some value := by
  simp only [names, entryNames, List.mem_map, ← mem_entries_iff]
  constructor
  · rintro ⟨entry, hmem, rfl⟩
    exact ⟨entry.2, hmem⟩
  · rintro ⟨value, hmem⟩
    exact ⟨(name, value), hmem, rfl⟩

/-- A map does not have a name under which it has no value. -/
lemma not_mem_names_of_get?_eq_none {m : OrderedMap β} {name : String} (h : m.get? name = none) :
    name ∉ m.names := by
  intro hmem
  obtain ⟨value, hvalue⟩ := (m.mem_names_iff name).mp hmem
  rw [h] at hvalue
  cases hvalue

/-- An insertion under a new name stands at the end. -/
lemma entries_insert_new {m : OrderedMap β} {name : String} (h : m.get? name = none) (value : β) :
    (m.insert name value).entries = m.entries ++ [(name, value)] :=
  putEntry_new (not_mem_names_of_get?_eq_none h)

/-- The map after a list of insertions. -/
def putAll (m : OrderedMap β) (entries : List (String × β)) : OrderedMap β :=
  entries.foldl (fun m entry => m.insert entry.1 entry.2) m

/-- Insertions after others are insertions into the map that those made. -/
lemma ofList_append (front back : List (String × β)) :
    ofList (front ++ back) = (ofList front).putAll back :=
  List.foldl_append

/-- Insertions under other names leave a look-up as it is. -/
lemma get?_putAll_of_not_mem {entries : List (String × β)} {name : String}
    (h : name ∉ entryNames entries) (m : OrderedMap β) :
    (m.putAll entries).get? name = m.get? name := by
  induction entries generalizing m with
  | nil => rfl
  | cons entry rest ih =>
    obtain ⟨hne, hrest⟩ := not_or.mp (mt List.mem_cons.mpr h)
    rw [putAll, List.foldl_cons, ← putAll, ih hrest, get?_insert, if_neg hne]

/-- Insertions under new names stand at the end, in their order. -/
lemma entries_putAll (entries : List (String × β)) (m : OrderedMap β)
    (nd : (entryNames (m.entries ++ entries)).Nodup) :
    (m.putAll entries).entries = m.entries ++ entries := by
  induction entries generalizing m with
  | nil => exact (List.append_nil _).symm
  | cons entry rest ih =>
    have hnew : entry.1 ∉ entryNames m.entries := by
      simp only [entryNames, List.map_append, List.map_cons, List.nodup_append] at nd
      intro hmem
      exact nd.2.2 _ hmem _ List.mem_cons_self rfl
    have hentries : (m.insert entry.1 entry.2).entries = m.entries ++ [entry] := putEntry_new hnew
    rw [putAll, List.foldl_cons, ← putAll, ih, hentries, List.append_assoc, List.singleton_append]
    rw [hentries, List.append_assoc, List.singleton_append]
    exact nd

/-- Over a map of which nothing is read, insertions under distinct names read what they insert. -/
theorem filterMap_putAll {γ : Type} {f : String × β → Option γ} {m : OrderedMap β}
    (hm : ∀ name ∈ m.names, ∀ value, f (name, value) = none) {entries : List (String × β)}
    (nd : (entryNames entries).Nodup) :
    (m.putAll entries).entries.filterMap f = entries.filterMap f := by
  induction entries using List.reverseRecOn with
  | nil =>
    refine List.filterMap_eq_nil_iff.mpr fun entry hmem => ?_
    exact hm entry.1 (List.mem_map_of_mem hmem) entry.2
  | append_singleton entries entry ih =>
    rw [entryNames, List.map_append, List.nodup_append] at nd
    obtain ⟨nd, -, hnew⟩ := nd
    have hnew : entry.1 ∉ entryNames entries :=
      fun hmem => hnew _ hmem _ (List.mem_singleton_self _) rfl
    have hlast : m.putAll (entries ++ [entry]) = (m.putAll entries).insert entry.1 entry.2 :=
      List.foldl_append
    rw [hlast, List.filterMap_append, ← ih nd]
    cases hget : m.get? entry.1 with
    | some value =>
      -- an entry of the map is replaced, and it is not read
      have hidle := hm entry.1 ((m.mem_names_iff _).mpr ⟨value, hget⟩)
      rw [List.filterMap_cons_none (hidle entry.2), List.filterMap_nil, List.append_nil]
      exact filterMap_putEntry hidle entry.2 _
    | none =>
      have habsent : (m.putAll entries).get? entry.1 = none := by
        rw [get?_putAll_of_not_mem hnew, hget]
      rw [entries_insert_new habsent, List.filterMap_append]

/-- The map of entries with distinct names has these entries. -/
theorem entries_ofList {entries : List (String × β)} (nd : (entryNames entries).Nodup) :
    (ofList entries).entries = entries :=
  entries_putAll entries empty nd

end OrderedMap

namespace SortedMap

variable {β : Type}

/-- Names that ascend stand once. -/
lemma nodup_of_ascend {entries : List (String × β)} (h : NamesAscend entries) :
    (entryNames entries).Nodup := by
  refine List.pairwise_map.mpr (h.imp ?_)
  intro a b hlt e
  exact String.lt_irrefl _ (e ▸ hlt)

/-- An entry of a map is what the look-up of its name finds. -/
lemma mem_entries_iff (m : SortedMap β) (name : String) (value : β) :
    (name, value) ∈ m.entries ↔ m.get? name = some value :=
  mem_entries_iff_find? (nodup_of_ascend m.sorted) name value

/-- A sorted map has the names under which it has a value. -/
lemma mem_names_iff (m : SortedMap β) (name : String) :
    name ∈ m.names ↔ ∃ value, m.get? name = some value := by
  simp only [names, List.mem_map, ← mem_entries_iff]
  constructor
  · rintro ⟨entry, hmem, rfl⟩
    exact ⟨entry.2, hmem⟩
  · rintro ⟨value, hmem⟩
    exact ⟨(name, value), hmem, rfl⟩

/-- Maps in which every look-up finds the same are the same. -/
theorem eq_of_get? {a b : SortedMap β} (h : ∀ name, a.get? name = b.get? name) : a = b := by
  have hmem : ∀ entry, entry ∈ a.entries ↔ entry ∈ b.entries := by
    rintro ⟨name, value⟩
    rw [mem_entries_iff, mem_entries_iff, h]
  have hnodup : ∀ m : SortedMap β, m.entries.Nodup := by
    intro m
    refine m.sorted.imp ?_
    rintro first _ hlt rfl
    exact String.lt_irrefl first.1 hlt
  have hperm : a.entries.Perm b.entries :=
    (List.perm_ext_iff_of_nodup (hnodup a) (hnodup b)).mpr hmem
  refine SortedMap.ext (hperm.eq_of_pairwise ?_ a.sorted b.sorted)
  intro first second _ _ hlt hgt
  exact absurd (String.lt_trans hlt hgt) (String.lt_irrefl _)

/-- The empty map has no values. -/
lemma get?_empty (name : String) : (empty : SortedMap β).get? name = none := rfl

/-- The map with a function applied to every value. -/
def map {γ : Type} (f : β → γ) (m : SortedMap β) : SortedMap γ where
  entries := m.entries.map fun entry => (entry.1, f entry.2)
  sorted := by
    rw [NamesAscend, List.pairwise_map]
    exact m.sorted

/-- A map of values is looked up as the map that it is made of. -/
lemma get?_map {γ : Type} (f : β → γ) (m : SortedMap β) (name : String) :
    (m.map f).get? name = (m.get? name).map f := by
  rw [get?, get?, map, List.find?_map, Option.map_map, Option.map_map]
  rfl

/-- Insertions in the order of ascending names: the last one under a name is the only one. -/
lemma get?_foldl_insert (entries : List (String × β)) (sorted : NamesAscend entries)
    (m : SortedMap β) (name : String) :
    (entries.foldl (fun m entry => m.insert entry.1 entry.2) m).get? name =
      ((entries.find? (·.1 = name)).map (·.2)).or (m.get? name) := by
  induction entries generalizing m with
  | nil => rfl
  | cons entry rest ih =>
    obtain ⟨hfirst, hrest⟩ := List.pairwise_cons.mp sorted
    rw [List.foldl_cons, ih hrest, get?_insert]
    by_cases hname : entry.1 = name
    · -- no later entry has the name of the first one
      have hnone : rest.find? (·.1 = name) = none := by
        rw [List.find?_eq_none]
        intro other hother
        have hlt := hfirst other hother
        simp only [decide_eq_true_eq]
        intro e
        exact String.lt_irrefl _ (hname ▸ e ▸ hlt)
      simp [hname, hnone]
    · have hne : name ≠ entry.1 := fun e => hname e.symm
      simp [hname, hne]

/-- Where the other map has an entry it decides, elsewhere the map under it. -/
theorem get?_insertAll (m other : SortedMap β) (name : String) :
    (m.insertAll other).get? name = (other.get? name).or (m.get? name) :=
  get?_foldl_insert other.entries other.sorted m name

/-- What a map has after the insertion of another one comes from one of the two. -/
lemma mem_insertAll {m other : SortedMap β} {entry : String × β}
    (h : entry ∈ (m.insertAll other).entries) : entry ∈ m.entries ∨ entry ∈ other.entries := by
  obtain ⟨name, value⟩ := entry
  rw [mem_entries_iff, get?_insertAll] at h
  rw [mem_entries_iff, mem_entries_iff]
  cases hother : other.get? name with
  | none =>
    rw [hother, Option.none_or] at h
    exact .inl h
  | some replaced =>
    rw [hother, Option.some_or] at h
    exact .inr h

end SortedMap

end PagedListing
