import CatalogQuery.Dictionary
import Mathlib.Data.List.Induction
import Mathlib.Data.List.Nodup

/-! # What a dictionary holds

A sorted dictionary is determined by the values that its names have (`Sorted.ext`). The dictionary of
a list of entries gives each name the value of its last entry (`get?_ofList`), which is the value of
its only entry where no name comes twice.
-/

namespace CatalogQuery.Dictionary

variable {α : Type} {name : String} {value : α} {entries others : List (String × α)}

/-! ## Looking up a name -/

theorem get?_eq_none_iff : get? name entries = none ↔ name ∉ entries.map Prod.fst := by
  rw [← isSome_get?_iff, Bool.not_eq_true, Option.isSome_eq_false_iff, Option.isNone_iff_eq_none]

theorem get?_append :
    get? name (entries ++ others) = (get? name entries).or (get? name others) := by
  induction entries with
  | nil => rfl
  | cons head rest ih =>
    obtain ⟨other, old⟩ := head
    by_cases same : name = other
    · simp [get?, same]
    · simp [get?, same, ih]

theorem get?_eq_some_iff : get? name entries = some value ↔
    ∃ before after, entries = before ++ (name, value) :: after ∧ name ∉ before.map Prod.fst := by
  constructor
  · intro found
    induction entries with
    | nil => simp [get?] at found
    | cons head rest ih =>
      obtain ⟨other, old⟩ := head
      by_cases same : name = other
      · simp only [get?, same, if_true, Option.some.injEq] at found
        subst same found
        exact ⟨[], rest, rfl, by simp⟩
      · simp only [get?, same, if_false] at found
        obtain ⟨before, after, rfl, absent⟩ := ih found
        exact ⟨(other, old) :: before, after, rfl, by simp [same, absent]⟩
  · rintro ⟨before, after, rfl, absent⟩
    rw [get?_append, get?_eq_none_iff.mpr absent]
    simp [get?]

theorem get?_reverse_eq_some_iff : get? name entries.reverse = some value ↔
    ∃ before after, entries = before ++ (name, value) :: after ∧ name ∉ after.map Prod.fst := by
  rw [get?_eq_some_iff]
  constructor
  · rintro ⟨behind, front, split, absent⟩
    refine ⟨front.reverse, behind.reverse, ?_, by simpa using absent⟩
    rw [← List.reverse_reverse entries, split]
    simp
  · rintro ⟨before, after, rfl, absent⟩
    exact ⟨after.reverse, before.reverse, by simp, by simpa using absent⟩

theorem get?_filter (name : String) (entries : List (String × α)) :
    get? name (entries.filter fun e => e.1 = name) = get? name entries := by
  induction entries with
  | nil => rfl
  | cons head rest ih =>
    obtain ⟨other, old⟩ := head
    by_cases same : other = name
    · simp [get?, same]
    · simp [get?, same, Ne.symm same, ih]

theorem get?_eq_some_iff_mem (distinct : (entries.map Prod.fst).Nodup) :
    get? name entries = some value ↔ (name, value) ∈ entries := by
  rw [get?_eq_some_iff]
  constructor
  · rintro ⟨before, after, rfl, -⟩
    simp
  · intro member
    obtain ⟨before, after, rfl⟩ := List.append_of_mem member
    refine ⟨before, after, rfl, fun twice => ?_⟩
    rw [List.map_append, List.map_cons, List.nodup_append] at distinct
    exact distinct.2.2 name twice name List.mem_cons_self rfl

/-! ## Sorted dictionaries -/

theorem Sorted.names (sorted : Sorted entries) : (entries.map Prod.fst).Pairwise (· < ·) :=
  List.pairwise_map.mpr sorted

theorem Sorted.distinct (sorted : Sorted entries) : (entries.map Prod.fst).Nodup :=
  sorted.names.imp fun less => Std.ne_of_lt less

theorem Sorted.of_split {before after : List (String × α)} {e : String × α}
    (sorted : Sorted (before ++ e :: after)) :
    (∀ other ∈ before, other.1 < e.1) ∧ ∀ other ∈ after, e.1 < other.1 := by
  obtain ⟨-, behind, across⟩ := List.pairwise_append.mp sorted
  exact ⟨fun other front => across other front e List.mem_cons_self,
    (List.pairwise_cons.mp behind).1⟩

theorem Sorted.eq_of_mem_iff (sorted : Sorted entries) (otherSorted : Sorted others)
    (same : ∀ e, e ∈ entries ↔ e ∈ others) : entries = others := by
  have perm := (List.perm_ext_iff_of_nodup (List.Nodup.of_map _ sorted.distinct)
    (List.Nodup.of_map _ otherSorted.distinct)).mpr same
  refine perm.eq_of_pairwise (fun a b _ _ less greater => ?_) sorted otherSorted
  exact absurd (String.lt_trans less greater) (Std.lt_irrefl)

theorem Sorted.ext (sorted : Sorted entries) (otherSorted : Sorted others)
    (same : ∀ name, get? name entries = get? name others) : entries = others := by
  apply sorted.eq_of_mem_iff otherSorted
  rintro ⟨name, value⟩
  rw [← get?_eq_some_iff_mem sorted.distinct, ← get?_eq_some_iff_mem otherSorted.distinct, same]

/-! ## The dictionary of a list of entries -/

theorem ofList_append_singleton :
    ofList (entries ++ [(name, value)]) = insert name value (ofList entries) := by
  simp [ofList]

theorem sorted_ofList (entries : List (String × α)) : Sorted (ofList entries) := by
  induction entries using List.reverseRecOn with
  | nil => exact List.Pairwise.nil
  | append_singleton entries last ih =>
    rw [ofList_append_singleton]
    exact sorted_insert ih

theorem get?_ofList (name : String) (entries : List (String × α)) :
    get? name (ofList entries) = get? name entries.reverse := by
  induction entries using List.reverseRecOn with
  | nil => rfl
  | append_singleton entries last ih =>
    rw [ofList_append_singleton, get?_insert, ih, List.reverse_append]
    rfl

theorem ofList_congr (same : ∀ name, get? name entries.reverse = get? name others.reverse) :
    ofList entries = ofList others := by
  apply (sorted_ofList entries).ext (sorted_ofList others)
  intro name
  rw [get?_ofList, get?_ofList, same]

theorem mem_ofList_iff (distinct : (entries.map Prod.fst).Nodup) {e : String × α} :
    e ∈ ofList entries ↔ e ∈ entries := by
  have backwards : (entries.reverse.map Prod.fst).Nodup := by
    rwa [List.map_reverse, List.nodup_reverse]
  obtain ⟨name, value⟩ := e
  rw [← get?_eq_some_iff_mem (sorted_ofList entries).distinct, get?_ofList,
    get?_eq_some_iff_mem backwards, List.mem_reverse]

theorem Sorted.ofList_eq (sorted : Sorted entries) : ofList entries = entries :=
  (sorted_ofList entries).eq_of_mem_iff sorted fun _ => mem_ofList_iff sorted.distinct

theorem ofList_eq_of_perm (distinct : (entries.map Prod.fst).Nodup) (perm : entries.Perm others) :
    ofList entries = ofList others := by
  have otherDistinct := (perm.map Prod.fst).nodup_iff.mp distinct
  apply (sorted_ofList entries).eq_of_mem_iff (sorted_ofList others)
  intro e
  rw [mem_ofList_iff distinct, mem_ofList_iff otherDistinct, perm.mem_iff]

end CatalogQuery.Dictionary
