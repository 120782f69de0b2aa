import OrderHerald.Dict

/-!
# A dictionary has one spelling

Bindings with distinct keys come to the same dictionary in whatever order they are given: putting a
new key at its place moves no binding out of the list and none into it, and ascending lists with the
same bindings are equal.

## Main statements

* `Dict.ofList_of_perm` — the bindings of a dictionary, in any order, come to the dictionary.
-/

namespace OrderHerald

variable {κ α : Type} [LT κ] [DecidableLT κ] [LE κ] [Std.LawfulOrderLT κ] [Std.IsLinearOrder κ]

namespace Ascending

omit [DecidableLT κ] [Std.IsLinearOrder κ] in
/-- Each key of ascending entries stands there once. -/
theorem Ordered.nodup {entries : List (κ × α)} (h : Ordered entries) :
    (entries.map Prod.fst).Nodup := by
  refine List.Pairwise.imp ?_ h
  rintro a b before rfl
  exact Std.lt_irrefl before

/-- **A new key replaces nothing.** -/
theorem perm_insert {key : κ} {value : α} {entries : List (κ × α)}
    (h : key ∉ entries.map Prod.fst) :
    (insert key value entries).Perm ((key, value) :: entries) := by
  induction entries with
  | nil => exact .refl _
  | cons entry rest ih =>
    obtain ⟨k, v⟩ := entry
    rw [List.map_cons, List.mem_cons, not_or] at h
    unfold insert
    split
    · exact .refl _
    · split
      · exact ((ih h.2).cons (k, v)).trans (.swap _ _ _)
      · rename_i notBefore notBehind
        -- Neither before nor behind: the key would not be new.
        have same : key = k := Std.le_antisymm (Std.not_lt.mp notBehind) (Std.not_lt.mp notBefore)
        exact absurd same h.1

/-- Bindings with distinct keys are all kept. -/
theorem perm_ofList {bindings : List (κ × α)} (h : (bindings.map Prod.fst).Nodup) :
    (ofList bindings).Perm bindings := by
  suffices ∀ entries : List (κ × α), (entries ++ bindings).map Prod.fst |>.Nodup →
      (bindings.foldl (fun e b => insert b.1 b.2 e) entries).Perm (entries ++ bindings) from
    this [] h
  induction bindings with
  | nil =>
    intro entries _
    rw [List.append_nil]
    exact .refl _
  | cons binding rest ih =>
    intro entries distinct
    have inserted : (insert binding.1 binding.2 entries).Perm (binding :: entries) := by
      refine perm_insert fun mem => ?_
      rw [List.map_append, List.nodup_append] at distinct
      exact distinct.2.2 _ mem _ List.mem_cons_self rfl
    have moved : (insert binding.1 binding.2 entries ++ rest).Perm (entries ++ binding :: rest) :=
      (inserted.append_right rest).trans List.perm_middle.symm
    have kept : ((insert binding.1 binding.2 entries ++ rest).map Prod.fst).Nodup :=
      (moved.map Prod.fst).nodup_iff.mpr distinct
    have distinctRest : (rest.map Prod.fst).Nodup := (List.nodup_cons.mp h).2
    exact (ih distinctRest _ kept).trans moved

omit [DecidableLT κ] in
/-- **Ascending lists with the same bindings are equal.** -/
theorem Ordered.eq_of_perm {entries others : List (κ × α)} (h : Ordered entries)
    (hothers : Ordered others) (perm : entries.Perm others) : entries = others := by
  refine perm.eq_of_pairwise ?_ (List.pairwise_map.mp h) (List.pairwise_map.mp hothers)
  intro a b _ _ before behind
  exact absurd (Std.lt_trans before behind) Std.lt_irrefl

end Ascending

/-- **The bindings of a dictionary, in any order, come to the dictionary.** -/
theorem Dict.ofList_of_perm {dict : Dict κ α} {bindings : List (κ × α)}
    (h : bindings.Perm dict.entries) : Dict.ofList bindings = dict := by
  have distinct : (bindings.map Prod.fst).Nodup :=
    (h.map Prod.fst).nodup_iff.mpr dict.ordered.nodup
  have same : (Ascending.ofList bindings).Perm dict.entries :=
    (Ascending.perm_ofList distinct).trans h
  exact Dict.ext ((Ascending.ordered_ofList bindings).eq_of_perm dict.ordered same)

end OrderHerald
