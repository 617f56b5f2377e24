import Mathlib.Data.List.Basic
import PluginHost.Json.Value

/-!
The order of members. Objects hold their members in ascending order of keys,
each key once: what is put among them goes to its place, so every value that is
read from a text has sorted keys throughout.
-/
namespace PluginHost.Json

variable {α : Type} {key other : String} {value : α} {members : List (String × α)}
  {m : String × α} {json : Json}

/-- Members in ascending order of their keys. -/
def Ascending (members : List (String × α)) : Prop :=
  (members.map Prod.fst).Pairwise (· < ·)

theorem mem_put (h : m ∈ put key value members) : m = (key, value) ∨ m ∈ members := by
  induction members with
  | nil => exact .inl (List.mem_singleton.mp h)
  | cons first rest ih =>
      obtain ⟨k, v⟩ := first
      unfold put at h
      split at h
      · exact List.mem_cons.mp h
      · split at h
        · exact (List.mem_cons.mp h).imp_right (List.mem_cons_of_mem _)
        · rcases List.mem_cons.mp h with rfl | hrest
          · exact .inr List.mem_cons_self
          · exact (ih hrest).imp_right (List.mem_cons_of_mem _)

theorem mem_keys_put (h : other ∈ (put key value members).map Prod.fst) :
    other = key ∨ other ∈ members.map Prod.fst := by
  obtain ⟨m, hm, rfl⟩ := List.mem_map.mp h
  exact (mem_put hm).imp (congrArg Prod.fst) fun hold => List.mem_map.mpr ⟨m, hold, rfl⟩

/-- A key is put where it belongs. -/
theorem ascending_put (key : String) (value : α) (h : Ascending members) :
    Ascending (put key value members) := by
  induction members with
  | nil => exact List.pairwise_singleton _ _
  | cons first rest ih =>
      obtain ⟨k, v⟩ := first
      obtain ⟨hfirst, hrest⟩ := List.pairwise_cons.mp h
      unfold put
      split
      · next hbefore =>
          refine List.pairwise_cons.mpr ⟨?_, h⟩
          intro other hother
          rcases List.mem_cons.mp hother with rfl | hbehind
          · exact hbefore
          · exact String.lt_trans hbefore (hfirst other hbehind)
      · next hbehind =>
          split
          · next hkey => exact hkey ▸ h
          · next hother =>
              refine List.pairwise_cons.mpr ⟨?_, ih hrest⟩
              intro other hmem
              rcases mem_keys_put hmem with rfl | hold
              · exact Std.lt_of_le_of_ne (String.not_lt.mp hbehind) (Ne.symm hother)
              · exact hfirst other hold

theorem Ascending.filter (h : Ascending members) (keep : String × α → Bool) :
    Ascending (members.filter keep) :=
  h.sublist (List.filter_sublist.map Prod.fst)

/-- Members of which some are dropped and the others keep their keys stay in order. -/
theorem Ascending.filterMap {β : Type} (h : Ascending members)
    {f : String × α → Option (String × β)} (keys : ∀ m n, f m = some n → n.1 = m.1) :
    Ascending (members.filterMap f) := by
  rw [Ascending, List.pairwise_map] at h ⊢
  refine List.pairwise_filterMap.mpr (h.imp fun hlt n hn n' hn' => ?_)
  rwa [keys _ n hn, keys _ n' hn']

/-- In ascending order a key has one value. -/
theorem Ascending.lookup_eq_some_iff (h : Ascending members) :
    members.lookup key = some value ↔ (key, value) ∈ members := by
  induction members with
  | nil => simp
  | cons first rest ih =>
      obtain ⟨k, v⟩ := first
      obtain ⟨hfirst, hrest⟩ := List.pairwise_cons.mp h
      rw [lookup_cons_eq_ite, List.mem_cons, Prod.mk.injEq]
      split
      · next hkey =>
          subst hkey
          have habsent : (key, value) ∉ rest := fun hmem =>
            absurd (hfirst key (List.mem_map.mpr ⟨_, hmem, rfl⟩)) (String.lt_irrefl key)
          simp [habsent, eq_comm]
      · next hother => simp [hother, ih hrest]

/-! ### Values that are read -/

theorem mem_ordered (h : m ∈ ordered members) : m ∈ members := by
  have hfold : ∀ (rest acc : List (String × α)),
      m ∈ rest.foldl (fun acc m => put m.1 m.2 acc) acc → m ∈ acc ∨ m ∈ rest := by
    intro rest
    induction rest with
    | nil => exact fun acc hacc => .inl hacc
    | cons first rest ih =>
        intro acc hm
        rcases ih _ hm with hput | hrest
        · rcases mem_put hput with rfl | hacc
          · exact .inr List.mem_cons_self
          · exact .inl hacc
        · exact .inr (List.mem_cons_of_mem _ hrest)
  exact (hfold members [] h).resolve_left List.not_mem_nil

theorem ascending_ordered (members : List (String × α)) : Ascending (ordered members) := by
  have hfold : ∀ (rest acc : List (String × α)), Ascending acc →
      Ascending (rest.foldl (fun acc m => put m.1 m.2 acc) acc) := by
    intro rest
    induction rest with
    | nil => exact fun _ hacc => hacc
    | cons first rest ih => exact fun acc hacc => ih _ (ascending_put first.1 first.2 hacc)
  exact hfold members [] List.Pairwise.nil

/-- A value with the members of all objects in it in ascending order. -/
inductive SortedKeys : Json → Prop
  | null : SortedKeys .null
  | bool (value : Bool) : SortedKeys (.bool value)
  | number (value : Number) : SortedKeys (.number value)
  | text (value : String) : SortedKeys (.text value)
  | list {items : List Json} (each : ∀ item ∈ items, SortedKeys item) : SortedKeys (.list items)
  | object {members : List (String × Json)} (ascending : Ascending members)
      (each : ∀ m ∈ members, SortedKeys m.2) : SortedKeys (.object members)

mutual

theorem sortedKeys_of_draft {depth : Nat} {draft : Draft} {json : Json}
    (h : ofDraft? depth draft = some json) : json.SortedKeys := by
  cases draft with
  | null => cases h; exact .null
  | bool b => cases h; exact .bool b
  | number literal =>
      simp only [ofDraft?, Option.bind_eq_bind, Option.bind_eq_some_iff, Option.map_eq_map,
        Option.map_eq_some_iff] at h
      obtain ⟨_, _, n, _, rfl⟩ := h
      exact .number n
  | text raw =>
      obtain ⟨cs, _, rfl⟩ := Option.map_eq_some_iff.mp h
      exact .text _
  | list items =>
      unfold ofDraft? at h
      split at h
      · cases h
      · obtain ⟨values, hvalues, rfl⟩ := Option.map_eq_some_iff.mp h
        exact .list (sortedKeys_of_drafts hvalues)
  | object members =>
      unfold ofDraft? at h
      split at h
      · cases h
      · obtain ⟨values, hvalues, rfl⟩ := Option.map_eq_some_iff.mp h
        exact .object (ascending_ordered values) fun m hm =>
          sortedKeys_of_members hvalues m (mem_ordered hm)

theorem sortedKeys_of_drafts {depth : Nat} {drafts : List Draft} {values : List Json}
    (h : ofDrafts? depth drafts = some values) : ∀ value ∈ values, value.SortedKeys := by
  cases drafts with
  | nil => cases h; exact List.forall_mem_nil _
  | cons draft rest =>
      simp only [ofDrafts?, Option.bind_eq_bind, Option.bind_eq_some_iff, Option.map_eq_map,
        Option.map_eq_some_iff] at h
      obtain ⟨value, hvalue, others, hothers, rfl⟩ := h
      exact List.forall_mem_cons.mpr ⟨sortedKeys_of_draft hvalue, sortedKeys_of_drafts hothers⟩

theorem sortedKeys_of_members {depth : Nat} {drafts : List (List Char × Draft)}
    {members : List (String × Json)} (h : ofMembers? depth drafts = some members) :
    ∀ m ∈ members, m.2.SortedKeys := by
  cases drafts with
  | nil => cases h; exact List.forall_mem_nil _
  | cons draft rest =>
      simp only [ofMembers?, Option.bind_eq_bind, Option.bind_eq_some_iff, Option.map_eq_map,
        Option.map_eq_some_iff] at h
      obtain ⟨_, _, value, hvalue, others, hothers, rfl⟩ := h
      exact List.forall_mem_cons.mpr ⟨sortedKeys_of_draft hvalue, sortedKeys_of_members hothers⟩

end

/-- Every value that is read from a text has its keys sorted, in whatever order they are written. -/
theorem sortedKeys_of_parse {text : String} (h : parse? text = some json) : json.SortedKeys := by
  obtain ⟨draft, _, hdraft⟩ := Option.bind_eq_some_iff.mp h
  exact sortedKeys_of_draft hdraft

end PluginHost.Json
