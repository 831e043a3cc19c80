import CryptoDeal.OrderSession.SessionRun

/-!
# The list of entries

Ids are distinct and below the next one to be issued, and the list is sorted
whenever a handler is done. So a handler's write changes what is found under its
own id and nothing else.
-/

namespace CryptoDeal.OrderSession

open DealService

@[simp] theorem stamp_id (publication : Publication) (now : ℤ) (entry : Entry) :
    (publication.stamp now entry).id = entry.id := by
  cases publication <;> rfl

/-! ## The order of the list -/

theorem newer_first_iff {left right : Entry} : newerFirst left right = true ↔
    right.updatedAtMs < left.updatedAtMs ∨
      (left.updatedAtMs = right.updatedAtMs ∧ right.id < left.id) := by
  unfold newerFirst
  by_cases same : left.updatedAtMs = right.updatedAtMs
  · simp [same]
  · simp [same]

theorem newer_first_asymmetric (left right : Entry) (newer : newerFirst left right = true) :
    newerFirst right left = false := by
  rw [Bool.eq_false_iff, ne_eq, newer_first_iff]
  rcases newer_first_iff.1 newer with later | ⟨same, larger⟩
  · rintro (earlier | ⟨equal, _⟩)
    · exact lt_asymm later earlier
    · exact absurd equal (ne_of_lt later)
  · rintro (earlier | ⟨_, smaller⟩)
    · exact absurd same (ne_of_gt earlier).symm
    · exact lt_asymm larger smaller

theorem newer_first_transitive (left middle right : Entry)
    (first : newerFirst middle left = false) (second : newerFirst right middle = false) :
    newerFirst right left = false := by
  rw [Bool.eq_false_iff, ne_eq, newer_first_iff, not_or, not_and, not_lt] at first second ⊢
  refine ⟨first.1.trans' second.1, ?_⟩
  intro same
  have middleLeft : middle.updatedAtMs = left.updatedAtMs :=
    le_antisymm first.1 (same ▸ second.1)
  have rightMiddle : right.updatedAtMs = middle.updatedAtMs := same.trans middleLeft.symm
  exact not_lt.2 ((not_lt.1 (second.2 rightMiddle)).trans (not_lt.1 (first.2 middleLeft)))

theorem newer_first_total (left right : Entry) (other : left.id ≠ right.id) :
    newerFirst left right = true ∨ newerFirst right left = true := by
  rw [newer_first_iff, newer_first_iff]
  rcases lt_trichotomy left.updatedAtMs right.updatedAtMs with earlier | same | later
  · exact .inr (.inl earlier)
  · rcases lt_or_gt_of_ne other with smaller | larger
    · exact .inr (.inr ⟨same.symm, smaller⟩)
    · exact .inl (.inr ⟨same, larger⟩)
  · exact .inl (.inl later)

theorem sort_entries_sorted {entries : List Entry} (distinct : (entries.map Entry.id).Nodup) :
    (sortEntries entries).Pairwise fun left right => newerFirst left right = true :=
  KeyedRows.pairwise_sort newer_first_asymmetric newer_first_transitive newer_first_total distinct

namespace OrderSessionModel

structure Indexed (session : OrderSessionModel) : Prop where
  distinct : (session.entries.map Entry.id).Nodup
  issued : ∀ entry ∈ session.entries, entry.id < session.nextEntryId
  sorted : session.entries.Pairwise fun left right => newerFirst left right = true

variable {session : OrderSessionModel} {entryId : EntryId} {entry : Entry}

theorem Indexed.initially (clock : ℕ → ℤ) : Indexed { clock } where
  distinct := List.nodup_nil
  issued := by
    intro entry present
    cases present
  sorted := List.Pairwise.nil

theorem find_entry_mem (found : session.findEntry entryId = some entry) :
    entry ∈ session.entries :=
  KeyedRows.find_mem found

theorem find_entry_id (found : session.findEntry entryId = some entry) : entry.id = entryId :=
  KeyedRows.find_key found

theorem Indexed.find_of_mem (indexed : session.Indexed) (present : entry ∈ session.entries) :
    session.findEntry entry.id = some entry :=
  KeyedRows.find_of_mem indexed.distinct present

theorem Indexed.find_next (indexed : session.Indexed) :
    session.findEntry session.nextEntryId = none := by
  apply KeyedRows.find_eq_none_iff.2
  intro entry present
  exact Nat.ne_of_lt (indexed.issued entry present)

theorem Indexed.issued_of_find (indexed : session.Indexed)
    (found : session.findEntry entryId = some entry) : entryId < session.nextEntryId := by
  rw [← find_entry_id found]
  exact indexed.issued entry (find_entry_mem found)

/-- Being indexed is about the entries and the next id only. -/
theorem Indexed.frame (indexed : session.Indexed) {states : EntryId × TaskPart → UiTaskState}
    {clock : ℕ → ℤ} {stopping : Bool} {tasks : List SessionTask} {queuedCalls : List QueuedCall} :
    Indexed { session with entryTaskStates := states, clock, stopping, tasks, queuedCalls } :=
  ⟨indexed.distinct, indexed.issued, indexed.sorted⟩

/-! ## Publishing -/

section Publish

variable {publication : Publication} {changed : Entry}

theorem publish_ids :
    ((session.publish publication changed).entries.map Entry.id).Perm
      (session.entries.map Entry.id) := by
  have rows : (KeyedRows.write Entry.id (publication.stamp (session.clock 0) changed)
      session.entries).map Entry.id = session.entries.map Entry.id := KeyedRows.map_key_write
  rw [← rows]
  exact KeyedRows.sort_perm.map Entry.id

theorem Indexed.publish (indexed : session.Indexed) :
    (session.publish publication changed).Indexed where
  distinct := publish_ids.nodup_iff.2 indexed.distinct
  issued := by
    intro entry present
    have known : entry.id ∈ session.entries.map Entry.id :=
      publish_ids.mem_iff.1 (List.mem_map_of_mem present)
    obtain ⟨old, oldPresent, same⟩ := List.mem_map.1 known
    rw [← same]
    exact indexed.issued old oldPresent
  sorted := by
    apply sort_entries_sorted
    rw [KeyedRows.map_key_write]
    exact indexed.distinct

theorem Indexed.find_publish (indexed : session.Indexed) (entryId : EntryId) :
    (session.publish publication changed).findEntry entryId =
      if changed.id = entryId then
        (session.findEntry entryId).map fun _ => publication.stamp (session.clock 0) changed
      else session.findEntry entryId := by
  have distinct : ((KeyedRows.write Entry.id (publication.stamp (session.clock 0) changed)
      session.entries).map Entry.id).Nodup := by
    rw [KeyedRows.map_key_write]
    exact indexed.distinct
  have sorted : (session.publish publication changed).findEntry entryId =
      KeyedRows.find Entry.id entryId (KeyedRows.write Entry.id
        (publication.stamp (session.clock 0) changed) session.entries) :=
    KeyedRows.find_sort distinct
  rw [sorted, KeyedRows.find_write, stamp_id]
  rfl

end Publish

end OrderSessionModel

/-! ## Reactions -/

namespace Reaction

/-- Handlers never write an entry's id. -/
def KeepsId (reaction : Reaction) : Prop :=
  ∀ entry, ∀ written ∈ reaction entry, written.1.id = entry.id

/-- The entry after the reaction to it was published. -/
def run (reaction : Reaction) (now : ℤ) (entry : Entry) : Entry :=
  match reaction entry with
  | none => entry
  | some (changed, publication) => publication.stamp now changed

variable {reaction : Reaction} {now : ℤ} {entry : Entry}

theorem run_none (silent : reaction entry = none) : reaction.run now entry = entry := by
  rw [run, silent]

theorem run_some {changed : Entry} {publication : Publication}
    (reacted : reaction entry = some (changed, publication)) :
    reaction.run now entry = publication.stamp now changed := by
  rw [run, reacted]

end Reaction

namespace OrderSessionModel

variable {session : OrderSessionModel} {entryId other : EntryId} {entry : Entry}
  {reaction : Reaction}

theorem Indexed.update_entry (indexed : session.Indexed) :
    (session.updateEntry entryId reaction).Indexed := by
  unfold updateEntry
  split
  · exact indexed
  · exact indexed.publish

theorem Indexed.find_update_entry (indexed : session.Indexed) (keeps : reaction.KeepsId) :
    (session.updateEntry entryId reaction).findEntry other =
      if other = entryId then (session.findEntry entryId).map (reaction.run (session.clock 0))
      else session.findEntry other := by
  unfold updateEntry
  cases found : session.findEntry entryId with
  | none =>
      simp only [Option.bind_none, Option.map_none]
      split_ifs with same
      · rw [same, found]
      · rfl
  | some entry =>
      simp only [Option.bind_some, Option.map_some]
      cases reacted : reaction entry with
      | none =>
          rw [Reaction.run_none reacted]
          split_ifs with same
          · rw [same, found]
          · rfl
      | some written =>
          obtain ⟨changed, publication⟩ := written
          have sameId : changed.id = entryId :=
            (keeps entry (changed, publication) reacted).trans (find_entry_id found)
          simp only [indexed.find_publish, sameId, Reaction.run_some reacted]
          by_cases same : other = entryId
          · rw [if_pos same, if_pos same.symm, same, found]
            rfl
          · rw [if_neg same, if_neg (Ne.symm same)]

theorem Indexed.find_updated (indexed : session.Indexed) (keeps : reaction.KeepsId)
    (found : session.findEntry entryId = some entry) :
    (session.updateEntry entryId reaction).findEntry entryId =
      some (reaction.run (session.clock 0) entry) := by
  rw [indexed.find_update_entry keeps, if_pos rfl, found]
  rfl

theorem Indexed.find_not_updated (indexed : session.Indexed) (keeps : reaction.KeepsId)
    (apart : other ≠ entryId) :
    (session.updateEntry entryId reaction).findEntry other = session.findEntry other := by
  rw [indexed.find_update_entry keeps, if_neg apart]

/-- A handler writes entries only. -/
theorem update_entry_frame (session : OrderSessionModel) (entryId : EntryId)
    (reaction : Reaction) :
    (session.updateEntry entryId reaction).tasks = session.tasks ∧
      (session.updateEntry entryId reaction).stopping = session.stopping ∧
      (session.updateEntry entryId reaction).nextEntryId = session.nextEntryId ∧
      (session.updateEntry entryId reaction).queuedCalls = session.queuedCalls := by
  unfold updateEntry
  split <;> exact ⟨rfl, rfl, rfl, rfl⟩

@[simp] theorem update_entry_tasks :
    (session.updateEntry entryId reaction).tasks = session.tasks :=
  (update_entry_frame session entryId reaction).1

@[simp] theorem update_entry_stopping :
    (session.updateEntry entryId reaction).stopping = session.stopping :=
  (update_entry_frame session entryId reaction).2.1

@[simp] theorem update_entry_next :
    (session.updateEntry entryId reaction).nextEntryId = session.nextEntryId :=
  (update_entry_frame session entryId reaction).2.2.1

/-! ## One reaction for each of several entries -/

section Several

variable {Item : Type} {idOf : Item → EntryId} {reactionOf : Item → Reaction}

def updateEntries (idOf : Item → EntryId) (reactionOf : Item → Reaction)
    (session : OrderSessionModel) (items : List Item) : OrderSessionModel :=
  items.foldl (fun session item => session.updateEntry (idOf item) (reactionOf item)) session

theorem update_entries_cons (item : Item) (items : List Item) :
    session.updateEntries idOf reactionOf (item :: items) =
      (session.updateEntry (idOf item) (reactionOf item)).updateEntries idOf reactionOf items :=
  rfl

theorem update_entries_frame (session : OrderSessionModel) (items : List Item) :
    (session.updateEntries idOf reactionOf items).tasks = session.tasks ∧
      (session.updateEntries idOf reactionOf items).stopping = session.stopping ∧
      (session.updateEntries idOf reactionOf items).nextEntryId = session.nextEntryId := by
  induction items generalizing session with
  | nil => exact ⟨rfl, rfl, rfl⟩
  | cons item items ih =>
      rw [update_entries_cons]
      have rest := ih (session.updateEntry (idOf item) (reactionOf item))
      simpa using rest

theorem Indexed.update_entries (indexed : session.Indexed) (items : List Item) :
    (session.updateEntries idOf reactionOf items).Indexed := by
  induction items generalizing session with
  | nil => exact indexed
  | cons item items ih => exact ih indexed.update_entry

theorem Indexed.find_beside_updates (indexed : session.Indexed)
    (keeps : ∀ item, (reactionOf item).KeepsId) (items : List Item)
    (apart : ∀ item ∈ items, idOf item ≠ other) :
    (session.updateEntries idOf reactionOf items).findEntry other = session.findEntry other := by
  induction items generalizing session with
  | nil => rfl
  | cons item items ih =>
      rw [update_entries_cons, ih indexed.update_entry
        fun later member => apart later (List.mem_cons_of_mem item member)]
      exact indexed.find_not_updated (keeps item) (apart item List.mem_cons_self).symm

/-- With distinct ids each entry meets its own reaction, on the entry as it was. -/
theorem Indexed.find_among_updates (indexed : session.Indexed)
    (keeps : ∀ item, (reactionOf item).KeepsId) {items : List Item}
    (distinct : (items.map idOf).Nodup) {item : Item} (member : item ∈ items)
    (found : session.findEntry (idOf item) = some entry) :
    ∃ now, (session.updateEntries idOf reactionOf items).findEntry (idOf item) =
      some ((reactionOf item).run now entry) := by
  induction items generalizing session with
  | nil => cases member
  | cons first rest ih =>
      rw [List.map_cons, List.nodup_cons] at distinct
      rw [update_entries_cons]
      rcases List.mem_cons.1 member with rfl | later
      · refine ⟨session.clock 0, ?_⟩
        rw [indexed.update_entry.find_beside_updates keeps rest]
        · exact indexed.find_updated (keeps item) found
        · intro other present same
          exact distinct.1 (List.mem_map.2 ⟨other, present, same⟩)
      · apply ih indexed.update_entry distinct.2 later
        rw [indexed.find_not_updated (keeps first)]
        · exact found
        · intro same
          exact distinct.1 (List.mem_map.2 ⟨item, later, same⟩)

end Several

/-! ## New entries -/

section Create

variable {draft : EntryDraft}

/-- The entry that `createEntry` adds, as it is published. -/
def createdEntry (session : OrderSessionModel) (draft : EntryDraft) : Entry where
  id := session.nextEntryId
  draft
  createdAtMs := session.clock 0
  updatedAtMs := session.clock 1
  revision := 1

/-- The session between `push_back` and `publishEntryChange`. -/
def withEntry (session : OrderSessionModel) (draft : EntryDraft) : OrderSessionModel :=
  { session with
    entries := session.entries ++ [{ session.createdEntry draft with
      updatedAtMs := session.clock 0, revision := 0 }]
    nextEntryId := session.nextEntryId + 1
    clock := fun reading => session.clock (reading + 1) }

theorem Indexed.distinct_with_entry (indexed : session.Indexed) :
    ((session.withEntry draft).entries.map Entry.id).Nodup := by
  rw [withEntry, List.map_append, List.nodup_append]
  refine ⟨indexed.distinct, List.nodup_singleton _, ?_⟩
  intro known member new added
  obtain ⟨entry, present, rfl⟩ := List.mem_map.1 member
  rw [List.map_singleton, List.mem_singleton] at added
  rw [added]
  exact Nat.ne_of_lt (indexed.issued entry present)

theorem Indexed.create_entry (indexed : session.Indexed) :
    (session.createEntry draft).Indexed := by
  have ids : ((session.createEntry draft).entries.map Entry.id).Perm
      ((session.withEntry draft).entries.map Entry.id) := publish_ids
  constructor
  · exact ids.nodup_iff.2 indexed.distinct_with_entry
  · intro entry present
    obtain ⟨old, oldPresent, same⟩ := List.mem_map.1 (ids.mem_iff.1 (List.mem_map_of_mem present))
    rw [← same]
    rcases List.mem_append.1 oldPresent with earlier | added
    · exact Nat.lt_succ_of_lt (indexed.issued old earlier)
    · rw [List.mem_singleton.1 added]
      exact Nat.lt_succ_self _
  · apply sort_entries_sorted
    rw [KeyedRows.map_key_write]
    exact indexed.distinct_with_entry

theorem Indexed.find_create_entry (indexed : session.Indexed) (entryId : EntryId) :
    (session.createEntry draft).findEntry entryId =
      if entryId = session.nextEntryId then some (session.createdEntry draft)
      else session.findEntry entryId := by
  have written : (session.createEntry draft).findEntry entryId =
      KeyedRows.find Entry.id entryId (KeyedRows.write Entry.id (session.createdEntry draft)
        (session.withEntry draft).entries) := by
    apply KeyedRows.find_sort
    rw [KeyedRows.map_key_write]
    exact indexed.distinct_with_entry
  rw [written, KeyedRows.find_write]
  by_cases same : entryId = session.nextEntryId
  · rw [if_pos same, if_pos (by rw [same]; rfl), same]
    let pushed : Entry :=
      { session.createdEntry draft with updatedAtMs := session.clock 0, revision := 0 }
    have fresh : KeyedRows.find Entry.id pushed.id session.entries = none := indexed.find_next
    have added : KeyedRows.find Entry.id session.nextEntryId (session.withEntry draft).entries =
        some pushed := KeyedRows.find_append_new fresh
    rw [added]
    rfl
  · have other : (session.createdEntry draft).id ≠ entryId := fun equal => same equal.symm
    rw [if_neg same, if_neg other]
    exact KeyedRows.find_append_of_ne other

end Create

end OrderSessionModel

end CryptoDeal.OrderSession
