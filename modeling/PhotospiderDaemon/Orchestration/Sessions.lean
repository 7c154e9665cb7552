import Mathlib.Algebra.Group.Nat.Defs
import PhotospiderDaemon.Foundation.Interleaving
import PhotospiderDaemon.Orchestration.Basic

/-!
# Session records and the session table

`SessionRecord` and the data that `sessions_mutex` protects, with what each critical section
of `create_session` and `close_session` does to them. As with jobs, a reference is a position
among all records that were ever published.

* `publish_cases`: what the second critical section of a create does.
* `Sound`: identifiers are the positions plus one, and published and pending sessions
  together respect the bound; every operation keeps it.
* `Evolves`: what a thread can do to sessions that another thread is closing.
-/

namespace PhotospiderDaemon.Orchestration

open Foundation Ipc

/-- `SessionRecord`. -/
structure SessionRecord where
  id : SessionId
  graph : WorkflowDocument
  closing : Bool
deriving DecidableEq

/-- The fields that are written once, before the record is published. -/
def SessionRecord.identity (record : SessionRecord) : SessionId × WorkflowDocument :=
  (record.id, record.graph)

/-- A shared record, by its position among all records. -/
abbrev SessionRef := Nat

structure SessionTable where
  records : List SessionRecord
  sessions : OrderedMap UInt64 SessionRef
  pendingSessionCreates : Nat
  nextSessionId : UInt64

/-- How the second critical section of a create leaves. -/
inductive SessionPublication where
  | refused (failure : Failure)
  | published (table : SessionTable) (id : SessionId)
  | terminated

namespace SessionTable

/-- The table of a new service. -/
def initial : SessionTable := ⟨[], OrderedMap.empty, 0, 1⟩

/-- `reserve_while_locked` behind the tests of the first critical section of a create. The
status of a full table has no message. -/
def reserve [Kernel] (settings : Settings) (table : SessionTable) (fails : Fault → Bool) :
    Except Failure SessionTable :=
  let maximumSessions := settings.config.maximumSessions.toNat
  if table.sessions.size ≥ maximumSessions ∨
      table.pendingSessionCreates ≥ maximumSessions - table.sessions.size then
    .error (.status ⟨.resourceExhausted, []⟩)
  else if table.nextSessionId = 0 then
    .error (rejection fails .resourceExhausted "ephemeral namespace id exhausted")
  else .ok { table with pendingSessionCreates := table.pendingSessionCreates + 1 }

/-- Give up one pending slot, as the destructor of a reservation and `commit_while_locked` do.
Without a pending slot they terminate. -/
def dropPending (table : SessionTable) : Option SessionTable :=
  if table.pendingSessionCreates = 0 then none
  else some { table with pendingSessionCreates := table.pendingSessionCreates - 1 }

/-- The record that `create_session` completes under the locks. -/
def newRecord (settings : Settings) (table : SessionTable) (document : WorkflowDocument) :
    SessionRecord :=
  ⟨⟨settings.instanceId, table.nextSessionId⟩, document, false⟩

/-- The second critical section of `create_session`. -/
def publish [Kernel] (settings : Settings) (table : SessionTable) (document : WorkflowDocument)
    (fails : Fault → Bool) : SessionPublication :=
  if table.nextSessionId = 0 then
    .refused (rejection fails .resourceExhausted "ephemeral namespace id exhausted")
  else
    let record := newRecord settings table document
    if fails .insertion then .refused (.raised .badAlloc)
    else
      match table.sessions.emplace record.id.value table.records.length with
      | (_, false) =>
        .refused (rejection fails .internal "ephemeral namespace id was duplicated")
      | (sessions, true) =>
        match dropPending
            { table with records := table.records ++ [record], sessions := sessions } with
        | none => .terminated
        | some table => .published { table with nextSessionId := table.nextSessionId + 1 } record.id

/-- The `closing` flag of a record. -/
def closing (table : SessionTable) (s : SessionRef) : Bool :=
  match table.records[s]? with
  | some record => record.closing
  | none => false

/-- The lookup of `close_session` and `submit`: a closing session does not exist. -/
def findOpen? (table : SessionTable) (instanceId : UInt64) (id : SessionId) : Option SessionRef :=
  if id.instance' ≠ instanceId ∨ id.value = 0 then none
  else
    match table.sessions.find? id.value with
    | none => none
    | some s => if table.closing s then none else some s

def setClosing (table : SessionTable) (s : SessionRef) (closing : Bool) : SessionTable :=
  { table with records := table.records.modify s fun record => { record with closing := closing } }

/-- The rollback of a close whose snapshot failed. -/
def reopen (table : SessionTable) (id : SessionId) (s : SessionRef) : SessionTable :=
  if table.sessions.find? id.value = some s then table.setClosing s false else table

/-- `finalize_session_close`, which terminates if the record is not the one being closed. -/
def finalize (table : SessionTable) (id : SessionId) (s : SessionRef) : Option SessionTable :=
  if table.sessions.find? id.value = some s ∧ table.closing s = true then
    some { table with sessions := table.sessions.erase id.value }
  else none

/-- A record has a property. -/
def At (table : SessionTable) (s : SessionRef) (p : SessionRecord → Prop) : Prop :=
  ∃ record, table.records[s]? = some record ∧ p record

/-! ## What the operations do -/

variable {settings : Settings} {table table' : SessionTable} {s : SessionRef}
  {record : SessionRecord} {id : SessionId}

theorem At.of_some {p : SessionRecord → Prop} (h : table.At s p)
    (hs : table.records[s]? = some record) : p record := by
  obtain ⟨record', hs', hp⟩ := h
  exact Option.some.inj (hs'.symm.trans hs) ▸ hp

theorem closing_eq (hs : table.records[s]? = some record) : table.closing s = record.closing := by
  simp [closing, hs]

theorem records_setClosing (table : SessionTable) (s s' : SessionRef) (closing : Bool) :
    (table.setClosing s closing).records[s']? =
      if s = s' then table.records[s']?.map fun record => { record with closing := closing }
      else table.records[s']? := by
  simp only [setClosing, List.getElem?_modify]
  split <;> simp

@[simp] theorem sessions_setClosing (table : SessionTable) (s : SessionRef) (closing : Bool) :
    (table.setClosing s closing).sessions = table.sessions := rfl

@[simp] theorem pendingSessionCreates_setClosing (table : SessionTable) (s : SessionRef)
    (closing : Bool) :
    (table.setClosing s closing).pendingSessionCreates = table.pendingSessionCreates := rfl

@[simp] theorem identities_setClosing (table : SessionTable) (s : SessionRef) (closing : Bool) :
    (table.setClosing s closing).records.map SessionRecord.identity =
      table.records.map SessionRecord.identity := by
  apply List.ext_getElem?
  intro s'
  rw [List.getElem?_map, List.getElem?_map, records_setClosing]
  split
  · rw [Option.map_map]
    rfl
  · rfl

@[simp] theorem identities_reopen (table : SessionTable) (id : SessionId) (s : SessionRef) :
    (table.reopen id s).records.map SessionRecord.identity =
      table.records.map SessionRecord.identity := by
  unfold reopen
  split
  · exact identities_setClosing _ _ _
  · rfl

theorem ids_eq_of_identities
    (h : table'.records.map SessionRecord.identity = table.records.map SessionRecord.identity) :
    table'.records.map SessionRecord.id = table.records.map SessionRecord.id := by
  have hids := congrArg (List.map Prod.fst) h
  rwa [List.map_map, List.map_map] at hids

theorem closing_setClosing_self (closing : Bool) (hs : table.records[s]? = some record) :
    (table.setClosing s closing).closing s = closing := by
  unfold SessionTable.closing
  rw [records_setClosing, if_pos rfl, hs]
  rfl

theorem closing_setClosing_ne {s' : SessionRef} (closing : Bool) (hne : s ≠ s') :
    (table.setClosing s closing).closing s' = table.closing s' := by
  unfold SessionTable.closing
  rw [records_setClosing, if_neg hne]

@[simp] theorem pendingSessionCreates_reopen (table : SessionTable) (id : SessionId)
    (s : SessionRef) : (table.reopen id s).pendingSessionCreates = table.pendingSessionCreates := by
  unfold reopen
  split <;> rfl

theorem reserve_eq_ok [Kernel] {fails : Fault → Bool}
    (h : table.reserve settings fails = .ok table') :
    table' = { table with pendingSessionCreates := table.pendingSessionCreates + 1 } ∧
      table.sessions.size + (table.pendingSessionCreates + 1) ≤
        settings.config.maximumSessions.toNat := by
  unfold reserve at h
  dsimp only at h
  split at h
  · cases h
  rename_i hcapacity
  split at h
  · cases h
  exact ⟨(Except.ok.inj h).symm, by omega⟩

theorem dropPending_eq_some (h : table.dropPending = some table') :
    table.pendingSessionCreates ≠ 0 ∧
      table' = { table with pendingSessionCreates := table.pendingSessionCreates - 1 } := by
  unfold dropPending at h
  split at h
  · cases h
  · rename_i hpending
    exact ⟨hpending, (Option.some.inj h).symm⟩

theorem findOpen?_eq_some (h : table.findOpen? settings.instanceId id = some s) :
    id.instance' = settings.instanceId ∧ table.sessions.find? id.value = some s ∧
      table.closing s = false := by
  unfold findOpen? at h
  split at h
  · cases h
  · rename_i hid
    rw [not_or, not_not] at hid
    split at h
    · cases h
    · rename_i s' hfind
      split at h
      · cases h
      · rename_i hclosing
        obtain rfl := Option.some.inj h
        exact ⟨hid.1, hfind, by simpa using hclosing⟩

/-- The table after a session has been published. -/
def enroll (table : SessionTable) (record : SessionRecord) : SessionTable where
  records := table.records ++ [record]
  sessions := (table.sessions.emplace record.id.value table.records.length).1
  pendingSessionCreates := table.pendingSessionCreates - 1
  nextSessionId := table.nextSessionId + 1

theorem publish_cases [Kernel] (settings : Settings) (table : SessionTable)
    (document : WorkflowDocument) (fails : Fault → Bool) :
    (∃ failure, table.publish settings document fails = .refused failure) ∨
    table.pendingSessionCreates = 0 ∧ table.publish settings document fails = .terminated ∨
    table.publish settings document fails =
        .published (table.enroll (newRecord settings table document))
          ⟨settings.instanceId, table.nextSessionId⟩ ∧
      table.nextSessionId ≠ 0 ∧ table.sessions.find? table.nextSessionId = none ∧
      table.pendingSessionCreates ≠ 0 := by
  unfold publish newRecord
  split
  · exact Or.inl ⟨_, rfl⟩
  rename_i hnext
  dsimp only
  split
  · exact Or.inl ⟨_, rfl⟩
  cases hfind : table.sessions.find? table.nextSessionId with
  | some other =>
    rw [OrderedMap.emplace_of_find?_some hfind]
    exact Or.inl ⟨_, rfl⟩
  | none =>
    unfold enroll dropPending
    rw [OrderedMap.emplace_of_find?_none _ hfind]
    by_cases hpending : table.pendingSessionCreates = 0
    · simp [hpending]
    · simp [hpending, hnext]

/-! ## The invariant of the table -/

/-- Identifiers are consecutive in the order of publication, the map binds identifiers to
their records, and published and pending sessions fit into the bound. -/
structure Sound (settings : Settings) (table : SessionTable) : Prop where
  issued : ∀ {s : Nat} {record : SessionRecord}, table.records[s]? = some record →
    record.id = ⟨settings.instanceId, UInt64.ofNat (s + 1)⟩
  length_lt : table.records.length < 2 ^ 64
  next : table.nextSessionId = UInt64.ofNat (table.records.length + 1)
  keyed : ∀ {key : UInt64} {s : SessionRef}, table.sessions.find? key = some s →
    table.At s fun record => record.id.value = key
  capacity : table.sessions.size + table.pendingSessionCreates ≤
    settings.config.maximumSessions.toNat

theorem ofNat_succ_inj {n m : Nat} (hn : n < 2 ^ 64 - 1) (hm : m < 2 ^ 64 - 1)
    (h : UInt64.ofNat (n + 1) = UInt64.ofNat (m + 1)) : n = m := by
  have heq := congrArg UInt64.toNat h
  rw [UInt64.toNat_ofNat', UInt64.toNat_ofNat'] at heq
  omega

theorem ofNat_eq_zero_iff {n : Nat} (hn : n ≤ 2 ^ 64) (hpos : 0 < n) :
    UInt64.ofNat n = 0 ↔ n = 2 ^ 64 := by
  rw [← UInt64.toNat_inj, UInt64.toNat_ofNat', UInt64.toNat_zero]
  omega

namespace Sound

theorem initial (settings : Settings) : Sound settings SessionTable.initial where
  issued hs := by simp [SessionTable.initial] at hs
  length_lt := by simp [SessionTable.initial]
  next := rfl
  keyed hs := by simp [SessionTable.initial] at hs
  capacity := Nat.zero_le _

/-- Two records with one identifier are the same record. -/
theorem ref_eq (h : Sound settings table) {s' : SessionRef} {record' : SessionRecord}
    (hs : table.records[s]? = some record) (hs' : table.records[s']? = some record')
    (hid : record.id.value = record'.id.value) : s = s' := by
  have hlt := (List.getElem?_eq_some_iff.mp hs).1
  have hlt' := (List.getElem?_eq_some_iff.mp hs').1
  have hlength := h.length_lt
  rw [h.issued hs, h.issued hs'] at hid
  exact ofNat_succ_inj (by omega) (by omega) hid

/-- Identifiers are not exhausted as long as the next one is not zero. -/
theorem length_succ_lt (h : Sound settings table) (hnext : table.nextSessionId ≠ 0) :
    table.records.length + 1 < 2 ^ 64 := by
  rw [h.next, Ne, ofNat_eq_zero_iff h.length_lt (Nat.succ_pos _)] at hnext
  have hlength := h.length_lt
  omega

/-- The next identifier is not in the map. -/
theorem find?_next (h : Sound settings table) (hnext : table.nextSessionId ≠ 0) :
    table.sessions.find? table.nextSessionId = none := by
  cases hfind : table.sessions.find? table.nextSessionId with
  | none => rfl
  | some s =>
    obtain ⟨record, hs, hid⟩ := h.keyed hfind
    have hlt := (List.getElem?_eq_some_iff.mp hs).1
    have hlength := h.length_succ_lt hnext
    rw [h.issued hs, h.next] at hid
    have heq := ofNat_succ_inj (by omega) (by omega) hid
    omega

theorem findOpen?_at (h : Sound settings table)
    (hfind : table.findOpen? settings.instanceId id = some s) :
    table.sessions.find? id.value = some s ∧
      table.At s fun record => record.id = id ∧ record.closing = false := by
  obtain ⟨hinstance, hmap, hclosing⟩ := findOpen?_eq_some hfind
  obtain ⟨record, hs, hid⟩ := h.keyed hmap
  rw [closing_eq hs] at hclosing
  have hissued := congrArg SessionId.instance' (h.issued hs)
  exact ⟨hmap, record, hs, SessionId.ext (hissued.trans hinstance.symm) hid, hclosing⟩

theorem reserve [Kernel] (h : Sound settings table) {fails : Fault → Bool}
    (hreserve : table.reserve settings fails = .ok table') : Sound settings table' := by
  obtain ⟨rfl, hcapacity⟩ := reserve_eq_ok hreserve
  exact ⟨h.issued, h.length_lt, h.next, h.keyed, hcapacity⟩

theorem enroll (h : Sound settings table) (hnext : table.nextSessionId ≠ 0)
    (hpending : table.pendingSessionCreates ≠ 0) (document : WorkflowDocument) :
    Sound settings (table.enroll (newRecord settings table document)) := by
  have hfind := h.find?_next hnext
  refine ⟨?_, ?_, ?_, ?_, ?_⟩
  · intro s record hs
    rcases getElem?_snoc hs with hs | ⟨rfl, rfl⟩
    · exact h.issued hs
    · rw [newRecord, h.next]
  · simpa [SessionTable.enroll] using h.length_succ_lt hnext
  · simp only [SessionTable.enroll, h.next, List.length_append, List.length_singleton]
    rw [UInt64.ofNat_add (table.records.length + 1) 1]
    rfl
  · intro key s hkey
    change (table.sessions.emplace table.nextSessionId _).1.find? key = some s at hkey
    rw [OrderedMap.find?_emplace _ hfind] at hkey
    split at hkey
    · rename_i heq
      cases hkey
      exact ⟨_, List.getElem?_concat_length, heq.symm⟩
    · obtain ⟨record, hs, hid⟩ := h.keyed hkey
      have hlt := (List.getElem?_eq_some_iff.mp hs).1
      exact ⟨record, (List.getElem?_append_left hlt).trans hs, hid⟩
  · change (table.sessions.emplace table.nextSessionId _).1.size +
        (table.pendingSessionCreates - 1) ≤ _
    rw [OrderedMap.size_emplace _ hfind]
    have hcapacity := h.capacity
    omega

theorem dropPending (h : Sound settings table) (hdrop : table.dropPending = some table') :
    Sound settings table' := by
  obtain ⟨-, rfl⟩ := dropPending_eq_some hdrop
  refine ⟨h.issued, h.length_lt, h.next, h.keyed, ?_⟩
  have hcapacity := h.capacity
  dsimp only
  omega

theorem setClosing (h : Sound settings table) (s : SessionRef) (closing : Bool) :
    Sound settings (table.setClosing s closing) := by
  have hlength : (table.setClosing s closing).records.length = table.records.length := by
    simp [SessionTable.setClosing]
  refine ⟨?_, hlength ▸ h.length_lt, hlength ▸ h.next, ?_, h.capacity⟩
  · intro s' record hs'
    rw [records_setClosing] at hs'
    split at hs'
    · obtain ⟨old, hold, rfl⟩ := Option.map_eq_some_iff.mp hs'
      have hid := h.issued hold
      exact hid
    · exact h.issued hs'
  · intro key s' hkey
    obtain ⟨record, hs', hid⟩ := h.keyed hkey
    unfold At
    rw [records_setClosing, hs']
    split
    · exact ⟨_, rfl, hid⟩
    · exact ⟨_, rfl, hid⟩

theorem erase (h : Sound settings table) (key : UInt64) :
    Sound settings { table with sessions := table.sessions.erase key } := by
  refine ⟨h.issued, h.length_lt, h.next, ?_, ?_⟩
  · intro key' s' hkey
    change (table.sessions.erase key).find? key' = some s' at hkey
    rw [OrderedMap.find?_erase] at hkey
    split at hkey
    · cases hkey
    · exact h.keyed hkey
  · have hsize := OrderedMap.size_removeIf_le table.sessions fun key' _ => decide (key' = key)
    exact (Nat.add_le_add_right hsize _).trans h.capacity

/-- No record has the next identifier. -/
theorem id_ne_next (h : Sound settings table) (hnext : table.nextSessionId ≠ 0)
    (hs : table.records[s]? = some record) : record.id.value ≠ table.nextSessionId := by
  intro hid
  have hlt := (List.getElem?_eq_some_iff.mp hs).1
  have hlength := h.length_succ_lt hnext
  rw [h.issued hs, h.next] at hid
  have heq := ofNat_succ_inj (by omega) (by omega) hid
  omega

end Sound

/-! ## What one thread can do to the table -/

/-- A thread that closes at most the session `closes` leaves the other closing sessions in
the map and in their state, and never brings a session back. -/
structure Evolves (closes : Option SessionRef) (table table' : SessionTable) : Prop where
  id : ∀ {s : SessionRef} {id : SessionId}, table.At s (fun record => record.id = id) →
    table'.At s fun record => record.id = id
  marked : ∀ {s : SessionRef} {key : UInt64} {id : SessionId}, closes ≠ some s →
    table.sessions.find? key = some s →
    table.At s (fun record => record.id = id ∧ record.closing = true) →
    table'.sessions.find? key = some s ∧
      table'.At s fun record => record.id = id ∧ record.closing = true
  gone : ∀ {s : SessionRef} {key : UInt64}, table.sessions.find? key = none →
    table.At s (fun record => record.id.value = key) → table'.sessions.find? key = none

namespace Evolves

theorem of_eq {closes : Option SessionRef} (hrecords : table'.records = table.records)
    (hsessions : table'.sessions = table.sessions) : Evolves closes table table' where
  id := by
    rintro s id ⟨record, hs, hid⟩
    exact ⟨record, hrecords ▸ hs, hid⟩
  marked := by
    rintro s key id - hfind ⟨record, hs, hrecord⟩
    exact ⟨hsessions ▸ hfind, record, hrecords ▸ hs, hrecord⟩
  gone hfind _ := hsessions ▸ hfind

theorem enroll {closes : Option SessionRef} (h : Sound settings table)
    (hnext : table.nextSessionId ≠ 0) (document : WorkflowDocument) :
    Evolves closes table (table.enroll (newRecord settings table document)) := by
  have hfind := h.find?_next hnext
  have hold : ∀ {s : SessionRef} {record : SessionRecord}, table.records[s]? = some record →
      (table.enroll (newRecord settings table document)).records[s]? = some record := by
    intro s record hs
    exact (List.getElem?_append_left (List.getElem?_eq_some_iff.mp hs).1).trans hs
  have hlookup : ∀ {key : UInt64}, key ≠ table.nextSessionId →
      (table.enroll (newRecord settings table document)).sessions.find? key =
        table.sessions.find? key := by
    intro key hkey
    change (table.sessions.emplace table.nextSessionId _).1.find? key = _
    rw [OrderedMap.find?_emplace _ hfind, if_neg hkey]
  refine ⟨?_, ?_, ?_⟩
  · rintro s id ⟨record, hs, hid⟩
    exact ⟨record, hold hs, hid⟩
  · rintro s key id - hkey ⟨record, hs, hrecord⟩
    refine ⟨?_, record, hold hs, hrecord⟩
    rwa [hlookup]
    rintro rfl
    rw [hfind] at hkey
    cases hkey
  · rintro s key hkey ⟨record, hs, rfl⟩
    rwa [hlookup (h.id_ne_next hnext hs)]

theorem mark {closes : Option SessionRef} (table : SessionTable) (s : SessionRef) :
    Evolves closes table (table.setClosing s true) := by
  refine ⟨?_, ?_, fun hfind _ => hfind⟩
  · rintro s' id ⟨record, hs', hid⟩
    unfold At
    rw [records_setClosing, hs']
    split
    · exact ⟨_, rfl, hid⟩
    · exact ⟨_, rfl, hid⟩
  · rintro s' key id - hfind ⟨record, hs', hid, hclosing⟩
    refine ⟨hfind, ?_⟩
    unfold At
    rw [records_setClosing, hs']
    split
    · exact ⟨_, rfl, hid, rfl⟩
    · exact ⟨_, rfl, hid, hclosing⟩

theorem reopen (table : SessionTable) (id : SessionId) (s : SessionRef) :
    Evolves (some s) table (table.reopen id s) := by
  unfold SessionTable.reopen
  split
  · refine ⟨?_, ?_, fun hfind _ => hfind⟩
    · rintro s' id ⟨record, hs', hid⟩
      unfold At
      rw [records_setClosing, hs']
      split
      · exact ⟨_, rfl, hid⟩
      · exact ⟨_, rfl, hid⟩
    · rintro s' key id hne hfind ⟨record, hs', hrecord⟩
      refine ⟨hfind, record, ?_, hrecord⟩
      rw [records_setClosing, if_neg (fun heq => hne (congrArg some heq)), hs']
  · exact of_eq rfl rfl

theorem erase {key : UInt64} (hfind : table.sessions.find? key = some s) :
    Evolves (some s) table { table with sessions := table.sessions.erase key } := by
  refine ⟨fun h => h, ?_, ?_⟩
  · rintro s' key' id hne hfind' hrecord
    refine ⟨?_, hrecord⟩
    change (table.sessions.erase key).find? key' = some s'
    rw [OrderedMap.find?_erase, if_neg, hfind']
    rintro rfl
    exact hne (hfind.symm.trans hfind')
  · intro s' key' hfind' _
    change (table.sessions.erase key).find? key' = none
    rw [OrderedMap.find?_erase, hfind', ite_self]

end Evolves

end SessionTable

end PhotospiderDaemon.Orchestration
