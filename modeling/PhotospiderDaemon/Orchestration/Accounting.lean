import PhotospiderDaemon.Orchestration.Moves

/-!
# Session accounting

What holds of the session table in every configuration: pending creates are counted exactly,
published and pending sessions fit into the bound, identifiers are consecutive, a close owns
the record it has marked until it erases or reopens it, and a submit that holds
`lifecycle_mutex` has an open session.

* `pending_eq`: the counter is the number of creates with an active reservation.
* `sessionOutline`, `sessionOutline_preserves`: the invariant and its one-step proof.
* `session_accounting`: the accounting in every reachable configuration.
-/

namespace PhotospiderDaemon.Orchestration

open Foundation Ipc

/-! ## What threads hold -/

/-- An active `PendingSessionCreateReservation`. -/
def CreateStage.reserves : CreateStage → Bool
  | entered => false
  | reserved => true
  | validated => true
  | rollingBack _ => true

/-- The record that a close has marked. -/
def CloseStage.session? : CloseStage → Option SessionRef
  | entered => none
  | marked s => some s
  | reopening s _ => some s
  | settlingQueued s _ _ => some s
  | cancelling s _ _ _ => some s
  | settlingRunning s _ _ => some s
  | waiting s _ => some s

namespace Thread

def reserves : Thread → Bool
  | call _ (.create stage) => stage.reserves
  | _ => false

def closes : Thread → Option SessionRef
  | call _ (.close stage) => stage.session?
  | _ => none

/-- The session that a create has published. -/
def created (thread : Thread) : Option SessionId :=
  match thread.ending? with
  | some (.created id) => some id
  | _ => none

/-- What a thread may rely on about the session table. -/
def SessionClaim (i : Nat) (mutex : Option Nat) (table : SessionTable) : Thread → Prop
  | call request (.close stage) => ∀ s, stage.session? = some s →
      table.sessions.find? request.sessionId.value = some s ∧
        table.At s fun record => record.id = request.sessionId ∧ record.closing = true
  | call request (.submit (.admitted s)) =>
      mutex = some i ∧ table.sessions.find? request.sessionId.value = some s ∧
        table.At s fun record => record.id = request.sessionId ∧ record.closing = false
  | call request stage => stage.ending? = some .closed →
      table.sessions.find? request.sessionId.value = none ∧
        ∃ s, table.At s fun record => record.id = request.sessionId
  | worker _ => True

@[simp] theorem reserves_enter (request : Request) (method : Method) :
    (call request (CallStage.enter method)).reserves = false := by
  cases method <;> rfl

@[simp] theorem closes_enter (request : Request) (method : Method) :
    (call request (CallStage.enter method)).closes = none := by
  cases method <;> rfl

@[simp] theorem ending?_enter (request : Request) (method : Method) :
    (call request (CallStage.enter method)).ending? = none := by
  cases method <;> rfl

end Thread

/-- The outline of the session table. -/
def sessionOutline (settings : Settings) : Outline Shared Thread where
  shared shared := shared.table.Sound settings ∧ shared.terminated = false
  thread i shared := Thread.SessionClaim i shared.lifecycleMutex shared.table
  pair l m := ∀ s, l.closes = some s → m.closes ≠ some s

variable [Kernel] {settings : Settings}

/-! ## Counting -/

theorem pending_step {c : Config Shared Thread} {i : Nat} {l l' : Thread} {choice : Choice}
    {shared' : Shared} (hmoves : (service settings).Moves c i l choice shared' l')
    (hpositive : l.reserves = true → 0 < c.shared.table.pendingSessionCreates) :
    shared'.table.pendingSessionCreates + (if l.reserves then 1 else 0) =
      c.shared.table.pendingSessionCreates + if l'.reserves then 1 else 0 := by
  cases threadMove hmoves with
  | worker hmove => cases hmove <;> simp [Thread.reserves, Shared.write]
  | call hmove =>
    cases hmove with
    | enter =>
      rw [Thread.reserves_enter]
      rfl
    | createReserved _ hreserve =>
      obtain ⟨rfl, -⟩ := SessionTable.reserve_eq_ok hreserve
      simp [Thread.reserves, CreateStage.reserves]
    | createAbandoned hstage =>
      rcases hstage with rfl | rfl <;> simp [Thread.reserves, CreateStage.reserves]
    | createPublished _ _ _ hpending =>
      simp only [Thread.reserves, CreateStage.reserves, SessionTable.enroll, if_true]
      simp
      omega
    | createRolledBack _ hdrop =>
      obtain ⟨hpending, rfl⟩ := SessionTable.dropPending_eq_some hdrop
      simp only [Thread.reserves, CreateStage.reserves, if_true]
      simp
      omega
    | createTerminated hstage hpending =>
      refine absurd (hpositive ?_) (by omega)
      rcases hstage with rfl | ⟨failure, rfl⟩ <;> rfl
    | _ => simp [Thread.reserves, CreateStage.reserves, Shared.write]

/-- `pending_session_creates` is the number of creates with an active reservation. -/
theorem pending_eq {c : Config Shared Thread} (h : Reachable settings c) :
    c.shared.table.pendingSessionCreates = c.threads.countP Thread.reserves := by
  refine Program.Leads.countP_eq h (fun shared => shared.table.pendingSessionCreates)
    Thread.reserves (fun _ => rfl) (fun _ _ hmoves hpositive => pending_step hmoves hpositive) ?_
  simp [initial, Shared.initial, SessionTable.initial, List.countP_replicate, Thread.reserves]

/-! ## The invariant of one step -/

omit [Kernel] in
theorem Thread.SessionClaim.ended {i : Nat} {mutex : Option Nat} {table : SessionTable}
    {request : Request} {ending : Ending} (h : ending ≠ .closed) :
    (Thread.call request (.ended ending)).SessionClaim i mutex table :=
  fun hclosed => absurd (Option.some.inj hclosed) h

omit [Kernel] in
/-- What a step of another thread does to a claim. -/
theorem Thread.SessionClaim.other {i : Nat} {mutex mutex' : Option Nat}
    {table table' : SessionTable} {closes : Option SessionRef} {m : Thread}
    (h : m.SessionClaim i mutex table) (hevolves : table.Evolves closes table')
    (hpair : ∀ s, closes = some s → m.closes ≠ some s)
    (hmutex : mutex = some i → mutex' = some i ∧ table' = table) :
    m.SessionClaim i mutex' table' := by
  have hclosed : ∀ {request : Request} {stage : CallStage},
      (stage.ending? = some .closed → table.sessions.find? request.sessionId.value = none ∧
        ∃ s, table.At s fun record => record.id = request.sessionId) →
      stage.ending? = some .closed → table'.sessions.find? request.sessionId.value = none ∧
        ∃ s, table'.At s fun record => record.id = request.sessionId := by
    intro request stage hclaim hending
    obtain ⟨hfind, s, hs⟩ := hclaim hending
    obtain ⟨record, hrecord, hid⟩ := hs
    exact ⟨hevolves.gone hfind ⟨record, hrecord, congrArg SessionId.value hid⟩, s,
      hevolves.id ⟨record, hrecord, hid⟩⟩
  cases m with
  | worker stage => trivial
  | call request stage =>
    cases stage with
    | close stage =>
      intro s hs
      obtain ⟨hfind, hrecord⟩ := h s hs
      exact hevolves.marked (fun hcloses => hpair s hcloses hs) hfind hrecord
    | submit stage =>
      cases stage with
      | entered => exact hclosed h
      | admitted s =>
        obtain ⟨hown, hclaim⟩ := h
        obtain ⟨hown', rfl⟩ := hmutex hown
        exact ⟨hown', hclaim⟩
    | _ => exact hclosed h

section Step

variable {c : Config Shared Thread} {i : Nat} {l l' : Thread} {choice : Choice} {shared' : Shared}

theorem table_evolves (hmoves : (service settings).Moves c i l choice shared' l')
    (hc : (sessionOutline settings).Holds c) :
    c.shared.table.Evolves l.closes shared'.table := by
  obtain ⟨hsound, -⟩ := hc.shared
  have hclaim := hc.thread hmoves.thread
  cases threadMove hmoves with
  | worker hmove => cases hmove <;> exact .of_eq rfl rfl
  | call hmove =>
    cases hmove with
    | createReserved _ hreserve =>
      obtain ⟨rfl, -⟩ := SessionTable.reserve_eq_ok hreserve
      exact .of_eq rfl rfl
    | createPublished _ hnext _ _ => exact .enroll hsound hnext _
    | createRolledBack _ hdrop =>
      obtain ⟨-, rfl⟩ := SessionTable.dropPending_eq_some hdrop
      exact .of_eq rfl rfl
    | closeMarked _ _ => exact .mark _ _
    | closeReopened _ => exact .reopen _ _ _
    | closeFinalized _ hfind _ => exact .erase hfind
    | _ => exact .of_eq rfl rfl

/-- A thread that owns `lifecycle_mutex` keeps it, and the table with it. -/
theorem lifecycle_kept (hmoves : (service settings).Moves c i l choice shared' l')
    (hc : (sessionOutline settings).Holds c) {j : Nat} (hne : i ≠ j)
    (hj : c.shared.lifecycleMutex = some j) :
    shared'.lifecycleMutex = some j ∧ shared'.table = c.shared.table := by
  have hclaim := hc.thread hmoves.thread
  have hfree : c.shared.lifecycleMutex ≠ none := by simp [hj]
  cases threadMove hmoves with
  | worker hmove => cases hmove <;> exact ⟨hj, rfl⟩
  | call hmove =>
    cases hmove with
    | submitEnded _ _ => exact absurd (Option.some.inj (hclaim.1.symm.trans hj)) hne
    | createReserved hmutex _ => exact absurd hmutex hfree
    | createPublished hmutex _ _ _ => exact absurd hmutex hfree
    | createRolledBack hmutex _ => exact absurd hmutex hfree
    | closeMarked hmutex _ => exact absurd hmutex hfree
    | closeReopened hmutex => exact absurd hmutex hfree
    | closeFinalized hmutex _ _ => exact absurd hmutex hfree
    | submitAdmitted hmutex _ => exact absurd hmutex hfree
    | _ => exact ⟨hj, rfl⟩

theorem session_shared (hmoves : (service settings).Moves c i l choice shared' l')
    (hc : (sessionOutline settings).Holds c)
    (hpending : l.reserves = true → c.shared.table.pendingSessionCreates ≠ 0) :
    shared'.table.Sound settings ∧ shared'.terminated = false := by
  obtain ⟨hsound, halive⟩ := hc.shared
  have hclaim := hc.thread hmoves.thread
  cases threadMove hmoves with
  | worker hmove => cases hmove <;> exact ⟨hsound, halive⟩
  | call hmove =>
    cases hmove with
    | createReserved _ hreserve => exact ⟨hsound.reserve hreserve, halive⟩
    | createPublished _ hnext _ hslot => exact ⟨hsound.enroll hnext hslot _, halive⟩
    | createRolledBack _ hdrop => exact ⟨hsound.dropPending hdrop, halive⟩
    | createTerminated hstage hzero =>
      refine absurd hzero (hpending ?_)
      rcases hstage with rfl | ⟨failure, rfl⟩ <;> rfl
    | closeMarked _ _ => exact ⟨hsound.setClosing _ _, halive⟩
    | closeReopened _ =>
      refine ⟨?_, halive⟩
      unfold SessionTable.reopen
      dsimp only
      split
      · exact hsound.setClosing _ _
      · exact hsound
    | closeFinalized _ _ _ => exact ⟨hsound.erase _, halive⟩
    | closeTerminated hwhy =>
      obtain ⟨hfind, record, hs, -, hclosing⟩ := hclaim _ rfl
      exact absurd ⟨hfind, (SessionTable.closing_eq hs).trans hclosing⟩ hwhy
    | _ => exact ⟨hsound, halive⟩

theorem session_own (hmoves : (service settings).Moves c i l choice shared' l')
    (hc : (sessionOutline settings).Holds c) :
    l'.SessionClaim i shared'.lifecycleMutex shared'.table := by
  obtain ⟨hsound, -⟩ := hc.shared
  have hclaim := hc.thread hmoves.thread
  cases threadMove hmoves with
  | worker hmove => trivial
  | call hmove =>
    cases hmove with
    | enter =>
      rename_i request _
      cases request.method <;> nofun
    | respond _ => exact hclaim
    | closeMarked _ hfind =>
      intro s hs
      obtain rfl := Option.some.inj hs
      obtain ⟨hmap, record, hrecord, hid, -⟩ := hsound.findOpen?_at hfind
      refine ⟨hmap, { record with closing := true }, ?_, hid, rfl⟩
      rw [SessionTable.records_setClosing, if_pos rfl, hrecord]
      rfl
    | closeFinalized _ hfind _ =>
      intro _
      obtain ⟨-, record, hs, hid, -⟩ := hclaim _ rfl
      refine ⟨?_, _, record, hs, hid⟩
      dsimp only
      rw [OrderedMap.find?_erase, if_pos rfl]
    | submitAdmitted _ hfind => exact ⟨rfl, hsound.findOpen?_at hfind⟩
    | submitEnded _ _ => exact .ended (Ending.ofResult_ne nofun nofun)
    | @lookupFinished kind r record fails _ _ =>
      rcases kind.finish_cases record fails with ⟨failure, heq⟩ | ⟨status, -, -, heq⟩ |
        ⟨-, heq⟩ | ⟨result, -, -, heq⟩ <;> exact .ended (by simp [heq])
    | _ => first | exact hclaim | exact .ended nofun | nofun

/-- A step keeps what its thread closes, gives it up, or marks an open session. -/
theorem closes_step (hmoves : (service settings).Moves c i l choice shared' l') :
    l'.closes = l.closes ∨ l'.closes = none ∨
      ∃ id s, l'.closes = some s ∧ c.shared.table.findOpen? settings.instanceId id = some s := by
  cases threadMove hmoves with
  | worker hmove => exact Or.inl rfl
  | call hmove =>
    cases hmove with
    | enter => exact Or.inr (Or.inl (Thread.closes_enter _ _))
    | closeMarked _ hfind => exact Or.inr (Or.inr ⟨_, _, rfl, hfind⟩)
    | _ => first | exact Or.inl rfl | exact Or.inr (Or.inl rfl)

omit [Kernel] in
/-- A session that a thread closes is in the map and marked. -/
theorem Thread.SessionClaim.closing {mutex : Option Nat} {table : SessionTable} {s : SessionRef}
    (h : l.SessionClaim i mutex table) (hcloses : l.closes = some s) :
    ∃ id, table.sessions.find? id.value = some s ∧
      table.At s fun record => record.id = id ∧ record.closing = true := by
  cases l with
  | worker stage => cases hcloses
  | call request stage =>
    cases stage with
    | close stage => exact ⟨request.sessionId, h s hcloses⟩
    | _ => cases hcloses

omit [Kernel] in
/-- A session that has been closed is known and gone. -/
theorem Thread.SessionClaim.closed {mutex : Option Nat} {table : SessionTable} {request : Request}
    {stage : CallStage} (h : (Thread.call request stage).SessionClaim i mutex table)
    (hclosed : stage.ending? = some .closed) :
    table.sessions.find? request.sessionId.value = none ∧
      ∃ s, table.At s fun record => record.id = request.sessionId := by
  cases stage with
  | ended ending => exact h hclosed
  | returned ending response => exact h hclosed
  | _ => cases hclosed

end Step

/-- One step keeps the outline, given that the counter is right. -/
theorem sessionOutline_preserves (settings : Settings) :
    (service settings).Preserves (fun _ => True)
      (fun c => c.shared.table.pendingSessionCreates = c.threads.countP Thread.reserves)
      (sessionOutline settings) where
  symm h s hm hl := h s hl hm
  start request _ _ := nofun
  start_pair request l := nofun
  own := by
    intro c i l choice shared' l' _ hmoves hpending hc
    refine ⟨session_shared hmoves hc ?_, session_own hmoves hc⟩
    intro hreserves
    rw [hpending]
    exact Nat.ne_of_gt (List.countP_pos_iff.mpr ⟨l, List.mem_of_getElem? hmoves.thread, hreserves⟩)
  other := by
    intro c i l choice shared' l' j m _ hmoves _ hc hne hj
    have hpair := hc.pair hne hmoves.thread hj
    refine ⟨(hc.thread hj).other (table_evolves hmoves hc) hpair (lifecycle_kept hmoves hc hne), ?_⟩
    intro s hl' hm
    rcases closes_step hmoves with hsame | hnone | ⟨id, s', hs', hfind⟩
    · exact hpair s (hsame.symm.trans hl') hm
    · exact absurd (hnone.symm.trans hl') (by simp)
    · obtain rfl := Option.some.inj (hl'.symm.trans hs')
      obtain ⟨-, record, hrecord, -, hopen⟩ := hc.shared.1.findOpen?_at hfind
      obtain ⟨id', -, hmarked⟩ := (hc.thread hj).closing hm
      exact absurd (hopen.symm.trans (hmarked.of_some hrecord).2) (by decide)

omit [Kernel] in
theorem sessionOutline_initial (settings : Settings) :
    (sessionOutline settings).Holds (initial settings) where
  shared := ⟨SessionTable.Sound.initial settings, rfl⟩
  thread := by
    intro i l hi
    obtain rfl := eq_idle_of_initial hi
    trivial
  pair := by
    intro i j l m _ hi _
    obtain rfl := eq_idle_of_initial hi
    nofun

/-- The outline holds in every reachable configuration. -/
theorem sessionOutline_holds {c : Config Shared Thread} (h : Reachable settings c) :
    (sessionOutline settings).Holds c :=
  (sessionOutline_preserves settings).holds pending_eq (sessionOutline_initial settings) h

/-! ## Accounting -/

/-- A create hands out an identifier exactly when it publishes a record with it. -/
theorem created_step {c : Config Shared Thread} {i : Nat} {l l' : Thread} {choice : Choice}
    {shared' : Shared} (hmoves : (service settings).Moves c i l choice shared' l')
    (id : SessionId) :
    (shared'.table.records.map SessionRecord.id).count id + (if l.created = some id then 1 else 0) =
      (c.shared.table.records.map SessionRecord.id).count id +
        if l'.created = some id then 1 else 0 := by
  cases threadMove hmoves with
  | worker hmove => cases hmove <;> rfl
  | @call request _ _ _ hmove =>
    cases hmove with
    | enter => cases request.method <;> rfl
    | createReserved _ hreserve =>
      obtain ⟨rfl, -⟩ := SessionTable.reserve_eq_ok hreserve
      rfl
    | createRolledBack _ hdrop =>
      obtain ⟨-, rfl⟩ := SessionTable.dropPending_eq_some hdrop
      rfl
    | createPublished _ _ _ _ =>
      simp [Thread.created, Thread.ending?, CallStage.ending?, SessionTable.enroll,
        SessionTable.newRecord, List.count_singleton, List.count_append]
    | closeMarked _ _ =>
      rw [SessionTable.ids_eq_of_identities (SessionTable.identities_setClosing _ _ _)]
      rfl
    | closeReopened _ =>
      rw [SessionTable.ids_eq_of_identities (SessionTable.identities_reopen _ _ _)]
      rfl
    | @submitEnded s session fails _ _ =>
      rcases Ending.ofResult_cases .submitted (c.shared.registry.submit settings session.id
        session.graph request.submitOptions fails).2 with ⟨id, -, heq⟩ | ⟨failure, -, heq⟩ <;>
        rw [heq] <;> rfl
    | @lookupFinished kind r record fails _ _ =>
      rcases kind.finish_cases record fails with ⟨failure, heq⟩ | ⟨status, -, -, heq⟩ |
        ⟨-, heq⟩ | ⟨result, -, -, heq⟩ <;> rw [heq] <;> rfl
    | _ => rfl

/-- The identifiers that creates have handed out are those of the published records. -/
theorem created_perm {c : Config Shared Thread} (h : Reachable settings c) :
    (c.threads.filterMap Thread.created).Perm (c.shared.table.records.map SessionRecord.id) := by
  rw [List.perm_iff_count]
  intro id
  have hcount := Program.Leads.countP_eq h
    (fun shared => (shared.table.records.map SessionRecord.id).count id)
    (fun l => l.created == some id) (fun _ => rfl)
    (fun _ _ hmoves _ => by simpa using created_step hmoves id)
    (by simp [initial, Shared.initial, SessionTable.initial, List.countP_replicate, Thread.created,
      Thread.ending?])
  rw [List.count_filterMap]
  exact hcount.symm

/-- Capacity is respected and counted exactly, identifiers are handed out consecutively, a
session being closed still counts, and none of the branches that terminate the process or
report a duplicate is ever taken. -/
theorem session_accounting {c : Config Shared Thread} (h : Reachable settings c) :
    c.shared.table.sessions.size + c.shared.table.pendingSessionCreates ≤
      settings.config.maximumSessions.toNat ∧
    c.shared.table.pendingSessionCreates = c.threads.countP Thread.reserves ∧
    c.shared.table.records.map SessionRecord.id =
      (List.range c.shared.table.records.length).map
        (fun n => ⟨settings.instanceId, UInt64.ofNat (n + 1)⟩) ∧
    c.shared.table.records.length < 2 ^ 64 ∧
    c.shared.table.nextSessionId = UInt64.ofNat (c.shared.table.records.length + 1) ∧
    (c.threads.filterMap Thread.created).Perm (c.shared.table.records.map SessionRecord.id) ∧
    (∀ l ∈ c.threads, ∀ s, l.closes = some s → ∃ key, c.shared.table.sessions.find? key = some s) ∧
    c.shared.terminated = false ∧
    (c.shared.table.nextSessionId ≠ 0 →
      c.shared.table.sessions.find? c.shared.table.nextSessionId = none) := by
  have hc := sessionOutline_holds h
  obtain ⟨hsound, halive⟩ := hc.shared
  refine ⟨hsound.capacity, pending_eq h, ?_, hsound.length_lt, hsound.next, created_perm h, ?_,
    halive, hsound.find?_next⟩
  · apply List.ext_getElem?
    intro s
    rw [List.getElem?_map, List.getElem?_map]
    cases hs : c.shared.table.records[s]? with
    | none =>
      rw [List.getElem?_eq_none (by simpa using List.getElem?_eq_none_iff.mp hs)]
      rfl
    | some record =>
      rw [List.getElem?_range (List.getElem?_eq_some_iff.mp hs).1, Option.map_some, Option.map_some,
        hsound.issued hs]
  · intro l hl s hs
    obtain ⟨i, hi⟩ := List.getElem?_of_mem hl
    obtain ⟨id, hfind, -⟩ := (hc.thread hi).closing hs
    exact ⟨id.value, hfind⟩

omit [Kernel] in
/-- A create that waits for its compilation occupies one of two slots. -/
theorem session_accounting_pending :
    ∃ c, @Reachable sampleKernel sampleSettings c ∧ c.threads.countP Thread.reserves = 1 ∧
      c.shared.table.pendingSessionCreates = c.threads.countP Thread.reserves ∧
      c.shared.table.sessions.size + c.shared.table.pendingSessionCreates ≤ 2 := by
  let _ : Kernel := sampleKernel
  have hreachable := (Reachable.initial sampleSettings).run
    [.spawn (sampleRequest .sessionCreate), plainMove 2, plainMove 2] rfl
  exact ⟨_, hreachable, rfl, (session_accounting hreachable).2.1, (session_accounting hreachable).1⟩

end PhotospiderDaemon.Orchestration
