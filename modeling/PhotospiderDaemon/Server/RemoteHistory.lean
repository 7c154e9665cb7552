import PhotospiderDaemon.Foundation.ConditionVariables
import PhotospiderDaemon.Server.Remote

/-!
# The history of the clients

What holds of the calls in the log, whatever the clients call and however the threads of the service
are interleaved.

* `answer_enabled`, `call_served`: a call returns once its dispatch has returned.
* `calls_dispatched_once`: every dispatch belongs to one call, every call has at most one
  dispatch, and it answers what the dispatch has returned; what the handlers have dispatched are
  these threads of the service.
* `clients_see_forward`: what clients see of a job moves forward in real time.
-/

namespace PhotospiderDaemon.Server.Remote

open Foundation Ipc Orchestration

variable [Kernel]

/-! ## Calls are answered -/

section Served

variable {settings : Settings} {c : Config Daemon Line}

/-- A turn in which the methods of one kind come to this end. -/
def servingTurn (method : Method) (ending : Ending) (hanswers : ending.Answers method) : Turn :=
  { failingTurn with
    ending := fun request =>
      if request.method = method then ending else .failed (.status ⟨.internal, []⟩)
    routed := fun request => by
      split
      · rename_i hmethod
        rw [hmethod]
        exact hanswers
      · trivial }

/-- A call whose dispatch has returned can return. -/
theorem answer_enabled (hkernel : Kernel.Contract) (hversion : settings.VersionFits)
    (h : Reachable settings c) {k since i : Nat} {wire : Wire} {invocation : Invocation}
    (hk : c.threads[k]? = some (.awaiting wire invocation since i)) {request : Request}
    {ending : Ending} {response : Response}
    (hi : c.shared.service.threads[i]? = some (.call request (.returned ending response))) :
    ∃ round answer peers, (remote settings).next c (.move k (.answer round)) =
      some ⟨c.shared.logged ⟨invocation, since, some i, answer⟩,
        c.threads.set k (.idle (wire.after peers (some i)))⟩ := by
  have hholds := outline_holds hkernel hversion h
  have hsound : c.shared.Sound settings := hholds.shared
  have hline : (Line.awaiting wire invocation since i).Sound c.shared.service := hholds.thread hk
  obtain ⟨hwire, -, request', stage, hdelivered, hcall⟩ := hline
  cases hcall.symm.trans hi
  have heq := (delivered_eq_some hdelivered).1
  have hshutdown : request.method ≠ .daemonShutdown := hsound.methods (List.mem_of_getElem? hi)
  obtain ⟨hanswers, -, hresponse⟩ := hsound.returned hversion hi
  have hmethod : invocation.request.method ≠ .daemonShutdown := by
    rw [heq] at hshutdown
    exact hshutdown
  let round : Round :=
    { request := invocation.request
      turn := servingTurn request.method ending hanswers
      transport := sampleTransport
      method_ne := hmethod
      quiet := ⟨rfl, rfl, rfl, rfl, rfl, rfl, rfl⟩
      plain := plain_sampleTransport }
  have hdispatch : round.turn.dispatch request = response := by
    rw [hresponse]
    exact congrArg (respond request · fun _ => false) (if_pos rfl)
  obtain ⟨result, peers, hplay, -⟩ :=
    round_cases (Int.natCast_nonneg wire.descriptor) round hwire.idle
  refine ⟨round, invocation.answer result, peers, Program.Moves.next_eq ⟨hk, ?_⟩⟩
  change lineStep settings c.shared (.awaiting wire invocation since i) (.answer round) = _
  simp only [lineStep, hi]
  rw [if_pos ⟨rfl, hdispatch⟩, Daemon.return, hplay]
  rfl

/-- The service goes on by itself. -/
theorem inside_leads (hservice : c.threads[0]? = some .service) (moves : List (Nat × Choice))
    (hsane : ∀ move ∈ moves, move.2.Sane) {service' : Config Shared Thread}
    (hrun : (service settings).run c.shared.service
      (moves.map fun move => .move move.1 move.2) = some service') :
    (remote settings).Leads Event.Sane c ⟨⟨service', c.shared.log⟩, c.threads⟩ := by
  induction moves generalizing c with
  | nil =>
    cases hrun
    exact Program.Leads.refl _
  | cons move moves ih =>
    obtain ⟨service₁, hnext, hrun⟩ := Option.bind_eq_some_iff.mp hrun
    have hmoves : (remote settings).Moves c 0 .service (.inside move.1 move.2)
        ⟨service₁, c.shared.log⟩ .service := by
      refine ⟨hservice, ?_⟩
      change lineStep settings c.shared .service (.inside move.1 move.2) = _
      rw [lineStep, hnext]
      rfl
    have hevent : Event.Sane (.inside move.1 move.2) := hsane move List.mem_cons_self
    have hstep := Program.Leads.of_moves hevent hmoves
    rw [set_self hservice] at hstep
    exact hstep.trans
      (ih hservice (fun move' hmem => hsane move' (List.mem_cons_of_mem _ hmem)) hrun)

omit [Kernel] in
/-- The lines with one more behind them. -/
def withLine (c : Config Daemon Line) (daemon : Daemon) (line : Line) : Config Daemon Line :=
  ⟨daemon, c.threads ++ [line]⟩

omit [Kernel] in
theorem withLine_last (daemon : Daemon) (line : Line) :
    (withLine c daemon line).threads[c.threads.length]? = some line :=
  List.getElem?_concat_length

omit [Kernel] in
theorem withLine_set (daemon : Daemon) (line line' : Line) :
    (withLine c daemon line).threads.set c.threads.length line' = c.threads ++ [line'] := by
  rw [withLine, List.set_append_right _ _ (Nat.le_refl _), Nat.sub_self]
  rfl

/-- The last line goes on. -/
theorem withLine_leads {daemon daemon' : Daemon} {line line' : Line} {event : Event}
    (hevent : event.Sane) (hstep : lineStep settings daemon line event = some (daemon', line')) :
    (remote settings).Leads Event.Sane (withLine c daemon line) (withLine c daemon' line') := by
  have hmoves : (remote settings).Moves (withLine c daemon line) c.threads.length line event daemon'
      line' := ⟨withLine_last daemon line, hstep⟩
  have hleads := Program.Leads.of_moves hevent hmoves
  rw [withLine_set] at hleads
  exact hleads

/-- A client connects and calls a method, and its request is dispatched. -/
theorem dispatch_leads (connected : Connected) {invocation : Invocation} {payload : Bytes}
    (hmethod : invocation.request.method ≠ .daemonShutdown)
    (hencode : encodeRequest { invocation.request with requestId := 1 } = .ok payload)
    {service' : Config Shared Thread}
    (hspawned : (service settings).next c.shared.service
      (.spawn { invocation.request with requestId := 1 }) = some service') :
    (remote settings).Leads Event.Sane c (withLine c ⟨service', c.shared.log⟩
      (.awaiting connected.wire invocation c.shared.service.threads.length
        c.shared.service.threads.length)) := by
  have hdelivered : connected.wire.delivered invocation.request =
      some { invocation.request with requestId := 1 } := delivered_of_encodes rfl rfl hencode
  have hconnect : (remote settings).Leads Event.Sane c
      (withLine c c.shared (.idle connected.wire)) := by
    have hact : (Act.spawn connected : Act Event Connected).Allowed Event.Sane := trivial
    exact Program.Leads.of_next hact rfl
  have hinvoke : lineStep settings c.shared (.idle connected.wire) (.invoke invocation) =
      some (c.shared, .calling connected.wire invocation c.shared.service.threads.length) := by
    rw [lineStep, if_neg hmethod]
  have hdeliver : lineStep settings c.shared
      (.calling connected.wire invocation c.shared.service.threads.length) .deliver =
      some (⟨service', c.shared.log⟩, .awaiting connected.wire invocation
        c.shared.service.threads.length c.shared.service.threads.length) := by
    rw [lineStep, hdelivered, Option.bind_some, hspawned]
    rfl
  have hinvoked : Event.Sane (.invoke invocation) := trivial
  have hdelivers : Event.Sane .deliver := trivial
  exact (hconnect.trans (withLine_leads hinvoked hinvoke)).trans (withLine_leads hdelivers hdeliver)

/-- A client that connects and calls a method is answered when the service has carried it out. -/
theorem call_served (hkernel : Kernel.Contract) (hversion : settings.VersionFits)
    (h : Reachable settings c) (hservice : c.threads[0]? = some .service) (connected : Connected)
    (invocation : Invocation) (hmethod : invocation.request.method ≠ .daemonShutdown)
    (hencodes : ∃ payload, encodeRequest { invocation.request with requestId := 1 } = .ok payload)
    (moves : List (Nat × Choice)) (hsane : ∀ move ∈ moves, move.2.Sane)
    {service' : Config Shared Thread}
    (hrun : (service settings).run c.shared.service
      (.spawn { invocation.request with requestId := 1 } ::
        moves.map fun move => .move move.1 move.2) = some service')
    {ending : Ending} {response : Response}
    (hreturned : service'.threads[c.shared.service.threads.length]? =
      some (.call { invocation.request with requestId := 1 } (.returned ending response))) :
    ∃ answer wire, wire.calls = [c.shared.service.threads.length] ∧
      (remote settings).Leads Event.Sane c
        (withLine c ⟨service', c.shared.log ++ [⟨invocation, c.shared.service.threads.length,
          some c.shared.service.threads.length, answer⟩]⟩ (.idle wire)) := by
  obtain ⟨service₁, hspawned, hrun⟩ := Option.bind_eq_some_iff.mp hrun
  obtain ⟨payload, hencode⟩ := hencodes
  have hdispatch := dispatch_leads connected hmethod hencode hspawned
  have hfirst := (List.getElem?_eq_some_iff.mp hservice).1
  have hleads := hdispatch.trans
    (inside_leads ((List.getElem?_append_left hfirst).trans hservice) moves hsane hrun)
  obtain ⟨round, answer, peers, hnext⟩ := answer_enabled hkernel hversion
    (Program.Leads.trans h hleads) (withLine_last _ _) hreturned
  have hact : (Act.move c.threads.length (.answer round) : Act Event Connected).Allowed
      Event.Sane := trivial
  have hanswer := Program.Leads.of_next hact hnext
  rw [withLine_set] at hanswer
  exact ⟨answer, _, rfl, hleads.trans hanswer⟩

omit [Kernel] in
/-- Thread `i` makes steps in which nothing fails. -/
def plainMoves (i n : Nat) : List (Nat × Choice) := List.replicate n (i, .go fun _ => false)

omit [Kernel] in
/-- What thread 2 does to create a session. -/
def createMoves : List (Nat × Choice) :=
  plainMoves 2 2 ++ (2, .compile (.value ())) :: plainMoves 2 2

theorem sane_plainMoves (i n : Nat) : ∀ move ∈ plainMoves i n, move.2.Sane := by
  intro move hmove
  rw [List.eq_of_mem_replicate hmove]
  exact fun _ => rfl

theorem sane_createMoves : ∀ move ∈ createMoves, move.2.Sane := by
  simp [createMoves, plainMoves, Choice.Sane, KernelOutcome.failure?]

/-- A dispatch of the first call of a client, when it has returned. -/
def servedThread (invocation : Invocation) (ending : Ending) : Thread :=
  .call { invocation.request with requestId := 1 }
    (.returned ending (respond { invocation.request with requestId := 1 } ending fun _ => false))

/-- The first session of `sampleSettings` has been created. -/
def createdService : Config Shared Thread :=
  ⟨{ Shared.initial with table := sampleConfig.shared.table },
    [.worker .idle, .worker .idle, servedThread (.sessionCreate default) (.created ⟨7, 1⟩)]⟩

omit [Kernel] in
theorem leads_createdService :
    letI := sampleKernel
    ∃ answer wire, wire.calls = [2] ∧ Reachable sampleSettings
      ⟨⟨createdService, [⟨.sessionCreate default, 2, some 2, answer⟩]⟩,
        [.service, .idle wire]⟩ := by
  let _ : Kernel := sampleKernel
  exact call_served sampleKernel_contract versionFits_sampleSettings (Program.Leads.refl _) rfl
    ⟨4, 3⟩ (.sessionCreate default) (by decide) ⟨_, rfl⟩ createMoves sane_createMoves
    (show _ = some createdService from rfl) rfl

end Served

/-! ## Every dispatch has its call -/

section Once

variable {settings : Settings} {c c' : Config Daemon Line}

omit [Kernel] in
def Entry.answeredBy (i : Nat) (entry : Entry) : Bool := entry.thread = some i

omit [Kernel] in
def Line.awaits (i : Nat) : Line → Bool
  | awaiting _ _ _ j => j = i
  | _ => false

omit [Kernel] in
/-- The calls to which a dispatch belongs. -/
def owners (i : Nat) (c : Config Daemon Line) : Nat :=
  c.shared.log.countP (Entry.answeredBy i) + c.threads.countP (Line.awaits i)

omit [Kernel] in
def Line.wire? : Line → Option Wire
  | service => none
  | idle wire | calling wire _ _ | awaiting wire _ _ _ => some wire

omit [Kernel] in
/-- How many calls on the line a dispatch has answered. -/
def Line.answers (i : Nat) (line : Line) : Nat :=
  (line.wire?.map fun wire => wire.calls.count i).getD 0

omit [Kernel] in
/-- How many calls a dispatch has answered. -/
def answers (i : Nat) (c : Config Daemon Line) : Nat := (c.threads.map (Line.answers i)).sum

/-- The service inside of the daemon makes a run of its own. -/
theorem service_leads (h : (remote settings).Leads Event.Sane c c') :
    (service settings).Leads Choice.Sane c.shared.service c'.shared.service := by
  refine h.induct (motive := fun c' => (service settings).Leads Choice.Sane c.shared.service
    c'.shared.service) (Program.Leads.refl _) ?_ ?_
  · intro c₁ connected _ ih
    exact ih
  · intro c₁ k line event daemon' line' _ ih hsane hmoves
    refine Program.Leads.trans ih ?_
    cases lineMove hmoves with
    | @inside i choice c₂ hnext =>
      have hact : (Act.move i choice : Act Choice Request).Allowed Choice.Sane := hsane
      exact Program.Leads.of_next hact hnext
    | @deliver wire invocation since request hdelivered =>
      have hact : (Act.spawn request : Act Choice Request).Allowed Choice.Sane := trivial
      exact Program.Leads.of_next hact rfl
    | _ => exact Program.Leads.refl _

/-- A step hands a dispatch from one call to another place of the same call, or begins a new one. -/
theorem owners_step {k : Nat} {line line' : Line} {event : Event} {daemon' : Daemon}
    (hmoves : (remote settings).Moves c k line event daemon' line') (i : Nat) :
    owners i ⟨daemon', c.threads.set k line'⟩ = owners i c ∧
      daemon'.service.threads.length = c.shared.service.threads.length ∨
    owners i ⟨daemon', c.threads.set k line'⟩ =
        owners i c + (if c.shared.service.threads.length = i then 1 else 0) ∧
      daemon'.service.threads.length = c.shared.service.threads.length + 1 := by
  have hset := Program.countP_set_add (Line.awaits i) line' hmoves.thread
  have hlogged : ∀ entry : Entry, (c.shared.logged entry).log.countP (Entry.answeredBy i) =
      c.shared.log.countP (Entry.answeredBy i) + if entry.thread = some i then 1 else 0 := by
    intro entry
    simp only [Daemon.logged, List.countP_append, List.countP_singleton, Entry.answeredBy,
      decide_eq_true_eq]
  unfold owners
  cases lineMove hmoves with
  | @inside j choice c₂ hnext =>
    have hlength : c₂.threads.length = c.shared.service.threads.length := by
      rcases Program.next_cases hnext with ⟨_, heq, -⟩ | ⟨_, _, _, _, _, -, -, rfl⟩
      · cases heq
      · exact List.length_set
    simp only [Line.awaits, Bool.false_eq_true, if_false] at hset
    exact Or.inl ⟨by simp only; omega, hlength⟩
  | invoke hmethod =>
    simp only [Line.awaits, Bool.false_eq_true, if_false] at hset
    exact Or.inl ⟨by simp only; omega, rfl⟩
  | deliver hdelivered =>
    simp only [Line.awaits, Bool.false_eq_true, if_false, decide_eq_true_eq] at hset
    refine Or.inr ⟨by simp only; omega, ?_⟩
    rw [List.length_append, List.length_singleton]
  | giveUp hundelivered hrequest hplay =>
    simp only [Line.awaits, Bool.false_eq_true, if_false] at hset
    rw [hlogged]
    refine Or.inl ⟨?_, rfl⟩
    simp only [reduceCtorEq, if_false]
    omega
  | answer hthread hrequest hplay =>
    simp only [Line.awaits, Bool.false_eq_true, if_false, decide_eq_true_eq] at hset
    rw [hlogged]
    refine Or.inl ⟨?_, rfl⟩
    simp only [Option.some.injEq]
    omega

/-- Each dispatch belongs to exactly one call. -/
theorem owners_eq (h : Reachable settings c) (i : Nat) :
    (settings.config.maximumConcurrency.toNat ≤ i → i < c.shared.service.threads.length →
      owners i c = 1) ∧
    (i < settings.config.maximumConcurrency.toNat ∨ c.shared.service.threads.length ≤ i →
      owners i c = 0) := by
  have hworkers : (Orchestration.initial settings).threads.length =
      settings.config.maximumConcurrency.toNat := List.length_replicate
  refine h.induct (motive := fun c =>
    (settings.config.maximumConcurrency.toNat ≤ i → i < c.shared.service.threads.length →
      owners i c = 1) ∧
    (i < settings.config.maximumConcurrency.toNat ∨ c.shared.service.threads.length ≤ i →
      owners i c = 0)) ?_ ?_ ?_
  · refine ⟨fun hle hlt => ?_, fun _ => rfl⟩
    rw [initial, hworkers] at hlt
    omega
  · intro c₁ connected _ ih
    have hsame : owners i ⟨c₁.shared, c₁.threads ++ [(remote settings).start connected]⟩ =
        owners i c₁ := by
      rw [owners, owners, List.countP_append]
      rfl
    rw [hsame]
    exact ih
  · intro c₁ k line event daemon' line' hc₁ ih _ hmoves
    have hle := (service_leads hc₁).length_le
    rw [initial, hworkers] at hle
    rcases owners_step hmoves i with ⟨howners, hlength⟩ | ⟨howners, hlength⟩
    · rw [howners, hlength]
      exact ih
    · rw [howners, hlength]
      split <;> omega

omit [Kernel] in
theorem answers_after (i : Nat) (wire : Wire) (peers : Peers) (thread : Option Nat) :
    Line.answers i (.idle (wire.after peers thread)) =
      Line.answers i (.idle wire) + if thread = some i then 1 else 0 := by
  cases thread with
  | none => simp [Line.answers, Line.wire?, Wire.after]
  | some j => simp [Line.answers, Line.wire?, Wire.after, List.count_singleton]

/-- A call that returns is written to the log and to its line. -/
theorem answers_step {k : Nat} {line line' : Line} {event : Event} {daemon' : Daemon}
    (hmoves : (remote settings).Moves c k line event daemon' line') (i : Nat) :
    answers i ⟨daemon', c.threads.set k line'⟩ + c.shared.log.countP (Entry.answeredBy i) =
      answers i c + daemon'.log.countP (Entry.answeredBy i) := by
  have hset := sum_set_add (Line.answers i) line' hmoves.thread
  have hreturn : ∀ (wire : Wire) (peers : Peers) (entry : Entry),
      Line.answers i (.idle (wire.after peers entry.thread)) +
          c.shared.log.countP (Entry.answeredBy i) =
        Line.answers i (.idle wire) + (c.shared.logged entry).log.countP (Entry.answeredBy i) := by
    intro wire peers entry
    rw [answers_after, Daemon.logged, List.countP_append, List.countP_singleton]
    simp only [Entry.answeredBy, decide_eq_true_eq]
    omega
  unfold answers
  cases lineMove hmoves with
  | @giveUp wire invocation since round result peers hundelivered hrequest hplay =>
    have hlogged := hreturn wire peers ⟨invocation, since, none, invocation.answer result⟩
    simp only [Line.answers, Line.wire?] at hset hlogged ⊢
    omega
  | @answer wire invocation since j round request ending result peers hthread hrequest hplay =>
    have hlogged := hreturn wire peers ⟨invocation, since, some j, invocation.answer result⟩
    simp only [Line.answers, Line.wire?] at hset hlogged ⊢
    omega
  | _ =>
    simp only [Line.answers, Line.wire?] at hset ⊢
    omega

theorem answers_eq (h : Reachable settings c) (i : Nat) :
    answers i c = c.shared.log.countP (Entry.answeredBy i) := by
  refine h.induct (motive := fun c =>
    answers i c = c.shared.log.countP (Entry.answeredBy i)) rfl ?_ ?_
  · intro c₁ connected _ ih
    have hsame : answers i ⟨c₁.shared, c₁.threads ++ [(remote settings).start connected]⟩ =
        answers i c₁ := by
      rw [answers, answers, List.map_append, List.sum_append]
      rfl
    rw [hsame]
    exact ih
  · intro c₁ k line event daemon' line' _ ih _ hmoves
    have hstep := answers_step hmoves i
    rw [ih, Nat.add_comm] at hstep
    exact Nat.add_left_cancel hstep

theorem Line.Sound.wire {service : Config Shared Thread} {line : Line} {wire : Wire}
    (h : line.Sound service) (hwire : line.wire? = some wire) : wire.Sound service := by
  cases line with
  | service => cases hwire
  | idle => cases hwire; exact h
  | calling => cases hwire; exact h.1
  | awaiting => cases hwire; exact h.1

/-- The daemon carries out what its clients call, each call at most once. The service makes a run of
its own; every dispatch in it belongs to exactly one call that has returned or still waits; a call
that was dispatched answers what the dispatch has returned, and one that was not has failed. What a
handler has dispatched are, one by one, dispatches of the service, and over all handlers they are
those that have answered the calls. -/
theorem calls_dispatched_once (hkernel : Kernel.Contract) (hversion : settings.VersionFits)
    (h : Reachable settings c) :
    (service settings).Leads Choice.Sane (Orchestration.initial settings) c.shared.service ∧
    (∀ i, (settings.config.maximumConcurrency.toNat ≤ i → i < c.shared.service.threads.length →
        owners i c = 1) ∧
      (i < settings.config.maximumConcurrency.toNat ∨ c.shared.service.threads.length ≤ i →
        owners i c = 0)) ∧
    (∀ entry ∈ c.shared.log, entry.Sound c.shared.service) ∧
    (∀ line ∈ c.threads, ∀ wire, line.wire? = some wire →
      List.Forall₂ (Dispatched c.shared.service) wire.peers.server.handler.dispatched wire.calls) ∧
    ∀ i, answers i c = c.shared.log.countP (Entry.answeredBy i) := by
  have hholds := outline_holds hkernel hversion h
  have hsound : c.shared.Sound settings := hholds.shared
  refine ⟨hsound.leads, owners_eq h, hsound.log, fun line hline wire hwire => ?_, answers_eq h⟩
  obtain ⟨k, hk⟩ := List.getElem?_of_mem hline
  have hline' : line.Sound c.shared.service := hholds.thread hk
  exact (hline'.wire hwire).dispatched

omit [Kernel] in
/-- The dispatch of the first `session.create` belongs to its call, and is the one that the handler
of this call has made. -/
theorem calls_dispatched_once_create :
    letI := sampleKernel
    ∃ (c : Config Daemon Line) (entry : Entry) (wire : Wire) (pair : Request × Response),
      Reachable sampleSettings c ∧ c.shared.log = [entry] ∧ owners 2 c = 1 ∧
      entry.Sound c.shared.service ∧ .idle wire ∈ c.threads ∧
      wire.peers.server.handler.dispatched = [pair] ∧ Dispatched c.shared.service pair 2 := by
  let _ : Kernel := sampleKernel
  obtain ⟨answer, wire, hcalls, hreachable⟩ := leads_createdService
  obtain ⟨-, howners, hlog, hdispatched, -⟩ :=
    calls_dispatched_once sampleKernel_contract versionFits_sampleSettings hreachable
  have hwire := hdispatched (.idle wire) (by simp) wire rfl
  rw [hcalls] at hwire
  obtain ⟨pair, rest, hpair, hrest, heq⟩ := List.forall₂_cons_right_iff.mp hwire
  rw [List.forall₂_nil_right_iff.mp hrest] at heq
  exact ⟨_, _, wire, pair, hreachable, rfl, (howners 2).1 (Nat.le_refl 2) (Nat.lt_succ_self 2),
    hlog _ (List.mem_singleton_self _), by simp, heq, hpair⟩

end Once

/-! ## What clients see of a job -/

omit [Kernel] in
/-- The job that a method is about. -/
def about : Invocation → Option JobId
  | .jobStatus id | .jobCancel id | .jobResult id | .jobRelease id => some id
  | _ => none

/-- The answer of a call shows the job in this view. -/
def Entry.Sees (entry : Entry) (view : JobView) : Prop :=
  ∃ id ending, view.answer? entry.invocation.request.method = some ending ∧
    Shows entry.invocation
      (respond { entry.invocation.request with requestId := id } ending fun _ => false) entry.answer

section Jobs

variable {settings : Settings} {c c' c₀ c₁ c₂ : Config Daemon Line}

/-- The dispatch of a call has returned what `dispatch` makes of its end. -/
theorem dispatch_of_entry (hversion : settings.VersionFits) (hsound : c.shared.Sound settings)
    {entry : Entry} (hentry : entry ∈ c.shared.log) {i : Nat} (hthread : entry.thread = some i) :
    entry.since ≤ i ∧ ∃ (id : UInt64) (ending : Ending),
      ending.Answers entry.invocation.request.method ∧ ending.Reports settings ∧
      (∃ response, c.shared.service.threads[i]? =
        some (.call { entry.invocation.request with requestId := id }
          (.returned ending response))) ∧
      Shows entry.invocation
        (respond { entry.invocation.request with requestId := id } ending fun _ => false)
        entry.answer := by
  have hlog := hsound.log entry hentry
  rw [Entry.Sound, hthread] at hlog
  obtain ⟨hsince, id, ending, response, hi, hshows⟩ := hlog
  obtain ⟨hanswers, hreports, rfl⟩ := hsound.returned hversion hi
  exact ⟨hsince, id, ending, hanswers, hreports, ⟨_, hi⟩, hshows⟩

theorem asked_of_entry (hversion : settings.VersionFits) (hsound : c'.shared.Sound settings)
    {entry : Entry} (hentry : entry ∈ c'.shared.log) (hdispatched : entry.thread ≠ none)
    {id : JobId} (habout : about entry.invocation = some id)
    (hsince : c.shared.service.threads.length ≤ entry.since) :
    ∃ requestId ending, Asked c.shared.service c'.shared.service id
        entry.invocation.request.method ending ∧
      Shows entry.invocation
        (respond { entry.invocation.request with requestId := requestId } ending fun _ => false)
        entry.answer := by
  obtain ⟨i, hi⟩ := Option.ne_none_iff_exists'.mp hdispatched
  obtain ⟨hle, requestId, ending, -, -, ⟨response, hthread⟩, hshows⟩ :=
    dispatch_of_entry hversion hsound hentry hi
  have hjob : AboutJob entry.invocation.request.method ∧ entry.invocation.request.jobId = id := by
    cases hinvocation : entry.invocation <;> rw [hinvocation] at habout <;> cases habout <;>
      exact ⟨trivial, rfl⟩
  exact ⟨requestId, ending, ⟨hjob.1, i, _, _, Nat.le_trans hsince hle, hthread, hjob.2, rfl, rfl⟩,
    hshows⟩

/-- Only a submit that has issued the job answers with it. -/
theorem submitted_of_shows {invocation : Invocation} {requestId : UInt64} {ending : Ending}
    {id : JobId} (hanswers : ending.Answers invocation.request.method)
    (hreports : ending.Reports settings)
    (hshows : Shows invocation
      (respond { invocation.request with requestId := requestId } ending fun _ => false)
      (.job (.ok id))) :
    ending = .submitted id := by
  have hplain : Plain
      (respond { invocation.request with requestId := requestId } ending fun _ => false) := by
    by_contra hcarries
    by_cases hsendable : Sendable
        (respond { invocation.request with requestId := requestId } ending fun _ => false)
    · cases hshows.result hcarries hsendable
    · obtain ⟨status, hstatus⟩ := hshows.refused hcarries hsendable
      cases hstatus
  have hanswer := hshows.same hplain
  cases invocation with
  | jobSubmit session plan =>
    rw [Invocation.answer, callResult, Answer.job.injEq] at hanswer
    cases ending with
    | submitted id' =>
      rw [show (respond { (Invocation.jobSubmit session plan).request with requestId := requestId }
        (.submitted id') fun _ => false).status.ok = true from Status.ok_success,
        if_pos rfl] at hanswer
      exact congrArg _ (Except.ok.inj hanswer).symm
    | failed failure =>
      rw [(reportable_of_failed hreports).not_ok, if_neg Bool.false_ne_true] at hanswer
      cases hanswer
    | _ => cases hanswers
  | _ => cases hanswer

/-- A job that a client has submitted was issued. -/
theorem issued_of_entry (hversion : settings.VersionFits) (hsound : c.shared.Sound settings)
    {entry : Entry} (hentry : entry ∈ c.shared.log) {id : JobId}
    (hanswer : entry.answer = .job (.ok id)) :
    ¬ NeverAnswered c.shared.service (.submitted id) := by
  cases hthread : entry.thread with
  | none =>
    have hlog := hsound.log entry hentry
    rw [Entry.Sound, hthread, hanswer] at hlog
    cases hlog
  | some i =>
    obtain ⟨-, requestId, ending, hanswers, hreports, ⟨response, hi⟩, hshows⟩ :=
      dispatch_of_entry hversion hsound hentry hthread
    rw [hanswer] at hshows
    have hending := submitted_of_shows hanswers hreports hshows
    intro hnever
    exact hnever _ (List.mem_of_getElem? hi) (congrArg some hending)

/-- What clients see of a job moves forward in real time. Take a job that some client has submitted
before `c₀`, a call about it that began after `c₀` and has returned in `c₁`, and another one that
began after `c₁`, of any clients. Then they see the job in two views, the later one not before the
earlier one. -/
theorem clients_see_forward (hkernel : Kernel.Contract) (hversion : settings.VersionFits)
    (h₀ : Reachable settings c₀) (h₁ : (remote settings).Leads Event.Sane c₀ c₁)
    (h₂ : (remote settings).Leads Event.Sane c₁ c₂) {id : JobId} {submit first second : Entry}
    (hsubmit : submit ∈ c₀.shared.log) (hid : submit.answer = .job (.ok id))
    (hfirst : first ∈ c₁.shared.log) (hdispatched : first.thread ≠ none)
    (habout : about first.invocation = some id)
    (hsince : c₀.shared.service.threads.length ≤ first.since)
    (hsecond : second ∈ c₂.shared.log) (hdispatched' : second.thread ≠ none)
    (habout' : about second.invocation = some id)
    (hsince' : c₁.shared.service.threads.length ≤ second.since) :
    ∃ view view' : JobView, view ≠ .unissued ∧ view ≤ view' ∧ first.Sees view ∧
      second.Sees view' := by
  have hreachable₁ : Reachable settings c₁ := Program.Leads.trans h₀ h₁
  have hreachable₂ : Reachable settings c₂ := Program.Leads.trans hreachable₁ h₂
  have hsound₀ : c₀.shared.Sound settings := (outline_holds hkernel hversion h₀).shared
  have hsound₁ : c₁.shared.Sound settings := (outline_holds hkernel hversion hreachable₁).shared
  have hsound₂ : c₂.shared.Sound settings := (outline_holds hkernel hversion hreachable₂).shared
  have hcalm₁ : Calm settings c₀.shared.service c₁.shared.service :=
    ⟨(service_leads h₁).mono fun _ => Choice.Sane.quiet, hsound₁.running⟩
  have hcalm₂ : Calm settings c₁.shared.service c₂.shared.service :=
    ⟨(service_leads h₂).mono fun _ => Choice.Sane.quiet, hsound₂.running⟩
  obtain ⟨requestId, ending, hasked, hshows⟩ :=
    asked_of_entry hversion hsound₁ hfirst hdispatched habout hsince
  obtain ⟨requestId', ending', hasked', hshows'⟩ :=
    asked_of_entry hversion hsound₂ hsecond hdispatched' habout' hsince'
  have hhistory := jobHistory (hsound₀.leads.mono fun _ => Choice.Sane.quiet) hcalm₁
    (issued_of_entry hversion hsound₀ hsubmit hid)
  obtain ⟨view, view', hissued, hle, hview, hview'⟩ :=
    hhistory.forward _ _ hasked _ _ _ hcalm₂ hasked'
  exact ⟨view, view', hissued, hle, ⟨requestId, ending, hview, hshows⟩,
    ⟨requestId', ending', hview', hshows'⟩⟩

/-- The first job of `sampleSettings` has been submitted. -/
def submittedService : Config Shared Thread :=
  ⟨sampleConfig.shared,
    createdService.threads ++ [servedThread (.jobSubmit ⟨7, 1⟩ default) (.submitted ⟨7, 1⟩)]⟩

/-- A `job.cancel` has marked its record. -/
def cancelledService : Config Shared Thread :=
  ⟨{ sampleConfig.shared with
      registry := { sampleConfig.shared.registry with
        records := sampleConfig.shared.registry.records.map JobRecord.cancel } },
    submittedService.threads ++ [servedThread (.jobCancel ⟨7, 1⟩) .cancelAccepted]⟩

omit [Kernel] in
/-- One client submits a job, another one cancels it and a third one asks for its status. -/
theorem clients_see_forward_cancelled :
    letI := sampleKernel
    ∃ (c₀ c₁ c₂ : Config Daemon Line) (answer answer' : Answer) (view view' : JobView),
      Reachable sampleSettings c₀ ∧ (remote sampleSettings).Leads Event.Sane c₀ c₁ ∧
      (remote sampleSettings).Leads Event.Sane c₁ c₂ ∧
      c₂.shared.log.drop 2 = [⟨.jobCancel ⟨7, 1⟩, 4, some 4, answer⟩,
        ⟨.jobStatus ⟨7, 1⟩, 5, some 5, answer'⟩] ∧
      view ≤ view' ∧ Entry.Sees ⟨.jobCancel ⟨7, 1⟩, 4, some 4, answer⟩ view ∧
      Entry.Sees ⟨.jobStatus ⟨7, 1⟩, 5, some 5, answer'⟩ view' := by
  let _ : Kernel := sampleKernel
  obtain ⟨created, wire, -, hcreated⟩ := leads_createdService
  obtain ⟨submitted, wire', -, hsubmitted⟩ := call_served sampleKernel_contract
    versionFits_sampleSettings hcreated rfl ⟨4, 3⟩ (.jobSubmit ⟨7, 1⟩ default) (by decide) ⟨_, rfl⟩
    (plainMoves 3 4) (sane_plainMoves 3 4) (show _ = some submittedService from rfl) rfl
  have h₀ := Program.Leads.trans hcreated hsubmitted
  obtain ⟨answer, wire₁, -, h₁⟩ :=
    call_served sampleKernel_contract versionFits_sampleSettings h₀ rfl
    ⟨4, 3⟩ (.jobCancel ⟨7, 1⟩) (by decide) ⟨_, rfl⟩ (plainMoves 4 4) (sane_plainMoves 4 4)
    (show _ = some cancelledService from rfl) rfl
  obtain ⟨answer', wire₂, -, h₂⟩ := call_served sampleKernel_contract versionFits_sampleSettings
    (Program.Leads.trans h₀ h₁) rfl ⟨4, 3⟩ (.jobStatus ⟨7, 1⟩) (by decide) ⟨_, rfl⟩
    (plainMoves 5 4) (sane_plainMoves 5 4) rfl rfl
  have hid : submitted = .job (.ok ⟨7, 1⟩) := by
    have hsound := (outline_holds sampleKernel_contract versionFits_sampleSettings h₀).shared
    obtain ⟨_, _, _, _, hthread, hshows⟩ :=
      hsound.log ⟨.jobSubmit ⟨7, 1⟩ default, 3, some 3, submitted⟩ List.mem_concat_self
    cases hthread
    exact hshows.same nofun
  obtain ⟨view, view', -, hle, hsees, hsees'⟩ := clients_see_forward sampleKernel_contract
    versionFits_sampleSettings h₀ h₁ h₂ List.mem_concat_self hid List.mem_concat_self (by simp) rfl
    (Nat.le_refl _) List.mem_concat_self (by simp) rfl (Nat.le_refl _)
  exact ⟨_, _, _, answer, answer', view, view', h₀, h₁, h₂, rfl, hle, hsees, hsees'⟩

end Jobs

end PhotospiderDaemon.Server.Remote
