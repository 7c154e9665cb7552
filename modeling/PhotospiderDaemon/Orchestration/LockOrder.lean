import PhotospiderDaemon.Foundation.ScopedLocks
import PhotospiderDaemon.Orchestration.Registry

/-!
# The mutexes of the service

What each function of `src/lib/orchestration/service.cpp` does to `lifecycle_mutex`,
`sessions_mutex`, the registry mutex and the record mutexes, with every early return and every
place where an exception can come from. Guards are blocks in the order of their declarations.
Calls into the kernel lock none of these mutexes. Data is left out: a condition can come out
either way, a list has any number of records, and a record that was looked up is any record.

The order `lifecycle_mutex`, `sessions_mutex`, registry, record then excludes deadlocks for any
number of calls and workers.
-/

namespace PhotospiderDaemon.Orchestration.LockOrder

open Foundation Foundation.ScopedLocks Foundation.ScopedLocks.Command

inductive Mutex where
  | lifecycle
  | sessions
  | registry
  | record (r : JobRef)
deriving DecidableEq

/-- A return whose value has to be built. -/
def returning : Command Mutex := block [code, ret]

/-! ## `JobRegistry` -/

def find : Command Mutex := call (locked .registry ret)

/-- `JobRegistry::submit`. -/
def registrySubmit : Command Mutex :=
  call <| locked .registry <| block [
    -- stopping, the bound of jobs, the last identifier
    branch returning,
    branch returning,
    branch returning,
    -- the record and its entry in the map
    code,
    code,
    branch returning,
    attempt code raise,
    returning]

/-- `status`, `cancel` and `result` find a record and then lock it. -/
def status : Command Mutex :=
  call <| block [find, branch returning, any fun r => locked (.record r) returning]

def cancel : Command Mutex :=
  call <| block [find, branch returning, any fun r => locked (.record r) <| block [
    branch returning,
    returning]]

def result : Command Mutex :=
  call <| block [find, branch returning, any fun r => locked (.record r) <| block [
    branch returning,
    branch returning,
    returning]]

def release : Command Mutex :=
  call <| locked .registry <| block [
    branch returning,
    any fun r => locked (.record r) (branch returning),
    returning]

/-- The three passes of `settle_close_records`. -/
def settleCloseRecords : Command Mutex :=
  call <| block [
    loop <| any fun r => locked (.record r) skip,
    -- a terminal record is left alone
    loop <| any fun r => locked (.record r) (branch skip),
    loop <| any fun r => locked (.record r) <| loop <| wait (.record r)]

/-- `JobRegistry::close_session`. What can fail stands in front of the three loops. -/
def registryCloseSession : Command Mutex :=
  call <| block [locked .registry code, settleCloseRecords]

def size : Command Mutex := call (locked .registry ret)

def finishFailure (r : JobRef) : Command Mutex := call (locked (.record r) code)

def finishCancelled (r : JobRef) : Command Mutex := call (locked (.record r) code)

def finishFailureSafely (r : JobRef) : Command Mutex :=
  call <| attempt (block [code, finishFailure r]) (attempt (locked (.record r) skip) skip)

def execute (r : JobRef) : Command Mutex :=
  call <| attempt (block [
      locked (.record r) (branch returning),
      branch (block [code, finishCancelled r, ret]),
      -- `compile`
      code,
      branch (block [code, finishFailure r, ret]),
      branch (block [code, finishCancelled r, ret]),
      -- `execute` of the kernel
      code,
      branch (block [either (finishCancelled r) (block [code, finishFailure r]), ret]),
      locked (.record r) (branch code)])
    (finishFailureSafely r)

def workerLoop : Command Mutex :=
  call <| loop <| block [
    locked .registry <| block [loop (wait .registry), branch ret],
    any execute]

/-! ## `Service::Impl` -/

/-- `~PendingSessionCreateReservation`, which does nothing if the reservation is not active. -/
def reservationDestructor : Command Mutex :=
  call <| block [branch ret, locked .lifecycle <| locked .sessions <| branch terminate]

/-- The locks of the second section are declared after the reservation, so its destructor runs
when they are released. -/
def createSession : Command Mutex :=
  call <| owning reservationDestructor <| block [
    locked .lifecycle <| locked .sessions <| block [
      branch returning,
      branch returning,
      -- `reserve_while_locked`
      branch terminate],
    -- the candidate graph and its compilation
    code,
    branch returning,
    code,
    locked .lifecycle <| locked .sessions <| block [
      branch returning,
      -- the insertion
      code,
      branch returning,
      -- `commit_while_locked`
      branch terminate,
      returning]]

def finalizeSessionClose : Command Mutex :=
  call <| locked .lifecycle <| locked .sessions <| branch terminate

def closeSession : Command Mutex :=
  call <| block [
    locked .lifecycle <| locked .sessions <| branch returning,
    attempt registryCloseSession
      (block [locked .lifecycle <| locked .sessions <| skip, raise]),
    finalizeSessionClose,
    returning]

def submit : Command Mutex :=
  call <| locked .lifecycle <| block [
    locked .sessions (branch returning),
    registrySubmit,
    ret]

def sessionCount : Command Mutex := call (locked .sessions ret)

/-- The `daemon.info` branch of `dispatch`. -/
def info : Command Mutex := block [code, sessionCount, size]

/-- `Service::dispatch`: the check of the shutdown flag, the method, its response and the
exception fences. -/
def dispatch (method : Command Mutex) : Command Mutex :=
  call <| block [
    attempt (block [branch returning, method, code]) (attempt code skip),
    ret]

inductive Operation where
  | sessionCreate
  | sessionClose
  | jobSubmit
  | jobStatus
  | jobCancel
  | jobResult
  | jobRelease
  | daemonInfo
  | daemonShutdown
  | worker

def program : Operation → Command Mutex
  | .sessionCreate => dispatch createSession
  | .sessionClose => dispatch closeSession
  | .jobSubmit => dispatch submit
  | .jobStatus => dispatch status
  | .jobCancel => dispatch cancel
  | .jobResult => dispatch result
  | .jobRelease => dispatch release
  | .daemonInfo => dispatch info
  | .daemonShutdown => dispatch skip
  | .worker => workerLoop

/-! ## The order -/

def rank : Mutex → Nat
  | .lifecycle => 0
  | .sessions => 1
  | .registry => 2
  | .record _ => 3

/-- Mutexes are locked in the order of their ranks, and no thread waits on a condition variable
while it holds another mutex. -/
def order : Discipline Mutex := ranked rank fun others _ => others = []

@[simp] theorem order_may {held : List Mutex} {mutex : Mutex} :
    order.may held mutex ↔ ∀ mutex' ∈ held, rank mutex' < rank mutex := Iff.rfl

@[simp] theorem order_sleeps {others : List Mutex} {mutex : Mutex} :
    order.sleeps others mutex ↔ others = [] := Iff.rfl

@[simp] theorem returning_follows {held : List Mutex} : returning.Follows order held := by
  simp [returning, Command.Follows]

/-! Each function keeps to the order with what its callers hold. -/

theorem find_follows : find.Follows order [] := by
  simp [find, Command.Follows]

/-- The caller holds `lifecycle_mutex`. -/
theorem registrySubmit_follows : registrySubmit.Follows order [.lifecycle] := by
  simp [registrySubmit, Command.Follows, rank]

theorem status_follows : status.Follows order [] := by
  simp [status, find_follows, Command.Follows]

theorem cancel_follows : cancel.Follows order [] := by
  simp [cancel, find_follows, Command.Follows]

theorem result_follows : result.Follows order [] := by
  simp [result, find_follows, Command.Follows]

/-- The record is locked while the registry is. -/
theorem release_follows : release.Follows order [] := by
  simp [release, Command.Follows, rank]

theorem settleCloseRecords_follows : settleCloseRecords.Follows order [] := by
  simp [settleCloseRecords, Command.Follows]

theorem registryCloseSession_follows : registryCloseSession.Follows order [] := by
  simp [registryCloseSession, settleCloseRecords_follows, Command.Follows]

theorem finishFailure_follows (r : JobRef) : (finishFailure r).Follows order [] := by
  simp [finishFailure, Command.Follows]

theorem finishCancelled_follows (r : JobRef) : (finishCancelled r).Follows order [] := by
  simp [finishCancelled, Command.Follows]

theorem finishFailureSafely_follows (r : JobRef) : (finishFailureSafely r).Follows order [] := by
  simp [finishFailureSafely, finishFailure_follows, Command.Follows]

theorem execute_follows (r : JobRef) : (execute r).Follows order [] := by
  simp [execute, finishFailure_follows, finishCancelled_follows, finishFailureSafely_follows,
    Command.Follows]

theorem workerLoop_follows : workerLoop.Follows order [] := by
  simp [workerLoop, execute_follows, Command.Follows]

theorem reservationDestructor_follows : reservationDestructor.Follows order [] := by
  simp [reservationDestructor, Command.Follows, rank]

theorem createSession_follows : createSession.Follows order [] := by
  simp [createSession, reservationDestructor_follows, Command.Follows, rank]

theorem finalizeSessionClose_follows : finalizeSessionClose.Follows order [] := by
  simp [finalizeSessionClose, Command.Follows, rank]

theorem closeSession_follows : closeSession.Follows order [] := by
  simp [closeSession, registryCloseSession_follows, finalizeSessionClose_follows, Command.Follows,
    rank]

theorem submit_follows : submit.Follows order [] := by
  simp [submit, registrySubmit_follows, Command.Follows, rank]

theorem info_follows : info.Follows order [] := by
  simp [info, sessionCount, size, Command.Follows]

theorem dispatch_follows {method : Command Mutex} (h : method.Follows order []) :
    (dispatch method).Follows order [] := by
  simp [dispatch, h, Command.Follows]

theorem program_follows (operation : Operation) : (program operation).Follows order [] := by
  cases operation with
  | sessionCreate => exact dispatch_follows createSession_follows
  | sessionClose => exact dispatch_follows closeSession_follows
  | jobSubmit => exact dispatch_follows submit_follows
  | jobStatus => exact dispatch_follows status_follows
  | jobCancel => exact dispatch_follows cancel_follows
  | jobResult => exact dispatch_follows result_follows
  | jobRelease => exact dispatch_follows release_follows
  | daemonInfo => exact dispatch_follows info_follows
  | daemonShutdown => exact dispatch_follows trivial
  | worker => exact workerLoop_follows

/-! ## Any number of calls and workers -/

/-- The configurations that any interleaving of calls and workers can reach. -/
def Reachable (c : Config (Owners Mutex) (State Mutex)) : Prop :=
  (system program).Leads (fun _ => True) ScopedLocks.initial c

/-- No two threads hold the same mutex; none requests a mutex that it holds; threads do not wait
for each other in a circle; and one that waits for a record to become terminal holds none of the
other mutexes. -/
theorem no_deadlock {c : Config (Owners Mutex) (State Mutex)} (h : Reachable c) :
    (∀ (i j : Nat) (state state' : State Mutex) (mutex : Mutex), c.threads[i]? = some state →
      c.threads[j]? = some state' → mutex ∈ state.holds → mutex ∈ state'.holds → i = j) ∧
    (∀ state ∈ c.threads, ∀ mutex, state.requests = some mutex → mutex ∉ state.holds) ∧
    (∀ i, ¬ Relation.TransGen (WaitsFor c) i i) ∧
    ∀ state ∈ c.threads, ∀ r frames,
      state = .sleeping (.record r) frames ∨ state = .waking (.record r) frames →
      Mutex.lifecycle ∉ state.holds ∧ Mutex.sessions ∉ state.holds ∧
        Mutex.registry ∉ state.holds := by
  have hfollows := follows_of_leads program_follows h
  refine ⟨?_, ?_, not_waitsFor_cycle hfollows, ?_⟩
  · intro i j state state' mutex hi hj hmem hmem'
    have howner := (owner_iff program_follows h mutex i).mpr ⟨state, hi, hmem⟩
    have howner' := (owner_iff program_follows h mutex j).mpr ⟨state', hj, hmem'⟩
    exact Option.some.inj (howner.symm.trans howner')
  · intro state hstate mutex hrequests
    exact order.fresh ((hfollows state hstate).may_requests hrequests)
  · intro state hstate r frames hwaits
    have hholds : state.holds = [] := (hfollows state hstate).sleeps hwaits
    rw [hholds]
    exact ⟨nofun, nofun, nofun⟩

/-- The thread waits for the first record to become terminal. -/
def waitsForFirst : State Mutex → Bool
  | .sleeping (.record 0) _ => true
  | _ => false

/-- A close finds its session, has taken one popped record from the registry and waits for it. -/
def sampleWait : List (Act Nat Operation) :=
  .spawn .sessionClose :: (List.replicate 4 0 ++ [1] ++ List.replicate 7 0 ++ [1] ++
    List.replicate 22 0 ++ [1, 0, 0, 1, 0]).map (Act.move 0)

theorem no_deadlock_waiting_close :
    ∃ c state frames, Reachable c ∧ c.threads = [state] ∧ state = .sleeping (.record 0) frames ∧
      Mutex.lifecycle ∉ state.holds ∧ Mutex.sessions ∉ state.holds ∧
        Mutex.registry ∉ state.holds := by
  have htest : ((system program).run ScopedLocks.initial sampleWait).any (fun c =>
      c.threads.length = 1 ∧ ∀ state ∈ c.threads, waitsForFirst state = true) = true := by
    decide +kernel
  obtain ⟨c, hrun, hwaits⟩ := (Option.any_eq_true _ _).mp htest
  rw [decide_eq_true_iff] at hwaits
  have hreachable : Reachable c := ⟨sampleWait, fun act _ => by cases act <;> trivial, hrun⟩
  obtain ⟨state, hthreads⟩ := List.length_eq_one_iff.mp hwaits.1
  have hmem : state ∈ c.threads := by rw [hthreads]; exact List.mem_singleton_self state
  have hstate := hwaits.2 state hmem
  unfold waitsForFirst at hstate
  split at hstate
  · rename_i frames
    exact ⟨c, _, frames, hreachable, hthreads, rfl,
      (no_deadlock hreachable).2.2.2 _ hmem 0 frames (Or.inl rfl)⟩
  · cases hstate

end PhotospiderDaemon.Orchestration.LockOrder
