import PhotospiderDaemon.Server.Inventory

/-!
# Stopping interrupts every connection

* `Inventory.Sound`: each key of `active_connections` is an open descriptor of a registered
  handler. `Fits` is what a thread knows on top of it; `Spares` is what a step leaves to the other
  threads.
* `holds_outline`: the two hold in every configuration that can be reached.
* `stop_interrupts`: the result. A walk meets every registered handler and shuts down nothing else,
  and after it no handler comes into the loop.
-/

namespace PhotospiderDaemon.Server.Connections

open Foundation Ipc Orchestration

/-! ## What holds of the inventory -/

namespace Inventory

structure Sound (v : Inventory) : Prop where
  opened : ∀ {id d : Nat} {owner : Owner}, v.owners[id]? = some (d, owner) → owner ≠ .nobody →
    v.descriptors.find? d = some (.connection id)
  keyed : ∀ {d : Nat}, (v.keys.find? d).isSome ↔ ∃ id : Nat, v.owners[id]? = some (d, .registered)
  listening : ∀ {d : Nat}, v.listener = some d → v.descriptors.find? d = some .listener
  walked : v.walked = true → v.stopping = true
  own : .other ∉ v.interrupted

/-- What the first caller of `stop()`, thread `i`, knows. While it walks it has the mutex, so
`active_connections` stays as it was. -/
def StopFits (i : Nat) (v : Inventory) : StopStage → Prop
  | .entered | .returned => True
  | .claimed | .locking => v.stopping = true ∧ v.walked = false
  | .closing d =>
    (v.stopping = true ∧ v.walked = false) ∧ v.listener = none ∧
      v.descriptors.find? d = some .listener
  | .walking rest =>
    (v.stopping = true ∧ v.walked = false) ∧ v.mutex = some i ∧
      (∀ d ∈ rest, (v.keys.find? d).isSome) ∧
      ∀ {id d : Nat}, v.owners[id]? = some (d, .registered) →
        d ∈ rest ∨ .connection id ∈ v.interrupted

/-- What thread `i` knows. -/
structure Fits (i : Nat) (v : Inventory) (g : Grip) : Prop where
  held : ∀ {connection : UniqueDescriptor} {owner : Owner}, g.held = some (connection, owner) →
    v.owners[connection.id]? = some (connection.descriptor, owner) ∧ owner ≠ .closure ∧
      owner ≠ .nobody
  stop : StopFits i v g.stop
  turn : g.turn = true → ∃ connection, g.held = some (connection, .registered) ∧
    (v.walked = true → .connection connection.id ∈ v.interrupted)

/-- A connection has one thread, and so has the first call of `stop()`. -/
structure Apart (g m : Grip) : Prop where
  held : ∀ {connection connection' : UniqueDescriptor} {owner owner' : Owner},
    g.held = some (connection, owner) → m.held = some (connection', owner') →
      connection.id ≠ connection'.id
  stop : g.stop.first = true → m.stop.first = true → False

/-- What a step of thread `i` leaves to the other threads. -/
structure Spares (i : Nat) (v : Inventory) (g : Grip) (v' : Inventory) : Prop where
  stopping : v.stopping = true → v'.stopping = true
  walked : v'.walked = true → v.walked = true ∨ g.stop = .walking []
  entry : ∀ {id d : Nat} {owner : Owner}, v.owners[id]? = some (d, owner) →
    v'.owners[id]? = some (d, owner) ∨ (∃ connection owner', g.held = some (connection, owner') ∧
      connection.id = id) ∨ owner = .closure
  registered : ∀ {id d : Nat}, v'.owners[id]? = some (d, .registered) →
    v.owners[id]? = some (d, .registered) ∨ v.mutex = none
  mutex : ∀ {j : Nat}, v.mutex = some j → i ≠ j → v'.mutex = some j
  keys : ∀ {j : Nat}, v.mutex = some j → v'.keys = v.keys
  interrupted : ∀ {file : File}, file ∈ v.interrupted → file ∈ v'.interrupted
  taken : v.listener = none → v'.listener = none
  listener : ∀ {d : Nat}, v.descriptors.find? d = some .listener →
    v'.descriptors.find? d = some .listener ∨ g.stop = .closing d

variable {i j : Nat} {v v' : Inventory} {g g' m : Grip}

/-! ## Handing a connection over -/

theorem give_self {id d : Nat} {owner owner' : Owner} (h : v.owners[id]? = some (d, owner)) :
    (v.give id owner').owners[id]? = some (d, owner') := by
  unfold give
  dsimp only
  rw [List.getElem?_modify, h]
  simp

theorem give_of_ne {id id' : Nat} (owner : Owner) (h : id ≠ id') :
    (v.give id owner).owners[id']? = v.owners[id']? := by
  unfold give
  dsimp only
  rw [List.getElem?_modify]
  simp [h]

/-- The registered handlers after connection `id` was handed over. -/
theorem registered_give_iff {id id' d d' : Nat} {owner owner' : Owner}
    (hid : v.owners[id]? = some (d, owner)) :
    (v.give id owner').owners[id']? = some (d', .registered) ↔
      id = id' ∧ d = d' ∧ owner' = .registered ∨
        id ≠ id' ∧ v.owners[id']? = some (d', .registered) := by
  by_cases heq : id = id'
  · subst heq
    rw [give_self hid]
    simp
  · rw [give_of_ne owner' heq]
    simp [heq]

/-! ## Numbers -/

theorem find?_erase_of_ne {d d' : Nat} {file file' : File} (h : v.descriptors.find? d = some file)
    (h' : v.descriptors.find? d' = some file') (hfile : file ≠ file') :
    (v.descriptors.erase d).find? d' = some file' := by
  rw [OrderedMap.find?_erase, if_neg]
  · exact h'
  · rintro rfl
    rw [h] at h'
    exact hfile (Option.some.inj h')

theorem find?_emplace_of_some {d d' : Nat} {file' : File} (file : File)
    (hnew : v.descriptors.find? d = none) (h' : v.descriptors.find? d' = some file') :
    (v.descriptors.emplace d file).1.find? d' = some file' := by
  rw [OrderedMap.find?_emplace _ hnew, if_neg]
  · exact h'
  · rintro rfl
    rw [hnew] at h'
    cases h'

/-- Two connections never have the same number. -/
theorem Sound.id_eq (h : v.Sound) {id id' d : Nat} {owner owner' : Owner}
    (hid : v.owners[id]? = some (d, owner)) (howner : owner ≠ .nobody)
    (hid' : v.owners[id']? = some (d, owner')) (howner' : owner' ≠ .nobody) : id = id' := by
  have hopen := h.opened hid howner
  rw [h.opened hid' howner'] at hopen
  cases hopen
  rfl

/-- The number of a handler in front of its registration is not a key. -/
theorem Sound.unregistered (h : v.Sound) {id d : Nat} {owner : Owner}
    (hid : v.owners[id]? = some (d, owner)) (hnobody : owner ≠ .nobody)
    (hregistered : owner ≠ .registered) : v.keys.find? d = none := by
  rw [← Option.not_isSome_iff_eq_none, h.keyed]
  rintro ⟨id', hid'⟩
  have heq := h.id_eq hid hnobody hid' (by decide)
  subst heq
  rw [hid] at hid'
  cases hid'
  exact hregistered rfl

/-! ## The inventory stays sound -/

theorem Sound.opened_give (h : v.Sound) {id d : Nat} {owner : Owner} (owner' : Owner)
    (hid : v.owners[id]? = some (d, owner)) (hnobody : owner ≠ .nobody) {id' d' : Nat}
    {owner₁ : Owner} (hid' : (v.give id owner').owners[id']? = some (d', owner₁))
    (howner₁ : owner₁ ≠ .nobody) : v.descriptors.find? d' = some (.connection id') := by
  by_cases heq : id = id'
  · subst heq
    rw [give_self hid] at hid'
    cases hid'
    exact h.opened hid hnobody
  · rw [give_of_ne owner' heq] at hid'
    exact h.opened hid' howner₁

/-- A handler that is not registered, before or after. -/
theorem Sound.keyed_give (h : v.Sound) {id d : Nat} {owner owner' : Owner}
    (hid : v.owners[id]? = some (d, owner)) (hregistered : owner ≠ .registered)
    (hregistered' : owner' ≠ .registered) {d' : Nat} :
    (v.keys.find? d').isSome ↔
      ∃ id' : Nat, (v.give id owner').owners[id']? = some (d', .registered) := by
  refine h.keyed.trans (exists_congr fun id' => ?_)
  rw [registered_give_iff hid]
  by_cases heq : id = id'
  · subst heq
    rw [hid]
    simp [hregistered, hregistered']
  · simp [heq]

theorem Sound.give (h : v.Sound) {id d : Nat} {owner owner' : Owner}
    (hid : v.owners[id]? = some (d, owner)) (hnobody : owner ≠ .nobody)
    (hregistered : owner ≠ .registered) (hregistered' : owner' ≠ .registered) :
    (v.give id owner').Sound :=
  ⟨h.opened_give owner' hid hnobody, h.keyed_give hid hregistered hregistered', h.listening,
    h.walked, h.own⟩

theorem Sound.register (h : v.Sound) {id d : Nat} (hid : v.owners[id]? = some (d, .handler)) :
    ({ v.give id .registered with keys := (v.keys.emplace d d).1 } : Inventory).Sound := by
  refine ⟨h.opened_give _ hid (by decide), ?_, h.listening, h.walked, h.own⟩
  intro d'
  have hnew := h.unregistered hid (by decide) (by decide)
  show ((v.keys.emplace d d).1.find? d').isSome ↔
    ∃ id' : Nat, (v.give id .registered).owners[id']? = some (d', .registered)
  rw [OrderedMap.find?_emplace _ hnew]
  by_cases hd : d' = d
  · subst hd
    exact ⟨fun _ => ⟨id, give_self hid⟩, fun _ => by rw [if_pos rfl]; rfl⟩
  · rw [if_neg hd]
    refine h.keyed.trans (exists_congr fun id' => ?_)
    rw [registered_give_iff hid]
    by_cases heq : id = id'
    · subst heq
      rw [hid]
      simp [Ne.symm hd]
    · simp [heq]

theorem Sound.unregister (h : v.Sound) {id d : Nat} (hid : v.owners[id]? = some (d, .registered)) :
    ({ v.give id .handler with keys := v.keys.erase d } : Inventory).Sound := by
  refine ⟨h.opened_give _ hid (by decide), ?_, h.listening, h.walked, h.own⟩
  intro d'
  show ((v.keys.erase d).find? d').isSome ↔
    ∃ id' : Nat, (v.give id .handler).owners[id']? = some (d', .registered)
  rw [OrderedMap.find?_erase]
  by_cases hd : d' = d
  · subst hd
    rw [if_pos rfl]
    refine ⟨fun hkey => (by cases hkey), ?_⟩
    rintro ⟨id', hid'⟩
    rcases (registered_give_iff hid).mp hid' with ⟨_, _, howner⟩ | ⟨hne, hother⟩
    · cases howner
    · exact absurd (h.id_eq hid (by decide) hother (by decide)) hne
  · rw [if_neg hd]
    refine h.keyed.trans (exists_congr fun id' => ?_)
    rw [registered_give_iff hid]
    by_cases heq : id = id'
    · subst heq
      rw [hid]
      simp [Ne.symm hd]
    · simp [heq]

theorem Sound.close (h : v.Sound) {id d : Nat} {owner : Owner}
    (hid : v.owners[id]? = some (d, owner)) (hnobody : owner ≠ .nobody)
    (hregistered : owner ≠ .registered) :
    ({ v.give id .nobody with descriptors := v.descriptors.erase d } : Inventory).Sound := by
  have hopen := h.opened hid hnobody
  refine ⟨?_, h.keyed_give hid hregistered (by decide), ?_, h.walked, h.own⟩
  · intro id' d' owner' hid' howner'
    have hid'' : (v.give id .nobody).owners[id']? = some (d', owner') := hid'
    by_cases heq : id = id'
    · subst heq
      rw [give_self hid] at hid''
      cases hid''
      exact absurd rfl howner'
    · rw [give_of_ne _ heq] at hid''
      refine find?_erase_of_ne hopen (h.opened hid'' howner') ?_
      rintro ⟨⟩
      exact heq rfl
  · intro d' hlistener
    exact find?_erase_of_ne hopen (h.listening hlistener) (by rintro ⟨⟩)

theorem Sound.accept (h : v.Sound) {d : Nat} (hnew : v.descriptors.find? d = none) :
    ({ v with
        descriptors := (v.descriptors.emplace d (.connection v.owners.length)).1
        owners := v.owners ++ [(d, .acceptor)] } : Inventory).Sound := by
  refine ⟨?_, ?_, fun hlistener => find?_emplace_of_some _ hnew (h.listening hlistener), h.walked,
    h.own⟩
  · intro id' d' owner' hid' howner'
    rcases getElem?_snoc hid' with hold | ⟨rfl, hentry⟩
    · exact find?_emplace_of_some _ hnew (h.opened hold howner')
    · cases hentry
      show (v.descriptors.emplace d (.connection v.owners.length)).1.find? d = _
      rw [OrderedMap.find?_emplace _ hnew, if_pos rfl]
  · intro d'
    refine h.keyed.trans ⟨?_, ?_⟩
    · rintro ⟨id', hid'⟩
      have hlt := (List.getElem?_eq_some_iff.mp hid').1
      exact ⟨id', (List.getElem?_append_left hlt).trans hid'⟩
    · rintro ⟨id', hid'⟩
      rcases getElem?_snoc hid' with hold | ⟨rfl, hentry⟩
      · exact ⟨id', hold⟩
      · cases hentry

/-- A shutdown of a number of this server. -/
theorem Sound.shutdown (h : v.Sound) {d : Nat} (hd : v.descriptors.find? d ≠ some .other) :
    (v.shutdown d).Sound := by
  refine ⟨h.opened, h.keyed, h.listening, h.walked, ?_⟩
  intro hmem
  rcases List.mem_append.mp hmem with hfile | hold
  · exact hd (Option.mem_toList.mp hfile)
  · exact h.own hold

theorem Sound.stopStep (h : v.Sound) {stage stage' : StopStage}
    (hstep : StopStep i v stage v' stage') (hfits : StopFits i v stage) : v'.Sound := by
  cases hstep with
  | late | bare => exact h
  | claim hstopping => exact ⟨h.opened, h.keyed, h.listening, fun _ => rfl, h.own⟩
  | take hlistener => exact ⟨h.opened, h.keyed, by rintro d ⟨⟩, h.walked, h.own⟩
  | close listener =>
    obtain ⟨_, htaken, hfile⟩ := hfits
    have hshut := h.shutdown (d := listener) (by rw [hfile]; rintro ⟨⟩)
    refine ⟨?_, hshut.keyed, ?_, hshut.walked, hshut.own⟩
    · intro id' d' owner' hid' howner'
      exact find?_erase_of_ne hfile (h.opened hid' howner') (by rintro ⟨⟩)
    · intro d' hlistener
      have hnone : v.listener = some d' := hlistener
      rw [htaken] at hnone
      cases hnone
  | lock hmutex => exact ⟨h.opened, h.keyed, h.listening, h.walked, h.own⟩
  | visit d rest =>
    obtain ⟨_, _, hkeys, _⟩ := hfits
    obtain ⟨id, hid⟩ := h.keyed.mp (hkeys d List.mem_cons_self)
    exact h.shutdown (by rw [h.opened hid (by decide)]; rintro ⟨⟩)
  | unlock =>
    obtain ⟨⟨hstopping, _⟩, _⟩ := hfits
    exact ⟨h.opened, h.keyed, h.listening, fun _ => hstopping, h.own⟩

/-- A step of a thread keeps the inventory sound. -/
theorem Sound.step (h : v.Sound) (hstep : Step i v g v' g') (hfits : Fits i v g) : v'.Sound := by
  cases hstep with
  | quiet => exact h
  | stop hstop => exact h.stopStep hstop hfits.stop
  | accept hfree hnew => exact h.accept hnew
  | launch hheld =>
    obtain ⟨hid, _, _⟩ := hfits.held hheld
    exact h.give hid (by decide) (by decide) (by decide)
  | begin hfree howner => exact h.give howner (by decide) (by decide) (by decide)
  | register hmutex hheld => exact h.register (hfits.held hheld).1
  | unregister hmutex hheld => exact h.unregister (hfits.held hheld).1
  | close hheld howner hstop =>
    obtain ⟨hid, _, hnobody⟩ := hfits.held hheld
    exact h.close hid hnobody howner
  | openFile hfree hnew =>
    refine ⟨fun hid howner => ?_, h.keyed, fun hlistener => ?_, h.walked, h.own⟩
    · exact find?_emplace_of_some _ hnew (h.opened hid howner)
    · exact find?_emplace_of_some _ hnew (h.listening hlistener)
  | closeFile hfree hopen =>
    refine ⟨fun hid howner => ?_, h.keyed, fun hlistener => ?_, h.walked, h.own⟩
    · exact find?_erase_of_ne hopen (h.opened hid howner) (by rintro ⟨⟩)
    · exact find?_erase_of_ne hopen (h.listening hlistener) (by rintro ⟨⟩)

/-! ## What the thread of a step knows afterwards -/

theorem mem_keys_iff {d : Nat} : d ∈ v.keys.entries.map Prod.fst ↔ (v.keys.find? d).isSome := by
  rw [List.mem_map, Option.isSome_iff_exists]
  constructor
  · rintro ⟨⟨_, value⟩, hmem, rfl⟩
    exact ⟨value, OrderedMap.mem_entries_iff_find?.mp hmem⟩
  · rintro ⟨value, hfind⟩
    exact ⟨(d, value), OrderedMap.mem_entries_iff_find?.mpr hfind, rfl⟩

theorem StopFits.own (h : v.Sound) {stage stage' : StopStage} (hstep : StopStep i v stage v' stage')
    (hfits : StopFits i v stage) : StopFits i v' stage' := by
  cases hstep with
  | late | unlock => trivial
  | claim hstopping =>
    refine ⟨rfl, ?_⟩
    by_contra hwalked
    rw [h.walked (Bool.eq_true_of_not_eq_false hwalked)] at hstopping
    cases hstopping
  | take hlistener => exact ⟨hfits, rfl, h.listening hlistener⟩
  | bare => exact hfits
  | close listener => exact hfits.1
  | lock hmutex =>
    refine ⟨hfits, rfl, fun d hd => mem_keys_iff.mp hd, ?_⟩
    intro id d hid
    exact Or.inl (mem_keys_iff.mpr (h.keyed.mpr ⟨id, hid⟩))
  | visit d rest =>
    obtain ⟨hfirst, hmutex, hkeys, hall⟩ := hfits
    refine ⟨hfirst, hmutex, fun d' hd' => hkeys d' (List.mem_cons_of_mem _ hd'), ?_⟩
    intro id d' hid
    rcases hall hid with hmem | hold
    · rcases List.mem_cons.mp hmem with rfl | hrest
      · refine Or.inr (List.mem_append_left _ ?_)
        rw [h.opened hid (by decide)]
        exact List.mem_singleton_self _
      · exact Or.inl hrest
    · exact Or.inr (List.mem_append_right _ hold)

/-- Outside of a first `stop()` there is nothing to know about it. -/
theorem stopFits_of_not_first {stage : StopStage} (h : stage.first = false) :
    StopFits i v stage := by
  cases stage with
  | entered | returned => trivial
  | _ => cases h

theorem Fits.own (h : v.Sound) (hstep : Step i v g v' g') (hfits : Fits i v g) : Fits i v' g' := by
  cases hstep with
  | quiet hheld hstop hturn =>
    refine ⟨fun hconnection => hfits.held (hheld ▸ hconnection), stopFits_of_not_first hstop, ?_⟩
    intro hserving
    rw [hheld]
    rcases hturn hserving with hbefore | ⟨hstopping, connection, hregistered⟩
    · exact hfits.turn hbefore
    · refine ⟨connection, hregistered, fun hwalked => ?_⟩
      rw [h.walked hwalked] at hstopping
      cases hstopping
  | stop hstop =>
    refine ⟨?_, hfits.stop.own h hstop, by rintro ⟨⟩⟩
    intro connection owner hheld
    have hentry := hfits.held hheld
    cases hstop <;> exact hentry
  | accept hfree hnew =>
    refine ⟨?_, trivial, by rintro ⟨⟩⟩
    rintro connection owner ⟨⟩
    exact ⟨List.getElem?_concat_length, by decide, by decide⟩
  | launch hheld => exact ⟨by rintro connection owner ⟨⟩, trivial, by rintro ⟨⟩⟩
  | begin hfree howner =>
    refine ⟨?_, trivial, by rintro ⟨⟩⟩
    rintro connection owner ⟨⟩
    exact ⟨give_self howner, by decide, by decide⟩
  | register hmutex hheld | unregister hmutex hheld =>
    refine ⟨?_, trivial, by rintro ⟨⟩⟩
    rintro connection owner ⟨⟩
    exact ⟨give_self (hfits.held hheld).1, by decide, by decide⟩
  | close hheld howner hstop =>
    exact ⟨by rintro connection owner ⟨⟩, stopFits_of_not_first hstop, by rintro ⟨⟩⟩
  | openFile hfree hnew => exact ⟨by rintro connection owner ⟨⟩, trivial, by rintro ⟨⟩⟩
  | closeFile hfree hopen => exact ⟨by rintro connection owner ⟨⟩, trivial, by rintro ⟨⟩⟩

/-! ## What the other threads know afterwards -/

/-- A thread that hands over the connection it owns changes no other entry. -/
theorem give_entry {connection : UniqueDescriptor} {owner : Owner}
    (hheld : g.held = some (connection, owner)) (owner' : Owner) {id d : Nat} {owner₁ : Owner}
    (hid : v.owners[id]? = some (d, owner₁)) :
    (v.give connection.id owner').owners[id]? = some (d, owner₁) ∨
      (∃ connection owner, g.held = some (connection, owner) ∧ connection.id = id) ∨
        owner₁ = .closure := by
  by_cases heq : connection.id = id
  · exact Or.inr (Or.inl ⟨connection, owner, hheld, heq⟩)
  · rw [give_of_ne owner' heq]
    exact Or.inl hid

theorem registered_of_give {id id' d d' : Nat} {owner owner' : Owner}
    (hid : v.owners[id]? = some (d, owner)) (howner' : owner' ≠ .registered)
    (h : (v.give id owner').owners[id']? = some (d', .registered)) :
    v.owners[id']? = some (d', .registered) := by
  rcases (registered_give_iff hid).mp h with ⟨_, _, heq⟩ | ⟨_, hother⟩
  · exact absurd heq howner'
  · exact hother

theorem spares_stopStep {held : Option (UniqueDescriptor × Owner)} {stage stage' : StopStage}
    (hstep : StopStep i v stage v' stage') (hfits : StopFits i v stage) :
    Spares i v ⟨held, stage, false⟩ v' := by
  cases hstep with
  | late | bare =>
    exact ⟨id, Or.inl, Or.inl, Or.inl, fun h _ => h, fun _ => rfl, id, id, Or.inl⟩
  | claim hstopping =>
    exact ⟨fun _ => rfl, Or.inl, Or.inl, Or.inl, fun h _ => h, fun _ => rfl, id, id, Or.inl⟩
  | take hlistener =>
    exact ⟨id, Or.inl, Or.inl, Or.inl, fun h _ => h, fun _ => rfl, id, fun _ => rfl, Or.inl⟩
  | close listener =>
    refine ⟨id, Or.inl, Or.inl, Or.inl, fun h _ => h, fun _ => rfl, List.mem_append_right _, id, ?_⟩
    intro d hd
    by_cases heq : d = listener
    · subst heq
      exact Or.inr rfl
    · refine Or.inl ?_
      show (v.descriptors.erase listener).find? d = _
      rw [OrderedMap.find?_erase, if_neg heq, hd]
  | lock hmutex =>
    refine ⟨id, Or.inl, Or.inl, Or.inl, fun h _ => ?_, fun _ => rfl, id, id, Or.inl⟩
    rw [hmutex] at h
    cases h
  | visit d rest =>
    exact ⟨id, Or.inl, Or.inl, Or.inl, fun h _ => h, fun _ => rfl, List.mem_append_right _, id,
      Or.inl⟩
  | unlock =>
    refine ⟨id, fun _ => Or.inr rfl, Or.inl, Or.inl, fun h hne => ?_, fun _ => rfl, id, id, Or.inl⟩
    obtain ⟨_, hmutex, _⟩ := hfits
    rw [hmutex] at h
    exact absurd (Option.some.inj h) hne

theorem spares_of_step (h : v.Sound) (hstep : Step i v g v' g') (hfits : Fits i v g) :
    Spares i v g v' := by
  cases hstep with
  | quiet => exact ⟨id, Or.inl, Or.inl, Or.inl, fun h _ => h, fun _ => rfl, id, id, Or.inl⟩
  | stop hstop => exact spares_stopStep hstop hfits.stop
  | accept hfree hnew =>
    refine ⟨id, Or.inl, ?_, ?_, fun h _ => h, fun _ => rfl, id, id, ?_⟩
    · intro id' d' owner hid
      have hlt := (List.getElem?_eq_some_iff.mp hid).1
      exact Or.inl ((List.getElem?_append_left hlt).trans hid)
    · intro id' d' hid
      rcases getElem?_snoc hid with hold | ⟨_, hentry⟩
      · exact Or.inl hold
      · cases hentry
    · intro d' hlistener
      exact Or.inl (find?_emplace_of_some _ hnew hlistener)
  | launch hheld =>
    obtain ⟨hid, _, _⟩ := hfits.held hheld
    exact ⟨id, Or.inl, give_entry hheld _, fun h => Or.inl (registered_of_give hid (by decide) h),
      fun h _ => h, fun _ => rfl, id, id, Or.inl⟩
  | @begin g id' d hfree howner =>
    refine ⟨id, Or.inl, ?_, fun h => Or.inl (registered_of_give howner (by decide) h),
      fun h _ => h, fun _ => rfl, id, id, Or.inl⟩
    intro id'' d'' owner hid
    by_cases heq : id' = id''
    · subst heq
      rw [howner] at hid
      cases hid
      exact Or.inr (Or.inr rfl)
    · exact Or.inl ((give_of_ne _ heq).trans hid)
  | register hmutex hheld | unregister hmutex hheld =>
    refine ⟨id, Or.inl, give_entry hheld _, fun _ => Or.inr hmutex, fun h _ => h, fun h => ?_, id,
      id, Or.inl⟩
    rw [hmutex] at h
    cases h
  | close hheld howner hstop =>
    obtain ⟨hid, _, hnobody⟩ := hfits.held hheld
    refine ⟨id, Or.inl, give_entry hheld _,
      fun h => Or.inl (registered_of_give hid (by decide) h), fun h _ => h, fun _ => rfl, id, id,
      fun hlistener => Or.inl ?_⟩
    exact find?_erase_of_ne (h.opened hid hnobody) hlistener (by rintro ⟨⟩)
  | openFile hfree hnew =>
    exact ⟨id, Or.inl, Or.inl, Or.inl, fun h _ => h, fun _ => rfl, id, id,
      fun hlistener => Or.inl (find?_emplace_of_some _ hnew hlistener)⟩
  | closeFile hfree hopen =>
    exact ⟨id, Or.inl, Or.inl, Or.inl, fun h _ => h, fun _ => rfl, id, id,
      fun hlistener => Or.inl (find?_erase_of_ne hopen hlistener (by rintro ⟨⟩))⟩

theorem StopFits.other (hspares : Spares i v g v') {stage : StopStage} (hfits : StopFits j v stage)
    (hne : i ≠ j) (hfirst : g.stop.first = true → stage.first = true → False) :
    StopFits j v' stage := by
  have hsame : stage.first = true → v.stopping = true ∧ v.walked = false →
      v'.stopping = true ∧ v'.walked = false := by
    intro hstage hbefore
    refine ⟨hspares.stopping hbefore.1, ?_⟩
    by_contra hwalked
    rcases hspares.walked (Bool.eq_true_of_not_eq_false hwalked) with hold | hstop
    · rw [hbefore.2] at hold
      cases hold
    · exact hfirst (by rw [hstop]; rfl) hstage
  cases stage with
  | entered | returned => trivial
  | claimed | locking => exact hsame rfl hfits
  | closing d =>
    obtain ⟨hbefore, htaken, hfile⟩ := hfits
    refine ⟨hsame rfl hbefore, hspares.taken htaken, ?_⟩
    rcases hspares.listener hfile with hkept | hstop
    · exact hkept
    · exact (hfirst (by rw [hstop]; rfl) rfl).elim
  | walking rest =>
    obtain ⟨hbefore, hmutex, hkeys, hall⟩ := hfits
    refine ⟨hsame rfl hbefore, hspares.mutex hmutex hne, ?_, ?_⟩
    · rw [hspares.keys hmutex]
      exact hkeys
    · intro id d hid
      rcases hspares.registered hid with hold | hnone
      · exact (hall hold).imp_right hspares.interrupted
      · rw [hmutex] at hnone
        cases hnone

theorem Fits.other (hfits : Fits i v g) (hstep : Spares i v g v') (hother : Fits j v m)
    (happart : Apart g m) (hne : i ≠ j) : Fits j v' m := by
  refine ⟨?_, hother.stop.other hstep hne happart.stop, ?_⟩
  · intro connection owner hheld
    obtain ⟨hid, hclosure, hnobody⟩ := hother.held hheld
    rcases hstep.entry hid with hsame | ⟨connection', owner', hheld', heq⟩ | heq
    · exact ⟨hsame, hclosure, hnobody⟩
    · exact absurd heq (happart.held hheld' hheld)
    · exact absurd heq hclosure
  · intro hturn
    obtain ⟨connection, hheld, hinterrupted⟩ := hother.turn hturn
    refine ⟨connection, hheld, fun hwalked => hstep.interrupted ?_⟩
    rcases hstep.walked hwalked with hbefore | hstop
    · exact hinterrupted hbefore
    · -- the walk is over, and it has met every registered handler
      have hstopFits := hfits.stop
      rw [hstop] at hstopFits
      obtain ⟨_, _, _, hall⟩ := hstopFits
      rcases hall (hother.held hheld).1 with hmem | hdone
      · cases hmem
      · exact hdone

theorem Apart.step (hstep : Step i v g v' g') (hother : Fits j v m) (happart : Apart g m) :
    Apart g' m := by
  cases hstep with
  | quiet hheld hstop hturn =>
    refine ⟨fun hconnection => happart.held (hheld ▸ hconnection), fun hfirst => ?_⟩
    rw [hstop] at hfirst
    cases hfirst
  | stop hstop =>
    refine ⟨happart.held, ?_⟩
    cases hstop with
    | late | unlock => rintro ⟨⟩
    | claim hstopping =>
      intro _ hfirst
      have hbefore : v.stopping = true := by
        have hfits := hother.stop
        cases hm : m.stop with
        | entered | returned =>
          rw [hm] at hfirst
          cases hfirst
        | claimed | locking =>
          rw [hm] at hfits
          exact hfits.1
        | closing d | walking rest =>
          rw [hm] at hfits
          exact hfits.1.1
      rw [hbefore] at hstopping
      cases hstopping
    | take | bare | close | lock | visit => exact fun _ => happart.stop rfl
  | accept hfree hnew =>
    refine ⟨?_, by rintro ⟨⟩⟩
    rintro connection connection' owner owner' ⟨⟩ hheld' heq
    have hlt := (List.getElem?_eq_some_iff.mp (hother.held hheld').1).1
    rw [← heq] at hlt
    exact absurd hlt (Nat.lt_irrefl _)
  | launch | openFile | closeFile =>
    exact ⟨by rintro connection connection' owner owner' ⟨⟩, by rintro ⟨⟩⟩
  | begin hfree howner =>
    refine ⟨?_, by rintro ⟨⟩⟩
    rintro connection connection' owner owner' ⟨⟩ hheld' heq
    obtain ⟨hid, hclosure, _⟩ := hother.held hheld'
    rw [← heq, howner] at hid
    cases hid
    exact hclosure rfl
  | register hmutex hheld | unregister hmutex hheld =>
    refine ⟨?_, by rintro ⟨⟩⟩
    rintro connection connection' owner owner' ⟨⟩ hheld'
    exact happart.held hheld hheld'
  | close hheld howner hstop =>
    refine ⟨by rintro connection connection' owner owner' ⟨⟩, fun hfirst => ?_⟩
    rw [hstop] at hfirst
    cases hfirst

/-- A registered handler before or after a step of a thread is the handler of the other moment,
unless it is that thread's own. -/
theorem registered_step (hstep : Step i v g v' g') (hfits : Fits i v g)
    {connection : UniqueDescriptor}
    (hid : v'.owners[connection.id]? = some (connection.descriptor, .registered)) :
    g'.held = some (connection, .registered) ∨
      v.owners[connection.id]? = some (connection.descriptor, .registered) ∧
        g.held ≠ some (connection, .registered) := by
  cases hstep with
  | quiet hheld hstop hturn =>
    by_cases hown : g.held = some (connection, .registered)
    · exact Or.inl (hheld.trans hown)
    · exact Or.inr ⟨hid, hown⟩
  | @stop held stage stage' _ hstop =>
    have hsame : v.owners[connection.id]? = some (connection.descriptor, .registered) := by
      cases hstop <;> exact hid
    by_cases hown : held = some (connection, .registered)
    · exact Or.inl hown
    · exact Or.inr ⟨hsame, hown⟩
  | accept hfree hnew =>
    refine Or.inr ⟨?_, by rw [hfree]; rintro ⟨⟩⟩
    rcases getElem?_snoc hid with hold | ⟨_, hentry⟩
    · exact hold
    · cases hentry
  | launch hheld =>
    have hold := registered_of_give (hfits.held hheld).1 (by decide) hid
    exact Or.inr ⟨hold, by rw [hheld]; rintro ⟨⟩⟩
  | begin hfree howner =>
    have hold := registered_of_give howner (by decide) hid
    exact Or.inr ⟨hold, by rw [hfree]; rintro ⟨⟩⟩
  | @register g own hmutex hheld =>
    rcases (registered_give_iff (hfits.held hheld).1).mp hid with ⟨heq, hd, _⟩ | ⟨hne, hold⟩
    · have hown : own = connection := by
        cases own
        cases connection
        cases heq
        cases hd
        rfl
      exact Or.inl (by rw [hown])
    · exact Or.inr ⟨hold, by rw [hheld]; rintro ⟨⟩⟩
  | @unregister g own hmutex hheld =>
    rcases (registered_give_iff (hfits.held hheld).1).mp hid with ⟨_, _, hhandler⟩ | ⟨hne, hold⟩
    · cases hhandler
    · refine Or.inr ⟨hold, ?_⟩
      rw [hheld]
      rintro ⟨⟩
      exact hne rfl
  | close hheld howner hstop =>
    have hold := registered_of_give (hfits.held hheld).1 (by decide) hid
    refine Or.inr ⟨hold, ?_⟩
    rw [hheld]
    rintro ⟨⟩
    exact howner rfl
  | openFile hfree hnew => exact Or.inr ⟨hid, by rw [hfree]; rintro ⟨⟩⟩
  | closeFile hfree hopen => exact Or.inr ⟨hid, by rw [hfree]; rintro ⟨⟩⟩

end Inventory

/-! ## Every configuration -/

def outline : Outline Impl Thread where
  shared s := s.inventory.Sound
  thread i s l := Inventory.Fits i s.inventory l.grip
  pair l m := Inventory.Apart l.grip m.grip

theorem outline_initial (listener : Nat) (maximum : UInt32) :
    outline.Holds (initial listener maximum) := by
  refine .singleton ⟨?_, ?_, ?_, ?_, ?_⟩ ⟨by rintro connection owner ⟨⟩, trivial, by rintro ⟨⟩⟩
  · rintro id d owner ⟨⟩
  · intro d
    exact ⟨by rintro ⟨⟩, by rintro ⟨id, ⟨⟩⟩⟩
  · rintro d ⟨⟩
    show (OrderedMap.empty.emplace listener File.listener).1.find? listener = _
    rw [OrderedMap.find?_emplace _ (OrderedMap.find?_empty _), if_pos rfl]
  · rintro ⟨⟩
  · rintro ⟨⟩

variable [Kernel]

theorem preserves_outline : server.Preserves (fun _ => True) (fun _ => True) outline where
  symm h := ⟨fun hheld hheld' => (h.held hheld' hheld).symm, fun hstop hstop' =>
    h.stop hstop' hstop⟩
  start request _ _ := by
    cases request <;> exact ⟨by rintro connection owner ⟨⟩, trivial, by rintro ⟨⟩⟩
  start_pair request l := by
    cases request <;>
      exact ⟨by rintro connection connection' owner owner' ⟨⟩, by rintro ⟨⟩⟩
  own _ hmoves _ hc := by
    have hstep := step_of_moves hmoves
    have hfits := hc.thread hmoves.thread
    exact ⟨hc.shared.step hstep hfits, hfits.own hc.shared hstep⟩
  other _ hmoves _ hc hne hj := by
    have hstep := step_of_moves hmoves
    have hfits := hc.thread hmoves.thread
    have happart := hc.pair hne hmoves.thread hj
    have hspares := Inventory.spares_of_step hc.shared hstep hfits
    exact ⟨hfits.other hspares (hc.thread hj) happart hne, happart.step hstep (hc.thread hj)⟩

variable {listener : Nat} {maximum : UInt32} {c : Config Impl Thread}

theorem holds_outline (h : Reachable listener maximum c) : outline.Holds c :=
  preserves_outline.holds (fun _ => trivial) (outline_initial listener maximum) h

/-- Thread `i` is the handler of a connection, between its registration and its `erase`. -/
def Registered (c : Config Impl Thread) (i : Nat) (connection : UniqueDescriptor) : Prop :=
  ∃ handler stage, c.threads[i]? = some (.handler ⟨connection, handler, stage⟩) ∧
    stage.owner = some .registered

omit [Kernel] in
/-- Only handlers are registered. -/
theorem registered_iff {i : Nat} {connection : UniqueDescriptor} :
    Registered c i connection ↔
      ∃ l, c.threads[i]? = some l ∧ l.grip.held = some (connection, .registered) := by
  constructor
  · rintro ⟨handler, stage, hl, hstage⟩
    refine ⟨_, hl, ?_⟩
    show stage.owner.map (fun owner => (connection, owner)) = _
    rw [hstage]
    rfl
  · rintro ⟨l, hl, hheld⟩
    cases l with
    | run stage | destroy stage =>
      obtain ⟨_, _, heq⟩ := Option.map_eq_some_iff.mp hheld
      cases heq
    | handler thread =>
      obtain ⟨_, hstage, heq⟩ := Option.map_eq_some_iff.mp hheld
      cases heq
      exact ⟨thread.handler, thread.stage, hl, hstage⟩
    | launched id | stop stage | elsewhere => cases hheld

/-- A registered connection has a live handler. -/
theorem exists_registered (h : Reachable listener maximum c) (connection : UniqueDescriptor)
    (hid : c.shared.inventory.owners[connection.id]? = some (connection.descriptor, .registered)) :
    ∃ i, Registered c i connection := by
  have hcovered : Program.Covered
      (fun (s : Impl) (connection : UniqueDescriptor) =>
        s.inventory.owners[connection.id]? = some (connection.descriptor, .registered))
      (fun _ _ => False)
      (fun (l : Thread) connection => l.grip.held = some (connection, .registered))
      c := by
    refine Program.Leads.covered h (fun hleads _ hmoves x hx => Or.inr ?_) ?_
    · have hstep := Inventory.registered_step (step_of_moves hmoves)
        ((holds_outline hleads).thread hmoves.thread) hx
      exact hstep.imp_right fun hold => ⟨hold.1, id, hold.2⟩
    · rintro x ⟨⟩
  obtain ⟨l, hl, hheld⟩ := (hcovered connection hid).resolve_left id
  obtain ⟨i, hi⟩ := List.getElem?_of_mem hl
  exact ⟨i, registered_iff.mpr ⟨l, hi, hheld⟩⟩

/-- A key is the number of an open connection with a live registered handler. -/
theorem key_registered (h : Reachable listener maximum c) {d : Nat}
    (hd : (c.shared.activeConnections.find? d).isSome) :
    ∃ id i, c.shared.descriptors.find? d = some (.connection id) ∧ Registered c i ⟨id, d⟩ := by
  have hsound : c.shared.inventory.Sound := (holds_outline h).shared
  obtain ⟨id, hid⟩ := hsound.keyed.mp hd
  obtain ⟨i, hi⟩ := exists_registered h ⟨id, d⟩ hid
  exact ⟨id, i, hsound.opened hid (by decide), hi⟩

/-- A number has one registered handler. -/
theorem registered_unique (h : Reachable listener maximum c) {i j id id' d : Nat}
    (hi : Registered c i ⟨id, d⟩) (hj : Registered c j ⟨id', d⟩) : i = j := by
  obtain ⟨l, hl, hheld⟩ := registered_iff.mp hi
  obtain ⟨m, hm, hheld'⟩ := registered_iff.mp hj
  have hc := holds_outline h
  have hentry := ((hc.thread hl).held hheld).1
  have hentry' := ((hc.thread hm).held hheld').1
  have hsound : c.shared.inventory.Sound := hc.shared
  have heq : id = id' := hsound.id_eq hentry (by decide) hentry' (by decide)
  by_contra hne
  exact (hc.pair hne hl hm).held hheld hheld' heq

/-- No step sets `stopping` back, and with it set no handler comes into the loop. -/
theorem stopping_stays {i : Nat} {l l' : Thread} {choice : Choice} {s' : Impl}
    (hmoves : server.Moves c i l choice s' l') (hstopping : c.shared.stopping = true)
    (h : Reachable listener maximum c) :
    s'.stopping = true ∧ ∀ connection handler, l' ≠ .handler ⟨connection, handler, .serving⟩ := by
  have hc := holds_outline h
  have hspares :=
    Inventory.spares_of_step hc.shared (step_of_moves hmoves) (hc.thread hmoves.thread)
  refine ⟨hspares.stopping hstopping, ?_⟩
  rintro connection handler rfl
  cases threadMove hmoves with
  | handler hmove =>
    cases hmove with
    | advance hadvance =>
      cases hadvance with
      | serves hflag =>
        rw [hstopping] at hflag
        cases hflag

/-- `stop()` interrupts every connection and nothing else. In every configuration that an
interleaving of accepts, handlers and calls of `stop()` can reach:

each key of `active_connections` is an open number, and one live handler is registered with it; a
handler that is about to register has a number that is not yet a key; what the walk and the close
of the listener are about to shut down is such a key and the listener, so nothing else was ever
shut down; a registered handler is a key, so that a walk still has it before it or has interrupted
it; when the walk is over, a registered handler was interrupted, or it is in front of a test of
`stopping` that it will find set, and one inside of the loop was interrupted; the flag stays set,
and with it no handler comes into the loop. -/
theorem stop_interrupts (h : Reachable listener maximum c) :
    (∀ d, (c.shared.activeConnections.find? d).isSome →
      ∃ id i, c.shared.descriptors.find? d = some (.connection id) ∧ Registered c i ⟨id, d⟩ ∧
        ∀ j id', Registered c j ⟨id', d⟩ → i = j) ∧
    (∀ connection handler, .handler ⟨connection, handler, .registering⟩ ∈ c.threads →
      c.shared.activeConnections.find? connection.descriptor = none) ∧
    (∀ l ∈ c.threads,
      (∀ d rest, l.grip.stop = .walking (d :: rest) →
        ∃ id i, c.shared.descriptors.find? d = some (.connection id) ∧ Registered c i ⟨id, d⟩) ∧
      (∀ d, l.grip.stop = .closing d → c.shared.descriptors.find? d = some .listener)) ∧
    .other ∉ c.shared.interrupted ∧
    (∀ i connection, Registered c i connection →
      (c.shared.activeConnections.find? connection.descriptor).isSome ∧
      (∀ l ∈ c.threads, ∀ rest, l.grip.stop = .walking rest →
        connection.descriptor ∈ rest ∨ .connection connection.id ∈ c.shared.interrupted) ∧
      (c.shared.walked = true → .connection connection.id ∈ c.shared.interrupted ∨
        c.shared.stopping = true ∧
          ∀ handler, c.threads[i]? ≠ some (.handler ⟨connection, handler, .serving⟩))) ∧
    (c.shared.walked = true → ∀ connection handler,
      .handler ⟨connection, handler, .serving⟩ ∈ c.threads →
        .connection connection.id ∈ c.shared.interrupted) ∧
    (c.shared.stopping = true → ∀ i l choice s' l', server.Moves c i l choice s' l' →
      s'.stopping = true ∧
        ∀ connection handler, l' ≠ .handler ⟨connection, handler, .serving⟩) := by
  have hc := holds_outline h
  have hsound : c.shared.inventory.Sound := hc.shared
  have hthread : ∀ {l}, l ∈ c.threads → ∃ i, Inventory.Fits i c.shared.inventory l.grip := by
    intro l hl
    obtain ⟨i, hi⟩ := List.getElem?_of_mem hl
    exact ⟨i, hc.thread hi⟩
  have hserving : c.shared.walked = true → ∀ connection handler,
      .handler ⟨connection, handler, .serving⟩ ∈ c.threads →
        .connection connection.id ∈ c.shared.interrupted := by
    intro hwalked connection handler hl
    obtain ⟨i, hfits⟩ := hthread hl
    obtain ⟨_, hheld, hinterrupted⟩ := hfits.turn rfl
    cases hheld
    exact hinterrupted hwalked
  refine ⟨?_, ?_, ?_, hsound.own, ?_, hserving, ?_⟩
  · intro d hd
    obtain ⟨id, i, hopen, hi⟩ := key_registered h hd
    exact ⟨id, i, hopen, hi, fun j id' hj => registered_unique h hi hj⟩
  · intro connection handler hl
    obtain ⟨i, hfits⟩ := hthread hl
    exact hsound.unregistered (hfits.held rfl).1 (by decide) (by decide)
  · intro l hl
    obtain ⟨i, hfits⟩ := hthread hl
    have hstop := hfits.stop
    refine ⟨fun d rest hwalking => ?_, fun d hclosing => ?_⟩
    · rw [hwalking] at hstop
      obtain ⟨_, _, hkeys, _⟩ := hstop
      exact key_registered h (hkeys d List.mem_cons_self)
    · rw [hclosing] at hstop
      exact hstop.2.2
  · intro i connection hi
    obtain ⟨l, hl, hheld⟩ := registered_iff.mp hi
    have hentry := ((hc.thread hl).held hheld).1
    refine ⟨hsound.keyed.mpr ⟨_, hentry⟩, ?_, ?_⟩
    · intro m hm rest hwalking
      obtain ⟨j, hfits⟩ := hthread hm
      have hstop := hfits.stop
      rw [hwalking] at hstop
      exact hstop.2.2.2 hentry
    · intro hwalked
      by_cases hinterrupted : File.connection connection.id ∈ c.shared.interrupted
      · exact Or.inl hinterrupted
      · refine Or.inr ⟨hsound.walked hwalked, fun handler hloop => hinterrupted ?_⟩
        exact hserving hwalked connection handler (List.mem_of_getElem? hloop)
  · intro hstopping i l choice s' l' hmoves
    exact stopping_stays hmoves hstopping h

/-- A handler is registered and reads when another thread calls `stop()`. -/
def interruptedRun : List (Act Choice Call) :=
  [.move 0 .go, .move 0 .go, .move 0 .go, .move 0 (.accept 5 (.accepted [] [] [])), .move 0 .go,
    .move 0 .go, .move 0 .go, .move 0 .go, .move 0 .go, .move 0 .go, .spawn (.handler 0),
    .move 1 .go, .move 1 (.enter .plain), .move 1 .go, .move 1 .go, .spawn .stop, .move 2 .go,
    .move 2 .go, .move 2 .go, .move 2 .go, .move 2 .go, .move 2 .go]

omit [Kernel] in
theorem stop_interrupts_reader :
    letI := sampleKernel
    ∃ c, Reachable 3 1 c ∧ c.shared.walked = true ∧
      .handler ⟨⟨0, 5⟩, .accepted [] [] [], .serving⟩ ∈ c.threads ∧
        .connection 0 ∈ c.shared.interrupted := by
  let _ : Kernel := sampleKernel
  have hrun : ∃ c, server.run (initial 3 1) interruptedRun = some c ∧ c.shared.walked = true ∧
      .handler ⟨⟨0, 5⟩, .accepted [] [] [], .serving⟩ ∈ c.threads := by
    refine ⟨_, rfl, rfl, ?_⟩
    exact List.mem_cons_of_mem _ List.mem_cons_self
  obtain ⟨c, hrun, hwalked, hserving⟩ := hrun
  have hreachable : Reachable 3 1 c := by
    refine ⟨interruptedRun, ?_, hrun⟩
    intro act _
    cases act <;> trivial
  obtain ⟨_, _, _, _, _, hinterrupted, _⟩ := stop_interrupts hreachable
  exact ⟨c, hreachable, hwalked, hserving, hinterrupted hwalked _ _ hserving⟩

end PhotospiderDaemon.Server.Connections
